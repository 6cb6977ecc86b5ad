import FileSieve.Proofs.Criteria.Inside
import FileSieve.Proofs.Disk.Spelling

namespace FileSieve

theorem prefix_at_mark {α : Type} {mark : α} {front back before behind : List α} (plain : mark ∉ front)
    (unmarked : mark ∉ before) (marked : behind = [] ∨ ∃ rest, behind = mark :: rest)
    (starts : front ++ mark :: back <+: before ++ behind) : front = before ∧ mark :: back <+: behind := by
  induction front generalizing before with
  | nil =>
      cases before with
      | nil => exact ⟨rfl, starts⟩
      | cons first before =>
          obtain ⟨rfl, _⟩ := List.cons_prefix_cons.mp starts
          exact absurd List.mem_cons_self unmarked
  | cons first front ih =>
      rw [List.mem_cons, not_or] at plain
      cases before with
      | nil =>
          rcases marked with rfl | ⟨rest, rfl⟩
          · cases List.prefix_nil.mp starts
          · obtain ⟨rfl, _⟩ := List.cons_prefix_cons.mp starts
            exact absurd rfl plain.1
      | cons second before =>
          rw [List.mem_cons, not_or] at unmarked
          obtain ⟨rfl, rest⟩ := List.cons_prefix_cons.mp starts
          obtain ⟨rfl, further⟩ := ih plain.2 unmarked.2 rest
          exact ⟨rfl, further⟩

theorem Utf8.slash_not_mem {name : Bytes} (plain : Path.separator ∉ name) : '/' ∉ decodeLossy name := by
  intro member
  exact plain (mem_of_mem_decodeLossy '/' (by decide) (by decide) name member)

namespace PathText

theorem ofPath_separator (bytes : Bytes) : ofPath ⟨Path.separator :: bytes⟩ = '/' :: ofPath ⟨bytes⟩ :=
  ofPath_append_separator [] bytes

theorem normalize_plain {text : List Char} (plain : '\\' ∉ text) : normalize text = text := by
  have kept (c : Char) (member : c ∈ text) : (if c = '\\' then '/' else c) = id c := by
    refine if_neg ?_
    rintro rfl
    exact plain member
  rw [normalize, List.map_congr_left kept, List.map_id]

theorem ofPath_plain {name : Bytes} (plain : 0x5C ∉ name) : ofPath ⟨name⟩ = Utf8.decodeLossy name :=
  normalize_plain fun member => plain (Utf8.mem_of_mem_decodeLossy '\\' (by decide) (by decide) name member)

theorem ofPath_absolute (name : Bytes) (names : List Bytes)
    (proper : ∀ other ∈ name :: names, isFileName other = true) (plain : ∀ other ∈ name :: names, 0x5C ∉ other) :
    ofPath (Path.absolute (name :: names)) = (name :: names).flatMap ('/' :: Utf8.decodeLossy ·) := by
  have whole : Path.absolute (name :: names) = ⟨(name :: names).flatMap (Path.separator :: ·)⟩ :=
    congrArg Path.mk (Path.absolute_bytes name names proper)
  rw [whole]
  clear whole proper
  induction names generalizing name with
  | nil =>
      rw [List.flatMap_singleton, List.flatMap_singleton, ofPath_separator,
        ofPath_plain (plain name List.mem_cons_self)]
  | cons second names ih =>
      obtain ⟨first, others⟩ := List.forall_mem_cons.mp plain
      have rest := ih second others
      rw [List.flatMap_cons, List.cons_append, ofPath_separator] at rest
      rw [List.flatMap_cons, List.flatMap_cons, List.cons_append, ofPath_separator, List.cons_append,
        ofPath_append_separator, rest, ofPath_plain first]
      rfl

end PathText

section

variable {name : Bytes} {piece : List Char}
  (same : piece.map Char.toLower = (Utf8.decodeLossy name).map Char.toLower)

include same

theorem foldedName_encode : foldedName name = foldedName (Utf8.encode piece) := by
  rw [foldedName, foldedName, Utf8.decodeLossy_encode]
  exact (Unicode.lowercase_congr _ _ same).symm

theorem eq_of_dots {dots : List Char} (dotted : ∀ c ∈ dots, c = '.')
    (spelled : Utf8.encode piece = Utf8.encode dots) : name = Utf8.encode dots := by
  have text := congrArg Utf8.decodeLossy spelled
  rw [Utf8.decodeLossy_encode, Utf8.decodeLossy_encode] at text
  subst text
  have lowered : piece.map Char.toLower = piece.map id := by
    apply List.map_congr_left
    intro c member
    rw [dotted c member]
    decide
  have kept : (Utf8.decodeLossy name).map Char.toLower = (Utf8.decodeLossy name).map id := by
    apply List.map_congr_left
    intro c member
    have among : c.toLower ∈ piece := by
      rw [← List.map_id piece, ← lowered, same]
      exact List.mem_map_of_mem member
    rw [Ascii.eq_of_toLower c '.' (dotted _ among) rfl]
    decide
  rw [lowered, kept, List.map_id, List.map_id] at same
  refine Utf8.eq_encode_of_decodeLossy piece ?_ name same.symm
  intro c member
  rw [dotted c member]
  decide

theorem isFileName_encode (proper : isFileName name = true) (plain : '/' ∉ piece) :
    isFileName (Utf8.encode piece) = true := by
  have other (dots : List Char) (dotted : ∀ c ∈ dots, c = '.') (differs : name ≠ Utf8.encode dots) :
      Utf8.encode piece ≠ Utf8.encode dots :=
    fun spelled => differs (eq_of_dots same dotted spelled)
  have separate : Path.separator ∉ Utf8.encode piece :=
    fun member => plain (Utf8.mem_of_ascii_mem_encode piece Path.separator (by decide) member)
  simp only [isFileName, Bool.and_eq_true, bne_iff_ne] at proper
  simp only [isFileName, Bool.and_eq_true, bne_iff_ne]
  refine ⟨⟨(isName_iff _).mpr ⟨?_, separate⟩, ?_⟩, ?_⟩
  · exact other [] (by simp) ((isName_iff name).mp proper.1.1).1
  · exact other ['.'] (by simp) proper.1.2
  · exact other ['.', '.'] (by simp) proper.2

end

theorem slash_not_mem_toLower {text : List Char} (plain : '/' ∉ text) : '/' ∉ text.map Char.toLower := by
  intro member
  obtain ⟨c, among, lowered⟩ := List.mem_map.mp member
  rw [Ascii.eq_of_toLower c '/' lowered rfl] at among
  exact plain among

theorem follows_of_starts {root : List Char} {names : List Bytes} {here last : Entry}
    (proper : ∀ name ∈ names, isFileName name = true) (closed : ('/' :: root).getLast? = some '/')
    (starts : ('/' :: root).map Char.toLower <+: (names.flatMap ('/' :: Utf8.decodeLossy ·)).map Char.toLower)
    (there : here.at? names = some last)
    (alone : Unrivalled (Path.componentsBehind (Utf8.encode root)) names here) :
    Follows (Path.componentsBehind (Utf8.encode root)) here names := by
  induction names generalizing root here with
  | nil => cases List.prefix_nil.mp starts
  | cons name names ih =>
      obtain ⟨properFirst, properOthers⟩ := List.forall_mem_cons.mp proper
      have plainFirst := ((isName_iff name).mp (isName_of_isFileName name properFirst)).2
      have unmarked := slash_not_mem_toLower (Utf8.slash_not_mem plainFirst)
      -- What follows the name starts with a separator, so the first piece of the root ends where the name does.
      have marked : (names.flatMap ('/' :: Utf8.decodeLossy ·)).map Char.toLower = [] ∨
          ∃ rest, (names.flatMap ('/' :: Utf8.decodeLossy ·)).map Char.toLower = '/' :: rest := by
        cases names with
        | nil => exact .inl rfl
        | cons second names => exact .inr ⟨_, rfl⟩
      cases root with
      | nil => exact .inside here name names
      | cons c root =>
          have slash : '/' ∈ c :: root := by
            rw [List.getLast?_cons_cons] at closed
            exact List.mem_of_getLast? closed
          obtain ⟨piece, rest, split, plain⟩ := List.eq_append_cons_of_mem slash
          rw [split] at closed starts alone ⊢
          rw [List.flatMap_cons, List.cons_append, List.map_cons, List.map_cons, List.cons_prefix_cons,
            List.map_append, List.map_append, List.map_cons] at starts
          obtain ⟨same, further⟩ := prefix_at_mark (slash_not_mem_toLower plain) unmarked marked starts.2
          have wanted := isFileName_encode same properFirst plain
          have components : Path.componentsBehind (Utf8.encode (piece ++ '/' :: rest)) =
              .name (Utf8.encode piece) :: Path.componentsBehind (Utf8.encode rest) := by
            have mark : String.utf8EncodeChar '/' = [Path.separator] := by decide
            rw [Utf8.encode_append, Utf8.encode_cons, mark]
            exact Path.componentsBehind_append _ _ wanted
          obtain ⟨outer, stat, entries, inner, rfl, found, reached⟩ := Entry.at?_cons there
          rw [components] at alone ⊢
          have closedRest : ('/' :: rest).getLast? = some '/' := by
            have ends := List.getLast?_eq_some_getLast (List.cons_ne_nil '/' rest)
            rwa [← List.cons_append, List.getLast?_append, ends, Option.some_or, ← ends] at closed
          refine .deeper _ name _ outer stat entries inner names ?_ found ?_
          · exact .of_unrivalled found alone.1 (foldedName_encode same)
          · exact ih properOthers closedRest further reached (alone.2 inner found)

namespace PathPattern

theorem root?_isAbsolute (pattern : PathPattern) (read : pattern.IsRead) (directory : Path)
    (rooted : pattern.root? = some directory) (path : Path) (anchored : path.isAbsolute = true)
    (matched : pattern.matches path = true) : directory.isAbsolute = true := by
  obtain ⟨root, given, rfl⟩ := Option.map_eq_some_iff.mp rooted
  obtain ⟨literal, rfl, starts⟩ := pattern.literal_of_matches read root given path matched
  obtain ⟨bytes⟩ := path
  obtain ⟨rest, rfl⟩ := List.head?_eq_some_iff.mp (beq_iff_eq.mp anchored)
  cases literal with
  | nil => rfl
  | cons c literal =>
      rw [PathText.ofPath_separator, List.cons_append, List.map_cons, List.map_cons, List.cons_prefix_cons] at starts
      cases Ascii.eq_of_toLower c '/' starts.1 rfl
      rfl

/-- The names of what a rooted pattern matches are those that are taken for its root, if there is no choice. -/
theorem follows_of_matches (pattern : PathPattern) (read : pattern.IsRead) (directory : Path)
    (rooted : pattern.root? = some directory) {names : List Bytes} {top last : Entry} (inhabited : names ≠ [])
    (proper : ∀ name ∈ names, isFileName name = true) (plain : ∀ name ∈ names, 0x5C ∉ name)
    (there : top.at? names = some last) (alone : Unrivalled directory.components.tail names top)
    (matched : pattern.matches (Path.absolute names) = true) : Follows directory.components.tail top names := by
  obtain ⟨root, given, rfl⟩ := Option.map_eq_some_iff.mp rooted
  obtain ⟨literal, split, starts⟩ := pattern.literal_of_matches read root given _ matched
  have closed : root.getLast? = some '/' := by rw [split, List.getLast?_concat]
  rw [← split] at starts
  obtain ⟨name, names, rfl⟩ := List.exists_cons_of_ne_nil inhabited
  rw [PathText.ofPath_absolute name names proper plain] at starts
  cases root with
  | nil => cases closed
  | cons c root =>
      have slash : c = '/' := by
        rw [List.flatMap_cons, List.cons_append, List.map_cons, List.map_cons, List.cons_prefix_cons] at starts
        exact Ascii.eq_of_toLower c '/' starts.1 rfl
      subst c
      have components : Path.components ⟨Utf8.encode ('/' :: root)⟩ =
          .root :: Path.componentsBehind (Utf8.encode root) :=
        Path.components_absolute (Utf8.encode root)
      rw [components, List.tail_cons] at alone ⊢
      exact follows_of_starts proper closed starts there alone

end PathPattern

end FileSieve
