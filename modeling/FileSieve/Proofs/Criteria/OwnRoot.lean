import FileSieve.Proofs.Criteria.Bounds
import FileSieve.Proofs.Criteria.RootedNames
import FileSieve.Proofs.Path.Plain
import Mathlib.Data.List.Flatten

/-! A pattern and its own root. The root is a path, of which the components count, while the decision compares the
text of keys. A plainly spelled root is entered, and so is what is spelled plainly inside it. Any other root is longer
than what its components spell, so a directory inside it is pruned, and that may be the root itself. -/

namespace FileSieve

theorem filter_eq_self_of_length_le {α β : Type} {keeps : α → Bool} {spell : α → List β}
    (inhabited : ∀ a, spell a ≠ []) {list : List α}
    (longer : (list.flatMap spell).length ≤ ((list.filter keeps).flatMap spell).length) :
    list.filter keeps = list := by
  induction list with
  | nil => rfl
  | cons a list ih =>
      cases kept : keeps a with
      | true =>
          rw [List.filter_cons_of_pos kept, List.flatMap_cons, List.flatMap_cons, List.length_append,
            List.length_append] at longer
          rw [List.filter_cons_of_pos kept, ih (Nat.le_of_add_le_add_left longer)]
      | false =>
          have dropped : ¬ keeps a = true := by simp [kept]
          have shorter := (List.Sublist.flatMap (List.filter_sublist (p := keeps) (l := list)) spell).length_le
          have spelled := List.length_pos_of_ne_nil (inhabited a)
          rw [List.filter_cons_of_neg dropped, List.flatMap_cons, List.length_append] at longer
          omega

namespace PathText

theorem backslash_not_mem_normalize (text : List Char) : '\\' ∉ normalize text := by
  intro member
  obtain ⟨c, _, same⟩ := List.mem_map.mp member
  split at same
  · cases same
  · rename_i other
    exact other same

theorem backslash_not_mem_absolute (base : Path) {text : List Char} (plain : '\\' ∉ text) :
    '\\' ∉ absolute base text := by
  rw [absolute]
  split
  · exact plain
  · rw [List.mem_append, List.mem_cons, not_or, not_or]
    refine ⟨?_, by decide, ?_⟩
    · rw [dropFinalSeparators, List.mem_reverse]
      intro member
      have among := (List.dropWhile_suffix _).subset member
      exact backslash_not_mem_normalize _ (List.mem_reverse.mp among)
    · unfold dropCurrent
      split
      · exact fun member => plain (List.mem_cons_of_mem _ (List.mem_cons_of_mem _ member))
      · exact plain

def pieceKey (piece : Bytes) : List Char := Unicode.lowercase (ofPath ⟨piece⟩) ++ ['/']

theorem lowercase_closeAll (pieces : List Bytes) (back : Bytes) :
    Unicode.lowercase (ofPath ⟨Path.closeAll pieces ++ back⟩) =
      pieces.flatMap pieceKey ++ Unicode.lowercase (ofPath ⟨back⟩) := by
  induction pieces with
  | nil => rfl
  | cons piece pieces ih =>
      rw [Path.closeAll_cons, List.append_assoc, List.cons_append, ofPath_append_separator,
        Unicode.lowercase_append_separator, ih, List.flatMap_cons, pieceKey, List.append_assoc, List.append_assoc]
      rfl

theorem lowercase_of_pieces {path : Path} {pieces : List Bytes} (whole : path.bytes = Path.closeAll pieces) :
    Unicode.lowercase (ofPath path) = pieces.flatMap pieceKey := by
  have key := lowercase_closeAll pieces []
  rw [List.append_nil, ← whole] at key
  exact key.trans (List.append_nil _)

theorem lowercase_ofPath_closed (front : Bytes) :
    Unicode.lowercase (ofPath ⟨front ++ [Path.separator]⟩) = Unicode.lowercase (ofPath ⟨front⟩) ++ ['/'] := by
  rw [ofPath_append_separator, Unicode.lowercase_append_separator]
  rfl

theorem comparable_of_prefix (front : Bytes) (directory : Path)
    (starts : front ++ [Path.separator] <+: directory.entrance) :
    directoryKey directory <+: Unicode.lowercase (ofPath ⟨front ++ [Path.separator]⟩) ∨
      Unicode.lowercase (ofPath ⟨front ++ [Path.separator]⟩) <+: directoryKey directory := by
  have split : front ++ [Path.separator] <+: directory.bytes ∨ front = directory.bytes := by
    rw [Path.entrance] at starts
    split at starts
    · exact .inl starts
    · rcases List.prefix_concat_iff.mp starts with same | inside
      · exact .inr (List.append_cancel_right same)
      · exact .inl inside
  rw [lowercase_ofPath_closed]
  obtain ⟨directory⟩ := directory
  rcases split with ⟨back, whole⟩ | rfl
  · right
    rw [List.append_assoc, List.singleton_append] at whole
    subst whole
    rw [directoryKey, ofPath_append_separator, Unicode.lowercase_append_separator]
    refine .trans ?_ (prefix_closed _)
    exact ⟨Unicode.lowercase (ofPath ⟨back⟩), by rw [List.append_assoc, List.singleton_append]⟩
  · left
    exact closed_prefix _ []

def longName (length : Nat) : Bytes := List.replicate length 0x78

theorem lowercaseFrom_replicate (behind : Bool) (length : Nat) :
    Unicode.lowercaseFrom behind (List.replicate length 'x') = List.replicate length 'x' := by
  have single : Unicode.lowerChar 'x' = ['x'] := by decide
  have noSigma : ('x' = 'Σ') = False := by decide
  induction length generalizing behind with
  | zero => rfl
  | succ length ih =>
      simp only [List.replicate_succ, Unicode.lowercaseFrom, noSigma, single, ih, ↓reduceIte, List.singleton_append]

theorem lowercase_longName (length : Nat) :
    Unicode.lowercase (ofPath ⟨longName length⟩) = List.replicate length 'x' := by
  have spelled : longName length = Utf8.encode (List.replicate length 'x') := by
    rw [Utf8.encode_ascii, List.map_replicate]
    · rfl
    · intro c member
      rw [List.eq_of_mem_replicate member]
      decide
  have plain : '\\' ∉ List.replicate length 'x' :=
    fun member => absurd (List.eq_of_mem_replicate member) (by decide)
  rw [spelled, ofPath, Path.chars, Utf8.decodeLossy_encode, normalize_plain plain]
  exact lowercaseFrom_replicate false length

theorem isFileName_longName (length : Nat) : isFileName (longName (length + 1)) = true := by
  have starts (name : Bytes) (same : longName (length + 1) = name) : name.head? = some 0x78 := by
    rw [← same]
    rfl
  have separate : Path.separator ∉ longName (length + 1) :=
    fun member => absurd (List.eq_of_mem_replicate member) (by decide)
  simp only [isFileName, Bool.and_eq_true, bne_iff_ne, isName_iff]
  refine ⟨⟨⟨?_, separate⟩, ?_⟩, ?_⟩ <;> exact fun same => absurd (starts _ same) (by decide)

theorem length_le_of_prefix {key front : List Char} {length : Nat} (closed : key.getLast? = some '/')
    (short : key.length ≤ front.length + length)
    (starts : key <+: front ++ (List.replicate length 'x' ++ ['/'])) : key.length ≤ front.length := by
  rcases Nat.le_total key.length front.length with le | longer
  · exact le
  · obtain ⟨behind, rfl⟩ := List.prefix_of_prefix_length_le (List.prefix_append front _) starts longer
    rw [List.prefix_append_right_inj] at starts
    rw [List.length_append] at short
    have within : behind <+: List.replicate length 'x' := by
      refine List.prefix_of_prefix_length_le starts (List.prefix_append _ _) ?_
      rw [List.length_replicate]
      exact Nat.le_of_add_le_add_left short
    cases last : behind.getLast? with
    | none =>
        have empty := List.getLast?_eq_none_iff.mp last
        exact Nat.le_of_eq (by rw [empty, List.append_nil])
    | some c =>
        rw [List.getLast?_append, last, Option.some_or] at closed
        have among := within.subset (List.mem_of_getLast? last)
        cases closed
        exact absurd (List.eq_of_mem_replicate among) (by decide)

end PathText

namespace PathPattern

variable {text : String} {base root : Path}

theorem ofText_root (rooted : (ofText text base).root? = some root) :
    (∃ front, root.bytes = front ++ [Path.separator]) ∧ (ofText text base).root = some (PathText.ofPath root) := by
  obtain ⟨chars, given, rfl⟩ := Option.map_eq_some_iff.mp rooted
  have used := given
  simp only [ofText] at used
  split at used
  · obtain ⟨literal, rest, rfl, target, -⟩ := literalRoot?_spec _ chars used
    have whole := PathText.backslash_not_mem_absolute base (PathText.backslash_not_mem_normalize text.toList)
    rw [target, List.mem_append, List.mem_cons, not_or, not_or] at whole
    have plain : '\\' ∉ literal ++ ['/'] := by
      rw [List.mem_append, not_or]
      exact ⟨whole.1, by decide⟩
    constructor
    · exact ⟨Utf8.encode literal, Utf8.encode_append literal ['/']⟩
    · rw [given, PathText.ofPath, Path.chars, Utf8.decodeLossy_encode, PathText.normalize_plain plain]
  · cases used

theorem enters_iff (rooted : (ofText text base).root? = some root) (directory : Path) :
    (ofText text base).decision directory = .enter ↔
      PathText.directoryKey directory <+: Unicode.lowercase (PathText.ofPath root) ∨
        Unicode.lowercase (PathText.ofPath root) <+: PathText.directoryKey directory := by
  have used := (ofText_root rooted).2
  have pruning : (ofText text base).pruning = true := rfl
  simp only [decision, pruning, used, ↓reduceIte]
  split
  · rename_i comparable
    simpa only [Bool.or_eq_true, List.isPrefixOf_iff_prefix, iff_true, true_iff] using comparable
  · rename_i apart
    simpa only [Bool.or_eq_true, List.isPrefixOf_iff_prefix, reduceCtorEq, false_iff] using apart

theorem enters_plain (rooted : (ofText text base).root? = some root) (plain : root.IsPlain) (directory : Path)
    (plainDirectory : directory.IsPlain) (starts : directory.startsWith root = true) :
    (ofText text base).decision directory = .enter := by
  obtain ⟨front, whole⟩ := (ofText_root rooted).1
  have closed : root.entrance = front ++ [Path.separator] := by
    rw [Path.entrance, whole, if_pos List.getLast?_concat]
  have inside := Path.entrance_prefix plainDirectory plain starts
  rw [closed] at inside
  obtain ⟨bytes⟩ := root
  subst whole
  exact (enters_iff rooted directory).mpr (PathText.comparable_of_prefix front directory inside)

theorem plain_of_enters (rooted : (ofText text base).root? = some root)
    (enters : ∀ directory : Path, directory.IsPlain → directory.startsWith root = true →
      (ofText text base).decision directory = .enter) : root.IsPlain := by
  obtain ⟨front, whole⟩ := (ofText_root rooted).1
  have inhabited : root.bytes ≠ [] := by simp [whole]
  have closed : root.entrance = root.bytes := by rw [Path.entrance, whole, if_pos List.getLast?_concat]
  obtain ⟨first, rest, -, pieces, -, spelled⟩ := root.exists_pieces inhabited
  have rootKey := PathText.lowercase_of_pieces (closed.symm.trans pieces)
  have last : (Unicode.lowercase (PathText.ofPath root)).getLast? = some '/' := by
    obtain ⟨bytes⟩ := root
    subst whole
    rw [PathText.lowercase_ofPath_closed, List.getLast?_concat]
  rw [rootKey] at last
  -- The directory with a name as long as the root's key: the key can only start its own in front of that name.
  generalize long : ((first :: rest).flatMap PathText.pieceKey).length = length at *
  have proper := PathText.isFileName_longName length
  have entered := enters (root.child (PathText.longName (length + 1)))
    (Path.child_isPlain inhabited proper) (Path.child_startsWith inhabited proper)
  have key : Unicode.lowercase (PathText.ofPath (root.child (PathText.longName (length + 1)))) =
      (first :: rest.filter Path.counts).flatMap PathText.pieceKey ++ List.replicate (length + 1) 'x' := by
    rw [Path.child, spelled, PathText.lowercase_closeAll, PathText.lowercase_longName]
  rw [enters_iff rooted, rootKey, PathText.directoryKey, key] at entered
  rcases entered with onWay | inside
  · have longer := ((PathText.prefix_closed _).trans onWay).length_le
    rw [List.length_append, List.length_replicate, long] at longer
    omega
  · have starts := inside.trans <| PathText.closed_prefix _ []
    rw [List.append_assoc] at starts
    have longer := PathText.length_le_of_prefix last (by omega) starts
    rw [List.flatMap_cons, List.flatMap_cons, List.length_append, List.length_append] at longer
    have kept : rest.filter Path.counts = rest :=
      filter_eq_self_of_length_le (fun _ => List.append_ne_nil_of_right_ne_nil _ (List.cons_ne_nil _ _))
        (Nat.le_of_add_le_add_left longer)
    rw [Path.IsPlain, pieces, spelled, kept]

/-- The directories inside its root are entered by a pattern whose root is spelled plainly, and by no other. -/
theorem enters_root_iff (text : String) (base root : Path) (rooted : (ofText text base).root? = some root) :
    (∀ directory : Path, directory.IsPlain → directory.startsWith root = true →
      (ofText text base).decision directory = .enter) ↔ root.IsPlain := by
  constructor
  · exact plain_of_enters rooted
  · exact enters_plain rooted

theorem enters_root_iff_old :
    (ofText "/data/logs/*" ⟨[]⟩).root? = some (.ofString "/data/logs/") ∧
      (ofText "/data/logs/*" ⟨[]⟩).decision (.ofString "/data/logs/old") = .enter := by
  have rooted : (ofText "/data/logs/*" ⟨[]⟩).root? = some (.ofString "/data/logs/") := by decide
  have enters := (enters_root_iff "/data/logs/*" ⟨[]⟩ (.ofString "/data/logs/") rooted).mpr (by decide)
  exact ⟨rooted, enters (.ofString "/data/logs/old") (by decide) (by decide)⟩

/-- With a second separator in front of `logs` the root itself is pruned. -/
theorem own_root_pruned :
    ¬ ∀ (text : String) (base root directory : Path), (ofText text base).root? = some root →
      directory.startsWith root = true → (ofText text base).decision directory = .enter := by
  intro enters
  have entered := enters "/data//logs/*" ⟨[]⟩ (.ofString "/data//logs/") (.ofString "/data/logs")
    (by decide) (by decide)
  revert entered
  decide

end PathPattern

end FileSieve
