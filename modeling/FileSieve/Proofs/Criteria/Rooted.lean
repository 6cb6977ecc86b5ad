import FileSieve.Criteria.Pattern
import FileSieve.Proofs.Text.Utf8
import FileSieve.Proofs.Unicode.Lowercase

namespace FileSieve

theorem Bytes.split_ne_nil (separator : UInt8) (bytes : Bytes) : split separator bytes ≠ [] := by
  cases bytes with
  | nil => exact List.cons_ne_nil _ _
  | cons byte rest =>
      rw [split]
      split
      · exact List.cons_ne_nil _ _
      · split <;> exact List.cons_ne_nil _ _

theorem Bytes.split_separator (separator : UInt8) (rest : Bytes) :
    split separator (separator :: rest) = [] :: split separator rest := by
  rw [split, if_pos rfl]

theorem Bytes.split_cons (separator byte : UInt8) (rest piece : Bytes) (pieces : List Bytes)
    (other : byte ≠ separator) (tail : split separator rest = piece :: pieces) :
    split separator (byte :: rest) = (byte :: piece) :: pieces := by
  rw [split, if_neg other, tail]

theorem Bytes.head_of_split (separator byte : UInt8) (bytes piece : Bytes) (pieces : List Bytes)
    (first : split separator bytes = (byte :: piece) :: pieces) : bytes.head? = some byte := by
  cases bytes with
  | nil => cases first
  | cons head rest =>
      rw [split] at first
      split at first
      · cases first
      · split at first <;> cases first <;> rfl

namespace Glob

theorem fits_byte (expected : UInt8) (rest : Glob) (text : Bytes)
    (fit : fits (.byte expected :: rest) text = true) :
    ∃ byte behind, text = byte :: behind ∧ Bytes.lowerByte byte = expected ∧
      fits rest behind = true := by
  cases text with
  | nil => cases fit
  | cons byte behind =>
      simp only [fits, startedBy, afterByte, Bool.and_eq_true, beq_iff_eq] at fit
      exact ⟨byte, behind, rfl, fit.1, fit.2⟩

def IsPlain (byte : UInt8) : Prop := byte ≠ 0x2A ∧ byte ≠ 0x3F

theorem segment_plain (byte : UInt8) (plain : IsPlain byte) :
    segment byte = .byte (Bytes.lowerByte byte) := by
  rw [segment, if_neg plain.1, if_neg plain.2]

theorem afterByte_separator (first : UInt8 → Bool) (test : Bytes → Bool) (text : Bytes)
    (lowered : ∀ byte, first byte = true → Bytes.lowerByte byte = Path.separator)
    (passes : afterByte first test text = true) :
    ∃ byte behind, text = byte :: behind ∧ Bytes.lowerByte byte = Path.separator := by
  cases text with
  | nil => cases passes
  | cons byte behind =>
      simp only [afterByte, Bool.and_eq_true] at passes
      exact ⟨byte, behind, rfl, lowered byte passes.1⟩

theorem fits_afterComponent (starred : Bool) (pieces : List Bytes) (text : Bytes)
    (more : starred = true ∨ pieces ≠ [])
    (fit : fits (afterComponent starred pieces) text = true) :
    ∃ byte behind, text = byte :: behind ∧ Bytes.lowerByte byte = Path.separator := by
  have slash (byte : UInt8) (same : (byte == Path.separator) = true) :
      Bytes.lowerByte byte = Path.separator := by
    rw [beq_iff_eq.mp same]
    decide
  induction pieces generalizing starred with
  | nil =>
      rcases more with rfl | absurdity
      · exact afterByte_separator _ _ text slash fit
      · exact absurd rfl absurdity
  | cons piece pieces ih =>
      rw [afterComponent] at fit
      split at fit
      · exact ih true (.inl rfl) fit
      · cases starred with
        | true => exact afterByte_separator _ _ text slash fit
        | false =>
            exact afterByte_separator _ _ text (fun byte same => beq_iff_eq.mp same) fit

theorem first_piece_plain (literal rest piece : Bytes) (pieces : List Bytes)
    (plain : ∀ byte ∈ literal, IsPlain byte)
    (split : Bytes.split Path.separator (literal ++ Path.separator :: rest) = piece :: pieces) :
    piece ≠ doubleStar := by
  rintro rfl
  have head := Bytes.head_of_split _ _ _ _ _ split
  cases literal with
  | nil => cases head
  | cons byte literal =>
      cases head
      exact (plain 0x2A List.mem_cons_self).1 rfl

theorem fits_literal (literal rest text piece : Bytes) (pieces : List Bytes)
    (plain : ∀ byte ∈ literal, IsPlain byte)
    (split : Bytes.split Path.separator (literal ++ Path.separator :: rest) = piece :: pieces)
    (fit : fits (piece.map segment ++ afterComponent false pieces) text = true) :
    ∃ front back, text = front ++ back ∧
      front.map Bytes.lowerByte = (literal ++ [Path.separator]).map Bytes.lowerByte := by
  induction literal generalizing text piece pieces with
  | nil =>
      rw [List.nil_append, Bytes.split_separator] at split
      cases split
      obtain ⟨byte, behind, rfl, lowered⟩ :=
        fits_afterComponent false _ text (.inr (Bytes.split_ne_nil _ _)) fit
      refine ⟨[byte], behind, rfl, ?_⟩
      simp only [List.map_cons, List.map_nil, List.nil_append, lowered]
      decide
  | cons byte literal ih =>
      have plainTail : ∀ other ∈ literal, IsPlain other := by
        intro other member
        exact plain other (List.mem_cons_of_mem byte member)
      obtain ⟨next, more, tail⟩ := List.exists_cons_of_ne_nil
        (Bytes.split_ne_nil Path.separator (literal ++ Path.separator :: rest))
      by_cases slash : byte = Path.separator
      · subst byte
        rw [List.cons_append, Bytes.split_separator, tail] at split
        cases split
        have single := first_piece_plain literal rest next more plainTail tail
        rw [List.map_nil, List.nil_append, afterComponent, if_neg single] at fit
        obtain ⟨first, behind, rfl, lowered, fit⟩ := fits_byte _ _ text fit
        obtain ⟨front, back, rfl, same⟩ := ih behind next more plainTail tail fit
        refine ⟨first :: front, back, rfl, ?_⟩
        rw [List.map_cons, lowered, same]
        rfl
      · rw [List.cons_append, Bytes.split_cons _ byte _ _ _ slash tail] at split
        cases split
        rw [List.map_cons, segment_plain byte (plain byte List.mem_cons_self)] at fit
        obtain ⟨first, behind, rfl, lowered, fit⟩ := fits_byte _ _ text fit
        obtain ⟨front, back, rfl, same⟩ := ih behind next _ plainTail tail fit
        refine ⟨first :: front, back, rfl, ?_⟩
        rw [List.map_cons, lowered, same]
        rfl

theorem accepts_literal (literal rest text : Bytes) (plain : ∀ byte ∈ literal, IsPlain byte)
    (accepted : accepts (ofBytes (literal ++ Path.separator :: rest)) text = true) :
    ∃ front back, text = front ++ back ∧
      front.map Bytes.lowerByte = (literal ++ [Path.separator]).map Bytes.lowerByte := by
  obtain ⟨piece, pieces, split⟩ := List.exists_cons_of_ne_nil
    (Bytes.split_ne_nil Path.separator (literal ++ Path.separator :: rest))
  have single := first_piece_plain literal rest piece pieces plain split
  rw [accepts_eq_fits, ofBytes, split] at accepted
  simp only [single, ↓reduceIte] at accepted
  exact fits_literal literal rest text piece pieces plain split accepted

end Glob

namespace PathPattern

theorem literalRoot?_spec (target root : List Char) (found : literalRoot? target = some root) :
    ∃ literal rest, root = literal ++ ['/'] ∧ target = literal ++ '/' :: rest ∧
      ∀ c ∈ literal, isWildcard c = false := by
  have taken := List.takeWhile_append_dropWhile (p := (!isWildcard ·)) (l := target)
  have plain (c : Char) (member : c ∈ target.takeWhile (!isWildcard ·)) : isWildcard c = false := by
    simpa using List.all_eq_true.mp List.all_takeWhile c member
  rw [literalRoot?] at found
  generalize target.takeWhile (!isWildcard ·) = front at taken plain found
  generalize target.dropWhile (!isWildcard ·) = after at taken
  have kept := List.takeWhile_append_dropWhile (p := (· != '/')) (l := front.reverse)
  have head := List.head?_dropWhile_not (· != '/') front.reverse
  generalize front.reverse.takeWhile (· != '/') = behind at kept
  generalize front.reverse.dropWhile (· != '/') = reversed at kept head found
  cases reversed with
  | nil => cases found
  | cons c before =>
      have slash : c = '/' := by simpa using head
      subst c
      cases found
      have whole : front = before.reverse ++ '/' :: behind.reverse := by
        rw [← List.reverse_reverse front, ← kept]
        simp
      refine ⟨before.reverse, behind.reverse ++ after, ?_, ?_, ?_⟩
      · exact List.reverse_cons
      · rw [← taken, whole]
        simp
      · intro c member
        apply plain c
        rw [whole]
        exact List.mem_append_left _ member

/-- Patterns come from a text and a base directory; pruning may have been switched off since. -/
def IsRead (pattern : PathPattern) : Prop :=
  ∃ text base pruning, pattern = { ofText text base with pruning }

theorem ofText_isRead (text : String) (base : Path) : (ofText text base).IsRead :=
  ⟨text, base, true, rfl⟩

theorem isPlain_of_not_wildcard (literal : List Char)
    (plain : ∀ c ∈ literal, isWildcard c = false) :
    ∀ byte ∈ Utf8.encode literal, Glob.IsPlain byte := by
  intro byte member
  constructor
  · rintro rfl
    have star := Utf8.mem_of_ascii_mem_encode literal 0x2A (by decide) member
    exact absurd (plain _ star) (by decide)
  · rintro rfl
    have mark := Utf8.mem_of_ascii_mem_encode literal 0x3F (by decide) member
    exact absurd (plain _ mark) (by decide)

theorem starts_literally (literal rest text : List Char)
    (plain : ∀ c ∈ literal, isWildcard c = false)
    (accepted : (Glob.ofBytes (Utf8.encode (literal ++ '/' :: rest))).accepts (Utf8.encode text) =
      true) :
    (literal ++ ['/']).map Char.toLower <+: text.map Char.toLower := by
  have slash : String.utf8EncodeChar '/' = [Path.separator] := by decide
  rw [Utf8.encode_append, Utf8.encode_cons, slash, List.singleton_append] at accepted
  obtain ⟨front, back, split, same⟩ :=
    Glob.accepts_literal _ _ _ (isPlain_of_not_wildcard literal plain) accepted
  apply Utf8.prefix_of_encode_prefix
  refine ⟨back.map Bytes.lowerByte, ?_⟩
  rw [Utf8.encode_map_toLower, Utf8.encode_map_toLower, split, List.map_append, same,
    Utf8.encode_append, Utf8.encode_cons, slash]
  rfl

theorem literal_of_matches (pattern : PathPattern) (read : IsRead pattern) (root : List Char)
    (rooted : pattern.root = some root) (path : Path) (matched : pattern.matches path = true) :
    ∃ literal, root = literal ++ ['/'] ∧
      (literal ++ ['/']).map Char.toLower <+: (PathText.ofPath path).map Char.toLower := by
  obtain ⟨text, base, pruning, rfl⟩ := read
  simp only [ofText] at rooted
  split at rooted
  · rename_i whole
    obtain ⟨literal, rest, rfl, target, plain⟩ := literalRoot?_spec _ root rooted
    simp only [PathPattern.matches, ofText, whole, ↓reduceIte, target] at matched
    exact ⟨literal, rfl, starts_literally literal rest _ plain matched⟩
  · cases rooted

theorem root_prefix_of_matches (pattern : PathPattern) (read : IsRead pattern) (root : List Char)
    (rooted : pattern.root = some root) (path : Path) (matched : pattern.matches path = true) :
    Unicode.lowercase root <+: Unicode.lowercase (PathText.ofPath path) := by
  obtain ⟨literal, rfl, starts⟩ := literal_of_matches pattern read root rooted path matched
  exact Unicode.lowercase_prefix literal _ starts

end PathPattern
end FileSieve
