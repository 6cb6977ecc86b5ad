import FileSieve.Criteria.GlobSyntax
import FileSieve.Proofs.Criteria.Glob
import FileSieve.Proofs.Criteria.OwnRoot

/-! Relative patterns. A relative pattern with a separator goes on from the text of the base directory, and that text
is read as part of the pattern. Where it has no wildcards in it, what the pattern matches is inside the base directory.
A wildcard in the name of a directory is read as a wildcard too, and then every such pattern matches something else. -/

namespace FileSieve

namespace PathPattern

/-- The text of a base directory without separators at its end. -/
def baseText (base : Path) : List Char := PathText.dropFinalSeparators (PathText.ofPath base)

/-- The path's text starts with the base directory's and a separator, up to the case of ASCII letters. -/
def StaysUnder (base path : Path) : Prop :=
  (baseText base ++ ['/']).map Char.toLower <+: (PathText.ofPath path).map Char.toLower

instance (base path : Path) : Decidable (StaysUnder base path) := inferInstanceAs (Decidable (_ <+: _))

def fillIn (c : Char) : Char := if isWildcard c then 'x' else c

def fillByte (byte : UInt8) : UInt8 := if byte = 0x2A ∨ byte = 0x3F then 0x78 else byte

theorem isWildcard_of_high (c : Char) (high : 0x80 ≤ c.toNat) : isWildcard c = false := by
  simp only [isWildcard, Bool.or_eq_false_iff, decide_eq_false_iff_not]
  constructor
  · rintro rfl
    exact absurd high (by decide)
  · rintro rfl
    exact absurd high (by decide)

theorem encode_fillIn (text : List Char) :
    Utf8.encode (text.map fillIn) = (Utf8.encode text).map fillByte := by
  apply Utf8.encode_map
  · decide
  · intro c high
    rw [fillIn, isWildcard_of_high c high]
    rfl
  · intro byte high
    apply if_neg
    intro wild
    cases wild with
    | inl star => rw [star] at high; exact absurd high (by decide)
    | inr mark => rw [mark] at high; exact absurd high (by decide)

theorem accepts_fillIn (text : List Char) :
    (Glob.ofBytes (Utf8.encode text)).accepts (Utf8.encode (text.map fillIn)) = true := by
  rw [encode_fillIn]
  apply Glob.accepts_filled
  intro byte plain
  apply if_neg
  intro wild
  cases wild with
  | inl star => exact plain.1 star
  | inr mark => exact plain.2 mark

theorem isWildcard_of_toLower_fillIn (c : Char) (same : c.toLower = (fillIn c).toLower) : isWildcard c = false := by
  cases wild : isWildcard c with
  | false => rfl
  | true =>
      rw [fillIn, wild, if_pos rfl] at same
      simp only [isWildcard, Bool.or_eq_true, decide_eq_true_eq] at wild
      cases wild with
      | inl star => rw [star] at same; exact absurd same (by decide)
      | inr mark => rw [mark] at same; exact absurd same (by decide)

theorem ofPath_eq_baseText (base : Path) :
    ∃ separators, PathText.ofPath base = baseText base ++ separators ∧ ∀ c ∈ separators, c = '/' := by
  rw [baseText, PathText.dropFinalSeparators]
  have split := List.takeWhile_append_dropWhile (p := (· == '/')) (l := (PathText.ofPath base).reverse)
  refine ⟨((PathText.ofPath base).reverse.takeWhile (· == '/')).reverse, ?_, ?_⟩
  · rw [← List.reverse_append, split, List.reverse_reverse]
  · intro c member
    exact beq_iff_eq.mp (List.all_eq_true.mp List.all_takeWhile c (List.mem_reverse.mp member))

theorem baseText_plain_iff (base : Path) :
    (∀ c ∈ baseText base, isWildcard c = false) ↔ ∀ c ∈ PathText.ofPath base, isWildcard c = false := by
  obtain ⟨separators, whole, slashes⟩ := ofPath_eq_baseText base
  rw [whole]
  constructor
  · intro plain c member
    cases List.mem_append.mp member with
    | inl inside => exact plain c inside
    | inr slash =>
        rw [slashes c slash]
        decide
  · intro plain c member
    exact plain c (List.mem_append_left separators member)

variable {text : String} {base : Path} (relative : PathText.isAbsolute (PathText.normalize text.toList) = false)
  (separated : '/' ∈ PathText.normalize text.toList)

include separated

theorem ofText_wholePath : (ofText text base).wholePath = true := List.contains_iff_mem.mpr separated

include relative

theorem target_relative :
    target text base = baseText base ++ '/' :: PathText.dropCurrent (PathText.normalize text.toList) := by
  rw [target, if_pos (List.contains_iff_mem.mpr separated), PathText.absolute, relative]
  rfl

theorem staysUnder_of_matches (plain : ∀ c ∈ baseText base, isWildcard c = false) (path : Path)
    (matched : (ofText text base).matches path = true) : StaysUnder base path := by
  simp only [PathPattern.matches, ofText_wholePath separated, ↓reduceIte, ofText_glob,
    target_relative relative separated] at matched
  exact starts_literally (baseText base) _ _ plain matched

theorem exists_outside (wild : ¬ ∀ c ∈ baseText base, isWildcard c = false) :
    ∃ path, (ofText text base).matches path = true ∧ ¬ StaysUnder base path := by
  have unmarked : '\\' ∉ (target text base).map fillIn := by
    intro member
    obtain ⟨c, among, filled⟩ := List.mem_map.mp member
    rw [fillIn] at filled
    split at filled
    · exact absurd filled (by decide)
    · rw [filled, target, if_pos (List.contains_iff_mem.mpr separated)] at among
      exact PathText.backslash_not_mem_absolute base (PathText.backslash_not_mem_normalize _) among
  have spelled : PathText.ofPath ⟨Utf8.encode ((target text base).map fillIn)⟩ = (target text base).map fillIn := by
    rw [PathText.ofPath, Path.chars, Utf8.decodeLossy_encode, PathText.normalize_plain unmarked]
  -- The path that the pattern spells, with every wildcard of the base directory filled in by another character.
  refine ⟨⟨Utf8.encode ((target text base).map fillIn)⟩, ?_, ?_⟩
  · rw [PathPattern.matches, if_pos (ofText_wholePath separated), spelled, ofText_glob]
    exact accepts_fillIn _
  · intro under
    apply wild
    rw [StaysUnder, spelled, target_relative relative separated, List.map_append, List.map_append, List.map_append]
      at under
    obtain ⟨after, split⟩ := under
    rw [List.append_assoc] at split
    have same := List.append_inj_left split (by rw [List.length_map, List.length_map, List.length_map])
    rw [List.map_map, List.map_inj_left] at same
    intro c member
    exact isWildcard_of_toLower_fillIn c (same c member)

omit relative separated

/-- The base directories that confine a relative pattern with a separator are those without wildcards in their text. -/
theorem stays_under_base_iff (text : String) (base : Path)
    (relative : PathText.isAbsolute (PathText.normalize text.toList) = false)
    (separated : '/' ∈ PathText.normalize text.toList) :
    (∀ path, (ofText text base).matches path = true → StaysUnder base path) ↔
      ∀ c ∈ PathText.ofPath base, isWildcard c = false := by
  rw [← baseText_plain_iff]
  constructor
  · intro confined
    by_contra wild
    obtain ⟨path, matched, outside⟩ := exists_outside relative separated wild
    exact outside (confined path matched)
  · intro plain
    exact staysUnder_of_matches relative separated plain

theorem stays_under_base_iff_brackets :
    PathText.isAbsolute (PathText.normalize "src/*.rs".toList) = false ∧
      '/' ∈ PathText.normalize "src/*.rs".toList ∧
      (ofText "src/*.rs" (.ofString "/data/[a]/")).matches (.ofString "/DATA/[a]/src/lib.rs") = true ∧
      StaysUnder (.ofString "/data/[a]/") (.ofString "/DATA/[a]/src/lib.rs") := by
  have relative : PathText.isAbsolute (PathText.normalize "src/*.rs".toList) = false := by decide
  have separated : '/' ∈ PathText.normalize "src/*.rs".toList := by decide
  have plain : ∀ c ∈ PathText.ofPath (.ofString "/data/[a]/"), isWildcard c = false := by
    have spelled : PathText.ofPath (.ofString "/data/[a]/") = "/data/[a]/".toList := by decide
    rw [spelled]
    simp [isWildcard]
  have matched : (ofText "src/*.rs" (.ofString "/data/[a]/")).matches (.ofString "/DATA/[a]/src/lib.rs") = true := by
    decide
  have confined := (stays_under_base_iff "src/*.rs" (.ofString "/data/[a]/") relative separated).mpr plain
  exact ⟨relative, separated, matched, confined _ matched⟩

/-- The star in the name of the directory stands for any other name. -/
theorem matches_beside_base :
    ¬ ∀ (text : String) (base path : Path), PathText.isAbsolute (PathText.normalize text.toList) = false →
      '/' ∈ PathText.normalize text.toList → (ofText text base).matches path = true → StaysUnder base path := by
  intro confined
  have under := confined "src/*.rs" (.ofString "/data/a*b") (.ofString "/data/axb/src/lib.rs") (by decide) (by decide)
    (by decide)
  revert under
  decide

end PathPattern

end FileSieve
