import FileSieve.Criteria.Leaf
import FileSieve.Proofs.Criteria.Rooted

namespace FileSieve

namespace Path

/-- What the paths inside a directory start with. -/
def entrance (directory : Path) : Bytes :=
  if directory.bytes.getLast? = some separator then directory.bytes
  else directory.bytes ++ [separator]

/-- A path is inside a directory if more text follows the directory's and a separator. -/
def Inside (path directory : Path) : Prop :=
  ∃ text, text ≠ [] ∧ path.bytes = directory.entrance ++ text

theorem inside_split (path directory : Path) (inside : path.Inside directory) :
    ∃ front back, path.bytes = front ++ separator :: back ∧
      (directory.bytes = front ∨
        directory.bytes = front ++ [separator] ∧
          directory.bytes.getLast? = some separator) := by
  obtain ⟨text, _, split⟩ := inside
  by_cases last : directory.bytes.getLast? = some separator
  · obtain ⟨front, whole⟩ := List.getLast?_eq_some_iff.mp last
    refine ⟨front, text, ?_, .inr ⟨whole, last⟩⟩
    rw [split, entrance, if_pos last, whole, List.append_assoc, List.singleton_append]
  · refine ⟨directory.bytes, text, ?_, .inl rfl⟩
    rw [split, entrance, if_neg last, List.append_assoc, List.singleton_append]

end Path

namespace PathText

theorem ofPath_append_separator (front back : Bytes) :
    ofPath ⟨front ++ Path.separator :: back⟩ = ofPath ⟨front⟩ ++ '/' :: ofPath ⟨back⟩ := by
  have split := Utf8.decodeLossy_append_separator front back
  simp only [ofPath, Path.chars, Path.separator, split, normalize, List.map_append, List.map_cons]
  rfl

theorem closed_prefix (key rest : List Char) : closed key <+: key ++ '/' :: rest := by
  rw [closed]
  split
  · exact List.prefix_append _ _
  · exact ⟨rest, by rw [List.append_assoc, List.singleton_append]⟩

theorem prefix_closed (key : List Char) : key <+: closed key := by
  rw [closed]
  split
  · exact List.prefix_refl _
  · exact List.prefix_append _ _

theorem closed_separator (key : List Char) : closed (key ++ ['/']) = key ++ ['/'] := by
  rw [closed, if_pos List.getLast?_concat]

theorem directoryKey_prefix (path directory : Path) (inside : path.Inside directory) :
    directoryKey directory <+: Unicode.lowercase (ofPath path) := by
  obtain ⟨path⟩ := path
  obtain ⟨directory⟩ := directory
  obtain ⟨front, back, rfl, rfl | ⟨rfl, _⟩⟩ := Path.inside_split _ _ inside
  · rw [directoryKey, ofPath_append_separator, Unicode.lowercase_append_separator]
    exact closed_prefix _ _
  · have empty : ofPath ⟨[]⟩ = [] := rfl
    rw [directoryKey, ofPath_append_separator, ofPath_append_separator, empty,
      Unicode.lowercase_closed, closed_separator, Unicode.lowercase_append_separator]
    exact ⟨Unicode.lowercase (ofPath ⟨back⟩), by rw [List.append_assoc, List.singleton_append]⟩

end PathText

namespace SkipDirectory

theorem splitComponents_ne_nil (text : List Char) : splitComponents text ≠ [] := by
  cases text with
  | nil => exact List.cons_ne_nil _ _
  | cons c rest =>
      rw [splitComponents]
      split
      · exact List.cons_ne_nil _ _
      · split <;> exact List.cons_ne_nil _ _

theorem splitComponents_append_separator (front back : List Char) :
    splitComponents (front ++ '/' :: back) = splitComponents front ++ splitComponents back := by
  induction front with
  | nil => rfl
  | cons c rest ih =>
      rw [List.cons_append, splitComponents, splitComponents, ih]
      split
      · rfl
      · obtain ⟨first, more, split⟩ := List.exists_cons_of_ne_nil (splitComponents_ne_nil rest)
        rw [split]
        rfl

theorem empty_component (path : Path) (absolute : path.isAbsolute = true) :
    [] ∈ splitComponents (PathText.ofPath path) := by
  obtain ⟨bytes⟩ := path
  obtain ⟨rest, rfl⟩ := List.head?_eq_some_iff.mp (beq_iff_eq.mp absolute)
  have split := PathText.ofPath_append_separator [] rest
  rw [List.nil_append] at split
  rw [split, splitComponents_append_separator]
  exact List.mem_append_left _ (List.mem_singleton_self [])

theorem components_inside (path directory : Path) (inside : path.Inside directory)
    (anchored : directory.isAbsolute = true ∨ directory.bytes.getLast? ≠ some Path.separator) :
    splitComponents (PathText.ofPath directory) ⊆ splitComponents (PathText.ofPath path) := by
  obtain ⟨path⟩ := path
  obtain ⟨directory⟩ := directory
  obtain ⟨front, back, rfl, rfl | ⟨rfl, last⟩⟩ := Path.inside_split _ _ inside
  · rw [PathText.ofPath_append_separator, splitComponents_append_separator]
    exact List.subset_append_left _ _
  · have absolute : Path.isAbsolute ⟨front ++ Path.separator :: back⟩ = true := by
      have starts := anchored.resolve_right (absurd last)
      cases front <;> exact starts
    have empty : splitComponents (PathText.ofPath ⟨[]⟩) = [[]] := rfl
    intro component member
    rw [PathText.ofPath_append_separator, splitComponents_append_separator, empty,
      List.mem_append, List.mem_singleton] at member
    rcases member with member | rfl
    · rw [PathText.ofPath_append_separator, splitComponents_append_separator]
      exact List.mem_append_left _ member
    · exact empty_component _ absolute

theorem covers_inside (skip : SkipDirectory) (path directory : Path)
    (inside : path.Inside directory)
    (anchored : directory.isAbsolute = true ∨ directory.bytes.getLast? ≠ some Path.separator)
    (covered : skip.covers directory = true) : skip.covers path = true := by
  unfold covers at covered ⊢
  split at covered
  · rename_i key _
    apply List.isPrefixOf_iff_prefix.mpr
    exact ((List.isPrefixOf_iff_prefix.mp covered).trans
      (PathText.directoryKey_prefix path directory inside)).trans (PathText.prefix_closed _)
  · rename_i name _
    obtain ⟨component, member, same⟩ := List.any_eq_true.mp covered
    exact List.any_eq_true.mpr
      ⟨component, components_inside path directory inside anchored member, same⟩

end SkipDirectory

theorem PathPattern.not_matches_of_prune (pattern : PathPattern) (read : pattern.IsRead)
    (path directory : Path) (inside : path.Inside directory)
    (pruned : pattern.decision directory = .prune) : pattern.matches path = false := by
  rw [decision] at pruned
  split at pruned
  · cases pruned
  · rename_i root used
    have rooted : pattern.root = some root := by
      split at used
      · exact used
      · cases used
    dsimp only at pruned
    split at pruned
    · cases pruned
    · rename_i apart
      simp only [Bool.or_eq_true, List.isPrefixOf_iff_prefix, not_or] at apart
      have ofDirectory := PathText.directoryKey_prefix path directory inside
      apply Bool.eq_false_iff.mpr
      intro matched
      have ofRoot := pattern.root_prefix_of_matches read root rooted path matched
      rcases List.prefix_or_prefix_of_prefix ofDirectory ofRoot with shorter | longer
      · exact apart.1 shorter
      · exact apart.2 longer

/-- Leaves as they are read: wildcards belong to the text of their pattern. -/
def Leaf.IsRead : Leaf → Prop
  | wildcard pattern => pattern.IsRead
  | _ => True

theorem Leaf.not_evaluate_of_prune (test : Leaf) (read : test.IsRead) (file : File)
    (directory : Path) (inside : file.path.Inside directory)
    (anchored : directory.isAbsolute = true ∨ directory.bytes.getLast? ≠ some Path.separator)
    (pruned : test.decision directory = .prune) : test.evaluate file = false := by
  cases test with
  | wildcard pattern => exact pattern.not_matches_of_prune read _ _ inside pruned
  | skip rule =>
      simp only [decision, SkipDirectory.decision] at pruned
      split at pruned
      · rename_i covered
        simp only [evaluate, rule.covers_inside _ _ inside anchored covered, Bool.not_true]
      · cases pruned
  | type | size | date | regex | content | digest => cases pruned

end FileSieve
