import FileSieve.Proofs.Criteria.Inside
import FileSieve.Proofs.Path.Components
import Mathlib.Logic.Relation

/-! Backslashes in paths. Text that patterns and rules look at has a separator for every backslash, so it does not
matter which of the two is written. The name of a file is taken from the path itself, where a backslash is part of the
name: it matters there, and nowhere in front of the name. -/

namespace FileSieve

theorem Bytes.split_append (separator : UInt8) (front back : Bytes) :
    ∃ initial last first rest, split separator front = initial ++ [last] ∧ split separator back = first :: rest ∧
      split separator (front ++ back) = initial ++ (last ++ first) :: rest := by
  obtain ⟨first, rest, behind⟩ := List.exists_cons_of_ne_nil (split_ne_nil separator back)
  induction front with
  | nil => exact ⟨[], [], first, rest, rfl, behind, behind⟩
  | cons byte front ih =>
      obtain ⟨initial, last, _, _, ahead, behind, whole⟩ := ih
      by_cases same : byte = separator
      · subst same
        refine ⟨[] :: initial, last, _, _, ?_, behind, ?_⟩
        · rw [split_separator, ahead, List.cons_append]
        · rw [List.cons_append, split_separator, whole, List.cons_append]
      · cases initial with
        | nil =>
            refine ⟨[], byte :: last, _, _, ?_, behind, ?_⟩
            · exact split_cons separator byte front last [] same ahead
            · exact split_cons separator byte _ _ _ same whole
        | cons piece initial =>
            refine ⟨(byte :: piece) :: initial, last, _, _, ?_, behind, ?_⟩
            · exact split_cons separator byte front piece _ same ahead
            · exact split_cons separator byte _ piece _ same whole

def Component.name? : Component → Option Bytes
  | name bytes => some bytes
  | _ => none

namespace Path

inductive Respelling : Path → Path → Prop where
  | backslash (front back : Bytes) : Respelling ⟨front ++ 0x5C :: back⟩ ⟨front ++ separator :: back⟩

/-- Any of the backslashes are written as separators. -/
def Respelled : Path → Path → Prop := Relation.ReflTransGen Respelling

theorem exists_opening (path : Path) :
    ∃ opening, path.components =
        opening ++ (Bytes.split separator path.bytes).filterMap Component.ofPiece? ∧
      opening.getLast?.bind Component.name? = none := by
  cases absolute : path.isAbsolute with
  | true => exact ⟨[.root], by simp only [components, absolute, ↓reduceIte, List.singleton_append], rfl⟩
  | false =>
      obtain ⟨piece, others, pieces⟩ := List.exists_cons_of_ne_nil (Bytes.split_ne_nil separator path.bytes)
      rw [components_relative path absolute piece others pieces, pieces, leading]
      by_cases current : piece = [0x2E]
      · subst current
        exact ⟨[.current], rfl, rfl⟩
      · refine ⟨[], ?_, rfl⟩
        rw [if_neg current]
        cases counts : Component.ofPiece? piece with
        | none => rw [List.filterMap_cons_none counts, Option.toList_none]
        | some component => rw [List.filterMap_cons_some counts, Option.toList_some, List.singleton_append,
            List.nil_append]

theorem fileName?_eq (path : Path) :
    path.fileName? =
      ((Bytes.split separator path.bytes).filterMap Component.ofPiece?).getLast?.bind Component.name? := by
  obtain ⟨opening, whole, unnamed⟩ := path.exists_opening
  have last : path.fileName? = path.components.getLast?.bind Component.name? := by
    rw [fileName?]
    cases path.components.getLast? with
    | none => rfl
    | some component => cases component <;> rfl
  rw [last, whole, List.getLast?_append]
  generalize (Bytes.split separator path.bytes).filterMap Component.ofPiece? = counted
  cases counted.getLast? with
  | none => exact unnamed
  | some component => rfl

/-- No backslash of the path belongs to its file name. -/
def NamedPlainly (path : Path) : Prop := ∀ name, path.fileName? = some name → 0x5C ∉ name

variable {path other : Path}

theorem fileName?_behind (front behind : List Bytes) (pieces : Bytes.split separator path.bytes = front ++ behind)
    (counted : behind.filterMap Component.ofPiece? ≠ []) :
    path.fileName? = (behind.filterMap Component.ofPiece?).getLast?.bind Component.name? := by
  rw [fileName?_eq, pieces, List.filterMap_append, List.getLast?_append, List.getLast?_eq_some_getLast counted,
    Option.some_or]

theorem fileName?_respelling (step : Respelling path other) (plain : path.NamedPlainly) :
    other.fileName? = path.fileName? := by
  obtain ⟨front, back⟩ := step
  obtain ⟨initial, last, _, _, ahead, started, whole⟩ := Bytes.split_append separator front (0x5C :: back)
  obtain ⟨first, rest, behind⟩ := List.exists_cons_of_ne_nil (Bytes.split_ne_nil separator back)
  have apart : Bytes.split separator (front ++ separator :: back) = (initial ++ [last, first]) ++ rest := by
    rw [Bytes.split_append_separator, ahead, behind, List.append_assoc, List.append_assoc]
    rfl
  rw [Bytes.split_cons separator 0x5C back first rest (by decide) behind] at started
  obtain ⟨rfl, rfl⟩ := List.cons.inj started
  cases counted : rest.filterMap Component.ofPiece? with
  | nil =>
      have counts : Component.ofPiece? (last ++ 0x5C :: first) = some (.name (last ++ 0x5C :: first)) := by
        have marked (dots : Bytes) (unmarked : 0x5C ∉ dots) : last ++ 0x5C :: first ≠ dots := by
          intro same
          apply unmarked
          rw [← same]
          exact List.mem_append_right last List.mem_cons_self
        rw [Component.ofPiece?, if_neg, if_neg (marked _ (by decide))]
        rw [not_or]
        exact ⟨marked _ (by decide), marked _ (by decide)⟩
      have named : (Path.mk (front ++ 0x5C :: back)).fileName? = some (last ++ 0x5C :: first) := by
        rw [fileName?_behind initial _ whole] <;> rw [List.filterMap_cons_some counts, counted]
        · rfl
        · exact List.cons_ne_nil _ _
      -- No component is behind the backslash, so the name would hold it.
      exact absurd (List.mem_append_right last List.mem_cons_self) (plain _ named)
  | cons component more =>
      have inhabited : rest.filterMap Component.ofPiece? ≠ [] := by
        rw [counted]
        exact List.cons_ne_nil _ _
      have joined : Bytes.split separator (front ++ 0x5C :: back) = (initial ++ [last ++ 0x5C :: first]) ++ rest := by
        rw [whole, List.append_assoc, List.singleton_append]
      rw [fileName?_behind _ rest apart inhabited, fileName?_behind _ rest joined inhabited]

theorem fileName?_respelled (respelled : path.Respelled other) (plain : path.NamedPlainly) :
    other.fileName? = path.fileName? := by
  induction respelled using Relation.ReflTransGen.head_induction_on with
  | refl => rfl
  | head step _ ih =>
      have kept := fileName?_respelling step plain
      rw [← kept]
      apply ih
      intro name named
      exact plain name (kept ▸ named)

end Path

namespace PathText

variable {path other : Path}

theorem ofPath_append_backslash (front back : Bytes) :
    ofPath ⟨front ++ 0x5C :: back⟩ = ofPath ⟨front⟩ ++ '/' :: ofPath ⟨back⟩ := by
  have backslash : (0x5C : UInt8).toNat < 0x80 := by decide
  simp only [ofPath, Path.chars, Utf8.decodeLossy_append_ascii backslash, normalize, List.map_append, List.map_cons]
  rfl

theorem ofPath_respelled (respelled : path.Respelled other) : ofPath path = ofPath other := by
  induction respelled using Relation.ReflTransGen.head_induction_on with
  | refl => rfl
  | head step _ ih =>
      rw [← ih]
      obtain ⟨front, back⟩ := step
      rw [ofPath_append_backslash, ofPath_append_separator]

end PathText

variable {path other : Path}

theorem PathPattern.decision_respelled (pattern : PathPattern) (respelled : path.Respelled other) :
    pattern.decision path = pattern.decision other := by
  rw [decision, decision, PathText.directoryKey, PathText.directoryKey, PathText.ofPath_respelled respelled]

theorem PathPattern.matches_respelled (pattern : PathPattern) (respelled : path.Respelled other)
    (apart : pattern.wholePath = true ∨ path.NamedPlainly) : pattern.matches path = pattern.matches other := by
  rw [PathPattern.matches, PathPattern.matches, PathText.ofPath_respelled respelled]
  cases apart with
  | inl whole => rw [if_pos whole, if_pos whole]
  | inr plain => rw [Path.fileName?_respelled respelled plain]

theorem SkipDirectory.covers_respelled (skip : SkipDirectory) (respelled : path.Respelled other) :
    skip.covers path = skip.covers other := by
  rw [covers, covers, PathText.directoryKey, PathText.directoryKey, PathText.ofPath_respelled respelled]

/-- It does not matter whether separators of a path are written as backslashes, in what a pattern says of directories,
in what a rule skips, and in what a pattern matches that has a separator itself. Any other pattern asks for the name
of the file, so there it does not matter unless the name has backslashes in it. -/
theorem separators_interchangeable (text skipped : String) (base path other : Path)
    (respelled : path.Respelled other) :
    (((PathPattern.ofText text base).wholePath = true ∨ path.NamedPlainly) →
        (PathPattern.ofText text base).matches path = (PathPattern.ofText text base).matches other) ∧
      (PathPattern.ofText text base).decision path = (PathPattern.ofText text base).decision other ∧
      (SkipDirectory.ofText skipped base).covers path = (SkipDirectory.ofText skipped base).covers other := by
  refine ⟨?_, ?_, ?_⟩
  · exact PathPattern.matches_respelled _ respelled
  · exact PathPattern.decision_respelled _ respelled
  · exact SkipDirectory.covers_respelled _ respelled

theorem Path.respelled_once (front back : Bytes) :
    Respelled ⟨front ++ 0x5C :: back⟩ ⟨front ++ separator :: back⟩ :=
  Relation.ReflTransGen.single (.backslash front back)

theorem separators_interchangeable_text :
    (Path.ofString "/my\\docs/a.txt").Respelled (.ofString "/my/docs/a.txt") ∧
      (PathPattern.ofText "*.txt" ⟨[]⟩).matches (.ofString "/my\\docs/a.txt") =
        (PathPattern.ofText "*.txt" ⟨[]⟩).matches (.ofString "/my/docs/a.txt") ∧
      (SkipDirectory.ofText "docs" ⟨[]⟩).covers (.ofString "/my\\docs/a.txt") = true := by
  have respelled : (Path.ofString "/my\\docs/a.txt").Respelled (.ofString "/my/docs/a.txt") :=
    Path.respelled_once (Path.ofString "/my").bytes (Path.ofString "docs/a.txt").bytes
  have named : (Path.ofString "/my\\docs/a.txt").fileName? = some (Path.ofString "a.txt").bytes := by decide
  have plain : (Path.ofString "/my\\docs/a.txt").NamedPlainly := by
    intro name found
    rw [named] at found
    cases found
    decide
  obtain ⟨same, _, covered⟩ := separators_interchangeable "*.txt" "docs" ⟨[]⟩ _ _ respelled
  refine ⟨respelled, same (.inr plain), ?_⟩
  rw [covered]
  decide

/-- In the name itself it is not: only `docs/a.txt` has the name `a.txt`. -/
theorem backslash_in_name :
    ¬ ∀ (text : String) (base path other : Path), path.Respelled other →
      (PathPattern.ofText text base).matches path = (PathPattern.ofText text base).matches other := by
  intro same
  have respelled : (Path.ofString "docs\\a.txt").Respelled (.ofString "docs/a.txt") :=
    Path.respelled_once (Path.ofString "docs").bytes (Path.ofString "a.txt").bytes
  have agree := same "a.txt" ⟨[]⟩ _ _ respelled
  revert agree
  decide

end FileSieve
