import FileSieve.Proofs.Criteria.Rooted

namespace FileSieve

namespace Glob

theorem anyEnd_iff (test : Bytes → Bool) (text : Bytes) :
    anyEnd test text = true ↔ ∃ front back, text = front ++ back ∧ test back = true := by
  induction text with
  | nil =>
      constructor
      · intro passes
        exact ⟨[], [], rfl, passes⟩
      · intro found
        obtain ⟨front, back, split, passes⟩ := found
        rw [(List.nil_eq_append_iff.mp split).2] at passes
        exact passes
  | cons byte text ih =>
      rw [anyEnd, Bool.or_eq_true, ih]
      constructor
      · intro found
        cases found with
        | inl here => exact ⟨[], _, rfl, here⟩
        | inr later =>
            obtain ⟨front, back, split, passes⟩ := later
            exact ⟨byte :: front, back, congrArg (byte :: ·) split, passes⟩
      · intro found
        obtain ⟨front, back, split, passes⟩ := found
        cases front with
        | nil =>
            left
            rw [split]
            exact passes
        | cons first front =>
            right
            exact ⟨front, back, (List.cons.inj split).2, passes⟩

theorem anyEnd_append (test : Bytes → Bool) (front : Bytes) {back : Bytes} (passes : test back = true) :
    anyEnd test (front ++ back) = true :=
  (anyEnd_iff test _).mpr ⟨front, back, rfl, passes⟩

theorem anyAfterSeparator_append (test : Bytes → Bool) (front : Bytes) {back : Bytes} (passes : test back = true) :
    anyAfterSeparator test (front ++ Path.separator :: back) = true := by
  induction front with
  | nil =>
      rw [List.nil_append, anyAfterSeparator, passes]
      rfl
  | cons byte front ih => rw [List.cons_append, anyAfterSeparator, ih, Bool.or_true]

theorem afterByte_cons (first : UInt8 → Bool) (test : Bytes → Bool) (byte : UInt8) (rest : Bytes) :
    afterByte first test (byte :: rest) = (first byte && test rest) := rfl

section

-- Wildcard bytes may become anything, others stay.
variable {fill : UInt8 → UInt8} (kept : ∀ byte, IsPlain byte → fill byte = byte)

include kept

theorem startedBy_filled (test : Bytes → Bool) (byte : UInt8) {text : Bytes} (passes : test text = true) :
    startedBy test (segment byte) (fill byte :: text) = true := by
  by_cases star : byte = 0x2A
  · subst star
    exact anyEnd_append test [fill 0x2A] passes
  by_cases mark : byte = 0x3F
  · subst mark
    exact passes
  rw [segment_plain byte ⟨star, mark⟩, kept byte ⟨star, mark⟩, startedBy, afterByte_cons, passes, beq_self_eq_true]
  rfl

theorem fits_filled (piece text : Bytes) (rest : Glob) (fit : fits rest text = true) :
    fits (piece.map segment ++ rest) (piece.map fill ++ text) = true := by
  induction piece with
  | nil => exact fit
  | cons byte piece ih => exact startedBy_filled kept _ byte ih

theorem fits_afterComponent_filled (pieces : List Bytes) :
    fits (afterComponent false pieces) (pieces.flatMap (Path.separator :: ·.map fill)) = true ∧
      ∀ front, fits (afterComponent true pieces)
        (Path.separator :: (front ++ pieces.flatMap (Path.separator :: ·.map fill))) = true := by
  induction pieces with
  | nil => exact ⟨rfl, fun front => anyEnd_append List.isEmpty front rfl⟩
  | cons piece pieces ih =>
      obtain ⟨plain, starred⟩ := ih
      have following := fits_filled kept piece _ _ plain
      by_cases double : piece = doubleStar
      · simp only [afterComponent, if_pos double, List.flatMap_cons, List.cons_append]
        refine ⟨starred (piece.map fill), ?_⟩
        intro front
        have further := starred (front ++ Path.separator :: piece.map fill)
        rwa [List.append_assoc, List.cons_append] at further
      · simp only [afterComponent, if_neg double, List.flatMap_cons, List.cons_append]
        constructor
        · exact following
        · intro front
          have later := anyAfterSeparator_append _ front following
          simp only [fits, startedBy, ↓reduceIte, afterByte_cons, later, Bool.or_true, beq_self_eq_true, Bool.and_self]

theorem fits_afterLeading_filled (pieces : List Bytes) (front : Bytes) :
    fits (afterLeading pieces) (front ++ pieces.flatMap (Path.separator :: ·.map fill)) = true := by
  have anything (text : Bytes) : fits [.many] text = true := by
    have ends : anyEnd List.isEmpty (text ++ []) = true := anyEnd_append List.isEmpty text rfl
    rwa [List.append_nil] at ends
  induction pieces generalizing front with
  | nil => exact anything _
  | cons piece pieces ih =>
      rw [afterLeading, List.flatMap_cons]
      split
      · have further := ih (front ++ Path.separator :: piece.map fill)
        rwa [List.append_assoc] at further
      · split
        · exact anything _
        · have following := fits_filled kept piece _ _ (fits_afterComponent_filled kept pieces).1
          have later := anyAfterSeparator_append _ front following
          rw [List.cons_append, fits, startedBy, List.cons_append]
          simp only [later, Bool.or_true]

theorem map_eq_of_split {bytes first : Bytes} {rest : List Bytes}
    (pieces : Bytes.split Path.separator bytes = first :: rest) :
    bytes.map fill = first.map fill ++ rest.flatMap (Path.separator :: ·.map fill) := by
  have slash : fill Path.separator = Path.separator := kept _ ⟨by decide, by decide⟩
  induction bytes generalizing first rest with
  | nil =>
      cases pieces
      rfl
  | cons byte bytes ih =>
      obtain ⟨second, others, tail⟩ := List.exists_cons_of_ne_nil (Bytes.split_ne_nil Path.separator bytes)
      by_cases same : byte = Path.separator
      · subst same
        rw [Bytes.split_separator, tail] at pieces
        cases pieces
        rw [List.map_cons, ih tail, slash]
        rfl
      · rw [Bytes.split_cons _ byte _ _ _ same tail] at pieces
        cases pieces
        rw [List.map_cons, ih tail]
        rfl

theorem accepts_filled (pattern : Bytes) : accepts (ofBytes pattern) (pattern.map fill) = true := by
  obtain ⟨first, rest, pieces⟩ := List.exists_cons_of_ne_nil (Bytes.split_ne_nil Path.separator pattern)
  rw [accepts_eq_fits, ofBytes, pieces, map_eq_of_split kept pieces]
  dsimp only
  split
  · exact fits_afterLeading_filled kept rest _
  · exact fits_filled kept first _ _ (fits_afterComponent_filled kept rest).1

end

end Glob

end FileSieve
