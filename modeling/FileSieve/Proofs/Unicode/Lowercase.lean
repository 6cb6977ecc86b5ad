import FileSieve.Proofs.Text.Ascii
import FileSieve.Unicode.Lowercase

namespace FileSieve.Unicode

theorem isCaseIgnorable_separator : isCaseIgnorable '/' = false := by decide

theorem isCased_separator : isCased '/' = false := by decide

theorem lowerChar_separator : lowerChar '/' = ['/'] := by decide

theorem casedAhead_append_separator (front back : List Char) :
    casedAhead (front ++ '/' :: back) = casedAhead front := by
  induction front with
  | nil =>
      simp only [List.nil_append, casedAhead, isCaseIgnorable_separator, isCased_separator,
        Bool.false_eq_true, ↓reduceIte]
  | cons c rest ih => simp only [List.cons_append, casedAhead, ih]

theorem lowercaseFrom_separator (behind : Bool) (back : List Char) :
    lowercaseFrom behind ('/' :: back) = '/' :: lowercase back := by
  have noSigma : ('/' = 'Σ') = False := by decide
  simp only [lowercaseFrom, noSigma, isCaseIgnorable_separator, isCased_separator,
    lowerChar_separator, Bool.false_eq_true, ↓reduceIte, List.singleton_append, lowercase]

theorem lowercaseFrom_append_separator (behind : Bool) (front back : List Char) :
    lowercaseFrom behind (front ++ '/' :: back) =
      lowercaseFrom behind front ++ '/' :: lowercase back := by
  induction front generalizing behind with
  | nil => exact lowercaseFrom_separator behind back
  | cons c rest ih =>
      simp only [List.cons_append, lowercaseFrom, casedAhead_append_separator, ih,
        List.append_assoc]

/-- A separator divides a text into two that are lowercased each on its own. -/
theorem lowercase_append_separator (front back : List Char) :
    lowercase (front ++ '/' :: back) = lowercase front ++ '/' :: lowercase back :=
  lowercaseFrom_append_separator false front back

theorem lowercase_closed (front : List Char) :
    lowercase (front ++ ['/']) = lowercase front ++ ['/'] :=
  lowercase_append_separator front []

theorem toLower_alike (c : Char) :
    lowerChar c.toLower = lowerChar c ∧ isCased c.toLower = isCased c ∧
      isCaseIgnorable c.toLower = isCaseIgnorable c ∧ (c.toLower = 'Σ' ↔ c = 'Σ') := by
  by_cases ascii : c.toNat < 0x80
  · apply Ascii.of_codes c ascii
    decide
  · rw [Ascii.toLower_of_not_ascii c (by omega)]
    exact ⟨rfl, rfl, rfl, Iff.rfl⟩

theorem casedAhead_map_toLower (text : List Char) :
    casedAhead (text.map Char.toLower) = casedAhead text := by
  induction text with
  | nil => rfl
  | cons c rest ih =>
      obtain ⟨_, cased, ignorable, _⟩ := toLower_alike c
      simp only [List.map_cons, casedAhead, cased, ignorable, ih]

theorem lowercaseFrom_map_toLower (behind : Bool) (text : List Char) :
    lowercaseFrom behind (text.map Char.toLower) = lowercaseFrom behind text := by
  induction text generalizing behind with
  | nil => rfl
  | cons c rest ih =>
      obtain ⟨lowered, cased, ignorable, sigma⟩ := toLower_alike c
      simp only [List.map_cons, lowercaseFrom, casedAhead_map_toLower, lowered, cased, ignorable,
        sigma, ih]

theorem lowercase_congr (first second : List Char)
    (same : first.map Char.toLower = second.map Char.toLower) :
    lowercase first = lowercase second := by
  rw [lowercase, lowercase, ← lowercaseFrom_map_toLower false first, same,
    lowercaseFrom_map_toLower]

theorem lowercase_prefix (front text : List Char)
    (starts : (front ++ ['/']).map Char.toLower <+: text.map Char.toLower) :
    lowercase (front ++ ['/']) <+: lowercase text := by
  obtain ⟨after, split⟩ := starts
  rw [List.map_append, List.append_assoc] at split
  obtain ⟨before, behind, rfl, same, rest⟩ := List.map_eq_append_iff.mp split.symm
  obtain ⟨c, back, rfl, lowered, _⟩ := List.map_eq_cons_iff.mp rest
  have slash : c = '/' := Ascii.eq_of_toLower c '/' (by rw [lowered]; decide) rfl
  subst c
  rw [lowercase_closed, lowercase_append_separator, lowercase_congr before front same]
  exact ⟨lowercase back, by rw [List.append_assoc, List.singleton_append]⟩

end FileSieve.Unicode
