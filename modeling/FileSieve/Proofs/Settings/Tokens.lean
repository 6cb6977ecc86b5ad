import Mathlib.Data.List.Basic
import Mathlib.Data.List.TakeWhile
import FileSieve.Json.Token
import FileSieve.Proofs.Text.Utf16
import FileSieve.Settings.Basic

namespace FileSieve

namespace JsonToken

theorem scan_step {mode next : JsonMode} {tokens : List JsonToken} {c : Char}
    (stepped : step c mode = some (tokens, next)) (rest : List Char) :
    scan mode (c :: rest) = (scan next rest).map (tokens ++ ·) := by
  rw [scan, stepped]
  cases following : scan next rest <;> simp [following]

theorem scan_silent {mode next : JsonMode} {c : Char} (stepped : step c mode = some ([], next)) (rest : List Char) :
    scan mode (c :: rest) = scan next rest := by
  rw [scan_step stepped]
  exact Option.map_id'

def Stops (rest : List Char) : Prop := ∀ c ∈ rest.head?, isNumberChar c = false

theorem stops_cons {c : Char} (other : isNumberChar c = false) (rest : List Char) : Stops (c :: rest) := by
  rintro _ ⟨⟩
  exact other

theorem scan_string_close (reversed : List Nat) (rest : List Char) :
    scan (.string reversed) ('"' :: rest) = (scan .between rest).map (.scalar (.string reversed.reverse) :: ·) :=
  have stepped : step '"' (.string reversed) = some ([.scalar (.string reversed.reverse)], .between) := rfl
  scan_step stepped rest

theorem escapeUnit?_of_shortEscape? {c letter : Char} (short : Settings.shortEscape? c = some letter) :
    letter ≠ 'u' ∧ escapeUnit? letter = some c.toNat ∧ c.toNat < 0x80 := by
  unfold Settings.shortEscape? at short
  split at short
  · cases short; decide
  · cases short; decide
  · cases short; decide
  · cases short; decide
  · cases short; decide
  · split at short
    · rename_i code
      cases short
      rw [code]
      decide
    · split at short
      · rename_i code
        cases short
        rw [code]
        decide
      · cases short

theorem plain_of_shortEscape? {c : Char} (long : Settings.shortEscape? c = none) : c ≠ '"' ∧ c ≠ '\\' := by
  constructor <;> rintro rfl <;> cases long

theorem decode?_control (code : Nat) (control : code < 0x20) :
    Hex.decode? ['0', '0', Hex.digit (code / 16), Hex.digit (code % 16)] = some [0, UInt8.ofNat code] := by
  revert control
  revert code
  decide

/-- A character of a string is read as its units, however it is written there. -/
theorem scan_escaped (c : Char) (reversed : List Nat) (rest : List Char) :
    scan (.string reversed) (Settings.escaped c ++ rest) =
      scan (.string ((Utf16.units c).reverse ++ reversed)) rest := by
  rw [Settings.escaped]
  split
  · rename_i letter short
    obtain ⟨other, unit, ascii⟩ := escapeUnit?_of_shortEscape? short
    have opened : step '\\' (.string reversed) = some ([], .escape reversed) := rfl
    have named : step letter (.escape reversed) = some ([], .string (c.toNat :: reversed)) := by
      rw [step, if_neg other, unit]
      rfl
    rw [List.cons_append, List.singleton_append, scan_silent opened, scan_silent named,
      Utf16.units_single c (by omega)]
    rfl
  · rename_i long
    split
    · rename_i control
      have opened : step '\\' (.string reversed) = some ([], .escape reversed) := rfl
      have numbered : step 'u' (.escape reversed) = some ([], .unit reversed []) := rfl
      have first : step '0' (.unit reversed []) = some ([], .unit reversed ['0']) := rfl
      have second : step '0' (.unit reversed ['0']) = some ([], .unit reversed ['0', '0']) := rfl
      have third (digit : Char) :
          step digit (.unit reversed ['0', '0']) = some ([], .unit reversed ['0', '0', digit]) := rfl
      have last : step (Hex.digit (c.toNat % 16)) (.unit reversed ['0', '0', Hex.digit (c.toNat / 16)]) =
          some ([], .string (c.toNat :: reversed)) := by
        have code : 0x100 * (0 : UInt8).toNat + (UInt8.ofNat c.toNat).toNat = c.toNat := by
          rw [UInt8.toNat_ofNat']
          simp only [UInt8.reduceToNat]
          omega
        rw [step, if_neg (by simp)]
        simp only [List.cons_append, List.nil_append, decode?_control c.toNat control, code]
      simp only [List.cons_append, List.nil_append]
      rw [scan_silent opened, scan_silent numbered, scan_silent first, scan_silent second, scan_silent (third _),
        scan_silent last, Utf16.units_single c (by omega)]
      rfl
    · rename_i printed
      obtain ⟨quote, backslash⟩ := plain_of_shortEscape? long
      have stepped : step c (.string reversed) = some ([], .string ((Utf16.units c).reverse ++ reversed)) := by
        rw [step, if_neg quote, if_neg backslash, if_neg printed]
      exact scan_silent stepped rest

theorem scan_flatMap_escaped (text : List Char) (reversed : List Nat) (rest : List Char) :
    scan (.string reversed) (text.flatMap Settings.escaped ++ rest) =
      scan (.string ((text.flatMap Utf16.units).reverse ++ reversed)) rest := by
  induction text generalizing reversed with
  | nil => rfl
  | cons c text ih =>
      rw [List.flatMap_cons, List.append_assoc, scan_escaped, ih, List.flatMap_cons, List.reverse_append,
        List.append_assoc]

theorem scan_quoted (text rest : List Char) :
    scan .between (Settings.quoted text ++ rest) =
      (scan .between rest).map (.scalar (.string (text.flatMap Utf16.units)) :: ·) := by
  have opened : step '"' .between = some ([], .string []) := rfl
  rw [Settings.quoted, List.append_assoc, List.cons_append, List.singleton_append, scan_silent opened,
    scan_flatMap_escaped, scan_string_close, List.append_nil, List.reverse_reverse]

theorem isNumberChar_of_isDigit {c : Char} (digit : c.isDigit = true) : isNumberChar c = true := by
  rw [isNumberChar, digit]
  rfl

theorem start_digit {c : Char} (digit : c.isDigit = true) : start c = some ([], .number [c]) := by
  have plain : c.isDigit = true → isSpace c = false ∧ c ≠ '"' := by
    apply Ascii.of_codes c (Ascii.of_isDigit c digit)
    decide
  obtain ⟨blank, quote⟩ := plain digit
  rw [start, blank, if_neg Bool.false_ne_true, if_neg quote, digit]
  rfl

theorem scan_digits {digits : List Char} (all : ∀ c ∈ digits, c.isDigit = true) (reversed rest : List Char) :
    scan (.number reversed) (digits ++ rest) = scan (.number (digits.reverse ++ reversed)) rest := by
  induction digits generalizing reversed with
  | nil => rfl
  | cons c digits ih =>
      obtain ⟨first, others⟩ := List.forall_mem_cons.mp all
      have stepped : step c (.number reversed) = some ([], .number (c :: reversed)) :=
        if_pos (isNumberChar_of_isDigit first)
      rw [List.cons_append, scan_silent stepped, ih others, List.reverse_cons, List.append_assoc,
        List.singleton_append]

theorem scan_refused {mode : JsonMode} {c : Char} (refused : step c mode = none) (rest : List Char) :
    scan mode (c :: rest) = none := by
  rw [scan, refused]
  rfl

theorem scan_number_stops {reversed rest : List Char} (complete : isNumber reversed.reverse = true)
    (stops : Stops rest) :
    scan (.number reversed) rest = (scan .between rest).map (.scalar (.number reversed.reverse) :: ·) := by
  have ended : finish (.number reversed) = some [.scalar (.number reversed.reverse)] := if_pos complete
  cases rest with
  | nil => exact ended
  | cons c rest =>
      have restarted : step c (.number reversed) = restart (.number reversed) c := by
        rw [step, stops c rfl, if_neg Bool.false_ne_true]
      rw [restart, ended] at restarted
      have plain : step c .between = start c := rfl
      cases started : start c with
      | none =>
          rw [started] at restarted plain
          rw [scan_refused restarted, scan_refused plain, Option.map_none]
      | some opened =>
          obtain ⟨tokens, next⟩ := opened
          rw [started] at restarted plain
          rw [scan_step restarted, scan_step plain, Option.map_map]
          rfl

theorem head?_toDigits (n : Nat) (positive : 0 < n) : (Nat.toDigits 10 n).head? ≠ some '0' := by
  by_cases single : n < 10
  · rw [Nat.toDigits_of_lt_base single, List.head?_singleton]
    revert positive
    revert single
    revert n
    decide
  · have front := head?_toDigits (n / 10) (by omega)
    rw [Nat.toDigits_of_base_le (by decide) (by omega), List.head?_append_of_ne_nil _ Nat.toDigits_ne_nil]
    exact front

theorem isNumber_toDigits (n : Nat) : isNumber (Nat.toDigits 10 n) = true := by
  have digits : ∀ c ∈ Nat.toDigits 10 n, c.isDigit = true :=
    fun c member => Nat.isDigit_of_mem_toDigits (by decide) (by decide) member
  have unsigned : (Nat.toDigits 10 n).head? ≠ some '-' := by
    intro sign
    exact absurd (digits '-' (List.mem_of_head? sign)) (by decide)
  have whole : (Nat.toDigits 10 n).takeWhile Char.isDigit = Nat.toDigits 10 n :=
    List.takeWhile_eq_self_iff.mpr digits
  have nothing : (Nat.toDigits 10 n).dropWhile Char.isDigit = [] :=
    List.dropWhile_eq_nil_iff.mpr digits
  have leading : Nat.toDigits 10 n = ['0'] ∨ (Nat.toDigits 10 n).head? ≠ some '0' := by
    rcases Nat.eq_zero_or_pos n with rfl | positive
    · exact .inl rfl
    · exact .inr (head?_toDigits n positive)
  simp [isNumber, unsigned, whole, nothing, Nat.toDigits_ne_nil, leading, isFractional]

theorem scan_toDigits (n : Nat) {rest : List Char} (stops : Stops rest) :
    scan .between (Nat.toDigits 10 n ++ rest) =
      (scan .between rest).map (.scalar (.number (Nat.toDigits 10 n)) :: ·) := by
  obtain ⟨first, others, same⟩ := List.exists_cons_of_ne_nil (Nat.toDigits_ne_nil (n := n) (b := 10))
  have digits : ∀ c ∈ first :: others, c.isDigit = true := by
    rw [← same]
    exact fun c member => Nat.isDigit_of_mem_toDigits (by decide) (by decide) member
  obtain ⟨digit, more⟩ := List.forall_mem_cons.mp digits
  have opened : step first .between = some ([], .number [first]) := start_digit digit
  have whole : (others.reverse ++ [first]).reverse = first :: others := by simp
  have complete : isNumber (others.reverse ++ [first]).reverse = true := by
    rw [whole, ← same]
    exact isNumber_toDigits n
  rw [same, List.cons_append, scan_silent opened, scan_digits more, scan_number_stops complete stops, whole]

end JsonToken
end FileSieve
