import FileSieve.Text.Basic
import FileSieve.Proofs.Text.Ascii

namespace FileSieve.Hex

def alphabet : List Char := "0123456789abcdef".toList

def isDigit (c : Char) : Bool := alphabet.contains c.toLower

/-- How bytes are spelled: two digits for each of them, whose places in the alphabet are its halves. -/
inductive Spells : List Char → Bytes → Prop
  | nil : Spells [] []
  | cons {high low : Char} {text : List Char} {byte : UInt8} {bytes : Bytes}
      (first : alphabet.idxOf? high.toLower = some (byte.toNat / 16))
      (second : alphabet.idxOf? low.toLower = some (byte.toNat % 16)) (rest : Spells text bytes) :
      Spells (high :: low :: text) (byte :: bytes)

theorem ascii_of_value? (c : Char) (digit : (value? c).isSome = true) : c.toNat < 0x80 := by
  have value : c.toNat = c.val.toNat := rfl
  have lastDigit : '9'.val.toNat = 0x39 := rfl
  have lastSmall : 'f'.val.toNat = 0x66 := rfl
  have lastCapital : 'F'.val.toNat = 0x46 := rfl
  unfold Hex.value? at digit
  simp only [Bool.and_eq_true, decide_eq_true_eq, Char.le_def, UInt32.le_iff_toNat_le] at digit
  split at digit
  · omega
  split at digit
  · omega
  split at digit
  · omega
  · contradiction

theorem value?_eq_idxOf? (c : Char) : value? c = alphabet.idxOf? c.toLower := by
  by_cases ascii : c.toNat < 0x80
  · apply Ascii.of_codes c ascii
    decide
  · have codes : alphabet.all (·.toNat < 0x80) = true := by decide
    have absent : c.toLower ∉ alphabet := by
      rw [Ascii.toLower_of_not_ascii c (by omega)]
      exact fun member => ascii (of_decide_eq_true (List.all_eq_true.mp codes c member))
    rw [List.idxOf?_eq_none_iff.mpr absent, ← Option.not_isSome_iff_eq_none]
    exact mt (ascii_of_value? c) ascii

theorem isSome_value? (c : Char) : (value? c).isSome = isDigit c := by
  rw [Bool.eq_iff_iff, value?_eq_idxOf?, List.isSome_idxOf?, isDigit, List.contains_iff_mem]

theorem value?_digit {value : Nat} (small : value < 16) : value? (digit value) = some value := by
  revert value
  decide

theorem digit_of_value? {c : Char} {value : Nat} (read : value? c = some value) :
    value < 16 ∧ digit value = c.toLower := by
  have digits : ∀ place : Fin alphabet.length, digit place = alphabet[place] := by decide
  rw [value?_eq_idxOf?, List.idxOf?_eq_some_iff] at read
  obtain ⟨inside, found, -⟩ := read
  exact ⟨inside, (digits ⟨value, inside⟩).trans found⟩

theorem ofNat_halves (byte : UInt8) : UInt8.ofNat (16 * (byte.toNat / 16) + byte.toNat % 16) = byte := by
  rw [Nat.div_add_mod, UInt8.ofNat_toNat]

theorem toNat_ofHalves {high low : Nat} (first : high < 16) (second : low < 16) :
    (UInt8.ofNat (16 * high + low)).toNat = 16 * high + low := by
  have bound : 16 * high + low < 256 := by omega
  exact UInt8.toNat_ofNat_of_lt' bound

theorem decode?_eq_some_iff (text : List Char) (bytes : Bytes) : decode? text = some bytes ↔ Spells text bytes := by
  constructor
  · intro read
    induction text using decode?.induct generalizing bytes with
    | case1 =>
        cases read
        exact .nil
    | case2 c => cases read
    | case3 high low rest ih =>
        simp only [decode?, Option.bind_eq_bind, Option.bind_eq_some_iff] at read
        obtain ⟨first, highRead, second, lowRead, others, behind, same⟩ := read
        cases same
        have value := toNat_ofHalves (digit_of_value? highRead).1 (digit_of_value? lowRead).1
        have bound := (digit_of_value? lowRead).1
        rw [value?_eq_idxOf?] at highRead lowRead
        refine .cons ?_ ?_ (ih others behind)
        · rw [highRead, value]
          congr 1
          omega
        · rw [lowRead, value]
          congr 1
          omega
  · intro spells
    induction spells with
    | nil => rfl
    | cons first second rest ih =>
        rw [decode?, value?_eq_idxOf?, value?_eq_idxOf?, first, second, ih]
        exact congrArg (some <| · :: _) (ofNat_halves _)

theorem spells_encode (bytes : Bytes) : Spells (encode bytes) bytes := by
  induction bytes with
  | nil => exact .nil
  | cons byte bytes ih =>
      have bound := byte.toNat_lt
      have place {value : Nat} (small : value < 16) : alphabet.idxOf? (digit value).toLower = some value := by
        rw [← value?_eq_idxOf?, value?_digit small]
      exact .cons (place (by omega)) (place (by omega)) ih

theorem encode_of_spells {text : List Char} {bytes : Bytes} (spells : Spells text bytes) :
    encode bytes = text.map Char.toLower := by
  induction spells with
  | nil => rfl
  | cons first second rest ih =>
      rw [← value?_eq_idxOf?] at first second
      rw [encode, List.flatMap_cons, (digit_of_value? first).2, (digit_of_value? second).2]
      exact congrArg (_ :: _ :: ·) ih

theorem length_of_spells {text : List Char} {bytes : Bytes} (spells : Spells text bytes) :
    text.length = 2 * bytes.length := by
  induction spells with
  | nil => rfl
  | cons first second rest ih =>
      simp only [List.length_cons, ih]
      omega

theorem digits_of_spells {text : List Char} {bytes : Bytes} (spells : Spells text bytes) :
    text.all isDigit = true := by
  have digit {c : Char} {value : Nat} (place : alphabet.idxOf? c.toLower = some value) : isDigit c = true := by
    rw [← isSome_value?, value?_eq_idxOf?, place, Option.isSome_some]
  induction spells with
  | nil => rfl
  | cons first second rest ih => simp only [List.all_cons, digit first, digit second, ih, Bool.and_self]

theorem exists_spells_iff (text : List Char) :
    (∃ bytes, Spells text bytes) ↔ text.length % 2 = 0 ∧ text.all isDigit = true := by
  constructor
  · rintro ⟨bytes, spells⟩
    rw [length_of_spells spells, digits_of_spells spells]
    exact ⟨Nat.mul_mod_right 2 _, rfl⟩
  · rintro ⟨even, digits⟩
    simp only [← decode?_eq_some_iff]
    induction text using decode?.induct with
    | case1 => exact ⟨[], rfl⟩
    | case2 c => cases even
    | case3 high low rest ih =>
        simp only [List.all_cons, ← isSome_value?, Bool.and_eq_true, Option.isSome_iff_exists] at digits
        obtain ⟨⟨first, highRead⟩, ⟨second, lowRead⟩, others⟩ := digits
        have evenRest : rest.length % 2 = 0 := by
          simp only [List.length_cons] at even
          omega
        obtain ⟨bytes, read⟩ := ih evenRest (by simpa only [← isSome_value?] using others)
        refine ⟨UInt8.ofNat (16 * first + second) :: bytes, ?_⟩
        rw [decode?, highRead, lowRead, read]
        rfl

end FileSieve.Hex
