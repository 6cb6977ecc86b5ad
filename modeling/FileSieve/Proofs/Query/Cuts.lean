import FileSieve.Query.Sliced
import FileSieve.Proofs.Query.Scanner
import FileSieve.Proofs.Text.Hex

namespace FileSieve

namespace Sliced

section

variable {c : Char} {lead : UInt8} {following : Bytes}

theorem isLetter_lead (bytes : String.utf8EncodeChar c = lead :: following) : isLetter lead = c.isAlpha := by
  by_cases ascii : c.toNat < 0x80
  · rw [Utf8.encodeChar_ascii c ascii] at bytes
    obtain ⟨rfl, _⟩ := List.cons_eq_cons.mp bytes
    apply Ascii.of_codes c ascii
    decide
  · have high : 0x80 ≤ c.toNat := by omega
    have leads := Utf8.encodeChar_not_ascii c high lead (bytes ▸ List.mem_cons_self)
    have letter : isLetter lead = false := by
      simp only [isLetter, Bool.or_eq_false_iff, Bool.and_eq_false_iff, decide_eq_false_iff_not,
        UInt8.le_iff_toNat_le, UInt8.reduceToNat]
      omega
    have alpha : c.isAlpha = false := Bool.eq_false_iff.mpr (mt (Ascii.of_isAlpha c) ascii)
    rw [letter, alpha]

theorem lead_eq_colon (bytes : String.utf8EncodeChar c = lead :: following) : (lead == 0x3A) = (c == ':') := by
  by_cases ascii : c.toNat < 0x80
  · rw [Utf8.encodeChar_ascii c ascii] at bytes
    obtain ⟨rfl, _⟩ := List.cons_eq_cons.mp bytes
    apply Ascii.of_codes c ascii
    decide
  · have leads := Utf8.encodeChar_not_ascii c (by omega) lead (bytes ▸ List.mem_cons_self)
    have byte : lead ≠ 0x3A := by
      rintro rfl
      simp at leads
    have char : c ≠ ':' := by
      rintro rfl
      simp at ascii
    rw [beq_eq_false_iff_ne.mpr byte, beq_eq_false_iff_ne.mpr char]

theorem following_of_isAlpha (bytes : String.utf8EncodeChar c = lead :: following) (alpha : c.isAlpha = true) :
    following = [] := by
  rw [Utf8.encodeChar_ascii c (Ascii.of_isAlpha c alpha)] at bytes
  exact (List.cons_eq_cons.mp bytes).2.symm

end

theorem isAbsolute_cons (c : Char) (rest : List Char) (plain : c ≠ '/') :
    PathText.isAbsolute (c :: rest) = (c.isAlpha && rest.head? == some ':') := by
  cases rest with
  | nil =>
    rw [PathText.isAbsolute] <;> simp [plain]
  | cons d rest =>
    by_cases colon : d = ':'
    · subst colon
      rw [PathText.isAbsolute] <;> simp [plain]
    · rw [PathText.isAbsolute] <;> simp [plain, colon]

theorem isAbsolute?_eq (text : List Char) : isAbsolute? text = some (PathText.isAbsolute text) := by
  cases text with
  | nil => rfl
  | cons c rest =>
    obtain ⟨lead, following, bytes, _, _⟩ := Utf8.encodeChar_lead c
    rw [isAbsolute?, List.head?_cons, Utf8.encode_cons, bytes]
    by_cases separator : c = '/'
    · subst separator
      rfl
    rw [if_neg (mt Option.some.inj separator), isAbsolute_cons c rest separator]
    simp only [List.cons_append, List.getElem?_cons_zero, Option.bind_eq_bind, Option.bind_some,
      isLetter_lead bytes]
    cases alpha : c.isAlpha with
    | false =>
      simp only [Bool.false_eq_true, if_false, Bool.false_and]
      split <;> rfl
    | true =>
      rw [following_of_isAlpha bytes alpha]
      cases rest with
      | nil => rfl
      | cons d rest =>
        obtain ⟨second, others, bytes, _, _⟩ := Utf8.encodeChar_lead d
        have long : ¬ (lead :: ([] ++ (second :: others ++ Utf8.encode rest))).length < 2 := by simp
        rw [Utf8.encode_cons, bytes, if_neg long, if_pos rfl, Bool.true_and, List.head?_cons]
        exact congrArg some (lead_eq_colon bytes)

theorem absolute?_eq (base : Path) (text : List Char) : absolute? base text = some (PathText.absolute base text) := by
  rw [absolute?, isAbsolute?_eq, PathText.absolute]
  cases PathText.isAbsolute text <;> rfl

theorem literalRoot?_eq (target : List Char) : literalRoot? target = some (PathPattern.literalRoot? target) := by
  rw [literalRoot?, Slice.upTo?_find?, PathPattern.literalRoot?]
  simp only [Option.bind_eq_bind, Option.bind_some]
  have whole :
      target.takeWhile (!PathPattern.isWildcard ·) ++ target.dropWhile (!PathPattern.isWildcard ·) = target :=
    List.takeWhile_append_dropWhile
  generalize target.takeWhile (!PathPattern.isWildcard ·) = literal at whole
  generalize target.dropWhile (!PathPattern.isWildcard ·) = remainder at whole
  subst whole
  cases found : Slice.findLast? '/' literal with
  | none =>
    have absent := Slice.not_mem_of_findLast? found
    have passed : ∀ c ∈ literal.reverse, (c != '/') = true := fun c among =>
      bne_iff_ne.mpr fun same => absent (same ▸ List.mem_reverse.mp among)
    have gone : (literal.reverse ++ []).dropWhile (· != '/') = [] := List.dropWhile_append_of_pos passed
    rw [List.append_nil] at gone
    rw [gone]
    rfl
  | some slash =>
    obtain ⟨front, back, rfl, last, rfl⟩ := Slice.findLast?_eq_some found
    have kept : (front ++ '/' :: back).reverse.dropWhile (· != '/') = '/' :: front.reverse := by
      have passed : ∀ c ∈ back.reverse, (c != '/') = true := fun c among =>
        bne_iff_ne.mpr fun same => last (same ▸ List.mem_reverse.mp among)
      rw [List.reverse_append, List.reverse_cons, List.append_assoc, List.dropWhile_append_of_pos passed]
      rfl
    have cut := Slice.upTo?_size (front ++ ['/']) (back ++ remainder)
    rw [Slice.size_append, Slice.size_singleton, List.append_assoc, List.singleton_append, ← List.cons_append,
      ← List.append_assoc] at cut
    show (Slice.upTo? _ (Slice.size front + '/'.utf8Size)).bind _ = _
    rw [kept, cut]
    simp

theorem pattern?_eq (text : String) (base : Path) : pattern? text base = some (PathPattern.ofText text base) := by
  rw [pattern?, PathPattern.ofText]
  simp only [absolute?_eq, literalRoot?_eq]
  cases (PathText.normalize text.toList).contains '/' <;> rfl

theorem skipDirectory?_eq (text : String) (base : Path) :
    skipDirectory? text base = some (SkipDirectory.ofText text base) := by
  rw [skipDirectory?, SkipDirectory.ofText]
  simp only [absolute?_eq]
  cases (PathText.normalize text.toList).contains '/' <;> rfl

theorem comparison?_eq (text : List Char) : comparison? text = some (SizeLiteral.comparison text) := by
  rw [comparison?]
  cases text with
  | nil => rfl
  | cons c rest =>
    rw [List.head?_cons]
    split
    · rename_i plus
      rw [Option.some.inj plus, Slice.from?_one rfl]
      rfl
    · rename_i minus
      rw [Option.some.inj minus, Slice.from?_one rfl]
      rfl
    · rename_i equals
      rw [Option.some.inj equals, Slice.from?_one rfl]
      rfl
    · rename_i notPlus notMinus notEquals
      rw [SizeLiteral.comparison]
      · rintro _ ⟨rfl, _⟩
        exact notPlus rfl
      · rintro _ ⟨rfl, _⟩
        exact notMinus rfl
      · rintro _ ⟨rfl, _⟩
        exact notEquals rfl

theorem size?_eq (text : List Char) : size? text = some (SizeLiteral.parse? text) := by
  rw [size?, comparison?_eq, SizeLiteral.parse?]
  simp only [Option.bind_eq_bind, Option.bind_some, Slice.upTo?_find?, Slice.from?_find?, Bool.not_not]
  rfl

theorem dateTest?_eq (field : DateField) (text : List Char) (now : Instant) :
    dateTest? field text now = some (Modifier.dateTest field text now) := by
  rw [dateTest?]
  cases text with
  | nil => rfl
  | cons c rest =>
    rw [List.head?_cons]
    split
    · rename_i plus
      rw [Option.some.inj plus, Slice.from?_one rfl]
      rfl
    · rename_i minus
      rw [Option.some.inj minus, Slice.from?_one rfl]
      rfl
    · rename_i notPlus notMinus
      rw [Modifier.dateTest]
      · rfl
      · rintro _ ⟨rfl, _⟩
        exact notPlus rfl
      · rintro _ ⟨rfl, _⟩
        exact notMinus rfl

theorem hexValue?_code (c : Char) (ascii : c.toNat < 0x80) : hexValue? (UInt8.ofNat c.toNat) = Hex.value? c := by
  rw [hexValue?, Utf8.toNat_byte c.toNat (by omega), Char.ofNat_toNat]

theorem hexValue?_high (byte : UInt8) (high : 0x80 ≤ byte.toNat) : hexValue? byte = none := by
  have code : (Char.ofNat byte.toNat).toNat = byte.toNat :=
    Utf8.toNat_ofNat (Or.inl (Nat.lt_trans byte.toNat_lt (by decide)))
  cases digit : hexValue? byte with
  | none => rfl
  | some value =>
    have ascii := Hex.ascii_of_value? _ (Option.isSome_of_eq_some digit)
    omega

theorem all_digits (text : List Char) :
    ((Utf8.encode text).all fun byte => (hexValue? byte).isSome) = text.all Hex.isDigit := by
  induction text with
  | nil => rfl
  | cons c rest ih =>
    rw [Utf8.encode_cons, List.all_append, ih, List.all_cons, ← Hex.isSome_value?]
    congr 1
    by_cases ascii : c.toNat < 0x80
    · rw [Utf8.encodeChar_ascii c ascii, List.all_cons, List.all_nil, Bool.and_true, hexValue?_code c ascii]
    · obtain ⟨lead, following, bytes, _, _⟩ := Utf8.encodeChar_lead c
      have leads := Utf8.encodeChar_not_ascii c (by omega) lead (bytes ▸ List.mem_cons_self)
      rw [bytes, List.all_cons, hexValue?_high lead leads]
      exact (Bool.eq_false_iff.mpr (mt (Hex.ascii_of_value? c) ascii)).symm

theorem pairs_read (text : List Char) (ascii : ∀ c ∈ text, c.toNat < 0x80) (even : text.length % 2 = 0) :
    ∃ values, (pairs (Utf8.encode text)).mapM hexPair? = some values ∧ values.mapM id = Hex.decode? text := by
  match text with
  | [] => exact ⟨[], rfl, rfl⟩
  | [_] => contradiction
  | high :: low :: rest =>
    obtain ⟨first, more⟩ := List.forall_mem_cons.mp ascii
    obtain ⟨second, others⟩ := List.forall_mem_cons.mp more
    have evenRest : rest.length % 2 = 0 := by
      rw [List.length_cons, List.length_cons] at even
      omega
    obtain ⟨values, run, collected⟩ := pairs_read rest others evenRest
    rw [Utf8.encode_ascii rest others] at run
    rw [Utf8.encode_ascii _ ascii, List.map_cons, List.map_cons, pairs, List.mapM_cons, run]
    refine ⟨_, rfl, ?_⟩
    rw [List.mapM_cons, collected, hexValue?_code high first, hexValue?_code low second, Hex.decode?]
    cases Hex.value? high <;> cases Hex.value? low <;> cases Hex.decode? rest <;> rfl

theorem hex?_eq (text : List Char) : hex? text = some (Hex.decode? text) := by
  have readable := Hex.exists_spells_iff text
  simp only [← Hex.decode?_eq_some_iff, ← Option.isSome_iff_exists] at readable
  rw [hex?, all_digits]
  cases digits : text.all Hex.isDigit with
  | false =>
    have refused : Hex.decode? text = none := by simpa [digits] using readable
    simp [refused]
  | true =>
    have ascii : ∀ c ∈ text, c.toNat < 0x80 := fun c among =>
      Hex.ascii_of_value? c (Hex.isSome_value? c ▸ List.all_eq_true.mp digits c among)
    have length : (Utf8.encode text).length = text.length := by rw [Utf8.encode_ascii text ascii, List.length_map]
    rw [length]
    by_cases even : text.length % 2 = 0
    · obtain ⟨values, run, collected⟩ := pairs_read text ascii even
      simp [even, run, collected]
    · have refused : Hex.decode? text = none := by simpa [even] using readable
      simp [even, refused]

end Sliced
end FileSieve
