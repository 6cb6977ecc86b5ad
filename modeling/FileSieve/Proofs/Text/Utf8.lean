import FileSieve.Proofs.Text.Ascii
import FileSieve.Text.Utf8

namespace FileSieve.Utf8

theorem encode_cons (c : Char) (rest : List Char) :
    encode (c :: rest) = String.utf8EncodeChar c ++ encode rest :=
  List.flatMap_cons

theorem encode_append (front back : List Char) :
    encode (front ++ back) = encode front ++ encode back :=
  List.flatMap_append

theorem encodeChar_ascii (c : Char) (ascii : c.toNat < 0x80) :
    String.utf8EncodeChar c = [UInt8.ofNat c.toNat] := by
  have bound : c.val.toNat ≤ 0x7F := Nat.le_of_lt_succ ascii
  simp only [String.utf8EncodeChar, bound, ↓reduceIte]
  rfl

theorem encode_ascii (text : List Char) (ascii : ∀ c ∈ text, c.toNat < 0x80) :
    encode text = text.map fun c => UInt8.ofNat c.toNat := by
  induction text with
  | nil => rfl
  | cons c rest ih =>
      obtain ⟨first, others⟩ := List.forall_mem_cons.mp ascii
      rw [encode_cons, encodeChar_ascii c first, ih others]
      rfl

theorem encodeChar_not_ascii (c : Char) (high : 0x80 ≤ c.toNat) :
    ∀ byte ∈ String.utf8EncodeChar c, 0x80 ≤ byte.toNat := by
  have bound : ¬ c.val.toNat ≤ 0x7F := Nat.not_le.mpr high
  intro byte member
  simp only [String.utf8EncodeChar, bound, ↓reduceIte] at member
  split at member
  · simp only [List.mem_cons, List.not_mem_nil, or_false] at member
    rcases member with rfl | rfl <;> simp only [UInt8.toNat_ofNat'] <;> omega
  · split at member
    · simp only [List.mem_cons, List.not_mem_nil, or_false] at member
      rcases member with rfl | rfl | rfl <;> simp only [UInt8.toNat_ofNat'] <;> omega
    · simp only [List.mem_cons, List.not_mem_nil, or_false] at member
      rcases member with rfl | rfl | rfl | rfl <;> simp only [UInt8.toNat_ofNat'] <;> omega

theorem encodeChar_ne_nil (c : Char) : String.utf8EncodeChar c ≠ [] := by
  intro empty
  have positive := c.utf8Size_pos
  rw [← String.length_utf8EncodeChar, empty] at positive
  exact absurd positive (by decide)

theorem eq_of_ascii_mem_encodeChar {c : Char} {byte : UInt8} (ascii : byte.toNat < 0x80)
    (inside : byte ∈ String.utf8EncodeChar c) : Char.ofNat byte.toNat = c := by
  by_cases low : c.toNat < 0x80
  · rw [encodeChar_ascii c low, List.mem_singleton] at inside
    have code : byte.toNat = c.toNat := by
      rw [inside, UInt8.toNat_ofNat']
      omega
    rw [code, Char.ofNat_toNat]
  · have high := encodeChar_not_ascii c (by omega) byte inside
    omega

theorem mem_of_ascii_mem_encode (text : List Char) (byte : UInt8) (ascii : byte.toNat < 0x80)
    (present : byte ∈ encode text) : Char.ofNat byte.toNat ∈ text := by
  obtain ⟨c, member, inside⟩ := List.mem_flatMap.mp present
  rw [eq_of_ascii_mem_encodeChar ascii inside]
  exact member

theorem lowerByte_high (byte : UInt8) (high : 0x80 ≤ byte.toNat) :
    Bytes.lowerByte byte = byte := by
  have outside : ¬ byte ≤ 0x5A := by
    rw [UInt8.le_iff_toNat_le]
    simp only [UInt8.reduceToNat]
    omega
  simp [Bytes.lowerByte, outside]

section

-- A change of ASCII characters, done in characters or in bytes.
variable {change : Char → Char} {changeByte : UInt8 → UInt8}
  (ascii : ∀ code < 0x80, String.utf8EncodeChar (change (Char.ofNat code)) =
    (String.utf8EncodeChar (Char.ofNat code)).map changeByte)
  (above : ∀ c, 0x80 ≤ c.toNat → change c = c) (high : ∀ byte, 0x80 ≤ byte.toNat → changeByte byte = byte)

include ascii above high

theorem encodeChar_map (c : Char) :
    String.utf8EncodeChar (change c) = (String.utf8EncodeChar c).map changeByte := by
  by_cases low : c.toNat < 0x80
  · apply Ascii.of_codes c low
    exact ascii
  · have kept (byte : UInt8) (member : byte ∈ String.utf8EncodeChar c) : changeByte byte = id byte :=
      high byte (encodeChar_not_ascii c (by omega) byte member)
    rw [above c (by omega), List.map_congr_left kept, List.map_id]

theorem encode_map (text : List Char) : encode (text.map change) = (encode text).map changeByte := by
  induction text with
  | nil => rfl
  | cons c rest ih =>
      rw [List.map_cons, encode_cons, encode_cons, List.map_append, encodeChar_map ascii above high, ih]

end

theorem encode_map_toLower (text : List Char) :
    encode (text.map Char.toLower) = (encode text).map Bytes.lowerByte :=
  encode_map (by decide) Ascii.toLower_of_not_ascii lowerByte_high text

theorem encodeChar_append_injective (a b : Char) (afterA afterB : Bytes)
    (same : String.utf8EncodeChar a ++ afterA = String.utf8EncodeChar b ++ afterB) :
    a = b ∧ afterA = afterB := by
  have read (c : Char) (after : Bytes) :
      (String.utf8EncodeChar c ++ after).toByteArray.utf8DecodeChar? 0 = some c := by
    rw [List.toByteArray_append]
    exact ByteArray.utf8DecodeChar?_utf8EncodeChar_append
  have chars : some a = some b := by rw [← read a afterA, ← read b afterB, same]
  cases chars
  exact ⟨rfl, List.append_cancel_left same⟩

theorem prefix_of_encode_prefix (front text : List Char)
    (starts : encode front <+: encode text) : front <+: text := by
  induction front generalizing text with
  | nil => exact List.nil_prefix
  | cons a front ih =>
      obtain ⟨after, split⟩ := starts
      rw [encode_cons, List.append_assoc] at split
      cases text with
      | nil =>
          have empty := (List.append_eq_nil_iff.mp split).1
          exact absurd empty String.utf8EncodeChar_ne_nil
      | cons b text =>
          rw [encode_cons] at split
          obtain ⟨rfl, rest⟩ := encodeChar_append_injective a b _ _ split
          exact List.cons_prefix_cons.mpr ⟨rfl, ih text ⟨after, rest⟩⟩

section

variable {byte : UInt8} (ascii : byte.toNat < 0x80)

include ascii

theorem below_tails (bound : UInt8) (high : 0x80 ≤ bound.toNat) (other : Bool) :
    (decide (bound ≤ byte) && other) = false := by
  rw [Bool.and_eq_false_iff, decide_eq_false_iff_not, UInt8.le_iff_toNat_le]
  exact .inl (by omega)

theorem isTail_ascii : isTail byte = false := below_tails ascii 0x80 (by decide) _

theorem isSecond_ascii (lead : UInt8) : isSecond lead byte = false := by
  rw [isSecond]
  repeat' split
  · exact below_tails ascii 0xA0 (by decide) _
  · exact below_tails ascii 0x80 (by decide) _
  · exact below_tails ascii 0x90 (by decide) _
  · exact below_tails ascii 0x80 (by decide) _
  · exact isTail_ascii ascii

theorem decode_ascii (back : Bytes) : decode (byte :: back) = some (Char.ofNat byte.toNat) :: decode back := by
  have leads : following? byte = some 0 := if_pos (UInt8.lt_iff_toNat_lt.mpr ascii)
  rw [decode, leads]
  rfl

theorem decode_append_ascii (front back : Bytes) :
    decode (front ++ byte :: back) = decode front ++ some (Char.ofNat byte.toNat) :: decode back := by
  have tail := isTail_ascii ascii
  have second := isSecond_ascii ascii
  have alone := decode_ascii ascii back
  fun_induction decode front with
  | case1 => exact alone
  -- In these three a character is cut off, and the byte is read in place of its next one.
  | case4 lead following more leads =>
      rw [List.cons_append, decode]
      simp [leads, second, alone]
  | case7 lead following more leads second good notOne =>
      rw [List.cons_append, decode]
      simp_all
  | case10 lead following more leads second good notOne third tail notTwo =>
      rw [List.cons_append, decode]
      simp_all
  | case2 | case3 | case5 | case6 | case8 | case9 | case11 | case12 =>
      rw [List.cons_append, decode]
      simp_all

theorem decodeLossy_append_ascii (front back : Bytes) :
    decodeLossy (front ++ byte :: back) = decodeLossy front ++ Char.ofNat byte.toNat :: decodeLossy back := by
  simp only [decodeLossy, decode_append_ascii ascii, List.map_append, List.map_cons, Option.getD_some]

end

theorem decodeLossy_append_separator (front back : Bytes) :
    decodeLossy (front ++ 0x2F :: back) = decodeLossy front ++ '/' :: decodeLossy back :=
  decodeLossy_append_ascii (by decide) front back

theorem toNat_byte (n : Nat) (small : n < 256) : (UInt8.ofNat n).toNat = n := by
  rw [UInt8.toNat_ofNat', Nat.mod_eq_of_lt small]

theorem tailBits_byte (n : Nat) (small : n < 64) : tailBits (UInt8.ofNat (n + 128)) = n := by
  rw [tailBits, toNat_byte _ (by omega)]
  omega

theorem isTail_byte (n : Nat) (small : n < 64) : isTail (UInt8.ofNat (n + 128)) = true := by
  have byte : (UInt8.ofNat (n + 128)).toNat = n + 128 := toNat_byte _ (by omega)
  simp only [isTail, Bool.and_eq_true, decide_eq_true_eq, UInt8.le_iff_toNat_le, byte, UInt8.reduceToNat]
  omega

theorem not_isTail_byte (n : Nat) (small : n < 256) (lead : n < 0x80 ∨ 0xBF < n) :
    isTail (UInt8.ofNat n) = false := by
  simp only [isTail, Bool.and_eq_false_iff, decide_eq_false_iff_not, UInt8.le_iff_toNat_le,
    toNat_byte n small, UInt8.reduceToNat]
  omega

/-- Only the first byte of a character is one that can not follow another. -/
theorem encodeChar_lead (c : Char) :
    ∃ lead following, String.utf8EncodeChar c = lead :: following ∧ isTail lead = false ∧
      ∀ byte ∈ following, isTail byte = true := by
  rw [String.utf8EncodeChar]
  generalize c.val.toNat = n
  split
  · exact ⟨_, [], rfl, not_isTail_byte n (by omega) (by omega), nofun⟩
  split
  · refine ⟨_, _, rfl, not_isTail_byte _ (by omega) (by omega), ?_⟩
    simp only [List.mem_cons, List.not_mem_nil, or_false, forall_eq]
    exact isTail_byte _ (by omega)
  split
  · refine ⟨_, _, rfl, not_isTail_byte _ (by omega) (by omega), ?_⟩
    simp only [List.mem_cons, List.not_mem_nil, or_false, forall_eq_or_imp, forall_eq]
    exact ⟨isTail_byte _ (by omega), isTail_byte _ (by omega)⟩
  · refine ⟨_, _, rfl, not_isTail_byte _ (by omega) (by omega), ?_⟩
    simp only [List.mem_cons, List.not_mem_nil, or_false, forall_eq_or_imp, forall_eq]
    exact ⟨isTail_byte _ (by omega), isTail_byte _ (by omega), isTail_byte _ (by omega)⟩

theorem following?_byte (lead : Nat) (small : lead < 256) :
    following? (UInt8.ofNat lead) =
      if lead < 0x80 then some 0
      else if 0xC2 ≤ lead ∧ lead ≤ 0xDF then some 1
      else if 0xE0 ≤ lead ∧ lead ≤ 0xEF then some 2
      else if 0xF0 ≤ lead ∧ lead ≤ 0xF4 then some 3
      else none := by
  simp only [following?, Bool.and_eq_true, decide_eq_true_eq, UInt8.le_iff_toNat_le, UInt8.lt_iff_toNat_lt,
    toNat_byte lead small, UInt8.reduceToNat]

theorem isSecond_byte (lead second : Nat) (small : lead < 256) (tail : second < 64)
    (above : lead = 0xE0 → 32 ≤ second) (surrogate : lead = 0xED → second < 32)
    (long : lead = 0xF0 → 16 ≤ second) (below : lead = 0xF4 → second < 16) :
    isSecond (UInt8.ofNat lead) (UInt8.ofNat (second + 128)) = true := by
  have byte : (UInt8.ofNat (second + 128)).toNat = second + 128 := toNat_byte _ (by omega)
  simp only [isSecond, isTail, beq_iff_eq, ← UInt8.toNat_inj, toNat_byte lead small, UInt8.reduceToNat]
  repeat' split
  all_goals
    simp only [Bool.and_eq_true, decide_eq_true_eq, UInt8.le_iff_toNat_le, byte, UInt8.reduceToNat]
    omega

section

variable (lead second third fourth : UInt8) (rest : Bytes) (good : isSecond lead second = true)

include good

theorem decode_two (leads : following? lead = some 1) :
    decode (lead :: second :: rest) =
      some (Char.ofNat (lead.toNat % 0x20 * 0x40 + tailBits second)) :: decode rest := by
  rw [decode]
  simp only [leads, good, Bool.not_true, Bool.false_eq_true, ↓reduceIte]

theorem decode_three (leads : following? lead = some 2) (tail : isTail third = true) :
    decode (lead :: second :: third :: rest) =
      some (Char.ofNat ((lead.toNat % 0x10 * 0x40 + tailBits second) * 0x40 + tailBits third)) ::
        decode rest := by
  rw [decode]
  simp only [leads, good, tail, Bool.not_true, Bool.false_eq_true, ↓reduceIte]
  rfl

theorem decode_four (leads : following? lead = some 3) (tail : isTail third = true)
    (last : isTail fourth = true) :
    decode (lead :: second :: third :: fourth :: rest) =
      some (Char.ofNat (((lead.toNat % 0x08 * 0x40 + tailBits second) * 0x40 + tailBits third) * 0x40 +
        tailBits fourth)) :: decode rest := by
  rw [decode]
  simp only [leads, good, tail, last, Bool.not_true, Bool.false_eq_true, ↓reduceIte]
  rfl

end

theorem decode_encodeChar (c : Char) (rest : Bytes) :
    decode (String.utf8EncodeChar c ++ rest) = some c :: decode rest := by
  have valid : c.val.toNat < 0xD800 ∨ (0xDFFF < c.val.toNat ∧ c.val.toNat < 0x110000) := c.valid
  have code : Char.ofNat c.val.toNat = c := Char.ofNat_toNat c
  rw [String.utf8EncodeChar]
  generalize c.val.toNat = n at valid code
  split
  · have leads : following? (UInt8.ofNat n) = some 0 := by
      rw [following?_byte n (by omega), if_pos (by omega)]
    have lead := toNat_byte n (by omega)
    simp only [List.cons_append, List.nil_append, decode, leads, lead, code]
  split
  · have leads : following? (UInt8.ofNat (n / 64 % 32 + 192)) = some 1 := by
      rw [following?_byte _ (by omega), if_neg (by omega), if_pos (by omega)]
    have lead := toNat_byte (n / 64 % 32 + 192) (by omega)
    have second := isSecond_byte (n / 64 % 32 + 192) (n % 64) (by omega) (by omega) (by omega) (by omega)
      (by omega) (by omega)
    have bits := tailBits_byte (n % 64) (by omega)
    have whole : (n / 64 % 32 + 192) % 0x20 * 0x40 + n % 64 = n := by omega
    simp only [List.cons_append, List.nil_append, decode_two _ _ rest second leads, lead, bits, whole, code]
  split
  · have leads : following? (UInt8.ofNat (n / 4096 % 16 + 224)) = some 2 := by
      rw [following?_byte _ (by omega), if_neg (by omega), if_neg (by omega), if_pos (by omega)]
    have lead := toNat_byte (n / 4096 % 16 + 224) (by omega)
    have second := isSecond_byte (n / 4096 % 16 + 224) (n / 64 % 64) (by omega) (by omega) (by omega)
      (by omega) (by omega) (by omega)
    have third := isTail_byte (n % 64) (by omega)
    have middle := tailBits_byte (n / 64 % 64) (by omega)
    have bits := tailBits_byte (n % 64) (by omega)
    have whole : ((n / 4096 % 16 + 224) % 0x10 * 0x40 + n / 64 % 64) * 0x40 + n % 64 = n := by omega
    simp only [List.cons_append, List.nil_append, decode_three _ _ _ rest second leads third, lead, middle, bits,
      whole, code]
  · have leads : following? (UInt8.ofNat (n / 262144 % 8 + 240)) = some 3 := by
      rw [following?_byte _ (by omega), if_neg (by omega), if_neg (by omega), if_neg (by omega),
        if_pos (by omega)]
    have lead := toNat_byte (n / 262144 % 8 + 240) (by omega)
    have second := isSecond_byte (n / 262144 % 8 + 240) (n / 4096 % 64) (by omega) (by omega) (by omega)
      (by omega) (by omega) (by omega)
    have third := isTail_byte (n / 64 % 64) (by omega)
    have fourth := isTail_byte (n % 64) (by omega)
    have first := tailBits_byte (n / 4096 % 64) (by omega)
    have middle := tailBits_byte (n / 64 % 64) (by omega)
    have bits := tailBits_byte (n % 64) (by omega)
    have whole : (((n / 262144 % 8 + 240) % 0x08 * 0x40 + n / 4096 % 64) * 0x40 + n / 64 % 64) * 0x40 +
        n % 64 = n := by omega
    simp only [List.cons_append, List.nil_append, decode_four _ _ _ _ rest second leads third fourth, lead, first,
      middle, bits, whole, code]

theorem decode_encode (text : List Char) : decode (encode text) = text.map some := by
  induction text with
  | nil => rfl
  | cons c rest ih => rw [encode_cons, decode_encodeChar, ih, List.map_cons]

theorem decodeLossy_encode (text : List Char) : decodeLossy (encode text) = text := by
  rw [decodeLossy, decode_encode, List.map_map]
  exact List.map_id text

theorem decode?_encode (text : List Char) : decode? (encode text) = some text := by
  rw [decode?, decode_encode]
  induction text with
  | nil => rfl
  | cons c text ih =>
      rw [List.map_cons, List.mapM_cons, ih]
      rfl

theorem eq_of_encode {text other : List Char} (same : encode text = encode other) : text = other := by
  rw [← decodeLossy_encode text, same, decodeLossy_encode]

theorem toNat_ofNat {code : Nat} (valid : code.isValidChar) : (Char.ofNat code).toNat = code := by
  have made : Char.ofNat code = Char.ofNatAux code valid := dif_pos valid
  rw [made]
  rfl

theorem toNat_ofNat_high (code : Nat) (high : 0x80 ≤ code) :
    (Char.ofNat code).toNat = 0 ∨ 0x80 ≤ (Char.ofNat code).toNat := by
  by_cases valid : code.isValidChar
  · right
    rw [toNat_ofNat valid]
    exact high
  · have none : Char.ofNat code = Char.ofNat 0 := dif_neg valid
    exact .inl (congrArg Char.toNat none)

theorem following?_eq_some {lead : UInt8} {following : Nat} (leads : following? lead = some following) :
    (following = 0 ∧ lead.toNat < 0x80) ∨
      (following = 1 ∧ 0xC2 ≤ lead.toNat ∧ lead.toNat ≤ 0xDF) ∨
      (following = 2 ∧ 0xE0 ≤ lead.toNat ∧ lead.toNat ≤ 0xEF) ∨
      (following = 3 ∧ 0xF0 ≤ lead.toNat ∧ lead.toNat ≤ 0xF4) := by
  have byte := following?_byte lead.toNat lead.toNat_lt
  rw [UInt8.ofNat_toNat, leads] at byte
  grind

theorem isSecond_long (lead second : UInt8) (good : isSecond lead second = true) :
    (lead.toNat = 0xE0 → 32 ≤ tailBits second) ∧ (lead.toNat = 0xF0 → 16 ≤ tailBits second) := by
  rw [tailBits]
  constructor
  · intro same
    obtain rfl : lead = 0xE0 := UInt8.toNat_inj.mp same
    have range : (0xA0 ≤ second && second ≤ 0xBF) = true := good
    simp only [Bool.and_eq_true, decide_eq_true_eq, UInt8.le_iff_toNat_le, UInt8.reduceToNat] at range
    omega
  · intro same
    obtain rfl : lead = 0xF0 := UInt8.toNat_inj.mp same
    have range : (0x90 ≤ second && second ≤ 0xBF) = true := good
    simp only [Bool.and_eq_true, decide_eq_true_eq, UInt8.le_iff_toNat_le, UInt8.reduceToNat] at range
    omega

theorem decode_step (bytes : Bytes) :
    bytes = [] ∨ ∃ lead rest first back, bytes = lead :: rest ∧ decode bytes = first :: decode back ∧ back <:+ rest ∧
      ∀ c, first = some c → c.toNat ≠ 0 → c.toNat < 0x80 → lead = UInt8.ofNat c.toNat ∧ back = rest := by
  have outside (code : Nat) (high : 0x80 ≤ code) (c : Char) (read : some (Char.ofNat code) = some c)
      (inhabited : c.toNat ≠ 0) (low : c.toNat < 0x80) : False := by
    cases read
    rcases toNat_ofNat_high code high with nul | high
    · exact inhabited nul
    · omega
  fun_cases decode bytes with
  | case1 => exact .inl rfl
  | case3 lead rest leads =>
      have range := following?_eq_some leads
      have valid : lead.toNat.isValidChar := .inl (by omega)
      refine .inr ⟨lead, rest, _, rest, rfl, rfl, List.suffix_refl _, ?_⟩
      intro c read _ _
      cases read
      rw [toNat_ofNat valid, UInt8.ofNat_toNat]
      exact ⟨rfl, rfl⟩
  -- In these a part of the text is no character.
  | case2 lead | case4 lead | case5 lead =>
      exact .inr ⟨lead, _, none, _, rfl, rfl, List.suffix_refl _, nofun⟩
  | case7 lead | case8 lead =>
      exact .inr ⟨lead, _, none, _, rfl, rfl, List.suffix_cons _ _, nofun⟩
  | case10 lead | case11 lead =>
      exact .inr ⟨lead, _, none, _, rfl, rfl, (List.suffix_cons _ _).trans (List.suffix_cons _ _), nofun⟩
  | case6 lead second rest good _ leads =>
      have range := following?_eq_some leads
      refine .inr ⟨lead, _, _, rest, rfl, rfl, List.suffix_cons _ _, ?_⟩
      intro c read inhabited low
      exact (outside _ (by omega) c read inhabited low).elim
  | case9 lead second good third rest tail _ leads =>
      have range := following?_eq_some leads
      have long := isSecond_long lead second (by simpa using good)
      refine .inr ⟨lead, _, _, rest, rfl, rfl, (List.suffix_cons _ _).trans (List.suffix_cons _ _), ?_⟩
      intro c read inhabited low
      exact (outside _ (by omega) c read inhabited low).elim
  | case12 lead following notZero leads second good notOne third tail notTwo fourth rest last =>
      have notZero : following ≠ 0 := notZero
      have range := following?_eq_some leads
      have long := isSecond_long lead second (by simpa using good)
      refine .inr ⟨lead, _, _, rest, rfl, rfl, ?_, ?_⟩
      · exact (List.suffix_cons _ _).trans ((List.suffix_cons _ _).trans (List.suffix_cons _ _))
      · intro c read inhabited low
        exact (outside _ (by omega) c read inhabited low).elim

theorem mem_of_mem_decodeLossy (c : Char) (inhabited : c.toNat ≠ 0) (low : c.toNat < 0x80) (bytes : Bytes)
    (member : c ∈ decodeLossy bytes) : UInt8.ofNat c.toNat ∈ bytes := by
  induction size : bytes.length using Nat.strongRecOn generalizing bytes with
  | ind length ih =>
      rcases decode_step bytes with rfl | ⟨lead, rest, first, back, rfl, read, behind, single⟩
      · cases member
      · rw [decodeLossy, read, List.map_cons] at member
        rcases List.mem_cons.mp member with here | later
        · cases first with
          | none =>
              rw [here] at low
              exact absurd low (by decide)
          | some first =>
              obtain ⟨rfl, _⟩ := single c (congrArg some here.symm) inhabited low
              exact List.mem_cons_self
        · have shorter : back.length < length := by
            rw [← size, List.length_cons]
            exact Nat.lt_succ_of_le behind.length_le
          exact List.mem_cons_of_mem _ (behind.mem (ih _ shorter back later rfl))

theorem eq_encode_of_decodeLossy (text : List Char) (plain : ∀ c ∈ text, c.toNat ≠ 0 ∧ c.toNat < 0x80)
    (bytes : Bytes) (read : decodeLossy bytes = text) : bytes = encode text := by
  induction text generalizing bytes with
  | nil =>
      rcases decode_step bytes with rfl | ⟨lead, rest, first, back, rfl, step, _⟩
      · rfl
      · rw [decodeLossy, step] at read
        cases read
  | cons c text ih =>
      obtain ⟨⟨inhabited, low⟩, others⟩ := List.forall_mem_cons.mp plain
      rcases decode_step bytes with rfl | ⟨lead, rest, first, back, rfl, step, _, single⟩
      · cases read
      · rw [decodeLossy, step, List.map_cons, List.cons_eq_cons] at read
        obtain ⟨here, later⟩ := read
        cases first with
        | none =>
            rw [← here] at low
            exact absurd low (by decide)
        | some first =>
            obtain ⟨rfl, rfl⟩ := single c (congrArg some here) inhabited low
            rw [encode_cons, encodeChar_ascii c low, ih others back later]
            rfl

end FileSieve.Utf8
