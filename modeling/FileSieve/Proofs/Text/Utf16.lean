import FileSieve.Output.Match
import FileSieve.Proofs.Text.Utf8

/-! UTF-16 both ways. A character is one unit or a pair, and no two texts have the same units; bytes are read if they
are the bytes of some text, and refused if a byte is left over or half of a pair stands alone. -/

namespace FileSieve

namespace Utf16

def IsHigh (unit : Nat) : Prop := 0xD800 ≤ unit ∧ unit < 0xDC00

def IsLow (unit : Nat) : Prop := 0xDC00 ≤ unit ∧ unit < 0xE000

/-- Somewhere a high surrogate has no low one right behind it, or a low one has no high one right in front. -/
def Unpaired (units : List Nat) : Prop :=
  ∃ before unit after, units = before ++ unit :: after ∧
    (IsHigh unit ∧ (∀ next ∈ after.head?, ¬ IsLow next) ∨ IsLow unit ∧ ∀ last ∈ before.getLast?, ¬ IsHigh last)

theorem toNat_lt (c : Char) : c.toNat < 0x110000 := by
  rcases c.valid with low | high
  · exact Nat.lt_trans low (by decide)
  · exact high.2

theorem not_surrogate (c : Char) : c.toNat < 0xD800 ∨ 0xE000 ≤ c.toNat := by
  rcases c.valid with low | high
  · exact .inl low
  · exact .inr high.1

theorem units_single (c : Char) (basic : c.toNat < 0x10000) : units c = [c.toNat] := if_pos basic

theorem units_pair (c : Char) (supplementary : 0x10000 ≤ c.toNat) :
    units c = [0xD800 + (c.toNat - 0x10000) / 0x400, 0xDC00 + (c.toNat - 0x10000) % 0x400] :=
  if_neg (Nat.not_lt.mpr supplementary)

theorem units_small (c : Char) : ∀ unit ∈ units c, unit < 0x10000 := by
  have last := toNat_lt c
  intro unit member
  by_cases basic : c.toNat < 0x10000
  · rw [units_single c basic, List.mem_singleton] at member
    omega
  · simp only [units_pair c (Nat.not_lt.mp basic), List.mem_cons, List.not_mem_nil, or_false] at member
    omega

theorem characters?_single (unit : Nat) (rest : List Nat) (whole : unit < 0xD800 ∨ 0xE000 ≤ unit) :
    characters? (unit :: rest) = (characters? rest).map (Char.ofNat unit :: ·) := by
  rw [characters?.eq_def]
  simp [whole]

theorem characters?_pair (high low : Nat) (rest : List Nat) (first : IsHigh high) (second : IsLow low) :
    characters? (high :: low :: rest) =
      (characters? rest).map (Char.ofNat (0x10000 + (high - 0xD800) * 0x400 + (low - 0xDC00)) :: ·) := by
  obtain ⟨least, most⟩ := first
  obtain ⟨lowLeast, lowMost⟩ := second
  have half : ¬ (high < 0xD800 ∨ 0xE000 ≤ high) := by omega
  rw [characters?.eq_def]
  simp [half, most, lowLeast, lowMost]

theorem characters?_units (c : Char) (rest : List Nat) :
    characters? (units c ++ rest) = (characters? rest).map (c :: ·) := by
  have last := toNat_lt c
  by_cases basic : c.toNat < 0x10000
  · rw [units_single c basic, List.singleton_append, characters?_single _ _ (not_surrogate c), Char.ofNat_toNat]
  · have code : 0x10000 + (0xD800 + (c.toNat - 0x10000) / 0x400 - 0xD800) * 0x400 +
        (0xDC00 + (c.toNat - 0x10000) % 0x400 - 0xDC00) = c.toNat := by
      omega
    rw [units_pair c (by omega), List.cons_append, List.cons_append, List.nil_append,
      characters?_pair _ _ _ ⟨by omega, by omega⟩ ⟨by omega, by omega⟩, code, Char.ofNat_toNat]

theorem characters?_flatMap_units (text : List Char) : characters? (text.flatMap units) = some text := by
  induction text with
  | nil => rfl
  | cons c rest ih => rw [List.flatMap_cons, characters?_units, ih, Option.map_some]

theorem units_ofNat_single (unit : Nat) (small : unit < 0x10000) (whole : unit < 0xD800 ∨ 0xE000 ≤ unit) :
    units (Char.ofNat unit) = [unit] := by
  have valid : unit.isValidChar := by
    rw [Nat.isValidChar]
    omega
  have code := Utf8.toNat_ofNat valid
  rw [units_single _ (by omega), code]

theorem units_ofNat_pair (high low : Nat) (first : IsHigh high) (second : IsLow low) :
    units (Char.ofNat (0x10000 + (high - 0xD800) * 0x400 + (low - 0xDC00))) = [high, low] := by
  obtain ⟨least, most⟩ := first
  obtain ⟨lowLeast, lowMost⟩ := second
  have valid : (0x10000 + (high - 0xD800) * 0x400 + (low - 0xDC00)).isValidChar := by
    rw [Nat.isValidChar]
    omega
  have code := Utf8.toNat_ofNat valid
  have front : 0xD800 + (0x10000 + (high - 0xD800) * 0x400 + (low - 0xDC00) - 0x10000) / 0x400 = high := by
    omega
  have back : 0xDC00 + (0x10000 + (high - 0xD800) * 0x400 + (low - 0xDC00) - 0x10000) % 0x400 = low := by
    omega
  rw [units_pair _ (by omega), code, front, back]

theorem unpaired_append (front rest : List Nat) (paired : ¬ Unpaired front)
    (closed : ∀ last ∈ front.getLast?, ¬ IsHigh last) : Unpaired (front ++ rest) ↔ Unpaired rest := by
  constructor
  · rintro ⟨before, unit, after, split, alone⟩
    rcases List.append_eq_append_iff.mp split with ⟨between, rfl, rfl⟩ | ⟨between, rfl, behind⟩
    · refine ⟨between, unit, after, rfl, alone.imp_right fun ⟨low, unopened⟩ => ⟨low, ?_⟩⟩
      intro last found
      rw [Option.mem_def] at found
      apply unopened
      rw [List.getLast?_append, found]
      rfl
    -- If the front part ends right before the half, the half is the first unit of the rest.
    · cases between with
      | nil =>
          refine ⟨[], unit, after, behind.symm, alone.imp_right fun ⟨low, _⟩ => ⟨low, nofun⟩⟩
      | cons first between =>
          have following : after = between ++ rest := (List.cons.inj behind).2
          obtain rfl := (List.cons.inj behind).1
          rw [following] at alone
          refine absurd ⟨before, unit, between, rfl, alone.imp_left fun ⟨high, unclosed⟩ => ⟨high, ?_⟩⟩ paired
          intro next found
          apply unclosed
          rw [List.head?_append, Option.mem_def.mp found]
          rfl
  · rintro ⟨before, unit, after, rfl, alone⟩
    refine ⟨front ++ before, unit, after, (List.append_assoc _ _ _).symm, ?_⟩
    refine alone.imp_right fun ⟨low, unopened⟩ => ⟨low, ?_⟩
    rw [List.getLast?_append]
    cases ends : before.getLast? with
    | none => exact closed
    | some last =>
        rw [ends] at unopened
        exact unopened

theorem not_unpaired_single (unit : Nat) (whole : unit < 0xD800 ∨ 0xE000 ≤ unit) : ¬ Unpaired [unit] := by
  rintro ⟨before, other, after, split, alone⟩
  cases before with
  | nil =>
      cases split
      rcases alone with ⟨⟨least, most⟩, _⟩ | ⟨⟨least, most⟩, _⟩ <;> omega
  | cons first before => simp at split

theorem not_unpaired_pair (high low : Nat) (first : IsHigh high) (second : IsLow low) : ¬ Unpaired [high, low] := by
  rintro ⟨before, other, after, split, alone⟩
  match before with
  | [] =>
      cases split
      rcases alone with ⟨_, unclosed⟩ | ⟨least, _⟩
      · exact unclosed low rfl second
      · exact absurd first.2 (Nat.not_lt.mpr least.1)
  | [_] =>
      cases split
      rcases alone with ⟨least, _⟩ | ⟨_, unopened⟩
      · exact absurd least.2 (Nat.not_lt.mpr second.1)
      · exact unopened high rfl first
  | _ :: _ :: before => simp at split

theorem unpaired_of_half (unit : Nat) (rest : List Nat) (half : 0xD800 ≤ unit ∧ unit < 0xE000)
    (alone : IsHigh unit → ∀ next ∈ rest.head?, ¬ IsLow next) : Unpaired (unit :: rest) := by
  refine ⟨[], unit, rest, rfl, ?_⟩
  by_cases first : unit < 0xDC00
  · exact .inl ⟨⟨half.1, first⟩, alone ⟨half.1, first⟩⟩
  · exact .inr ⟨⟨Nat.not_lt.mp first, half.2⟩, nofun⟩

theorem characters?_eq_none_iff (units : List Nat) : characters? units = none ↔ Unpaired units := by
  fun_induction characters? units with
  | case1 =>
      refine ⟨nofun, ?_⟩
      rintro ⟨before, unit, after, split, _⟩
      exact absurd split.symm (List.append_ne_nil_of_right_ne_nil _ (List.cons_ne_nil _ _))
  | case2 unit rest whole ih =>
      simp only [Bool.or_eq_true, decide_eq_true_eq] at whole
      have closed : ∀ last ∈ [unit].getLast?, ¬ IsHigh last := by
        rintro last ⟨⟩ ⟨least, most⟩
        rw [List.getLast_singleton] at least most
        omega
      rw [Option.map_eq_none_iff, ih]
      exact (unpaired_append [unit] rest (not_unpaired_single unit whole) closed).symm
  | case3 unit half =>
      simp only [Bool.or_eq_true, decide_eq_true_eq, not_or] at half
      exact ⟨fun _ => unpaired_of_half unit [] (by omega) (fun _ => nofun), fun _ => rfl⟩
  | case4 high half low rest paired ih =>
      simp only [Bool.or_eq_true, Bool.and_eq_true, decide_eq_true_eq, not_or] at half paired
      have first : IsHigh high := ⟨by omega, paired.1.1⟩
      have second : IsLow low := ⟨paired.1.2, paired.2⟩
      have closed : ∀ last ∈ [high, low].getLast?, ¬ IsHigh last := by
        rintro last ⟨⟩ ⟨_, most⟩
        exact Nat.not_lt.mpr second.1 most
      rw [Option.map_eq_none_iff, ih]
      exact (unpaired_append [high, low] rest (not_unpaired_pair high low first second) closed).symm
  | case5 unit half next rest alone =>
      simp only [Bool.or_eq_true, Bool.and_eq_true, decide_eq_true_eq, not_or] at half alone
      refine ⟨fun _ => unpaired_of_half unit (next :: rest) (by omega) ?_, fun _ => rfl⟩
      rintro ⟨_, most⟩ _ ⟨⟩ ⟨least, last⟩
      exact alone ⟨⟨most, least⟩, last⟩

theorem characters?_eq_some_iff (read : List Nat) (small : ∀ unit ∈ read, unit < 0x10000) (text : List Char) :
    characters? read = some text ↔ read = text.flatMap units := by
  constructor
  · intro found
    fun_induction characters? read generalizing text with
    | case1 =>
        cases found
        rfl
    | case2 unit rest whole ih =>
        simp only [Bool.or_eq_true, decide_eq_true_eq] at whole
        obtain ⟨basic, others⟩ := List.forall_mem_cons.mp small
        obtain ⟨back, behind, rfl⟩ := Option.map_eq_some_iff.mp found
        rw [List.flatMap_cons, units_ofNat_single unit basic whole, ← ih others back behind, List.singleton_append]
    | case4 high half low rest paired ih =>
        simp only [Bool.or_eq_true, Bool.and_eq_true, decide_eq_true_eq, not_or] at half paired
        have others := (List.forall_mem_cons.mp (List.forall_mem_cons.mp small).2).2
        obtain ⟨back, behind, rfl⟩ := Option.map_eq_some_iff.mp found
        rw [List.flatMap_cons, units_ofNat_pair high low ⟨by omega, paired.1.1⟩ ⟨paired.1.2, paired.2⟩,
          ← ih others back behind]
        rfl
    | case3 | case5 => cases found
  · rintro rfl
    exact characters?_flatMap_units text

theorem units?_unitBytes (unit : Nat) (small : unit < 0x10000) (rest : Bytes) :
    units? (unitBytes unit ++ rest) = (units? rest).map (unit :: ·) := by
  have value : (UInt8.ofNat unit).toNat + 0x100 * (UInt8.ofNat (unit / 0x100)).toNat = unit := by
    rw [UInt8.toNat_ofNat', UInt8.toNat_ofNat']
    omega
  rw [unitBytes, List.cons_append, List.singleton_append, units?, value]

theorem units?_flatMap_unitBytes (units : List Nat) (small : ∀ unit ∈ units, unit < 0x10000) :
    units? (units.flatMap unitBytes) = some units := by
  induction units with
  | nil => rfl
  | cons unit rest ih =>
      obtain ⟨first, others⟩ := List.forall_mem_cons.mp small
      rw [List.flatMap_cons, units?_unitBytes unit first, ih others, Option.map_some]

theorem units?_eq_some {bytes : Bytes} {units : List Nat} (found : units? bytes = some units) :
    bytes = units.flatMap unitBytes ∧ ∀ unit ∈ units, unit < 0x10000 := by
  fun_induction units? bytes generalizing units with
  | case1 =>
      cases found
      exact ⟨rfl, nofun⟩
  | case2 => cases found
  | case3 low high rest ih =>
      obtain ⟨others, behind, rfl⟩ := Option.map_eq_some_iff.mp found
      obtain ⟨same, small⟩ := ih behind
      have lowByte := low.toNat_lt
      have highByte := high.toNat_lt
      have front : UInt8.ofNat (low.toNat + 0x100 * high.toNat) = low := by
        apply UInt8.toNat_inj.mp
        rw [UInt8.toNat_ofNat']
        omega
      have back : UInt8.ofNat ((low.toNat + 0x100 * high.toNat) / 0x100) = high := by
        apply UInt8.toNat_inj.mp
        rw [UInt8.toNat_ofNat']
        omega
      refine ⟨?_, List.forall_mem_cons.mpr ⟨by omega, small⟩⟩
      rw [List.flatMap_cons, unitBytes, front, back, ← same]
      rfl

theorem units?_eq_none_iff (bytes : Bytes) : units? bytes = none ↔ bytes.length % 2 = 1 := by
  fun_induction units? bytes with
  | case1 => simp
  | case2 => simp
  | case3 low high rest ih =>
      rw [Option.map_eq_none_iff, ih, List.length_cons, List.length_cons]
      omega

theorem flatMap_units_small (text : List Char) : ∀ unit ∈ text.flatMap units, unit < 0x10000 := by
  intro unit member
  obtain ⟨c, _, inside⟩ := List.mem_flatMap.mp member
  exact units_small c unit inside

theorem decode?_encode (text : List Char) : decode? (encode text) = some text := by
  rw [decode?, encode, units?_flatMap_unitBytes _ (flatMap_units_small text), Option.bind_some,
    characters?_flatMap_units]

theorem decode?_eq_some_iff (bytes : Bytes) (text : List Char) : decode? bytes = some text ↔ bytes = encode text := by
  constructor
  · intro read
    obtain ⟨units, found, characters⟩ := Option.bind_eq_some_iff.mp read
    obtain ⟨rfl, small⟩ := units?_eq_some found
    rw [encode, ← (characters?_eq_some_iff units small text).mp characters]
  · rintro rfl
    exact decode?_encode text

theorem decode?_eq_none_iff (bytes : Bytes) :
    decode? bytes = none ↔ bytes.length % 2 = 1 ∨
      ∃ units, (∀ unit ∈ units, unit < 0x10000) ∧ bytes = units.flatMap unitBytes ∧ Unpaired units := by
  rw [decode?, Option.bind_eq_none_iff, ← units?_eq_none_iff]
  constructor
  · intro refused
    cases found : units? bytes with
    | none => exact .inl rfl
    | some units =>
        obtain ⟨same, small⟩ := units?_eq_some found
        exact .inr ⟨units, small, same, (characters?_eq_none_iff units).mp (refused units found)⟩
  · rintro (odd | ⟨units, small, rfl, unpaired⟩) read found
    · rw [odd] at found
      cases found
    · rw [units?_flatMap_unitBytes units small] at found
      cases found
      exact (characters?_eq_none_iff units).mpr unpaired

theorem encode_flatMap (texts : List (List Char)) : texts.flatMap encode = encode texts.flatten := by
  induction texts with
  | nil => rfl
  | cons text texts ih =>
      rw [List.flatMap_cons, ih, List.flatten_cons, encode, encode, encode, List.flatMap_append, List.flatMap_append]

end Utf16

/-- Lines that are written in UTF-16 are read back behind the byte order mark, each with its line break, and whatever
bytes are read are just the ones that their text is written in. -/
theorem Stream.utf16_read_back (lines : List (List Char)) (bytes : Bytes) (text : List Char) :
    (∃ behind, encoded lines .utf16 = [0xFF, 0xFE] ++ behind ∧
      Utf16.decode? behind = some (lines.flatMap (· ++ ['\r', '\n']))) ∧
    (Utf16.decode? bytes = some text ↔ bytes = Utf16.encode text) ∧
    (Utf16.decode? bytes = none ↔ bytes.length % 2 = 1 ∨
      ∃ units, (∀ unit ∈ units, unit < 0x10000) ∧ bytes = units.flatMap Utf16.unitBytes ∧ Utf16.Unpaired units) := by
  refine ⟨⟨_, rfl, ?_⟩, Utf16.decode?_eq_some_iff bytes text, Utf16.decode?_eq_none_iff bytes⟩
  have whole : (lines.flatMap fun line => Utf16.encode (line ++ ['\r', '\n'])) =
      Utf16.encode (lines.flatMap (· ++ ['\r', '\n'])) := by
    rw [← List.flatMap_map, Utf16.encode_flatMap, ← List.flatMap_def]
  rw [whole]
  exact Utf16.decode?_encode _

end FileSieve
