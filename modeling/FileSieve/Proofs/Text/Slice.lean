import FileSieve.Text.Slice
import FileSieve.Proofs.Text.Utf8

namespace FileSieve.Slice

theorem size_singleton (c : Char) : size [c] = c.utf8Size := by
  rw [size_cons, size_nil, Nat.add_zero]

@[simp] theorem size_append (front back : List Char) : size (front ++ back) = size front + size back := by
  rw [size, Utf8.encode_append, List.length_append]
  rfl

theorem size_toList (text : String) : size text.toList = text.utf8ByteSize := by
  rw [← String.size_toByteArray, ← String.ofList_toList (s := text), String.toByteArray_ofList, String.toList_ofList]
  simp [List.utf8Encode, size, Utf8.encode]

theorem from?_cons (c : Char) (rest : List Char) (place : Nat) :
    from? (c :: rest) (c.utf8Size + place) = from? rest place := by
  obtain ⟨before, size⟩ := Nat.exists_eq_succ_of_ne_zero (Nat.ne_of_gt c.utf8Size_pos)
  rw [size, Nat.succ_add, from?, if_neg (by omega)]
  congr 1
  omega

theorem upTo?_cons (c : Char) (rest : List Char) (place : Nat) :
    upTo? (c :: rest) (c.utf8Size + place) = (upTo? rest place).map (c :: ·) := by
  obtain ⟨before, size⟩ := Nat.exists_eq_succ_of_ne_zero (Nat.ne_of_gt c.utf8Size_pos)
  rw [size, Nat.succ_add, upTo?, if_neg (by omega)]
  congr 2
  omega

theorem from?_size (front rest : List Char) : from? (front ++ rest) (size front) = some rest := by
  induction front with
  | nil => cases rest <;> rfl
  | cons c front ih => rw [List.cons_append, size_cons, from?_cons, ih]

theorem upTo?_size (front rest : List Char) : upTo? (front ++ rest) (size front) = some front := by
  induction front with
  | nil => cases rest <;> rfl
  | cons c front ih => rw [List.cons_append, size_cons, upTo?_cons, ih, Option.map_some]

theorem from?_zero (text : List Char) : from? text 0 = some text := from?_size [] text

theorem between?_size (front middle rest : List Char) :
    between? (front ++ (middle ++ rest)) (size front) (size (front ++ middle)) = some middle := by
  rw [between?, ← List.append_assoc, upTo?_size, Option.bind_some, from?_size]

theorem from?_eq_some_iff (text rest : List Char) (place : Nat) :
    from? text place = some rest ↔ ∃ front, text = front ++ rest ∧ size front = place := by
  constructor
  · intro cut
    induction text, place using from?.induct with
    | case1 text =>
      rw [from?, Option.some.injEq] at cut
      exact ⟨[], cut, rfl⟩
    | case2 place => contradiction
    | case3 c text place inside =>
      rw [from?, if_pos inside] at cut
      contradiction
    | case4 c text place outside ih =>
      rw [from?, if_neg outside] at cut
      obtain ⟨front, split, size⟩ := ih cut
      refine ⟨c :: front, congrArg (c :: ·) split, ?_⟩
      rw [size_cons, size]
      omega
  · rintro ⟨front, rfl, rfl⟩
    exact from?_size front rest

section

variable {text front rest : List Char} {place : Nat}

theorem from?_advance (cut : from? text place = some (front ++ rest)) :
    from? text (place + size front) = some rest := by
  obtain ⟨before, rfl, rfl⟩ := (from?_eq_some_iff _ _ _).mp cut
  rw [← List.append_assoc, ← size_append, from?_size]

theorem from?_next {c : Char} (cut : from? text place = some (c :: rest)) :
    from? text (place + c.utf8Size) = some rest := by
  rw [← Nat.add_zero c.utf8Size, ← size_nil, ← size_cons]
  exact from?_advance cut

theorem from?_one {c : Char} (single : c.utf8Size = 1) : from? (c :: rest) 1 = some rest := by
  have next : from? (c :: rest) (0 + c.utf8Size) = some rest := from?_next (from?_zero (c :: rest))
  rwa [Nat.zero_add, single] at next

theorem between?_advance (cut : from? text place = some (front ++ rest)) :
    between? text place (place + size front) = some front := by
  obtain ⟨before, rfl, rfl⟩ := (from?_eq_some_iff _ _ _).mp cut
  rw [← size_append, between?_size]

end

/-- In bytes, a text can be cut at its end and in front of every byte that begins a character. -/
theorem isSome_from?_iff (text : List Char) (place : Nat) :
    (from? text place).isSome ↔
      place = size text ∨ ∃ byte, (Utf8.encode text)[place]? = some byte ∧ Utf8.isTail byte = false := by
  induction text, place using from?.induct with
  | case1 text =>
    rw [from?]
    cases text with
    | nil => simp
    | cons c rest =>
      obtain ⟨lead, following, bytes, first, _⟩ := Utf8.encodeChar_lead c
      simp [Utf8.encode_cons, bytes, first]
  | case2 place => simp [from?, Utf8.encode]
  | case3 c text place inside =>
    obtain ⟨lead, following, bytes, _, tail⟩ := Utf8.encodeChar_lead c
    have length : (lead :: following).length = c.utf8Size := bytes ▸ String.length_utf8EncodeChar c
    rw [List.length_cons] at length
    have within : place < following.length := by omega
    rw [from?, if_pos inside, Utf8.encode_cons, bytes, List.cons_append, List.getElem?_cons_succ,
      List.getElem?_append_left within, List.getElem?_eq_getElem within]
    have follows := tail following[place] (List.getElem_mem within)
    have short : place + 1 ≠ c.utf8Size + size text := by omega
    simp [follows, short]
  | case4 c text place outside ih =>
    have length : (String.utf8EncodeChar c).length = c.utf8Size := String.length_utf8EncodeChar c
    rw [from?, if_neg outside, ih, Utf8.encode_cons, List.getElem?_append_right (by omega), length, size_cons]
    have same : place + 1 - c.utf8Size = size text ↔ place + 1 = c.utf8Size + size text := by omega
    rw [same]

theorem isSome_upTo? (text : List Char) (place : Nat) : (upTo? text place).isSome = (from? text place).isSome := by
  induction text, place using from?.induct with
  | case1 text => cases text <;> rfl
  | case2 place => rfl
  | case3 c text place inside => rw [from?, upTo?, if_pos inside, if_pos inside]
  | case4 c text place outside ih => rw [from?, upTo?, if_neg outside, if_neg outside, Option.isSome_map, ih]

example : from? ['ü', 'b'] 1 = none ∧ from? ['ü', 'b'] 2 = some ['b'] ∧ from? ['ü', 'b'] 4 = none := by decide

theorem find?_size (passes : Char → Bool) (text : List Char) :
    (find? passes text).getD (size text) = size (text.takeWhile (!passes ·)) := by
  induction text with
  | nil => rfl
  | cons c rest ih =>
    rw [find?, List.takeWhile_cons]
    cases passes c with
    | true => rfl
    | false =>
      simp only [Bool.false_eq_true, if_false, Bool.not_false, if_true, size_cons, ← ih]
      cases find? passes rest <;> rfl

theorem upTo?_find? (passes : Char → Bool) (text : List Char) :
    upTo? text ((find? passes text).getD (size text)) = some (text.takeWhile (!passes ·)) := by
  have cut := upTo?_size (text.takeWhile (!passes ·)) (text.dropWhile (!passes ·))
  rwa [List.takeWhile_append_dropWhile, ← find?_size] at cut

theorem from?_find? (passes : Char → Bool) (text : List Char) :
    from? text ((find? passes text).getD (size text)) = some (text.dropWhile (!passes ·)) := by
  have cut := from?_size (text.takeWhile (!passes ·)) (text.dropWhile (!passes ·))
  rwa [List.takeWhile_append_dropWhile, ← find?_size] at cut

theorem not_mem_of_findLast? {mark : Char} {text : List Char} (lost : findLast? mark text = none) : mark ∉ text := by
  induction text with
  | nil => exact List.not_mem_nil
  | cons c rest ih =>
    rw [findLast?] at lost
    split at lost
    · contradiction
    · rename_i lostBehind
      split at lost
      · contradiction
      · rename_i different
        rw [List.mem_cons, not_or]
        exact ⟨Ne.symm different, ih lostBehind⟩

theorem findLast?_eq_some {mark : Char} {text : List Char} {place : Nat} (found : findLast? mark text = some place) :
    ∃ front back, text = front ++ mark :: back ∧ mark ∉ back ∧ place = size front := by
  induction text generalizing place with
  | nil => contradiction
  | cons c rest ih =>
    rw [findLast?] at found
    split at found
    · rename_i later foundLater
      obtain ⟨front, back, split, last, rfl⟩ := ih foundLater
      refine ⟨c :: front, back, congrArg (c :: ·) split, last, ?_⟩
      rw [size_cons]
      exact (Option.some.inj found).symm
    · rename_i lost
      split at found
      · rename_i same
        refine ⟨[], rest, by rw [same, List.nil_append], not_mem_of_findLast? lost, ?_⟩
        exact (Option.some.inj found).symm
      · contradiction

end FileSieve.Slice
