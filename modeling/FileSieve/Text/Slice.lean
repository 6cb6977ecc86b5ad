import FileSieve.Text.Utf8

namespace FileSieve

/-- What is at a place, or nothing where the place is out of range or inside a character. -/
abbrev Ranged (α : Type) := Option α

namespace Slice

def size (text : List Char) : Nat := (Utf8.encode text).length

def from? : List Char → Nat → Ranged (List Char)
  | text, 0 => some text
  | [], _ + 1 => none
  | c :: rest, place + 1 => if place + 1 < c.utf8Size then none else from? rest (place + 1 - c.utf8Size)

@[simp] theorem size_nil : size [] = 0 := rfl

@[simp] theorem size_cons (c : Char) (rest : List Char) : size (c :: rest) = c.utf8Size + size rest := by
  rw [size, Utf8.encode, List.flatMap_cons, List.length_append, String.length_utf8EncodeChar]
  rfl

theorem size_of_from? {text rest : List Char} {place : Nat} (cut : from? text place = some rest) :
    size text = place + size rest := by
  induction text, place using from?.induct with
  | case1 text =>
    rw [from?, Option.some.injEq] at cut
    rw [cut, Nat.zero_add]
  | case2 place => contradiction
  | case3 c text place inside =>
    rw [from?, if_pos inside] at cut
    contradiction
  | case4 c text place outside ih =>
    rw [from?, if_neg outside] at cut
    rw [size_cons, ih cut]
    omega

def upTo? : List Char → Nat → Ranged (List Char)
  | _, 0 => some []
  | [], _ + 1 => none
  | c :: rest, place + 1 =>
    if place + 1 < c.utf8Size then none else (upTo? rest (place + 1 - c.utf8Size)).map (c :: ·)

def between? (text : List Char) (start stop : Nat) : Ranged (List Char) := (upTo? text stop).bind (from? · start)

def find? (passes : Char → Bool) : List Char → Option Nat
  | [] => none
  | c :: rest => if passes c then some 0 else (find? passes rest).map (c.utf8Size + ·)

def findLast? (mark : Char) : List Char → Option Nat
  | [] => none
  | c :: rest =>
    match findLast? mark rest with
    | some place => some (c.utf8Size + place)
    | none => if c = mark then some 0 else none

end Slice
end FileSieve
