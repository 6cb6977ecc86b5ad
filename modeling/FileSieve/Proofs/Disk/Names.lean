import FileSieve.Disk.Basic

namespace FileSieve

def isName (bytes : Bytes) : Bool := bytes ≠ [] && !bytes.contains Path.separator

theorem isName_iff (bytes : Bytes) :
    isName bytes = true ↔ bytes ≠ [] ∧ Path.separator ∉ bytes := by
  simp only [isName, Bool.and_eq_true, decide_eq_true_eq, Bool.not_eq_true', List.contains_eq_mem,
    decide_eq_false_iff_not]

theorem Path.isAbsolute_name (name : Bytes) (named : isName name = true) :
    isAbsolute ⟨name⟩ = false := by
  apply Bool.eq_false_iff.mpr
  intro absolute
  have first := List.mem_of_head? (beq_iff_eq.mp absolute)
  exact ((isName_iff name).mp named).2 first

mutual

def Entry.named : Entry → Bool
  | .file name _ _ | .link name _ _ => isName name
  | .directory name _ entries => isName name && allNamed entries

def allNamed : List Entry → Bool
  | [] => true
  | entry :: rest => entry.named && allNamed rest

end

def Entry.holdsNamed : Entry → Bool
  | .directory _ _ entries => allNamed entries
  | _ => true

def Disk.named (disk : Disk) : Bool := allNamed disk.entries

theorem allNamed_eq_all (entries : List Entry) : allNamed entries = entries.all Entry.named := by
  induction entries with
  | nil => rfl
  | cons entry rest ih => rw [allNamed, List.all_cons, ih]

theorem Entry.isName_of_named (entry : Entry) (named : entry.named = true) :
    isName entry.name = true := by
  cases entry with
  | file name stat contents | link name stat target => exact named
  | directory name stat entries => exact (Bool.and_eq_true_iff.mp named).1

theorem Entry.holdsNamed_of_named (entry : Entry) (named : entry.named = true) :
    entry.holdsNamed = true := by
  cases entry with
  | file name stat contents | link name stat target => rfl
  | directory name stat entries => exact (Bool.and_eq_true_iff.mp named).2

theorem named_of_mem {entries : List Entry} (named : allNamed entries = true) {entry : Entry}
    (member : entry ∈ entries) : entry.named = true := by
  rw [allNamed_eq_all] at named
  exact List.all_eq_true.mp named entry member

namespace Disk

section

variable {disk : Disk} {P : Entry → Prop} (top : P disk.root)
  (inside : ∀ name stat entries, P (.directory name stat entries) → ∀ entry ∈ entries, P entry)

include top inside

/-- What holds of the root directory and passes from directories to what they hold, holds of all that a
lookup leads to. -/
theorem walk_induction (follow : Bool) (links : Nat) (above : List Entry) (here : Entry)
    (names : List Bytes) (result : Entry) (parents : ∀ entry ∈ above, P entry) (current : P here)
    (walked : disk.walk follow links above here names = .ok result) : P result := by
  fun_induction disk.walk follow links above here names with
  | case1 => exact Except.ok.inj walked ▸ current
  | case2 links above rest name stat entries ih => exact ih parents current walked
  | case3 links rest name stat entries other ih => exact ih parents current walked
  | case4 links rest name stat entries parent above other ih =>
      obtain ⟨nearest, others⟩ := List.forall_mem_cons.mp parents
      exact ih others nearest walked
  | case7 links above sought rest name stat entries _ _ _ linkName linkStat target found =>
      cases walked
      exact inside _ _ _ current _ (List.mem_of_find?_eq_some found)
  | case9 above sought rest name stat entries _ _ _ linkName linkStat target _ _ links _ ih =>
      exact ih nofun top walked
  | case10 above sought rest name stat entries _ _ _ linkName linkStat target _ _ links _ ih =>
      exact ih parents current walked
  | case11 links above sought rest name stat entries _ _ _ entry _ found ih =>
      have entered := inside _ _ _ current _ (List.mem_of_find?_eq_some found)
      exact ih (List.forall_mem_cons.mpr ⟨current, parents⟩) entered walked
  | case5 | case6 | case8 | case12 => cases walked

theorem lookup_induction (path : Path) (follow : Bool) (result : Entry)
    (found : disk.lookup path follow = .ok result) : P result := by
  rw [lookup] at found
  split at found
  · cases found
  · split at found
    · cases found
    · split at found
      · cases found
      · exact walk_induction top inside follow _ [] disk.root _ result nofun top found

end

theorem list_named (disk : Disk) (named : disk.named = true) (path : Path) (entries : List Entry)
    (listed : disk.list path = .ok entries) : allNamed entries = true := by
  have inside (name : Bytes) (stat : Stat) (held : List Entry)
      (holds : (Entry.directory name stat held).holdsNamed = true) :
      ∀ entry ∈ held, entry.holdsNamed = true := by
    intro entry member
    exact entry.holdsNamed_of_named (named_of_mem holds member)
  rw [list] at listed
  split at listed
  · rename_i found
    cases listed
    exact lookup_induction (P := fun entry => entry.holdsNamed = true) named inside _ _ _ found
  · cases listed
  · cases listed

end Disk
end FileSieve
