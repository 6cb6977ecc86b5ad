import FileSieve.Proofs.Disk.Names

namespace FileSieve

/-- What an entry of a directory can be called. -/
def isFileName (bytes : Bytes) : Bool := isName bytes && bytes != [0x2E] && bytes != [0x2E, 0x2E]

theorem isName_of_isFileName (bytes : Bytes) (proper : isFileName bytes = true) : isName bytes = true := by
  simp only [isFileName, Bool.and_eq_true] at proper
  exact proper.1.1

mutual

def Entry.names : Entry → List Bytes
  | .file name _ _ | .link name _ _ => [name]
  | .directory name _ entries => name :: namesBelow entries

def namesBelow : List Entry → List Bytes
  | [] => []
  | entry :: rest => entry.names ++ namesBelow rest

end

def Disk.hasFileNames (disk : Disk) : Bool := (namesBelow disk.entries).all isFileName

theorem namesBelow_eq_flatMap (entries : List Entry) : namesBelow entries = entries.flatMap Entry.names := by
  induction entries with
  | nil => rfl
  | cons entry rest ih => rw [namesBelow, List.flatMap_cons, ih]

theorem Entry.names_eq (entry : Entry) :
    entry.names = entry.name :: match entry with
      | .directory _ _ entries => namesBelow entries
      | _ => [] := by
  cases entry <;> rfl

theorem fileNames_of_mem {entries : List Entry} (proper : (namesBelow entries).all isFileName = true)
    {entry : Entry} (member : entry ∈ entries) : entry.names.all isFileName = true := by
  rw [namesBelow_eq_flatMap, List.all_eq_true] at proper
  apply List.all_eq_true.mpr
  intro name inside
  exact proper name (List.mem_flatMap.mpr ⟨entry, member, inside⟩)

theorem isFileName_of_mem {entries : List Entry} (proper : (namesBelow entries).all isFileName = true)
    {entry : Entry} (member : entry ∈ entries) : isFileName entry.name = true := by
  have inside := fileNames_of_mem proper member
  rw [Entry.names_eq, List.all_cons, Bool.and_eq_true] at inside
  exact inside.1

theorem fileNames_of_directory {entries inner : List Entry} {name : Bytes} {stat : Stat}
    (proper : (namesBelow entries).all isFileName = true)
    (member : Entry.directory name stat inner ∈ entries) : (namesBelow inner).all isFileName = true := by
  have inside := fileNames_of_mem proper member
  rw [Entry.names_eq, List.all_cons, Bool.and_eq_true] at inside
  exact inside.2

mutual

theorem Entry.named_of_fileNames : ∀ entry : Entry, entry.names.all isFileName = true → entry.named = true
  | .file name _ _, proper | .link name _ _, proper => by
      rw [Entry.names, List.all_cons, Bool.and_eq_true] at proper
      exact isName_of_isFileName name proper.1
  | .directory name _ entries, proper => by
      rw [Entry.names, List.all_cons, Bool.and_eq_true] at proper
      rw [Entry.named, Bool.and_eq_true]
      exact ⟨isName_of_isFileName name proper.1, allNamed_of_fileNames entries proper.2⟩

theorem allNamed_of_fileNames :
    ∀ entries : List Entry, (namesBelow entries).all isFileName = true → allNamed entries = true
  | [], _ => rfl
  | entry :: rest, proper => by
      rw [namesBelow, List.all_append, Bool.and_eq_true] at proper
      rw [allNamed, Bool.and_eq_true]
      exact ⟨entry.named_of_fileNames proper.1, allNamed_of_fileNames rest proper.2⟩

end

theorem Disk.list_fileNames (disk : Disk) (proper : disk.hasFileNames = true) (path : Path)
    (entries : List Entry) (listed : disk.list path = .ok entries) :
    (namesBelow entries).all isFileName = true := by
  let holds (entry : Entry) : Prop :=
    ∀ name stat inner, entry = .directory name stat inner → (namesBelow inner).all isFileName = true
  have top : holds disk.root := by
    rintro name stat inner ⟨⟩
    exact proper
  have inside (name : Bytes) (stat : Stat) (held : List Entry)
      (whole : holds (.directory name stat held)) : ∀ entry ∈ held, holds entry := by
    rintro entry member name stat inner rfl
    exact fileNames_of_directory (whole _ _ _ rfl) member
  rw [list] at listed
  split at listed
  · rename_i found
    cases listed
    exact lookup_induction (P := holds) top inside _ _ _ found _ _ _ rfl
  · cases listed
  · cases listed

theorem Disk.walk_found {disk : Disk} {follow : Bool} {links : Nat} {above entries : List Entry}
    {outer name : Bytes} {stat : Stat} {rest : List Bytes} {entry : Entry} (proper : isFileName name = true)
    (short : name.length ≤ Disk.maxName) (found : Entry.find? name entries = some entry)
    (plain : entry.isLink = false) :
    disk.walk follow links above (.directory outer stat entries) (name :: rest) =
      disk.walk follow links (.directory outer stat entries :: above) entry rest := by
  rw [isFileName, Bool.and_eq_true, Bool.and_eq_true, bne_iff_ne, bne_iff_ne] at proper
  conv =>
    lhs
    unfold Disk.walk
  simp only [if_neg proper.1.2, if_neg proper.2, if_neg (Nat.not_lt.mpr short), found]
  cases entry with
  | link => cases plain
  | file | directory => rfl

end FileSieve
