import FileSieve.Proofs.Scan.Roots

namespace FileSieve

namespace Entry

/-- The entry to which names lead from another, through directories only. -/
def at? : List Bytes → Entry → Option Entry
  | [], entry => some entry
  | name :: names, directory _ _ entries => (find? name entries).bind (at? names)
  | _ :: _, _ => none

theorem at?_append (front back : List Bytes) (entry : Entry) :
    at? (front ++ back) entry = (at? front entry).bind (at? back) := by
  induction front generalizing entry with
  | nil => rfl
  | cons name front ih =>
      cases entry with
      | directory outer stat entries =>
          rw [List.cons_append, at?, at?, Option.bind_assoc]
          exact Option.bind_congr fun inner _ => ih inner
      | file | link => rfl

theorem find?_some {name : Bytes} {entries : List Entry} {entry : Entry} (found : find? name entries = some entry) :
    entry ∈ entries ∧ entry.name = name := by
  have same := List.find?_some found
  exact ⟨List.mem_of_find?_eq_some found, eq_of_beq same⟩

theorem at?_cons {name : Bytes} {names : List Bytes} {entry last : Entry}
    (there : at? (name :: names) entry = some last) :
    ∃ outer stat entries inner, entry = directory outer stat entries ∧ find? name entries = some inner ∧
      at? names inner = some last := by
  cases entry with
  | directory outer stat entries =>
      obtain ⟨inner, found, rest⟩ := Option.bind_eq_some_iff.mp there
      exact ⟨outer, stat, entries, inner, rfl, found, rest⟩
  | file | link => cases there

theorem at?_concat {front : List Bytes} {top : Entry} {outer name : Bytes} {stat : Stat} {entries : List Entry}
    {inner : Entry} (reached : at? front top = some (directory outer stat entries))
    (found : find? name entries = some inner) : at? (front ++ [name]) top = some inner := by
  rw [at?_append, reached, Option.bind_some, at?, found]
  rfl

end Entry

/-- What an entry on a disk can be called: names are no longer than that, and no byte of them is NUL. -/
def isStoredName (bytes : Bytes) : Bool :=
  isFileName bytes && !bytes.contains 0 && decide (bytes.length ≤ Disk.maxName)

def Disk.hasStoredNames (disk : Disk) : Bool := (namesBelow disk.entries).all isStoredName

theorem isFileName_of_stored {name : Bytes} (stored : isStoredName name = true) : isFileName name = true := by
  simp only [isStoredName, Bool.and_eq_true] at stored
  exact stored.1.1

theorem Disk.hasFileNames_of_stored (disk : Disk) (stored : disk.hasStoredNames = true) :
    disk.hasFileNames = true := by
  apply List.all_eq_true.mpr
  intro name member
  exact isFileName_of_stored (List.all_eq_true.mp stored name member)

theorem mem_namesBelow_of_at? {names : List Bytes} {outer : Bytes} {stat : Stat} {entries : List Entry}
    {last : Entry} (there : Entry.at? names (.directory outer stat entries) = some last) :
    ∀ name ∈ names, name ∈ namesBelow entries := by
  induction names generalizing outer stat entries with
  | nil => exact nofun
  | cons first names ih =>
      obtain ⟨_, _, _, inner, same, found, rest⟩ := Entry.at?_cons there
      cases same
      obtain ⟨member, rfl⟩ := Entry.find?_some found
      have below (name : Bytes) (among : name ∈ inner.names) : name ∈ namesBelow entries := by
        rw [namesBelow_eq_flatMap]
        exact List.mem_flatMap.mpr ⟨inner, member, among⟩
      intro name among
      rcases List.mem_cons.mp among with rfl | later
      · apply below
        rw [Entry.names_eq]
        exact List.mem_cons_self
      · cases names with
        | nil => cases later
        | cons second names =>
            obtain ⟨_, _, held, _, rfl, _, _⟩ := Entry.at?_cons rest
            exact below name (List.mem_cons_of_mem _ (ih rest name later))

theorem Disk.isStoredName_of_at? {disk : Disk} (stored : disk.hasStoredNames = true) {names : List Bytes}
    {entry : Entry} (there : disk.root.at? names = some entry) : ∀ name ∈ names, isStoredName name = true := by
  intro name member
  exact List.all_eq_true.mp stored name (mem_namesBelow_of_at? there name member)

theorem reached_of_at? {names : List Bytes} {outer : Bytes} {stat : Stat} {entries : List Entry} {last : Entry}
    (directory : Path) (inhabited : names ≠ [])
    (there : Entry.at? names (.directory outer stat entries) = some last) :
    ∃ way, Reached directory entries way (directory.descend names) := by
  induction names generalizing outer stat entries directory with
  | nil => exact absurd rfl inhabited
  | cons name names ih =>
      obtain ⟨_, _, _, inner, same, found, rest⟩ := Entry.at?_cons there
      cases same
      obtain ⟨member, rfl⟩ := Entry.find?_some found
      cases names with
      | nil => exact ⟨[], .here directory entries inner member⟩
      | cons second names =>
          obtain ⟨held, stat, inside, _, rfl, _, _⟩ := Entry.at?_cons rest
          obtain ⟨way, reached⟩ := ih (directory.push (.name held)) (List.cons_ne_nil _ _) rest
          exact ⟨_, .deeper directory entries held stat inside way _ member reached⟩

namespace Path

/-- The absolute path that names make up. -/
def absolute (names : List Bytes) : Path := (Path.ofString "/").descend names

theorem absolute_append (front back : List Bytes) : absolute (front ++ back) = (absolute front).descend back :=
  List.foldl_append

theorem components_absolute_names (names : List Bytes) (proper : ∀ name ∈ names, isFileName name = true) :
    (absolute names).components = .root :: names.map .name :=
  components_descend (.ofString "/") names proper

theorem IsOpen.descend_bytes {path : Path} (ends : path.IsOpen) (names : List Bytes)
    (proper : ∀ name ∈ names, isFileName name = true) :
    (path.descend names).bytes = path.bytes ++ names.flatMap (separator :: ·) := by
  induction names generalizing path with
  | nil => exact (List.append_nil _).symm
  | cons name names ih =>
      obtain ⟨first, others⟩ := List.forall_mem_cons.mp proper
      have named := isName_of_isFileName name first
      have below := ih (path.push_name_isOpen name named) others
      rw [ends.push_name name named, ends.entrance] at below
      rw [List.append_assoc, List.append_assoc, List.singleton_append] at below
      rw [List.flatMap_cons]
      exact below

theorem absolute_bytes (name : Bytes) (names : List Bytes)
    (proper : ∀ other ∈ name :: names, isFileName other = true) :
    (absolute (name :: names)).bytes = (name :: names).flatMap (separator :: ·) := by
  obtain ⟨first, others⟩ := List.forall_mem_cons.mp proper
  have named := isName_of_isFileName name first
  have pushed : ((Path.ofString "/").push (.name name)).bytes = separator :: name := by
    have relative : isAbsolute ⟨(Component.name name).bytes⟩ = false := isAbsolute_name name named
    rw [push, join, relative, if_neg Bool.false_ne_true]
    rfl
  have below := ((Path.ofString "/").push_name_isOpen name named).descend_bytes names others
  rw [pushed] at below
  exact below

theorem absolute_isAbsolute (names : List Bytes) (proper : ∀ name ∈ names, isFileName name = true) :
    (absolute names).isAbsolute = true := by
  cases names with
  | nil => rfl
  | cons name names =>
      rw [isAbsolute, absolute_bytes name names proper]
      rfl

theorem IsOpen.descend {path : Path} (ends : path.IsOpen) (names : List Bytes)
    (proper : ∀ name ∈ names, isFileName name = true) : (path.descend names).IsOpen := by
  induction names generalizing path with
  | nil => exact ends
  | cons name names ih =>
      obtain ⟨first, others⟩ := List.forall_mem_cons.mp proper
      exact ih (path.push_name_isOpen name (isName_of_isFileName name first)) others

theorem absolute_isOpen (name : Bytes) (names : List Bytes)
    (proper : ∀ other ∈ name :: names, isFileName other = true) : (absolute (name :: names)).IsOpen := by
  obtain ⟨first, others⟩ := List.forall_mem_cons.mp proper
  exact ((Path.ofString "/").push_name_isOpen name (isName_of_isFileName name first)).descend names others

theorem absolute_length_le (front back : List Bytes)
    (proper : ∀ name ∈ front ++ back, isFileName name = true) :
    (absolute front).bytes.length ≤ (absolute (front ++ back)).bytes.length := by
  cases front with
  | nil =>
      cases back with
      | nil => exact Nat.le_refl _
      | cons name back =>
          rw [List.nil_append, absolute_bytes name back proper]
          exact Nat.succ_le_succ (Nat.zero_le _)
  | cons name front =>
      have few (other : Bytes) (member : other ∈ name :: front) := proper other (List.mem_append_left _ member)
      rw [absolute_bytes name front few, List.cons_append, absolute_bytes name (front ++ back) proper,
        ← List.cons_append, List.flatMap_append, List.length_append]
      exact Nat.le_add_right _ _

end Path

theorem Bytes.split_names (names : List Bytes) (plain : ∀ name ∈ names, Path.separator ∉ name) :
    split Path.separator (names.flatMap (Path.separator :: ·)) = [] :: names := by
  induction names with
  | nil => rfl
  | cons name names ih =>
      obtain ⟨first, others⟩ := List.forall_mem_cons.mp plain
      have rest := ih others
      rw [List.flatMap_cons, List.cons_append, split_separator]
      cases names with
      | nil => rw [List.flatMap_nil, List.append_nil, split_plain _ name first]
      | cons second names =>
          rw [List.flatMap_cons, List.cons_append, split_separator] at rest
          rw [List.flatMap_cons, List.cons_append, split_append_separator, split_plain _ name first]
          exact congrArg ([] :: name :: ·) (List.cons.inj rest).2

namespace Disk

theorem steps_absolute (name : Bytes) (names : List Bytes)
    (proper : ∀ other ∈ name :: names, isFileName other = true) :
    steps (Path.absolute (name :: names)) = name :: names := by
  have named (other : Bytes) (member : other ∈ name :: names) :=
    (isName_iff other).mp (isName_of_isFileName other (proper other member))
  have pieces := Bytes.split_names (name :: names) fun other member => (named other member).2
  have kept : (name :: names).filter (fun other => decide (other ≠ [])) = name :: names := by
    apply List.filter_eq_self.mpr
    intro other member
    exact decide_eq_true (named other member).1
  have ends := (Path.absolute_isOpen name names proper).2
  rw [Path.absolute_bytes name names proper] at ends
  rw [steps, Path.absolute_bytes name names proper, pieces, if_neg ends, List.filter_cons_of_neg (by simp)]
  exact kept

theorem absolute_clean (name : Bytes) (names : List Bytes)
    (stored : ∀ other ∈ name :: names, isStoredName other = true) :
    (Path.absolute (name :: names)).bytes.contains 0 = false := by
  rw [Path.absolute_bytes name names fun other member => isFileName_of_stored (stored other member)]
  apply Bool.eq_false_iff.mpr
  intro present
  obtain ⟨other, member, inside⟩ := List.mem_flatMap.mp (List.contains_iff_mem.mp present)
  have clean := stored other member
  simp only [isStoredName, Bool.and_eq_true, Bool.not_eq_true', List.contains_eq_mem, decide_eq_false_iff_not]
    at clean
  rcases List.mem_cons.mp inside with slash | inside
  · exact absurd slash (by decide)
  · exact clean.1.2 inside

theorem walk_at {disk : Disk} {follow : Bool} {links : Nat} {above : List Entry} {names : List Bytes}
    {here last : Entry} (proper : ∀ name ∈ names, isStoredName name = true)
    (there : here.at? names = some last) (plain : last.isLink = false) :
    disk.walk follow links above here names = .ok last := by
  induction names generalizing here above with
  | nil =>
      cases there
      rw [walk]
  | cons name names ih =>
      obtain ⟨first, others⟩ := List.forall_mem_cons.mp proper
      obtain ⟨outer, stat, entries, inner, rfl, found, rest⟩ := Entry.at?_cons there
      have short : name.length ≤ maxName := by
        simp only [isStoredName, Bool.and_eq_true, decide_eq_true_eq] at first
        exact first.2
      have passable : inner.isLink = false := by
        cases names with
        | nil =>
            cases rest
            exact plain
        | cons second names =>
            obtain ⟨_, _, _, _, rfl, _, _⟩ := Entry.at?_cons rest
            rfl
      rw [walk_found (isFileName_of_stored first) short found passable]
      exact ih others rest

theorem lookup_at (disk : Disk) (stored : disk.hasStoredNames = true) (names : List Bytes) (entry : Entry)
    (there : disk.root.at? names = some entry) (plain : entry.isLink = false)
    (short : (Path.absolute names).bytes.length ≤ maxPath) :
    disk.lookup (Path.absolute names) true = .ok entry := by
  have proper := isStoredName_of_at? stored there
  cases names with
  | nil =>
      cases there
      change disk.walk true maxLinks [] disk.root [[0x2E]] = _
      rw [root, walk, if_pos rfl, walk]
  | cons name names =>
      have fileNames (other : Bytes) (member : other ∈ name :: names) := isFileName_of_stored (proper other member)
      have bytes := Path.absolute_bytes name names fileNames
      have absolute := Path.absolute_isAbsolute (name :: names) fileNames
      have inhabited : (Path.absolute (name :: names)).bytes ≠ [] := by
        rw [bytes]
        exact List.cons_ne_nil _ _
      rw [lookup, absolute_clean name names proper, if_neg Bool.false_ne_true, if_neg inhabited,
        if_neg (Nat.not_lt.mpr short), Path.join, if_pos absolute, steps_absolute name names fileNames]
      exact walk_at proper there plain

theorem list_at (disk : Disk) (stored : disk.hasStoredNames = true) (names : List Bytes) (outer : Bytes)
    (stat : Stat) (entries : List Entry) (there : disk.root.at? names = some (.directory outer stat entries))
    (short : (Path.absolute names).bytes.length ≤ maxPath) :
    disk.list (Path.absolute names) = .ok entries := by
  rw [list, lookup_at disk stored names _ there rfl short]

end Disk

end FileSieve
