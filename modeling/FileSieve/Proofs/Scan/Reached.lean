import FileSieve.Scan.Basic
import FileSieve.Proofs.Criteria.Inside
import FileSieve.Proofs.Disk.Names

namespace FileSieve

/-- How the path of an entry is reached from a directory without passing through a link, and the
directories on the way. -/
inductive Reached : Path → List Entry → List Path → Path → Prop
  | here (directory : Path) (entries : List Entry) (entry : Entry) (member : entry ∈ entries) :
      Reached directory entries [] (directory.push (.name entry.name))
  | deeper (directory : Path) (entries : List Entry) (name : Bytes) (stat : Stat) (inner : List Entry)
      (way : List Path) (path : Path) (member : .directory name stat inner ∈ entries)
      (rest : Reached (directory.push (.name name)) inner way path) :
      Reached directory entries (directory.push (.name name) :: way) path

/-- An entry of the disk strictly beneath a root, with the directories between them. -/
def Disk.Beneath (disk : Disk) (root : Path) (way : List Path) (path : Path) : Prop :=
  ∃ entries, disk.list root = .ok entries ∧ Reached root entries way path

theorem visitsBelow_eq_flatMap (descend : Path → Bool) (directory : Path) (entries : List Entry) :
    visitsBelow descend directory entries = entries.flatMap (Entry.visits descend directory) := by
  induction entries with
  | nil => rfl
  | cons entry rest ih => rw [visitsBelow, List.flatMap_cons, ih]

theorem reached_of_visit (descend : Path → Bool) (directory : Path) (entries : List Entry)
    (visit : Visit) (member : visit ∈ visitsBelow descend directory entries) :
    ∃ way, Reached directory entries way visit.path ∧ ∀ passed ∈ way, descend passed = true := by
  rw [visitsBelow_eq_flatMap] at member
  obtain ⟨entry, among, visited⟩ := List.mem_flatMap.mp member
  have first := Reached.here directory entries entry among
  cases entry with
  | file name stat contents | link name stat target =>
      cases List.mem_singleton.mp visited
      exact ⟨[], first, nofun⟩
  | directory name stat inner =>
      rcases List.mem_cons.mp visited with rfl | visited
      · exact ⟨[], first, nofun⟩
      · by_cases enters : descend (directory.push (.name name)) = true
        · rw [if_pos enters] at visited
          obtain ⟨way, rest, entered⟩ := reached_of_visit descend _ inner visit visited
          refine ⟨_, .deeper directory entries name stat inner way _ among rest, ?_⟩
          exact List.forall_mem_cons.mpr ⟨enters, entered⟩
        · rw [if_neg enters] at visited
          cases visited
termination_by sizeOf entries
decreasing_by
  have smaller := List.sizeOf_lt_of_mem among
  simp only [Entry.directory.sizeOf_spec] at smaller
  omega

theorem visit_of_reached (descend : Path → Bool) {directory path : Path} {entries : List Entry}
    {way : List Path} (reached : Reached directory entries way path)
    (entered : ∀ passed ∈ way, descend passed = true) :
    ∃ visit ∈ visitsBelow descend directory entries, visit.path = path := by
  induction reached with
  | here directory entries entry member =>
      simp only [visitsBelow_eq_flatMap, List.mem_flatMap]
      cases entry with
      | file name stat contents | link name stat target =>
          exact ⟨_, ⟨_, member, List.mem_singleton_self _⟩, rfl⟩
      | directory name stat inner => exact ⟨_, ⟨_, member, List.mem_cons_self⟩, rfl⟩
  | deeper directory entries name stat inner way path member rest ih =>
      obtain ⟨enters, others⟩ := List.forall_mem_cons.mp entered
      obtain ⟨visit, visited, same⟩ := ih others
      simp only [visitsBelow_eq_flatMap descend directory, List.mem_flatMap]
      refine ⟨visit, ⟨_, member, List.mem_cons_of_mem _ ?_⟩, same⟩
      rw [if_pos enters]
      exact visited

theorem Disk.mem_visits (disk : Disk) (descend : Path → Bool) (root path : Path) :
    (∃ visit ∈ disk.visits descend root, visit.path = path) ↔
      ∃ way, disk.Beneath root way path ∧ ∀ passed ∈ way, descend passed = true := by
  rw [visits]
  constructor
  · rintro ⟨visit, visited, rfl⟩
    cases listed : disk.list root with
    | error e =>
        rw [listed] at visited
        cases visited
    | ok entries =>
        rw [listed] at visited
        obtain ⟨way, reached, entered⟩ := reached_of_visit descend root entries visit visited
        exact ⟨way, ⟨entries, listed, reached⟩, entered⟩
  · rintro ⟨way, ⟨entries, listed, reached⟩, entered⟩
    rw [listed]
    exact visit_of_reached descend reached entered

namespace Path

def IsOpen (path : Path) : Prop := path.bytes ≠ [] ∧ path.bytes.getLast? ≠ some separator

theorem IsOpen.entrance {path : Path} (ends : path.IsOpen) :
    path.entrance = path.bytes ++ [separator] := if_neg ends.2

theorem join_relative {base path : Path} (inhabited : base.bytes ≠ []) (relative : path.isAbsolute = false) :
    (base.join path).bytes = base.entrance ++ path.bytes := by
  rw [join, relative, if_neg Bool.false_ne_true, entrance]
  split
  · rename_i empty
    exact absurd (List.getLast?_eq_none_iff.mp empty) inhabited
  · rename_i last found
    rw [found]
    by_cases ends : last = separator
    · rw [if_pos ends, if_pos (congrArg some ends)]
    · rw [if_neg ends, if_neg (ends ∘ Option.some.inj), List.append_assoc, List.singleton_append]

theorem push_name_bytes {path : Path} (inhabited : path.bytes ≠ []) (name : Bytes) (named : isName name = true) :
    (path.push (.name name)).bytes = path.entrance ++ name :=
  join_relative inhabited (isAbsolute_name name named)

theorem IsOpen.push_name {path : Path} (ends : path.IsOpen) (name : Bytes)
    (named : isName name = true) :
    (path.push (.name name)).bytes = path.entrance ++ name :=
  push_name_bytes ends.1 name named

theorem push_name_ends (path : Path) (name : Bytes) (named : isName name = true) :
    ∃ front, (path.push (.name name)).bytes = front ++ name := by
  have relative : isAbsolute ⟨(Component.name name).bytes⟩ = false := isAbsolute_name name named
  rw [push, join, relative, if_neg Bool.false_ne_true]
  split
  · exact ⟨[], rfl⟩
  · split
    · exact ⟨path.bytes, rfl⟩
    · refine ⟨path.bytes ++ [separator], ?_⟩
      rw [List.append_assoc, List.singleton_append]
      rfl

theorem push_name_isOpen (path : Path) (name : Bytes) (named : isName name = true) :
    (path.push (.name name)).IsOpen := by
  obtain ⟨front, ends⟩ := push_name_ends path name named
  obtain ⟨inhabited, plain⟩ := (isName_iff name).mp named
  constructor
  · rw [ends]
    exact List.append_ne_nil_of_right_ne_nil front inhabited
  · intro last
    rw [ends, List.getLast?_append, List.getLast?_eq_some_getLast inhabited, Option.some_or] at last
    exact plain (Option.some.inj last ▸ List.getLast_mem inhabited)

end Path

theorem Reached.inside {directory path : Path} {entries : List Entry} {way : List Path}
    (reached : Reached directory entries way path) (ends : directory.IsOpen)
    (named : allNamed entries = true) : path.Inside directory := by
  induction reached with
  | here directory entries entry member =>
      have proper := entry.isName_of_named (named_of_mem named member)
      exact ⟨entry.name, ((isName_iff _).mp proper).1, ends.push_name _ proper⟩
  | deeper directory entries name stat inner way path member rest ih =>
      have whole := named_of_mem named member
      have proper := Entry.isName_of_named _ whole
      have next := directory.push_name_isOpen name proper
      obtain ⟨text, _, split⟩ := ih next (Entry.holdsNamed_of_named _ whole)
      refine ⟨name ++ Path.separator :: text, List.append_ne_nil_of_right_ne_nil _ nofun, ?_⟩
      rw [split, next.entrance, ends.push_name name proper]
      simp only [List.append_assoc, List.singleton_append]

theorem Reached.inside_way {directory path : Path} {entries : List Entry} {way : List Path}
    (reached : Reached directory entries way path) (named : allNamed entries = true) :
    ∀ passed ∈ way, path.Inside passed ∧ passed.IsOpen := by
  induction reached with
  | here => exact nofun
  | deeper directory entries name stat inner way path member rest ih =>
      have whole := named_of_mem named member
      have held := Entry.holdsNamed_of_named _ whole
      have next := directory.push_name_isOpen name (Entry.isName_of_named _ whole)
      exact List.forall_mem_cons.mpr ⟨⟨rest.inside next held, next⟩, ih held⟩

end FileSieve
