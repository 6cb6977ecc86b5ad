import FileSieve.Proofs.Disk.Places

/-! The spelling of directories on a disk. A directory is found name by name: the very name if there is one, or else
the first that differs only in letter case. What lies inside the directory that is found are the entries whose names
agree with what is taken for each name; where no directory holds a second spelling, any letter case will do. -/

namespace FileSieve

/-- What names have in common that differ only in letter case. -/
def foldedName (name : Bytes) : List Char := Unicode.lowercase (Utf8.decodeLossy name)

/-- The name that stands for a wanted one in a directory, given all the names in it. -/
def Takes (names : List Bytes) (wanted name : Bytes) : Prop :=
  if wanted ∈ names then name = wanted
  else ∃ before after, names = before ++ name :: after ∧ foldedName name = foldedName wanted ∧
    ∀ other ∈ before, foldedName other ≠ foldedName wanted

theorem Takes.mem {names : List Bytes} {wanted name : Bytes} (takes : Takes names wanted name) : name ∈ names := by
  rw [Takes] at takes
  split at takes
  · rename_i present
    exact takes ▸ present
  · obtain ⟨before, after, rfl, _, _⟩ := takes
    exact List.mem_append_right _ List.mem_cons_self

/-- The names of an entry agree with what is taken for the components of a directory, and go on inside it. -/
inductive Follows : List Component → Entry → List Bytes → Prop
  | inside (directory : Entry) (name : Bytes) (names : List Bytes) : Follows [] directory (name :: names)
  | deeper (wanted name : Bytes) (components : List Component) (outer : Bytes) (stat : Stat)
      (entries : List Entry) (inner : Entry) (names : List Bytes)
      (takes : Takes (entries.map Entry.name) wanted name) (found : Entry.find? name entries = some inner)
      (rest : Follows components inner names) :
      Follows (.name wanted :: components) (.directory outer stat entries) (name :: names)

/-- As far as the components go, no directory on the way holds a second name that differs only in letter case. -/
def Unrivalled : List Component → List Bytes → Entry → Prop
  | _ :: components, name :: names, .directory _ _ entries =>
      (∀ other ∈ entries, foldedName other.name = foldedName name → other.name = name) ∧
        ∀ inner, Entry.find? name entries = some inner → Unrivalled components names inner
  | _, _, _ => True

theorem Takes.of_unrivalled {name wanted : Bytes} {entries : List Entry} {inner : Entry}
    (found : Entry.find? name entries = some inner)
    (alone : ∀ other ∈ entries, foldedName other.name = foldedName name → other.name = name)
    (same : foldedName name = foldedName wanted) : Takes (entries.map Entry.name) wanted name := by
  rw [Takes]
  split
  · rename_i present
    obtain ⟨other, member, rfl⟩ := List.mem_map.mp present
    exact (alone other member same.symm).symm
  · obtain ⟨_, before, after, rfl, first⟩ := List.find?_eq_some_iff_append.mp found
    obtain ⟨_, named⟩ := Entry.find?_some found
    refine ⟨before.map Entry.name, after.map Entry.name, ?_, same, ?_⟩
    · rw [List.map_append, List.map_cons, named]
    · intro other member equal
      obtain ⟨entry, among, rfl⟩ := List.mem_map.mp member
      have again := alone entry (List.mem_append_left _ among) (equal.trans same.symm)
      have differs := first entry among
      rw [again] at differs
      simp at differs

theorem Path.absolute_push (names : List Bytes) (name : Bytes) :
    (absolute names).push (.name name) = absolute (names ++ [name]) :=
  (absolute_append names [name]).symm

theorem Path.components_foldl_push (path : Path) (components : List Component)
    (inner : ∀ component ∈ components, component.IsInner) :
    (components.foldl push path).components = path.components ++ components := by
  induction components generalizing path with
  | nil => exact (List.append_nil _).symm
  | cons component components ih =>
      obtain ⟨first, others⟩ := List.forall_mem_cons.mp inner
      rw [List.foldl_cons, ih _ others, components_push_inner path component first, List.append_assoc,
        List.singleton_append]

theorem Path.next_of_components {front names : List Bytes} {component : Component} {path : Path}
    (properFront : ∀ name ∈ front, isFileName name = true) (inner : component.IsInner)
    (starts : ((absolute front).push component).components <+: path.components)
    (within : path.components <+: .root :: (front ++ names).map .name) :
    ∃ name more, names = name :: more ∧ component = .name name := by
  have whole := starts.trans within
  rw [components_push_inner _ component inner, components_absolute_names front properFront,
    List.map_append, List.cons_append, List.cons_prefix_cons, List.prefix_append_right_inj] at whole
  obtain ⟨after, split⟩ := whole.2
  obtain ⟨name, more, rfl, same, _⟩ := List.map_eq_cons_iff.mp split.symm
  exact ⟨name, more, rfl, same.symm⟩

namespace Disk

variable {disk : Disk}

theorem spelling?_eq_some_iff {directory : Path} {entries : List Entry} (listed : disk.list directory = .ok entries)
    (wanted name : Bytes) :
    disk.spelling? directory wanted = some name ↔ Takes (entries.map Entry.name) wanted name := by
  rw [spelling?, listed, Takes]
  by_cases exactly : wanted ∈ entries.map Entry.name
  · simp only [Except.toOption, Option.getD_some, List.contains_eq_mem, exactly, decide_true, ↓reduceIte,
      Option.some.injEq, eq_comm]
  · simp only [Except.toOption, Option.getD_some, List.contains_eq_mem, exactly, decide_false, ↓reduceIte,
      Bool.false_eq_true, List.find?_eq_some_iff_append, beq_iff_eq, Bool.not_eq_true', beq_eq_false_iff_ne]
    constructor
    · rintro ⟨same, before, after, split, first⟩
      exact ⟨before, after, split, same, first⟩
    · rintro ⟨before, after, split, same, first⟩
      exact ⟨same, before, after, split, first⟩

theorem spell_taken {directory : Path} {wanted name : Bytes} (components : List Component)
    (spelled : disk.spelling? directory wanted = some name) :
    disk.spell directory (.name wanted :: components) = disk.spell (directory.push (.name name)) components := by
  rw [spell, spelled]

theorem spell_kept {directory : Path} {wanted : Bytes} (components : List Component)
    (spelled : disk.spelling? directory wanted = none) :
    disk.spell directory (.name wanted :: components) =
      components.foldl Path.push (directory.push (.name wanted)) := by
  rw [spell, spelled]

section

variable (stored : disk.hasStoredNames = true)

include stored

theorem isFileName_of_spelling? {directory : Path} {wanted name : Bytes}
    (spelled : disk.spelling? directory wanted = some name) : isFileName name = true := by
  cases listed : disk.list directory with
  | error error =>
      rw [spelling?, listed] at spelled
      cases spelled
  | ok entries =>
      have proper := disk.list_fileNames (disk.hasFileNames_of_stored stored) directory entries listed
      obtain ⟨entry, member, rfl⟩ := List.mem_map.mp ((spelling?_eq_some_iff listed wanted name).mp spelled).mem
      exact isFileName_of_mem proper member

theorem components_prefix_spell (sofar : Path) (components : List Component)
    (inner : ∀ component ∈ components, component.IsInner) :
    sofar.components <+: (disk.spell sofar components).components := by
  induction components generalizing sofar with
  | nil => exact List.prefix_refl _
  | cons component components ih =>
      obtain ⟨first, others⟩ := List.forall_mem_cons.mp inner
      have longer (next : Component) (single : next.IsInner) : sofar.components <+: (sofar.push next).components := by
        rw [Path.components_push_inner sofar next single]
        exact List.prefix_append _ _
      cases component with
      | name wanted =>
          cases spelled : disk.spelling? sofar wanted with
          | some found =>
              rw [spell_taken components spelled]
              exact (longer (.name found) (isFileName_of_spelling? stored spelled)).trans (ih _ others)
          | none =>
              rw [spell_kept components spelled, Path.components_foldl_push _ _ others]
              exact (longer _ first).trans (List.prefix_append _ _)
      | parent => exact (longer _ first).trans (ih _ others)
      | root | current => exact first.elim

theorem isFileName_along {front back : List Bytes} {last : Entry} (count : Nat)
    (there : disk.root.at? (front ++ back) = some last) :
    ∀ name ∈ front ++ back.take count, isFileName name = true := by
  intro name member
  apply isFileName_of_stored
  apply isStoredName_of_at? stored there
  rcases List.mem_append.mp member with before | behind
  · exact List.mem_append_left _ before
  · exact List.mem_append_right _ (List.mem_of_mem_take behind)

theorem list_front {front back : List Bytes} {outer : Bytes} {stat : Stat} {entries : List Entry}
    (reached : disk.root.at? front = some (.directory outer stat entries))
    (proper : ∀ name ∈ front ++ back, isFileName name = true)
    (short : (Path.absolute (front ++ back)).bytes.length ≤ maxPath) :
    disk.list (Path.absolute front) = .ok entries :=
  disk.list_at stored front outer stat entries reached
    (Nat.le_trans (Path.absolute_length_le front back proper) short)

theorem spell_of_follows {components : List Component} {here last : Entry} {front back : List Bytes}
    (follows : Follows components here back) (reached : disk.root.at? front = some here)
    (there : here.at? back = some last)
    (short : (Path.absolute (front ++ back.take components.length)).bytes.length ≤ maxPath) :
    back.drop components.length ≠ [] ∧
      disk.spell (Path.absolute front) components = Path.absolute (front ++ back.take components.length) := by
  have whole : disk.root.at? (front ++ back) = some last := by
    rw [Entry.at?_append, reached]
    exact there
  have proper := isFileName_along stored components.length whole
  induction follows generalizing front with
  | inside directory name names =>
      refine ⟨List.cons_ne_nil _ _, ?_⟩
      rw [spell, List.length_nil, List.take_zero, List.append_nil]
  | deeper wanted name components outer stat entries inner names takes found rest ih =>
      have listed := list_front stored reached proper short
      obtain ⟨_, _, _, other, same, again, further⟩ := Entry.at?_cons there
      cases same
      cases found.symm.trans again
      rw [List.append_cons] at whole
      rw [List.length_cons, List.take_succ_cons, List.append_cons] at short proper
      obtain ⟨inhabited, spelled⟩ := ih (Entry.at?_concat reached found) further short whole proper
      refine ⟨inhabited, ?_⟩
      rw [spell_taken components ((spelling?_eq_some_iff listed wanted name).mpr takes), Path.absolute_push, spelled,
        List.length_cons, List.take_succ_cons, ← List.append_cons]

theorem follows_of_spell {components : List Component} {here last : Entry} {front names below : List Bytes}
    (inner : ∀ component ∈ components, component.IsInner) (reached : disk.root.at? front = some here)
    (there : here.at? names = some last)
    (short : (Path.absolute (front ++ names.take components.length)).bytes.length ≤ maxPath)
    (inhabited : below ≠ [])
    (same : (disk.spell (Path.absolute front) components).components ++ below.map .name =
      .root :: (front ++ names).map .name) :
    Follows components here names := by
  have whole : disk.root.at? (front ++ names) = some last := by
    rw [Entry.at?_append, reached]
    exact there
  have proper := isFileName_along stored components.length whole
  have within : (disk.spell (Path.absolute front) components).components <+: .root :: (front ++ names).map .name :=
    ⟨_, same⟩
  induction components generalizing front here names with
  | nil =>
      have properFront (other : Bytes) (member : other ∈ front) := proper other (List.mem_append_left _ member)
      rw [spell, Path.components_absolute_names front properFront, List.map_append, List.cons_append,
        List.cons_inj_right, List.append_right_inj] at same
      cases names with
      | nil => exact absurd (List.map_eq_nil_iff.mp same) inhabited
      | cons name names => exact .inside here name names
  | cons component components ih =>
      have properFront (other : Bytes) (member : other ∈ front) := proper other (List.mem_append_left _ member)
      obtain ⟨first, others⟩ := List.forall_mem_cons.mp inner
      have later (next : Component) :=
        components_prefix_spell stored ((Path.absolute front).push next) components others
      cases component with
      | root | current => exact first.elim
      | parent =>
          obtain ⟨_, _, _, other⟩ := Path.next_of_components properFront first (later .parent) within
          cases other
      | name wanted =>
          cases spelled : disk.spelling? (Path.absolute front) wanted with
          | some found =>
              rw [spell_taken components spelled] at within same
              have single : (Component.name found).IsInner := isFileName_of_spelling? stored spelled
              obtain ⟨name, more, rfl, taken⟩ :=
                Path.next_of_components properFront single (later (.name found)) within
              cases taken
              obtain ⟨outer, stat, entries, inner, rfl, listedHere, further⟩ := Entry.at?_cons there
              have takes := (spelling?_eq_some_iff (list_front stored reached proper short) wanted found).mp spelled
              rw [List.length_cons, List.take_succ_cons, List.append_cons] at short proper
              rw [List.append_cons] at whole within same
              rw [Path.absolute_push] at within same
              refine .deeper wanted found components outer stat entries inner more takes listedHere ?_
              exact ih others (Entry.at?_concat reached listedHere) further short same whole proper within
          | none =>
              have starts := Path.components_foldl_push ((Path.absolute front).push (.name wanted)) components others
              rw [spell_kept components spelled] at within
              obtain ⟨name, more, rfl, kept⟩ :=
                Path.next_of_components properFront first ⟨components, starts.symm⟩ within
              cases kept
              obtain ⟨outer, stat, entries, inner, rfl, listedHere, _⟩ := Entry.at?_cons there
              have listed := list_front stored reached proper short
              -- The wanted name is in the directory, so it would have been taken.
              obtain ⟨member, named⟩ := Entry.find?_some listedHere
              have takes : Takes (entries.map Entry.name) wanted wanted := by
                rw [Takes, if_pos (List.mem_map.mpr ⟨inner, member, named⟩)]
              rw [(spelling?_eq_some_iff listed wanted wanted).mpr takes] at spelled
              cases spelled

/-- An entry inside a directory as it is spelled is one whose names follow the directory's components. -/
theorem beneath_spelled_iff (directory : Path) (anchored : directory.isAbsolute = true) (names : List Bytes)
    (entry : Entry) (there : disk.root.at? names = some entry)
    (short : (Path.absolute (names.take directory.components.tail.length)).bytes.length ≤ maxPath) :
    (∃ way, disk.Beneath (disk.spelled directory) way (Path.absolute names)) ↔
      Follows directory.components.tail disk.root names := by
  obtain ⟨bytes⟩ := directory
  obtain ⟨rest, rfl⟩ := List.head?_eq_some_iff.mp (beq_iff_eq.mp anchored)
  have proper (name : Bytes) (member : name ∈ names) :=
    isFileName_of_stored (isStoredName_of_at? stored there name member)
  have spelled : disk.spelled ⟨Path.separator :: rest⟩ =
      disk.spell (Path.absolute []) (Path.componentsBehind rest) := by
    rw [Disk.spelled, Path.components_absolute, spell]
    · rfl
    · exact nofun
  have top : disk.root.at? [] = some disk.root := rfl
  rw [Path.components_absolute, List.tail_cons] at short ⊢
  rw [spelled]
  constructor
  · rintro ⟨way, entries, listed, reached⟩
    have fileNames := disk.list_fileNames (disk.hasFileNames_of_stored stored) _ entries listed
    obtain ⟨below, inhabited, same, properBelow⟩ := reached.descends fileNames
    have components := congrArg Path.components same
    rw [Path.components_absolute_names names proper, Path.components_descend _ below properBelow] at components
    exact follows_of_spell stored (Path.componentsBehind_inner rest) top there short inhabited components.symm
  · intro follows
    obtain ⟨inhabited, path⟩ := spell_of_follows stored follows top there short
    rw [List.nil_append] at path
    rw [path]
    obtain ⟨taken, below, rfl, before, behind⟩ : ∃ taken below, names = taken ++ below ∧
        names.take (Path.componentsBehind rest).length = taken ∧
        names.drop (Path.componentsBehind rest).length = below :=
      ⟨_, _, (List.take_append_drop _ names).symm, rfl, rfl⟩
    rw [before] at short ⊢
    rw [behind] at inhabited
    rw [Entry.at?_append] at there
    obtain ⟨here, reached, there⟩ := Option.bind_eq_some_iff.mp there
    obtain ⟨name, more, rfl⟩ := List.exists_cons_of_ne_nil inhabited
    obtain ⟨outer, stat, entries, _, rfl, _, _⟩ := Entry.at?_cons there
    have listed := disk.list_at stored taken outer stat entries reached short
    obtain ⟨way, inside⟩ := reached_of_at? (Path.absolute taken) inhabited there
    rw [← Path.absolute_append] at inside
    exact ⟨way, entries, listed, inside⟩

end

end Disk

end FileSieve
