import Mathlib.Data.List.Nodup
import FileSieve.Proofs.Disk.Places

namespace FileSieve

mutual

def Entry.ways : Entry → List (List Bytes)
  | .file name _ _ | .link name _ _ => [[name]]
  | .directory name _ entries => [name] :: (waysBelow entries).map (name :: ·)

def waysBelow : List Entry → List (List Bytes)
  | [] => []
  | entry :: rest => entry.ways ++ waysBelow rest

end

def Disk.HasDistinctNames (disk : Disk) : Prop := (waysBelow disk.entries).Nodup

theorem waysBelow_eq_flatMap (entries : List Entry) : waysBelow entries = entries.flatMap Entry.ways := by
  induction entries with
  | nil => rfl
  | cons entry rest ih => rw [waysBelow, List.flatMap_cons, ih]

mutual

theorem Entry.visits_path (directory : Path) :
    ∀ entry : Entry, (entry.visits (fun _ => true) directory).map Visit.path = entry.ways.map directory.descend
  | .file _ _ _ | .link _ _ _ => rfl
  | .directory name _ entries => by
      rw [Entry.visits, if_pos rfl, List.map_cons, visitsBelow_path (directory.push (.name name)) entries, Entry.ways,
        List.map_cons, List.map_map]
      rfl

theorem visitsBelow_path (directory : Path) :
    ∀ entries : List Entry,
      (visitsBelow (fun _ => true) directory entries).map Visit.path = (waysBelow entries).map directory.descend
  | [] => rfl
  | entry :: rest => by
      rw [visitsBelow, waysBelow, List.map_append, List.map_append, entry.visits_path directory,
        visitsBelow_path directory rest]

end

theorem Entry.ways_begin {entry : Entry} {names : List Bytes} (member : names ∈ entry.ways) :
    ∃ rest, names = entry.name :: rest := by
  cases entry with
  | file | link =>
      cases List.mem_singleton.mp member
      exact ⟨[], rfl⟩
  | directory name stat entries =>
      rcases List.mem_cons.mp member with rfl | below
      · exact ⟨[], rfl⟩
      · obtain ⟨rest, _, rfl⟩ := List.mem_map.mp below
        exact ⟨rest, rfl⟩

theorem Entry.name_mem_ways (entry : Entry) : [entry.name] ∈ entry.ways := by
  cases entry <;> exact List.mem_cons_self

theorem Entry.find?_of_mem {entries : List Entry} (distinct : (waysBelow entries).Nodup) {entry : Entry}
    (member : entry ∈ entries) : find? entry.name entries = some entry := by
  induction entries with
  | nil => cases member
  | cons first rest ih =>
      rw [waysBelow, List.nodup_append] at distinct
      obtain ⟨_, later, apart⟩ := distinct
      rw [find?, List.find?_cons]
      rcases List.mem_cons.mp member with rfl | further
      · rw [beq_self_eq_true]
      · have below : [entry.name] ∈ waysBelow rest := by
          rw [waysBelow_eq_flatMap]
          exact List.mem_flatMap.mpr ⟨entry, further, entry.name_mem_ways⟩
        have other : (first.name == entry.name) = false := by
          apply beq_eq_false_iff_ne.mpr
          intro same
          exact apart _ first.name_mem_ways _ below (congrArg ([·]) same)
        rw [other]
        exact ih later further

theorem distinct_of_mem {entries inner : List Entry} (distinct : (waysBelow entries).Nodup) {name : Bytes}
    {stat : Stat} (member : .directory name stat inner ∈ entries) : (waysBelow inner).Nodup := by
  rw [waysBelow_eq_flatMap] at distinct
  have below := (List.nodup_flatMap.mp distinct).1 _ member
  rw [Entry.ways, List.nodup_cons] at below
  exact below.2.of_map _

theorem mem_waysBelow {entries : List Entry} (distinct : (waysBelow entries).Nodup) (outer : Bytes) (stat : Stat)
    (names : List Bytes) :
    names ∈ waysBelow entries ↔
      names ≠ [] ∧ ∃ entry, Entry.at? names (.directory outer stat entries) = some entry := by
  induction names generalizing entries outer stat with
  | nil =>
      constructor
      · intro member
        rw [waysBelow_eq_flatMap] at member
        obtain ⟨entry, _, inside⟩ := List.mem_flatMap.mp member
        obtain ⟨_, begins⟩ := Entry.ways_begin inside
        cases begins
      · exact fun given => absurd rfl given.1
  | cons name names ih =>
      rw [waysBelow_eq_flatMap, List.mem_flatMap]
      constructor
      · rintro ⟨first, member, inside⟩
        obtain ⟨rest, begins⟩ := Entry.ways_begin inside
        obtain ⟨rfl, rfl⟩ := List.cons.inj begins
        -- A directory is searched for the first entry of a name, and no other has the name.
        have found := Entry.find?_of_mem distinct member
        refine ⟨List.cons_ne_nil _ _, ?_⟩
        rw [Entry.at?, found, Option.bind_some]
        cases first with
        | file | link =>
            cases List.mem_singleton.mp inside
            exact ⟨_, rfl⟩
        | directory inner innerStat held =>
            rcases List.mem_cons.mp inside with same | below
            · cases same
              exact ⟨_, rfl⟩
            · obtain ⟨_, among, same⟩ := List.mem_map.mp below
              cases same
              exact ((ih (distinct_of_mem distinct member) inner innerStat).mp among).2
      · rintro ⟨-, last, there⟩
        obtain ⟨_, _, _, first, same, found, rest⟩ := Entry.at?_cons there
        cases same
        obtain ⟨member, rfl⟩ := Entry.find?_some found
        refine ⟨first, member, ?_⟩
        cases names with
        | nil => exact first.name_mem_ways
        | cons second names =>
            obtain ⟨inner, innerStat, held, _, rfl, _, _⟩ := Entry.at?_cons rest
            have below := (ih (distinct_of_mem distinct member) inner innerStat).mpr ⟨List.cons_ne_nil _ _, last, rest⟩
            exact List.mem_cons_of_mem _ (List.mem_map_of_mem below)

theorem distinct_of_at? {names : List Bytes} {outer inner : Bytes} {stat innerStat : Stat} {entries held : List Entry}
    (distinct : (waysBelow entries).Nodup)
    (there : Entry.at? names (.directory outer stat entries) = some (.directory inner innerStat held)) :
    (waysBelow held).Nodup := by
  induction names generalizing outer stat entries with
  | nil =>
      cases there
      exact distinct
  | cons name names ih =>
      obtain ⟨_, _, _, first, same, found, rest⟩ := Entry.at?_cons there
      cases same
      obtain ⟨member, rfl⟩ := Entry.find?_some found
      cases first with
      | file | link => cases names <;> cases rest
      | directory => exact ih (distinct_of_mem distinct member) rest

end FileSieve
