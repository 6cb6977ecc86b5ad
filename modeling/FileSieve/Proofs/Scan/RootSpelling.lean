import Mathlib.Data.List.Forall2
import FileSieve.Proofs.Disk.Locate
import FileSieve.Proofs.Disk.Spelling

/-! Respelling a root is conservative. The names that are found make up a path that is there, and differ from the given
ones in letter case only; behind the first name that is not found, all stays as it was given. Where each name is there
as it was given, nothing is respelled. -/

namespace FileSieve

/-- Names may differ in letter case, other components not at all. -/
def Component.Alike : Component → Component → Prop
  | name first, name second => foldedName first = foldedName second
  | first, second => first = second

theorem Component.alike_map_name {first second : List Bytes}
    (same : List.Forall₂ (fun one other => foldedName one = foldedName other) first second) :
    List.Forall₂ Alike (first.map name) (second.map name) :=
  List.forall₂_map_left_iff.mpr (List.forall₂_map_right_iff.mpr same)

theorem Path.foldl_push_names (path : Path) (names : List Bytes) :
    (names.map Component.name).foldl push path = path.descend names := by
  rw [List.foldl_map]
  rfl

theorem Component.exists_names {components : List Component} (inner : ∀ component ∈ components, component.IsInner)
    (straight : .parent ∉ components) :
    ∃ names : List Bytes, components = names.map .name ∧ ∀ name ∈ names, isFileName name = true := by
  induction components with
  | nil => exact ⟨[], rfl, nofun⟩
  | cons component components ih =>
      obtain ⟨first, others⟩ := List.forall_mem_cons.mp inner
      rw [List.mem_cons, not_or] at straight
      obtain ⟨names, rfl, proper⟩ := ih others straight.2
      cases component with
      | name name => exact ⟨name :: names, rfl, List.forall_mem_cons.mpr ⟨first, proper⟩⟩
      | parent => exact absurd rfl straight.1
      | root | current => exact first.elim

theorem Path.exists_names {path : Path} (anchored : path.isAbsolute = true) (straight : .parent ∉ path.components) :
    ∃ names : List Bytes, path.components = .root :: names.map .name ∧ (∀ name ∈ names, isFileName name = true) ∧
      ∀ disk : Disk, disk.spelled path = disk.spell (absolute []) (names.map .name) := by
  obtain ⟨bytes⟩ := path
  obtain ⟨rest, rfl⟩ := List.head?_eq_some_iff.mp (beq_iff_eq.mp anchored)
  rw [components_absolute, List.mem_cons, not_or] at straight
  obtain ⟨names, behind, proper⟩ := Component.exists_names (componentsBehind_inner rest) straight.2
  refine ⟨names, by rw [components_absolute, behind], proper, fun disk => ?_⟩
  rw [Disk.spelled, components_absolute, behind, Disk.spell]
  · rfl
  · intro name same
    cases same

namespace Takes

variable {names : List Bytes} {wanted name : Bytes}

theorem same (takes : Takes names wanted name) : foldedName name = foldedName wanted := by
  rw [Takes] at takes
  split at takes
  · rw [takes]
  · obtain ⟨before, after, split, same, first⟩ := takes
    exact same

theorem exactly (takes : Takes names wanted name) (there : wanted ∈ names) : name = wanted := by
  rwa [Takes, if_pos there] at takes

end Takes

namespace Disk

/-- The names of the entries in a directory; there are none if it cannot be listed. -/
def namesIn (disk : Disk) (directory : Path) : List Bytes :=
  ((disk.list directory).toOption.getD []).map Entry.name

variable {disk : Disk}

theorem mem_namesIn_iff {directory : Path} {name : Bytes} :
    name ∈ disk.namesIn directory ↔
      ∃ entries, disk.list directory = .ok entries ∧ ∃ entry ∈ entries, entry.name = name := by
  rw [namesIn]
  cases listed : disk.list directory with
  | error error => simp [Except.toOption]
  | ok entries => simp [Except.toOption]

theorem takes_of_spelling? {directory : Path} {wanted name : Bytes}
    (spelled : disk.spelling? directory wanted = some name) : Takes (disk.namesIn directory) wanted name := by
  cases listed : disk.list directory with
  | error error =>
      rw [spelling?, listed] at spelled
      cases spelled
  | ok entries =>
      rw [namesIn, listed]
      exact (spelling?_eq_some_iff listed wanted name).mp spelled

theorem spelling?_none {directory : Path} {wanted : Bytes} (unspelled : disk.spelling? directory wanted = none) :
    ∀ other ∈ disk.namesIn directory, foldedName other ≠ foldedName wanted := by
  change (if (disk.namesIn directory).contains wanted then some wanted
    else (disk.namesIn directory).find? fun other => foldedName other == foldedName wanted) = none at unspelled
  split at unspelled
  · cases unspelled
  · intro other member same
    exact List.find?_eq_none.mp unspelled other member (beq_iff_eq.mpr same)

/-- How wanted names are spelled from a directory on: each as in the directory reached so far, the rest as it stands
from the first name that no name there differs from in letter case only. -/
inductive Respells (disk : Disk) : Path → List Bytes → List Bytes → List Bytes → Prop
  | rests (directory : Path) (rest : List Bytes)
      (missing : ∀ name more, rest = name :: more →
        ∀ other ∈ disk.namesIn directory, foldedName other ≠ foldedName name) :
      Respells disk directory rest [] rest
  | takes (directory : Path) (wanted name : Bytes) (more found rest : List Bytes)
      (takes : Takes (disk.namesIn directory) wanted name)
      (further : Respells disk (directory.push (.name name)) more found rest) :
      Respells disk directory (wanted :: more) (name :: found) rest

theorem spell_respells (disk : Disk) (directory : Path) (wanted : List Bytes) :
    ∃ found rest, disk.Respells directory wanted found rest ∧
      disk.spell directory (wanted.map .name) = directory.descend (found ++ rest) := by
  induction wanted generalizing directory with
  | nil => exact ⟨[], [], .rests directory [] nofun, by rw [List.map_nil, spell]; rfl⟩
  | cons wanted more ih =>
      rw [List.map_cons]
      cases spelled : disk.spelling? directory wanted with
      | some name =>
          have takes := takes_of_spelling? spelled
          obtain ⟨found, rest, further, reached⟩ := ih (directory.push (.name name))
          refine ⟨name :: found, rest, .takes directory wanted name more found rest takes further, ?_⟩
          rw [spell_taken _ spelled, reached]
          rfl
      | none =>
          refine ⟨[], wanted :: more, .rests directory _ ?_, ?_⟩
          · rintro name others ⟨⟩
            exact spelling?_none spelled
          · rw [spell_kept _ spelled, Path.foldl_push_names]
            rfl

namespace Respells

variable {directory : Path} {wanted found rest : List Bytes}

theorem alike (respells : disk.Respells directory wanted found rest) :
    ∃ typed, wanted = typed ++ rest ∧
      List.Forall₂ (fun taken given => foldedName taken = foldedName given) found typed := by
  induction respells with
  | rests directory rest => exact ⟨[], rfl, .nil⟩
  | takes directory wanted name more found rest takes further ih =>
      obtain ⟨typed, rfl, alike⟩ := ih
      exact ⟨wanted :: typed, rfl, .cons takes.same alike⟩

theorem there (respells : disk.Respells directory wanted found rest) (front : List Bytes) (name : Bytes)
    (back : List Bytes) (split : found = front ++ name :: back) : name ∈ disk.namesIn (directory.descend front) := by
  induction respells generalizing front with
  | rests => exact absurd split (by simp)
  | takes directory wanted taken more found rest takes further ih =>
      cases front with
      | nil =>
          cases split
          exact takes.mem
      | cons first front =>
          obtain ⟨rfl, behind⟩ := List.cons.inj split
          exact ih front behind

theorem missing (respells : disk.Respells directory wanted found rest) (name : Bytes) (more : List Bytes)
    (begins : rest = name :: more) :
    ∀ other ∈ disk.namesIn (directory.descend found), foldedName other ≠ foldedName name := by
  induction respells with
  | rests directory rest missing => exact missing name more begins
  | takes directory wanted taken others found rest takes further ih => exact ih begins

theorem unchanged (respells : disk.Respells directory wanted found rest)
    (spelled : ∀ front name back, wanted = front ++ name :: back → name ∈ disk.namesIn (directory.descend front)) :
    found ++ rest = wanted := by
  induction respells with
  | rests => rfl
  | takes directory wanted taken more found rest takes further ih =>
      obtain rfl : taken = wanted := takes.exactly (spelled [] wanted more rfl)
      refine congrArg (taken :: ·) (ih ?_)
      rintro front name back rfl
      exact spelled (taken :: front) name back rfl

end Respells

theorem lookup_of_place? {path : Path} {follow : Bool} {place : List Bytes} {entry : Entry}
    (clean : path.bytes.contains 0 = false) (inhabited : path.bytes ≠ []) (short : path.bytes.length ≤ maxPath)
    (leads : disk.place? path follow = some place) (there : disk.root.at? place = some entry) :
    disk.lookup path follow = .ok entry := by
  obtain ⟨located, found, rfl⟩ := Option.map_eq_some_iff.mp leads
  have walked := @walk_eq_locate disk follow maxLinks [] [] disk.root .top (steps (disk.working.join path))
  rw [found, Option.bind_some, there] at walked
  rw [lookup, clean, if_neg Bool.false_ne_true, if_neg inhabited, if_neg (Nat.not_lt.mpr short)]
  cases reached : disk.walk follow maxLinks [] disk.root (steps (disk.working.join path)) with
  | ok last =>
      rw [reached] at walked
      exact congrArg Except.ok (Option.some.inj walked)
  | error error =>
      rw [reached] at walked
      cases walked

section

variable (stored : disk.hasStoredNames = true)

include stored

theorem place?_push {directory : Path} {name : Bytes} (there : name ∈ disk.namesIn directory) :
    ∃ place entry, disk.place? (directory.push (.name name)) false = some (place ++ [name]) ∧
      disk.root.at? (place ++ [name]) = some entry := by
  obtain ⟨entries, listed, first, member, rfl⟩ := mem_namesIn_iff.mp there
  obtain ⟨inhabited, place, outer, stat, leads, reached⟩ := place?_of_list listed
  have present : (Entry.find? first.name entries).isSome = true := by
    rw [Entry.find?, List.find?_isSome]
    exact ⟨first, member, beq_self_eq_true _⟩
  obtain ⟨entry, found⟩ := Option.isSome_iff_exists.mp present
  have below := Entry.at?_concat reached found
  have leadsBelow : disk.place? (directory.descend [first.name]) false = some (place ++ [first.name]) :=
    place?_descend stored inhabited leads (List.cons_ne_nil _ _) below
  exact ⟨place, entry, leadsBelow, below⟩

theorem isStoredName_of_namesIn {directory : Path} {name : Bytes} (there : name ∈ disk.namesIn directory) :
    isStoredName name = true := by
  obtain ⟨place, entry, _, below⟩ := place?_push stored there
  exact isStoredName_of_at? stored below name (List.mem_append_right _ List.mem_cons_self)

theorem exists_lookup_absolute {names : List Bytes}
    (there : ∀ front name back, names = front ++ name :: back → name ∈ disk.namesIn (.absolute front))
    (short : (Path.absolute names).bytes.length ≤ maxPath) :
    ∃ entry, disk.lookup (.absolute names) false = .ok entry := by
  rcases List.eq_nil_or_concat' names with rfl | ⟨front, name, rfl⟩
  · refine ⟨disk.root, ?_⟩
    change disk.walk false maxLinks [] disk.root [[0x2E]] = _
    rw [root, walk, if_pos rfl, walk]
  · have kept : ∀ other ∈ front ++ [name], isStoredName other = true := by
      intro other member
      obtain ⟨before, behind, split⟩ := List.append_of_mem member
      exact isStoredName_of_namesIn stored (there before other behind split)
    have inhabited : front ++ [name] ≠ [] := List.append_ne_nil_of_right_ne_nil _ (List.cons_ne_nil _ _)
    obtain ⟨first, others, split⟩ := List.exists_cons_of_ne_nil inhabited
    have clean := absolute_clean first others (split ▸ kept)
    have bytes := Path.absolute_bytes first others fun other member => isFileName_of_stored ((split ▸ kept) other member)
    rw [← split] at clean bytes
    obtain ⟨place, entry, leads, below⟩ := place?_push stored (there front name [] rfl)
    rw [Path.absolute_push] at leads
    refine ⟨entry, lookup_of_place? clean ?_ short leads below⟩
    rw [bytes, split, List.flatMap_cons]
    exact List.cons_ne_nil _ _

end

/-- Respelling a path that is absolute and without `..` changes no more of its components than the letter case of
names, and nothing if each name is there as it is given. What it makes of the path is a part that is there, each of its
names in the directory that is reached so far, and behind it the rest of the names as they are given; that rest begins
with a name from which all names in the directory reached differ in more than letter case. -/
theorem spelled_conservative (disk : Disk) (stored : disk.hasStoredNames = true) (path : Path)
    (anchored : path.isAbsolute = true) (straight : .parent ∉ path.components) :
    List.Forall₂ Component.Alike (disk.spelled path).components path.components ∧
      ((∀ front name back, path.components = .root :: (front ++ name :: back).map .name →
          name ∈ disk.namesIn (.absolute front)) →
        (disk.spelled path).same path = true) ∧
      ∃ typed found rest, path.components = .root :: (typed ++ rest).map .name ∧
        disk.spelled path = .absolute (found ++ rest) ∧
        List.Forall₂ (fun taken given => foldedName taken = foldedName given) found typed ∧
        (∀ front name back, found = front ++ name :: back → name ∈ disk.namesIn (.absolute front)) ∧
        ((Path.absolute found).bytes.length ≤ maxPath → ∃ entry, disk.lookup (.absolute found) false = .ok entry) ∧
        ∀ name more, rest = name :: more →
          ∀ other ∈ disk.namesIn (.absolute found), foldedName other ≠ foldedName name := by
  obtain ⟨names, components, proper, spelled⟩ := Path.exists_names anchored straight
  obtain ⟨found, rest, respells, reached⟩ := disk.spell_respells (.absolute []) names
  have whole : disk.spelled path = .absolute (found ++ rest) := (spelled disk).trans reached
  obtain ⟨typed, split, alike⟩ := respells.alike
  have kept : ∀ name ∈ found ++ rest, isFileName name = true := by
    intro name member
    rcases List.mem_append.mp member with taken | given
    · obtain ⟨front, back, before⟩ := List.append_of_mem taken
      exact isFileName_of_stored (isStoredName_of_namesIn stored (respells.there front name back before))
    · exact proper name (split ▸ List.mem_append_right _ given)
  have made := Path.components_absolute_names _ kept
  refine ⟨?_, ?_, typed, found, rest, split ▸ components, whole, alike, respells.there,
    exists_lookup_absolute stored respells.there, respells.missing⟩
  · rw [whole, made, components, split]
    refine .cons rfl (Component.alike_map_name (List.rel_append alike ?_))
    exact List.forall₂_same.mpr fun _ _ => rfl
  · intro exactly
    have unchanged : found ++ rest = names := by
      refine respells.unchanged fun front name back before => ?_
      exact exactly front name back (before ▸ components)
    exact (Path.same_iff _ _).mpr (by rw [whole, made, components, unchanged])

def capitalLogs : Disk :=
  ⟨[.directory (Utf8.encode "LOGS".toList) ⟨⟨0, 0⟩, false⟩
    [.file (Utf8.encode "b.log".toList) ⟨⟨0, 0⟩, false⟩ [0x79]]], .ofString "/"⟩

theorem spelled_conservative_capitalLogs :
    capitalLogs.hasStoredNames = true ∧ (Path.ofString "/logs/Old/b.log").isAbsolute = true ∧
      .parent ∉ (Path.ofString "/logs/Old/b.log").components ∧
      List.Forall₂ Component.Alike (capitalLogs.spelled (.ofString "/logs/Old/b.log")).components
        (Path.ofString "/logs/Old/b.log").components := by
  have stored : capitalLogs.hasStoredNames = true := by decide
  have anchored : (Path.ofString "/logs/Old/b.log").isAbsolute = true := by decide
  have straight : .parent ∉ (Path.ofString "/logs/Old/b.log").components := by decide
  exact ⟨stored, anchored, straight, (spelled_conservative capitalLogs stored _ anchored straight).1⟩

example : capitalLogs.spelled (.ofString "/logs/Old/b.log") = .ofString "/LOGS/Old/b.log" := by cbv

end Disk

end FileSieve
