import Mathlib.Data.List.Basic
import FileSieve.Proofs.Disk.Places

/-! Where paths lead. A path may pass through links and `..`; its place is the list of names that lead straight to the
entry. What is looked up is what stands in the place of the path, and a path that is continued by names leads to the place
that those names continue. -/

namespace FileSieve

namespace Disk

structure Located where
  place : List Bytes
  links : Nat

def locate (disk : Disk) (follow : Bool) (links : Nat) (place : List Bytes) : List Bytes → Option Located
  | [] => some ⟨place, links⟩
  | name :: rest =>
    match disk.root.at? place with
    | some (.directory _ _ entries) =>
      if name = [0x2E] then locate disk follow links place rest
      else if name = [0x2E, 0x2E] then locate disk follow links place.dropLast rest
      else if maxName < name.length then none
      else match Entry.find? name entries with
        | none => none
        | some (.link _ _ target) =>
          if rest = [] ∧ !follow then some ⟨place ++ [name], links⟩
          else match links with
            | 0 => none
            | links + 1 =>
              if target.isAbsolute then locate disk follow links [] (steps target ++ rest)
              else locate disk follow links place (steps target ++ rest)
        | some _ => locate disk follow links (place ++ [name]) rest
    | _ => none
termination_by names => (links, names.length)

/-- The place that a path leads to. -/
def place? (disk : Disk) (path : Path) (follow : Bool) : Option (List Bytes) :=
  (disk.locate follow maxLinks [] (steps (disk.working.join path))).map Located.place

inductive Standing (disk : Disk) : List Bytes → List Entry → Entry → Prop
  | top : Standing disk [] [] disk.root
  | deeper (place : List Bytes) (above : List Entry) (outer : Bytes) (stat : Stat) (entries : List Entry) (name : Bytes)
      (inner : Entry) (standing : Standing disk place above (.directory outer stat entries))
      (found : Entry.find? name entries = some inner) :
      Standing disk (place ++ [name]) (.directory outer stat entries :: above) inner

namespace Standing

variable {disk : Disk} {place : List Bytes} {above : List Entry} {here parent : Entry}

theorem at_place (standing : Standing disk place above here) : disk.root.at? place = some here := by
  induction standing with
  | top => rfl
  | deeper place above outer stat entries name inner _ found ih => exact Entry.at?_concat ih found

theorem up (standing : Standing disk place (parent :: above) here) : Standing disk place.dropLast above parent := by
  cases standing with
  | deeper place above outer stat entries name inner standing found =>
      rw [List.dropLast_concat]
      exact standing

theorem up_top (standing : Standing disk place [] here) : Standing disk place.dropLast [] here := by
  cases standing
  exact .top

end Standing

/-- A walk leads to the entry in the place that is located, and fails where none is. -/
theorem walk_eq_locate {disk : Disk} {follow : Bool} {links : Nat} {place : List Bytes} {above : List Entry}
    {here : Entry} (standing : Standing disk place above here) (names : List Bytes) :
    (disk.walk follow links above here names).toOption =
      (disk.locate follow links place names).bind fun located => disk.root.at? located.place := by
  have current := standing.at_place
  fun_induction disk.walk follow links above here names generalizing place with
  | case1 links above here =>
      rw [locate, Option.bind_some, current]
      rfl
  | case2 links above rest name stat entries ih =>
      rw [locate, current]
      exact ih standing current
  | case3 links rest name stat entries other ih =>
      -- At the top there is nothing above, and a walk stays where it is.
      have above := standing.up_top
      rw [locate, current]
      exact ih above above.at_place
  | case4 links above rest name stat entries parent other ih =>
      have above := standing.up
      rw [locate, current]
      exact ih above above.at_place
  | case5 links above sought rest name stat entries notDot notUp long =>
      rw [locate, current]
      simp only [if_neg notDot, if_neg notUp, if_pos long]
      rfl
  | case6 links above sought rest name stat entries notDot notUp short missing =>
      rw [locate, current]
      simp only [if_neg notDot, if_neg notUp, if_neg short, missing]
      rfl
  | case7 links above sought rest name stat entries notDot notUp short linkName linkStat target found stays =>
      have there := Entry.at?_concat current found
      rw [locate, current]
      simp only [if_neg notDot, if_neg notUp, if_neg short, found, if_pos stays, Option.bind_some, there]
      rfl
  | case8 above sought rest name stat entries notDot notUp short linkName linkStat target found goes =>
      rw [locate, current]
      simp only [if_neg notDot, if_neg notUp, if_neg short, found, if_neg goes]
      rfl
  | case9 above sought rest name stat entries notDot notUp short linkName linkStat target found goes links absolute
      ih =>
      rw [locate, current]
      simp only [if_neg notDot, if_neg notUp, if_neg short, found, if_neg goes, if_pos absolute]
      exact ih .top rfl
  | case10 above sought rest name stat entries notDot notUp short linkName linkStat target found goes links relative
      ih =>
      rw [locate, current]
      simp only [if_neg notDot, if_neg notUp, if_neg short, found, if_neg goes, if_neg relative]
      exact ih standing current
  | case11 links above sought rest name stat entries notDot notUp short entry plain found ih =>
      have next := Standing.deeper place above name stat entries sought entry standing found
      rw [locate, current]
      simp only [if_neg notDot, if_neg notUp, if_neg short, found]
      exact ih next next.at_place
  | case12 links above here sought rest other =>
      rw [locate, current]
      cases here with
      | directory outer stat entries => exact absurd rfl (other outer stat entries)
      | file | link => rfl

theorem locate_append (disk : Disk) (follow : Bool) (links : Nat) (place front back : List Bytes)
    (further : back ≠ []) :
    disk.locate follow links place (front ++ back) =
      (disk.locate true links place front).bind fun located =>
        disk.locate follow located.links located.place back := by
  -- A link that ends the front part is followed there, since the path goes on behind it.
  have goes (rest : List Bytes) : ¬(rest ++ back = [] ∧ (!follow) = true) :=
    fun ends => further (List.append_eq_nil_iff.mp ends.1).2
  fun_induction disk.locate true links place front with
  | case1 links place => rfl
  | case2 links place rest name stat entries current ih =>
      rw [List.cons_append, locate, current]
      exact ih
  | case3 links place rest name stat entries current _ ih =>
      rw [List.cons_append, locate, current]
      exact ih
  | case4 links place name rest outer stat entries current notDot notUp long =>
      rw [List.cons_append, locate, current]
      simp only [if_neg notDot, if_neg notUp, if_pos long, Option.bind_none]
  | case5 links place name rest outer stat entries current notDot notUp short missing =>
      rw [List.cons_append, locate, current]
      simp only [if_neg notDot, if_neg notUp, if_neg short, missing, Option.bind_none]
  | case6 links place name rest outer stat entries current notDot notUp short linkName linkStat target found stays =>
      exact absurd stays.2 Bool.false_ne_true
  | case7 place name rest outer stat entries current notDot notUp short linkName linkStat target found _ =>
      rw [List.cons_append, locate, current]
      simp only [if_neg notDot, if_neg notUp, if_neg short, found, if_neg (goes rest), Option.bind_none]
  | case8 place name rest outer stat entries current notDot notUp short linkName linkStat target found _ links absolute
      ih =>
      rw [List.cons_append, locate, current]
      simp only [if_neg notDot, if_neg notUp, if_neg short, found, if_neg (goes rest), if_pos absolute]
      rw [← ih, List.append_assoc]
  | case9 place name rest outer stat entries current notDot notUp short linkName linkStat target found _ links relative
      ih =>
      rw [List.cons_append, locate, current]
      simp only [if_neg notDot, if_neg notUp, if_neg short, found, if_neg (goes rest), if_neg relative]
      rw [← ih, List.append_assoc]
  | case10 links place name rest outer stat entries current notDot notUp short entry plain found ih =>
      rw [List.cons_append, locate, current]
      simp only [if_neg notDot, if_neg notUp, if_neg short, found]
      exact ih
  | case11 links place name rest here =>
      rw [List.cons_append, locate]
      split
      · rename_i outer stat entries current
        exact absurd current (here outer stat entries)
      · rfl

theorem locate_names {disk : Disk} {follow : Bool} {place names : List Bytes} {entry : Entry}
    (there : disk.root.at? (place ++ names) = some entry) (stored : ∀ name ∈ names, isStoredName name = true)
    (plain : entry.isLink = false ∨ follow = false) (links : Nat) :
    disk.locate follow links place names = some ⟨place ++ names, links⟩ := by
  induction names generalizing place with
  | nil => rw [locate, List.append_nil]
  | cons name names ih =>
      obtain ⟨first, others⟩ := List.forall_mem_cons.mp stored
      have whole : disk.root.at? ((place ++ [name]) ++ names) = some entry := by
        rwa [List.append_assoc, List.singleton_append]
      rw [Entry.at?_append] at there
      obtain ⟨here, current, below⟩ := Option.bind_eq_some_iff.mp there
      obtain ⟨outer, stat, entries, inner, rfl, found, rest⟩ := Entry.at?_cons below
      simp only [isStoredName, isFileName, Bool.and_eq_true, decide_eq_true_eq, bne_iff_ne] at first
      rw [locate, current]
      simp only [if_neg first.1.1.1.2, if_neg first.1.1.2, if_neg (Nat.not_lt.mpr first.2), found]
      have next := ih whole others
      rw [List.append_assoc, List.singleton_append] at next
      cases inner with
      | file | directory => exact next
      | link linkName linkStat target =>
          cases names with
          | cons second names => cases rest
          | nil =>
              cases rest
              obtain rfl : follow = false := plain.resolve_left Bool.false_ne_true.symm
              exact if_pos ⟨rfl, rfl⟩

theorem place?_of_lookup {disk : Disk} {path : Path} {follow : Bool} {entry : Entry}
    (found : disk.lookup path follow = .ok entry) :
    path.bytes ≠ [] ∧ ∃ place, disk.place? path follow = some place ∧ disk.root.at? place = some entry := by
  rw [lookup] at found
  split at found
  · cases found
  · split at found
    · cases found
    · rename_i inhabited
      split at found
      · cases found
      · have walked := @walk_eq_locate disk follow maxLinks [] [] disk.root .top (steps (disk.working.join path))
        rw [found] at walked
        obtain ⟨located, leads, there⟩ := Option.bind_eq_some_iff.mp walked.symm
        exact ⟨inhabited, located.place, congrArg (Option.map Located.place) leads, there⟩

theorem place?_of_list {disk : Disk} {path : Path} {entries : List Entry} (listed : disk.list path = .ok entries) :
    path.bytes ≠ [] ∧ ∃ place outer stat,
      disk.place? path true = some place ∧ disk.root.at? place = some (.directory outer stat entries) := by
  rw [list] at listed
  split at listed
  · rename_i found
    cases listed
    obtain ⟨inhabited, place, leads, there⟩ := place?_of_lookup found
    exact ⟨inhabited, place, _, _, leads, there⟩
  · cases listed
  · cases listed

end Disk

namespace Path

theorem isAbsolute_push {path : Path} (inhabited : path.bytes ≠ []) (name : Bytes) (named : isName name = true) :
    (path.push (.name name)).isAbsolute = path.isAbsolute := by
  rw [isAbsolute, isAbsolute, push_name_bytes inhabited name named, entrance]
  split
  · rw [List.head?_append_of_ne_nil _ inhabited]
  · rw [List.append_assoc, List.head?_append_of_ne_nil _ inhabited]

theorem entrance_append (front : Bytes) {back : Bytes} (inhabited : back ≠ []) :
    entrance ⟨front ++ back⟩ = front ++ entrance ⟨back⟩ := by
  have last : (front ++ back).getLast? = back.getLast? := List.getLast?_append_of_ne_nil _ inhabited
  rw [entrance, entrance, last]
  split
  · rfl
  · exact List.append_assoc _ _ _

theorem join_push (base : Path) {path : Path} (inhabited : path.bytes ≠ []) (name : Bytes)
    (named : isName name = true) :
    base.join (path.push (.name name)) = (base.join path).push (.name name) := by
  have rooted := isAbsolute_push inhabited name named
  by_cases absolute : path.isAbsolute = true
  · rw [join, rooted, if_pos absolute, join, if_pos absolute]
  · have relative := Bool.eq_false_iff.mpr absolute
    by_cases empty : base.bytes = []
    · have nothing (path : Path) (relative : path.isAbsolute = false) : base.join path = path := by
        rw [join, relative, if_neg Bool.false_ne_true, empty]
        rfl
      rw [nothing _ (rooted.trans relative), nothing _ relative]
    · have joined := join_relative empty relative
      have whole : (base.join path).bytes ≠ [] := by
        rw [joined]
        exact List.append_ne_nil_of_right_ne_nil _ inhabited
      have bytes : (base.join (path.push (.name name))).bytes = ((base.join path).push (.name name)).bytes := by
        rw [join_relative empty (rooted.trans relative), push_name_bytes inhabited name named,
          push_name_bytes whole name named, ← List.append_assoc, ← entrance_append _ inhabited, ← joined]
      exact congrArg Path.mk bytes

theorem push_name_inhabited {path : Path} (inhabited : path.bytes ≠ []) (name : Bytes) (named : isName name = true) :
    (path.push (.name name)).bytes ≠ [] := by
  rw [push_name_bytes inhabited name named]
  exact List.append_ne_nil_of_right_ne_nil _ ((isName_iff name).mp named).1

theorem join_inhabited (base : Path) {path : Path} (inhabited : path.bytes ≠ []) : (base.join path).bytes ≠ [] := by
  rw [join]
  split
  · exact inhabited
  · split
    · exact inhabited
    · split
      · exact List.append_ne_nil_of_right_ne_nil _ inhabited
      · exact List.append_ne_nil_of_right_ne_nil _ (List.cons_ne_nil _ _)

theorem join_descend (base : Path) {path : Path} (inhabited : path.bytes ≠ []) (names : List Bytes)
    (proper : ∀ name ∈ names, isFileName name = true) :
    base.join (path.descend names) = (base.join path).descend names := by
  induction names generalizing path with
  | nil => rfl
  | cons name names ih =>
      obtain ⟨first, others⟩ := List.forall_mem_cons.mp proper
      have named := isName_of_isFileName name first
      have below := ih (push_name_inhabited inhabited name named) others
      rw [join_push base inhabited name named] at below
      exact below

end Path

namespace Disk

def pieces (path : Path) : List Bytes := (Bytes.split Path.separator path.bytes).filter (· ≠ [])

theorem pieces_push {path : Path} (inhabited : path.bytes ≠ []) (name : Bytes) (proper : isFileName name = true) :
    pieces (path.push (.name name)) = pieces path ++ [name] := by
  have named := isName_of_isFileName name proper
  obtain ⟨given, plain⟩ := (isName_iff name).mp named
  have single := Bytes.split_plain Path.separator name plain
  have kept : [name].filter (· ≠ []) = [name] := List.filter_cons_of_pos (decide_eq_true given)
  rw [pieces, pieces, Path.push_name_bytes inhabited name named, Path.entrance]
  split
  · rename_i ends
    obtain ⟨front, whole⟩ := List.getLast?_eq_some_iff.mp ends
    rw [whole, List.append_assoc, List.singleton_append, Bytes.split_append_separator, Bytes.split_append_separator,
      single, List.filter_append, List.filter_append, kept]
    simp [Bytes.split]
  · rw [List.append_assoc, List.singleton_append, Bytes.split_append_separator, single, List.filter_append, kept]

theorem pieces_descend {path : Path} (inhabited : path.bytes ≠ []) (names : List Bytes)
    (proper : ∀ name ∈ names, isFileName name = true) : pieces (path.descend names) = pieces path ++ names := by
  induction names generalizing path with
  | nil => exact (List.append_nil _).symm
  | cons name names ih =>
      obtain ⟨first, others⟩ := List.forall_mem_cons.mp proper
      have named := isName_of_isFileName name first
      have below := ih (path.push_name_inhabited inhabited name named) others
      rw [pieces_push inhabited name first, List.append_assoc, List.singleton_append] at below
      exact below

theorem steps_eq (path : Path) :
    steps path = if path.bytes.getLast? = some Path.separator then pieces path ++ [[0x2E]] else pieces path := rfl

theorem steps_descend {path : Path} (inhabited : path.bytes ≠ []) {names : List Bytes} (further : names ≠ [])
    (proper : ∀ name ∈ names, isFileName name = true) : steps (path.descend names) = pieces path ++ names := by
  obtain ⟨name, names, rfl⟩ := List.exists_cons_of_ne_nil further
  obtain ⟨first, others⟩ := List.forall_mem_cons.mp proper
  have ends := (path.push_name_isOpen name (isName_of_isFileName name first)).descend names others
  have last : (path.descend (name :: names)).bytes.getLast? ≠ some Path.separator := ends.2
  rw [steps_eq, if_neg last, pieces_descend inhabited _ proper]

theorem locate_pieces {disk : Disk} {path : Path} {place : List Bytes} (leads : disk.place? path true = some place) :
    ∃ links, disk.locate true maxLinks [] (pieces (disk.working.join path)) = some ⟨place, links⟩ := by
  obtain ⟨located, found, rfl⟩ := Option.map_eq_some_iff.mp leads
  rw [steps_eq] at found
  split at found
  · rw [locate_append _ _ _ _ _ _ (List.cons_ne_nil _ _)] at found
    obtain ⟨before, front, ends⟩ := Option.bind_eq_some_iff.mp found
    rw [locate] at ends
    split at ends
    · rw [if_pos rfl, locate] at ends
      cases ends
      exact ⟨_, front⟩
    · cases ends
  · exact ⟨_, found⟩

theorem place?_descend {disk : Disk} (stored : disk.hasStoredNames = true) {path : Path} (inhabited : path.bytes ≠ [])
    {place names : List Bytes} {entry : Entry} (leads : disk.place? path true = some place) (further : names ≠ [])
    (there : disk.root.at? (place ++ names) = some entry) :
    disk.place? (path.descend names) false = some (place ++ names) := by
  have kept : ∀ name ∈ names, isStoredName name = true := by
    intro name member
    exact isStoredName_of_at? stored there name (List.mem_append_right _ member)
  have proper : ∀ name ∈ names, isFileName name = true := fun name member => isFileName_of_stored (kept name member)
  obtain ⟨links, found⟩ := locate_pieces leads
  rw [place?, Path.join_descend _ inhabited names proper,
    steps_descend (Path.join_inhabited _ inhabited) further proper, locate_append _ _ _ _ _ _ further, found,
    Option.bind_some, locate_names there kept (.inr rfl)]
  rfl

theorem place?_absolute {disk : Disk} (stored : disk.hasStoredNames = true) {names : List Bytes} {entry : Entry}
    (there : disk.root.at? names = some entry) (plain : entry.isLink = false) :
    disk.place? (.absolute names) true = some names := by
  have kept := isStoredName_of_at? stored there
  have proper : ∀ name ∈ names, isFileName name = true := fun name member => isFileName_of_stored (kept name member)
  rw [place?, Path.join, if_pos (Path.absolute_isAbsolute names proper)]
  cases names with
  | nil =>
      have top : steps (.absolute []) = [[0x2E]] := by decide
      rw [top, locate, Entry.at?, root]
      simp only [if_true, locate]
      rfl
  | cons name names =>
      rw [steps_absolute name names proper, locate_names there kept (.inl plain)]
      rfl

end Disk

end FileSieve
