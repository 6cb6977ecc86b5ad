import FileSieve.Proofs.Criteria.Inside
import FileSieve.Proofs.Path.Components

namespace FileSieve

def Component.closed : Component → Bytes
  | root => [Path.separator]
  | component => component.bytes ++ [Path.separator]

theorem Component.closed_of_piece {piece : Bytes} {component : Component} (counts : ofPiece? piece = some component) :
    component.closed = piece ++ [Path.separator] := by
  rw [ofPiece?] at counts
  split at counts
  · cases counts
  · split at counts
    · rename_i parent
      cases counts
      rw [parent]
      rfl
    · cases counts
      rfl

namespace Path

def spelling (components : List Component) : Bytes := components.flatMap Component.closed

theorem spelling_append (front back : List Component) : spelling (front ++ back) = spelling front ++ spelling back :=
  List.flatMap_append

theorem spelling_singleton (component : Component) : spelling [component] = component.closed := by
  rw [spelling, List.flatMap_singleton]

/-- Neither repeated separators nor inner `.` components. -/
def IsPlain (path : Path) : Prop := path.entrance = spelling path.components

instance (path : Path) : Decidable path.IsPlain := inferInstanceAs (Decidable (_ = _))

theorem entrance_prefix {path ancestor : Path} (plain : path.IsPlain) (plainAncestor : ancestor.IsPlain)
    (starts : path.startsWith ancestor = true) : ancestor.entrance <+: path.entrance := by
  obtain ⟨further, whole⟩ := List.isPrefixOf_iff_prefix.mp starts
  rw [plain, plainAncestor, ← whole, spelling_append]
  exact List.prefix_append _ _

def closeAll (pieces : List Bytes) : Bytes := pieces.flatMap (· ++ [separator])

theorem closeAll_cons (piece : Bytes) (pieces : List Bytes) :
    closeAll (piece :: pieces) = piece ++ separator :: closeAll pieces := by
  rw [closeAll, List.flatMap_cons, List.append_assoc]
  rfl

theorem closeAll_split (bytes : Bytes) : closeAll (Bytes.split separator bytes) = bytes ++ [separator] := by
  induction bytes with
  | nil => rfl
  | cons byte bytes ih =>
      by_cases same : byte = separator
      · subst same
        rw [Bytes.split_separator, closeAll_cons, ih]
        rfl
      · obtain ⟨piece, pieces, split⟩ := List.exists_cons_of_ne_nil (Bytes.split_ne_nil separator bytes)
        rw [split, closeAll_cons] at ih
        rw [Bytes.split_cons _ _ _ _ _ same split, closeAll_cons, List.cons_append, ih, List.cons_append]

theorem split_closeAll {pieces : List Bytes} (plain : ∀ piece ∈ pieces, separator ∉ piece) :
    Bytes.split separator (closeAll pieces) = pieces ++ [[]] := by
  induction pieces with
  | nil => rfl
  | cons piece pieces ih =>
      obtain ⟨first, others⟩ := List.forall_mem_cons.mp plain
      rw [closeAll_cons, Bytes.split_append_separator, Bytes.split_plain _ _ first, ih others]
      rfl

def opening (piece : Bytes) : List Component := if piece = [] then [.root] else leading piece

theorem spelling_opening (piece : Bytes) : spelling (opening piece) = piece ++ [separator] := by
  rw [opening, leading]
  split
  · rename_i empty
    rw [empty]
    rfl
  · rename_i inhabited
    split
    · rename_i current
      rw [current]
      rfl
    · rename_i other
      cases counts : Component.ofPiece? piece with
      | none =>
          rw [Component.ofPiece?, if_neg (not_or.mpr ⟨inhabited, other⟩)] at counts
          split at counts <;> cases counts
      | some component =>
          rw [Option.toList_some, spelling_singleton, Component.closed_of_piece counts]

def counts (piece : Bytes) : Bool := (Component.ofPiece? piece).isSome

theorem spelling_filterMap (pieces : List Bytes) :
    spelling (pieces.filterMap Component.ofPiece?) = closeAll (pieces.filter counts) := by
  induction pieces with
  | nil => rfl
  | cons piece pieces ih =>
      cases stands : Component.ofPiece? piece with
      | none =>
          have uncounted : ¬ counts piece = true := by simp [counts, stands]
          rw [List.filterMap_cons_none stands, List.filter_cons_of_neg uncounted, ih]
      | some component =>
          have counted : counts piece = true := by simp [counts, stands]
          rw [List.filterMap_cons_some stands, List.filter_cons_of_pos counted, closeAll_cons, ← ih, spelling,
            List.flatMap_cons, Component.closed_of_piece stands, List.append_assoc]
          rfl

section

variable {first : Bytes} {rest : List Bytes}

theorem components_closeAll (plain : ∀ piece ∈ first :: rest, separator ∉ piece) :
    components ⟨closeAll (first :: rest)⟩ = opening first ++ rest.filterMap Component.ofPiece? := by
  have pieces := split_closeAll plain
  have behind : (rest ++ [[]]).filterMap Component.ofPiece? = rest.filterMap Component.ofPiece? := by
    rw [List.filterMap_append]
    exact List.append_nil _
  by_cases absolute : first = []
  · subst absolute
    rw [List.cons_append, closeAll_cons, List.nil_append, Bytes.split_separator] at pieces
    rw [closeAll_cons, List.nil_append, components_absolute, componentsBehind, (List.cons.inj pieces).2, behind]
    rfl
  · obtain ⟨byte, others, rfl⟩ := List.exists_cons_of_ne_nil absolute
    have relative : isAbsolute ⟨closeAll ((byte :: others) :: rest)⟩ = false := by
      have other : separator ≠ byte := fun same => plain _ List.mem_cons_self (same ▸ List.mem_cons_self)
      simpa [isAbsolute, closeAll_cons] using other.symm
    rw [List.cons_append] at pieces
    rw [components_relative _ relative _ _ pieces, behind, opening, if_neg absolute]

theorem spelling_components (plain : ∀ piece ∈ first :: rest, separator ∉ piece) :
    spelling (components ⟨closeAll (first :: rest)⟩) = closeAll (first :: rest.filter counts) := by
  rw [components_closeAll plain, spelling_append, spelling_opening, spelling_filterMap, closeAll_cons,
    List.append_assoc]
  rfl

end

theorem entrance_eq_closeAll (path : Path) :
    ∃ first rest, path.entrance = closeAll (first :: rest) ∧ ∀ piece ∈ first :: rest, separator ∉ piece := by
  have closed : ∃ front, path.entrance = front ++ [separator] := by
    rw [entrance]
    split
    · rename_i last
      exact List.getLast?_eq_some_iff.mp last
    · exact ⟨path.bytes, rfl⟩
  obtain ⟨front, whole⟩ := closed
  obtain ⟨first, rest, split⟩ := List.exists_cons_of_ne_nil (Bytes.split_ne_nil separator front)
  refine ⟨first, rest, ?_, ?_⟩
  · rw [whole, ← split, closeAll_split]
  · rw [← split]
    exact Bytes.not_mem_of_mem_split separator front

theorem components_entrance (path : Path) (inhabited : path.bytes ≠ []) :
    components ⟨path.entrance⟩ = path.components := by
  rw [entrance]
  split
  · rfl
  · rw [components_append path.bytes [] inhabited]
    exact List.append_nil _

theorem exists_pieces (path : Path) (inhabited : path.bytes ≠ []) :
    ∃ first rest, (∀ piece ∈ first :: rest, separator ∉ piece) ∧ path.entrance = closeAll (first :: rest) ∧
      path.components = opening first ++ rest.filterMap Component.ofPiece? ∧
      spelling path.components = closeAll (first :: rest.filter counts) := by
  obtain ⟨first, rest, pieces, plain⟩ := path.entrance_eq_closeAll
  refine ⟨first, rest, plain, pieces, ?_, ?_⟩
  · rw [← components_entrance path inhabited, pieces, components_closeAll plain]
  · rw [← components_entrance path inhabited, pieces, spelling_components plain]

theorem filterMap_filter_counts (pieces : List Bytes) :
    (pieces.filter counts).filterMap Component.ofPiece? = pieces.filterMap Component.ofPiece? := by
  rw [List.filterMap_filter]
  congr 1
  funext piece
  cases stands : Component.ofPiece? piece <;> simp [counts, stands]

def child (path : Path) (name : Bytes) : Path := ⟨spelling path.components ++ name⟩

section

variable {path : Path} {name : Bytes}

theorem entrance_child (proper : isFileName name = true) :
    (path.child name).entrance = spelling path.components ++ (name ++ [separator]) := by
  have named := (isName_iff name).mp (isName_of_isFileName name proper)
  have last : (path.child name).bytes.getLast? ≠ some separator := by
    rw [child, List.getLast?_append, List.getLast?_eq_some_getLast named.1, Option.some_or]
    exact fun ends => named.2 (Option.some.inj ends ▸ List.getLast_mem named.1)
  rw [entrance, if_neg last, child, List.append_assoc]

theorem components_child (inhabited : path.bytes ≠ []) (proper : isFileName name = true) :
    (path.child name).components = path.components ++ [.name name] := by
  obtain ⟨first, rest, plain, -, whole, spelled⟩ := path.exists_pieces inhabited
  have named := (isName_iff name).mp (isName_of_isFileName name proper)
  have plainChild : ∀ piece ∈ first :: (rest.filter counts ++ [name]), separator ∉ piece := by
    intro piece member
    rw [List.mem_cons, List.mem_append, List.mem_singleton] at member
    rcases member with rfl | member | rfl
    · exact plain piece List.mem_cons_self
    · exact plain piece (List.mem_cons_of_mem first (List.mem_filter.mp member).1)
    · exact named.2
  have pieces : (path.child name).entrance = closeAll (first :: (rest.filter counts ++ [name])) := by
    rw [entrance_child proper, spelled, closeAll, closeAll, ← List.cons_append, List.flatMap_append,
      List.flatMap_singleton]
  have inhabitedChild : (path.child name).bytes ≠ [] := fun empty => named.1 (List.append_eq_nil_iff.mp empty).2
  rw [← components_entrance _ inhabitedChild, pieces, components_closeAll plainChild, List.filterMap_append,
    filterMap_filter_counts, List.filterMap_cons_some (Component.ofPiece?_fileName name proper), whole,
    List.append_assoc]
  rfl

theorem child_isPlain (inhabited : path.bytes ≠ []) (proper : isFileName name = true) :
    (path.child name).IsPlain := by
  rw [IsPlain, entrance_child proper, components_child inhabited proper, spelling_append,
    spelling_singleton]
  rfl

theorem child_startsWith (inhabited : path.bytes ≠ []) (proper : isFileName name = true) :
    (path.child name).startsWith path = true := by
  rw [startsWith, components_child inhabited proper]
  exact List.isPrefixOf_iff_prefix.mpr (List.prefix_append _ _)

end

end Path

end FileSieve
