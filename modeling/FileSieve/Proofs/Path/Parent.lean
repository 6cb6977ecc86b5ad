import FileSieve.Proofs.Path.Components

namespace FileSieve

theorem Component.ofPiece?_isSome {piece : Bytes} (counted : ¬(piece = [] ∨ piece = [0x2E])) :
    ∃ component, ofPiece? piece = some component := by
  rw [ofPiece?, if_neg counted]
  split
  · exact ⟨_, rfl⟩
  · exact ⟨_, rfl⟩

theorem Bytes.split_join {separator : UInt8} {first : Bytes} {rest : List Bytes}
    (plain : ∀ piece ∈ first :: rest, separator ∉ piece) :
    split separator (join separator (first :: rest)) = first :: rest := by
  induction rest generalizing first with
  | nil => exact split_plain separator first (plain first List.mem_cons_self)
  | cons next rest ih =>
      obtain ⟨head, tail⟩ := List.forall_mem_cons.mp plain
      rw [join, split_append_separator, split_plain separator first head, ih tail]
      · rfl
      · exact List.cons_ne_nil next rest

namespace Path

/-- The components that pieces stand for. A `.` counts only as the first piece of a relative path. -/
def ofPieces (rooted : Bool) (pieces : List Bytes) : List Component :=
  if rooted then .root :: pieces.filterMap Component.ofPiece?
  else match pieces with
    | [] => []
    | first :: rest => leading first ++ rest.filterMap Component.ofPiece?

def joined (rooted : Bool) (pieces : List Bytes) : Path :=
  ⟨if rooted then separator :: Bytes.join separator pieces else Bytes.join separator pieces⟩

theorem ofPieces_concat (rooted : Bool) (front : List Bytes) (last : Bytes) (behind : rooted = true ∨ front ≠ []) :
    ofPieces rooted (front ++ [last]) = ofPieces rooted front ++ (Component.ofPiece? last).toList := by
  have single : [last].filterMap Component.ofPiece? = (Component.ofPiece? last).toList := by
    cases counts : Component.ofPiece? last <;> simp [counts]
  cases rooted with
  | true => simp [ofPieces, single]
  | false =>
      obtain ⟨first, rest, rfl⟩ := List.exists_cons_of_ne_nil (behind.resolve_left Bool.false_ne_true)
      simp [ofPieces, single]

theorem ofPiece?_of_uncounted {piece : Bytes} (uncounted : piece = [] ∨ piece = [0x2E]) :
    Component.ofPiece? piece = none := if_pos uncounted

theorem leading_inhabited {piece : Bytes} (inhabited : piece ≠ []) : ∃ component, leading piece = [component] := by
  by_cases current : piece = [0x2E]
  · exact ⟨.current, if_pos current⟩
  · obtain ⟨component, stands⟩ := Component.ofPiece?_isSome (not_or.mpr ⟨inhabited, current⟩)
    refine ⟨component, ?_⟩
    rw [leading, if_neg current, stands, Option.toList_some]

theorem ofPieces_dropUncounted (rooted : Bool) (reversed : List Bytes) :
    ofPieces rooted (dropUncounted rooted reversed).reverse = ofPieces rooted reversed.reverse := by
  fun_induction dropUncounted rooted reversed with
  | case1 | case3 | case5 => rfl
  | case2 piece uncounted =>
      cases rooted with
      | true =>
          have nothing := ofPiece?_of_uncounted (uncounted.imp_right And.right)
          simp [ofPieces, nothing]
      | false =>
          obtain rfl : piece = [] := uncounted.resolve_right fun both => Bool.false_ne_true both.1
          rfl
  | case4 piece next rest uncounted ih =>
      have inhabited : (next :: rest).reverse ≠ [] := List.reverse_ne_nil_iff.mpr (List.cons_ne_nil _ _)
      have ends : (piece :: next :: rest).reverse = (next :: rest).reverse ++ [piece] := List.reverse_cons
      rw [ih, ends, ofPieces_concat rooted _ piece (.inr inhabited), ofPiece?_of_uncounted uncounted, Option.toList_none,
        List.append_nil]

theorem ofPieces_counted {rooted : Bool} {reversed before : List Bytes} {last : Bytes}
    (left : dropUncounted rooted reversed = last :: before) :
    ∃ component, ofPieces rooted (before.reverse ++ [last]) = ofPieces rooted before.reverse ++ [component] := by
  fun_induction dropUncounted rooted reversed with
  | case1 | case2 => cases left
  | case3 piece counted =>
      obtain ⟨rfl, rfl⟩ := List.cons.inj left
      cases rooted with
      | true =>
          obtain ⟨component, stands⟩ := Component.ofPiece?_isSome fun uncounted =>
            counted (uncounted.imp_right fun current => ⟨rfl, current⟩)
          refine ⟨component, ?_⟩
          rw [List.reverse_nil, ofPieces_concat true [] piece (.inl rfl), stands, Option.toList_some]
      | false =>
          obtain ⟨component, stands⟩ := leading_inhabited fun empty => counted (.inl empty)
          refine ⟨component, ?_⟩
          simp [ofPieces, stands]
  | case4 piece next rest uncounted ih => exact ih left
  | case5 piece next rest counted =>
      obtain ⟨rfl, rfl⟩ := List.cons.inj left
      obtain ⟨component, stands⟩ := Component.ofPiece?_isSome counted
      refine ⟨component, ?_⟩
      have inhabited : (next :: rest).reverse ≠ [] := List.reverse_ne_nil_iff.mpr (List.cons_ne_nil _ _)
      rw [ofPieces_concat rooted _ piece (.inr inhabited), stands, Option.toList_some]

theorem dropUncounted_suffix (rooted : Bool) (reversed : List Bytes) : dropUncounted rooted reversed <:+ reversed := by
  fun_induction dropUncounted rooted reversed with
  | case1 | case3 | case5 => exact List.suffix_refl _
  | case2 => exact List.nil_suffix
  | case4 piece next rest uncounted ih => exact ih.trans (List.suffix_cons _ _)

structure Spells (rooted : Bool) (pieces : List Bytes) : Prop where
  plain : ∀ piece ∈ pieces, separator ∉ piece
  /-- A relative path that began with an empty piece would be absolute. -/
  opening : rooted = true ∨ pieces.head? ≠ some []

theorem Spells.front {rooted : Bool} {front pieces : List Bytes} (spells : Spells rooted pieces)
    (starts : front <+: pieces) : Spells rooted front where
  plain piece member := spells.plain piece (starts.subset member)
  opening := by
    refine spells.opening.imp_right fun opening empty => opening ?_
    obtain ⟨rest, rfl⟩ := starts
    rw [List.head?_append, empty, Option.some_or]

theorem Spells.components_joined {rooted : Bool} {pieces : List Bytes} (spells : Spells rooted pieces) :
    (joined rooted pieces).components = ofPieces rooted pieces := by
  cases pieces with
  | nil => cases rooted <;> rfl
  | cons first rest =>
      have split := Bytes.split_join spells.plain
      cases rooted with
      | true =>
          have whole : joined true (first :: rest) = ⟨separator :: Bytes.join separator (first :: rest)⟩ := rfl
          rw [whole, components_absolute, componentsBehind, split]
          rfl
      | false =>
          have inhabited : first ≠ [] := fun empty =>
            spells.opening.resolve_left Bool.false_ne_true (congrArg some empty)
          obtain ⟨byte, others, rfl⟩ := List.exists_cons_of_ne_nil inhabited
          have other : byte ≠ separator := fun same =>
            spells.plain _ List.mem_cons_self (same ▸ List.mem_cons_self)
          have relative : isAbsolute (joined false ((byte :: others) :: rest)) = false := by
            cases rest <;> simpa [joined, isAbsolute, Bytes.join] using other
          rw [components_relative _ relative _ rest split]
          rfl

def pieces (path : Path) : List Bytes :=
  Bytes.split separator (if path.isAbsolute then path.bytes.drop 1 else path.bytes)

theorem components_eq_ofPieces (path : Path) : path.components = ofPieces path.isAbsolute path.pieces := by
  rw [pieces]
  cases absolute : path.isAbsolute with
  | true =>
      obtain ⟨bytes⟩ := path
      obtain ⟨rest, rfl⟩ := List.head?_eq_some_iff.mp (beq_iff_eq.mp absolute)
      exact components_absolute rest
  | false =>
      obtain ⟨first, rest, split⟩ := List.exists_cons_of_ne_nil (Bytes.split_ne_nil separator path.bytes)
      rw [components_relative path absolute first rest split, if_neg Bool.false_ne_true, split]
      rfl

theorem pieces_spells (path : Path) (inhabited : path.bytes ≠ []) : Spells path.isAbsolute path.pieces where
  plain := Bytes.not_mem_of_mem_split separator _
  opening := by
    cases absolute : path.isAbsolute with
    | true => exact .inl rfl
    | false =>
        obtain ⟨bytes⟩ := path
        obtain ⟨byte, rest, rfl⟩ := List.exists_cons_of_ne_nil inhabited
        have other : byte ≠ separator := by simpa [isAbsolute] using absolute
        obtain ⟨piece, others, tail⟩ := List.exists_cons_of_ne_nil (Bytes.split_ne_nil separator rest)
        rw [pieces, absolute, if_neg Bool.false_ne_true, Bytes.split_cons _ _ _ _ _ other tail]
        exact .inr fun empty => List.cons_ne_nil _ _ (Option.some.inj empty)

theorem parent?_eq (path : Path) :
    path.parent? = match dropUncounted path.isAbsolute path.pieces.reverse with
      | [] => none
      | _ :: before => some (joined path.isAbsolute (dropUncounted path.isAbsolute before).reverse) := rfl

theorem parent?_spec (path : Path) :
    (path.parent? = none ∧ (path.components = [] ∨ path.components = [.root])) ∨
      ∃ parent last, path.parent? = some parent ∧ path.components = parent.components ++ [last] := by
  have spelled := path.components_eq_ofPieces
  rw [← List.reverse_reverse path.pieces, ← ofPieces_dropUncounted] at spelled
  have found := path.parent?_eq
  cases left : dropUncounted path.isAbsolute path.pieces.reverse with
  | nil =>
      rw [left] at spelled found
      refine .inl ⟨found, ?_⟩
      rw [spelled]
      cases path.isAbsolute with
      | true => exact .inr rfl
      | false => exact .inl rfl
  | cons piece before =>
      have inhabited : path.bytes ≠ [] := by
        intro empty
        obtain ⟨bytes⟩ := path
        cases empty
        cases left
      have suffix := dropUncounted_suffix path.isAbsolute path.pieces.reverse
      rw [left] at spelled found suffix
      have starts : (dropUncounted path.isAbsolute before).reverse <+: path.pieces := by
        rw [← List.reverse_suffix, List.reverse_reverse]
        exact ((dropUncounted_suffix _ before).trans (List.suffix_cons _ _)).trans suffix
      have above := ((path.pieces_spells inhabited).front starts).components_joined
      obtain ⟨component, counted⟩ := ofPieces_counted left
      refine .inr ⟨_, component, found, ?_⟩
      rw [spelled, List.reverse_cons, counted, above, ofPieces_dropUncounted]

theorem components_parent {path : Path} {front : List Component} {last : Component}
    (whole : path.components = front ++ [last]) (inner : last ≠ .root) :
    ∃ parent, path.parent? = some parent ∧ parent.components = front := by
  rcases path.parent?_spec with ⟨-, empty | root⟩ | ⟨parent, component, found, further⟩
  · rw [whole] at empty
    exact absurd empty (List.append_ne_nil_of_right_ne_nil front (List.cons_ne_nil _ _))
  · have alone : front ++ [last] = [] ++ [Component.root] := whole.symm.trans root
    exact absurd (List.head_eq_of_cons_eq (List.append_inj_right' alone rfl)) inner
  · exact ⟨parent, found, List.append_inj_left' (further.symm.trans whole) rfl⟩

end Path

end FileSieve
