import FileSieve.Proofs.Criteria.Rooted
import FileSieve.Proofs.Disk.FileNames

namespace FileSieve

namespace Bytes

theorem split_append_separator (separator : UInt8) (front back : Bytes) :
    split separator (front ++ separator :: back) = split separator front ++ split separator back := by
  induction front with
  | nil => rw [List.nil_append, split_separator]; rfl
  | cons byte front ih =>
      by_cases same : byte = separator
      · subst same
        rw [List.cons_append, split_separator, split_separator, ih, List.cons_append]
      · obtain ⟨piece, pieces, tail⟩ := List.exists_cons_of_ne_nil (split_ne_nil separator front)
        rw [tail] at ih
        rw [List.cons_append, split_cons _ _ _ _ _ same ih, split_cons _ _ _ _ _ same tail]
        rfl

theorem split_plain_append {separator : UInt8} {front rest piece : Bytes} {pieces : List Bytes}
    (plain : separator ∉ front) (tail : split separator rest = piece :: pieces) :
    split separator (front ++ rest) = (front ++ piece) :: pieces := by
  induction front with
  | nil => exact tail
  | cons byte front ih =>
      simp only [List.mem_cons, not_or] at plain
      obtain ⟨other, others⟩ := plain
      exact split_cons _ _ _ _ _ (Ne.symm other) (ih others)

theorem split_plain (separator : UInt8) (bytes : Bytes) (plain : separator ∉ bytes) :
    split separator bytes = [bytes] := by
  have whole : split separator (bytes ++ []) = [bytes ++ []] := split_plain_append plain rfl
  rwa [List.append_nil] at whole

theorem not_mem_of_mem_split (separator : UInt8) (bytes : Bytes) :
    ∀ piece ∈ split separator bytes, separator ∉ piece := by
  induction bytes with
  | nil => simp [split]
  | cons byte bytes ih =>
      by_cases same : byte = separator
      · subst same
        rw [split_separator]
        exact List.forall_mem_cons.mpr ⟨List.not_mem_nil, ih⟩
      · obtain ⟨piece, pieces, tail⟩ := List.exists_cons_of_ne_nil (split_ne_nil separator bytes)
        rw [tail] at ih
        obtain ⟨first, others⟩ := List.forall_mem_cons.mp ih
        rw [split_cons _ _ _ _ _ same tail]
        refine List.forall_mem_cons.mpr ⟨?_, others⟩
        rw [List.mem_cons, not_or]
        exact ⟨Ne.symm same, first⟩

end Bytes

theorem Component.ofPiece?_fileName (name : Bytes) (proper : isFileName name = true) :
    ofPiece? name = some (.name name) := by
  simp only [isFileName, isName, Bool.and_eq_true, decide_eq_true_eq, bne_iff_ne] at proper
  obtain ⟨⟨⟨inhabited, _⟩, current⟩, parent⟩ := proper
  rw [ofPiece?, if_neg (not_or.mpr ⟨inhabited, current⟩), if_neg parent]

def Component.IsInner : Component → Prop
  | name bytes => isFileName bytes = true
  | parent => True
  | root | current => False

namespace Path

def componentsBehind (bytes : Bytes) : List Component :=
  (Bytes.split separator bytes).filterMap Component.ofPiece?

theorem components_absolute (bytes : Bytes) :
    components ⟨separator :: bytes⟩ = .root :: componentsBehind bytes := by
  have absolute : isAbsolute ⟨separator :: bytes⟩ = true := rfl
  rw [components, absolute, if_pos rfl, Bytes.split_separator]
  rfl

/-- What the first piece of a relative path stands for; only there does `.` count. -/
def leading (piece : Bytes) : List Component :=
  if piece = [0x2E] then [.current] else (Component.ofPiece? piece).toList

theorem components_relative (path : Path) (relative : path.isAbsolute = false) (piece : Bytes)
    (others : List Bytes) (split : Bytes.split separator path.bytes = piece :: others) :
    path.components = leading piece ++ others.filterMap Component.ofPiece? := by
  rw [components, relative, split, leading]
  by_cases current : piece = [0x2E]
  · subst current
    rfl
  · cases ofPiece : Component.ofPiece? piece <;> simp [current, ofPiece]

theorem components_append (front back : Bytes) (inhabited : front ≠ []) :
    components ⟨front ++ separator :: back⟩ = components ⟨front⟩ ++ componentsBehind back := by
  obtain ⟨byte, front, rfl⟩ := List.exists_cons_of_ne_nil inhabited
  by_cases first : byte = separator
  · subst first
    rw [List.cons_append, components_absolute, components_absolute, componentsBehind,
      Bytes.split_append_separator, List.filterMap_append]
    rfl
  · have relative (rest : Bytes) : isAbsolute ⟨byte :: rest⟩ = false := by
      simpa [isAbsolute] using first
    have pieces := Bytes.split_append_separator separator (byte :: front) back
    obtain ⟨piece, others, split⟩ :=
      List.exists_cons_of_ne_nil (Bytes.split_ne_nil separator (byte :: front))
    rw [split, List.cons_append, List.cons_append] at pieces
    rw [List.cons_append, components_relative ⟨byte :: front⟩ (relative front) piece others split,
      components_relative _ (relative _) piece _ pieces, List.filterMap_append, componentsBehind,
      List.append_assoc]

theorem componentsBehind_fileName (name : Bytes) (proper : isFileName name = true) :
    componentsBehind name = [.name name] := by
  have plain := ((isName_iff name).mp (isName_of_isFileName name proper)).2
  rw [componentsBehind, Bytes.split_plain _ _ plain,
    List.filterMap_cons_some (Component.ofPiece?_fileName name proper), List.filterMap_nil]

theorem componentsBehind_append (name back : Bytes) (proper : isFileName name = true) :
    componentsBehind (name ++ separator :: back) = .name name :: componentsBehind back := by
  rw [componentsBehind, Bytes.split_append_separator, List.filterMap_append]
  exact congrArg (· ++ componentsBehind back) (componentsBehind_fileName name proper)

theorem components_fileName (name : Bytes) (proper : isFileName name = true) :
    components ⟨name⟩ = [.name name] := by
  have named := isName_of_isFileName name proper
  have single := Bytes.split_plain separator name ((isName_iff name).mp named).2
  have other : name ≠ [0x2E] := by
    simp only [isFileName, Bool.and_eq_true, bne_iff_ne] at proper
    exact proper.1.2
  rw [components_relative ⟨name⟩ (isAbsolute_name name named) name [] single, leading, if_neg other,
    Component.ofPiece?_fileName name proper]
  rfl

theorem components_push_single (path : Path) (component : Component)
    (relative : isAbsolute ⟨component.bytes⟩ = false) (alone : components ⟨component.bytes⟩ = [component])
    (behind : componentsBehind component.bytes = [component]) :
    (path.push component).components = path.components ++ [component] := by
  obtain ⟨bytes⟩ := path
  rw [push, join, relative, if_neg Bool.false_ne_true]
  split
  · rename_i empty
    obtain rfl := List.getLast?_eq_none_iff.mp empty
    exact alone
  · rename_i last found
    split
    · rename_i same
      subst same
      -- The separator at the end of the path is the one in front of the component.
      obtain ⟨front, rfl⟩ := List.getLast?_eq_some_iff.mp found
      rw [List.append_assoc, List.singleton_append]
      cases front with
      | nil =>
          rw [List.nil_append, List.nil_append, components_absolute, components_absolute]
          exact congrArg _ behind
      | cons byte front =>
          have inhabited : byte :: front ≠ [] := List.cons_ne_nil _ _
          have closing := components_append (byte :: front) [] inhabited
          have whole := components_append (byte :: front) component.bytes inhabited
          have nothing : componentsBehind [] = [] := rfl
          rw [nothing, List.append_nil] at closing
          rw [behind] at whole
          rw [closing]
          exact whole
    · have inhabited : bytes ≠ [] := by
        rintro rfl
        cases found
      rw [← behind]
      exact components_append bytes component.bytes inhabited

theorem components_push (path : Path) (name : Bytes) (proper : isFileName name = true) :
    (path.push (.name name)).components = path.components ++ [.name name] := by
  have relative : isAbsolute ⟨(Component.name name).bytes⟩ = false :=
    isAbsolute_name name (isName_of_isFileName name proper)
  exact components_push_single path (.name name) relative (components_fileName name proper)
    (componentsBehind_fileName name proper)

theorem components_push_inner (path : Path) (component : Component) (inner : component.IsInner) :
    (path.push component).components = path.components ++ [component] := by
  cases component with
  | name name => exact components_push path name inner
  | parent => exact components_push_single path .parent rfl rfl rfl
  | root | current => exact inner.elim

theorem componentsBehind_inner (bytes : Bytes) : ∀ component ∈ componentsBehind bytes, component.IsInner := by
  intro component member
  obtain ⟨piece, among, counts⟩ := List.mem_filterMap.mp member
  have plain := Bytes.not_mem_of_mem_split separator bytes piece among
  rw [Component.ofPiece?] at counts
  split at counts
  · cases counts
  · rename_i counted
    split at counts
    · cases counts
      trivial
    · rename_i other
      cases counts
      rw [not_or] at counted
      simp only [Component.IsInner, isFileName, (isName_iff piece).mpr ⟨counted.1, plain⟩, Bool.true_and,
        Bool.and_eq_true, bne_iff_ne]
      exact ⟨counted.2, other⟩

end Path

end FileSieve
