import FileSieve.Proofs.Query.Progress

/-! How deep the tree of a parse can be. The parser bounds the constructs and operators that are open at once.
When an operator takes what has been read as its left operand, the count of the operators that bind tighter
starts again, while the operand goes below the new node. So the bound on what is open allows for deeper trees,
by a sum over all the braces that can be open. -/

namespace FileSieve

namespace Criterion

/-- The levels that a node adds to the ways through it: groups and leaves add none. -/
def level : Criterion → Nat
  | leaf _ | bracket _ => 0
  | _ => 1

/-- A way from the root of a criterion down to a leaf passes through so many negations, conditions and
operators. -/
inductive Descends : Criterion → Nat → Prop
  | leaf (test : Leaf) : Descends (leaf test) 0
  | child (whole part : Criterion) (levels : Nat) (member : part ∈ whole.children)
      (below : Descends part levels) : Descends whole (whole.level + levels)

def Within (bound : Nat) (criterion : Criterion) : Prop :=
  ∀ levels, criterion.Descends levels → levels ≤ bound

theorem Within.mono {bound other : Nat} {criterion : Criterion} (within : criterion.Within bound)
    (weaker : bound ≤ other) : criterion.Within other := by
  intro levels way
  exact Nat.le_trans (within levels way) weaker

theorem leaf_within (test : Leaf) (bound : Nat) : (leaf test).Within bound := by
  intro levels way
  cases way with
  | leaf => exact Nat.zero_le _
  | child _ part levels member => cases member

theorem within_of_children {bound : Nat} (whole : Criterion)
    (parts : ∀ part ∈ whole.children, part.Within bound) : whole.Within (whole.level + bound) := by
  intro levels way
  cases way with
  | leaf test => exact Nat.zero_le _
  | child _ part levels member below =>
      exact Nat.add_le_add_left (parts part member levels below) _

theorem group_within {bound : Nat} {items : List Criterion}
    (parts : ∀ item ∈ items, item.Within bound) : (group items).Within bound := by
  match items with
  | [item] => exact parts item List.mem_cons_self
  | [] | _ :: _ :: _ =>
      have below := within_of_children (bracket _) parts
      rwa [level, Nat.zero_add] at below

end Criterion

open Criterion

/-- The levels of an atom that begins where so many more may be open: a word that opens a construct leaves one
less to its operands, and inside of braces each operator can take that many times what has been read. -/
def deepestAtom : Nat → Nat
  | 0 => 0
  | room + 1 => max (deepestAtom room + 1) (deepestAtom room + 3 * room)

theorem deepestAtom_mono {room larger : Nat} (le : room ≤ larger) : deepestAtom room ≤ deepestAtom larger := by
  induction le with
  | refl => exact Nat.le_refl _
  | step le ih =>
      rename_i larger
      calc
        deepestAtom room ≤ deepestAtom larger := ih
        _ ≤ deepestAtom larger + 1 := Nat.le_succ _
        _ ≤ deepestAtom (larger + 1) := Nat.le_max_left _ _

/-- A left operand that waits has come below all but the newest of its operators. -/
def Pending.Fits (bound : Nat) (pending : Pending) : Prop :=
  ∃ earlier, pending.operators = earlier + 1 ∧ pending.left.Within (bound + earlier)

theorem Operator.join_within {bound : Nat} (operator : Operator) {right : Criterion}
    {pending : Option Pending} (fits : ∀ waits ∈ pending, waits.Fits bound) (within : right.Within bound) :
    (operator.join right pending).Within (bound + Chain.operators pending) := by
  cases pending with
  | none => exact within
  | some waits =>
      obtain ⟨earlier, count, left⟩ := fits waits rfl
      have level : (operator.combine right waits.left).level = 1 := by cases operator <;> rfl
      have children : (operator.combine right waits.left).children = [right, waits.left] := by
        cases operator <;> rfl
      have parts : ∀ part ∈ (operator.combine right waits.left).children,
          part.Within (bound + earlier) := by
        rw [children]
        exact List.forall_mem_cons.mpr
          ⟨within.mono (Nat.le_add_right _ _), List.forall_mem_singleton.mpr left⟩
      have joined := within_of_children _ parts
      rw [level] at joined
      exact joined.mono (by simp only [Chain.operators, Option.map_some, Option.getD_some]; omega)

structure Chain.Fits (room : Nat) (chain : Chain) : Prop where
  all : ∀ pending ∈ chain.all, pending.Fits (deepestAtom room + 2 * room)
  any : ∀ pending ∈ chain.any, pending.Fits (deepestAtom room + room)
  xor : ∀ pending ∈ chain.xor, pending.Fits (deepestAtom room)

namespace Chain

theorem empty_fits (room : Nat) : empty.Fits room := ⟨nofun, nofun, nofun⟩

section

variable {room : Nat} {chain : Chain} {right : Criterion}
variable (fits : chain.Fits room) (within : right.Within (deepestAtom room)) (few : chain.depth ≤ room)

include fits within

theorem closeXor_within : (chain.closeXor right).Within (deepestAtom room + operators chain.xor) := by
  rw [closeXor_eq]
  exact Operator.join_within .xor fits.xor within

theorem pushXor_fits : (chain.pushXor right).Fits room := by
  refine ⟨fits.all, fits.any, ?_⟩
  rintro pending ⟨⟩
  exact ⟨operators chain.xor, rfl, closeXor_within fits within⟩

include few

theorem closeAny_within : (chain.closeAny right).Within (deepestAtom room + room + operators chain.any) := by
  rw [closeAny_eq]
  have tight := closeXor_within fits within
  exact Operator.join_within .or fits.any (tight.mono (by simp only [depth] at few; omega))

theorem close_within :
    (chain.close right).Within (deepestAtom room + 2 * room + operators chain.all) := by
  rw [close_eq]
  have tight := closeAny_within fits within few
  exact Operator.join_within .and fits.all (tight.mono (by simp only [depth] at few; omega))

theorem pushAny_fits : (chain.pushAny right).Fits room := by
  refine ⟨fits.all, ?_, nofun⟩
  rintro pending ⟨⟩
  exact ⟨operators chain.any, rfl, closeAny_within fits within few⟩

theorem pushAll_fits : (chain.pushAll right).Fits room := by
  refine ⟨?_, nofun, nofun⟩
  rintro pending ⟨⟩
  exact ⟨operators chain.all, rfl, close_within fits within few⟩

end

end Chain

namespace Opened

def inside (outer : Opened) : Nat := maxDepth - (outer.depth + 1)

/-- How many levels were left behind the innermost word that opened a construct. -/
def room : Opened → Nat
  | whole _ _ => maxDepth
  | braces _ _ outer | negation _ outer | condition outer | consequence _ _ outer
  | alternative _ _ _ outer => outer.inside

def Fits : Opened → Prop
  | whole chain items => chain.Fits maxDepth ∧ ∀ item ∈ items, item.Within (deepestAtom maxDepth)
  | braces chain items outer =>
    chain.Fits outer.inside ∧ (∀ item ∈ items, item.Within (deepestAtom outer.inside)) ∧ outer.Fits
  | negation items outer => (∀ item ∈ items, item.Within (deepestAtom outer.inside)) ∧ outer.Fits
  | condition outer => outer.Fits
  | consequence test items outer =>
    test.Within (deepestAtom outer.inside) ∧
      (∀ item ∈ items, item.Within (deepestAtom outer.inside)) ∧ outer.Fits
  | alternative test whenTrue items outer =>
    test.Within (deepestAtom outer.inside) ∧ whenTrue.Within (deepestAtom outer.inside) ∧
      (∀ item ∈ items, item.Within (deepestAtom outer.inside)) ∧ outer.Fits

theorem deepestAtom_outer (outer : Opened) (shallow : outer.depth + 1 ≤ maxDepth) :
    max (deepestAtom outer.inside + 1) (deepestAtom outer.inside + 3 * outer.inside) ≤
      deepestAtom outer.room := by
  have less : outer.inside + 1 ≤ outer.room := by
    cases outer with
    | whole | braces | negation | condition | consequence | alternative =>
        simp only [depth, inside, room] at shallow ⊢
        omega
  exact deepestAtom_mono less

theorem construct_within (outer : Opened) (shallow : outer.depth + 1 ≤ maxDepth) (whole : Criterion)
    (level : whole.level = 1) (parts : ∀ part ∈ whole.children, part.Within (deepestAtom outer.inside)) :
    whole.Within (deepestAtom outer.room) := by
  have within := within_of_children whole parts
  rw [level, Nat.add_comm] at within
  exact within.mono (Nat.le_trans (Nat.le_max_left _ _) (deepestAtom_outer outer shallow))

theorem sequence_within {bound : Nat} (before added : List Criterion)
    (first : ∀ item ∈ before, item.Within bound) (second : ∀ item ∈ added, item.Within bound)
    (criterion : Criterion) (read : sequence (before ++ added) = .ok criterion) :
    criterion.Within bound := by
  rw [sequence] at read
  split at read
  · cases read
  · cases read
    exact group_within (List.forall_mem_append.mpr ⟨first, second⟩)

theorem add_fits (opened : Opened) (fits : opened.Fits) (items : List Criterion)
    (within : ∀ item ∈ items, item.Within (deepestAtom opened.room)) : (opened.add items).Fits := by
  cases opened with
  | whole chain before =>
      obtain ⟨waiting, first⟩ := fits
      exact ⟨waiting, List.forall_mem_append.mpr ⟨first, within⟩⟩
  | braces chain before outer =>
      obtain ⟨waiting, first, around⟩ := fits
      exact ⟨waiting, List.forall_mem_append.mpr ⟨first, within⟩, around⟩
  | negation before outer =>
      obtain ⟨first, around⟩ := fits
      exact ⟨List.forall_mem_append.mpr ⟨first, within⟩, around⟩
  | condition outer =>
      rw [add]
      split
      · exact fits
      · exact ⟨group_within within, List.forall_mem_nil _, fits⟩
  | consequence test before outer =>
      obtain ⟨asked, first, around⟩ := fits
      exact ⟨asked, List.forall_mem_append.mpr ⟨first, within⟩, around⟩
  | alternative test whenTrue before outer =>
      obtain ⟨asked, taken, first, around⟩ := fits
      exact ⟨asked, taken, List.forall_mem_append.mpr ⟨first, within⟩, around⟩

theorem settle_fits (opened : Opened) (fits : opened.Fits) (shallow : opened.depth ≤ maxDepth)
    (added : List Criterion) (within : ∀ item ∈ added, item.Within (deepestAtom opened.room))
    (chain : Chain) (right : Criterion) (outer : Option Opened)
    (settled : opened.settle added = .ok (chain, right, outer)) :
    (enclose chain outer).Fits ∧ right.Within (deepestAtom (enclose chain outer).room) := by
  -- Closing a construct adds its own levels, and what is around it has room for them.
  induction opened generalizing added with
  | whole kept items =>
      obtain ⟨waiting, before⟩ := fits
      obtain ⟨_, read, same⟩ := ok_of_map _ _ _ settled
      cases same
      exact ⟨⟨waiting, List.forall_mem_nil _⟩, sequence_within items added before within right read⟩
  | braces kept items rest =>
      obtain ⟨waiting, before, around⟩ := fits
      obtain ⟨_, read, same⟩ := ok_of_map _ _ _ settled
      cases same
      exact ⟨⟨waiting, List.forall_mem_nil _, around⟩, sequence_within items added before within right read⟩
  | negation items rest ih =>
      obtain ⟨before, around⟩ := fits
      obtain ⟨inner, read, settled⟩ := ok_of_bind _ _ _ settled
      have part := sequence_within items added before within inner read
      have closed := construct_within rest shallow (.not inner) rfl (List.forall_mem_singleton.mpr part)
      exact ih around (Nat.le_of_succ_le shallow) _ (List.forall_mem_singleton.mpr closed) settled
  | condition rest ih => cases settled
  | consequence test items rest ih =>
      obtain ⟨asked, before, around⟩ := fits
      obtain ⟨whenTrue, read, settled⟩ := ok_of_bind _ _ _ settled
      have part := sequence_within items added before within whenTrue read
      have closed := construct_within rest shallow (.ifThen test whenTrue) rfl
        (List.forall_mem_cons.mpr ⟨asked, List.forall_mem_singleton.mpr part⟩)
      exact ih around (Nat.le_of_succ_le shallow) _ (List.forall_mem_singleton.mpr closed) settled
  | alternative test whenTrue items rest ih =>
      obtain ⟨asked, taken, before, around⟩ := fits
      obtain ⟨whenFalse, read, settled⟩ := ok_of_bind _ _ _ settled
      have part := sequence_within items added before within whenFalse read
      have closed := construct_within rest shallow (.ifThenElse test whenTrue whenFalse) rfl
        (List.forall_mem_cons.mpr ⟨asked, List.forall_mem_cons.mpr
          ⟨taken, List.forall_mem_singleton.mpr part⟩⟩)
      exact ih around (Nat.le_of_succ_le shallow) _ (List.forall_mem_singleton.mpr closed) settled

theorem openAlternative_fits (opened : Opened) (fits : opened.Fits) (shallow : opened.depth ≤ maxDepth)
    (spelling : String) (added : List Criterion)
    (within : ∀ item ∈ added, item.Within (deepestAtom opened.room)) (next : Opened)
    (ran : opened.openAlternative spelling added = .ok next) : next.Fits := by
  induction opened generalizing added with
  | whole chain items | braces chain items rest =>
      obtain ⟨_, _, ran⟩ := ok_of_bind _ _ _ ran
      cases ran
  | negation items rest ih =>
      obtain ⟨before, around⟩ := fits
      obtain ⟨inner, read, ran⟩ := ok_of_bind _ _ _ ran
      have part := sequence_within items added before within inner read
      have closed := construct_within rest shallow (.not inner) rfl (List.forall_mem_singleton.mpr part)
      exact ih around (Nat.le_of_succ_le shallow) _ (List.forall_mem_singleton.mpr closed) ran
  | condition rest ih => cases ran
  | consequence test items rest ih =>
      obtain ⟨asked, before, around⟩ := fits
      obtain ⟨whenTrue, read, ran⟩ := ok_of_bind _ _ _ ran
      cases ran
      exact ⟨asked, sequence_within items added before within whenTrue read, List.forall_mem_nil _, around⟩
  | alternative test whenTrue items rest ih =>
      obtain ⟨asked, taken, before, around⟩ := fits
      obtain ⟨whenFalse, read, ran⟩ := ok_of_bind _ _ _ ran
      have part := sequence_within items added before within whenFalse read
      have closed := construct_within rest shallow (.ifThenElse test whenTrue whenFalse) rfl
        (List.forall_mem_cons.mpr ⟨asked, List.forall_mem_cons.mpr
          ⟨taken, List.forall_mem_singleton.mpr part⟩⟩)
      exact ih around (Nat.le_of_succ_le shallow) _ (List.forall_mem_singleton.mpr closed) ran

theorem chain_fits {chain : Chain} {outer : Option Opened} (fits : (enclose chain outer).Fits)
    (shallow : (enclose chain outer).depth ≤ maxDepth) :
    chain.Fits (enclose chain outer).room ∧ chain.depth ≤ (enclose chain outer).room := by
  cases outer with
  | none => exact ⟨fits.1, shallow⟩
  | some rest =>
      refine ⟨fits.1, ?_⟩
      simp only [enclose, depth, room, inside] at shallow ⊢
      omega

theorem bounded_depth (opened next : Opened) (ran : opened.bounded = .ok next) : next.depth ≤ maxDepth := by
  rw [bounded] at ran
  split at ran
  · cases ran
  · rename_i room
    cases ran
    exact Nat.not_lt.mp room

theorem operator_fits (push : Chain → Criterion → Chain)
    (pushes : ∀ {room : Nat} {chain : Chain} {right : Criterion}, chain.Fits room →
      right.Within (deepestAtom room) → chain.depth ≤ room → (push chain right).Fits room)
    (opened : Opened) (fits : opened.Fits) (shallow : opened.depth ≤ maxDepth) (next : Opened)
    (ran : operator push opened = .ok next) : next.Fits ∧ next.depth ≤ maxDepth := by
  obtain ⟨⟨chain, right, outer⟩, settled, _⟩ := ok_of_bind _ _ _ ran
  obtain ⟨around, within⟩ := settle_fits opened fits shallow [] (List.forall_mem_nil _) chain right outer settled
  obtain ⟨waiting, few⟩ :=
    chain_fits around (Nat.le_trans (settle_depth opened [] chain right outer settled) shallow)
  have pushed := pushes waiting within few
  rw [operator_eq push settled] at ran
  refine ⟨?_, bounded_depth _ _ ran⟩
  rw [bounded_eq _ _ ran]
  cases outer with
  | none => exact ⟨pushed, List.forall_mem_nil _⟩
  | some rest => exact ⟨pushed, List.forall_mem_nil _, around.2.2⟩

theorem close_fits (opened : Opened) (fits : opened.Fits) (shallow : opened.depth ≤ maxDepth)
    (chain : Chain) (right : Criterion) (outer : Option Opened)
    (settled : opened.settle [] = .ok (chain, right, outer)) :
    (enclose chain outer).Fits ∧ (enclose chain outer).depth ≤ maxDepth ∧
      (chain.close right).Within
        (deepestAtom (enclose chain outer).room + 3 * (enclose chain outer).room) := by
  obtain ⟨around, within⟩ := settle_fits opened fits shallow [] (List.forall_mem_nil _) chain right outer settled
  have kept := Nat.le_trans (settle_depth opened [] chain right outer settled) shallow
  obtain ⟨waiting, few⟩ := chain_fits around kept
  have closed := Chain.close_within waiting within few
  exact ⟨around, kept, closed.mono (by simp only [Chain.depth] at few; omega)⟩

theorem closeBraces_fits (opened : Opened) (fits : opened.Fits) (shallow : opened.depth ≤ maxDepth)
    (next : Opened) (ran : opened.closeBraces = .ok next) : next.Fits ∧ next.depth ≤ maxDepth := by
  obtain ⟨⟨chain, right, outer⟩, settled, ran⟩ := ok_of_bind _ _ _ ran
  obtain ⟨around, kept, closed⟩ := close_fits opened fits shallow chain right outer settled
  cases outer with
  | none => cases ran
  | some rest =>
      cases ran
      have opening : rest.depth + 1 ≤ maxDepth := Nat.le_trans (Nat.le_add_right _ _) kept
      have atom : (chain.close right).Within (deepestAtom rest.room) :=
        closed.mono (Nat.le_trans (Nat.le_max_right _ _) (deepestAtom_outer rest opening))
      refine ⟨rest.add_fits around.2.2 _ (List.forall_mem_singleton.mpr atom), ?_⟩
      rw [add_depth]
      exact Nat.le_of_succ_le opening

theorem finish_within (opened : Opened) (fits : opened.Fits) (shallow : opened.depth ≤ maxDepth)
    (criterion : Criterion) (ran : opened.finish = .ok criterion) :
    criterion.Within (deepestAtom maxDepth + 3 * maxDepth) := by
  obtain ⟨⟨chain, right, outer⟩, settled, ran⟩ := ok_of_bind _ _ _ ran
  obtain ⟨_, _, closed⟩ := close_fits opened fits shallow chain right outer settled
  cases outer with
  | none =>
      cases ran
      exact closed
  | some rest => cases ran

theorem keyword_fits (opened : Opened) (fits : opened.Fits) (shallow : opened.depth ≤ maxDepth)
    (spelling : String) (kind : Keyword) (next : Opened)
    (ran : opened.keyword spelling kind = .ok next) : next.Fits ∧ next.depth ≤ maxDepth := by
  cases kind with
  | openBrace =>
      refine ⟨?_, bounded_depth _ _ ran⟩
      rw [bounded_eq _ _ ran]
      exact ⟨Chain.empty_fits _, List.forall_mem_nil _, fits⟩
  | closeBrace => exact closeBraces_fits opened fits shallow next ran
  | and => exact operator_fits _ Chain.pushAll_fits opened fits shallow next ran
  | or => exact operator_fits _ Chain.pushAny_fits opened fits shallow next ran
  | xor =>
      exact operator_fits _ (fun fits within _ => Chain.pushXor_fits fits within) opened fits shallow next ran
  | not =>
      refine ⟨?_, bounded_depth _ _ ran⟩
      rw [bounded_eq _ _ ran]
      exact ⟨List.forall_mem_nil _, fits⟩
  | ifWord =>
      refine ⟨?_, bounded_depth _ _ ran⟩
      rw [bounded_eq _ _ ran]
      exact fits
  | elseWord =>
      have resumed : opened.openAlternative spelling [] = .ok next := ran
      exact ⟨openAlternative_fits opened fits shallow spelling [] (List.forall_mem_nil _) next resumed,
        Nat.le_trans (openAlternative_depth opened spelling [] next resumed) shallow⟩

end Opened

theorem Modifier.interpret_within (lexeme : String) (payload : Option String) (now : Instant)
    (options : ScanOptions) (items : List Criterion)
    (interpreted : interpret lexeme payload now options = .ok (.criteria items)) (bound : Nat) :
    ∀ item ∈ items, item.Within bound := by
  intro item member
  obtain ⟨test, rfl, _⟩ := interpret_plain _ _ _ _ _ interpreted item member
  exact leaf_within test bound

structure Opened.Shallow (opened : Opened) : Prop where
  fits : opened.Fits
  depth : opened.depth ≤ maxDepth

theorem Opened.Shallow.add {opened : Opened} (shallow : opened.Shallow) {items : List Criterion}
    (within : ∀ item ∈ items, item.Within (deepestAtom opened.room)) : (opened.add items).Shallow where
  fits := opened.add_fits shallow.fits items within
  depth := by
    rw [add_depth]
    exact shallow.depth

theorem Parser.Reads.shallow {source : LoadlineSource} {now : Instant} {before after : State}
    (reads : Reads source now before after) (shallow : before.opened.Shallow) : after.opened.Shallow := by
  cases reads with
  | keyword opened next options kind spelling rest stepped =>
      obtain ⟨fits, depth⟩ := opened.keyword_fits shallow.fits shallow.depth spelling kind next stepped
      exact ⟨fits, depth⟩
  | pattern opened options text rest =>
      exact shallow.add (List.forall_mem_singleton.mpr (leaf_within _ _))
  | criteria opened options lexeme payload rest items interpreted =>
      exact shallow.add (Modifier.interpret_within _ _ _ _ items interpreted _)
  | options | loadline => exact shallow

theorem Parser.read_within {source : LoadlineSource} {now : Instant} {splices : Nat} {opened : Opened}
    {options : ScanOptions} {tokens : List Token} (shallow : opened.Shallow) {criterion : Criterion}
    {final : ScanOptions} (ran : read source now splices opened options tokens = .ok (criterion, final)) :
    criterion.Within (deepestAtom maxDepth + 3 * maxDepth) := by
  obtain ⟨last, _, kept, finished, _⟩ :=
    read_keeps (fun state => state.opened.Shallow) (fun _ _ kept reads => reads.shallow kept) shallow ran
  exact last.finish_within kept.fits kept.depth criterion finished

theorem deepest_levels : deepestAtom maxDepth + 3 * maxDepth = 98689 := by decide +kernel

end FileSieve
