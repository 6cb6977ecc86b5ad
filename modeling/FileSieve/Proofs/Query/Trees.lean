import FileSieve.Proofs.Criteria.Inside
import FileSieve.Proofs.Criteria.Parts
import FileSieve.Proofs.Query.Reading

namespace FileSieve

/-- The tests that tokens turn into. -/
inductive Emitted : Leaf → Prop
  | pattern (text : String) (base : Path) : Emitted (.wildcard (.ofText text base))
  | modifier (lexeme : String) (payload : Option String) (now : Instant) (options : ScanOptions)
      (items : List Criterion) (test : Leaf)
      (interpreted : Modifier.interpret lexeme payload now options = .ok (.criteria items))
      (member : .leaf test ∈ items) : Emitted test

/-- The trees that a parse puts together. -/
inductive Built : Criterion → Prop
  | leaf (test : Leaf) (emitted : Emitted test) : Built (.leaf test)
  | group (items : List Criterion) (inhabited : items ≠ []) (parts : ∀ item ∈ items, Built item) :
      Built (.group items)
  | all (first second : Criterion) (before : Built first) (after : Built second) :
      Built (.all [first, second])
  | any (first second : Criterion) (before : Built first) (after : Built second) :
      Built (.any [first, second])
  | xor (first second : Criterion) (before : Built first) (after : Built second) :
      Built (.xor first second)
  | not (inner : Criterion) (part : Built inner) : Built (.not inner)
  | ifThen (test whenTrue : Criterion) (condition : Built test) (consequence : Built whenTrue) :
      Built (.ifThen test whenTrue)
  | ifThenElse (test whenTrue whenFalse : Criterion) (condition : Built test)
      (consequence : Built whenTrue) (alternative : Built whenFalse) :
      Built (.ifThenElse test whenTrue whenFalse)

structure Chain.Holds (chain : Chain) : Prop where
  all : ∀ pending ∈ chain.all, Built pending.left
  any : ∀ pending ∈ chain.any, Built pending.left
  xor : ∀ pending ∈ chain.xor, Built pending.left

namespace Chain

theorem empty_holds : empty.Holds := ⟨nofun, nofun, nofun⟩

section

variable {chain : Chain} {right : Criterion} (holds : chain.Holds) (built : Built right)

include holds built

theorem closeXor_built : Built (chain.closeXor right) := by
  rw [closeXor]
  split
  · exact built
  · rename_i pending waits
    exact .xor _ _ built (holds.xor pending waits)

theorem closeAny_built : Built (chain.closeAny right) := by
  rw [closeAny]
  split
  · exact closeXor_built holds built
  · rename_i pending waits
    exact .any _ _ (closeXor_built holds built) (holds.any pending waits)

theorem close_built : Built (chain.close right) := by
  rw [close]
  split
  · exact closeAny_built holds built
  · rename_i pending waits
    exact .all _ _ (closeAny_built holds built) (holds.all pending waits)

theorem pushXor_holds : (chain.pushXor right).Holds := by
  refine ⟨holds.all, holds.any, ?_⟩
  rintro pending ⟨⟩
  exact closeXor_built holds built

theorem pushAny_holds : (chain.pushAny right).Holds := by
  refine ⟨holds.all, ?_, nofun⟩
  rintro pending ⟨⟩
  exact closeAny_built holds built

theorem pushAll_holds : (chain.pushAll right).Holds := by
  refine ⟨?_, nofun, nofun⟩
  rintro pending ⟨⟩
  exact close_built holds built

end

end Chain

namespace Opened

def Holds : Opened → Prop
  | whole chain items => chain.Holds ∧ ∀ item ∈ items, Built item
  | braces chain items outer => chain.Holds ∧ (∀ item ∈ items, Built item) ∧ outer.Holds
  | negation items outer => (∀ item ∈ items, Built item) ∧ outer.Holds
  | condition outer => outer.Holds
  | consequence test items outer => Built test ∧ (∀ item ∈ items, Built item) ∧ outer.Holds
  | alternative test whenTrue items outer =>
    Built test ∧ Built whenTrue ∧ (∀ item ∈ items, Built item) ∧ outer.Holds

theorem append_built {before items : List Criterion} (first : ∀ item ∈ before, Built item)
    (second : ∀ item ∈ items, Built item) : ∀ item ∈ before ++ items, Built item := by
  intro item member
  rcases List.mem_append.mp member with member | member
  · exact first item member
  · exact second item member

theorem add_holds (opened : Opened) (holds : opened.Holds) (items : List Criterion)
    (built : ∀ item ∈ items, Built item) : (opened.add items).Holds := by
  cases opened with
  | whole chain before =>
      obtain ⟨waiting, first⟩ := holds
      exact ⟨waiting, append_built first built⟩
  | braces chain before outer =>
      obtain ⟨waiting, first, around⟩ := holds
      exact ⟨waiting, append_built first built, around⟩
  | negation before outer =>
      obtain ⟨first, around⟩ := holds
      exact ⟨append_built first built, around⟩
  | condition outer =>
      rw [add]
      split
      · exact holds
      · rename_i inhabited
        exact ⟨.group items (mt List.isEmpty_iff.mpr inhabited) built, nofun, holds⟩
  | consequence test before outer =>
      obtain ⟨asked, first, around⟩ := holds
      exact ⟨asked, append_built first built, around⟩
  | alternative test whenTrue before outer =>
      obtain ⟨asked, taken, first, around⟩ := holds
      exact ⟨asked, taken, append_built first built, around⟩

theorem sequence_built (before added : List Criterion) (first : ∀ item ∈ before, Built item)
    (second : ∀ item ∈ added, Built item) (criterion : Criterion)
    (read : sequence (before ++ added) = .ok criterion) : Built criterion := by
  rw [sequence] at read
  split at read
  · cases read
  · rename_i inhabited
    cases read
    exact .group _ (mt List.isEmpty_iff.mpr inhabited) (append_built first second)

theorem settle_built (opened : Opened) (holds : opened.Holds) (added : List Criterion)
    (built : ∀ item ∈ added, Built item) (chain : Chain) (right : Criterion) (outer : Option Opened)
    (settled : opened.settle added = .ok (chain, right, outer)) :
    chain.Holds ∧ Built right ∧ ∀ rest ∈ outer, rest.Holds := by
  induction opened generalizing added with
  | whole kept items =>
      obtain ⟨waiting, before⟩ := holds
      obtain ⟨_, read, same⟩ := ok_of_map _ _ _ settled
      cases same
      exact ⟨waiting, sequence_built items added before built right read, nofun⟩
  | braces kept items rest =>
      obtain ⟨waiting, before, around⟩ := holds
      obtain ⟨_, read, same⟩ := ok_of_map _ _ _ settled
      cases same
      refine ⟨waiting, sequence_built items added before built right read, ?_⟩
      rintro _ ⟨⟩
      exact around
  | negation items rest ih =>
      obtain ⟨before, around⟩ := holds
      obtain ⟨inner, read, settled⟩ := ok_of_bind _ _ _ settled
      have closed := Built.not inner (sequence_built items added before built inner read)
      exact ih around _ (List.forall_mem_singleton.mpr closed) settled
  | condition rest ih => cases settled
  | consequence test items rest ih =>
      obtain ⟨asked, before, around⟩ := holds
      obtain ⟨whenTrue, read, settled⟩ := ok_of_bind _ _ _ settled
      have part := sequence_built items added before built whenTrue read
      have closed := Built.ifThen test whenTrue asked part
      exact ih around _ (List.forall_mem_singleton.mpr closed) settled
  | alternative test whenTrue items rest ih =>
      obtain ⟨asked, taken, before, around⟩ := holds
      obtain ⟨whenFalse, read, settled⟩ := ok_of_bind _ _ _ settled
      have part := sequence_built items added before built whenFalse read
      have closed := Built.ifThenElse test whenTrue whenFalse asked taken part
      exact ih around _ (List.forall_mem_singleton.mpr closed) settled

theorem openAlternative_holds (opened : Opened) (holds : opened.Holds) (spelling : String)
    (added : List Criterion) (built : ∀ item ∈ added, Built item) (next : Opened)
    (ran : opened.openAlternative spelling added = .ok next) : next.Holds := by
  induction opened generalizing added with
  | whole chain items =>
      obtain ⟨_, _, ran⟩ := ok_of_bind _ _ _ ran
      cases ran
  | braces chain items rest =>
      obtain ⟨_, _, ran⟩ := ok_of_bind _ _ _ ran
      cases ran
  | negation items rest ih =>
      obtain ⟨before, around⟩ := holds
      obtain ⟨inner, read, ran⟩ := ok_of_bind _ _ _ ran
      have closed := Built.not inner (sequence_built items added before built inner read)
      exact ih around _ (List.forall_mem_singleton.mpr closed) ran
  | condition rest ih => cases ran
  | consequence test items rest ih =>
      obtain ⟨asked, before, around⟩ := holds
      obtain ⟨whenTrue, read, ran⟩ := ok_of_bind _ _ _ ran
      have part := sequence_built items added before built whenTrue read
      cases ran
      exact ⟨asked, part, nofun, around⟩
  | alternative test whenTrue items rest ih =>
      obtain ⟨asked, taken, before, around⟩ := holds
      obtain ⟨whenFalse, read, ran⟩ := ok_of_bind _ _ _ ran
      have part := sequence_built items added before built whenFalse read
      have closed := Built.ifThenElse test whenTrue whenFalse asked taken part
      exact ih around _ (List.forall_mem_singleton.mpr closed) ran

theorem bounded_eq (opened next : Opened) (ran : opened.bounded = .ok next) : next = opened := by
  rw [bounded] at ran
  split at ran
  · cases ran
  · exact (Except.ok.inj ran).symm

theorem operator_holds (push : Chain → Criterion → Chain)
    (pushes : ∀ chain right, chain.Holds → Built right → (push chain right).Holds)
    (opened : Opened) (holds : opened.Holds) (next : Opened)
    (ran : operator push opened = .ok next) : next.Holds := by
  obtain ⟨⟨chain, right, outer⟩, settled, ran⟩ := ok_of_bind _ _ _ ran
  obtain ⟨kept, built, around⟩ := settle_built opened holds [] nofun chain right outer settled
  have pushed := pushes chain right kept built
  cases outer with
  | none =>
      rw [bounded_eq _ _ ran]
      exact ⟨pushed, nofun⟩
  | some rest =>
      rw [bounded_eq _ _ ran]
      exact ⟨pushed, nofun, around rest rfl⟩

theorem closeBraces_holds (opened : Opened) (holds : opened.Holds) (next : Opened)
    (ran : opened.closeBraces = .ok next) : next.Holds := by
  obtain ⟨⟨chain, right, outer⟩, settled, ran⟩ := ok_of_bind _ _ _ ran
  obtain ⟨kept, built, around⟩ := settle_built opened holds [] nofun chain right outer settled
  cases outer with
  | none => cases ran
  | some rest =>
      cases ran
      have closed := Chain.close_built kept built
      exact rest.add_holds (around rest rfl) _ (List.forall_mem_singleton.mpr closed)

theorem finish_built (opened : Opened) (holds : opened.Holds) (criterion : Criterion)
    (ran : opened.finish = .ok criterion) : Built criterion := by
  obtain ⟨⟨chain, right, outer⟩, settled, ran⟩ := ok_of_bind _ _ _ ran
  obtain ⟨kept, built, _⟩ := settle_built opened holds [] nofun chain right outer settled
  cases outer with
  | none =>
      cases ran
      exact Chain.close_built kept built
  | some rest => cases ran

theorem keyword_holds (opened : Opened) (holds : opened.Holds) (spelling : String) (kind : Keyword)
    (next : Opened) (ran : opened.keyword spelling kind = .ok next) : next.Holds := by
  cases kind with
  | openBrace =>
      rw [bounded_eq _ _ ran]
      exact ⟨Chain.empty_holds, nofun, holds⟩
  | closeBrace => exact closeBraces_holds opened holds next ran
  | and => exact operator_holds _ (fun _ _ => Chain.pushAll_holds) opened holds next ran
  | or => exact operator_holds _ (fun _ _ => Chain.pushAny_holds) opened holds next ran
  | xor => exact operator_holds _ (fun _ _ => Chain.pushXor_holds) opened holds next ran
  | not =>
      rw [bounded_eq _ _ ran]
      exact ⟨nofun, holds⟩
  | ifWord =>
      rw [bounded_eq _ _ ran]
      exact holds
  | elseWord => exact openAlternative_holds opened holds spelling [] nofun next ran

end Opened

theorem Modifier.interpret_built (lexeme : String) (payload : Option String) (now : Instant)
    (options : ScanOptions) (items : List Criterion)
    (interpreted : interpret lexeme payload now options = .ok (.criteria items)) :
    ∀ item ∈ items, Built item := by
  intro item member
  obtain ⟨test, rfl, _⟩ := interpret_plain _ _ _ _ _ interpreted item member
  exact .leaf test (.modifier lexeme payload now options items test interpreted member)

theorem Parser.Reads.holds {source : LoadlineSource} {now : Instant} {before after : State}
    (reads : Reads source now before after) (holds : before.opened.Holds) : after.opened.Holds := by
  cases reads with
  | keyword opened next options kind spelling rest stepped =>
      exact Opened.keyword_holds opened holds spelling kind next stepped
  | pattern opened options text rest =>
      have built : Built (.leaf (.wildcard (.ofText text options.base))) := .leaf _ (.pattern text options.base)
      exact opened.add_holds holds _ (List.forall_mem_singleton.mpr built)
  | criteria opened options lexeme payload rest items interpreted =>
      exact opened.add_holds holds items (Modifier.interpret_built _ _ _ _ items interpreted)
  | options | loadline => exact holds

/-- Whatever a command line is, a parse of it that succeeds returns a tree of the tests it names. -/
theorem parse_built (source : LoadlineSource) (now : Instant) (initial : ScanOptions)
    (commandLine : String) (criterion : Criterion) (options : ScanOptions)
    (parsed : parse source now initial commandLine = .ok (criterion, options)) : Built criterion := by
  obtain ⟨tokens, _, ran⟩ := ok_of_bind _ _ _ parsed
  have empty : (Opened.whole Chain.empty []).Holds := ⟨Chain.empty_holds, nofun⟩
  obtain ⟨last, _, holds, finished, _⟩ :=
    Parser.read_keeps (fun state => state.opened.Holds) (fun _ _ holds reads => reads.holds holds) empty ran
  exact Opened.finish_built last holds criterion finished

theorem Emitted.isRead {test : Leaf} (emitted : Emitted test) : test.IsRead := by
  cases emitted with
  | pattern text base => exact PathPattern.ofText_isRead text base
  | modifier lexeme payload now options items test interpreted member =>
      obtain ⟨other, same, plain⟩ := Modifier.interpret_plain _ _ _ _ _ interpreted _ member
      cases same
      cases test with
      | wildcard pattern => exact absurd rfl (plain pattern)
      | type | size | date | regex | skip | content | digest => trivial

theorem Criterion.leaves_group (items : List Criterion) :
    (group items).leaves = items.flatMap leaves := by
  match items with
  | [item] => exact (List.append_nil _).symm
  | [] | _ :: _ :: _ =>
      rw [group, leaves_eq]
      · rfl
      · exact nofun

theorem Built.leaves_emitted {criterion : Criterion} (built : Built criterion) :
    ∀ test ∈ criterion.leaves, Emitted test := by
  induction built with
  | leaf test emitted => exact List.forall_mem_singleton.mpr emitted
  | group items inhabited parts ih =>
      intro test member
      rw [Criterion.leaves_group] at member
      obtain ⟨item, among, below⟩ := List.mem_flatMap.mp member
      exact ih item among test below
  | all first second _ _ before after | any first second _ _ before after
  | xor first second _ _ before after =>
      apply Criterion.forall_leaves_of_children Emitted _ rfl
      exact List.forall_mem_cons.mpr ⟨before, List.forall_mem_singleton.mpr after⟩
  | not inner _ ih =>
      apply Criterion.forall_leaves_of_children Emitted _ rfl
      exact List.forall_mem_singleton.mpr ih
  | ifThen test whenTrue _ _ condition consequence =>
      apply Criterion.forall_leaves_of_children Emitted _ rfl
      exact List.forall_mem_cons.mpr ⟨condition, List.forall_mem_singleton.mpr consequence⟩
  | ifThenElse test whenTrue whenFalse _ _ _ condition consequence alternative =>
      apply Criterion.forall_leaves_of_children Emitted _ rfl
      refine List.forall_mem_cons.mpr ⟨condition, ?_⟩
      exact List.forall_mem_cons.mpr ⟨consequence, List.forall_mem_singleton.mpr alternative⟩

end FileSieve
