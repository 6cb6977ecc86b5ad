import FileSieve.Proofs.Criteria.Consult
import FileSieve.Proofs.Criteria.Reordering

/-! Conjunctions. Evaluation goes on from operand to operand as long as they hold, so a leaf is consulted only where all
operands in front of it hold, at each node on the way down to it. What stands behind an operand of a reordered
conjunction costs no less; a cheap leaf is left out only there, together with something as dear. -/

namespace FileSieve

namespace Criterion

/-- All leaves have to hold. -/
inductive Conjunction : Criterion → Prop
  | leaf (test : Leaf) : Conjunction (.leaf test)
  | all (items : List Criterion) (parts : ∀ item ∈ items, Conjunction item) : Conjunction (.all items)
  | bracket (items : List Criterion) (parts : ∀ item ∈ items, Conjunction item) : Conjunction (.bracket items)

/-- An operand of a node, between those in front of it and those behind it. -/
structure Turn where
  front : List Criterion
  operand : Criterion
  back : List Criterion

def Turn.items (turn : Turn) : List Criterion := turn.front ++ turn.operand :: turn.back

/-- Evaluation comes to the leaf by these turns: what stands in front holds. -/
inductive Consulted (file : File) : Criterion → List Turn → Leaf → Prop
  | leaf (test : Leaf) : Consulted file (.leaf test) [] test
  | all (turn : Turn) (way : List Turn) (test : Leaf) (passed : evaluateAll file turn.front = true)
      (below : Consulted file turn.operand way test) : Consulted file (.all turn.items) (turn :: way) test
  | bracket (turn : Turn) (way : List Turn) (test : Leaf) (passed : evaluateAll file turn.front = true)
      (below : Consulted file turn.operand way test) : Consulted file (.bracket turn.items) (turn :: way) test

variable {file : File} {fact : Fact} {criterion : Criterion} {items : List Criterion} {way : List Turn} {test : Leaf}

theorem Turn.operand_mem (turn : Turn) : turn.operand ∈ turn.items :=
  List.mem_append_right _ List.mem_cons_self

theorem Consulted.first_turn (consulted : Consulted file criterion way test) (inner : criterion.leaf? = none) :
    ∃ turn later, way = turn :: later ∧ turn.items = criterion.children ∧ evaluateAll file turn.front = true ∧
      Consulted file turn.operand later test := by
  cases consulted with
  | leaf test => cases inner
  | all turn later test passed below | bracket turn later test passed below =>
      exact ⟨turn, later, rfl, rfl, passed, below⟩

theorem mem_factsWhile (file : File) (fact : Fact) (items : List Criterion) :
    fact ∈ factsWhile file true items ↔
      ∃ turn : Turn, turn.items = items ∧ evaluateAll file turn.front = true ∧ fact ∈ facts file turn.operand := by
  induction items with
  | nil =>
      constructor
      · exact nofun
      · rintro ⟨turn, empty, _⟩
        exact absurd turn.operand_mem (empty ▸ List.not_mem_nil)
  | cons item rest ih =>
      rw [factsWhile, List.mem_append]
      constructor
      · rintro (here | later)
        · exact ⟨⟨[], item, rest⟩, rfl, rfl, here⟩
        · split at later
          · rename_i holds
            obtain ⟨⟨front, operand, back⟩, rfl, passed, asked⟩ := ih.mp later
            refine ⟨⟨item :: front, operand, back⟩, rfl, ?_, asked⟩
            rw [evaluateAll, passed, eq_of_beq holds]
            rfl
          · cases later
      · rintro ⟨⟨front, operand, back⟩, same, passed, asked⟩
        cases front with
        | nil =>
            cases same
            exact .inl asked
        | cons first front =>
            cases same
            rw [evaluateAll, Bool.and_eq_true] at passed
            rw [if_pos (beq_iff_eq.mpr passed.1)]
            exact .inr (ih.mpr ⟨⟨front, operand, back⟩, rfl, passed.2, asked⟩)

namespace Conjunction

theorem mem_facts (conjunction : Conjunction criterion) :
    fact ∈ criterion.facts file ↔ ∃ way test, Consulted file criterion way test ∧ test.fact? = some fact := by
  induction conjunction with
  | leaf test =>
      rw [facts, Option.mem_toList]
      constructor
      · intro asked
        exact ⟨[], test, .leaf test, asked⟩
      · rintro ⟨_, _, ⟨⟩, asked⟩
        exact asked
  | all items parts ih | bracket items parts ih =>
      rw [facts, mem_factsWhile]
      constructor
      · rintro ⟨turn, rfl, passed, asked⟩
        obtain ⟨way, test, below, same⟩ := (ih turn.operand turn.operand_mem).mp asked
        exact ⟨turn :: way, test, by constructor <;> assumption, same⟩
      · rintro ⟨_, test, consulted, same⟩
        obtain ⟨turn, later, rfl, rfl, passed, below⟩ := consulted.first_turn rfl
        exact ⟨turn, rfl, passed, (ih turn.operand turn.operand_mem).mpr ⟨later, test, below, same⟩⟩

theorem evaluate_eq (conjunction : Conjunction criterion) (file : File) :
    criterion.evaluate file = criterion.leaves.all (·.evaluate file) := by
  induction conjunction with
  | leaf test => exact (Bool.and_true _).symm
  | all items parts ih | bracket items parts ih =>
      have each : items.all (evaluate file) = items.all fun item => item.leaves.all (·.evaluate file) := by
        rw [Bool.eq_iff_iff, List.all_eq_true, List.all_eq_true]
        exact forall₂_congr fun item member => by rw [ih item member]
      rw [evaluate, evaluateAll_eq_all, each, leaves_eq, List.all_append, List.all_flatMap]
      rfl

theorem reorder (conjunction : Conjunction criterion) : Conjunction criterion.reorder := by
  induction conjunction with
  | leaf test => exact .leaf test
  | all items parts ih | bracket items parts ih =>
      rw [Criterion.reorder, reorderAll_eq_map]
      constructor
      intro item member
      obtain ⟨inner, among, rfl⟩ := List.mem_map.mp ((byCost_perm _).mem_iff.mp member)
      exact ih inner among

theorem holds_or_behind (conjunction : Conjunction criterion) (consulted : Consulted file criterion way test)
    {other : Leaf} (member : other ∈ criterion.leaves) :
    other = test ∨ other.evaluate file = true ∨ ∃ turn ∈ way, ∃ operand ∈ turn.back, other ∈ operand.leaves := by
  induction conjunction generalizing way with
  | leaf inner =>
      cases consulted
      exact .inl (List.mem_singleton.mp member)
  | all items parts ih | bracket items parts ih =>
      obtain ⟨turn, later, rfl, rfl, passed, below⟩ := consulted.first_turn rfl
      rw [leaves_eq] at member
      obtain ⟨operand, among, inside⟩ := List.mem_flatMap.mp member
      rcases List.mem_append.mp among with before | among
      · have holds : operand.evaluate file = true := by
          rw [evaluateAll_eq_all] at passed
          exact List.all_eq_true.mp passed operand before
        rw [(parts operand (List.mem_append_left _ before)).evaluate_eq file] at holds
        exact .inr (.inl (List.all_eq_true.mp holds other inside))
      · rcases List.mem_cons.mp among with rfl | behind
        · rcases ih _ turn.operand_mem below inside with same | holds | ⟨next, further, rest⟩
          · exact .inl same
          · exact .inr (.inl holds)
          · exact .inr (.inr ⟨next, List.mem_cons_of_mem _ further, rest⟩)
        · exact .inr (.inr ⟨turn, List.mem_cons_self, operand, behind, inside⟩)

end Conjunction

theorem Conjunction.behind_dearer (conjunction : Conjunction criterion)
    (consulted : Consulted file criterion.reorder way test) :
    ∀ turn ∈ way, ∀ operand ∈ turn.back, turn.operand.cost.rank ≤ operand.cost.rank := by
  induction conjunction generalizing way with
  | leaf inner =>
      cases consulted
      exact nofun
  | all items parts ih | bracket items parts ih =>
      rw [Criterion.reorder, reorderAll_eq_map] at consulted
      obtain ⟨turn, later, rfl, same, _, below⟩ := consulted.first_turn rfl
      have same : turn.items = byCost (items.map Criterion.reorder) := same
      have sorted := byCost_sorted (items.map Criterion.reorder)
      have among := turn.operand_mem
      rw [← same] at sorted
      rw [same, (byCost_perm _).mem_iff] at among
      obtain ⟨inner, member, reordered⟩ := List.mem_map.mp among
      rw [← reordered] at below
      intro next further
      rcases List.mem_cons.mp further with rfl | further
      · exact (List.pairwise_cons.mp (List.pairwise_append.mp sorted).2.1).1
      · exact ih inner member below next further

/-- Where a leaf of a reordered conjunction is consulted, each cheaper leaf holds or stands in an operand behind it,
which costs no less than the operand beside it that is come to. -/
theorem Conjunction.cheaper_holds (conjunction : Conjunction criterion)
    (consulted : Consulted file criterion.reorder way test) {other : Leaf} (member : other ∈ criterion.leaves)
    (cheaper : other.cost.rank < test.cost.rank) :
    other.evaluate file = true ∨ ∃ turn ∈ way, ∃ operand ∈ turn.back,
      other ∈ operand.leaves ∧ turn.operand.cost.rank ≤ operand.cost.rank := by
  have kept := (reorder_leaves criterion).mem_iff.mpr member
  rcases conjunction.reorder.holds_or_behind consulted kept with rfl | holds | ⟨turn, among, operand, behind, inside⟩
  · exact absurd cheaper (Nat.lt_irrefl _)
  · exact .inl holds
  · exact .inr ⟨turn, among, operand, behind, inside, conjunction.behind_dearer consulted turn among operand behind⟩

end Criterion
end FileSieve
