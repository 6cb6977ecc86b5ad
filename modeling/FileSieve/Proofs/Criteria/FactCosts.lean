import FileSieve.Proofs.Criteria.Consult
import FileSieve.Proofs.Criteria.Reordering

/-! What the facts cost that evaluation asks for. None is dearer than the criterion. In a reordered criterion the
operands come cheapest first, so where one of them settles its node, what is evaluated there stands no later than that
operand, and asks for nothing dearer. -/

namespace FileSieve

namespace Cost

theorem rank_le_max_left (a b : Cost) : a.rank ≤ (a.max b).rank := by
  rw [rank_max]
  exact Nat.le_max_left _ _

theorem rank_le_max_right (a b : Cost) : b.rank ≤ (a.max b).rank := by
  rw [rank_max]
  exact Nat.le_max_right _ _

end Cost

def Fact.cost : Fact → Cost
  | image | checksum => .imageHeader
  | contents => .contentSearch
  | digest _ => .digestCheck
  | signature | protection => .signatureCheck

theorem AttributeTest.cost_of_fact? {test : AttributeTest} {fact : Fact} (asked : test.fact? = some fact) :
    fact.cost = test.cost := by
  cases test <;> cases asked <;> rfl

theorem Leaf.cost_of_fact? {test : Leaf} {fact : Fact} (asked : test.fact? = some fact) : fact.cost = test.cost := by
  cases test with
  | type test => exact test.cost_of_fact? asked
  | date field =>
      cases field with
      | header =>
          cases asked
          rfl
      | created | modified | accessed => cases asked
  | content | digest =>
      cases asked
      rfl
  | size | wildcard | regex | skip => cases asked

namespace Criterion

variable {file : File} {fact : Fact} {items : List Criterion}

theorem rank_le_costOfAll {item : Criterion} (member : item ∈ items) : item.cost.rank ≤ (costOfAll items).rank := by
  induction items with
  | nil => cases member
  | cons first rest ih =>
      rw [costOfAll]
      rcases List.mem_cons.mp member with rfl | later
      · exact Cost.rank_le_max_left _ _
      · exact Nat.le_trans (ih later) (Cost.rank_le_max_right _ _)

theorem rank_le_of_child {child node : Criterion} (member : child ∈ node.children) :
    child.cost.rank ≤ node.cost.rank := by
  cases node with
  | leaf test => cases member
  | all items | any items | bracket items => exact rank_le_costOfAll member
  | not inner =>
      cases List.mem_singleton.mp member
      exact Nat.le_refl _
  | xor left right | ifThen left right =>
      simp only [children, List.mem_cons, List.not_mem_nil, or_false] at member
      rcases member with rfl | rfl
      · exact Cost.rank_le_max_left _ _
      · exact Cost.rank_le_max_right _ _
  | ifThenElse condition consequence alternative =>
      simp only [children, List.mem_cons, List.not_mem_nil, or_false] at member
      have branches := Cost.rank_le_max_left (condition.cost.max consequence.cost) alternative.cost
      rcases member with rfl | rfl | rfl
      · exact Nat.le_trans (Cost.rank_le_max_left _ _) branches
      · exact Nat.le_trans (Cost.rank_le_max_right _ _) branches
      · exact Cost.rank_le_max_right _ _

theorem exists_mem_of_factsWhile {result : Bool} (asked : fact ∈ factsWhile file result items) :
    ∃ item ∈ items, fact ∈ item.facts file := by
  induction items with
  | nil => cases asked
  | cons item rest ih =>
      rw [factsWhile] at asked
      rcases List.mem_append.mp asked with here | later
      · exact ⟨item, List.mem_cons_self, here⟩
      · split at later
        · obtain ⟨other, member, asks⟩ := ih later
          exact ⟨other, List.mem_cons_of_mem _ member, asks⟩
        · cases later

theorem asked_by_part {node : Criterion} (asked : fact ∈ node.facts file) :
    (∃ test, node = leaf test ∧ test.fact? = some fact) ∨
      ∃ child ∈ node.children, fact ∈ child.facts file := by
  cases node with
  | leaf test => exact .inl ⟨test, rfl, Option.mem_toList.mp asked⟩
  | all items | any items | bracket items => exact .inr (exists_mem_of_factsWhile asked)
  | not inner => exact .inr ⟨inner, List.mem_singleton_self _, asked⟩
  | xor left right =>
      right
      simpa [facts, children] using asked
  | ifThen condition consequence =>
      right
      rw [facts] at asked
      simp only [children]
      grind
  | ifThenElse condition consequence alternative =>
      right
      rw [facts] at asked
      simp only [children]
      grind

theorem facts_within (criterion : Criterion) (asked : fact ∈ criterion.facts file) :
    fact.cost.rank ≤ criterion.cost.rank := by
  induction criterion using induction_on with
  | step node ih =>
      rcases asked_by_part asked with ⟨test, rfl, asks⟩ | ⟨child, member, asks⟩
      · rw [Leaf.cost_of_fact? asks]
        exact Nat.le_refl _
      · exact Nat.le_trans (ih child member asks) (rank_le_of_child member)

theorem factsWhile_within {result : Bool} (ordered : items.Pairwise fun a b => a.cost.rank ≤ b.cost.rank)
    {child : Criterion} (member : child ∈ items) (stops : child.evaluate file ≠ result)
    (asked : fact ∈ factsWhile file result items) : fact.cost.rank ≤ child.cost.rank := by
  induction items with
  | nil => cases member
  | cons item rest ih =>
      rw [factsWhile] at asked
      rcases List.mem_append.mp asked with here | later
      · exact Nat.le_trans (item.facts_within here) (cheapest_head ordered member)
      · split at later
        · rename_i goesOn
          rcases List.mem_cons.mp member with rfl | behind
          · exact absurd (eq_of_beq goesOn) stops
          · exact ih ordered.of_cons behind later
        · cases later

/-- The value of an operand that settles its node, whatever the others are. -/
def settling? : Criterion → Option Bool
  | all _ | bracket _ => some false
  | any _ => some true
  | _ => none

/-- Evaluation asks for nothing dearer, and so does it on a record of the file, whatever that has been asked before. -/
structure AsksWithin (file : File) (criterion : Criterion) (cost : Cost) : Prop where
  asked : ∀ fact ∈ criterion.facts file, fact.cost.rank ≤ cost.rank
  touched : ∀ record : Record, record.file = file → record.Sound →
    ∀ fact ∈ (criterion.consult.run record).2.touched, fact ∈ record.touched ∨ fact.cost.rank ≤ cost.rank

theorem asksWithin_of_facts {criterion : Criterion} {cost : Cost}
    (asked : ∀ fact ∈ criterion.facts file, fact.cost.rank ≤ cost.rank) : AsksWithin file criterion cost := by
  refine ⟨asked, ?_⟩
  intro record same sound fact member
  obtain ⟨next, run, leaves⟩ := criterion.consult_agrees file record same sound
  rw [run, leaves.touched] at member
  rcases List.mem_append.mp member with before | now
  · exact .inl before
  · exact .inr (asked fact ((Fact.mem_fresh _ _ _).mp now).1)

theorem mem_parts_reorder {part criterion : Criterion} (inside : part ∈ criterion.reorder.parts) :
    ∃ before ∈ criterion.parts, before.reorder = part := by
  induction criterion using induction_on with
  | step node ih =>
      rw [parts_eq] at inside
      rcases List.mem_cons.mp inside with rfl | below
      · exact ⟨node, node.mem_parts_self, rfl⟩
      · obtain ⟨child, among, within⟩ := List.mem_flatMap.mp below
        obtain ⟨original, member, rfl⟩ := List.mem_map.mp ((reorder_children node).mem_iff.mp among)
        obtain ⟨before, further, same⟩ := ih original member within
        exact ⟨before, mem_parts_of_child member further, same⟩

theorem facts_within_settling (before : Criterion) {child : Criterion} (member : child ∈ before.reorder.children)
    (settles : before.reorder.settling? = some (child.evaluate file)) (asked : fact ∈ before.reorder.facts file) :
    fact.cost.rank ≤ child.cost.rank := by
  cases before with
  | all items | any items | bracket items =>
      have value := Option.some.inj settles
      refine factsWhile_within (byCost_sorted _) member ?_ asked
      rw [← value]
      exact nofun
  | xor left right =>
      rw [reorder] at settles
      split at settles <;> cases settles
  | leaf | not | ifThen | ifThenElse => cases settles

/-- No fact costs more than the criterion that asks for it; after reordering, none costs more than an operand that
settles the node in which it is asked for. -/
theorem asks_within_cost (criterion : Criterion) (file : File) :
    criterion.AsksWithin file criterion.cost ∧
      ∀ node ∈ criterion.reorder.parts, ∀ child ∈ node.children,
        node.settling? = some (child.evaluate file) → node.AsksWithin file child.cost := by
  constructor
  · apply asksWithin_of_facts
    intro fact asked
    exact criterion.facts_within asked
  · intro node inside child member settles
    obtain ⟨before, _, rfl⟩ := mem_parts_reorder inside
    apply asksWithin_of_facts
    intro fact asked
    exact before.facts_within_settling member settles asked

def digestOrHidden : Criterion :=
  any [leaf (.digest .md5 []), all [leaf (.content [0x78] false), leaf (.type .hidden)]]

theorem reorder_digestOrHidden :
    digestOrHidden.reorder =
      any [all [leaf (.type .hidden), leaf (.content [0x78] false)], leaf (.digest .md5 [])] := by
  simp only [digestOrHidden, reorder, reorderAll, byCost_pair]
  rfl

theorem asks_within_cost_digestOrHidden :
    let file : File := .absent (.ofString "/n")
    let node : Criterion := all [leaf (.type .hidden), leaf (.content [0x78] false)]
    node ∈ digestOrHidden.reorder.parts ∧ leaf (.type .hidden) ∈ node.children ∧
      node.settling? = some ((leaf (.type .hidden)).evaluate file) ∧ node.AsksWithin file .fastAttribute := by
  intro file node
  have inside : node ∈ digestOrHidden.reorder.parts := by
    rw [reorder_digestOrHidden]
    exact List.mem_cons_of_mem _ List.mem_cons_self
  have member : leaf (.type .hidden) ∈ node.children := List.mem_cons_self
  have settles : node.settling? = some ((leaf (.type .hidden)).evaluate file) := by decide
  exact ⟨inside, member, settles, (asks_within_cost digestOrHidden file).2 node inside _ member settles⟩

end Criterion
end FileSieve
