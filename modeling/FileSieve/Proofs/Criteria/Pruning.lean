import FileSieve.Proofs.Criteria.Inside
import FileSieve.Proofs.Criteria.Parts

/-! Pruning. Nothing inside a directory that a criterion prunes matches it, unless an alternative that is
indifferent to the directory has yielded to one that prunes it. -/

namespace FileSieve

namespace Decision

theorem combine_prune (every : Bool) (a b : Decision) (pruned : a.combine every b = prune) :
    a = prune ∨ b = prune := by
  cases every <;> cases a <;> cases b <;> simp [combine] at pruned ⊢

theorem combine_any_prune (a b : Decision) (pruned : a.combine false b = prune) :
    a ≠ enter ∧ b ≠ enter := by
  cases a <;> cases b <;> simp [combine] at pruned ⊢

theorem negate_not_prune (answer : Decision) : answer.negate ≠ prune := by
  cases answer <;> exact nofun

theorem fold_prune (every : Bool) (decisions : List Decision) (sofar : Decision)
    (pruned : decisions.foldl (combine every) sofar = prune) :
    sofar = prune ∨ prune ∈ decisions := by
  induction decisions generalizing sofar with
  | nil => exact .inl pruned
  | cons next rest ih =>
      rcases ih _ pruned with joined | later
      · rcases combine_prune every _ _ joined with before | here
        · exact .inl before
        · exact .inr (here ▸ List.mem_cons_self)
      · exact .inr (List.mem_cons_of_mem next later)

theorem fold_any_prune (decisions : List Decision) (sofar : Decision)
    (pruned : decisions.foldl (combine false) sofar = prune) :
    sofar ≠ enter ∧ enter ∉ decisions := by
  induction decisions generalizing sofar with
  | nil =>
      refine ⟨?_, List.not_mem_nil⟩
      rw [show sofar = prune from pruned]
      decide
  | cons next rest ih =>
      obtain ⟨joined, later⟩ := ih _ pruned
      have apart : sofar ≠ enter ∧ next ≠ enter := by
        cases sofar <;> cases next <;> simp [combine] at joined ⊢
      refine ⟨apart.1, ?_⟩
      intro member
      rcases List.mem_cons.mp member with here | there
      · exact apart.2 here.symm
      · exact later there

end Decision

/-- Leaves that are there to decide on directories: rooted patterns as they are read, which prune, and
skip rules. -/
def Leaf.Decides : Leaf → Prop
  | wildcard pattern => pattern.IsRead ∧ pattern.prunes = true
  | skip _ => True
  | _ => False

theorem Leaf.Decides.isRead {test : Leaf} (decides : test.Decides) : test.IsRead := by
  cases test with
  | wildcard pattern => exact decides.1
  | type | size | date | regex | skip | content | digest => trivial

namespace Criterion

/-- The children of a node that stand in for each other. -/
def alternatives : Criterion → List Criterion
  | any items => items
  | xor left right => [left, right]
  | ifThenElse _ consequence alternative => [consequence, alternative]
  | _ => []

/-- The alternatives whose decisions on a directory a node weighs: a condition that prunes it leaves
nothing to weigh. -/
def weighed (directory : Path) : Criterion → List Criterion
  | ifThenElse condition consequence alternative =>
    if condition.decision directory = .prune then [] else [consequence, alternative]
  | node => node.alternatives

theorem weighed_subset (directory : Path) (node : Criterion) :
    node.weighed directory ⊆ node.alternatives := by
  cases node with
  | ifThenElse condition consequence alternative =>
      rw [weighed]
      split
      · exact List.nil_subset _
      · exact List.Subset.refl _
  | leaf | all | any | bracket | xor | not | ifThen => exact List.Subset.refl _

/-- A node that is true for a file prunes a directory, though it weighs an alternative that is true for
the file and indifferent to the directory. -/
structure Overrules (directory : Path) (file : File) (node : Criterion) : Prop where
  pruned : node.decision directory = .prune
  holds : node.evaluate file = true
  yielded : ∃ choice ∈ node.weighed directory,
    choice.decision directory = .indifferent ∧ choice.evaluate file = true

instance (directory : Path) (file : File) (node : Criterion) :
    Decidable (node.Overrules directory file) :=
  decidable_of_iff
    (node.decision directory = .prune ∧ node.evaluate file = true ∧
      ∃ choice ∈ node.weighed directory,
        choice.decision directory = .indifferent ∧ choice.evaluate file = true)
    ⟨fun ⟨pruned, holds, yielded⟩ => ⟨pruned, holds, yielded⟩,
      fun ⟨pruned, holds, yielded⟩ => ⟨pruned, holds, yielded⟩⟩

def Overruled (directory : Path) (file : File) (criterion : Criterion) : Prop :=
  ∃ part ∈ criterion.parts, part.Overrules directory file

instance (directory : Path) (file : File) (criterion : Criterion) :
    Decidable (criterion.Overruled directory file) :=
  inferInstanceAs (Decidable (∃ part ∈ criterion.parts, part.Overrules directory file))

section

variable {directory : Path} {file : File} {child node : Criterion}

theorem Overrules.overruled (overrules : node.Overrules directory file) :
    node.Overruled directory file :=
  ⟨node, node.mem_parts_self, overrules⟩

theorem Overruled.of_child (member : child ∈ node.children)
    (overruled : child.Overruled directory file) : node.Overruled directory file := by
  obtain ⟨part, inside, overrules⟩ := overruled
  exact ⟨part, mem_parts_of_child member inside, overrules⟩

end

theorem ifThen_not_prune (condition consequence : Criterion) (directory : Path) :
    (ifThen condition consequence).decision directory ≠ .prune := by
  rw [decision]
  intro pruned
  split at pruned
  · cases pruned
  · exact (Decision.combine_any_prune _ _ pruned).2 rfl

theorem decision_ifThenElse (condition consequence alternative : Criterion) (directory : Path)
    (undecided : condition.decision directory ≠ .prune) :
    (ifThenElse condition consequence alternative).decision directory =
      (consequence.decision directory).combine false (alternative.decision directory) := by
  simp only [decision]

theorem exists_prune_of_all (directory : Path) (items : List Criterion)
    (pruned : decisionOf directory true .indifferent items = .prune) :
    ∃ item ∈ items, item.decision directory = .prune := by
  rw [decisionOf_eq_foldl] at pruned
  rcases Decision.fold_prune true _ _ pruned with absurdity | member
  · cases absurdity
  · exact List.mem_map.mp member

theorem weighed_subset_children (directory : Path) (node : Criterion) :
    node.weighed directory ⊆ node.children := by
  apply List.Subset.trans (node.weighed_subset directory)
  cases node with
  | leaf | all | bracket | not | ifThen => exact List.nil_subset _
  | any | xor => exact List.Subset.refl _
  | ifThenElse => exact List.subset_cons_self _ _

theorem weighed_not_enter (directory : Path) (node : Criterion)
    (pruned : node.decision directory = .prune) :
    ∀ choice ∈ node.weighed directory, choice.decision directory ≠ .enter := by
  intro choice member enters
  cases node with
  | leaf | all | bracket | not | ifThen => cases member
  | any items =>
      rw [decision, decisionOf_eq_foldl] at pruned
      exact (Decision.fold_any_prune _ _ pruned).2 (List.mem_map.mpr ⟨choice, member, enters⟩)
  | xor left right =>
      have apart := Decision.combine_any_prune _ _ pruned
      rcases List.mem_cons.mp member with rfl | member
      · exact apart.1 enters
      · cases List.mem_singleton.mp member
        exact apart.2 enters
  | ifThenElse condition consequence alternative =>
      rw [weighed] at member
      split at member
      · cases member
      · rename_i undecided
        rw [decision_ifThenElse _ _ _ _ undecided] at pruned
        have apart := Decision.combine_any_prune _ _ pruned
        rcases List.mem_cons.mp member with rfl | member
        · exact apart.1 enters
        · cases List.mem_singleton.mp member
          exact apart.2 enters

theorem overruled_of_weighed (directory : Path) (file : File) (node : Criterion)
    (ih : ∀ child ∈ node.children, child.evaluate file = true →
      child.decision directory = .prune → child.Overruled directory file)
    (pruned : node.decision directory = .prune) (holds : node.evaluate file = true)
    (chosen : ∃ choice ∈ node.weighed directory, choice.evaluate file = true) :
    node.Overruled directory file := by
  obtain ⟨choice, member, choiceHolds⟩ := chosen
  have below := node.weighed_subset_children directory member
  cases answer : choice.decision directory with
  -- An alternative that lets the scan in would have settled the decision.
  | enter => exact absurd answer (weighed_not_enter directory node pruned choice member)
  | prune => exact Overruled.of_child below (ih choice below choiceHolds answer)
  | indifferent => exact Overrules.overruled ⟨pruned, holds, choice, member, answer, choiceHolds⟩

theorem overruled_of_prune (criterion : Criterion) (file : File) (directory : Path)
    (read : ∀ test ∈ criterion.leaves, test.IsRead) (inside : file.path.Inside directory)
    (anchored : directory.isAbsolute = true ∨ directory.bytes.getLast? ≠ some Path.separator)
    (holds : criterion.evaluate file = true) (pruned : criterion.decision directory = .prune) :
    criterion.Overruled directory file := by
  induction criterion using induction_on with
  | step node ih =>
  replace ih : ∀ child ∈ node.children, child.evaluate file = true →
      child.decision directory = .prune → child.Overruled directory file := by
    intro child member
    exact ih child member fun test below => read test (mem_leaves_of_child member below)
  cases node with
  | leaf test =>
      have reads := read test (List.mem_singleton_self test)
      have fails := test.not_evaluate_of_prune reads file directory inside anchored pruned
      exact absurd holds (Bool.eq_false_iff.mp fails)
  | all items | bracket items =>
      rw [evaluate, evaluateAll_eq_all] at holds
      obtain ⟨item, member, prunes⟩ := exists_prune_of_all directory items pruned
      have itemHolds := List.all_eq_true.mp holds item member
      exact Overruled.of_child member (ih item member itemHolds prunes)
  | any items =>
      apply overruled_of_weighed directory file _ ih pruned holds
      rw [evaluate, evaluateAny_eq_any] at holds
      exact List.any_eq_true.mp holds
  | xor left right =>
      apply overruled_of_weighed directory file _ ih pruned holds
      cases leftHolds : left.evaluate file with
      | true => exact ⟨left, List.mem_cons_self, leftHolds⟩
      | false =>
          refine ⟨right, List.mem_cons_of_mem _ List.mem_cons_self, ?_⟩
          simpa only [evaluate, leftHolds, Bool.false_bne] using holds
  | not inner => exact absurd pruned (Decision.negate_not_prune _)
  | ifThen condition consequence => exact absurd pruned (ifThen_not_prune condition consequence directory)
  | ifThenElse condition consequence alternative =>
      by_cases closed : condition.decision directory = .prune
      · -- The condition may be true all the same, if something in it is overruled.
        have last : alternative.decision directory = .prune := by
          simpa only [decision, closed] using pruned
        have onAlternative : alternative ∈ [condition, consequence, alternative] := by simp
        cases met : condition.evaluate file with
        | true => exact Overruled.of_child List.mem_cons_self (ih condition List.mem_cons_self met closed)
        | false =>
            have otherwise : alternative.evaluate file = true := by
              simpa only [evaluate, met, Bool.false_eq_true, ↓reduceIte] using holds
            exact Overruled.of_child onAlternative (ih alternative onAlternative otherwise last)
      · apply overruled_of_weighed directory file _ ih pruned holds
        rw [weighed, if_neg closed]
        cases met : condition.evaluate file with
        | true =>
            refine ⟨consequence, List.mem_cons_self, ?_⟩
            simpa only [evaluate, met, ↓reduceIte] using holds
        | false =>
            refine ⟨alternative, List.mem_cons_of_mem _ List.mem_cons_self, ?_⟩
            simpa only [evaluate, met, Bool.false_eq_true, ↓reduceIte] using holds

/-- Where only rooted patterns and skip rules decide, no file inside a pruned directory matches unless it
has been overruled. -/
theorem nothing_inside_pruned (criterion : Criterion)
    (decides : ∀ test ∈ criterion.leaves, test.Decides) (directory : Path)
    (absolute : directory.isAbsolute = true) (pruned : criterion.decision directory = .prune)
    (file : File) (inside : file.path.Inside directory)
    (upheld : ¬ criterion.Overruled directory file) : criterion.evaluate file = false := by
  apply Bool.eq_false_iff.mpr
  intro holds
  apply upheld
  apply overruled_of_prune criterion file directory _ inside (.inl absolute) holds pruned
  intro test member
  exact (decides test member).isRead

theorem nothing_inside_pruned_home :
    (any [leaf (.wildcard (.ofText "/data/logs/*" ⟨[]⟩)),
      all [leaf (.wildcard (.ofText "/srv/*" ⟨[]⟩)), leaf (.skip (.ofText "old" ⟨[]⟩))]]).evaluate
        (.absent (.ofString "/home/a.txt")) = false := by
  refine nothing_inside_pruned _ ?_ (.ofString "/home") (by decide) (by decide) _ ?_ (by decide)
  · intro test member
    rcases List.mem_cons.mp member with rfl | member
    · exact ⟨PathPattern.ofText_isRead _ _, by decide⟩
    rcases List.mem_cons.mp member with rfl | member
    · exact ⟨PathPattern.ofText_isRead _ _, by decide⟩
    rcases List.mem_singleton.mp member with rfl
    trivial
  · exact ⟨Utf8.encode "a.txt".toList, by decide, by decide⟩

/-- A skip rule that leaves a directory alone yields to a rooted pattern that prunes it. -/
theorem prune_not_sound :
    ¬ ∀ (criterion : Criterion) (directory : Path) (file : File),
      (∀ test ∈ criterion.leaves, test.Decides) → directory.isAbsolute = true →
      file.path.Inside directory → criterion.decision directory = .prune →
      criterion.evaluate file = false := by
  intro sound
  have lost := sound
    (any [leaf (.wildcard (.ofText "/data/logs/*" ⟨[]⟩)), leaf (.skip (.ofText "/old/" ⟨[]⟩))])
    (.ofString "/srv") (.absent (.ofString "/srv/a.txt")) ?_ (by decide)
    ⟨Utf8.encode "a.txt".toList, by decide, by decide⟩ (by decide)
  · exact absurd lost (by decide)
  · intro test member
    rcases List.mem_cons.mp member with rfl | member
    · exact ⟨PathPattern.ofText_isRead _ _, by decide⟩
    rcases List.mem_singleton.mp member with rfl
    trivial

end Criterion
end FileSieve
