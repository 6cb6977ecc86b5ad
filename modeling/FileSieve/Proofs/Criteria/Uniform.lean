import FileSieve.Proofs.Criteria.Pruning

/-! Uniform alternatives. A decided criterion is never indifferent, and one without a leaf that confines it
never prunes; where every set of alternatives is of one kind or the other, pruning can be trusted. -/

namespace FileSieve

namespace Decision

theorem combine_indifferent (every : Bool) (a b : Decision)
    (silent : a.combine every b = indifferent) : a = indifferent ∧ b = indifferent := by
  cases every <;> cases a <;> cases b <;> simp [combine] at silent ⊢

theorem fold_indifferent (every : Bool) (decisions : List Decision) (sofar : Decision)
    (silent : decisions.foldl (combine every) sofar = indifferent) :
    sofar = indifferent ∧ ∀ decision ∈ decisions, decision = indifferent := by
  induction decisions generalizing sofar with
  | nil => exact ⟨silent, fun _ member => nomatch member⟩
  | cons next rest ih =>
      obtain ⟨joined, later⟩ := ih _ silent
      obtain ⟨before, here⟩ := combine_indifferent every _ _ joined
      refine ⟨before, ?_⟩
      intro decision member
      rcases List.mem_cons.mp member with rfl | member
      · exact here
      · exact later decision member

end Decision

theorem PathPattern.decision_of_prunes (pattern : PathPattern) (prunes : pattern.prunes = true)
    (directory : Path) : pattern.decision directory ≠ .indifferent := by
  obtain ⟨enabled, rooted⟩ := Bool.and_eq_true_iff.mp prunes
  obtain ⟨root, known⟩ := Option.isSome_iff_exists.mp rooted
  simp only [decision, enabled, known, ↓reduceIte]
  split <;> intro silent <;> cases silent

/-- Rooted patterns, whether they prune or not, and skip rules. -/
def Leaf.confines : Leaf → Bool
  | wildcard pattern => pattern.root.isSome
  | skip _ => true
  | _ => false

theorem Leaf.decision_of_not_confines (test : Leaf) (free : test.confines = false)
    (directory : Path) : test.decision directory = .indifferent := by
  cases test with
  | wildcard pattern =>
      have unrooted : pattern.root = none := Option.not_isSome_iff_eq_none.mp (Bool.eq_false_iff.mp free)
      rw [decision, PathPattern.decision, unrooted, ite_self]
  | skip rule => cases free
  | type | size | date | regex | content | digest => rfl

namespace Criterion

mutual

/-- Whether a node has a definite answer for every directory. -/
def decided : Criterion → Bool
  | leaf (.wildcard pattern) => pattern.prunes
  | leaf _ => false
  | all items | bracket items => someDecided items
  | any items => !items.isEmpty && everyDecided items
  | xor left right => decided left && decided right
  | not _ => false
  | ifThen _ _ => true
  | ifThenElse _ consequence alternative => decided consequence && decided alternative

def someDecided : List Criterion → Bool
  | [] => false
  | item :: rest => decided item || someDecided rest

def everyDecided : List Criterion → Bool
  | [] => true
  | item :: rest => decided item && everyDecided rest

end

theorem someDecided_eq_any (items : List Criterion) : someDecided items = items.any decided := by
  induction items with
  | nil => rfl
  | cons item rest ih => rw [someDecided, List.any_cons, ih]

theorem everyDecided_eq_all (items : List Criterion) : everyDecided items = items.all decided := by
  induction items with
  | nil => rfl
  | cons item rest ih => rw [everyDecided, List.all_cons, ih]

theorem indifferent_of_decisionOf (directory : Path) (every : Bool) (items : List Criterion)
    (silent : decisionOf directory every .indifferent items = .indifferent) :
    ∀ item ∈ items, item.decision directory = .indifferent := by
  rw [decisionOf_eq_foldl] at silent
  intro item member
  exact (Decision.fold_indifferent every _ _ silent).2 _ (List.mem_map_of_mem member)

theorem decided_not_indifferent (criterion : Criterion) (decides : criterion.decided = true)
    (directory : Path) : criterion.decision directory ≠ .indifferent := by
  induction criterion using induction_on with
  | step node ih =>
  intro silent
  cases node with
  | leaf test =>
      cases test with
      | wildcard pattern => exact pattern.decision_of_prunes decides directory silent
      | type | size | date | regex | skip | content | digest => cases decides
  | all items | bracket items =>
      rw [decided, someDecided_eq_any] at decides
      obtain ⟨item, member, itemDecides⟩ := List.any_eq_true.mp decides
      exact ih item member itemDecides (indifferent_of_decisionOf directory true items silent item member)
  | any items =>
      rw [decided, everyDecided_eq_all] at decides
      obtain ⟨inhabited, every⟩ := Bool.and_eq_true_iff.mp decides
      cases items with
      | nil => cases inhabited
      | cons item rest =>
          have member : item ∈ item :: rest := List.mem_cons_self
          exact ih item member (List.all_eq_true.mp every item member)
            (indifferent_of_decisionOf directory false _ silent item member)
  | xor left right =>
      obtain ⟨leftDecides, _⟩ := Bool.and_eq_true_iff.mp decides
      exact ih left List.mem_cons_self leftDecides (Decision.combine_indifferent _ _ _ silent).1
  | not inner => cases decides
  | ifThen condition consequence =>
      rw [decision] at silent
      split at silent
      · cases silent
      · cases (Decision.combine_indifferent _ _ _ silent).2
  | ifThenElse condition consequence alternative =>
      obtain ⟨_, otherwise⟩ := Bool.and_eq_true_iff.mp decides
      have last : alternative.decision directory = .indifferent := by
        rw [decision] at silent
        split at silent
        · exact silent
        · exact (Decision.combine_indifferent _ _ _ silent).2
      exact ih alternative (List.mem_cons_of_mem _ (List.mem_cons_of_mem _ List.mem_cons_self)) otherwise last

theorem not_prune_of_decisionOf (directory : Path) (every : Bool) (items : List Criterion)
    (apart : ∀ item ∈ items, item.decision directory ≠ .prune) :
    decisionOf directory every .indifferent items ≠ .prune := by
  rw [decisionOf_eq_foldl]
  intro pruned
  rcases Decision.fold_prune every _ _ pruned with absurdity | member
  · cases absurdity
  · obtain ⟨item, member, prunes⟩ := List.mem_map.mp member
    exact apart item member prunes

theorem not_prune_of_leaves (criterion : Criterion) (directory : Path)
    (apart : ∀ test ∈ criterion.leaves, test.decision directory ≠ .prune) :
    criterion.decision directory ≠ .prune := by
  induction criterion using induction_on with
  | step node ih =>
  replace ih : ∀ child ∈ node.children, child.decision directory ≠ .prune := by
    intro child member
    exact ih child member fun test below => apart test (mem_leaves_of_child member below)
  intro pruned
  cases node with
  | leaf test => exact apart test (List.mem_singleton_self test) pruned
  | all items | bracket items => exact not_prune_of_decisionOf directory true items ih pruned
  | any items => exact not_prune_of_decisionOf directory false items ih pruned
  | xor left right =>
      rcases Decision.combine_prune _ _ _ pruned with onLeft | onRight
      · exact ih left List.mem_cons_self onLeft
      · exact ih right (List.mem_cons_of_mem _ List.mem_cons_self) onRight
  | not inner => exact Decision.negate_not_prune _ pruned
  | ifThen condition consequence => exact ifThen_not_prune condition consequence directory pruned
  | ifThenElse condition consequence alternative =>
      rw [decision] at pruned
      have whenTrue := ih consequence (List.mem_cons_of_mem _ List.mem_cons_self)
      have whenFalse := ih alternative (List.mem_cons_of_mem _ (List.mem_cons_of_mem _ List.mem_cons_self))
      split at pruned
      · exact whenFalse pruned
      · rcases Decision.combine_prune _ _ _ pruned with taken | otherwise
        · exact whenTrue taken
        · exact whenFalse otherwise

theorem free_not_prune (criterion : Criterion)
    (free : ∀ test ∈ criterion.leaves, test.confines = false) (directory : Path) :
    criterion.decision directory ≠ .prune := by
  apply criterion.not_prune_of_leaves
  intro test member pruned
  cases (test.decision_of_not_confines (free test member) directory).symm.trans pruned

theorem exists_prune_weighed (directory : Path) (node choice : Criterion)
    (member : choice ∈ node.weighed directory) (pruned : node.decision directory = .prune) :
    ∃ option ∈ node.weighed directory, option.decision directory = .prune := by
  cases node with
  | leaf | all | bracket | not | ifThen => cases member
  | any items =>
      rw [decision, decisionOf_eq_foldl] at pruned
      rcases Decision.fold_prune false _ _ pruned with absurdity | found
      · cases absurdity
      · exact List.mem_map.mp found
  | xor left right =>
      rcases Decision.combine_prune _ _ _ pruned with onLeft | onRight
      · exact ⟨left, List.mem_cons_self, onLeft⟩
      · exact ⟨right, List.mem_cons_of_mem _ List.mem_cons_self, onRight⟩
  | ifThenElse condition consequence alternative =>
      rw [weighed] at member ⊢
      split at member
      · cases member
      · rename_i undecided
        rw [if_neg undecided]
        have joined := (decision_ifThenElse _ _ _ directory undecided).symm.trans pruned
        rcases Decision.combine_prune _ _ _ joined with taken | otherwise
        · exact ⟨consequence, List.mem_cons_self, taken⟩
        · exact ⟨alternative, List.mem_cons_of_mem _ List.mem_cons_self, otherwise⟩

/-- At every node all the alternatives are decided, or none of them has a rooted pattern or a skip rule. -/
def Uniform (criterion : Criterion) : Prop :=
  ∀ node ∈ criterion.parts,
    (∀ choice ∈ node.alternatives, choice.decided = true) ∨
      ∀ choice ∈ node.alternatives, ∀ test ∈ choice.leaves, test.confines = false

instance (criterion : Criterion) : Decidable criterion.Uniform :=
  inferInstanceAs (Decidable (∀ node ∈ criterion.parts, _ ∨ _))

theorem Uniform.not_overruled {criterion : Criterion} (uniform : criterion.Uniform)
    (directory : Path) (file : File) : ¬ criterion.Overruled directory file := by
  rintro ⟨node, inside, pruned, _, choice, member, silent, _⟩
  rcases uniform node inside with decides | free
  · have definite := decides choice (node.weighed_subset directory member)
    exact choice.decided_not_indifferent definite directory silent
  · obtain ⟨option, weighed, prunes⟩ := exists_prune_weighed directory node choice member pruned
    exact option.free_not_prune (free option (node.weighed_subset directory weighed)) directory prunes

/-- Pruning can be trusted where alternatives are uniform, whatever the leaves test. -/
theorem uniform_prune_sound (criterion : Criterion)
    (read : ∀ test ∈ criterion.leaves, test.IsRead) (uniform : criterion.Uniform)
    (directory : Path) (absolute : directory.isAbsolute = true)
    (pruned : criterion.decision directory = .prune) (file : File)
    (inside : file.path.Inside directory) : criterion.evaluate file = false := by
  apply Bool.eq_false_iff.mpr
  intro holds
  have overruled := overruled_of_prune criterion file directory read inside (.inl absolute) holds pruned
  exact uniform.not_overruled directory file overruled

theorem uniform_prune_sound_home :
    (any [all [leaf (.wildcard (.ofText "/data/logs/*" ⟨[]⟩)), leaf (.type .hidden)],
      ifThenElse (leaf (.type .directory)) (leaf (.wildcard (.ofText "/srv/*" ⟨[]⟩)))
        (bracket [leaf (.size .greater 10), leaf (.wildcard (.ofText "/data/*" ⟨[]⟩))])]).evaluate
          (.absent (.ofString "/home/a.txt")) = false := by
  refine uniform_prune_sound _ ?_ (by decide) (.ofString "/home") (by decide) (by decide) _
    ⟨Utf8.encode "a.txt".toList, by decide, by decide⟩
  intro test member
  simp only [leaves_eq, leaf?, children, List.flatMap_cons, List.flatMap_nil, List.append_nil,
    Option.toList, List.nil_append, List.cons_append, List.mem_cons, List.not_mem_nil, or_false] at member
  rcases member with rfl | rfl | rfl | rfl | rfl | rfl
  · exact PathPattern.ofText_isRead _ _
  · trivial
  · trivial
  · exact PathPattern.ofText_isRead _ _
  · trivial
  · exact PathPattern.ofText_isRead _ _

end Criterion
end FileSieve
