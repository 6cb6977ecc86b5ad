import Mathlib.Data.List.Pairwise
import FileSieve.Output.Match
import FileSieve.Proofs.Ordering
import FileSieve.Proofs.Path.Order

namespace FileSieve

open Std (TransCmp OrientedCmp)

instance : TransCmp Instant.compare := by
  have bySeconds : TransCmp fun a b : Instant => Ord.compare a.seconds b.seconds :=
    transCmp_on Ord.compare Instant.seconds
  have byNanos : TransCmp fun a b : Instant => Ord.compare a.nanos b.nanos :=
    transCmp_on Ord.compare Instant.nanos
  exact inferInstanceAs (TransCmp (compareLex _ _))

instance : TransCmp compareTimes where
  eq_swap {a b} := by
    cases a <;> cases b
    case some.some => exact @OrientedCmp.eq_swap _ Instant.compare _ _ _
    all_goals rfl
  isLE_trans {a b c} before behind := by
    cases a <;> cases b <;> cases c
    case some.some.some => exact @TransCmp.isLE_trans _ Instant.compare _ _ _ _ before behind
    all_goals first | rfl | contradiction

inductive TimeBefore : Option Instant → Option Instant → Prop
  | absent (time : Instant) : TimeBefore none (some time)
  | seconds {a b : Instant} (before : a.seconds < b.seconds) : TimeBefore (some a) (some b)
  | nanos {a b : Instant} (same : a.seconds = b.seconds) (before : a.nanos < b.nanos) : TimeBefore (some a) (some b)

theorem Instant.compare_eq_lt_iff (a b : Instant) :
    a.compare b = .lt ↔ a.seconds < b.seconds ∨ a.seconds = b.seconds ∧ a.nanos < b.nanos := by
  rw [compare, Ordering.then_eq_lt, Std.compare_eq_lt, Std.compare_eq_iff_eq, Std.compare_eq_lt]

theorem Instant.compare_eq_eq_iff (a b : Instant) : a.compare b = .eq ↔ a = b := by
  rw [compare, Ordering.then_eq_eq, Std.compare_eq_iff_eq, Std.compare_eq_iff_eq, Instant.mk.injEq]

theorem compareTimes_eq_lt_iff (a b : Option Instant) : compareTimes a b = .lt ↔ TimeBefore a b := by
  cases a <;> cases b
  case some.some a b =>
    refine (a.compare_eq_lt_iff b).trans ⟨?_, ?_⟩
    · rintro (before | ⟨same, before⟩)
      · exact .seconds before
      · exact .nanos same before
    · rintro (_ | before | ⟨same, before⟩)
      · exact .inl before
      · exact .inr ⟨same, before⟩
  case none.some time => exact iff_of_true rfl (.absent time)
  all_goals exact iff_of_false nofun nofun

theorem compareTimes_eq_eq_iff (a b : Option Instant) : compareTimes a b = .eq ↔ a = b := by
  cases a <;> cases b
  case some.some a b => exact (a.compare_eq_eq_iff b).trans (Option.some_inj).symm
  case none.none => exact iff_of_true rfl rfl
  all_goals exact iff_of_false nofun nofun

namespace SortKey

def Precedes (a b : Match) : SortKey → Prop
  | name => a.nameKey < b.nameKey
  | path => a.pathKey < b.pathKey
  | size => a.size < b.size
  | modified => TimeBefore a.modified b.modified
  | created => TimeBefore a.created b.created
  | accessed => TimeBefore a.accessed b.accessed

def Ties (a b : Match) : SortKey → Prop
  | name => a.nameKey = b.nameKey
  | path => a.pathKey = b.pathKey
  | size => a.size = b.size
  | modified => a.modified = b.modified
  | created => a.created = b.created
  | accessed => a.accessed = b.accessed

theorem compare_eq_lt_iff (key : SortKey) (a b : Match) : key.compare a b = .lt ↔ key.Precedes a b := by
  cases key with
  | name | path => exact compareText_eq_lt_iff _ _
  | size => exact Std.compare_eq_lt
  | modified | created | accessed => exact compareTimes_eq_lt_iff _ _

theorem compare_eq_eq_iff (key : SortKey) (a b : Match) : key.compare a b = .eq ↔ key.Ties a b := by
  cases key with
  | name | path => exact compareText_eq_eq_iff _ _
  | size => exact Std.compare_eq_iff_eq
  | modified | created | accessed => exact compareTimes_eq_eq_iff _ _

end SortKey

theorem SortKey.transCmp (key : SortKey) : TransCmp fun a b => key.compare a b := by
  cases key with
  | name => exact transCmp_on compareText Match.nameKey
  | path => exact transCmp_on compareText Match.pathKey
  | size => exact transCmp_on Ord.compare Match.size
  | modified => exact transCmp_on compareTimes Match.modified
  | created => exact transCmp_on compareTimes Match.created
  | accessed => exact transCmp_on compareTimes Match.accessed

namespace SortOrder

def ascending (order : SortOrder) : Match → Match → Ordering :=
  compareLex (fun a b => order.key.compare a b) fun a b => a.path.compare b.path

theorem compare_eq_ascending (order : SortOrder) (a b : Match) :
    order.compare a b = if order.descending then (order.ascending a b).swap else order.ascending a b :=
  rfl

instance (order : SortOrder) : TransCmp order.ascending := by
  have byKey := order.key.transCmp
  have byPath : TransCmp fun a b : Match => a.path.compare b.path := transCmp_on Path.compare Match.path
  exact inferInstanceAs (TransCmp (compareLex _ _))

theorem compare_of_descending (order : SortOrder) (descends : order.descending = true) :
    order.compare = fun a b => order.ascending b a := by
  funext a b
  rw [compare_eq_ascending, if_pos descends]
  exact OrientedCmp.eq_swap.symm

instance (order : SortOrder) : TransCmp order.compare := by
  by_cases descends : order.descending = true
  · rw [compare_of_descending order descends]
    exact TransCmp.opposite
  · have kept : order.compare = order.ascending := by
      funext a b
      rw [compare_eq_ascending, if_neg descends]
    rw [kept]
    infer_instance

theorem components_of_compare (order : SortOrder) (a b : Match) (same : order.compare a b = .eq) :
    a.path.components = b.path.components := by
  have keyThenPath : order.ascending a b = .eq := by
    rw [compare_eq_ascending] at same
    split at same
    · exact Ordering.swap_eq_eq.mp same
    · exact same
  apply (Path.compare_eq_iff _ _).mp
  exact (Ordering.then_eq_eq.mp keyThenPath).2

theorem ascending_eq_lt_iff (order : SortOrder) (a b : Match) :
    order.ascending a b = .lt ↔
      order.key.Precedes a b ∨ order.key.Ties a b ∧ a.path.compare b.path = .lt := by
  rw [ascending, compareLex, Ordering.then_eq_lt, SortKey.compare_eq_lt_iff, SortKey.compare_eq_eq_iff]

end SortOrder

namespace Match

/-- The path of one match is not that of the other, however they are spelled. -/
def Elsewhere (a b : Match) : Prop := a.path.same b.path = false

instance : DecidableRel Elsewhere := fun _ _ => inferInstanceAs (Decidable (_ = false))

instance : Std.Symm Elsewhere where
  symm a b apart := by
    apply Bool.eq_false_iff.mpr
    intro same
    have turned := (Path.same_iff _ _).mpr ((Path.same_iff _ _).mp same).symm
    exact Bool.eq_false_iff.mp apart turned

theorem Elsewhere.not_tied {a b : Match} (apart : a.Elsewhere b) (order : SortOrder) :
    order.compare a b ≠ .eq := by
  intro tied
  have same := (Path.same_iff _ _).mpr (order.components_of_compare a b tied)
  exact Bool.eq_false_iff.mp apart same

end Match

namespace SortOrder

/-- Sorting matches of different paths by a key has one result, whatever order they come in: all of them, by the key
and then by the path. A descending order is that result backwards. -/
theorem sort_canonical (key : SortKey) (found : List Match) (different : found.Pairwise Match.Elsewhere) :
    (∀ descending, ∀ shuffled, shuffled.Perm found →
        sort ⟨key, descending⟩ shuffled = sort ⟨key, descending⟩ found) ∧
      (sort ⟨key, false⟩ found).Perm found ∧
      (sort ⟨key, false⟩ found).Pairwise
        (fun a b => key.Precedes a b ∨ key.Ties a b ∧ a.path.compare b.path = .lt) ∧
      sort ⟨key, true⟩ found = (sort ⟨key, false⟩ found).reverse := by
  have told (order : SortOrder) : ∀ a ∈ found, ∀ b ∈ found, order.compare a b = .eq → a = b := by
    intro a ofFirst b ofSecond tied
    by_contra unequal
    exact (different.forall ofFirst ofSecond unequal).not_tied order tied
  have perm : (sort ⟨key, false⟩ found).Perm found := List.mergeSort_perm found _
  refine ⟨?steady, perm, ?ordered, ?backwards⟩
  case steady =>
    intro descending shuffled shuffling
    exact (mergeSort_eq_of_perm (compare ⟨key, descending⟩) shuffling.symm (told _)).symm
  case ordered =>
    have sorted := pairwise_mergeSort (compare ⟨key, false⟩) found
    have apart := (perm.pairwise_iff fun apart => Std.Symm.symm _ _ apart).mpr different
    apply (sorted.and apart).imp
    rintro a b ⟨before, apart⟩
    apply (ascending_eq_lt_iff ⟨key, false⟩ a b).mp
    exact (Ordering.isLE_iff_eq_lt_or_eq_eq.mp before).resolve_right (apart.not_tied ⟨key, false⟩)
  case backwards =>
    have turned := compare_of_descending ⟨key, true⟩ rfl
    rw [sort, turned]
    exact mergeSort_opposite (compare ⟨key, false⟩) found (told _)

def timed (path : String) (modified : Option Instant) : Match :=
  { path := .ofString path, size := 0, modified, created := none, accessed := none, line := [] }

theorem sort_canonical_modified :
    let absent := timed "/c" none
    let first := timed "/a" (some ⟨5, 0⟩)
    let second := timed "/b" (some ⟨5, 0⟩)
    [absent, first, second].Pairwise Match.Elsewhere ∧
      sort ⟨.modified, false⟩ [second, absent, first] = [absent, first, second] ∧
        sort ⟨.modified, true⟩ [second, absent, first] = [second, first, absent] := by
  intro absent first second
  have different : [absent, first, second].Pairwise Match.Elsewhere := by decide
  have sorted : sort ⟨.modified, false⟩ [absent, first, second] = [absent, first, second] :=
    List.mergeSort_of_pairwise (by decide)
  have shuffling : [second, absent, first].Perm [absent, first, second] := by decide
  obtain ⟨steady, _, _, backwards⟩ := sort_canonical .modified [absent, first, second] different
  refine ⟨different, (steady false _ shuffling).trans sorted, ?_⟩
  rw [steady true _ shuffling, backwards, sorted]
  rfl

end SortOrder

end FileSieve
