import Mathlib.Data.List.Chain
import FileSieve.Proofs.Query.Phrase

namespace FileSieve

namespace Token

def isIf : Token → Bool
  | keyword kind _ => kind == .ifWord
  | _ => false

@[simp] theorem isIf_keyword (kind : Keyword) (word : String) :
    (keyword kind word).isIf = (kind == .ifWord) := rfl

@[simp] theorem isIf_pattern (text : String) : (pattern text).isIf = false := rfl

@[simp] theorem isIf_modifier (lexeme : String) (payload : Option String) :
    (modifier lexeme payload).isIf = false := rfl

def takesAtoms : Token → Bool
  | keyword .not _ | keyword .ifWord _ => true
  | _ => false

/-- Modifiers that are refused, set options or ask for loadlines add no criteria. -/
def Emits (now : Instant) (base : Path) : Token → Prop
  | modifier lexeme payload => (modifier lexeme payload).criteria now base ≠ []
  | _ => True

theorem Emits.asksLoadline {now : Instant} {base : Path} {token : Token}
    (emits : token.Emits now base) : token.asksLoadline = false := by
  cases token with
  | modifier lexeme payload => exact Modifier.asksLoadline_of_criteria emits
  | keyword | pattern | finish => rfl

end Token

@[simp] theorem Operator.keyword_not_if (operator : Operator) : (operator.keyword == .ifWord) = false := by
  cases operator <;> rfl

theorem Criterion.mem_parts_group {part item : Criterion} {items : List Criterion} (member : item ∈ items)
    (inside : part ∈ item.parts) : part ∈ (group items).parts := by
  match items with
  | [only] =>
      cases List.mem_singleton.mp member
      exact inside
  | first :: second :: rest => exact mem_parts_of_child member inside

namespace Phrase

section

variable (begins : Token → Prop)

def TestsBegin : {rank : Rank} → Phrase rank → Prop
  | _, pattern _ | _, modifier _ _ => True
  | _, not _ operand => operand.TestsBegin
  | _, braces _ inner _ => inner.TestsBegin
  | _, ifThen _ test whenTrue =>
    (∀ token ∈ test.tokens.head?, begins token) ∧ test.TestsBegin ∧ whenTrue.TestsBegin
  | _, ifThenElse _ test whenTrue _ whenFalse =>
    (∀ token ∈ test.tokens.head?, begins token) ∧ test.TestsBegin ∧ whenTrue.TestsBegin ∧
      whenFalse.TestsBegin
  | _, bare atom => atom.TestsBegin
  | _, configured _ _ test => test.TestsBegin
  | _, single atom => atom.TestsBegin
  | _, append before last => before.TestsBegin ∧ last.TestsBegin
  | _, lone _ operand => operand.TestsBegin
  | _, joined _ left _ right => left.TestsBegin ∧ right.TestsBegin

def Follows (first second : Token) : Prop := first.isIf = true → begins second

end

variable {rank : Rank} {now : Instant} {base : Path}

theorem tokens_ne_nil (phrase : Phrase rank) : phrase.tokens ≠ [] := by
  induction phrase with
  | bare atom ih | single atom ih | lone operator atom ih => exact ih
  | append before last ih _ => exact List.append_ne_nil_of_left_ne_nil ih _
  | joined => exact List.append_ne_nil_of_right_ne_nil _ nofun
  | pattern | modifier | not | braces | ifThen | ifThenElse | configured => exact nofun

@[simp] theorem head?_tokens_append (phrase : Phrase rank) (rest : List Token) :
    (phrase.tokens ++ rest).head? = phrase.tokens.head? :=
  List.head?_append_of_ne_nil _ phrase.tokens_ne_nil

theorem isChain_append_iff (begins : Token → Prop) (phrase : Phrase rank) (rest : List Token) :
    (phrase.tokens ++ rest).IsChain (Follows begins) ↔
      phrase.TestsBegin begins ∧ rest.IsChain (Follows begins) := by
  induction phrase generalizing rest with
  | pattern text | modifier lexeme payload => simp [tokens, TestsBegin, Follows, List.isChain_cons]
  | not word operand ih => simp [tokens, TestsBegin, Follows, List.isChain_cons, ih]
  | braces opening inner closing ih => simp [tokens, TestsBegin, Follows, List.isChain_cons, ih]
  | ifThen word test whenTrue first second =>
      simp [tokens, TestsBegin, Follows, List.isChain_cons, first, second, and_assoc, -List.head?_append]
  | ifThenElse word test whenTrue otherwise whenFalse first second third =>
      simp [tokens, TestsBegin, Follows, List.isChain_cons, first, second, third, and_assoc, -List.head?_append]
  | bare atom ih | single atom ih | lone operator atom ih => exact ih rest
  | configured lexeme payload test ih => simp [tokens, TestsBegin, Follows, List.isChain_cons, ih]
  | append before last first second => simp [tokens, TestsBegin, first, second, and_assoc]
  | joined operator left word right first second =>
      simp [tokens, TestsBegin, Follows, List.isChain_cons, first, second, and_assoc]

theorem isChain_iff (begins : Token → Prop) (phrase : Phrase rank) :
    phrase.tokens.IsChain (Follows begins) ↔ phrase.TestsBegin begins := by
  have whole := isChain_append_iff begins phrase []
  rwa [List.append_nil, and_iff_left .nil] at whole

theorem takesAtoms_head (atom : Phrase .atom) (token : Token) (first : token ∈ atom.tokens.head?) :
    token.takesAtoms = atom.takesMore := by
  cases atom <;> cases first <;> rfl

theorem head_of_greedy (test : Phrase .condition) (greedy : test.Greedy) :
    ∀ token ∈ test.tokens.head?, token.takesAtoms = false := by
  intro token first
  cases test with
  | bare atom => rw [takesAtoms_head atom token first, greedy.1]
  | configured lexeme payload test =>
      cases first
      rfl

theorem begins_of_greedy (phrase : Phrase rank) (greedy : phrase.Greedy) :
    phrase.TestsBegin (·.takesAtoms = false) := by
  induction phrase with
  | pattern | modifier => trivial
  | not word operand ih => exact ih greedy
  | braces opening inner closing ih => exact ih greedy
  | ifThen word test whenTrue condition consequence =>
      exact ⟨head_of_greedy test greedy.1, condition greedy.1, consequence greedy.2⟩
  | ifThenElse word test whenTrue otherwise whenFalse condition consequence alternative =>
      exact ⟨head_of_greedy test greedy.1, condition greedy.1, consequence greedy.2.1.2, alternative greedy.2.2⟩
  | bare atom ih => exact ih greedy.2
  | configured lexeme payload test ih => exact ih greedy
  | single atom ih => exact ih greedy
  | append before last first second => exact ⟨first greedy.1.2, second greedy.2⟩
  | lone operator operand ih => exact ih greedy
  | joined operator left word right first second => exact ⟨first greedy.1, second greedy.2⟩

theorem documented_of_begins (phrase : Phrase rank) (valid : phrase.Valid now base)
    (begins : phrase.TestsBegin (·.Emits now base))
    (first : rank = .condition → ∀ token ∈ phrase.tokens.head?, token.Emits now base) :
    phrase.Documented := by
  induction phrase with
  | pattern | modifier => trivial
  | not word operand ih => exact ih valid.2 begins nofun
  | braces opening inner closing ih => exact ih valid begins nofun
  | ifThen word test whenTrue condition consequence =>
      exact ⟨condition valid.1.2 begins.2.1 fun _ => begins.1, consequence valid.2.2 begins.2.2 nofun⟩
  | ifThenElse word test whenTrue otherwise whenFalse condition consequence alternative =>
      exact ⟨condition valid.1.2 begins.2.1 fun _ => begins.1,
        consequence valid.2.1.2 begins.2.2.1 nofun, alternative valid.2.2.2 begins.2.2.2 nofun⟩
  | bare atom ih => exact ih valid begins nofun
  | configured lexeme payload test ih => exact absurd valid.1.1 (first rfl _ rfl)
  | single atom ih => exact ih valid begins nofun
  | append before last front back =>
      exact ⟨front valid.1 begins.1 nofun, back valid.2 begins.2 nofun⟩
  | lone operator operand ih =>
      exact ih valid.2 begins fun condition => by cases operator <;> cases condition
  | joined operator left word right front back =>
      refine ⟨front valid.1 begins.1 nofun, back valid.2.2 begins.2 fun condition => ?_⟩
      cases operator <;> cases condition

theorem filled_of_child (items : List Criterion) {whole : Criterion}
    (child : .group items ∈ whole.children) (filled : .bracket [] ∉ whole.parts) :
    items ≠ [] ∧ ∀ item ∈ items, .bracket [] ∉ item.parts := by
  have kept (part : Criterion) (inside : part ∈ (Criterion.group items).parts) : part ∈ whole.parts :=
    Criterion.mem_parts_of_child child inside
  constructor
  · rintro rfl
    exact filled (kept _ (Criterion.mem_parts_self _))
  · intro item member inside
    exact filled (kept _ (Criterion.mem_parts_group member inside))

theorem begins_of_filled (phrase : Phrase rank) (documented : phrase.Documented)
    (filled : ∀ item ∈ phrase.criteria now base, .bracket [] ∉ item.parts) :
    phrase.TestsBegin (·.Emits now base) := by
  have head (test : Phrase .condition) (bare : test.Documented) (inhabited : test.criteria now base ≠ []) :
      ∀ token ∈ test.tokens.head?, token.Emits now base := by
    intro token first
    cases test with
    | configured => cases bare
    | bare atom =>
        -- Only a modifier can yield no criteria, and its group would be the empty one.
        cases atom <;> cases first
        · trivial
        · exact inhabited
        all_goals trivial
  induction phrase with
  | pattern | modifier => trivial
  | not word operand ih =>
      have whole := filled _ (List.mem_singleton_self _)
      exact ih documented (filled_of_child _ (List.mem_singleton_self _) whole).2
  | braces opening inner closing ih => exact ih documented filled
  | ifThen word test whenTrue condition consequence =>
      have whole := filled _ (List.mem_singleton_self _)
      have asked := filled_of_child (test.criteria now base) (by simp [Criterion.children]) whole
      have taken := filled_of_child (whenTrue.criteria now base) (by simp [Criterion.children]) whole
      exact ⟨head test documented.1 asked.1, condition documented.1 asked.2,
        consequence documented.2 taken.2⟩
  | ifThenElse word test whenTrue otherwise whenFalse condition consequence alternative =>
      have whole := filled _ (List.mem_singleton_self _)
      have asked := filled_of_child (test.criteria now base) (by simp [Criterion.children]) whole
      have taken := filled_of_child (whenTrue.criteria now base) (by simp [Criterion.children]) whole
      have left := filled_of_child (whenFalse.criteria now base) (by simp [Criterion.children]) whole
      exact ⟨head test documented.1 asked.1, condition documented.1 asked.2,
        consequence documented.2.1 taken.2, alternative documented.2.2 left.2⟩
  | bare atom ih => exact ih documented filled
  | configured => cases documented
  | single atom ih => exact ih documented filled
  | append before last front back =>
      refine ⟨front documented.1 ?_, back documented.2 ?_⟩
      · exact fun item member => filled item (List.mem_append_left _ member)
      · exact fun item member => filled item (List.mem_append_right _ member)
  | lone operator operand ih =>
      have whole := filled _ (List.mem_singleton_self _)
      exact ih documented fun item member inside => whole (Criterion.mem_parts_group member inside)
  | joined operator left word right front back =>
      have whole := filled _ (List.mem_singleton_self _)
      have newest := filled_of_child (right.criteria now base)
        (by cases operator <;> simp [Operator.combine, Criterion.children]) whole
      have older := filled_of_child (left.criteria now base)
        (by cases operator <;> simp [Operator.combine, Criterion.children]) whole
      exact ⟨front documented.1 older.2, back documented.2 newest.2⟩

end Phrase
end FileSieve
