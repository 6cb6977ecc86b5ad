import FileSieve.Proofs.Query.Emission
import FileSieve.Proofs.Query.Trees

/-! The grammar of criteria expressions, as the derivations that it allows.

    Expression := AndExpr
    AndExpr    := OrExpr (AND OrExpr)*
    OrExpr     := XorExpr (OR XorExpr)*
    XorExpr    := AtomSeq (XOR AtomSeq)*
    AtomSeq    := Atom+
    Atom       := NOT AtomSeq | '{' Expression '}' | IF Condition AtomSeq (ELSE AtomSeq)?
                | Pattern | Modifier
    Condition  := Modifier* Atom

A derivation is spelled with tokens and stands for a tree. Sequences are ambiguous; the greedy derivation is
the one in which negations and conditions take all the atoms that follow. -/

namespace FileSieve

inductive Operator where
  | xor
  | or
  | and
  deriving DecidableEq, Repr

inductive Rank where
  | atom
  | condition
  | sequence
  | operation (operator : Operator)
  deriving DecidableEq, Repr

namespace Operator

def keyword : Operator → Keyword
  | xor => .xor
  | or => .or
  | and => .and

def combine (right left : Criterion) : Operator → Criterion
  | xor => .xor right left
  | or => .any [right, left]
  | and => .all [right, left]

def operand : Operator → Rank
  | xor => .sequence
  | or => .operation .xor
  | and => .operation .or

end Operator

/-- Derivations. Words are in any letter case, hence kept as they are spelled. -/
inductive Phrase : Rank → Type where
  | pattern (text : String) : Phrase .atom
  | modifier (lexeme : String) (payload : Option String) : Phrase .atom
  | not (word : String) (operand : Phrase .sequence) : Phrase .atom
  | braces (opening : String) (inner : Phrase (.operation .and)) (closing : String) : Phrase .atom
  | ifThen (word : String) (test : Phrase .condition) (whenTrue : Phrase .sequence) : Phrase .atom
  | ifThenElse (word : String) (test : Phrase .condition) (whenTrue : Phrase .sequence)
      (otherwise : String) (whenFalse : Phrase .sequence) : Phrase .atom
  | bare (atom : Phrase .atom) : Phrase .condition
  | configured (lexeme : String) (payload : Option String) (test : Phrase .condition) :
      Phrase .condition
  | single (atom : Phrase .atom) : Phrase .sequence
  | append (before : Phrase .sequence) (last : Phrase .atom) : Phrase .sequence
  | lone (operator : Operator) (operand : Phrase operator.operand) : Phrase (.operation operator)
  | joined (operator : Operator) (left : Phrase (.operation operator)) (word : String)
      (right : Phrase operator.operand) : Phrase (.operation operator)
  deriving Repr

namespace Criterion

theorem leaves_not (inner : Criterion) : (not inner).leaves = inner.leaves := by
  rw [leaves_eq]
  exact List.append_nil _

theorem leaves_ifThen (test whenTrue : Criterion) :
    (ifThen test whenTrue).leaves = test.leaves ++ whenTrue.leaves := by
  rw [leaves_eq]
  simp [children, leaf?]

theorem leaves_ifThenElse (test whenTrue whenFalse : Criterion) :
    (ifThenElse test whenTrue whenFalse).leaves =
      test.leaves ++ (whenTrue.leaves ++ whenFalse.leaves) := by
  rw [leaves_eq]
  simp [children, leaf?]

theorem leaves_combine (operator : Operator) (right left : Criterion) :
    (operator.combine right left).leaves = right.leaves ++ left.leaves := by
  rw [leaves_eq]
  cases operator <;> simp [Operator.combine, children, leaf?]

end Criterion

namespace Phrase

/-- The tokens that spell a phrase. -/
def tokens : {rank : Rank} → Phrase rank → List Token
  | _, pattern text => [.pattern text]
  | _, modifier lexeme payload => [.modifier lexeme payload]
  | _, not word operand => .keyword .not word :: operand.tokens
  | _, braces opening inner closing =>
    .keyword .openBrace opening :: (inner.tokens ++ [.keyword .closeBrace closing])
  | _, ifThen word test whenTrue => .keyword .ifWord word :: (test.tokens ++ whenTrue.tokens)
  | _, ifThenElse word test whenTrue otherwise whenFalse =>
    .keyword .ifWord word ::
      (test.tokens ++ (whenTrue.tokens ++ .keyword .elseWord otherwise :: whenFalse.tokens))
  | _, bare atom => atom.tokens
  | _, configured lexeme payload test => .modifier lexeme payload :: test.tokens
  | _, single atom => atom.tokens
  | _, append before last => before.tokens ++ last.tokens
  | _, lone _ operand => operand.tokens
  | _, joined operator left word right =>
    left.tokens ++ .keyword operator.keyword word :: right.tokens

section

variable (now : Instant) (base : Path)

/-- The criteria that a phrase yields: one for a phrase with a structure of its own, and for atoms in a row
those of all of them. -/
def criteria : {rank : Rank} → Phrase rank → List Criterion
  | _, pattern text => (Token.pattern text).criteria now base
  | _, modifier lexeme payload => (Token.modifier lexeme payload).criteria now base
  | _, not _ operand => [.not (.group operand.criteria)]
  | _, braces _ inner _ => inner.criteria
  | _, ifThen _ test whenTrue => [.ifThen (.group test.criteria) (.group whenTrue.criteria)]
  | _, ifThenElse _ test whenTrue _ whenFalse =>
    [.ifThenElse (.group test.criteria) (.group whenTrue.criteria) (.group whenFalse.criteria)]
  | _, bare atom => atom.criteria
  | _, configured lexeme payload test =>
    (Token.modifier lexeme payload).criteria now base ++ test.criteria
  | _, single atom => atom.criteria
  | _, append before last => before.criteria ++ last.criteria
  | _, lone _ operand => [.group operand.criteria]
  | _, joined operator left _ right =>
    [operator.combine (.group right.criteria) (.group left.criteria)]

/-- The tree that a phrase stands for: its only criterion, or the group of its criteria. -/
def tree {rank : Rank} (phrase : Phrase rank) : Criterion := .group (phrase.criteria now base)

/-- Modifiers apply, nothing is made of no criteria, and what comes in front of a condition adds none. -/
def Valid : {rank : Rank} → Phrase rank → Prop
  | _, pattern _ => True
  | _, modifier lexeme payload => (Token.modifier lexeme payload).Applies now base
  | _, not _ operand => operand.criteria now base ≠ [] ∧ operand.Valid
  | _, braces _ inner _ => inner.Valid
  | _, ifThen _ test whenTrue =>
    (test.criteria now base ≠ [] ∧ test.Valid) ∧ (whenTrue.criteria now base ≠ [] ∧ whenTrue.Valid)
  | _, ifThenElse _ test whenTrue _ whenFalse =>
    (test.criteria now base ≠ [] ∧ test.Valid) ∧
      (whenTrue.criteria now base ≠ [] ∧ whenTrue.Valid) ∧
      (whenFalse.criteria now base ≠ [] ∧ whenFalse.Valid)
  | _, bare atom => atom.Valid
  | _, configured lexeme payload test =>
    ((Token.modifier lexeme payload).criteria now base = [] ∧
      (Token.modifier lexeme payload).Applies now base) ∧ test.Valid
  | _, single atom => atom.Valid
  | _, append before last => before.Valid ∧ last.Valid
  | _, lone _ operand => operand.criteria now base ≠ [] ∧ operand.Valid
  | _, joined _ left _ right => left.Valid ∧ right.criteria now base ≠ [] ∧ right.Valid

end

def takesMore : {rank : Rank} → Phrase rank → Bool
  | _, not .. | _, ifThen .. | _, ifThenElse .. => true
  | _, single atom => atom.takesMore
  | _, append _ last => last.takesMore
  | _, _ => false

def takesElse : {rank : Rank} → Phrase rank → Bool
  | _, ifThen .. => true
  | _, not _ operand => operand.takesElse
  | _, ifThenElse _ _ _ _ whenFalse => whenFalse.takesElse
  | _, single atom => atom.takesElse
  | _, append _ last => last.takesElse
  | _, _ => false

/-- Negations and conditions take all the atoms that follow, and ELSE belongs to the nearest condition that
can still take it. -/
def Greedy : {rank : Rank} → Phrase rank → Prop
  | _, pattern _ | _, modifier _ _ => True
  | _, not _ operand => operand.Greedy
  | _, braces _ inner _ => inner.Greedy
  | _, ifThen _ test whenTrue => test.Greedy ∧ whenTrue.Greedy
  | _, ifThenElse _ test whenTrue _ whenFalse =>
    test.Greedy ∧ (whenTrue.takesElse = false ∧ whenTrue.Greedy) ∧ whenFalse.Greedy
  | _, bare atom => atom.takesMore = false ∧ atom.Greedy
  | _, configured _ _ test => test.Greedy
  | _, single atom => atom.Greedy
  | _, append before last => (before.takesMore = false ∧ before.Greedy) ∧ last.Greedy
  | _, lone _ operand => operand.Greedy
  | _, joined _ left _ right => left.Greedy ∧ right.Greedy

/-- Conditions are bare atoms. -/
def Documented : {rank : Rank} → Phrase rank → Prop
  | _, pattern _ | _, modifier _ _ => True
  | _, not _ operand => operand.Documented
  | _, braces _ inner _ => inner.Documented
  | _, ifThen _ test whenTrue => test.Documented ∧ whenTrue.Documented
  | _, ifThenElse _ test whenTrue _ whenFalse =>
    test.Documented ∧ whenTrue.Documented ∧ whenFalse.Documented
  | _, bare atom => atom.Documented
  | _, configured .. => False
  | _, single atom => atom.Documented
  | _, append before last => before.Documented ∧ last.Documented
  | _, lone _ operand => operand.Documented
  | _, joined _ left _ right => left.Documented ∧ right.Documented

theorem takesElse_of_not_takesMore {rank : Rank} (phrase : Phrase rank)
    (closed : phrase.takesMore = false) : phrase.takesElse = false := by
  induction phrase with
  | not | ifThen | ifThenElse => cases closed
  | single atom ih => exact ih closed
  | append before last _ ih => exact ih closed
  | pattern | modifier | braces | bare | configured | lone | joined => rfl

theorem criteria_operation (now : Instant) (base : Path) {operator : Operator}
    (phrase : Phrase (.operation operator)) : phrase.criteria now base = [phrase.tree now base] := by
  cases phrase with
  | lone | joined => rfl

theorem leaves_perm (now : Instant) (base : Path) {rank : Rank} (phrase : Phrase rank) :
    ((phrase.criteria now base).flatMap Criterion.leaves).Perm
      ((phrase.tokens.flatMap (Token.criteria now base)).flatMap Criterion.leaves) := by
  induction phrase with
  | pattern text | modifier lexeme payload => simp [criteria, tokens]
  | not word operand ih =>
      simpa [criteria, tokens, Criterion.leaves_not, Criterion.leaves_group, Token.criteria] using ih
  | braces opening inner closing ih => simpa [criteria, tokens, Token.criteria] using ih
  | ifThen word test whenTrue condition consequence =>
      simpa [criteria, tokens, Criterion.leaves_ifThen, Criterion.leaves_group, Token.criteria] using
        condition.append consequence
  | ifThenElse word test whenTrue otherwise whenFalse condition consequence alternative =>
      simpa [criteria, tokens, Criterion.leaves_ifThenElse, Criterion.leaves_group, Token.criteria] using
        condition.append (consequence.append alternative)
  | bare atom ih | single atom ih => exact ih
  | configured lexeme payload test ih => simpa [criteria, tokens] using ih.append_left _
  | append before last first second => simpa [criteria, tokens] using first.append second
  | lone operator operand ih => simpa [criteria, tokens, Criterion.leaves_group] using ih
  | joined operator left word right first second =>
      -- The newest operand comes first in the tree and last in the text.
      have swapped := (second.append first).trans List.perm_append_comm
      simpa [criteria, tokens, Criterion.leaves_combine, Criterion.leaves_group, Token.criteria] using
        swapped

end Phrase

end FileSieve
