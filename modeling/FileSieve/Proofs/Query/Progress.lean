import FileSieve.Proofs.Query.Conditions
import FileSieve.Proofs.Query.Soundness

/-! Which derivations the parser gets through. Words that open a construct and operators each cost a level at most,
so a text with few of them is never too deep. What remains is a condition whose atom takes everything that
follows: nothing is left for its consequence, and the text is refused whatever derivations it has. -/

namespace FileSieve

namespace Token

/-- Whether the token opens a construct or joins operands; each such token costs one level at most. -/
def deepens : Token → Bool
  | keyword .closeBrace _ | keyword .elseWord _ => false
  | keyword _ _ => true
  | _ => false

end Token

namespace Operator

def push : Operator → Chain → Criterion → Chain
  | xor => Chain.pushXor
  | or => Chain.pushAny
  | and => Chain.pushAll

theorem push_depth (operator : Operator) (chain : Chain) (right : Criterion) :
    (operator.push chain right).depth ≤ chain.depth + 1 := by
  cases operator <;>
    simp only [push, Chain.pushXor, Chain.pushAny, Chain.pushAll, Chain.depth, Chain.operators,
      Option.map_some, Option.map_none, Option.getD_some, Option.getD_none] <;>
    omega

end Operator

namespace Opened

def items : Opened → List Criterion
  | whole _ items | braces _ items _ | negation items _ | consequence _ items _
  | alternative _ _ items _ => items
  | condition _ => []

def around : Opened → Option Opened
  | whole _ _ => none
  | braces _ _ outer => some outer
  | negation _ outer | condition outer | consequence _ _ outer | alternative _ _ _ outer => outer.around

/-- No condition inside the innermost braces waits for its test. -/
def Clear : Opened → Prop
  | whole _ _ | braces _ _ _ => True
  | negation _ outer | consequence _ _ outer | alternative _ _ _ outer => outer.Clear
  | condition _ => False

def lacking : Opened → Nat
  | whole _ _ | braces _ _ _ => 0
  | negation _ outer | condition outer | alternative _ _ _ outer => outer.lacking
  | consequence _ _ outer => outer.lacking + 1

def enclose (chain : Chain) : Option Opened → Opened
  | none => whole chain []
  | some outer => braces chain [] outer

theorem enclose_clear (chain : Chain) (outer : Option Opened) : (enclose chain outer).Clear := by
  cases outer <;> trivial

theorem enclose_around (chain : Chain) (outer : Option Opened) : (enclose chain outer).around = outer := by
  cases outer <;> rfl

theorem enclose_depth {chain next : Chain} (outer : Option Opened) (deeper : next.depth ≤ chain.depth + 1) :
    (enclose next outer).depth ≤ (enclose chain outer).depth + 1 := by
  cases outer with
  | none => exact deeper
  | some rest => exact Nat.add_le_add_left deeper (rest.depth + 1)

theorem operator_eq (push : Chain → Criterion → Chain) {opened : Opened} {chain : Chain}
    {right : Criterion} {outer : Option Opened} (settled : opened.settle [] = .ok (chain, right, outer)) :
    operator push opened = (enclose (push chain right) outer).bounded := by
  rw [operator, settled]
  cases outer <;> rfl

theorem keyword_operator (opened : Opened) (spelling : String) (operator : Operator) :
    opened.keyword spelling operator.keyword = opened.operator operator.push := by
  cases operator <;> rfl

theorem sequence_inhabited {items : List Criterion} (inhabited : items ≠ []) :
    sequence items = .ok (.group items) :=
  if_neg (by simpa using inhabited)

theorem settle_depth (opened : Opened) (added : List Criterion) (chain : Chain) (right : Criterion)
    (outer : Option Opened) (settled : opened.settle added = .ok (chain, right, outer)) :
    (enclose chain outer).depth ≤ opened.depth := by
  induction opened generalizing added with
  | whole kept items | braces kept items rest =>
      obtain ⟨_, _, same⟩ := ok_of_map _ _ _ settled
      cases same
      exact Nat.le_refl _
  | negation items rest ih | consequence test items rest ih | alternative test whenTrue items rest ih =>
      obtain ⟨_, _, settled⟩ := ok_of_bind _ _ _ settled
      exact Nat.le_succ_of_le (ih _ settled)
  | condition rest ih => cases settled

theorem openAlternative_depth (opened : Opened) (spelling : String) (added : List Criterion)
    (next : Opened) (ran : opened.openAlternative spelling added = .ok next) :
    next.depth ≤ opened.depth := by
  induction opened generalizing added with
  | whole chain items | braces chain items rest =>
      obtain ⟨_, _, ran⟩ := ok_of_bind _ _ _ ran
      cases ran
  | negation items rest ih | alternative test whenTrue items rest ih =>
      obtain ⟨_, _, ran⟩ := ok_of_bind _ _ _ ran
      exact Nat.le_succ_of_le (ih _ ran)
  | consequence test items rest ih =>
      obtain ⟨_, _, ran⟩ := ok_of_bind _ _ _ ran
      cases ran
      exact Nat.le_refl _
  | condition rest ih => cases ran

theorem add_depth (opened : Opened) (items : List Criterion) : (opened.add items).depth = opened.depth := by
  cases opened with
  | condition outer =>
      rw [add]
      split <;> rfl
  | whole | braces | negation | consequence | alternative => rfl

theorem settle_clear (opened : Opened) (clear : opened.Clear) (added : List Criterion)
    (inhabited : opened.items ++ added ≠ []) :
    ∃ chain right, opened.settle added = .ok (chain, right, opened.around) := by
  induction opened generalizing added with
  | whole chain items | braces chain items outer =>
      have read : sequence (items ++ added) = .ok _ := sequence_inhabited inhabited
      refine ⟨chain, .group (items ++ added), ?_⟩
      rw [settle, read]
      rfl
  | negation items outer ih =>
      have read : sequence (items ++ added) = .ok _ := sequence_inhabited inhabited
      rw [settle, read]
      exact ih clear [.not (.group (items ++ added))] (List.append_ne_nil_of_right_ne_nil _ nofun)
  | condition outer => exact clear.elim
  | consequence test items outer ih =>
      have read : sequence (items ++ added) = .ok _ := sequence_inhabited inhabited
      rw [settle, read]
      exact ih clear [.ifThen test (.group (items ++ added))] (List.append_ne_nil_of_right_ne_nil _ nofun)
  | alternative test whenTrue items outer ih =>
      have read : sequence (items ++ added) = .ok _ := sequence_inhabited inhabited
      rw [settle, read]
      exact ih clear [.ifThenElse test whenTrue (.group (items ++ added))]
        (List.append_ne_nil_of_right_ne_nil _ nofun)

/-- An ELSE ends the conditions that have their alternative and goes to the first one that lacks it. -/
theorem openAlternative_clear (opened : Opened) (clear : opened.Clear) (spelling : String)
    (added : List Criterion) (inhabited : opened.items ++ added ≠ []) (lacks : 0 < opened.lacking) :
    ∃ next, opened.openAlternative spelling added = .ok next ∧ next.Clear ∧
      next.around = opened.around ∧ next.lacking + 1 = opened.lacking := by
  induction opened generalizing added with
  | whole | braces => cases lacks
  | negation items outer ih =>
      have read : sequence (items ++ added) = .ok _ := sequence_inhabited inhabited
      rw [openAlternative, read]
      exact ih clear [.not (.group (items ++ added))] (List.append_ne_nil_of_right_ne_nil _ nofun) lacks
  | condition outer => exact clear.elim
  | consequence test items outer ih =>
      have read : sequence (items ++ added) = .ok _ := sequence_inhabited inhabited
      rw [openAlternative, read]
      exact ⟨alternative test (.group (items ++ added)) [] outer, rfl, clear, rfl, rfl⟩
  | alternative test whenTrue items outer ih =>
      have read : sequence (items ++ added) = .ok _ := sequence_inhabited inhabited
      rw [openAlternative, read]
      exact ih clear [.ifThenElse test whenTrue (.group (items ++ added))]
        (List.append_ne_nil_of_right_ne_nil _ nofun) lacks

structure Goes (levels : Nat) (opened next : Opened) : Prop where
  clear : next.Clear
  inhabited : next.items ≠ []
  around : next.around = opened.around
  depth : next.depth ≤ opened.depth + levels

/-- After atoms, the conditions that could take an ELSE still can. -/
structure Moves (levels : Nat) (opened next : Opened) : Prop extends Goes levels opened next where
  lacking : opened.lacking ≤ next.lacking

theorem add_moves (levels : Nat) (opened : Opened) (clear : opened.Clear) (items : List Criterion)
    (inhabited : items ≠ []) : Moves levels opened (opened.add items) := by
  cases opened with
  | condition outer => exact clear.elim
  | whole | braces | negation | consequence | alternative =>
      refine ⟨⟨clear, ?_, rfl, Nat.le_add_right _ _⟩, Nat.le_refl _⟩
      exact List.append_ne_nil_of_right_ne_nil _ inhabited

theorem bounded_ok (opened : Opened) (room : opened.depth ≤ maxDepth) : opened.bounded = .ok opened :=
  if_neg (Nat.not_lt.mpr room)

theorem keyword_clear (operator : Operator) (opened : Opened) (clear : opened.Clear)
    (inhabited : opened.items ≠ []) (spelling : String) (room : opened.depth + 1 ≤ maxDepth) :
    ∃ next, opened.keyword spelling operator.keyword = .ok next ∧ next.Clear ∧
      next.around = opened.around ∧ next.depth ≤ opened.depth + 1 := by
  obtain ⟨chain, right, settled⟩ := settle_clear opened clear [] (by simpa using inhabited)
  have shallow := settle_depth opened [] chain right _ settled
  have pushed := enclose_depth opened.around (operator.push_depth chain right)
  refine ⟨enclose (operator.push chain right) opened.around, ?_, enclose_clear _ _, enclose_around _ _, by omega⟩
  rw [keyword_operator, operator_eq _ settled]
  exact bounded_ok _ (by omega)

theorem closeBraces_clear (opened outer : Opened) (clear : opened.Clear) (inhabited : opened.items ≠ [])
    (place : opened.around = some outer) :
    ∃ criterion, opened.closeBraces = .ok (outer.add [criterion]) := by
  obtain ⟨chain, right, settled⟩ := settle_clear opened clear [] (by simpa using inhabited)
  refine ⟨chain.close right, ?_⟩
  rw [closeBraces, settled, place]
  rfl

theorem finish_clear (opened : Opened) (clear : opened.Clear) (inhabited : opened.items ≠ [])
    (place : opened.around = none) : ∃ criterion, opened.finish = .ok criterion := by
  obtain ⟨chain, right, settled⟩ := settle_clear opened clear [] (by simpa using inhabited)
  refine ⟨chain.close right, ?_⟩
  rw [finish, settled, place]
  rfl

end Opened

section

variable (source : LoadlineSource) (now : Instant) (splices : Nat) (options : ScanOptions)

namespace Parser

def Advances (opened : Opened) (tokens : List Token) (next : Opened) : Prop :=
  ∀ rest, read source now splices opened options (tokens ++ rest) =
    read source now splices next options rest

variable {source now splices options}

theorem Advances.append {opened middle next : Opened} {first second : List Token}
    (before : Advances source now splices options opened first middle)
    (after : Advances source now splices options middle second next) :
    Advances source now splices options opened (first ++ second) next := by
  intro rest
  rw [List.append_assoc, before, after]

theorem advances_keyword {opened next : Opened} {spelling : String} {kind : Keyword}
    (ran : opened.keyword spelling kind = .ok next) :
    Advances source now splices options opened [.keyword kind spelling] next := by
  intro rest
  rw [List.singleton_append, read, ran]
  rfl

theorem advances_pattern (opened : Opened) (text : String) :
    Advances source now splices options opened [.pattern text]
      (opened.add ((Token.pattern text).criteria now options.base)) := by
  intro rest
  rw [List.singleton_append, read]
  rfl

theorem advances_modifier (opened : Opened) (lexeme : String) (payload : Option String)
    (emits : (Token.modifier lexeme payload).Emits now options.base) :
    Advances source now splices options opened [.modifier lexeme payload]
      (opened.add ((Token.modifier lexeme payload).criteria now options.base)) := by
  intro rest
  rw [List.singleton_append, read]
  simp only [Modifier.interpret_of_criteria emits]

end Parser

open FileSieve.Parser FileSieve.Opened

namespace Phrase

def levels {rank : Rank} (phrase : Phrase rank) : Nat := phrase.tokens.countP Token.deepens

/-- The parser gets through a phrase wherever no condition waits, and has added its criteria then. A condition waits
for an atom, and only one that takes nothing of what follows can be read there. -/
def Passes : {rank : Rank} → Phrase rank → Prop
  | .atom, atom =>
    (atom.takesMore = false → ∀ opened : Opened, opened.depth + atom.levels ≤ maxDepth →
      ∃ items, items ≠ [] ∧ Advances source now splices options opened atom.tokens (opened.add items)) ∧
    ∀ opened : Opened, opened.Clear → opened.depth + atom.levels ≤ maxDepth →
      ∃ next, Advances source now splices options opened atom.tokens next ∧
        Moves atom.levels opened next
  | .condition, test => (∀ token ∈ test.tokens.head?, token.takesAtoms = false) →
    ∀ opened : Opened, opened.depth + 1 + test.levels ≤ maxDepth →
      ∃ criterion, Advances source now splices options (condition opened) test.tokens
        (consequence criterion [] opened)
  | .sequence, atoms => ∀ opened : Opened, opened.Clear → opened.depth + atoms.levels ≤ maxDepth →
    ∃ next, Advances source now splices options opened atoms.tokens next ∧
      Moves atoms.levels opened next
  | .operation _, operation => ∀ opened : Opened, opened.Clear →
    opened.depth + operation.levels ≤ maxDepth →
      ∃ next, Advances source now splices options opened operation.tokens next ∧
        Goes operation.levels opened next

variable {source now splices options}

theorem passes_closed (atom : Phrase .atom)
    (reads : ∀ opened : Opened, opened.depth + atom.levels ≤ maxDepth →
      ∃ items, items ≠ [] ∧ Advances source now splices options opened atom.tokens (opened.add items)) :
    atom.Passes source now splices options := by
  refine ⟨fun _ => reads, ?_⟩
  intro opened clear room
  obtain ⟨items, inhabited, advances⟩ := reads opened room
  exact ⟨_, advances, add_moves _ opened clear items inhabited⟩

theorem passes_open (atom : Phrase .atom) (takes : atom.takesMore = true)
    (reads : ∀ opened : Opened, opened.Clear → opened.depth + atom.levels ≤ maxDepth →
      ∃ next, Advances source now splices options opened atom.tokens next ∧
        Moves atom.levels opened next) :
    atom.Passes source now splices options := by
  refine ⟨?_, reads⟩
  intro closed
  rw [takes] at closed
  cases closed

theorem passes_operand (operator : Operator) (operand : Phrase operator.operand)
    (passes : operand.Passes source now splices options) (opened : Opened) (clear : opened.Clear)
    (room : opened.depth + operand.levels ≤ maxDepth) :
    ∃ next, Advances source now splices options opened operand.tokens next ∧
      Goes operand.levels opened next := by
  cases operator with
  | xor =>
      obtain ⟨next, advances, moves⟩ := passes opened clear room
      exact ⟨next, advances, moves.toGoes⟩
  | or | and => exact passes opened clear room

theorem passes_braces (opening : String) {inner : Phrase (.operation .and)} (closing : String)
    (passes : inner.Passes source now splices options) :
    (braces opening inner closing).Passes source now splices options := by
  have count : (braces opening inner closing).levels = inner.levels + 1 := by
    simp [levels, tokens, Token.deepens, List.countP_cons, List.countP_append]
  apply passes_closed
  intro opened room
  have deep : (Opened.braces Chain.empty [] opened).depth = opened.depth + 1 := rfl
  have opens : opened.keyword opening .openBrace = .ok (.braces Chain.empty [] opened) :=
    bounded_ok _ (by omega)
  obtain ⟨next, advances, goes⟩ := passes (.braces Chain.empty [] opened) trivial (by omega)
  obtain ⟨criterion, closes⟩ := closeBraces_clear next opened goes.clear goes.inhabited goes.around
  refine ⟨[criterion], List.cons_ne_nil _ _, ?_⟩
  exact (advances_keyword opens).append (advances.append (advances_keyword closes))

theorem passes_not (word : String) {operand : Phrase .sequence} (passes : operand.Passes source now splices options) :
    (not word operand).Passes source now splices options := by
  have count : (not word operand).levels = operand.levels + 1 := by
    simp [levels, tokens, Token.deepens, List.countP_cons]
  apply passes_open _ rfl
  intro opened clear room
  have deep : (negation [] opened).depth = opened.depth + 1 := rfl
  have opens : opened.keyword word .not = .ok (negation [] opened) := bounded_ok _ (by omega)
  obtain ⟨next, advances, moves⟩ := passes (negation [] opened) clear (by omega)
  have depth := moves.depth
  refine ⟨next, (advances_keyword opens).append advances, ?_⟩
  exact ⟨⟨moves.clear, moves.inhabited, moves.around, by omega⟩, moves.lacking⟩

section

variable (word : String) {test : Phrase .condition} {whenTrue whenFalse : Phrase .sequence} {opened : Opened}
variable (condition : test.Passes source now splices options)
variable (ends : ∀ token ∈ test.tokens.head?, token.takesAtoms = false)
variable (consequence : whenTrue.Passes source now splices options)

include condition ends consequence

theorem advances_consequence (clear : opened.Clear)
    (room : opened.depth + 1 + test.levels + whenTrue.levels ≤ maxDepth) :
    ∃ criterion next, Advances source now splices options opened
        (.keyword .ifWord word :: (test.tokens ++ whenTrue.tokens)) next ∧
      Moves whenTrue.levels (.consequence criterion [] opened) next := by
  have deep : (Opened.condition opened).depth = opened.depth + 1 := rfl
  have opens : opened.keyword word .ifWord = .ok (.condition opened) := bounded_ok _ (by omega)
  obtain ⟨criterion, asks⟩ := condition ends opened (by omega)
  have kept : (Opened.consequence criterion [] opened).depth = opened.depth + 1 := rfl
  obtain ⟨next, advances, moves⟩ := consequence (.consequence criterion [] opened) clear (by omega)
  exact ⟨criterion, next, (advances_keyword opens).append (asks.append advances), moves⟩

theorem passes_ifThen : (ifThen word test whenTrue).Passes source now splices options := by
  have count : (ifThen word test whenTrue).levels = test.levels + whenTrue.levels + 1 := by
    simp [levels, tokens, Token.deepens, List.countP_cons, List.countP_append]
  apply passes_open _ rfl
  intro opened clear room
  obtain ⟨criterion, next, advances, moves⟩ :=
    advances_consequence word condition ends consequence clear (by omega)
  have deep : (Opened.consequence criterion [] opened).depth = opened.depth + 1 := rfl
  have depth := moves.depth
  refine ⟨next, advances, ?_⟩
  exact ⟨⟨moves.clear, moves.inhabited, moves.around, by omega⟩, Nat.le_of_succ_le moves.lacking⟩

theorem passes_ifThenElse (otherwise : String) (alternative : whenFalse.Passes source now splices options) :
    (ifThenElse word test whenTrue otherwise whenFalse).Passes source now splices options := by
  have count : (ifThenElse word test whenTrue otherwise whenFalse).levels =
      test.levels + (whenTrue.levels + whenFalse.levels) + 1 := by
    simp [levels, tokens, Token.deepens, List.countP_cons, List.countP_append]
  apply passes_open _ rfl
  intro opened clear room
  obtain ⟨criterion, middle, advances, moves⟩ :=
    advances_consequence word condition ends consequence clear (by omega)
  have deep : (Opened.consequence criterion [] opened).depth = opened.depth + 1 := rfl
  have depth := moves.depth
  -- The condition just read lacks its alternative, or else one inside of it does.
  have lacks : opened.lacking + 1 ≤ middle.lacking := moves.lacking
  obtain ⟨resumed, turns, clear, place, fewer⟩ :=
    openAlternative_clear middle moves.clear otherwise [] (by simpa using moves.inhabited) (by omega)
  have shallow := openAlternative_depth middle otherwise [] resumed turns
  obtain ⟨next, follows, rest⟩ := alternative resumed clear (by omega)
  have turns : middle.keyword otherwise .elseWord = .ok resumed := turns
  have deeper := rest.depth
  have lacking := rest.lacking
  refine ⟨next, ?_, ⟨rest.clear, rest.inhabited, ?_, by omega⟩, by omega⟩
  · have whole := advances.append ((advances_keyword turns).append follows)
    simpa [tokens] using whole
  · rw [rest.around, place, moves.around]
    rfl

end

theorem passes_bare {atom : Phrase .atom} (passes : atom.Passes source now splices options) :
    (bare atom).Passes source now splices options := by
  intro ends opened room
  obtain ⟨first, rest, spelled⟩ := List.exists_cons_of_ne_nil atom.tokens_ne_nil
  have head : first ∈ atom.tokens.head? := by rw [spelled]; rfl
  have closed : atom.takesMore = false := by
    rw [← takesAtoms_head atom first head]
    exact ends first head
  obtain ⟨items, inhabited, advances⟩ := passes.1 closed (condition opened) room
  refine ⟨.group items, ?_⟩
  rwa [Opened.add, if_neg (by simpa using inhabited)] at advances

theorem passes_append {before : Phrase .sequence} {last : Phrase .atom}
    (first : before.Passes source now splices options) (second : last.Passes source now splices options) :
    (append before last).Passes source now splices options := by
  have count : (append before last).levels = before.levels + last.levels := List.countP_append
  intro opened clear room
  obtain ⟨middle, advances, moves⟩ := first opened clear (by omega)
  have depth := moves.depth
  obtain ⟨next, follows, rest⟩ := second.2 middle moves.clear (by omega)
  have deeper := rest.depth
  refine ⟨next, advances.append follows, ⟨rest.clear, rest.inhabited, ?_, by omega⟩, ?_⟩
  · rw [rest.around, moves.around]
  · exact Nat.le_trans moves.lacking rest.lacking

theorem passes_joined (operator : Operator) {left : Phrase (.operation operator)} (word : String)
    {right : Phrase operator.operand} (first : left.Passes source now splices options)
    (second : right.Passes source now splices options) :
    (joined operator left word right).Passes source now splices options := by
  have count : (joined operator left word right).levels = left.levels + right.levels + 1 := by
    cases operator <;>
      simp [levels, tokens, Operator.keyword, Token.deepens, List.countP_cons, List.countP_append] <;>
      omega
  intro opened clear room
  obtain ⟨middle, advances, goes⟩ := first opened clear (by omega)
  have depth := goes.depth
  obtain ⟨resumed, turns, clear, same, shallow⟩ :=
    keyword_clear operator middle goes.clear goes.inhabited word (by omega)
  obtain ⟨next, follows, rest⟩ := passes_operand operator right second resumed clear (by omega)
  have deeper := rest.depth
  refine ⟨next, ?_, rest.clear, rest.inhabited, by rw [rest.around, same, goes.around], by omega⟩
  exact advances.append ((advances_keyword turns).append follows)

/-- Under whatever derivation: an alternative may have been meant for another condition, but some condition can
take it. -/
theorem passes {rank : Rank} (phrase : Phrase rank) (documented : phrase.Documented)
    (emits : ∀ token ∈ phrase.tokens, token.Emits now options.base)
    (begins : phrase.TestsBegin (·.takesAtoms = false)) :
    phrase.Passes source now splices options := by
  induction phrase with
  | pattern text =>
      apply passes_closed
      intro opened room
      exact ⟨_, List.cons_ne_nil _ _, advances_pattern opened text⟩
  | modifier lexeme payload =>
      apply passes_closed
      intro opened room
      have yields := emits _ List.mem_cons_self
      exact ⟨_, yields, advances_modifier opened lexeme payload yields⟩
  | braces opening inner closing ih =>
      simp only [tokens, List.forall_mem_cons, List.forall_mem_append] at emits
      exact passes_braces opening closing (ih documented emits.2.1 begins)
  | not word operand ih =>
      simp only [tokens, List.forall_mem_cons] at emits
      exact passes_not word (ih documented emits.2 begins)
  | ifThen word test whenTrue condition consequence =>
      simp only [tokens, List.forall_mem_cons, List.forall_mem_append] at emits
      exact passes_ifThen word (condition documented.1 emits.2.1 begins.2.1) begins.1
        (consequence documented.2 emits.2.2 begins.2.2)
  | ifThenElse word test whenTrue otherwise whenFalse condition consequence alternative =>
      simp only [tokens, List.forall_mem_cons, List.forall_mem_append] at emits
      exact passes_ifThenElse word (condition documented.1 emits.2.1 begins.2.1) begins.1
        (consequence documented.2.1 emits.2.2.1 begins.2.2.1) otherwise
        (alternative documented.2.2 emits.2.2.2.2 begins.2.2.2)
  | bare atom ih => exact passes_bare (ih documented emits begins)
  | configured => cases documented
  | single atom ih => exact (ih documented emits begins).2
  | append before last first second =>
      simp only [tokens, List.forall_mem_append] at emits
      exact passes_append (first documented.1 emits.1 begins.1) (second documented.2 emits.2 begins.2)
  | lone operator operand ih =>
      exact passes_operand operator operand (ih documented emits begins)
  | joined operator left word right first second =>
      simp only [tokens, List.forall_mem_cons, List.forall_mem_append] at emits
      exact passes_joined operator word (first documented.1 emits.1 begins.1)
        (second documented.2 emits.2.2 begins.2)

end Phrase

end

/-- Of the texts with a derivation from bare conditions whose modifiers all add criteria, and with few enough words
that deepen the tree, those are accepted in which no condition begins with a word that takes all atoms. -/
theorem accepts_iff_tests_end (source : LoadlineSource) (now : Instant) (options : ScanOptions)
    (tokens : List Token) (phrase : Phrase (.operation .and)) (documented : phrase.Documented)
    (spelled : phrase.tokens = upToEnd tokens)
    (emits : ∀ token ∈ upToEnd tokens, token.Emits now options.base)
    (room : (upToEnd tokens).countP Token.deepens ≤ maxDepth) :
    (∃ result, parseTokens source now options tokens = .ok result) ↔
      (upToEnd tokens).IsChain (Phrase.Follows (·.takesAtoms = false)) := by
  constructor
  · rintro ⟨⟨criterion, final⟩, parsed⟩
    have free : ∀ token ∈ upToEnd tokens, token.asksLoadline = false :=
      fun token member => (emits token member).asksLoadline
    obtain ⟨greedy, same, -, -, -, taken⟩ :=
      parseTokens_spans source now options tokens free criterion final parsed
    rw [← same, Phrase.isChain_iff]
    exact Phrase.begins_of_greedy greedy taken
  · intro begins
    rw [← spelled] at emits room begins
    have passes : phrase.Passes source now maxSplices options :=
      phrase.passes documented emits ((Phrase.isChain_iff _ phrase).mp begins)
    have few : (Opened.whole Chain.empty []).depth + phrase.levels ≤ maxDepth := by
      rwa [show (Opened.whole Chain.empty []).depth = 0 from rfl, Nat.zero_add]
    obtain ⟨next, advances, goes⟩ := passes (.whole Chain.empty []) trivial few
    obtain ⟨criterion, finished⟩ := Opened.finish_clear next goes.clear goes.inhabited goes.around
    obtain ⟨rest, split, last⟩ := upToEnd_append tokens
    refine ⟨(criterion, options), ?_⟩
    rw [parseTokens, split, ← spelled, advances]
    obtain rfl | ⟨behind, rfl⟩ := last
    all_goals
      rw [Parser.read, finished]
      rfl

def danglingOutward : Phrase (.operation .and) :=
  .lone .and (.lone .or (.lone .xor (.single (.ifThenElse "IF" (.bare (.modifier "-tA" none))
    (.single (.ifThen "if" (.bare (.modifier "-tD" none)) (.single (.modifier "-tHS" none))))
    "ELSE" (.single (.pattern "*.log"))))))

theorem emits_dangling : ∀ token ∈ upToEnd dangling, token.Emits ⟨0, 0⟩ (.ofString "/") := by
  have spelled : upToEnd dangling = [.keyword .ifWord "IF", .modifier "-tA" none, .keyword .ifWord "if",
      .modifier "-tD" none, .modifier "-tHS" none, .keyword .elseWord "ELSE", .pattern "*.log"] := rfl
  simp only [spelled, List.forall_mem_cons]
  exact ⟨trivial, List.cons_ne_nil _ _, trivial, List.cons_ne_nil _ _, List.cons_ne_nil _ _, trivial,
    trivial, List.forall_mem_nil _⟩

theorem accepts_iff_tests_end_dangling :
    danglingOutward.Documented ∧ danglingOutward.tokens = upToEnd dangling ∧
      (∀ token ∈ upToEnd dangling, token.Emits ⟨0, 0⟩ (.ofString "/")) ∧
      (upToEnd dangling).countP Token.deepens ≤ maxDepth ∧
      ((∃ result, parseTokens (fun _ => .error "") ⟨0, 0⟩ (.initial (.ofString "/")) dangling =
          .ok result) ↔
        (upToEnd dangling).IsChain (Phrase.Follows (·.takesAtoms = false))) :=
  ⟨⟨trivial, ⟨trivial, trivial⟩, trivial⟩, rfl, emits_dangling, by decide,
    accepts_iff_tests_end (fun _ => .error "") ⟨0, 0⟩ (.initial (.ofString "/")) dangling danglingOutward
      ⟨trivial, ⟨trivial, trivial⟩, trivial⟩ rfl emits_dangling (by decide)⟩

def negatedTest : Phrase (.operation .and) :=
  .lone .and (.lone .or (.lone .xor (.single (.ifThen "IF"
    (.bare (.not "NOT" (.single (.modifier "-tA" none)))) (.single (.modifier "-tD" none))))))

def negatedTestLine : List Token :=
  [.keyword .ifWord "IF", .keyword .not "NOT", .modifier "-tA" none, .modifier "-tD" none, .finish]

theorem parse_negatedTest :
    parseTokens (fun _ => .error "") ⟨0, 0⟩ (.initial (.ofString "/")) negatedTestLine =
      .error .noQualifiers := by
  have archive : Modifier.interpret "-tA" none ⟨0, 0⟩ (.initial (.ofString "/")) =
      .ok (.criteria [.leaf (.type .archive)]) := rfl
  have directory : Modifier.interpret "-tD" none ⟨0, 0⟩ (.initial (.ofString "/")) =
      .ok (.criteria [.leaf (.type .directory)]) := rfl
  simp only [parseTokens, negatedTestLine, Parser.read, archive, directory]
  rfl

theorem negated_test_refused :
    ¬ ∀ (source : LoadlineSource) (now : Instant) (options : ScanOptions) (tokens : List Token)
      (phrase : Phrase (.operation .and)), phrase.Documented → phrase.tokens = upToEnd tokens →
      (∀ token ∈ upToEnd tokens, token.Emits now options.base) →
      (upToEnd tokens).countP Token.deepens < maxDepth →
      ∃ result, parseTokens source now options tokens = .ok result := by
  intro accepts
  have spelled : negatedTest.tokens = upToEnd negatedTestLine := rfl
  have emits : ∀ token ∈ upToEnd negatedTestLine, token.Emits ⟨0, 0⟩ (.ofString "/") := by
    simp only [← spelled, negatedTest, Phrase.tokens, List.cons_append, List.nil_append, List.forall_mem_cons]
    exact ⟨trivial, trivial, List.cons_ne_nil _ _, List.cons_ne_nil _ _, List.forall_mem_nil _⟩
  obtain ⟨result, accepted⟩ := accepts (fun _ => .error "") ⟨0, 0⟩ (.initial (.ofString "/"))
    negatedTestLine negatedTest ⟨trivial, trivial⟩ spelled emits (by decide)
  rw [parse_negatedTest] at accepted
  cases accepted

end FileSieve
