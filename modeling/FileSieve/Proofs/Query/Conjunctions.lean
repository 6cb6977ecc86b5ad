import FileSieve.Proofs.Criteria.Conjunctions
import FileSieve.Proofs.Query.Trees

namespace FileSieve

open Criterion (Conjunction Consulted)

def Token.joins : Token → Bool
  | keyword kind _ => kind == .and || kind == .openBrace || kind == .closeBrace
  | _ => true

/-- Every token that is read joins criteria, those of the loadlines included that are asked for. -/
def Joined (source : LoadlineSource) (tokens : List Token) : Prop :=
  ∀ token rest, Relation.ReflTransGen (Parser.Leaves source) tokens (token :: rest) → token.joins = true

namespace Joined

variable {source : LoadlineSource} {tokens behind : List Token}

theorem head {token : Token} (joined : Joined source (token :: tokens)) : token.joins = true :=
  joined token tokens .refl

theorem leaves (joined : Joined source tokens) (left : Parser.Leaves source tokens behind) : Joined source behind := by
  intro token rest further
  exact joined token rest (.head left further)

theorem of_free (words : ∀ token ∈ tokens, token.joins = true ∧ token.asksLoadline = false) :
    Joined source tokens := by
  have kept (stream : List Token) (further : Relation.ReflTransGen (Parser.Leaves source) tokens stream) :
      ∀ token ∈ stream, token.joins = true ∧ token.asksLoadline = false := by
    induction further with
    | refl => exact words
    | tail _ left ih =>
        cases left with
        | token token rest goes free => exact (List.forall_mem_cons.mp ih).2
        | loadline lexeme payload rest name behind line asks =>
            have free := (ih _ List.mem_cons_self).2
            cases asks.symm.trans free
  intro token rest further
  exact (kept _ further token List.mem_cons_self).1

end Joined

structure Chain.Joined (chain : Chain) : Prop where
  all : ∀ pending ∈ chain.all, Conjunction pending.left
  any : chain.any = none
  xor : chain.xor = none

namespace Chain

variable {chain : Chain} {right : Criterion}

theorem empty_joined : empty.Joined := ⟨nofun, rfl, rfl⟩

theorem close_conjunction (joined : chain.Joined) (conjunction : Conjunction right) :
    Conjunction (chain.close right) := by
  have alone : chain.closeAny right = right := by rw [closeAny, joined.any, closeXor, joined.xor]
  rw [close, alone]
  split
  · exact conjunction
  · rename_i pending waits
    apply Conjunction.all
    exact List.forall_mem_cons.mpr ⟨conjunction, List.forall_mem_singleton.mpr (joined.all pending waits)⟩

theorem pushAll_joined (joined : chain.Joined) (conjunction : Conjunction right) : (chain.pushAll right).Joined := by
  refine ⟨?_, rfl, rfl⟩
  rintro _ ⟨⟩
  exact close_conjunction joined conjunction

end Chain

theorem Criterion.group_conjunction {items : List Criterion} (parts : ∀ item ∈ items, Conjunction item) :
    Conjunction (group items) := by
  match items with
  | [item] => exact parts item List.mem_cons_self
  | [] | _ :: _ :: _ => exact .bracket _ parts

namespace Opened

def Joined : Opened → Prop
  | whole chain items => chain.Joined ∧ ∀ item ∈ items, Conjunction item
  | braces chain items outer => chain.Joined ∧ (∀ item ∈ items, Conjunction item) ∧ outer.Joined
  | _ => False

variable {opened next : Opened}

theorem add_joined (joined : opened.Joined) {items : List Criterion} (parts : ∀ item ∈ items, Conjunction item) :
    (opened.add items).Joined := by
  cases opened with
  | whole chain before =>
      obtain ⟨waiting, first⟩ := joined
      exact ⟨waiting, List.forall_mem_append.mpr ⟨first, parts⟩⟩
  | braces chain before outer =>
      obtain ⟨waiting, first, around⟩ := joined
      exact ⟨waiting, List.forall_mem_append.mpr ⟨first, parts⟩, around⟩
  | negation | condition | consequence | alternative => cases joined

theorem sequence_conjunction {items : List Criterion} (parts : ∀ item ∈ items, Conjunction item)
    {criterion : Criterion} (read : sequence items = .ok criterion) : Conjunction criterion := by
  rw [sequence] at read
  split at read
  · cases read
  · cases read
    exact Criterion.group_conjunction parts

theorem settle_joined (joined : opened.Joined) {chain : Chain} {right : Criterion} {outer : Option Opened}
    (settled : opened.settle [] = .ok (chain, right, outer)) :
    chain.Joined ∧ Conjunction right ∧ ∀ rest ∈ outer, rest.Joined := by
  cases opened with
  | whole kept items =>
      obtain ⟨waiting, parts⟩ := joined
      obtain ⟨_, read, same⟩ := ok_of_map _ _ _ settled
      cases same
      rw [List.append_nil] at read
      exact ⟨waiting, sequence_conjunction parts read, nofun⟩
  | braces kept items rest =>
      obtain ⟨waiting, parts, around⟩ := joined
      obtain ⟨_, read, same⟩ := ok_of_map _ _ _ settled
      cases same
      rw [List.append_nil] at read
      refine ⟨waiting, sequence_conjunction parts read, ?_⟩
      rintro _ ⟨⟩
      exact around
  | negation | condition | consequence | alternative => cases joined

theorem pushAll_joined (joined : opened.Joined) (ran : operator Chain.pushAll opened = .ok next) : next.Joined := by
  obtain ⟨⟨chain, right, outer⟩, settled, ran⟩ := ok_of_bind _ _ _ ran
  obtain ⟨waiting, conjunction, around⟩ := settle_joined joined settled
  have pushed := Chain.pushAll_joined waiting conjunction
  cases outer with
  | none =>
      rw [bounded_eq _ _ ran]
      exact ⟨pushed, nofun⟩
  | some rest =>
      rw [bounded_eq _ _ ran]
      exact ⟨pushed, nofun, around rest rfl⟩

theorem closeBraces_joined (joined : opened.Joined) (ran : opened.closeBraces = .ok next) : next.Joined := by
  obtain ⟨⟨chain, right, outer⟩, settled, ran⟩ := ok_of_bind _ _ _ ran
  obtain ⟨waiting, conjunction, around⟩ := settle_joined joined settled
  cases outer with
  | none => cases ran
  | some rest =>
      cases ran
      have closed := Chain.close_conjunction waiting conjunction
      exact add_joined (around rest rfl) (List.forall_mem_singleton.mpr closed)

theorem finish_conjunction (joined : opened.Joined) {criterion : Criterion} (ran : opened.finish = .ok criterion) :
    Conjunction criterion := by
  obtain ⟨⟨chain, right, outer⟩, settled, ran⟩ := ok_of_bind _ _ _ ran
  obtain ⟨waiting, conjunction, _⟩ := settle_joined joined settled
  cases outer with
  | none =>
      cases ran
      exact Chain.close_conjunction waiting conjunction
  | some rest => cases ran

theorem keyword_joined (joined : opened.Joined) {kind : Keyword} {spelling : String}
    (joins : (Token.keyword kind spelling).joins = true) (ran : opened.keyword spelling kind = .ok next) :
    next.Joined := by
  cases kind with
  | openBrace =>
      rw [bounded_eq _ _ ran]
      exact ⟨Chain.empty_joined, nofun, joined⟩
  | closeBrace => exact closeBraces_joined joined ran
  | and => exact pushAll_joined joined ran
  | or | xor | not | ifWord | elseWord => cases joins

end Opened

theorem Parser.Reads.joined {source : LoadlineSource} {now : Instant} {before after : State}
    (reads : Reads source now before after) (sofar : before.opened.Joined) (joined : Joined source before.tokens) :
    after.opened.Joined := by
  cases reads with
  | keyword opened next options kind spelling rest stepped =>
      exact Opened.keyword_joined sofar joined.head stepped
  | pattern => exact Opened.add_joined sofar (List.forall_mem_singleton.mpr (.leaf _))
  | criteria opened options lexeme payload rest items interpreted =>
      apply Opened.add_joined sofar
      intro item member
      obtain ⟨test, rfl, _⟩ := Modifier.interpret_plain _ _ _ _ _ interpreted item member
      exact .leaf test
  | options | loadline => exact sofar

theorem parse_conjunction (source : LoadlineSource) (now : Instant) (initial : ScanOptions) (commandLine : String)
    (tokens : List Token) (tokenized : tokenize commandLine = .ok tokens) (joined : Joined source tokens)
    (criterion : Criterion) (options : ScanOptions)
    (parsed : parse source now initial commandLine = .ok (criterion, options)) : Conjunction criterion := by
  obtain ⟨read, same, ran⟩ := ok_of_bind _ _ _ parsed
  rw [tokenized] at same
  cases same
  have empty : (Opened.whole Chain.empty []).Joined := ⟨Chain.empty_joined, nofun⟩
  obtain ⟨last, _, ⟨sofar, _⟩, finished, _⟩ :=
    Parser.read_keeps (fun state => state.opened.Joined ∧ Joined source state.tokens)
      (fun _ _ kept reads => ⟨reads.joined kept.1 kept.2, kept.2.leaves reads.leaves⟩) ⟨empty, joined⟩ ran
  exact Opened.finish_conjunction sofar finished

/-- What evaluation of a reordered conjunction computes is needed by the leaves it consults. Where it consults one, each
cheaper leaf holds or stands in an operand behind, which costs no less than the operand come to. -/
theorem expensive_last (source : LoadlineSource) (now : Instant) (initial : ScanOptions) (commandLine : String)
    (tokens : List Token) (tokenized : tokenize commandLine = .ok tokens) (joined : Joined source tokens)
    (criterion : Criterion) (options : ScanOptions)
    (parsed : parse source now initial commandLine = .ok (criterion, options)) (file : File) :
    (∀ fact, fact ∈ (criterion.reorder.consult.run (Record.fresh file)).2.computed ↔
      ∃ way test, Consulted file criterion.reorder way test ∧ ∃ one ∈ test.fact?, fact ∈ one.needs) ∧
    ∀ way test, Consulted file criterion.reorder way test →
      ∀ other ∈ criterion.leaves, other.cost.rank < test.cost.rank →
        other.evaluate file = true ∨ ∃ turn ∈ way, ∃ operand ∈ turn.back,
          other ∈ operand.leaves ∧ turn.operand.cost.rank ≤ operand.cost.rank := by
  have conjunction := parse_conjunction source now initial commandLine tokens tokenized joined criterion options parsed
  constructor
  · intro fact
    rw [Record.mem_computed_of_asks (criterion.reorder.consult_agrees file)]
    constructor
    · rintro ⟨one, asked, needed⟩
      obtain ⟨way, test, consulted, same⟩ := conjunction.reorder.mem_facts.mp asked
      exact ⟨way, test, consulted, one, same, needed⟩
    · rintro ⟨way, test, consulted, one, same, needed⟩
      exact ⟨one, conjunction.reorder.mem_facts.mpr ⟨way, test, consulted, same⟩, needed⟩
  · intro way test consulted other member cheaper
    exact conjunction.cheaper_holds consulted member cheaper

def rows : Criterion :=
  .all [.bracket [.leaf (.type .hidden), .leaf (.content [0x79] false)],
    .bracket [.leaf (.type .archive), .leaf (.content [0x78] false)]]

def rowTokens : List Token :=
  [.modifier "-tA" none, .modifier "--contains" (some "x"), .keyword .and "AND", .modifier "-tH" none,
    .modifier "--contains" (some "y"), .finish]

theorem tokenize_rows : tokenize "-tA --contains#x# AND -tH --contains#y#" = .ok rowTokens := rfl

theorem rowTokens_joined (source : LoadlineSource) : Joined source rowTokens := by
  apply Joined.of_free
  decide

theorem parse_rows :
    parse (fun _ => .error "") ⟨0, 0⟩ (.initial (.ofString "/")) "-tA --contains#x# AND -tH --contains#y#" =
      .ok (rows, .initial (.ofString "/")) := by
  have archive : Modifier.interpret "-tA" none ⟨0, 0⟩ (.initial (.ofString "/")) =
      .ok (.criteria [.leaf (.type .archive)]) := rfl
  have hidden : Modifier.interpret "-tH" none ⟨0, 0⟩ (.initial (.ofString "/")) =
      .ok (.criteria [.leaf (.type .hidden)]) := rfl
  have first : Modifier.interpret "--contains" (some "x") ⟨0, 0⟩ (.initial (.ofString "/")) =
      .ok (.criteria [.leaf (.content [0x78] false)]) := rfl
  have second : Modifier.interpret "--contains" (some "y") ⟨0, 0⟩ (.initial (.ofString "/")) =
      .ok (.criteria [.leaf (.content [0x79] false)]) := rfl
  rw [parse, tokenize_rows]
  show parseTokens _ _ _ rowTokens = _
  simp only [parseTokens, rowTokens, Parser.read, archive, hidden, first, second]
  rfl

theorem reorder_rows : rows.reorder = rows := by
  rw [rows]
  simp only [Criterion.reorder, Criterion.reorderAll, Criterion.byCost_pair]
  rfl

def hiddenText : File :=
  { File.absent (.ofString "/f") with attributes := ⟨Attributes.hidden⟩, contents := some [0x79] }

theorem consulted_rows :
    ∃ way, Consulted hiddenText rows.reorder way (.content [0x79] false) := by
  have row : Consulted hiddenText (.bracket [.leaf (.type .hidden), .leaf (.content [0x79] false)])
      [⟨[.leaf (.type .hidden)], .leaf (.content [0x79] false), []⟩] (.content [0x79] false) :=
    .bracket ⟨[.leaf (.type .hidden)], .leaf (.content [0x79] false), []⟩ [] _ (by decide) (.leaf _)
  rw [reorder_rows]
  exact ⟨_, .all ⟨[], _, [.bracket [.leaf (.type .archive), .leaf (.content [0x78] false)]]⟩ _ _ rfl row⟩

theorem expensive_last_rows :
    tokenize "-tA --contains#x# AND -tH --contains#y#" = .ok rowTokens ∧ Joined (fun _ => .error "") rowTokens ∧
      parse (fun _ => .error "") ⟨0, 0⟩ (.initial (.ofString "/")) "-tA --contains#x# AND -tH --contains#y#" =
        .ok (rows, .initial (.ofString "/")) ∧
      (∀ fact, fact ∈ (rows.reorder.consult.run (Record.fresh hiddenText)).2.computed ↔
        ∃ way test, Consulted hiddenText rows.reorder way test ∧ ∃ one ∈ test.fact?, fact ∈ one.needs) ∧
      ∀ way test, Consulted hiddenText rows.reorder way test →
        ∀ other ∈ rows.leaves, other.cost.rank < test.cost.rank →
          other.evaluate hiddenText = true ∨ ∃ turn ∈ way, ∃ operand ∈ turn.back,
            other ∈ operand.leaves ∧ turn.operand.cost.rank ≤ operand.cost.rank :=
  ⟨tokenize_rows, rowTokens_joined _, parse_rows,
    expensive_last _ _ _ _ _ tokenize_rows (rowTokens_joined _) _ _ parse_rows hiddenText⟩

/-- Whether a text is marked for backup is cheap to tell, and is not asked in the row behind. -/
theorem contents_before_cheaper :
    ¬ ∀ (source : LoadlineSource) (now : Instant) (initial : ScanOptions) (commandLine : String)
      (tokens : List Token) (criterion : Criterion) (options : ScanOptions),
      tokenize commandLine = .ok tokens → Joined source tokens →
      parse source now initial commandLine = .ok (criterion, options) →
      ∀ file way test, Consulted file criterion.reorder way test →
        (∃ one ∈ test.fact?, Fact.contents ∈ one.needs) →
        ∀ other ∈ criterion.leaves, other.cost.rank < test.cost.rank → other.evaluate file = true := by
  intro last
  obtain ⟨way, consulted⟩ := consulted_rows
  have present : Leaf.type .archive ∈ rows.leaves := by
    simp [rows, Criterion.leaves, Criterion.parts, Criterion.partsOfAll, Criterion.leaf?]
  have archived := last _ _ _ _ _ _ _ tokenize_rows (rowTokens_joined _) parse_rows hiddenText way _ consulted
    ⟨.contents, rfl, List.mem_singleton_self _⟩ (.type .archive) present (by decide)
  exact absurd archived (by decide)

end FileSieve
