import FileSieve.Proofs.Query.Conditions
import FileSieve.Proofs.Query.Derivation

namespace FileSieve

variable {now : Instant} {base : Path}

namespace Chain

section

variable {chain : Chain} {operands atoms : List Token} {right : Criterion}
variable (waiting : chain.Covers now base operands) (spans : Spans now base .sequence atoms right)

theorem closeXor_eq : chain.closeXor right = Operator.xor.join right chain.xor := by
  rw [closeXor]
  cases chain.xor <;> rfl

theorem closeAny_eq : chain.closeAny right = Operator.or.join (chain.closeXor right) chain.any := by
  rw [closeAny]
  cases chain.any <;> rfl

theorem close_eq : chain.close right = Operator.and.join (chain.closeAny right) chain.all := by
  rw [close]
  cases chain.all <;> rfl

include waiting spans

theorem close_spans : Spans now base (.operation .and) (operands ++ atoms) (chain.close right) := by
  obtain ⟨first, second, third, rfl, all, any, xor⟩ := waiting
  rw [close_eq, closeAny_eq, closeXor_eq, List.append_assoc, List.append_assoc]
  exact .join all (.join any (.join xor spans))

theorem pushAll_covers (word : String) :
    (chain.pushAll right).Covers now base ((operands ++ atoms) ++ [.keyword .and word]) := by
  have closed := close_spans waiting spans
  exact ⟨_, [], [], (List.append_nil _).symm, .some ⟨_, _⟩ _ word closed, .none, .none⟩

theorem pushAny_covers (word : String) :
    (chain.pushAny right).Covers now base ((operands ++ atoms) ++ [.keyword .or word]) := by
  obtain ⟨first, second, third, rfl, all, any, xor⟩ := waiting
  have closed : Spans now base (.operation .or) (second ++ (third ++ atoms)) (chain.closeAny right) := by
    rw [closeAny_eq, closeXor_eq]
    exact .join any (.join xor spans)
  exact ⟨first, _, [], by simp [Operator.keyword], all, .some ⟨_, _⟩ _ word closed, .none⟩

theorem pushXor_covers (word : String) :
    (chain.pushXor right).Covers now base ((operands ++ atoms) ++ [.keyword .xor word]) := by
  obtain ⟨first, second, third, rfl, all, any, xor⟩ := waiting
  have closed : Spans now base (.operation .xor) (third ++ atoms) (chain.closeXor right) := by
    rw [closeXor_eq]
    exact .join xor spans
  exact ⟨first, second, _, by simp [Operator.keyword], all, any, .some ⟨_, _⟩ _ word closed⟩

end

end Chain

namespace Opened

theorem operator_covers (kind : Keyword) (push : Chain → Criterion → Chain)
    (pushes : ∀ {chain : Chain} {operands atoms : List Token} {right : Criterion},
      chain.Covers now base operands → Spans now base .sequence atoms right → ∀ word,
        (push chain right).Covers now base ((operands ++ atoms) ++ [.keyword kind word]))
    (opened : Opened) (tokens : List Token) (covers : opened.Covers now base tokens) (word : String)
    (next : Opened) (ran : operator push opened = .ok next) :
    next.Covers now base (tokens ++ [.keyword kind word]) := by
  obtain ⟨⟨chain, right, outer⟩, settled, ran⟩ := ok_of_bind _ _ _ ran
  obtain ⟨front, operands, atoms, split, before, waiting, spans⟩ :=
    settle_covers opened tokens covers [] [] .none chain right outer settled
  have pushed := pushes waiting spans word
  rw [List.append_nil] at split
  subst split
  cases before with
  | whole =>
      rw [bounded_eq _ _ ran]
      simpa using Covers.whole _ [] pushed .none
  | braces rest around opening enclosed =>
      rw [bounded_eq _ _ ran]
      simpa using Covers.braces around _ [] opening enclosed pushed .none

theorem closeBraces_covers (opened : Opened) (tokens : List Token)
    (covers : opened.Covers now base tokens) (word : String) (next : Opened)
    (ran : opened.closeBraces = .ok next) :
    next.Covers now base (tokens ++ [.keyword .closeBrace word]) := by
  obtain ⟨⟨chain, right, outer⟩, settled, ran⟩ := ok_of_bind _ _ _ ran
  obtain ⟨front, operands, atoms, split, before, waiting, spans⟩ :=
    settle_covers opened tokens covers [] [] .none chain right outer settled
  rw [List.append_nil] at split
  subst split
  cases before with
  | whole => cases ran
  | braces rest around opening enclosed =>
      cases ran
      obtain ⟨phrase, spelled, tree, -, valid, greedy⟩ := Chain.close_spans waiting spans
      have added := rest.add_covers around enclosed (.braces opening phrase word) valid greedy rfl
      rw [Phrase.criteria, Phrase.criteria_operation, tree, Phrase.tokens, spelled] at added
      simpa using added

theorem finish_spans (opened : Opened) (tokens : List Token) (covers : opened.Covers now base tokens)
    (criterion : Criterion) (ran : opened.finish = .ok criterion) :
    Spans now base (.operation .and) tokens criterion := by
  obtain ⟨⟨chain, right, outer⟩, settled, ran⟩ := ok_of_bind _ _ _ ran
  obtain ⟨front, operands, atoms, split, before, waiting, spans⟩ :=
    settle_covers opened tokens covers [] [] .none chain right outer settled
  rw [List.append_nil] at split
  subst split
  cases before with
  | whole =>
      cases ran
      rw [List.nil_append]
      exact Chain.close_spans waiting spans
  | braces => cases ran

theorem keyword_covers (opened : Opened) (tokens : List Token) (covers : opened.Covers now base tokens)
    (spelling : String) (kind : Keyword) (next : Opened)
    (ran : opened.keyword spelling kind = .ok next) :
    next.Covers now base (tokens ++ [.keyword kind spelling]) := by
  cases kind with
  | openBrace =>
      rw [bounded_eq _ _ ran]
      exact .braces tokens [] [] spelling covers ⟨[], [], [], rfl, .none, .none, .none⟩ .none
  | closeBrace => exact closeBraces_covers opened tokens covers spelling next ran
  | and => exact operator_covers .and _ Chain.pushAll_covers opened tokens covers spelling next ran
  | or => exact operator_covers .or _ Chain.pushAny_covers opened tokens covers spelling next ran
  | xor => exact operator_covers .xor _ Chain.pushXor_covers opened tokens covers spelling next ran
  | not =>
      rw [bounded_eq _ _ ran]
      exact .negation tokens [] spelling covers .none
  | ifWord =>
      rw [bounded_eq _ _ ran]
      exact .condition tokens [] spelling covers nofun
  | elseWord => exact openAlternative_covers opened tokens covers spelling [] [] .none next ran

end Opened

namespace Parser

/-- What has been read is covered. With what is left up to the end it makes up the whole text, and that asks for no
loadline. -/
structure State.Covers (now : Instant) (base : Path) (whole : List Token) (state : State) : Prop where
  same : state.options.base = base
  free : ∀ token ∈ upToEnd state.tokens, token.asksLoadline = false
  covered : ∃ before, state.opened.Covers now base before ∧ before ++ upToEnd state.tokens = whole

section

variable {opened next : Opened} {options changed : ScanOptions} {token : Token} {rest whole : List Token}
variable (covers : State.Covers now base whole ⟨opened, options, token :: rest⟩) (goes : token ≠ .finish)

include covers goes

theorem State.Covers.head : token.asksLoadline = false := by
  apply covers.free
  rw [upToEnd_cons token rest goes]
  exact List.mem_cons_self

theorem State.Covers.advance (kept : changed.base = options.base)
    (after : ∀ before, opened.Covers now base before → next.Covers now base (before ++ [token])) :
    State.Covers now base whole ⟨next, changed, rest⟩ := by
  obtain ⟨same, free, before, covered, split⟩ := covers
  rw [upToEnd_cons token rest goes] at free split
  refine ⟨kept.trans same, fun other member => free other (.tail _ member), before ++ [token], after before covered, ?_⟩
  rw [List.append_assoc]
  exact split

end

theorem Reads.covers {source : LoadlineSource} {before after : State} {whole : List Token}
    (reads : Reads source now before after) (covers : before.Covers now base whole) : after.Covers now base whole := by
  cases reads with
  | keyword opened next options kind spelling rest stepped =>
      apply covers.advance nofun rfl
      intro before covered
      exact Opened.keyword_covers opened before covered spelling kind next stepped
  | pattern opened options text rest =>
      obtain rfl := covers.same
      apply covers.advance nofun rfl
      intro before covered
      exact opened.add_covers before covered (.pattern text) trivial trivial rfl
  | criteria opened options lexeme payload rest items interpreted =>
      obtain rfl := covers.same
      obtain ⟨yields, applies⟩ := Modifier.criteria_of_interpret (covers.head nofun) interpreted
      apply covers.advance nofun rfl
      intro before covered
      have added := opened.add_covers before covered (.modifier lexeme payload) applies trivial rfl
      rwa [Phrase.criteria, yields] at added
  | options opened options changed lexeme payload rest interpreted =>
      obtain rfl := covers.same
      obtain ⟨kept, yields, applies⟩ := Modifier.options_of_interpret (covers.head nofun) interpreted
      apply covers.advance nofun kept
      intro before covered
      have added := opened.add_covers before covered (.modifier lexeme payload) applies trivial rfl
      rwa [Phrase.criteria, yields, Opened.add_nil] at added
  | loadline opened options lexeme payload rest name behind line asks =>
      cases asks.symm.trans (covers.head nofun)

end Parser

theorem parseTokens_spans (source : LoadlineSource) (now : Instant) (options : ScanOptions)
    (tokens : List Token) (free : ∀ token ∈ upToEnd tokens, token.asksLoadline = false)
    (criterion : Criterion) (final : ScanOptions)
    (parsed : parseTokens source now options tokens = .ok (criterion, final)) :
    Spans now options.base (.operation .and) (upToEnd tokens) criterion := by
  have empty : (Opened.whole Chain.empty []).Covers now options.base [] :=
    .whole [] [] ⟨[], [], [], rfl, .none, .none, .none⟩ .none
  obtain ⟨last, rest, covers, finished, ends⟩ :=
    Parser.read_keeps (Parser.State.Covers now options.base (upToEnd tokens)) (fun _ _ covers reads => reads.covers covers)
      ⟨rfl, free, [], empty, rfl⟩ parsed
  obtain ⟨before, covered, split⟩ := covers.covered
  rw [upToEnd_of_head? ends, List.append_nil] at split
  exact split ▸ Opened.finish_spans last before covered criterion finished

/-- What a parse returns is the tree of a greedy derivation of all the tokens up to the end, with the leaves that
the tokens add. The grammar lets modifiers that add no criteria come in front of a condition; where none
does, the conditions of the derivation are bare atoms. -/
theorem parse_derives (source : LoadlineSource) (now : Instant) (options : ScanOptions)
    (tokens : List Token) (free : ∀ token ∈ upToEnd tokens, token.asksLoadline = false)
    (criterion : Criterion) (final : ScanOptions)
    (parsed : parseTokens source now options tokens = .ok (criterion, final)) :
    ∃ phrase : Phrase (.operation .and), phrase.tokens = upToEnd tokens ∧
      phrase.tree now options.base = criterion ∧ phrase.Valid now options.base ∧ phrase.Greedy ∧
      ((upToEnd tokens).IsChain (Phrase.Follows (·.Emits now options.base)) → phrase.Documented) ∧
      criterion.leaves.Perm
        (((upToEnd tokens).flatMap (Token.criteria now options.base)).flatMap Criterion.leaves) := by
  obtain ⟨phrase, spelled, tree, -, valid, greedy⟩ :=
    parseTokens_spans source now options tokens free criterion final parsed
  refine ⟨phrase, spelled, tree, valid, greedy, ?_, ?_⟩
  · intro begins
    rw [← spelled, Phrase.isChain_iff] at begins
    exact phrase.documented_of_begins valid begins nofun
  · have leaves := phrase.leaves_perm now options.base
    rw [spelled] at leaves
    rwa [← tree, Phrase.tree, Criterion.leaves_group]

def dangling : List Token :=
  [.keyword .ifWord "IF", .modifier "-tA" none, .keyword .ifWord "if", .modifier "-tD" none,
    .modifier "-tHS" none, .keyword .elseWord "ELSE", .pattern "*.log", .finish]

theorem parse_dangling :
    parseTokens (fun _ => .error "") ⟨0, 0⟩ (.initial (.ofString "/")) dangling =
      .ok (.ifThen (.leaf (.type .archive)) (.ifThenElse (.leaf (.type .directory))
        (.bracket [.leaf (.type .hidden), .leaf (.type .system)])
        (.leaf (.wildcard (.ofText "*.log" (.ofString "/"))))), .initial (.ofString "/")) := by
  have archive : Modifier.interpret "-tA" none ⟨0, 0⟩ (.initial (.ofString "/")) =
      .ok (.criteria [.leaf (.type .archive)]) := rfl
  have directory : Modifier.interpret "-tD" none ⟨0, 0⟩ (.initial (.ofString "/")) =
      .ok (.criteria [.leaf (.type .directory)]) := rfl
  have both : Modifier.interpret "-tHS" none ⟨0, 0⟩ (.initial (.ofString "/")) =
      .ok (.criteria [.leaf (.type .hidden), .leaf (.type .system)]) := rfl
  simp only [parseTokens, dangling, Parser.read, archive, directory, both]
  rfl

theorem parse_derives_dangling :
    (∀ token ∈ upToEnd dangling, token.asksLoadline = false) ∧
      ∃ criterion final,
        parseTokens (fun _ => .error "") ⟨0, 0⟩ (.initial (.ofString "/")) dangling =
          .ok (criterion, final) ∧
        ∃ phrase : Phrase (.operation .and), phrase.tokens = upToEnd dangling ∧
          phrase.tree ⟨0, 0⟩ (.ofString "/") = criterion ∧ phrase.Valid ⟨0, 0⟩ (.ofString "/") ∧
          phrase.Greedy ∧
          ((upToEnd dangling).IsChain (Phrase.Follows (·.Emits ⟨0, 0⟩ (.ofString "/"))) →
            phrase.Documented) ∧
          criterion.leaves.Perm (((upToEnd dangling).flatMap
            (Token.criteria ⟨0, 0⟩ (.ofString "/"))).flatMap Criterion.leaves) :=
  ⟨by decide, _, _, parse_dangling,
    parse_derives (fun _ => .error "") ⟨0, 0⟩ (.initial (.ofString "/")) dangling (by decide) _ _
      parse_dangling⟩

def configuredTest : List Token :=
  [.keyword .ifWord "IF", .modifier "--long" none, .modifier "-tA" none, .modifier "-tD" none, .finish]

theorem parse_configuredTest :
    parseTokens (fun _ => .error "") ⟨0, 0⟩ (.initial (.ofString "/")) configuredTest =
      .ok (.ifThen (.leaf (.type .archive)) (.leaf (.type .directory)),
        { ScanOptions.initial (.ofString "/") with format := .long }) := by
  have long : Modifier.interpret "--long" none ⟨0, 0⟩ (.initial (.ofString "/")) =
      .ok (.options { ScanOptions.initial (.ofString "/") with format := .long }) := rfl
  have archive (options : ScanOptions) : Modifier.interpret "-tA" none ⟨0, 0⟩ options =
      .ok (.criteria [.leaf (.type .archive)]) := rfl
  have directory (options : ScanOptions) : Modifier.interpret "-tD" none ⟨0, 0⟩ options =
      .ok (.criteria [.leaf (.type .directory)]) := rfl
  simp only [parseTokens, configuredTest, Parser.read, long, archive, directory]
  rfl

theorem configured_test_not_documented :
    ¬ ∀ (source : LoadlineSource) (now : Instant) (options : ScanOptions) (tokens : List Token)
      (criterion : Criterion) (final : ScanOptions),
      (∀ token ∈ upToEnd tokens, token.asksLoadline = false) →
      parseTokens source now options tokens = .ok (criterion, final) →
      ∃ phrase : Phrase (.operation .and), phrase.Documented ∧ phrase.tokens = upToEnd tokens ∧
        phrase.tree now options.base = criterion := by
  intro derives
  obtain ⟨phrase, documented, spelled, tree⟩ :=
    derives _ _ _ configuredTest _ _ (by decide) parse_configuredTest
  have filled : ∀ item ∈ phrase.criteria ⟨0, 0⟩ (.ofString "/"), .bracket [] ∉ item.parts := by
    intro item member
    rw [Phrase.criteria_operation] at member
    cases List.mem_singleton.mp member
    have tree : phrase.tree ⟨0, 0⟩ (.ofString "/") = _ := tree
    rw [tree]
    simp [Criterion.parts]
  have begins := phrase.begins_of_filled documented filled
  rw [← Phrase.isChain_iff, spelled] at begins
  have chained : List.IsChain _ [Token.keyword .ifWord "IF", .modifier "--long" none,
    .modifier "-tA" none, .modifier "-tD" none] := begins
  have emits := (List.isChain_cons_cons.mp chained).1 rfl
  exact emits rfl

end FileSieve
