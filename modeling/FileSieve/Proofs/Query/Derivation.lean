import FileSieve.Proofs.Query.Phrase

/-! Derivations of what has been read. Every token that is read goes into a greedy derivation of a part that is
still open, and whatever ends parts of the text puts their derivations together. -/

namespace FileSieve

/-- The tokens in front of the mark that ends a command line. -/
def upToEnd (tokens : List Token) : List Token := tokens.takeWhile (· ≠ .finish)

theorem upToEnd_cons (token : Token) (rest : List Token) (goes : token ≠ .finish) :
    upToEnd (token :: rest) = token :: upToEnd rest :=
  List.takeWhile_cons_of_pos (by simpa using goes)

theorem upToEnd_of_head? {tokens : List Token} (ends : ∀ token ∈ tokens.head?, token = .finish) :
    upToEnd tokens = [] := by
  cases tokens with
  | nil => rfl
  | cons token rest =>
      rw [ends token rfl]
      rfl

theorem upToEnd_append (tokens : List Token) :
    ∃ rest, tokens = upToEnd tokens ++ rest ∧ (rest = [] ∨ ∃ behind, rest = .finish :: behind) := by
  induction tokens with
  | nil => exact ⟨[], rfl, .inl rfl⟩
  | cons token tokens ih =>
      by_cases ends : token = .finish
      · subst ends
        exact ⟨.finish :: tokens, rfl, .inr ⟨tokens, rfl⟩⟩
      · obtain ⟨rest, split, last⟩ := ih
        refine ⟨rest, ?_, last⟩
        rw [upToEnd_cons token tokens ends, List.cons_append, ← split]

def Operator.join (operator : Operator) (right : Criterion) : Option Pending → Criterion
  | none => right
  | some pending => operator.combine right pending.left

section

variable (now : Instant) (base : Path)

/-- The tokens have a greedy derivation that stands for the tree. -/
def Spans (rank : Rank) (tokens : List Token) (tree : Criterion) : Prop :=
  ∃ phrase : Phrase rank, phrase.tokens = tokens ∧ phrase.tree now base = tree ∧
    phrase.criteria now base ≠ [] ∧ phrase.Valid now base ∧ phrase.Greedy

inductive Atoms : List Criterion → List Token → Prop
  | none : Atoms [] []
  | some (phrase : Phrase .sequence) (valid : phrase.Valid now base) (greedy : phrase.Greedy)
      (closed : phrase.takesMore = false) : Atoms (phrase.criteria now base) phrase.tokens

/-- The atom that a sequence ends with, if it is one that takes all that follows. -/
inductive Ending (takesElse : Bool) : List Criterion → List Token → Prop
  | none : Ending takesElse [] []
  | some (atom : Phrase .atom) (valid : atom.Valid now base) (greedy : atom.Greedy)
      (resolved : takesElse = false → atom.takesElse = false) :
      Ending takesElse (atom.criteria now base) atom.tokens

/-- A left operand that waits has been read from its tokens and the word behind them. -/
inductive Waits (operator : Operator) : Option Pending → List Token → Prop
  | none : Waits operator none []
  | some (pending : Pending) (tokens : List Token) (word : String)
      (spans : Spans now base (.operation operator) tokens pending.left) :
      Waits operator pending (tokens ++ [.keyword operator.keyword word])

def Chain.Covers (chain : Chain) (tokens : List Token) : Prop :=
  ∃ first second third, tokens = first ++ (second ++ third) ∧ Waits now base .and chain.all first ∧
    Waits now base .or chain.any second ∧ Waits now base .xor chain.xor third

def Configuring (tokens : List Token) : Prop :=
  ∀ token ∈ tokens, ∃ lexeme payload, token = .modifier lexeme payload ∧
    token.criteria now base = [] ∧ token.Applies now base

inductive Opened.Covers : Opened → List Token → Prop
  | whole {chain : Chain} {items : List Criterion} (operands atoms : List Token)
      (waiting : chain.Covers now base operands) (read : Atoms now base items atoms) :
      Covers (.whole chain items) (operands ++ atoms)
  | braces {chain : Chain} {items : List Criterion} {outer : Opened} (around operands atoms : List Token)
      (opening : String) (enclosed : Covers outer around) (waiting : chain.Covers now base operands)
      (read : Atoms now base items atoms) :
      Covers (.braces chain items outer)
        (around ++ .keyword .openBrace opening :: (operands ++ atoms))
  | negation {items : List Criterion} {outer : Opened} (around atoms : List Token) (word : String)
      (enclosed : Covers outer around) (read : Atoms now base items atoms) :
      Covers (.negation items outer) (around ++ .keyword .not word :: atoms)
  | condition {outer : Opened} (around configuring : List Token) (word : String)
      (enclosed : Covers outer around) (configures : Configuring now base configuring) :
      Covers (.condition outer) (around ++ .keyword .ifWord word :: configuring)
  | consequence {test : Criterion} {items : List Criterion} {outer : Opened}
      (around asked atoms : List Token) (word : String) (enclosed : Covers outer around)
      (condition : Spans now base .condition asked test) (read : Atoms now base items atoms) :
      Covers (.consequence test items outer) (around ++ .keyword .ifWord word :: (asked ++ atoms))
  | alternative {test whenTrue : Criterion} {items : List Criterion} {outer : Opened}
      (around asked atoms : List Token) (word otherwise : String) (taken : Phrase .sequence)
      (enclosed : Covers outer around) (condition : Spans now base .condition asked test)
      (tree : taken.tree now base = whenTrue) (inhabited : taken.criteria now base ≠ [])
      (valid : taken.Valid now base) (greedy : taken.Greedy) (resolved : taken.takesElse = false)
      (read : Atoms now base items atoms) :
      Covers (.alternative test whenTrue items outer)
        (around ++ .keyword .ifWord word ::
          (asked ++ (taken.tokens ++ .keyword .elseWord otherwise :: atoms)))

inductive Opened.Front : Option Opened → List Token → Prop
  | whole : Front none []
  | braces (outer : Opened) (around : List Token) (opening : String)
      (enclosed : outer.Covers now base around) :
      Front outer (around ++ [.keyword .openBrace opening])

end

variable {now : Instant} {base : Path}

theorem Spans.join {operator : Operator} {pending : Option Pending} {before tokens : List Token}
    {right : Criterion} (waits : Waits now base operator pending before)
    (spans : Spans now base operator.operand tokens right) :
    Spans now base (.operation operator) (before ++ tokens) (operator.join right pending) := by
  obtain ⟨operand, rfl, rfl, inhabited, valid, greedy⟩ := spans
  cases waits with
  | none => exact ⟨.lone operator operand, rfl, rfl, nofun, ⟨inhabited, valid⟩, greedy⟩
  | some pending first word spans =>
      obtain ⟨left, rfl, same, -, before, taken⟩ := spans
      refine ⟨.joined operator left word operand, ?_, ?_, nofun, ⟨before, inhabited, valid⟩, taken, greedy⟩
      · simp [Phrase.tokens]
      · rw [Operator.join, ← same]
        rfl

theorem Opened.sequence_spans {takesElse : Bool} {items added : List Criterion}
    {atoms more : List Token} {tree : Criterion} (read : Atoms now base items atoms)
    (ending : Ending now base takesElse added more)
    (settled : sequence (items ++ added) = .ok tree) :
    ∃ phrase : Phrase .sequence, phrase.tokens = atoms ++ more ∧ phrase.tree now base = tree ∧
      phrase.criteria now base ≠ [] ∧ phrase.Valid now base ∧ phrase.Greedy ∧
      (takesElse = false → phrase.takesElse = false) := by
  have inhabited : items ++ added ≠ [] := by
    rintro empty
    rw [empty] at settled
    cases settled
  have group : .group (items ++ added) = tree := by
    rw [sequence, if_neg (by simpa using inhabited)] at settled
    exact Except.ok.inj settled
  cases read with
  | none =>
      cases ending with
      | none => exact absurd rfl inhabited
      | some atom valid greedy resolved =>
          exact ⟨.single atom, rfl, group, inhabited, valid, greedy, resolved⟩
  | some phrase valid greedy closed =>
      cases ending with
      | none =>
          rw [List.append_nil] at inhabited group
          refine ⟨phrase, (List.append_nil _).symm, group, inhabited, valid, greedy, fun _ => ?_⟩
          exact phrase.takesElse_of_not_takesMore closed
      | some atom holds taken resolved =>
          exact ⟨.append phrase atom, rfl, group, inhabited, ⟨valid, holds⟩, ⟨⟨closed, greedy⟩, taken⟩,
            resolved⟩

theorem Configuring.spans {configuring tokens : List Token} {test : Criterion}
    (configures : Configuring now base configuring) (spans : Spans now base .condition tokens test) :
    Spans now base .condition (configuring ++ tokens) test := by
  induction configuring with
  | nil => exact spans
  | cons token rest ih =>
      obtain ⟨phrase, spelled, same, inhabited, valid, greedy⟩ := ih fun other member =>
        configures other (List.mem_cons_of_mem _ member)
      obtain ⟨lexeme, payload, rfl, silent, applies⟩ := configures _ List.mem_cons_self
      have yields : (Phrase.configured lexeme payload phrase).criteria now base =
          phrase.criteria now base := by rw [Phrase.criteria, silent, List.nil_append]
      refine ⟨.configured lexeme payload phrase, ?_, ?_, ?_, ⟨⟨silent, applies⟩, valid⟩, greedy⟩
      · rw [Phrase.tokens, spelled, List.cons_append]
      · rw [Phrase.tree, yields]
        exact same
      · rw [yields]
        exact inhabited

theorem Atoms.append {items : List Criterion} {atoms : List Token} (read : Atoms now base items atoms)
    (atom : Phrase .atom) (valid : atom.Valid now base) (greedy : atom.Greedy)
    (closed : atom.takesMore = false) :
    Atoms now base (items ++ atom.criteria now base) (atoms ++ atom.tokens) := by
  cases read with
  | none => exact .some (.single atom) valid greedy closed
  | some phrase holds taken ends =>
      exact .some (.append phrase atom) ⟨holds, valid⟩ ⟨⟨ends, taken⟩, greedy⟩ closed

namespace Opened

theorem add_nil (opened : Opened) : opened.add [] = opened := by
  cases opened <;> simp [add]

theorem add_covers (opened : Opened) (tokens : List Token) (covers : opened.Covers now base tokens)
    (atom : Phrase .atom) (valid : atom.Valid now base) (greedy : atom.Greedy)
    (closed : atom.takesMore = false) :
    (opened.add (atom.criteria now base)).Covers now base (tokens ++ atom.tokens) := by
  cases covers with
  | whole operands atoms waiting read =>
      rw [List.append_assoc]
      exact .whole operands _ waiting (read.append atom valid greedy closed)
  | braces around operands atoms opening enclosed waiting read =>
      rw [List.append_assoc, List.cons_append, List.append_assoc]
      exact .braces around operands _ opening enclosed waiting (read.append atom valid greedy closed)
  | negation around atoms word enclosed read =>
      rw [List.append_assoc, List.cons_append]
      exact .negation around _ word enclosed (read.append atom valid greedy closed)
  | condition around configuring word enclosed configures =>
      rw [List.append_assoc, List.cons_append, add]
      cases yields : atom.criteria now base with
      | nil =>
          -- Of the atoms that end by themselves, only modifiers can yield nothing.
          refine .condition around _ word enclosed ?_
          cases atom with
          | pattern text => cases yields
          | braces opening inner closing =>
              rw [Phrase.criteria, Phrase.criteria_operation] at yields
              cases yields
          | not | ifThen | ifThenElse => cases closed
          | modifier lexeme payload =>
              intro token member
              rcases List.mem_append.mp member with member | member
              · exact configures token member
              · cases List.mem_singleton.mp member
                exact ⟨lexeme, payload, rfl, yields, valid⟩
      | cons first rest =>
          have spans : Spans now base .condition atom.tokens (.group (first :: rest)) :=
            ⟨.bare atom, rfl, by rw [Phrase.tree, Phrase.criteria, yields],
              by rw [Phrase.criteria, yields]; exact List.cons_ne_nil _ _, valid, closed, greedy⟩
          have condition := configures.spans spans
          have read : (configuring ++ atom.tokens) = (configuring ++ atom.tokens) ++ [] :=
            (List.append_nil _).symm
          rw [read]
          exact .consequence around _ [] word enclosed condition .none
  | consequence around asked atoms word enclosed condition read =>
      rw [List.append_assoc, List.cons_append, List.append_assoc]
      exact .consequence around asked _ word enclosed condition (read.append atom valid greedy closed)
  | alternative around asked atoms word otherwise taken enclosed condition tree inhabited holds chosen
      resolved read =>
      rw [List.append_assoc, List.cons_append, List.append_assoc, List.append_assoc, List.cons_append]
      exact .alternative around asked _ word otherwise taken enclosed condition tree inhabited holds chosen
        resolved (read.append atom valid greedy closed)

theorem settle_covers (opened : Opened) (tokens : List Token) (covers : opened.Covers now base tokens)
    (added : List Criterion) (more : List Token) (ending : Ending now base true added more)
    (chain : Chain) (right : Criterion) (outer : Option Opened)
    (settled : opened.settle added = .ok (chain, right, outer)) :
    ∃ front operands atoms, tokens ++ more = front ++ (operands ++ atoms) ∧
      Front now base outer front ∧ chain.Covers now base operands ∧
      Spans now base .sequence atoms right := by
  -- From the inside out: each construct closes into one atom, which ends the sequence of what is around it.
  induction opened generalizing tokens added more with
  | whole kept items =>
      obtain ⟨_, read, same⟩ := ok_of_map _ _ _ settled
      cases same
      cases covers with
      | whole operands atoms waiting first =>
          obtain ⟨phrase, spelled, tree, inhabited, valid, greedy, -⟩ := sequence_spans first ending read
          refine ⟨[], operands, atoms ++ more, List.append_assoc _ _ _, .whole, waiting, ?_⟩
          exact ⟨phrase, spelled, tree, inhabited, valid, greedy⟩
  | braces kept items rest =>
      obtain ⟨_, read, same⟩ := ok_of_map _ _ _ settled
      cases same
      cases covers with
      | braces around operands atoms opening enclosed waiting first =>
          obtain ⟨phrase, spelled, tree, inhabited, valid, greedy, -⟩ := sequence_spans first ending read
          refine ⟨_, operands, atoms ++ more, ?_, .braces rest around opening enclosed, waiting, ?_⟩
          · simp
          · exact ⟨phrase, spelled, tree, inhabited, valid, greedy⟩
  | negation items rest ih =>
      obtain ⟨inner, read, settled⟩ := ok_of_bind _ _ _ settled
      cases covers with
      | negation around atoms word enclosed first =>
          obtain ⟨phrase, spelled, tree, inhabited, valid, greedy, -⟩ := sequence_spans first ending read
          have closed : Ending now base true [.not inner] (.keyword .not word :: (atoms ++ more)) := by
            rw [← tree, ← spelled]
            exact .some (.not word phrase) ⟨inhabited, valid⟩ greedy nofun
          have found := ih around enclosed _ _ closed settled
          simpa using found
  | condition rest ih => cases settled
  | consequence test items rest ih =>
      obtain ⟨whenTrue, read, settled⟩ := ok_of_bind _ _ _ settled
      cases covers with
      | consequence around asked atoms word enclosed condition first =>
          obtain ⟨phrase, spelled, tree, inhabited, valid, greedy, -⟩ := sequence_spans first ending read
          obtain ⟨asks, rfl, rfl, asking, holds, taken⟩ := condition
          have closed : Ending now base true [.ifThen (asks.tree now base) whenTrue]
              (.keyword .ifWord word :: (asks.tokens ++ (atoms ++ more))) := by
            rw [← tree, ← spelled]
            exact .some (.ifThen word asks phrase) ⟨⟨asking, holds⟩, inhabited, valid⟩ ⟨taken, greedy⟩
              nofun
          have found := ih around enclosed _ _ closed settled
          simpa using found
  | alternative test whenTrue items rest ih =>
      obtain ⟨whenFalse, read, settled⟩ := ok_of_bind _ _ _ settled
      cases covers with
      | alternative around asked atoms word otherwise chosen enclosed condition same filled correct picked
          resolved first =>
          obtain ⟨phrase, spelled, tree, inhabited, valid, greedy, -⟩ := sequence_spans first ending read
          obtain ⟨asks, rfl, rfl, asking, holds, taken⟩ := condition
          have closed : Ending now base true [.ifThenElse (asks.tree now base) whenTrue whenFalse]
              (.keyword .ifWord word ::
                (asks.tokens ++ (chosen.tokens ++ .keyword .elseWord otherwise :: (atoms ++ more)))) := by
            rw [← tree, ← spelled, ← same]
            exact .some (.ifThenElse word asks chosen otherwise phrase)
              ⟨⟨asking, holds⟩, ⟨filled, correct⟩, inhabited, valid⟩
              ⟨taken, ⟨resolved, picked⟩, greedy⟩ nofun
          have found := ih around enclosed _ _ closed settled
          simpa using found

theorem openAlternative_covers (opened : Opened) (tokens : List Token)
    (covers : opened.Covers now base tokens) (spelling : String) (added : List Criterion)
    (more : List Token) (ending : Ending now base false added more) (next : Opened)
    (ran : opened.openAlternative spelling added = .ok next) :
    next.Covers now base (tokens ++ (more ++ [.keyword .elseWord spelling])) := by
  -- Negations and conditions that have their alternative close on the way out to the consequence that waits for one.
  induction opened generalizing tokens added more with
  | whole kept items =>
      obtain ⟨_, _, ran⟩ := ok_of_bind _ _ _ ran
      cases ran
  | braces kept items rest =>
      obtain ⟨_, _, ran⟩ := ok_of_bind _ _ _ ran
      cases ran
  | negation items rest ih =>
      obtain ⟨inner, read, ran⟩ := ok_of_bind _ _ _ ran
      cases covers with
      | negation around atoms word enclosed first =>
          obtain ⟨phrase, spelled, tree, inhabited, valid, greedy, resolved⟩ :=
            sequence_spans first ending read
          have closed : Ending now base false [.not inner] (.keyword .not word :: (atoms ++ more)) := by
            rw [← tree, ← spelled]
            exact .some (.not word phrase) ⟨inhabited, valid⟩ greedy resolved
          simpa using ih around enclosed _ _ closed ran
  | condition rest ih => cases ran
  | consequence test items rest ih =>
      obtain ⟨whenTrue, read, ran⟩ := ok_of_bind _ _ _ ran
      cases ran
      cases covers with
      | consequence around asked atoms word enclosed condition first =>
          obtain ⟨phrase, spelled, tree, inhabited, valid, greedy, resolved⟩ :=
            sequence_spans first ending read
          have opens := Covers.alternative around asked [] word spelling phrase enclosed condition tree
            inhabited valid greedy (resolved rfl) .none
          simpa [spelled] using opens
  | alternative test whenTrue items rest ih =>
      obtain ⟨whenFalse, read, ran⟩ := ok_of_bind _ _ _ ran
      cases covers with
      | alternative around asked atoms word otherwise chosen enclosed condition same filled correct picked
          known first =>
          obtain ⟨phrase, spelled, tree, inhabited, valid, greedy, resolved⟩ :=
            sequence_spans first ending read
          obtain ⟨asks, rfl, rfl, asking, holds, taken⟩ := condition
          have closed : Ending now base false [.ifThenElse (asks.tree now base) whenTrue whenFalse]
              (.keyword .ifWord word ::
                (asks.tokens ++ (chosen.tokens ++ .keyword .elseWord otherwise :: (atoms ++ more)))) := by
            rw [← tree, ← spelled, ← same]
            exact .some (.ifThenElse word asks chosen otherwise phrase)
              ⟨⟨asking, holds⟩, ⟨filled, correct⟩, inhabited, valid⟩
              ⟨taken, ⟨known, picked⟩, greedy⟩ resolved
          simpa using ih around enclosed _ _ closed ran

end Opened

end FileSieve
