import Mathlib.Logic.Relation
import FileSieve.Query.Parser
import FileSieve.Proofs.Query.Emission

namespace FileSieve

namespace Parser

structure State where
  opened : Opened
  options : ScanOptions
  tokens : List Token

/-- What the parser does with its next token, unless it refuses it or ends there. -/
inductive Reads (source : LoadlineSource) (now : Instant) : State → State → Prop
  | keyword (opened next : Opened) (options : ScanOptions) (kind : Keyword) (spelling : String) (rest : List Token)
      (stepped : opened.keyword spelling kind = .ok next) :
      Reads source now ⟨opened, options, .keyword kind spelling :: rest⟩ ⟨next, options, rest⟩
  | pattern (opened : Opened) (options : ScanOptions) (text : String) (rest : List Token) :
      Reads source now ⟨opened, options, .pattern text :: rest⟩
        ⟨opened.add [.leaf (.wildcard (.ofText text options.base))], options, rest⟩
  | criteria (opened : Opened) (options : ScanOptions) (lexeme : String) (payload : Option String)
      (rest : List Token) (items : List Criterion)
      (interpreted : Modifier.interpret lexeme payload now options = .ok (.criteria items)) :
      Reads source now ⟨opened, options, .modifier lexeme payload :: rest⟩ ⟨opened.add items, options, rest⟩
  | options (opened : Opened) (options changed : ScanOptions) (lexeme : String) (payload : Option String)
      (rest : List Token) (interpreted : Modifier.interpret lexeme payload now options = .ok (.options changed)) :
      Reads source now ⟨opened, options, .modifier lexeme payload :: rest⟩ ⟨opened, changed, rest⟩
  | loadline (opened : Opened) (options : ScanOptions) (lexeme : String) (payload : Option String)
      (rest : List Token) (name : String) (behind line : List Token)
      (asks : (Token.modifier lexeme payload).asksLoadline = true)
      (named : loadlineName lexeme payload rest = .ok (name, behind))
      (fetched : loadlineTokens source name = .ok line) :
      Reads source now ⟨opened, options, .modifier lexeme payload :: rest⟩ ⟨opened, options, line ++ behind⟩

variable {source : LoadlineSource} {now : Instant}

/-- A parse that succeeds has kept at its end what each token keeps. -/
theorem read_keeps (Kept : State → Prop)
    (keeps : ∀ before after, Kept before → Reads source now before after → Kept after) {splices : Nat}
    {opened : Opened} {options : ScanOptions} {tokens : List Token} (start : Kept ⟨opened, options, tokens⟩)
    {criterion : Criterion} {final : ScanOptions}
    (ran : read source now splices opened options tokens = .ok (criterion, final)) :
    ∃ last rest, Kept ⟨last, final, rest⟩ ∧ last.finish = .ok criterion ∧ ∀ token ∈ rest.head?, token = .finish := by
  fun_induction read source now splices opened options tokens with
  | case1 splices opened options =>
      obtain ⟨_, finished, same⟩ := ok_of_map _ _ _ ran
      cases same
      exact ⟨opened, [], start, finished, nofun⟩
  | case2 splices opened options rest =>
      obtain ⟨_, finished, same⟩ := ok_of_map _ _ _ ran
      cases same
      exact ⟨opened, .finish :: rest, start, finished, by simp⟩
  | case3 splices opened options kind spelling rest ih =>
      obtain ⟨next, stepped, ran⟩ := ok_of_bind _ _ _ ran
      exact ih next (keeps _ _ start (.keyword opened next options kind spelling rest stepped)) ran
  | case4 splices opened options text rest pattern ih =>
      exact ih (keeps _ _ start (.pattern opened options text rest)) ran
  | case6 splices opened options lexeme payload rest items interpreted ih =>
      exact ih (keeps _ _ start (.criteria opened options lexeme payload rest items interpreted)) ran
  | case7 splices opened options lexeme payload rest changed interpreted ih =>
      exact ih (keeps _ _ start (.options opened options changed lexeme payload rest interpreted)) ran
  | case5 | case8 | case9 => cases ran
  | case10 opened options lexeme payload rest spelled interpreted name behind named splices ih =>
      obtain ⟨line, fetched, ran⟩ := ok_of_bind _ _ _ ran
      have asks := Modifier.asksLoadline_of_interpret interpreted
      -- That the token asks for a loadline can be seen without interpreting it, which steps rely on.
      rw [Modifier.interpret_loadline asks] at interpreted
      cases interpreted
      exact ih line (keeps _ _ start (.loadline opened options lexeme payload rest name behind line asks named fetched))
        ran

/-- The tokens that are left when the next one has been read. For a token that asks for a loadline, the tokens of the
loadline come in. -/
inductive Leaves (source : LoadlineSource) : List Token → List Token → Prop
  | token (token : Token) (rest : List Token) (goes : token ≠ .finish) (free : token.asksLoadline = false) :
      Leaves source (token :: rest) rest
  | loadline (lexeme : String) (payload : Option String) (rest : List Token) (name : String)
      (behind line : List Token) (asks : (Token.modifier lexeme payload).asksLoadline = true)
      (named : loadlineName lexeme payload rest = .ok (name, behind))
      (fetched : loadlineTokens source name = .ok line) :
      Leaves source (.modifier lexeme payload :: rest) (line ++ behind)

theorem free_of_interpret {lexeme : String} {payload : Option String} {options : ScanOptions} {effect : Effect}
    (interpreted : Modifier.interpret lexeme payload now options = .ok effect) (other : effect ≠ .loadline payload) :
    (Token.modifier lexeme payload).asksLoadline = false := by
  apply Bool.eq_false_iff.mpr
  intro asks
  rw [Modifier.interpret_loadline asks] at interpreted
  exact other (Except.ok.inj interpreted).symm

theorem Reads.leaves {before after : State} (reads : Reads source now before after) :
    Leaves source before.tokens after.tokens := by
  cases reads with
  | keyword | pattern => exact .token _ _ nofun rfl
  | criteria opened options lexeme payload rest items interpreted =>
      exact .token _ _ nofun (free_of_interpret interpreted nofun)
  | options opened options changed lexeme payload rest interpreted =>
      exact .token _ _ nofun (free_of_interpret interpreted nofun)
  | loadline opened options lexeme payload rest name behind line asks named fetched =>
      exact .loadline lexeme payload rest name behind line asks named fetched

end Parser
end FileSieve
