import FileSieve.Proofs.Query.Stepwise
import FileSieve.Proofs.Query.Progress
import FileSieve.Proofs.Query.Emission
import FileSieve.Proofs.Query.Spelling

/-! Braces isolate. An expression is read in the same steps whether it stands alone or in braces inside of
something else: what stands around it is kept as a frame that no step looks at, as long as there are levels and
splices left. -/

namespace FileSieve

namespace Opened

/-- What is open in an expression, with the expression in braces if something is open around it. -/
def within (outer : Option Opened) : Opened → Opened
  | whole chain items =>
    match outer with
    | none => whole chain items
    | some outer => braces chain items outer
  | braces chain items inner => braces chain items (inner.within outer)
  | negation items inner => negation items (inner.within outer)
  | condition inner => condition (inner.within outer)
  | consequence test items inner => consequence test items (inner.within outer)
  | alternative test whenTrue items inner => alternative test whenTrue items (inner.within outer)

def beyond (outer : Option Opened) : Option Opened → Option Opened
  | none => outer
  | some inner => some (inner.within outer)

theorem within_none (opened : Opened) : opened.within none = opened := by
  induction opened with
  | whole => rfl
  | braces chain items inner ih | negation items inner ih | condition inner ih
  | consequence test items inner ih | alternative test whenTrue items inner ih => rw [within, ih]

theorem within_depth (opened outer : Opened) :
    (opened.within (some outer)).depth = outer.depth + 1 + opened.depth := by
  induction opened with
  | whole chain items => rfl
  | braces chain items inner ih | negation items inner ih | condition inner ih
  | consequence test items inner ih | alternative test whenTrue items inner ih =>
      rw [within, depth, depth, ih]
      omega

theorem within_add (opened : Opened) (outer : Option Opened) (items : List Criterion) :
    (opened.add items).within outer = (opened.within outer).add items := by
  cases opened with
  | whole => cases outer <;> rfl
  | condition inner =>
      rw [within, add, add]
      split <;> rfl
  | braces | negation | consequence | alternative => rfl

theorem within_enclose (chain : Chain) (outer around : Option Opened) :
    (enclose chain around).within outer = enclose chain (beyond outer around) := by
  cases around with
  | none => cases outer <;> rfl
  | some inner => rfl

theorem within_settle (opened : Opened) (outer : Option Opened) (added : List Criterion) (chain : Chain)
    (right : Criterion) (around : Option Opened) (settled : opened.settle added = .ok (chain, right, around)) :
    (opened.within outer).settle added = .ok (chain, right, beyond outer around) := by
  induction opened generalizing added with
  | whole kept items | braces kept items inner =>
      obtain ⟨_, sequenced, same⟩ := ok_of_map _ _ _ settled
      cases same
      cases outer <;> simp only [within, settle, sequenced] <;> rfl
  | negation items inner ih | consequence test items inner ih | alternative test whenTrue items inner ih =>
      obtain ⟨_, sequenced, settled⟩ := ok_of_bind _ _ _ settled
      rw [within, settle, sequenced]
      exact ih _ settled
  | condition inner => cases settled

theorem within_openAlternative (opened : Opened) (outer : Option Opened) (spelling : String)
    (added : List Criterion) (next : Opened) (ran : opened.openAlternative spelling added = .ok next) :
    (opened.within outer).openAlternative spelling added = .ok (next.within outer) := by
  induction opened generalizing added with
  | whole | braces =>
      obtain ⟨_, _, ran⟩ := ok_of_bind _ _ _ ran
      cases ran
  | negation items inner ih | alternative test whenTrue items inner ih =>
      obtain ⟨_, sequenced, ran⟩ := ok_of_bind _ _ _ ran
      rw [within, openAlternative, sequenced]
      exact ih _ ran
  | consequence test items inner =>
      obtain ⟨_, sequenced, ran⟩ := ok_of_bind _ _ _ ran
      cases ran
      rw [within, openAlternative, sequenced]
      rfl
  | condition inner => cases ran

def FitsWithin (opened : Opened) : Option Opened → Prop
  | none => True
  | some outer => outer.depth + 1 + opened.depth ≤ maxDepth

section

variable (opened next : Opened) (outer : Option Opened)

theorem within_bounded (fits : next.FitsWithin outer) (ran : opened.bounded = .ok next) :
    (opened.within outer).bounded = .ok (next.within outer) := by
  cases bounded_eq opened next ran
  cases outer with
  | none => rw [within_none, ran]
  | some outer => exact bounded_ok _ (by rw [within_depth]; exact fits)

theorem within_operator (push : Chain → Criterion → Chain) (fits : next.FitsWithin outer)
    (ran : operator push opened = .ok next) :
    operator push (opened.within outer) = .ok (next.within outer) := by
  obtain ⟨⟨chain, right, around⟩, settled, _⟩ := ok_of_bind _ _ _ ran
  rw [operator_eq push settled] at ran
  rw [operator_eq push (within_settle opened outer [] chain right around settled), ← within_enclose]
  exact within_bounded _ next outer fits ran

theorem within_closeBraces (ran : opened.closeBraces = .ok next) :
    (opened.within outer).closeBraces = .ok (next.within outer) := by
  obtain ⟨⟨chain, right, around⟩, settled, ran⟩ := ok_of_bind _ _ _ ran
  cases around with
  | none => cases ran
  | some inner =>
      cases ran
      rw [closeBraces, within_settle opened outer [] chain right _ settled, within_add]
      rfl

theorem within_keyword (spelling : String) (kind : Keyword) (fits : next.FitsWithin outer)
    (ran : opened.keyword spelling kind = .ok next) :
    (opened.within outer).keyword spelling kind = .ok (next.within outer) := by
  cases kind with
  | openBrace => exact within_bounded (braces Chain.empty [] opened) next outer fits ran
  | closeBrace => exact within_closeBraces opened next outer ran
  | and => exact within_operator opened next outer Chain.pushAll fits ran
  | or => exact within_operator opened next outer Chain.pushAny fits ran
  | xor => exact within_operator opened next outer Chain.pushXor fits ran
  | not => exact within_bounded (negation [] opened) next outer fits ran
  | ifWord => exact within_bounded (condition opened) next outer fits ran
  | elseWord => exact within_openAlternative opened outer spelling [] next ran

end

theorem within_finish (opened outer : Opened) (criterion : Criterion) (ended : opened.finish = .ok criterion) :
    (opened.within (some outer)).closeBraces = .ok (outer.add [criterion]) := by
  obtain ⟨⟨chain, right, around⟩, settled, ended⟩ := ok_of_bind _ _ _ ended
  cases around with
  | some inner => cases ended
  | none =>
      cases ended
      rw [closeBraces, within_settle opened (some outer) [] chain right none settled]
      rfl

end Opened

theorem Token.ofWord_ne_finish (text : List Char) (quoted : Bool) : ofWord text quoted ≠ .finish := by
  unfold ofWord
  split <;> nofun

namespace Lexer

theorem step_endless (c : Char) (rest : List Char) (mode next : Mode) (token : Token)
    (stepped : step c rest mode = (next, some token)) : token ≠ .finish := by
  unfold step at stepped
  grind [modifierToken, Token.ofWord_ne_finish]

theorem read_endless (mode : Mode) (text : List Char) (tokens : List Token)
    (ran : read mode text = .ok tokens) : .finish ∉ tokens := by
  have steps (c : Char) (rest : List Char) (mode : Mode) (_ : True) :
      True ∧ ∀ token ∈ (step c rest mode).2, token ≠ .finish :=
    ⟨trivial, fun token emitted => step_endless c rest mode _ token (Prod.ext rfl emitted)⟩
  have ends (mode : Mode) (tokens : List Token) (_ : True) (ran : finish mode = .ok tokens) :
      ∀ token ∈ tokens, token ≠ .finish := by
    cases mode <;> cases ran <;> simp [modifierToken, Token.ofWord_ne_finish]
  intro member
  exact read_forall (fun _ => True) (· ≠ .finish) steps ends mode text tokens trivial ran _ member rfl

end Lexer

theorem Parser.loadlineTokens_endless (source : LoadlineSource) (name : String) (line : List Token)
    (fetched : loadlineTokens source name = .ok line) : .finish ∉ line := by
  unfold loadlineTokens at fetched
  split at fetched
  · cases fetched
  · rename_i text _
    cases tokenized : Lexer.read .between text.toList with
    | error unclosed =>
        rw [tokenizeFragment, tokenized] at fetched
        cases fetched
    | ok tokens =>
        rw [tokenizeFragment, tokenized] at fetched
        cases fetched
        exact Lexer.read_endless _ _ _ tokenized

def Modifier.change (lexeme : String) (payload : Option String) (now : Instant) (options : ScanOptions) :
    ScanOptions :=
  match interpret lexeme payload now options with
  | .ok (.options changed) => changed
  | _ => options

namespace Parsing

structure Part where
  passed : List Token
  rest : List Token
  asked : List String
  opened : Opened

/-- What stands around an expression: the tokens and requests before it, the constructs in which it stands in
braces, and the tokens behind it. -/
structure Frame where
  front : List Token
  asked : List String
  outer : Option Opened
  behind : List Token

namespace Frame

def around (frame : Frame) (part : Part) (options : ScanOptions) : Parsing :=
  midway (frame.front ++ part.passed) (part.rest ++ frame.behind) (frame.asked ++ part.asked)
    (part.opened.within frame.outer) options

def alone : Frame := ⟨[], [], none, [.finish]⟩

def HasRoom (frame : Frame) (asked : List String) (opened : Opened) : Prop :=
  (frame.asked ++ asked).length ≤ maxSplices ∧ opened.FitsWithin frame.outer

theorem around_alone (part : Part) (options : ScanOptions) :
    alone.around part options =
      midway part.passed (part.rest ++ [.finish]) part.asked part.opened options := by
  rw [around, alone, Opened.within_none]
  rfl

end Frame

theorem Frame.alone_hasRoom (parsing : Parsing) (kept : Kept parsing) :
    alone.HasRoom parsing.asked parsing.opened := by
  cases kept with
  | underway passed rest asked opened options plain few => exact ⟨few, trivial⟩
  | ended passed rest asked opened options result plain few => exact ⟨few, trivial⟩

/-- A step inside an expression does the same wherever the expression stands and whatever the options are, and
changes the options in one way only. -/
structure Carries (source : LoadlineSource) (now : Instant) (base : Path) (part next : Part)
    (change : ScanOptions → ScanOptions) : Prop where
  plain : .finish ∉ next.rest
  few : next.asked.length ≤ maxSplices
  kept : ∀ options : ScanOptions, options.base = base → (change options).base = base
  same : ∀ frame : Frame, frame.HasRoom next.asked next.opened →
    ∀ options : ScanOptions, options.base = base →
      (frame.around part options).step source now = frame.around next (change options)

section

variable {source : LoadlineSource} {now : Instant} {options : ScanOptions}
variable {passed rest : List Token} {asked : List String} {opened : Opened}
variable (plain : .finish ∉ rest) (few : asked.length ≤ maxSplices)

include plain few

theorem carries_keyword (kind : Keyword) (spelling : String) (next : Opened)
    (turned : opened.keyword spelling kind = .ok next) :
    Carries source now options.base ⟨passed, .keyword kind spelling :: rest, asked, opened⟩
      ⟨passed ++ [.keyword kind spelling], rest, asked, next⟩ id where
  plain := plain
  few := few
  kept _ same := same
  same frame room other _ := by
    have turned := Opened.within_keyword opened next frame.outer spelling kind room.2 turned
    rw [Frame.around, List.cons_append, step_keyword, turned, List.append_assoc]
    rfl

theorem carries_pattern (text : String) :
    Carries source now options.base ⟨passed, .pattern text :: rest, asked, opened⟩
      ⟨passed ++ [.pattern text], rest, asked,
        opened.add [.leaf (.wildcard (.ofText text options.base))]⟩ id where
  plain := plain
  few := few
  kept _ same := same
  same frame _ other same := by
    rw [Frame.around, List.cons_append, step_pattern, same, ← Opened.within_add, List.append_assoc]
    rfl

theorem carries_criteria (lexeme : String) (payload : Option String) (items : List Criterion)
    (free : (Token.modifier lexeme payload).asksLoadline = false)
    (interpreted : Modifier.interpret lexeme payload now options = .ok (.criteria items)) :
    Carries source now options.base ⟨passed, .modifier lexeme payload :: rest, asked, opened⟩
      ⟨passed ++ [.modifier lexeme payload], rest, asked, opened.add items⟩ id where
  plain := plain
  few := few
  kept _ same := same
  same frame _ other same := by
    have alike := Modifier.interpret_alike lexeme payload now options other same free
    rw [Frame.around, List.cons_append, step_modifier]
    rw [interpreted] at alike
    generalize Modifier.interpret lexeme payload now other = result at alike ⊢
    cases alike with
    | criteria items =>
        dsimp only
        rw [← Opened.within_add, List.append_assoc]
        rfl

theorem carries_options (lexeme : String) (payload : Option String) (changed : ScanOptions)
    (free : (Token.modifier lexeme payload).asksLoadline = false)
    (interpreted : Modifier.interpret lexeme payload now options = .ok (.options changed)) :
    Carries source now options.base ⟨passed, .modifier lexeme payload :: rest, asked, opened⟩
      ⟨passed ++ [.modifier lexeme payload], rest, asked, opened⟩
      (Modifier.change lexeme payload now) where
  plain := plain
  few := few
  kept other same := by
    have alike := Modifier.interpret_alike lexeme payload now options other same free
    rw [interpreted] at alike
    rw [Modifier.change]
    generalize Modifier.interpret lexeme payload now other = result at alike ⊢
    cases alike with
    | options first second kept again => exact again
  same frame _ other same := by
    have alike := Modifier.interpret_alike lexeme payload now options other same free
    rw [interpreted] at alike
    rw [Frame.around, List.cons_append, step_modifier, Modifier.change]
    generalize Modifier.interpret lexeme payload now other = result at alike ⊢
    cases alike with
    | options first second kept again =>
        dsimp only
        rw [List.append_assoc]
        rfl

end

theorem loadlineName_append {lexeme name : String} {payload : Option String} {rest left : List Token}
    (named : Parser.loadlineName lexeme payload (rest ++ [.finish]) = .ok (name, left)) :
    ∃ word after, rest = word ++ after ∧ ∀ behind,
      Parser.loadlineName lexeme payload (rest ++ behind) = .ok (name, after ++ behind) := by
  cases payload with
  | some spelled =>
      cases empty : spelled.isEmpty <;> simp [Parser.loadlineName, empty] at named
      obtain ⟨rfl, rfl⟩ := named
      exact ⟨[], rest, rfl, by simp [Parser.loadlineName, empty]⟩
  | none =>
      cases rest with
      | nil => cases named
      | cons token rest =>
          cases token with
          | pattern spelled =>
              cases empty : spelled.isEmpty <;> simp [Parser.loadlineName, empty] at named
              obtain ⟨rfl, rfl⟩ := named
              exact ⟨[.pattern spelled], rest, rfl, by simp [Parser.loadlineName, empty]⟩
          | keyword | modifier | finish => cases named

section

variable (source : LoadlineSource) (now : Instant)

theorem carries_loadline {passed rest left line : List Token} {asked : List String} (opened : Opened)
    (base : Path) {lexeme name : String} {payload : Option String} (plain : .finish ∉ rest)
    (asks : (Token.modifier lexeme payload).asksLoadline = true)
    (named : Parser.loadlineName lexeme payload (rest ++ [.finish]) = .ok (name, left))
    (fetched : Parser.loadlineTokens source name = .ok line) (few : asked.length < maxSplices) :
    ∃ next, Carries source now base ⟨passed, .modifier lexeme payload :: rest, asked, opened⟩ next id := by
  obtain ⟨word, after, rfl, names⟩ := loadlineName_append named
  refine ⟨⟨passed ++ ([.modifier lexeme payload] ++ word), line ++ after, asked ++ [name], opened⟩, ?_⟩
  constructor
  · have endless := Parser.loadlineTokens_endless source name line fetched
    rw [List.mem_append, not_or] at plain ⊢
    exact ⟨endless, plain.2⟩
  · rw [List.length_append, List.length_singleton]
    exact few
  · exact fun _ same => same
  · intro frame room other _
    have free : ¬ maxSplices ≤ (frame.asked ++ asked).length := by
      have bounded := room.1
      simp only [List.length_append, List.length_singleton] at bounded ⊢
      omega
    rw [Frame.around, List.cons_append, step_modifier, Modifier.interpret_loadline asks]
    obtain ⟨read, split, _, requested⟩ := request_named (frame.front ++ passed ++ [.modifier lexeme payload])
      (word ++ after ++ frame.behind) (frame.asked ++ asked) (opened.within frame.outer) other source
      (names frame.behind)
    rw [List.append_assoc] at split
    cases List.append_cancel_right split
    dsimp only
    rw [requested, ask_midway, if_neg free, fetched]
    simp [Frame.around]

theorem request_answered (passed rest : List Token) (asked : List String) (opened : Opened)
    (options : ScanOptions) (lexeme : String) (payload : Option String)
    (goes : ∀ error, ((midway passed rest asked opened options).request source lexeme payload).result ≠
      some (.error error)) :
    ∃ name left line, Parser.loadlineName lexeme payload rest = .ok (name, left) ∧
      Parser.loadlineTokens source name = .ok line ∧ asked.length < maxSplices := by
  cases named : Parser.loadlineName lexeme payload rest with
  | error error =>
      obtain ⟨_, _, _, _, requested⟩ := request_unnamed passed rest asked opened options source named
      rw [requested] at goes
      exact absurd rfl (goes error)
  | ok found =>
      obtain ⟨name, left⟩ := found
      obtain ⟨_, _, _, requested⟩ := request_named passed rest asked opened options source named
      rw [requested, ask_midway] at goes
      split at goes
      · exact absurd rfl (goes .loadlineDepth)
      · rename_i room
        cases fetched : Parser.loadlineTokens source name with
        | error error =>
            rw [fetched] at goes
            exact absurd rfl (goes error)
        | ok line => exact ⟨name, left, line, rfl, fetched, Nat.not_le.mp room⟩

theorem step_carries (part : Part) (options : ScanOptions) (plain : .finish ∉ part.rest)
    (inhabited : part.rest ≠ []) (few : part.asked.length ≤ maxSplices)
    (goes : ∀ error, ((Frame.alone.around part options).step source now).result ≠ some (.error error)) :
    ∃ next change, Carries source now options.base part next change := by
  obtain ⟨passed, rest, asked, opened⟩ := part
  rw [Frame.around_alone] at goes
  cases rest with
  | nil => exact absurd rfl inhabited
  | cons token rest =>
      dsimp only at plain few goes
      rw [List.mem_cons, not_or] at plain
      obtain ⟨other, plain⟩ := plain
      rw [List.cons_append] at goes
      cases token with
      | finish => exact absurd rfl other
      | keyword kind spelling =>
          rw [step_keyword] at goes
          cases turned : opened.keyword spelling kind with
          | error error => exact absurd (by rw [turned]; rfl) (goes error)
          | ok next => exact ⟨_, _, carries_keyword plain few kind spelling next turned⟩
      | pattern text => exact ⟨_, _, carries_pattern plain few text⟩
      | modifier lexeme payload =>
          rw [step_modifier] at goes
          cases interpreted : Modifier.interpret lexeme payload now options with
          | error error => exact absurd (by rw [interpreted]; rfl) (goes error)
          | ok effect =>
              rw [interpreted] at goes
              cases asks : (Token.modifier lexeme payload).asksLoadline with
              | true =>
                  rw [Modifier.interpret_loadline asks] at interpreted
                  cases interpreted
                  obtain ⟨name, left, line, named, fetched, room⟩ := request_answered source _ _ _ _ _ _ _ goes
                  obtain ⟨next, carries⟩ :=
                    carries_loadline source now opened options.base plain asks named fetched room
                  exact ⟨next, id, carries⟩
              | false =>
                  cases effect with
                  | criteria items =>
                      exact ⟨_, _, carries_criteria plain few lexeme payload items asks interpreted⟩
                  | options changed =>
                      exact ⟨_, _, carries_options plain few lexeme payload changed asks interpreted⟩
                  | loadline name =>
                      rw [Modifier.asksLoadline_of_interpret interpreted] at asks
                      cases asks

theorem run_carries (part : Part) (options final : ScanOptions) (criterion : Criterion)
    (plain : .finish ∉ part.rest) (few : part.asked.length ≤ maxSplices) (steps : Nat)
    (ended : ((Frame.alone.around part options).run source now steps).result = some (.ok (criterion, final))) :
    ∃ (count : Nat) (passed : List Token) (asked : List String) (last : Opened)
      (change : ScanOptions → ScanOptions), last.finish = .ok criterion ∧
      ∀ frame : Frame, (∀ taken, frame.HasRoom ((Frame.alone.around part options).run source now taken).asked
          ((Frame.alone.around part options).run source now taken).opened) →
        ∀ other : ScanOptions, other.base = options.base →
          (frame.around part other).run source now count =
            frame.around ⟨passed, [], asked, last⟩ (change other) := by
  induction steps generalizing part options with
  | zero => cases ended
  | succ steps ih =>
      rw [run] at ended
      by_cases empty : part.rest = []
      · obtain ⟨passed, rest, asked, last⟩ := part
        cases empty
        rw [Frame.around_alone, step_finish passed _ asked last options source now rfl] at ended
        rw [run_result source now _ _ rfl] at ended
        obtain ⟨_, finished, same⟩ := ok_of_map _ _ _ (Option.some.inj ended)
        cases same
        exact ⟨0, passed, asked, last, id, finished, fun _ _ _ _ => rfl⟩
      · have goes (error : ParseError) :
            ((Frame.alone.around part options).step source now).result ≠ some (.error error) := by
          intro failed
          rw [run_result source now _ _ failed, failed] at ended
          cases ended
        obtain ⟨next, change, carries⟩ := step_carries source now part options plain empty few goes
        have stepped := carries.same .alone ⟨carries.few, trivial⟩ options rfl
        have kept := carries.kept options rfl
        rw [stepped] at ended
        obtain ⟨count, passed, asked, last, more, finished, reads⟩ :=
          ih next (change options) carries.plain carries.few ended
        refine ⟨count + 1, passed, asked, last, more ∘ change, finished, ?_⟩
        intro frame room other same
        -- The room asked for covers the step at hand and every later one.
        have first := room 1
        have later (taken : Nat) := room (taken + 1)
        simp only [run, stepped] at first later
        rw [Frame.around_alone] at first
        rw [run, carries.same frame first other same]
        exact reads frame later (change other) ((carries.kept other same).trans kept.symm)

end

/-- Levels and splices are left for an expression in braces, of which the other is a parse on its own. -/
def HasRoom (parsing own : Parsing) : Prop :=
  parsing.asked.length + own.asked.length ≤ maxSplices ∧
    parsing.opened.depth + 1 + own.opened.depth ≤ maxDepth

def bracing (parsing : Parsing) (opening closing : String) (behind : List Token) : Frame where
  front := parsing.tokens.take parsing.cursor ++ [.keyword .openBrace opening]
  asked := parsing.asked
  outer := some parsing.opened
  behind := .keyword .closeBrace closing :: behind

theorem HasRoom.bracing {parsing own : Parsing} (room : parsing.HasRoom own) (opening closing : String)
    (behind : List Token) : (parsing.bracing opening closing behind).HasRoom own.asked own.opened := by
  refine ⟨?_, room.2⟩
  rw [List.length_append]
  exact room.1

section

variable (source : LoadlineSource) (now : Instant)

theorem step_openBrace (parsing : Parsing) (opening closing : String) (expression behind : List Token)
    (underway : parsing.result = none) (room : parsing.opened.depth + 1 ≤ maxDepth)
    (left : parsing.tokens.drop parsing.cursor =
      .keyword .openBrace opening :: (expression ++ .keyword .closeBrace closing :: behind)) :
    parsing.step source now =
      (parsing.bracing opening closing behind).around ⟨[], expression, [], .whole Chain.empty []⟩
        parsing.options := by
  have bounded : (Opened.braces Chain.empty [] parsing.opened).bounded =
      .ok (.braces Chain.empty [] parsing.opened) := Opened.bounded_ok _ room
  have midst := eq_midway parsing underway _ _ left
  calc
    parsing.step source now = _ := by rw [midst, step_keyword, Opened.keyword, bounded]
    _ = _ := by simp [Frame.around, bracing, Opened.within]

theorem step_closeBrace (parsing : Parsing) (opening closing : String) (read behind : List Token)
    (asked : List String) (last : Opened) (options : ScanOptions) (criterion : Criterion)
    (finished : last.finish = .ok criterion) :
    ((parsing.bracing opening closing behind).around ⟨read, [], asked, last⟩ options).step source now =
      midway (parsing.tokens.take parsing.cursor ++
          (.keyword .openBrace opening :: (read ++ [.keyword .closeBrace closing])))
        behind (parsing.asked ++ asked) (parsing.opened.add [criterion]) options := by
  rw [Frame.around, bracing, List.nil_append, step_keyword, Opened.keyword,
    Opened.within_finish last parsing.opened criterion finished]
  simp

end

/-- Braces isolate. An expression that parses on its own changes the options in one way, whatever they are. In
braces, wherever an atom can stand and as long as there is room, it adds the criterion that it has on its own,
changes the options in the same way, and leaves the cursor behind the closing brace with the depth restored. -/
theorem braces_isolate (source : LoadlineSource) (now : Instant) (expression : List Token)
    (alone final : ScanOptions) (criterion : Criterion) (plain : .finish ∉ expression)
    (parsed : parseTokens source now alone (expression ++ [.finish]) = .ok (criterion, final)) :
    ∃ (change : ScanOptions → ScanOptions) (read : List Token) (asked : List String), change alone = final ∧
      (∀ options : ScanOptions, options.base = alone.base →
        parseTokens source now options (expression ++ [.finish]) = .ok (criterion, change options)) ∧
      ∀ (parsing : Parsing) (opening closing : String) (behind : List Token),
        parsing.result = none → parsing.options.base = alone.base →
        parsing.tokens.drop parsing.cursor =
          .keyword .openBrace opening :: (expression ++ .keyword .closeBrace closing :: behind) →
        (∀ steps, parsing.HasRoom ((start alone (expression ++ [.finish])).run source now steps)) →
        ∃ steps,
          parsing.run source now steps =
            midway (parsing.tokens.take parsing.cursor ++
                (.keyword .openBrace opening :: (read ++ [.keyword .closeBrace closing])))
              behind (parsing.asked ++ asked) (parsing.opened.add [criterion]) (change parsing.options) ∧
          (parsing.opened.add [criterion]).depth = parsing.opened.depth := by
  have begins (options : ScanOptions) : start options (expression ++ [.finish]) =
      Frame.alone.around ⟨[], expression, [], .whole Chain.empty []⟩ options :=
    (Frame.around_alone ⟨[], expression, [], _⟩ options).symm
  obtain ⟨steps, ended⟩ := start_ends source now alone (expression ++ [.finish])
  rw [parsed, begins] at ended
  obtain ⟨count, read, asked, last, change, finished, reads⟩ :=
    run_carries source now _ alone final criterion plain (Nat.zero_le _) steps ended
  simp only [← begins] at reads
  have changes (options : ScanOptions) (same : options.base = alone.base) :
      parseTokens source now options (expression ++ [.finish]) = .ok (criterion, change options) := by
    have room (taken : Nat) := Frame.alone_hasRoom _
      (run_kept source now _ (start_kept alone (expression ++ [.finish])) taken)
    apply parseTokens_of_run source now options _ (count + 1)
    rw [run_add, begins, reads .alone room options same, Frame.around_alone, run, run,
      step_finish read _ asked last (change options) source now rfl, finished]
    rfl
  -- What the expression does is fixed by the run on its own; the run between braces repeats it step by step.
  refine ⟨change, read, asked, ?_, changes, ?_⟩
  · have same := changes alone rfl
    rw [parsed] at same
    cases same
    rfl
  · intro parsing opening closing behind underway same left room
    have framed (taken : Nat) := (room taken).bracing opening closing behind
    have opens := step_openBrace source now parsing opening closing expression behind underway (room 0).2 left
    have body := reads (parsing.bracing opening closing behind) framed parsing.options same
    have closes := step_closeBrace source now parsing opening closing read behind asked last
      (change parsing.options) criterion finished
    refine ⟨1 + count + 1, ?_, Opened.add_depth _ _⟩
    calc
      parsing.run source now (1 + count + 1)
        = (((parsing.step source now).run source now count).step source now) := by
          rw [run_add, run_add]
          rfl
      _ = _ := by rw [opens, body, closes]

def eitherType : LoadlineSource := fun _ => .ok "-tA XOR -tD"

def flatSearch : List Token :=
  [.modifier "-n" none, .modifier "-tA" none, .keyword .or "OR", .modifier "--loadline" (some "either")]

def flatCriterion : Criterion :=
  .any [.xor (.leaf (.type .directory)) (.leaf (.type .archive)), .leaf (.type .archive)]

def five : ScanOptions := { ScanOptions.initial (.ofString "/") with limit := some 5 }

def fiveOutside : Parsing :=
  (start five ([.keyword .not "NOT", .keyword .openBrace "\x7b"] ++ flatSearch ++
    [.keyword .closeBrace "\x7d", .modifier "-tD" none, .finish])).run eitherType ⟨0, 0⟩ 1

theorem braces_isolate_flatSearch :
    .finish ∉ flatSearch ∧
    parseTokens eitherType ⟨0, 0⟩ (.initial (.ofString "/")) (flatSearch ++ [.finish]) =
      .ok (flatCriterion, { ScanOptions.initial (.ofString "/") with recursive := false }) ∧
    fiveOutside.result = none ∧ fiveOutside.options = five ∧
    fiveOutside.tokens.drop fiveOutside.cursor =
      .keyword .openBrace "\x7b" ::
        (flatSearch ++ .keyword .closeBrace "\x7d" :: [.modifier "-tD" none, .finish]) ∧
    (∀ steps, fiveOutside.HasRoom
      ((start (.initial (.ofString "/")) (flatSearch ++ [.finish])).run eitherType ⟨0, 0⟩ steps)) ∧
    ∃ read asked steps,
      fiveOutside.run eitherType ⟨0, 0⟩ steps =
        midway (fiveOutside.tokens.take fiveOutside.cursor ++
            (.keyword .openBrace "\x7b" :: (read ++ [.keyword .closeBrace "\x7d"])))
          [.modifier "-tD" none, .finish] (fiveOutside.asked ++ asked)
          (.negation [flatCriterion] (.whole Chain.empty [])) { five with recursive := false } := by
  have plain : .finish ∉ flatSearch := by decide
  have alone : parseTokens eitherType ⟨0, 0⟩ (.initial (.ofString "/")) (flatSearch ++ [.finish]) =
      .ok (flatCriterion, { ScanOptions.initial (.ofString "/") with recursive := false }) :=
    parseTokens_of_run eitherType ⟨0, 0⟩ _ _ 8 _ rfl
  have limited : parseTokens eitherType ⟨0, 0⟩ five (flatSearch ++ [.finish]) =
      .ok (flatCriterion, { five with recursive := false }) :=
    parseTokens_of_run eitherType ⟨0, 0⟩ _ _ 8 _ rfl
  have room (steps : Nat) : fiveOutside.HasRoom
      ((start (.initial (.ofString "/")) (flatSearch ++ [.finish])).run eitherType ⟨0, 0⟩ steps) := by
    obtain ⟨fewer, few, same⟩ := run_within eitherType ⟨0, 0⟩
      (start (.initial (.ofString "/")) (flatSearch ++ [.finish])) 8 _ rfl steps
    rw [same]
    clear same
    unfold HasRoom
    revert fewer
    decide
  obtain ⟨change, read, asked, _, changes, isolates⟩ :=
    braces_isolate eitherType ⟨0, 0⟩ flatSearch _ _ _ plain alone
  have changed : { five with recursive := false } = change fiveOutside.options :=
    congrArg Prod.snd (Except.ok.inj (limited.symm.trans (changes five rfl)))
  obtain ⟨steps, ran, _⟩ :=
    isolates fiveOutside "\x7b" "\x7d" [.modifier "-tD" none, .finish] rfl rfl rfl room
  rw [← changed] at ran
  exact ⟨plain, alone, rfl, rfl, rfl, room, read, asked, steps, ran⟩

end Parsing

end FileSieve
