import FileSieve.Proofs.Query.Cuts
import FileSieve.Proofs.Query.Modifiers
import FileSieve.Proofs.Query.Spelling

/-! No place is out of range. What a modifier cuts off, it has; the cursor stays inside the tokens; and the lexer
gives every modifier its dash. So the parser that counts places is the parser. -/

namespace FileSieve

namespace Sliced

theorem digestItem?_eq (algorithm : Algorithm) (item : List Char) :
    digestItem? algorithm item = some (Modifier.digestItem algorithm item) := by
  rw [digestItem?, hex?_eq, Modifier.digestItem]
  simp only [Option.bind_eq_bind, Option.bind_some]
  cases (Hex.decode? item).filter (·.length = algorithm.digestLength) <;> rfl

theorem digestList?_eq (algorithm : Algorithm) (text : List Char) :
    digestList? algorithm text = some (Modifier.digestList algorithm text) := by
  rw [digestList?, Modifier.digestList]
  generalize ((Modifier.splitItems text).map trimBlanks).filter (· ≠ []) = items
  have each (items : List (List Char)) :
      items.mapM (digestItem? algorithm) = some (items.map (Modifier.digestItem algorithm)) := by
    rw [funext (digestItem?_eq algorithm)]
    exact List.mapM_pure
  cases items with
  | nil => rfl
  | cons item rest =>
    simp only [each, Option.bind_eq_bind, Option.bind_some, List.mapM_map]
    rfl

theorem hexNeedle?_eq (text : List Char) : hexNeedle? text = some (Modifier.hexNeedle? text) := by
  rw [hexNeedle?, hex?_eq]
  rfl

def Dashed (lexeme : String) : Prop := lexeme.toList.head? = some '-'

theorem short?_eq {lexeme : String} (dashed : Dashed lexeme) (payload : Option String) (now : Instant)
    (options : ScanOptions) :
    short? lexeme payload now options = some (Modifier.short lexeme payload now options) := by
  obtain ⟨rest, split⟩ := List.head?_eq_some_iff.mp dashed
  have cut : Slice.from? lexeme.toList 1 = some rest := by
    rw [split]
    exact Slice.from?_one rfl
  rw [short?, Modifier.short, cut, split, List.drop_one, List.tail_cons]
  simp only [Option.bind_eq_bind, Option.bind_some, size?_eq, dateTest?_eq]
  cases rest with
  | nil => rfl
  | cons letter inline =>
    dsimp only
    generalize (if inline = [] then (payload.getD "").toList else inline) = argument
    generalize letter.toLower = lower
    split
    · split <;> rfl
    · cases SizeLiteral.parse? argument <;> rfl
    · rfl
    · rfl
    · rfl
    · rfl
    · split <;> rfl
    · simp

/-- Behind another first character place 1 is not the end of that character. -/
example (now : Instant) (options : ScanOptions) : short? "ü1" none now options = none := rfl

theorem withPayload?_eq (lexeme name : String) (text : List Char) (options : ScanOptions) :
    withPayload? lexeme name text options = some (Modifier.withPayload lexeme name text options) := by
  by_cases hex : name = "hex"
  · subst hex
    rw [withPayload?, hexNeedle?_eq]
    rfl
  by_cases skip : name = "skip"
  · subst skip
    rw [withPayload?, skipDirectory?_eq]
    rfl
  rw [withPayload?]
  · cases named : Algorithm.ofName? name.toList with
    | none => rfl
    | some algorithm =>
      rw [Modifier.withPayload, named]
      · simp only [digestList?_eq]
        rfl
      all_goals
        rintro rfl
        cases named
  · exact hex
  · exact skip

theorem long?_eq (lexeme name : String) (payload : Option String) (options : ScanOptions) :
    long? lexeme name payload options = some (Modifier.long lexeme name payload options) := by
  rw [long?]
  cases needs : Modifier.needsPayload name with
  | false => rfl
  | true =>
    rw [Modifier.long, needs]
    · cases (payload.getD "").toList with
      | nil => rfl
      | cons c rest => exact withPayload?_eq lexeme name (c :: rest) options
    all_goals
      rintro rfl
      cases needs

theorem interpret?_eq {lexeme : String} (dashed : Dashed lexeme) (payload : Option String) (now : Instant)
    (options : ScanOptions) :
    interpret? lexeme payload now options = some (Modifier.interpret lexeme payload now options) := by
  unfold interpret? Modifier.interpret
  simp only [long?_eq, short?_eq dashed]
  generalize lexeme.toList = chars
  split
  · rfl
  · simp

/-- A token that the lexer can give: a modifier has its dash. -/
def Cuttable : Token → Prop
  | .modifier lexeme _ => Dashed lexeme
  | _ => True

theorem ofWord_cuttable (text : List Char) (quoted : Bool) : Cuttable (.ofWord text quoted) := by
  unfold Token.ofWord
  split <;> trivial

theorem modifierToken_cuttable (lexeme : List Char) (payload : Option (List Char))
    (dashed : lexeme.head? = some '-') : Cuttable (Lexer.modifierToken lexeme payload) := by
  rwa [Lexer.modifierToken, Cuttable, Dashed, String.toList_ofList]

def Begun : Lexer.Mode → Prop
  | .modifier lexeme | .payload lexeme _ _ | .hash lexeme _ _ => lexeme.head? = some '-'
  | _ => True

theorem start_begun (c : Char) (rest : List Char) : Begun (Lexer.start c rest) := by
  unfold Lexer.start
  repeat' split
  all_goals trivial

theorem step_begun (c : Char) (rest : List Char) (mode : Lexer.Mode) (begun : Begun mode) :
    Begun (Lexer.step c rest mode).1 ∧ ∀ token ∈ (Lexer.step c rest mode).2, Cuttable token := by
  have grown (lexeme : List Char) (dashed : lexeme.head? = some '-') : (lexeme ++ [c]).head? = some '-' := by
    rw [List.head?_append, dashed]
    rfl
  have only {token : Token} (cuttable : Cuttable token) : ∀ other ∈ some token, Cuttable other := by
    rintro _ ⟨⟩
    exact cuttable
  have nothing : ∀ token ∈ (none : Option Token), Cuttable token := fun token member =>
    absurd member (Option.not_mem_none token)
  cases mode with
  | between => exact ⟨start_begun c rest, nothing⟩
  | word text quoted =>
    rw [Lexer.step]
    split
    · exact ⟨trivial, only (ofWord_cuttable text quoted)⟩
    split <;> exact ⟨trivial, nothing⟩
  | quote text opening =>
    rw [Lexer.step]
    split <;> exact ⟨trivial, nothing⟩
  | modifier lexeme =>
    rw [Lexer.step]
    split
    · exact ⟨trivial, only (modifierToken_cuttable lexeme none begun)⟩
    split
    · exact ⟨begun, nothing⟩
    · exact ⟨grown lexeme begun, nothing⟩
  | payload lexeme text opening =>
    rw [Lexer.step]
    split <;> exact ⟨begun, nothing⟩
  | hash lexeme text opening =>
    rw [Lexer.step]
    split
    · exact ⟨begun, nothing⟩
    · exact ⟨start_begun c rest, only (modifierToken_cuttable lexeme (some text) begun)⟩

theorem finish_cuttable (mode : Lexer.Mode) (tokens : List Token) (begun : Begun mode)
    (ran : Lexer.finish mode = .ok tokens) : ∀ token ∈ tokens, Cuttable token := by
  cases mode with
  | between =>
    cases ran
    exact nofun
  | word text quoted =>
    cases ran
    exact List.forall_mem_singleton.mpr (ofWord_cuttable text quoted)
  | quote text opening => contradiction
  | modifier lexeme =>
    cases ran
    exact List.forall_mem_singleton.mpr (modifierToken_cuttable lexeme none begun)
  | payload lexeme text opening => contradiction
  | hash lexeme text opening =>
    cases ran
    exact List.forall_mem_singleton.mpr (modifierToken_cuttable lexeme (some text) begun)

theorem tokenizeFragment_cuttable (text : String) (tokens : List Token) (ran : tokenizeFragment text = .ok tokens) :
    ∀ token ∈ tokens, Cuttable token :=
  Lexer.read_forall Begun Cuttable step_begun finish_cuttable .between text.toList tokens trivial
    ((tokenizeFragment_eq_ok_iff text tokens).mp ran)

theorem peek_eq (tokens : List Token) (cursor : Nat) :
    peek tokens cursor = (tokens.drop cursor).head?.getD .finish := by
  rw [peek, List.head?_drop]

theorem drop_next {tokens rest : List Token} {cursor : Nat} {token : Token}
    (behind : tokens.drop cursor = token :: rest) :
    tokens.drop (cursor + 1) = rest ∧ cursor + 1 ≤ tokens.length ∧ token ∈ tokens := by
  refine ⟨?_, ?_, List.mem_of_mem_drop (behind ▸ List.mem_cons_self)⟩
  · rw [← List.tail_drop, behind, List.tail_cons]
  · have length := congrArg List.length behind
    rw [List.length_drop, List.length_cons] at length
    omega

theorem loadlineName_eq (tokens : List Token) (cursor : Nat) (lexeme : String) (payload : Option String) :
    Parser.loadlineName lexeme payload (tokens.drop cursor) =
      (loadlineName tokens cursor lexeme payload).map fun (name, next) => (name, tokens.drop next) := by
  cases payload with
  | some name =>
    rw [Parser.loadlineName, loadlineName]
    cases name.isEmpty <;> rfl
  | none =>
    rw [loadlineName, peek_eq]
    cases behind : tokens.drop cursor with
    | nil => rfl
    | cons token rest =>
      cases token with
      | pattern name =>
        obtain ⟨rfl, _, _⟩ := drop_next behind
        rw [Parser.loadlineName, List.head?_cons, Option.getD_some]
        dsimp only
        cases name.isEmpty <;> rfl
      | _ => rfl

theorem loadlineName_within {tokens : List Token} {cursor next : Nat} {lexeme name : String} {payload : Option String}
    (within : cursor ≤ tokens.length) (named : loadlineName tokens cursor lexeme payload = .ok (name, next)) :
    next ≤ tokens.length := by
  cases payload with
  | some word =>
    rw [loadlineName] at named
    split at named
    · contradiction
    · cases named
      exact within
  | none =>
    rw [loadlineName, peek_eq] at named
    cases behind : tokens.drop cursor with
    | nil =>
      rw [behind] at named
      contradiction
    | cons token rest =>
      rw [behind, List.head?_cons, Option.getD_some] at named
      split at named
      · split at named
        · contradiction
        · cases named
          exact (drop_next behind).2.1
      · contradiction

theorem loadlineTokens?_eq (source : LoadlineSource) (name : String) :
    loadlineTokens? source name = some (Parser.loadlineTokens source name) := by
  rw [loadlineTokens?, Parser.loadlineTokens]
  cases source name with
  | error message => rfl
  | ok line =>
    simp only [Scanner.tokenizeFragment?_eq]
    rfl

theorem loadlineTokens_cuttable {source : LoadlineSource} {name : String} {line : List Token}
    (fetched : Parser.loadlineTokens source name = .ok line) : ∀ token ∈ line, Cuttable token := by
  rw [Parser.loadlineTokens] at fetched
  split at fetched
  · contradiction
  · rename_i text _
    cases tokenized : tokenizeFragment text with
    | error error =>
      rw [tokenized] at fetched
      contradiction
    | ok tokens =>
      rw [tokenized] at fetched
      cases fetched
      exact tokenizeFragment_cuttable text line tokenized

theorem splice?_eq {tokens : List Token} {cursor : Nat} (within : cursor ≤ tokens.length) (line : List Token) :
    splice? tokens cursor line = some (tokens.take cursor ++ (line ++ tokens.drop cursor)) := by
  rw [splice?, if_neg (by omega)]

theorem spliced_cuttable {tokens line : List Token} (cuttable : ∀ token ∈ tokens, Cuttable token)
    (new : ∀ token ∈ line, Cuttable token) (cursor : Nat) :
    ∀ token ∈ tokens.take cursor ++ (line ++ tokens.drop cursor), Cuttable token := by
  refine List.forall_mem_append.mpr ⟨fun token before => ?_, List.forall_mem_append.mpr ⟨new, fun token after => ?_⟩⟩
  · exact cuttable token (List.mem_of_mem_take before)
  · exact cuttable token (List.mem_of_mem_drop after)

theorem drop_spliced {tokens : List Token} {cursor : Nat} (within : cursor ≤ tokens.length) (line : List Token) :
    (tokens.take cursor ++ (line ++ tokens.drop cursor)).drop cursor = line ++ tokens.drop cursor :=
  List.drop_left' (List.length_take_of_le within)

section

variable (source : LoadlineSource) (now : Instant)

theorem read?_eq {tokens : List Token} (cursor : Nat) (cuttable : ∀ token ∈ tokens, Cuttable token)
    (splices : Nat) (opened : Opened) (options : ScanOptions) :
    read? source now tokens cursor splices opened options =
      some (Parser.read source now splices opened options (tokens.drop cursor)) := by
  rw [read?, peek_eq]
  match behind : tokens.drop cursor with
  | [] | .finish :: _ =>
    rw [Parser.read]
    rfl
  | .keyword kind spelling :: rest =>
    obtain ⟨rfl, _, _⟩ := drop_next behind
    rw [Parser.read, List.head?_cons, Option.getD_some]
    dsimp only
    cases opened.keyword spelling kind with
    | error error => rfl
    | ok opened => exact read?_eq (cursor + 1) cuttable splices opened options
  | .pattern text :: rest =>
    obtain ⟨rfl, _, _⟩ := drop_next behind
    rw [Parser.read, List.head?_cons, Option.getD_some]
    simp only [pattern?_eq]
    exact read?_eq (cursor + 1) cuttable splices _ options
  | .modifier lexeme payload :: rest =>
    obtain ⟨rfl, further, among⟩ := drop_next behind
    rw [Parser.read, List.head?_cons, Option.getD_some]
    simp only [interpret?_eq (cuttable _ among), Option.bind_eq_bind, Option.bind_some, loadlineName_eq]
    cases Modifier.interpret lexeme payload now options with
    | error error => rfl
    | ok effect =>
      cases effect with
      | criteria items => exact read?_eq (cursor + 1) cuttable splices _ options
      | options changed => exact read?_eq (cursor + 1) cuttable splices opened changed
      | loadline name =>
        dsimp only
        cases named : loadlineName tokens (cursor + 1) lexeme name with
        | error error => rfl
        | ok found =>
          obtain ⟨word, next⟩ := found
          have inside := loadlineName_within further named
          cases splices with
          | zero => rfl
          | succ splices =>
            simp only [loadlineTokens?_eq, Except.map]
            cases fetched : Parser.loadlineTokens source word with
            | error error => rfl
            | ok line =>
              have new := loadlineTokens_cuttable fetched
              -- The loadline's tokens come out of the lexer, so their texts can be cut wherever a reader cuts them.
              simp only [splice?_eq inside, Option.bind_some]
              rw [read?_eq next (spliced_cuttable cuttable new next), drop_spliced inside]
              rfl
termination_by (splices, tokens.length - cursor)

/-- No text and no loadline leads out of range, so that a command line is parsed or refused. -/
theorem parse_in_range (options : ScanOptions) (commandLine : String) :
    parse? source now options commandLine = some (parse source now options commandLine) := by
  rw [parse?, parse, tokenize, Scanner.tokenizeFragment?_eq]
  cases tokenized : tokenizeFragment commandLine with
  | error error => rfl
  | ok tokens =>
    have read := tokenizeFragment_cuttable commandLine tokens tokenized
    have cuttable : ∀ token ∈ tokens ++ [.finish], Cuttable token :=
      List.forall_mem_append.mpr ⟨read, List.forall_mem_singleton.mpr trivial⟩
    exact read?_eq source now 0 cuttable maxSplices (.whole Chain.empty []) options

end

end Sliced
end FileSieve
