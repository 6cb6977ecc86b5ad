import FileSieve.Proofs.Query.Derivation

/-! Modifiers that set options are transparent. Such a modifier leaves what is open as it is, and of the options only
the base directory decides what is read later, which no modifier changes. So wherever one stands, the tree is the
same without it, or else the error. -/

namespace FileSieve

namespace Modifier

/-- Names of the modifiers that set an option whatever their payload is. -/
def switches : List String := ["long", "norecurse", "debug", "progress"]

def accepts (name : String) (text : List Char) : Bool :=
  match name with
  | "root" | "format" => !text.isEmpty
  | "sort" => (sortOrder? text).isSome
  | "limit" | "timeout" => (Number.unsigned64? (trimBlanks text)).isSome
  | "encoding" => (Encoding.ofName? text).isSome
  | _ => false

end Modifier

/-- A modifier that sets an option, in any letter case, with a payload that it accepts. -/
def Token.configures : Token → Bool
  | modifier lexeme payload =>
    match lexeme.toList.map Char.toLower with
    | ['-', 'n'] => (payload.getD "").isEmpty
    | '-' :: '-' :: name =>
      Modifier.switches.contains (String.ofList name) ||
        Modifier.accepts (String.ofList name) (payload.getD "").toList
    | _ => false
  | _ => false

namespace Modifier

def Sets (options : ScanOptions) (result : Except ParseError Effect) : Prop :=
  ∃ changed : ScanOptions, result = .ok (.options changed) ∧ changed.base = options.base

theorem sets_of_isSome {α : Type} (options : ScanOptions) (error : ParseError) (value? : Option α)
    (set : α → ScanOptions) (kept : ∀ value, (set value).base = options.base) (read : value?.isSome = true) :
    Sets options ((orElse error value?).map fun value => .options (set value)) := by
  obtain ⟨value, rfl⟩ := Option.isSome_iff_exists.mp read
  exact ⟨set value, rfl, kept value⟩

theorem number_eq (lexeme : String) (text : List Char) :
    number lexeme text =
      orElse (.invalidNumber lexeme (String.ofList text)) (Number.unsigned64? (trimBlanks text)) := by
  rw [number]
  cases Number.unsigned64? (trimBlanks text) <;> rfl

section

variable (lexeme : String) (payload : Option String) (now : Instant) (options : ScanOptions)

theorem withPayload_sets (name : String) (text : List Char) (accepted : accepts name text = true) :
    Sets options (withPayload lexeme name text options) := by
  unfold accepts at accepted
  split at accepted
  · exact ⟨_, rfl, rfl⟩
  · exact ⟨_, rfl, rfl⟩
  · exact sets_of_isSome options _ _ (fun order => { options with order := some order }) (fun _ => rfl) accepted
  · simp only [withPayload, number_eq]
    exact sets_of_isSome options _ _ (fun limit => { options with limit := some limit }) (fun _ => rfl) accepted
  · simp only [withPayload, number_eq]
    exact sets_of_isSome options _ _ (fun timeout => { options with timeout := some timeout }) (fun _ => rfl) accepted
  · exact sets_of_isSome options _ _ (fun encoding => { options with encoding := encoding }) (fun _ => rfl) accepted
  · cases accepted

theorem accepts_nil (name : String) : accepts name [] = false := by
  unfold accepts
  split <;> rfl

theorem needsPayload_of_accepts (name : String) (text : List Char) (accepted : accepts name text = true) :
    needsPayload name = true := by
  unfold accepts at accepted
  split at accepted
  · rfl
  · rfl
  · rfl
  · rfl
  · rfl
  · rfl
  · cases accepted

theorem long_sets (name : String)
    (configures : (switches.contains name || accepts name (payload.getD "").toList) = true) :
    Sets options (long lexeme name payload options) := by
  rcases Bool.or_eq_true_iff.mp configures with known | accepted
  · have listed : name ∈ switches := List.contains_iff_mem.mp known
    simp only [switches, List.mem_cons, List.not_mem_nil, or_false] at listed
    rcases listed with rfl | rfl | rfl | rfl <;> exact ⟨_, rfl, rfl⟩
  · unfold long
    split
    · cases accepted
    · exact ⟨_, rfl, rfl⟩
    · exact ⟨_, rfl, rfl⟩
    · exact ⟨_, rfl, rfl⟩
    · exact ⟨_, rfl, rfl⟩
    · rw [if_pos (needsPayload_of_accepts name _ accepted)]
      split
      · rename_i empty
        rw [empty, accepts_nil] at accepted
        cases accepted
      · exact withPayload_sets lexeme options name _ accepted

theorem interpret_shallow (spelled : lexeme.toList.map Char.toLower = ['-', 'n'])
    (bare : payload.getD "" = "") :
    interpret lexeme payload now options = .ok (.options { options with recursive := false }) := by
  obtain ⟨first, rest, word, dash, spelled⟩ := List.map_eq_cons_iff.mp spelled
  obtain ⟨letter, behind, rfl, lowered, last⟩ := List.map_eq_cons_iff.mp spelled
  cases List.map_eq_nil_iff.mp last
  have short : interpret lexeme payload now options = short lexeme payload now options := by
    unfold interpret
    split
    · rename_i name dashes
      rw [word] at dashes
      cases dashes
      exact absurd lowered (by decide)
    · rfl
  rw [short]
  simp only [Modifier.short, word, List.drop_succ_cons, List.drop_zero, lowered, bare]
  rfl

theorem interpret_sets (configures : (Token.modifier lexeme payload).configures = true) :
    Sets options (interpret lexeme payload now options) := by
  unfold Token.configures at configures
  dsimp only at configures
  split at configures
  · rename_i spelled
    have bare : payload.getD "" = "" := String.isEmpty_iff.mp configures
    exact ⟨_, interpret_shallow lexeme payload now options spelled bare, rfl⟩
  · rename_i name spelled
    rw [interpret_long name spelled]
    exact long_sets lexeme payload options _ configures
  · cases configures

end

end Modifier

theorem free_cons {token : Token} {rest : List Token}
    (free : ∀ other ∈ upToEnd (token :: rest), other.asksLoadline = false) (goes : token ≠ .finish) :
    token.asksLoadline = false ∧ ∀ other ∈ upToEnd rest, other.asksLoadline = false := by
  rw [upToEnd_cons token rest goes] at free
  exact List.forall_mem_cons.mp free

section

variable (source : LoadlineSource) (now : Instant) (splices : Nat)

/-- Without loadlines, the base directory alone decides the tree that is read, or the error. -/
theorem Parser.read_alike (opened : Opened) (first second : ScanOptions) (same : second.base = first.base)
    (tokens : List Token) (free : ∀ token ∈ upToEnd tokens, token.asksLoadline = false) :
    (read source now splices opened first tokens).map Prod.fst =
      (read source now splices opened second tokens).map Prod.fst := by
  induction tokens generalizing opened first second with
  | nil =>
      rw [read, read]
      cases opened.finish <;> rfl
  | cons token rest ih =>
      cases token with
      | finish =>
          rw [read, read]
          cases opened.finish <;> rfl
      | keyword kind spelling =>
          obtain ⟨_, free⟩ := free_cons free (by simp)
          rw [read, read]
          cases opened.keyword spelling kind with
          | error error => rfl
          | ok next => exact ih next first second same free
      | pattern text =>
          obtain ⟨_, free⟩ := free_cons free (by simp)
          rw [read, read, same]
          exact ih _ first second same free
      | modifier lexeme payload =>
          obtain ⟨plain, free⟩ := free_cons free (by simp)
          have alike := Modifier.interpret_alike lexeme payload now first second same plain
          rw [read, read]
          -- The effects are of one kind; criteria are the same, and changed options keep the base directory.
          generalize Modifier.interpret lexeme payload now first = before at alike ⊢
          generalize Modifier.interpret lexeme payload now second = after at alike ⊢
          cases alike with
          | error error => rfl
          | criteria items => exact ih _ first second same free
          | options changed other kept again => exact ih opened changed other (again.trans kept.symm) free

theorem Parser.read_configures (opened : Opened) (options : ScanOptions) (before after : List Token)
    (token : Token) (inside : .finish ∉ before)
    (free : ∀ other ∈ upToEnd (before ++ after), other.asksLoadline = false)
    (configures : token.configures = true) :
    (read source now splices opened options (before ++ token :: after)).map Prod.fst =
      (read source now splices opened options (before ++ after)).map Prod.fst := by
  induction before generalizing opened options with
  | nil =>
      cases token with
      | modifier lexeme payload =>
          obtain ⟨changed, interpreted, kept⟩ := Modifier.interpret_sets lexeme payload now options configures
          rw [List.nil_append, List.nil_append, read]
          simp only [interpreted]
          exact read_alike source now splices opened changed options kept.symm after free
      | keyword | pattern | finish => cases configures
  | cons first rest ih =>
      rw [List.mem_cons, not_or] at inside
      rw [List.cons_append] at free
      obtain ⟨plain, later⟩ := free_cons free (Ne.symm inside.1)
      rw [List.cons_append, List.cons_append]
      cases first with
      | finish => exact absurd rfl inside.1
      | keyword kind spelling =>
          rw [read, read]
          cases opened.keyword spelling kind with
          | error error => rfl
          | ok next => exact ih next options inside.2 later
      | pattern text =>
          rw [read, read]
          exact ih _ options inside.2 later
      | modifier lexeme payload =>
          rw [read, read]
          cases interpreted : Modifier.interpret lexeme payload now options with
          | error error => rfl
          | ok effect =>
              cases effect with
              | criteria items => exact ih _ options inside.2 later
              | options changed => exact ih opened changed inside.2 later
              | loadline name =>
                  rw [Modifier.asksLoadline_of_interpret interpreted] at plain
                  cases plain

end

/-- Options are transparent. In a token stream without loadlines, a modifier that sets an option can be put in
anywhere in front of the end: the tree stays the same, or the error. -/
theorem options_transparent (source : LoadlineSource) (now : Instant) (options : ScanOptions)
    (before after : List Token) (token : Token) (inside : .finish ∉ before)
    (free : ∀ other ∈ upToEnd (before ++ after), other.asksLoadline = false)
    (configures : token.configures = true) :
    (parseTokens source now options (before ++ token :: after)).map Prod.fst =
      (parseTokens source now options (before ++ after)).map Prod.fst :=
  Parser.read_configures source now maxSplices _ options before after token inside free configures

theorem options_transparent_condition :
    .finish ∉ [Token.keyword .ifWord "IF"] ∧
      (∀ other ∈ upToEnd ([.keyword .ifWord "IF"] ++ [.modifier "-tA" none, .modifier "-tD" none, .finish]),
        other.asksLoadline = false) ∧
      (Token.modifier "--Limit" (some "5")).configures = true ∧
      (parseTokens (fun _ => .error "") ⟨0, 0⟩ (.initial (.ofString "/"))
          ([.keyword .ifWord "IF"] ++
            .modifier "--Limit" (some "5") :: [.modifier "-tA" none, .modifier "-tD" none, .finish])).map Prod.fst =
        .ok (.ifThen (.leaf (.type .archive)) (.leaf (.type .directory))) := by
  have archive : Modifier.interpret "-tA" none ⟨0, 0⟩ (.initial (.ofString "/")) =
      .ok (.criteria [.leaf (.type .archive)]) := rfl
  have directory : Modifier.interpret "-tD" none ⟨0, 0⟩ (.initial (.ofString "/")) =
      .ok (.criteria [.leaf (.type .directory)]) := rfl
  have inside : .finish ∉ [Token.keyword .ifWord "IF"] := by decide
  have free : ∀ other ∈ upToEnd ([.keyword .ifWord "IF"] ++
      [.modifier "-tA" none, .modifier "-tD" none, .finish]), other.asksLoadline = false := by decide
  have configures : (Token.modifier "--Limit" (some "5")).configures = true := by decide
  refine ⟨inside, free, configures, ?_⟩
  rw [options_transparent _ _ _ _ _ _ inside free configures]
  simp only [parseTokens, List.cons_append, List.nil_append, Parser.read, archive, directory]
  rfl

end FileSieve
