import FileSieve.Query.Lexer

namespace FileSieve

namespace Lexer

def isWord : List Char → Bool
  | [] => false
  | first :: rest => first != '-' && (first :: rest).all fun c => !isBlank c && c != '"'

def isModifier : List Char → Bool
  | [] => false
  | first :: rest => first == '-' && rest.all fun c => !isBlank c && c != '#'

theorem read_cons (mode : Mode) (c : Char) (rest : List Char) :
    read mode (c :: rest) = (read (step c rest mode).1 rest).map ((step c rest mode).2.toList ++ ·) := by
  rw [read]
  split
  · rename_i next stepped
    rw [stepped]
    cases read next rest <;> rfl
  · rename_i next token stepped
    rw [stepped]
    rfl

/-- What every step keeps holds of each mode on the way, so what the tokens have from it holds of all of them. -/
theorem read_forall (Kept : Mode → Prop) (Holds : Token → Prop)
    (steps : ∀ c rest mode, Kept mode →
      Kept (step c rest mode).1 ∧ ∀ token ∈ (step c rest mode).2, Holds token)
    (ends : ∀ mode tokens, Kept mode → finish mode = .ok tokens → ∀ token ∈ tokens, Holds token)
    (mode : Mode) (text : List Char) (tokens : List Token) (kept : Kept mode) (ran : read mode text = .ok tokens) :
    ∀ token ∈ tokens, Holds token := by
  induction text generalizing mode tokens with
  | nil => exact ends mode tokens kept ran
  | cons c rest ih =>
      obtain ⟨keptNext, holds⟩ := steps c rest mode kept
      rw [read_cons] at ran
      cases behind : read (step c rest mode).1 rest with
      | error unclosed =>
          rw [behind] at ran
          cases ran
      | ok others =>
          rw [behind] at ran
          cases ran
          intro token member
          rcases List.mem_append.mp member with first | later
          · exact holds token (Option.mem_toList.mp first)
          · exact ih _ others keptNext behind token later

/-- Between words, the text stands for the tokens. -/
def Reads (text : List Char) (tokens : List Token) : Prop :=
  ∀ rest, read .between (text ++ rest) = (read .between rest).map (tokens ++ ·)

theorem Reads.append {first second : List Char} {before after : List Token} (left : Reads first before)
    (right : Reads second after) : Reads (first ++ second) (before ++ after) := by
  intro rest
  rw [List.append_assoc, left, right]
  cases read .between rest with
  | error unclosed => rfl
  | ok tokens => exact congrArg Except.ok (List.append_assoc before after tokens).symm

def Ends (rest : List Char) : Prop := ∀ c ∈ rest.head?, isBlank c = true

def Yields (text : List Char) (token : Token) : Prop :=
  ∀ rest, Ends rest → read .between (text ++ rest) = (read .between rest).map (token :: ·)

theorem Yields.reads {text : List Char} {token : Token} (yields : Yields text token) :
    Reads (text ++ [' ']) [token] := by
  intro rest
  have ends : Ends (' ' :: rest) := by
    rintro c ⟨⟩
    decide
  rw [List.append_assoc, List.singleton_append]
  exact yields (' ' :: rest) ends

theorem step_blank (c : Char) (rest : List Char) (blank : isBlank c = true) :
    read .between (c :: rest) = read .between rest := by
  simp only [read, step, start, blank, if_true]

theorem read_blanks (gap rest : List Char) (blank : ∀ c ∈ gap, isBlank c = true) :
    read .between (gap ++ rest) = read .between rest := by
  induction gap with
  | nil => rw [List.nil_append]
  | cons c gap ih =>
      obtain ⟨first, others⟩ := List.forall_mem_cons.mp blank
      rw [List.cons_append, step_blank c _ first, ih others]

theorem read_word (text : List Char) (plain : ∀ c ∈ text, isBlank c = false ∧ c ≠ '"')
    (before rest : List Char) :
    read (.word before false) (text ++ rest) = read (.word (before ++ text) false) rest := by
  induction text generalizing before with
  | nil => rw [List.append_nil, List.nil_append]
  | cons c text ih =>
      obtain ⟨⟨blank, quote⟩, others⟩ := List.forall_mem_cons.mp plain
      have moves : step c (text ++ rest) (.word before false) = (.word (before ++ [c]) false, none) := by
        simp only [step, blank, quote, Bool.false_eq_true, if_false]
      rw [List.cons_append, read, moves]
      have read := ih others (before ++ [c])
      rwa [List.append_assoc] at read

theorem read_modifier (text : List Char) (plain : ∀ c ∈ text, isBlank c = false ∧ c ≠ '#')
    (before rest : List Char) :
    read (.modifier before) (text ++ rest) = read (.modifier (before ++ text)) rest := by
  induction text generalizing before with
  | nil => rw [List.append_nil, List.nil_append]
  | cons c text ih =>
      obtain ⟨⟨blank, hash⟩, others⟩ := List.forall_mem_cons.mp plain
      have moves : step c (text ++ rest) (.modifier before) = (.modifier (before ++ [c]), none) := by
        simp only [step, blank, hash, Bool.false_eq_true, if_false]
      rw [List.cons_append, read, moves]
      have read := ih others (before ++ [c])
      rwa [List.append_assoc] at read

theorem read_ended (mode : Mode) (token : Token) (final : finish mode = .ok [token])
    (closed : ∀ c rest, isBlank c = true → step c rest mode = (.between, some token))
    (rest : List Char) (ends : Ends rest) :
    read mode rest = (read .between rest).map (token :: ·) := by
  cases rest with
  | nil => exact final
  | cons c rest =>
      have blank := ends c rfl
      rw [read, closed c rest blank, step_blank c rest blank]

theorem read_word_ended (text : List Char) (quoted : Bool) (rest : List Char) (ends : Ends rest) :
    read (.word text quoted) rest = (read .between rest).map (.ofWord text quoted :: ·) := by
  apply read_ended _ _ rfl _ rest ends
  intro c rest blank
  simp only [step, blank, if_true]

theorem read_modifier_ended (lexeme rest : List Char) (ends : Ends rest) :
    read (.modifier lexeme) rest = (read .between rest).map (modifierToken lexeme none :: ·) := by
  apply read_ended _ _ rfl _ rest ends
  intro c rest blank
  simp only [step, blank, if_true]

theorem yields_word (text : List Char) (word : isWord text = true) :
    Yields text (.ofWord text false) := by
  cases text with
  | nil => cases word
  | cons first text =>
      simp only [isWord, Bool.and_eq_true, bne_iff_ne, List.all_eq_true, Bool.not_eq_true'] at word
      obtain ⟨dash, plain⟩ := word
      obtain ⟨⟨blank, quote⟩, others⟩ := List.forall_mem_cons.mp plain
      intro rest ends
      have moves : step first (text ++ rest) .between = (.word [first] false, none) := by
        simp only [step, start, blank, dash, quote, Bool.false_eq_true, if_false]
      rw [List.cons_append, read, moves]
      exact (read_word text others [first] rest).trans (read_word_ended _ false rest ends)

theorem read_lexeme (text : List Char) (modifier : isModifier text = true) (rest : List Char) :
    read .between (text ++ rest) = read (.modifier text) rest := by
  cases text with
  | nil => cases modifier
  | cons first text =>
      simp only [isModifier, Bool.and_eq_true, beq_iff_eq, List.all_eq_true, Bool.not_eq_true',
        bne_iff_ne] at modifier
      obtain ⟨rfl, plain⟩ := modifier
      exact read_modifier text plain ['-'] rest

theorem yields_modifier (text : List Char) (modifier : isModifier text = true) :
    Yields text (modifierToken text none) := by
  intro rest ends
  rw [read_lexeme text modifier, read_modifier_ended text rest ends]

end Lexer

theorem tokenizeFragment_eq_ok_iff (input : String) (tokens : List Token) :
    tokenizeFragment input = .ok tokens ↔ Lexer.read .between input.toList = .ok tokens := by
  rw [tokenizeFragment]
  cases Lexer.read .between input.toList with
  | ok read => constructor <;> rintro ⟨⟩ <;> rfl
  | error unclosed => exact iff_of_false nofun nofun

namespace Token

def isPlain : Token → Bool
  | keyword kind spelling => Lexer.isWord spelling.toList && Keyword.ofText? spelling.toList == some kind
  | pattern text => Lexer.isWord text.toList && (Keyword.ofText? text.toList).isNone
  | modifier lexeme none => Lexer.isModifier lexeme.toList
  | modifier _ (some _) | finish => false

def spell (token : Token) : List Char := token.lexeme.toList ++ [' ']

theorem reads_spell (token : Token) (plain : token.isPlain = true) : Lexer.Reads token.spell [token] := by
  cases token with
  | keyword kind spelling =>
      simp only [isPlain, Bool.and_eq_true, beq_iff_eq] at plain
      obtain ⟨word, known⟩ := plain
      have reads := (Lexer.yields_word spelling.toList word).reads
      simp only [ofWord, Bool.false_eq_true, if_false, known, String.ofList_toList] at reads
      exact reads
  | pattern text =>
      simp only [isPlain, Bool.and_eq_true, Option.isNone_iff_eq_none] at plain
      obtain ⟨word, other⟩ := plain
      have reads := (Lexer.yields_word text.toList word).reads
      simp only [ofWord, Bool.false_eq_true, if_false, other, String.ofList_toList] at reads
      exact reads
  | modifier lexeme payload =>
      cases payload with
      | none =>
          have reads := (Lexer.yields_modifier lexeme.toList plain).reads
          simp only [Lexer.modifierToken, String.ofList_toList, Option.map_none] at reads
          exact reads
      | some text => cases plain
  | finish => cases plain

end Token

def spelled (tokens : List Token) : String := String.ofList (tokens.flatMap Token.spell)

theorem tokenize_spelled (tokens : List Token) (plain : ∀ token ∈ tokens, token.isPlain = true) :
    tokenize (spelled tokens) = .ok (tokens ++ [.finish]) := by
  have reads : Lexer.Reads (tokens.flatMap Token.spell) tokens := by
    induction tokens with
    | nil =>
        intro rest
        rw [List.flatMap_nil, List.nil_append]
        cases Lexer.read .between rest <;> rfl
    | cons token tokens ih =>
        obtain ⟨first, others⟩ := List.forall_mem_cons.mp plain
        exact (token.reads_spell first).append (ih others)
  have ended := reads []
  rw [List.append_nil] at ended
  rw [tokenize, tokenizeFragment, spelled, String.toList_ofList, ended]
  exact congrArg (fun read => Except.ok (read ++ [.finish])) (List.append_nil tokens)

end FileSieve
