import FileSieve.CommandLine
import FileSieve.Proofs.Query.Fragments
import FileSieve.Proofs.Query.RoundTrip
import Mathlib.Data.List.Forall2

/-! The words of a command line, joined to one text. A blank ends every word, so each is read as it is on its own, and a
word with blanks is kept together by the quotes around it. There is no way to write a quote inside of quotes: a word
with blanks and a quote of its own falls apart. -/

namespace FileSieve

def Token.Quoteless : Token → Prop
  | pattern text => '"' ∉ text.toList
  | _ => True

namespace Lexer

theorem read_joined (texts : List (List Char)) (lists : List (List Token))
    (each : List.Forall₂ (fun text tokens => read .between text = .ok tokens) texts lists) :
    read .between ([' '].intercalate texts) = .ok lists.flatten := by
  induction each with
  | nil => rfl
  | @cons text tokens texts lists first others ih =>
      cases texts with
      | nil =>
          cases others
          rw [List.intercalate_singleton, first, List.flatten_singleton]
      | cons next texts =>
          have ends : Ends (' ' :: [' '].intercalate (next :: texts)) := by
            rintro c ⟨⟩
            decide
          rw [List.intercalate_cons_cons, List.append_assoc, List.singleton_append,
            read_append .between .between rfl text _ tokens first ends, step_blank _ _ (by decide), ih]
          rfl

def Quoteless : Mode → Prop
  | .word text _ | .quote text _ => '"' ∉ text
  | _ => True

theorem ofWord_quoteless (text : List Char) (quoted : Bool) (plain : '"' ∉ text) :
    (Token.ofWord text quoted).Quoteless := by
  unfold Token.ofWord
  split
  · trivial
  · rwa [Token.Quoteless, String.toList_ofList]

theorem start_quoteless (c : Char) (rest : List Char) : Quoteless (start c rest) := by
  unfold start
  split_ifs with blank dash quote
  · trivial
  · trivial
  · exact List.not_mem_nil
  · exact fun member => quote (List.mem_singleton.mp member).symm

theorem step_quoteless (c : Char) (rest : List Char) (mode : Mode) (plain : Quoteless mode) :
    Quoteless (step c rest mode).1 ∧ ∀ token ∈ (step c rest mode).2, token.Quoteless := by
  -- A quote opens or closes quoted text and is never added to it.
  have grown (text : List Char) (plain : '"' ∉ text) (other : c ≠ '"') : '"' ∉ text ++ [c] := by
    rw [List.mem_append, List.mem_singleton, not_or]
    exact ⟨plain, Ne.symm other⟩
  have only {token : Token} (quoteless : token.Quoteless) : ∀ other ∈ some token, other.Quoteless := by
    rintro _ ⟨⟩
    exact quoteless
  have silent : ∀ other ∈ (none : Option Token), other.Quoteless := by rintro _ ⟨⟩
  cases mode with
  | between => exact ⟨start_quoteless c rest, silent⟩
  | word text quoted =>
      rw [step]
      split_ifs with blank quote
      · exact ⟨trivial, only (ofWord_quoteless text quoted plain)⟩
      · exact ⟨plain, silent⟩
      · exact ⟨grown text plain quote, silent⟩
  | quote text opening =>
      rw [step]
      split_ifs with quote
      · exact ⟨plain, silent⟩
      · exact ⟨grown text plain quote, silent⟩
  | modifier lexeme =>
      rw [step]
      split_ifs
      · exact ⟨trivial, only trivial⟩
      · exact ⟨trivial, silent⟩
      · exact ⟨trivial, silent⟩
  | payload lexeme text opening =>
      rw [step]
      split_ifs <;> exact ⟨trivial, silent⟩
  | hash lexeme text opening =>
      rw [step]
      split_ifs
      · exact ⟨trivial, silent⟩
      · exact ⟨start_quoteless c rest, only trivial⟩

theorem finish_quoteless (mode : Mode) (tokens : List Token) (plain : Quoteless mode)
    (final : finish mode = .ok tokens) : ∀ token ∈ tokens, token.Quoteless := by
  cases mode with
  | between =>
      cases final
      exact nofun
  | word text quoted =>
      cases final
      exact List.forall_mem_singleton.mpr (ofWord_quoteless text quoted plain)
  | quote text opening => cases final
  | modifier lexeme =>
      cases final
      exact List.forall_mem_singleton.mpr trivial
  | payload lexeme text opening => cases final
  | hash lexeme text opening =>
      cases final
      exact List.forall_mem_singleton.mpr trivial

end Lexer

theorem tokenizeFragment_quoteless (input : String) (tokens : List Token)
    (ran : tokenizeFragment input = .ok tokens) : ∀ token ∈ tokens, token.Quoteless :=
  Lexer.read_forall Lexer.Quoteless Token.Quoteless Lexer.step_quoteless Lexer.finish_quoteless .between
    input.toList tokens trivial ((tokenizeFragment_eq_ok_iff input tokens).mp ran)

namespace CommandLine

def isGrouped (word : String) : Bool := word.toList.any isBlank && word.toList.head? != some '-'

/-- The tokens of a word on its own. One that was grouped is a single pattern, whatever it has in it. -/
def wordTokens (word : String) : Except LexError (List Token) :=
  if isGrouped word then .ok [.pattern word] else tokenizeFragment word

theorem read_quotedWord (word : String) (tokens : List Token) (alone : wordTokens word = .ok tokens)
    (plain : isGrouped word = true → '"' ∉ word.toList) :
    Lexer.read .between (quotedWord word) = .ok tokens := by
  rw [wordTokens] at alone
  have quotes : quotedWord word = if isGrouped word then '"' :: word.toList ++ ['"'] else word.toList := rfl
  rw [quotes]
  split_ifs at alone ⊢ with grouped
  · cases alone
    have ended := Lexer.yields_quoted word.toList (plain grouped) [] nofun
    rwa [List.append_nil, String.ofList_toList] at ended
  · exact (tokenizeFragment_eq_ok_iff word tokens).mp alone

section

variable {words : List String} {lists : List (List Token)}
variable (alone : List.Forall₂ (fun word tokens => wordTokens word = .ok tokens) words lists)

include alone

theorem quoteless_of_tokens (plain : ∀ token ∈ lists.flatten, token.Quoteless) :
    ∀ word ∈ words, isGrouped word = true → '"' ∉ word.toList := by
  induction alone with
  | nil => exact nofun
  | @cons word tokens words lists first others ih =>
      rw [List.flatten_cons, List.forall_mem_append] at plain
      rw [List.forall_mem_cons]
      refine ⟨?_, ih plain.2⟩
      intro grouped
      rw [wordTokens, if_pos grouped] at first
      cases first
      exact plain.1 _ (List.mem_singleton_self _)

theorem read_quotedWords (plain : ∀ word ∈ words, isGrouped word = true → '"' ∉ word.toList) :
    List.Forall₂ (fun text tokens => Lexer.read .between text = .ok tokens) (words.map quotedWord) lists := by
  rw [List.forall₂_map_left_iff]
  induction alone with
  | nil => exact .nil
  | @cons word tokens words lists first others ih =>
      obtain ⟨quoteless, rest⟩ := List.forall_mem_cons.mp plain
      exact .cons (read_quotedWord word tokens first quoteless) (ih rest)

end

/-- The joined words are read as the tokens of each in turn if and only if no word that has to be grouped has a quote. -/
theorem joined_words_iff (words : List String) (lists : List (List Token))
    (alone : List.Forall₂ (fun word tokens => wordTokens word = .ok tokens) words lists) :
    tokenizeFragment (expression words) = .ok lists.flatten ↔
      ∀ word ∈ words, isGrouped word = true → '"' ∉ word.toList := by
  constructor
  · intro joined
    exact quoteless_of_tokens alone (tokenizeFragment_quoteless _ _ joined)
  · intro plain
    rw [tokenizeFragment_eq_ok_iff, expression, String.toList_ofList]
    exact Lexer.read_joined _ _ (read_quotedWords alone plain)

def mixedWords : List String :=
  ["C:\\Program Files\\\x7ba\x7d #1", "--contains#say \"hi\"#", "a\"b\"", "else", ""]

def mixedTokens : List (List Token) :=
  [[.pattern "C:\\Program Files\\\x7ba\x7d #1"], [.modifier "--contains" (some "say \"hi\"")], [.pattern "ab"],
    [.keyword .elseWord "else"], []]

theorem joined_words_iff_mixed :
    List.Forall₂ (fun word tokens => wordTokens word = .ok tokens) mixedWords mixedTokens ∧
      tokenizeFragment (expression mixedWords) = .ok mixedTokens.flatten := by
  have alone : List.Forall₂ (fun word tokens => wordTokens word = .ok tokens) mixedWords mixedTokens :=
    .cons (by decide) (.cons (by decide) (.cons (by decide) (.cons (by decide) (.cons (by decide) .nil))))
  have plain : ∀ word ∈ mixedWords, isGrouped word = true → '"' ∉ word.toList := by decide
  exact ⟨alone, (joined_words_iff mixedWords mixedTokens alone).mpr plain⟩

/-- Quotes inside of quotes end them: the word falls apart at its blank. -/
theorem grouped_quotes_fall_apart :
    ¬ ∀ (words : List String) (lists : List (List Token)),
      List.Forall₂ (fun word tokens => wordTokens word = .ok tokens) words lists →
        tokenizeFragment (expression words) = .ok lists.flatten := by
  intro kept
  have whole := kept ["\"a b\""] [[.pattern "\"a b\""]] (.cons (by decide) .nil)
  revert whole
  decide

end CommandLine
end FileSieve
