import FileSieve.Proofs.Query.Modifiers
import FileSieve.Proofs.Query.Scanner
import Mathlib.Tactic.SplitIfs

/-! Fragments of a command line. Behind a blank the lexer begins anew, so fragments with blanks between them are read
one after the other. What refuses a fragment is a delimiter that is never closed: everything in front of it is read, and
the fragment is read to its end once the delimiter is put there again. -/

namespace FileSieve

namespace LexError

def delimiter : LexError → Char
  | unterminatedQuote _ => '"'
  | unterminatedPayload _ => '#'

def offset : LexError → Nat
  | unterminatedQuote offset | unterminatedPayload offset => offset

def shift (bytes : Nat) : LexError → LexError
  | unterminatedQuote offset => unterminatedQuote (offset + bytes)
  | unterminatedPayload offset => unterminatedPayload (offset + bytes)

end LexError

namespace Lexer

def Mode.bare : Mode → Mode
  | .quote text _ => .quote text []
  | .payload lexeme text _ => .payload lexeme text []
  | .hash lexeme text _ => .hash lexeme text []
  | mode => mode

theorem start_bare (c : Char) (rest : List Char) : (start c rest).bare = (start c []).bare := by
  unfold start
  split_ifs <;> rfl

theorem step_bare (c : Char) (rest : List Char) (mode : Mode) :
    (step c rest mode).1.bare = (step c [] mode.bare).1.bare ∧ (step c rest mode).2 = (step c [] mode.bare).2 := by
  cases mode with
  | between => exact ⟨start_bare c rest, rfl⟩
  | word text quoted =>
      simp only [Mode.bare, step]
      split_ifs <;> exact ⟨rfl, rfl⟩
  | quote text opening =>
      simp only [Mode.bare, step]
      split_ifs <;> exact ⟨rfl, rfl⟩
  | modifier lexeme =>
      simp only [Mode.bare, step]
      split_ifs <;> exact ⟨rfl, rfl⟩
  | payload lexeme text opening =>
      simp only [Mode.bare, step]
      split_ifs <;> exact ⟨rfl, rfl⟩
  | hash lexeme text opening =>
      simp only [Mode.bare, step]
      split_ifs
      · exact ⟨rfl, rfl⟩
      · exact ⟨start_bare c rest, rfl⟩

theorem finish_bare (mode : Mode) (tokens : List Token) :
    finish mode = .ok tokens ↔ finish mode.bare = .ok tokens := by
  cases mode <;> simp [finish, Mode.bare]

theorem read_finished (mode : Mode) (tokens : List Token) (final : finish mode = .ok tokens) (rest : List Char)
    (ends : Ends rest) : read mode rest = (read .between rest).map (tokens ++ ·) := by
  cases mode with
  | between =>
      cases final
      cases read .between rest <;> rfl
  | word text quoted =>
      cases final
      exact read_word_ended text quoted rest ends
  | quote text opening => cases final
  | modifier lexeme =>
      cases final
      exact read_modifier_ended lexeme rest ends
  | payload lexeme text opening => cases final
  | hash lexeme text opening =>
      cases final
      apply Scanner.read_hash lexeme opening text rest
      intro hash
      exact absurd (ends '#' hash) (by decide)

/-- Text that is read to its end is read the same in front of a blank. The two runs remember different input where a
quote or a payload opens, so their modes agree only in what the tokens are made of. -/
theorem read_append (mode other : Mode) (same : mode.bare = other.bare) (text rest : List Char)
    (tokens : List Token) (ran : read mode text = .ok tokens) (ends : Ends rest) :
    read other (text ++ rest) = (read .between rest).map (tokens ++ ·) := by
  induction text generalizing mode other tokens with
  | nil =>
      have bare := (finish_bare mode tokens).mp ran
      rw [same] at bare
      exact read_finished other tokens ((finish_bare other tokens).mpr bare) rest ends
  | cons c text ih =>
      have first := step_bare c text mode
      have second := step_bare c (text ++ rest) other
      rw [same] at first
      have next := first.1.trans second.1.symm
      have emitted := first.2.trans second.2.symm
      rw [read_cons] at ran
      rcases ok_of_map _ _ _ ran with ⟨others, behind, rfl⟩
      rw [List.cons_append, read_cons, ih _ _ next others behind, ← emitted]
      cases read .between rest with
      | error unclosed => rfl
      | ok further => exact congrArg Except.ok (List.append_assoc _ others further).symm

theorem read_bare (mode other : Mode) (same : mode.bare = other.bare) (text : List Char) (tokens : List Token)
    (ran : read mode text = .ok tokens) : read other text = .ok tokens := by
  have whole := read_append mode other same text [] tokens ran nofun
  rw [List.append_nil] at whole
  rw [whole]
  exact congrArg Except.ok (List.append_nil tokens)

theorem exists_read_cons (c : Char) (rest text : List Char) (mode : Mode) (tokens : List Token)
    (ran : read (step c rest mode).1 text = .ok tokens) : ∃ all, read mode (c :: text) = .ok all := by
  have same := (step_bare c rest mode).1.trans (step_bare c text mode).1.symm
  have behind := read_bare _ _ same text tokens ran
  rw [read_cons, behind]
  exact ⟨_, rfl⟩

theorem error_of_read_cons (c : Char) (text : List Char) (mode : Mode) (unclosed : Unclosed)
    (refused : read mode (c :: text) = .error unclosed) : read (step c text mode).1 text = .error unclosed := by
  rw [read_cons] at refused
  cases behind : read (step c text mode).1 text with
  | ok others =>
      rw [behind] at refused
      cases refused
  | error other =>
      rw [behind] at refused
      cases refused
      rfl

namespace Unclosed

def delimiter : Unclosed → Char
  | quote _ => '"'
  | payload _ => '#'

def opening : Unclosed → List Char
  | quote opening | payload opening => opening

end Unclosed

/-- What may never be closed. Behind a hash this is its payload, which goes on if another hash follows. -/
def Mode.pending? : Mode → Option Unclosed
  | .quote _ opening => some (.quote opening)
  | .payload _ _ opening | .hash _ _ opening => some (.payload opening)
  | _ => none

theorem finish_pending (mode : Mode) (unclosed : Unclosed) (refused : finish mode = .error unclosed) :
    mode.pending? = some unclosed := by
  cases mode <;> cases refused <;> rfl

/-- The character opens what is left open, where the text in front of it could have ended. -/
structure Opens (c : Char) (rest : List Char) (mode : Mode) (unclosed : Unclosed) : Prop where
  delimiter : c = unclosed.delimiter
  opening : unclosed.opening = c :: rest
  final : ∃ tokens, finish mode = .ok tokens

theorem start_pending (c : Char) (rest : List Char) (mode : Mode) (unclosed : Unclosed)
    (final : ∃ tokens, finish mode = .ok tokens) (pending : (start c rest).pending? = some unclosed) :
    Opens c rest mode unclosed := by
  unfold start at pending
  split_ifs at pending with blank dash quote
  · cases pending
  · cases pending
  · cases pending
    exact ⟨quote, rfl, final⟩
  · cases pending

theorem step_pending (c : Char) (rest : List Char) (mode : Mode) (unclosed : Unclosed)
    (pending : (step c rest mode).1.pending? = some unclosed) :
    mode.pending? = some unclosed ∨ Opens c rest mode unclosed := by
  cases mode with
  | between => exact .inr (start_pending c rest _ unclosed ⟨_, rfl⟩ pending)
  | word text quoted =>
      rw [step] at pending
      split_ifs at pending with blank quote
      · cases pending
      · cases pending
        exact .inr ⟨quote, rfl, _, rfl⟩
      · cases pending
  | quote text opening =>
      rw [step] at pending
      split_ifs at pending
      · cases pending
      · exact .inl pending
  | modifier lexeme =>
      rw [step] at pending
      split_ifs at pending with blank hash
      · cases pending
      · cases pending
        exact .inr ⟨hash, rfl, _, rfl⟩
      · cases pending
  | payload lexeme text opening =>
      rw [step] at pending
      split_ifs at pending <;> exact .inl pending
  | hash lexeme text opening =>
      rw [step] at pending
      split_ifs at pending
      · exact .inl pending
      -- A single hash has closed the payload, so this character starts something else.
      · exact .inr (start_pending c rest _ unclosed ⟨_, rfl⟩ pending)

theorem read_unclosed (mode : Mode) (text : List Char) (unclosed : Unclosed)
    (refused : read mode text = .error unclosed) :
    mode.pending? = some unclosed ∨
      ∃ front back, text = front ++ unclosed.opening ∧ unclosed.opening = unclosed.delimiter :: back ∧
        ∃ tokens, read mode front = .ok tokens := by
  induction text generalizing mode with
  | nil => exact .inl (finish_pending mode unclosed refused)
  | cons c text ih =>
      -- modes remember where their delimiter stands: one that is pending here is this character or was so before
      have never := error_of_read_cons c text mode unclosed refused
      rcases ih _ never with pending | ⟨front, back, split, opens, tokens, ran⟩
      · rcases step_pending c text mode unclosed pending with before | here
        · exact .inl before
        · refine .inr ⟨[], text, here.opening.symm, ?_, here.final⟩
          rw [here.opening, here.delimiter]
      · exact .inr ⟨c :: front, back, congrArg (c :: ·) split, opens, exists_read_cons c text front mode tokens ran⟩

theorem read_repaired (mode : Mode) (text : List Char) (unclosed : Unclosed)
    (refused : read mode text = .error unclosed) :
    ∃ tokens, read mode (text ++ [unclosed.delimiter]) = .ok tokens := by
  induction text generalizing mode with
  | nil => cases mode <;> cases refused <;> exact ⟨_, rfl⟩
  | cons c text ih =>
      cases ih _ (error_of_read_cons c text mode unclosed refused) with
      | intro tokens ran => exact exists_read_cons c text _ mode tokens ran

section

variable (front : List Char) (unclosed : Unclosed)

theorem report_delimiter (input : List Char) : (unclosed.report input).delimiter = unclosed.delimiter := by
  cases unclosed <;> rfl

theorem report_offset : (unclosed.report (front ++ unclosed.opening)).offset = Slice.size front := by
  cases unclosed <;>
    simp [Unclosed.report, Unclosed.opening, LexError.offset, byteLength_eq_size]

theorem report_append (input : List Char) (among : unclosed.opening <:+ input) :
    unclosed.report (front ++ input) = (unclosed.report input).shift (Slice.size front) := by
  cases among with
  | intro before whole =>
      subst whole
      cases unclosed <;>
        simp [Unclosed.report, Unclosed.opening, LexError.shift, byteLength_eq_size] <;>
        omega

end

end Lexer

theorem tokenizeFragment_eq_error_iff (input : String) (error : LexError) :
    tokenizeFragment input = .error error ↔
      ∃ unclosed, Lexer.read .between input.toList = .error unclosed ∧ unclosed.report input.toList = error := by
  rw [tokenizeFragment]
  cases Lexer.read .between input.toList with
  | ok tokens => simp [Except.mapError]
  | error unclosed => simp [Except.mapError]

theorem read_fragments (first gap second : String) (tokens : List Token)
    (ran : tokenizeFragment first = .ok tokens) (apart : gap ≠ "") (blank : ∀ c ∈ gap.toList, isBlank c = true) :
    Lexer.read .between (first ++ gap ++ second).toList =
      (Lexer.read .between second.toList).map (tokens ++ ·) := by
  have ends : Lexer.Ends (gap.toList ++ second.toList) := by
    intro c first
    cases split : gap.toList with
    | nil => exact absurd (String.toList_eq_nil_iff.mp split) apart
    | cons d rest =>
        rw [split] at first blank
        cases first
        exact blank c List.mem_cons_self
  have read := (tokenizeFragment_eq_ok_iff first tokens).mp ran
  rw [String.toList_append, String.toList_append, List.append_assoc,
    Lexer.read_append .between .between rfl _ _ tokens read ends, Lexer.read_blanks _ _ blank]

/-- A fragment in front that can be read, and blanks behind it, add their tokens to what follows or their bytes to the
place where that is refused. -/
theorem tokenizeFragment_append (first gap second : String) (tokens : List Token)
    (ran : tokenizeFragment first = .ok tokens) (apart : gap ≠ "") (blank : ∀ c ∈ gap.toList, isBlank c = true) :
    (∀ others, tokenizeFragment second = .ok others →
        tokenizeFragment (first ++ gap ++ second) = .ok (tokens ++ others)) ∧
      ∀ error, tokenizeFragment second = .error error →
        tokenizeFragment (first ++ gap ++ second) = .error (error.shift (first ++ gap).utf8ByteSize) := by
  have reads := read_fragments first gap second tokens ran apart blank
  constructor
  · intro others ended
    rw [tokenizeFragment_eq_ok_iff] at ended ⊢
    rw [reads, ended]
    rfl
  · intro error refused
    rw [tokenizeFragment_eq_error_iff] at refused ⊢
    rcases refused with ⟨unclosed, never, rfl⟩
    refine ⟨unclosed, ?_, ?_⟩
    · rw [reads, never]
      rfl
    · rcases Lexer.read_unclosed _ _ _ never with pending | ⟨front, back, split, -, -⟩
      · cases pending
      · rw [String.toList_append, Lexer.report_append _ _ _ ⟨front, split.symm⟩, Slice.size_toList]

def quotedFragment : String := "C:\\\"My Docs\"\\* --contains#ä##b#"

theorem tokenizeFragment_append_quoted :
    tokenizeFragment quotedFragment = .ok [.pattern "C:\\My Docs\\*", .modifier "--contains" (some "ä#b")] ∧
      tokenizeFragment "else" = .ok [.keyword .elseWord "else"] ∧
      tokenizeFragment (quotedFragment ++ "\n \u3000" ++ "else") =
        .ok [.pattern "C:\\My Docs\\*", .modifier "--contains" (some "ä#b"), .keyword .elseWord "else"] ∧
      tokenizeFragment "ä\"b" = .error (.unterminatedQuote 2) ∧
      tokenizeFragment (quotedFragment ++ "\n \u3000" ++ "ä\"b") = .error (.unterminatedQuote 39) := by
  have read : tokenizeFragment quotedFragment =
      .ok [.pattern "C:\\My Docs\\*", .modifier "--contains" (some "ä#b")] := rfl
  have ends : tokenizeFragment "else" = .ok [.keyword .elseWord "else"] := rfl
  have refused : tokenizeFragment "ä\"b" = .error (.unterminatedQuote 2) := rfl
  have blank : ∀ c ∈ "\n \u3000".toList, isBlank c = true := List.all_eq_true.mp rfl
  have joined (second : String) :=
    tokenizeFragment_append quotedFragment "\n \u3000" second _ read (by decide) blank
  have bytes : (quotedFragment ++ "\n \u3000").utf8ByteSize = 37 := by decide
  have later := (joined "ä\"b").2 _ refused
  rw [bytes] at later
  exact ⟨read, ends, (joined "else").1 _ ends, refused, later⟩

/-- A fragment is refused for a delimiter that stands at the offset reported: what is in front of it is read, and so is
the fragment with one more such delimiter at its end. -/
theorem refused_at_delimiter (text : String) (error : LexError) (refused : tokenizeFragment text = .error error) :
    ∃ front back : String, text = front ++ String.singleton error.delimiter ++ back ∧
      front.utf8ByteSize = error.offset ∧ (∃ tokens, tokenizeFragment front = .ok tokens) ∧
      ∃ tokens, tokenizeFragment (text.push error.delimiter) = .ok tokens := by
  rcases (tokenizeFragment_eq_error_iff text error).mp refused with ⟨unclosed, never, rfl⟩
  rcases Lexer.read_unclosed _ _ _ never with pending | ⟨front, back, split, opens, tokens, ran⟩
  · cases pending
  refine ⟨.ofList front, .ofList back, ?_, ?_, ⟨tokens, ?_⟩, ?_⟩
  · rw [← String.toList_inj, String.toList_append, String.toList_append, String.toList_singleton,
      Lexer.report_delimiter, String.toList_ofList, String.toList_ofList, List.append_assoc, List.singleton_append,
      ← opens, split]
  · rw [split, Lexer.report_offset, ← Slice.size_toList, String.toList_ofList]
  · rw [tokenizeFragment_eq_ok_iff, String.toList_ofList, ran]
  · simp only [tokenizeFragment_eq_ok_iff, String.toList_push, Lexer.report_delimiter]
    exact Lexer.read_repaired _ _ _ never

def openFragment : String := "ä\"b c\" --hex#4D \"##"

theorem refused_at_delimiter_doubled :
    tokenizeFragment openFragment = .error (.unterminatedPayload 13) ∧
      ∃ front back : String, openFragment = front ++ String.singleton '#' ++ back ∧ front.utf8ByteSize = 13 ∧
        (∃ tokens, tokenizeFragment front = .ok tokens) ∧
        ∃ tokens, tokenizeFragment (openFragment.push '#') = .ok tokens := by
  have refused : tokenizeFragment openFragment = .error (.unterminatedPayload 13) := rfl
  have found := refused_at_delimiter openFragment _ refused
  simp only [LexError.delimiter, LexError.offset] at found
  exact ⟨refused, found⟩

end FileSieve
