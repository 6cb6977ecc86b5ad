import FileSieve.Query.Scanner
import FileSieve.Proofs.Query.Spelling
import FileSieve.Proofs.Text.Slice

namespace FileSieve

theorem Lexer.byteLength_eq_size (text : List Char) : Lexer.byteLength text = Slice.size text := by
  induction text with
  | nil => rfl
  | cons c rest ih => rw [byteLength, Slice.size_cons, ih]

namespace Scanner

theorem upperByte_high (byte : UInt8) (high : 0x80 ≤ byte.toNat) : upperByte byte = byte := by
  have outside : ¬ byte ≤ 0x7A := by
    rw [UInt8.le_iff_toNat_le]
    simp only [UInt8.reduceToNat]
    omega
  simp [upperByte, outside]

theorem encode_map_toUpper (text : List Char) :
    Utf8.encode (text.map Char.toUpper) = (Utf8.encode text).map upperByte :=
  Utf8.encode_map (by decide) Ascii.toUpper_of_not_ascii upperByte_high text

theorem keyword?_eq (text : List Char) :
    keyword? text = some (ofLetters? ((Utf8.encode text).map upperByte)) := by
  rw [keyword?]
  match Utf8.encode text with
  | [] => rfl
  | [a] => simp [ofLetters?]
  | [a, b] => rfl
  | [a, b, c] => rfl
  | [a, b, c, d] => rfl
  | a :: b :: c :: d :: e :: rest => simp [ofLetters?]

theorem ofText?_eq (text : List Char) (opening : text ≠ ['\x7b']) (closing : text ≠ ['\x7d']) :
    Keyword.ofText? text = ofLetters? ((Utf8.encode text).map upperByte) := by
  have brace (mark : Char) (plain : mark.isUpper = false) (other : text ≠ [mark]) :
      text.map Char.toUpper ≠ [mark] := by
    intro raised
    obtain ⟨c, rest, rfl, same, last⟩ := List.map_eq_cons_iff.mp raised
    rw [List.map_eq_nil_iff.mp last, Ascii.eq_of_toUpper c mark same plain] at other
    exact other rfl
  have opens := brace _ rfl opening
  have closes := brace _ rfl closing
  rw [← encode_map_toUpper, Keyword.ofText?]
  generalize text.map Char.toUpper = raised at opens closes
  split
  case h_1 => contradiction
  case h_2 => contradiction
  case h_9 _ _ notAnd notOr notXor notNot notIf notElse =>
    rw [ofLetters?]
    · exact fun same => notOr (Utf8.eq_of_encode same)
    · exact fun same => notIf (Utf8.eq_of_encode same)
    · exact fun same => notAnd (Utf8.eq_of_encode same)
    · exact fun same => notXor (Utf8.eq_of_encode same)
    · exact fun same => notNot (Utf8.eq_of_encode same)
    · exact fun same => notElse (Utf8.eq_of_encode same)
  all_goals rfl

theorem wordToken?_eq (text : List Char) (quoted : Bool) :
    wordToken? text quoted = some (Token.ofWord text quoted) := by
  cases quoted with
  | true => rfl
  | false =>
    by_cases opening : text = ['\x7b']
    · rw [opening]
      rfl
    by_cases closing : text = ['\x7d']
    · rw [closing]
      rfl
    rw [wordToken?, keyword?_eq, Token.ofWord, if_neg Bool.false_ne_true, ofText?_eq text opening closing]
    · cases ofLetters? ((Utf8.encode text).map upperByte) <;> rfl
    · exact opening
    · exact closing

section

variable {input rest : List Char} {place : Nat}

theorem peek?_eq (there : Slice.from? input place = some rest) : peek? input place = some rest.head? := by
  rw [peek?, there, Option.map_some]

theorem skip?_eq (passes : Char → Bool) (there : Slice.from? input place = some rest) :
    skip? input passes place = some (place + Slice.size (rest.takeWhile passes)) := by
  induction rest generalizing place with
  | nil =>
    rw [skip?, peek?_eq there]
    rfl
  | cons c rest ih =>
    rw [skip?, peek?_eq there, List.takeWhile_cons]
    show (if passes c then skip? input passes (place + c.utf8Size) else some place) = _
    cases passes c with
    | true =>
      rw [if_pos rfl, if_pos rfl, ih (Slice.from?_next there), Slice.size_cons, Nat.add_assoc]
    | false => rfl

theorem offset_eq {opening : List Char} (there : Slice.from? input place = some opening) :
    Lexer.byteLength input - Lexer.byteLength opening = place := by
  rw [Lexer.byteLength_eq_size, Lexer.byteLength_eq_size, Slice.size_of_from? there, Nat.add_sub_cancel]

theorem report_quote {opening : List Char} (there : Slice.from? input place = some opening) :
    (Lexer.Unclosed.quote opening).report input = .unterminatedQuote place :=
  congrArg LexError.unterminatedQuote (offset_eq there)

theorem report_payload {opening : List Char} (there : Slice.from? input place = some opening) :
    (Lexer.Unclosed.payload opening).report input = .unterminatedPayload place :=
  congrArg LexError.unterminatedPayload (offset_eq there)

theorem quote?_reads (opening text : List Char) (there : Slice.from? input place = some rest) :
    (quote? input text place = some none ∧ Lexer.read (.quote text opening) rest = .error (.quote opening)) ∨
      ∃ whole front back, rest = front ++ back ∧
        quote? input text place = some (some (whole, place + Slice.size front)) ∧
        Lexer.read (.quote text opening) rest = Lexer.read (.word whole true) back := by
  induction rest generalizing text place with
  | nil =>
    left
    rw [quote?, peek?_eq there]
    exact ⟨rfl, rfl⟩
  | cons c rest ih =>
    rw [quote?, peek?_eq there, Lexer.read, Lexer.step]
    by_cases closes : c = '"'
    · right
      refine ⟨text, [c], rest, rfl, ?_, ?_⟩
      · simp [closes]
      · simp [closes]
    · have next := ih (text ++ [c]) (Slice.from?_next there)
      simp only [closes, if_false, List.head?_cons]
      rcases next with never | ⟨whole, front, back, split, ends, reads⟩
      · exact Or.inl never
      · refine Or.inr ⟨whole, c :: front, back, congrArg (c :: ·) split, ?_, reads⟩
        rw [ends, Slice.size_cons, Nat.add_assoc]

theorem read_hash (lexeme opening text rest : List Char) (last : rest.head? ≠ some '#') :
    Lexer.read (.hash lexeme text opening) rest =
      (Lexer.read .between rest).map (Lexer.modifierToken lexeme (some text) :: ·) := by
  cases rest with
  | nil => rfl
  | cons c rest =>
    have other : c ≠ '#' := fun same => last (congrArg some same)
    rw [Lexer.read, Lexer.step, if_neg other]
    rfl

theorem payload?_reads (lexeme opening text : List Char) {rest : List Char} {place : Nat}
    (there : Slice.from? input place = some rest) :
    (payload? input text place = some none ∧
        Lexer.read (.payload lexeme text opening) rest = .error (.payload opening)) ∨
      ∃ whole front back, rest = front ++ back ∧
        payload? input text place = some (some (whole, place + Slice.size front)) ∧
        Lexer.read (.payload lexeme text opening) rest =
          (Lexer.read .between back).map (Lexer.modifierToken lexeme (some whole) :: ·) := by
  match rest with
  | [] =>
    left
    rw [payload?, peek?_eq there]
    exact ⟨rfl, rfl⟩
  | c :: rest =>
    rw [payload?, peek?_eq there, Lexer.read, Lexer.step]
    simp only [List.head?_cons]
    by_cases hash : c = '#'
    · rw [if_pos hash, if_pos hash, peek?_eq (Slice.from?_next there)]
      split
      · contradiction
      · rename_i doubled
        obtain ⟨rest, rfl⟩ := List.head?_eq_some_iff.mp (Option.some.inj doubled)
        subst hash
        dsimp only
        rw [Lexer.read, Lexer.step, if_pos rfl]
        rcases payload?_reads lexeme opening (text ++ ['#']) (Slice.from?_next (Slice.from?_next there)) with
          never | ⟨whole, front, back, split, ends, reads⟩
        · exact Or.inl never
        · refine Or.inr ⟨whole, '#' :: '#' :: front, back, congrArg (['#', '#'] ++ ·) split, ?_, reads⟩
          rw [ends, Slice.size_cons, Slice.size_cons, Nat.add_assoc, Nat.add_assoc]
      · rename_i single found
        have last : rest.head? ≠ some '#' := fun doubled => single ((Option.some.inj found).symm.trans doubled)
        refine Or.inr ⟨text, [c], rest, rfl, ?_, read_hash lexeme opening text rest last⟩
        rw [Slice.size_cons, Slice.size_nil, Nat.add_zero]
    · rw [if_neg hash, if_neg hash]
      rcases payload?_reads lexeme opening (text ++ [c]) (Slice.from?_next there) with
        never | ⟨whole, front, back, split, ends, reads⟩
      · exact Or.inl never
      · refine Or.inr ⟨whole, c :: front, back, congrArg (c :: ·) split, ?_, reads⟩
        rw [ends, Slice.size_cons, Nat.add_assoc]
termination_by rest.length

/-- What the lexer makes of the rest in a mode: a token in front of a back part, or its error. -/
inductive Delivers (input : List Char) (mode : Lexer.Mode) (rest : List Char) (place : Nat) :
    Except LexError (Token × Nat) → Prop where
  | token (token : Token) (front back : List Char) (split : rest = front ++ back)
    (reads : Lexer.read mode rest = (Lexer.read .between back).map (token :: ·)) :
    Delivers input mode rest place (.ok (token, place + Slice.size front))
  | refused (unclosed : Lexer.Unclosed) (reads : Lexer.read mode rest = .error unclosed) :
    Delivers input mode rest place (.error (unclosed.report input))

theorem Delivers.behind {mode next : Lexer.Mode} {front back : List Char} {result : Except LexError (Token × Nat)}
    (delivers : Delivers input next back (place + Slice.size front) result)
    (reads : Lexer.read mode (front ++ back) = Lexer.read next back) :
    Delivers input mode (front ++ back) place result := by
  cases delivers with
  | token token middle last split ends =>
    rw [Nat.add_assoc, ← Slice.size_append]
    refine .token token (front ++ middle) last ?_ (reads.trans ends)
    rw [split, List.append_assoc]
  | refused unclosed ends => exact .refused unclosed (reads.trans ends)

theorem word?_delivers (text : List Char) (quoted : Bool) {rest : List Char} {place : Nat}
    (there : Slice.from? input place = some rest) :
    ∃ result, word? input text quoted place = some result ∧ Delivers input (.word text quoted) rest place result := by
  match rest with
  | [] =>
    refine ⟨.ok (.ofWord text quoted, place), ?_, .token _ [] [] rfl rfl⟩
    rw [word?, peek?_eq there]
    simp only [List.head?_nil, wordToken?_eq]
    rfl
  | c :: rest =>
    rw [word?, peek?_eq there]
    simp only [List.head?_cons, wordToken?_eq, Option.bind_eq_bind, Option.bind_some]
    by_cases blank : isBlank c = true
    · rw [if_pos blank]
      have ends : Lexer.Ends (c :: rest) := fun d among => Option.some.inj among ▸ blank
      exact ⟨_, rfl, .token _ [] (c :: rest) rfl (Lexer.read_word_ended text quoted _ ends)⟩
    rw [if_neg blank]
    by_cases quote : c = '"'
    · subst quote
      rw [if_pos rfl]
      have opens : Lexer.read (.word text quoted) ('"' :: rest) = Lexer.read (.quote text ('"' :: rest)) rest := rfl
      rcases quote?_reads ('"' :: rest) text (Slice.from?_next there) with
        ⟨ends, reads⟩ | ⟨whole, front, back, rfl, ends, reads⟩
      · rw [ends]
        refine ⟨_, rfl, ?_⟩
        rw [← report_quote there]
        exact .refused _ (opens.trans reads)
      · have behind := Slice.from?_advance (Slice.from?_next there)
        obtain ⟨result, run, delivers⟩ := word?_delivers whole true behind
        rw [ends]
        refine ⟨result, run, ?_⟩
        rw [Nat.add_assoc, ← Slice.size_cons] at delivers
        exact delivers.behind (opens.trans reads)
    · obtain ⟨result, run, delivers⟩ := word?_delivers (text ++ [c]) quoted (Slice.from?_next there)
      rw [if_neg quote]
      refine ⟨result, run, ?_⟩
      rw [← Slice.size_singleton] at delivers
      refine delivers.behind ?_
      rw [List.singleton_append, Lexer.read, Lexer.step, if_neg blank, if_neg quote]
termination_by rest.length

theorem skip?_lexeme {behind : List Char} (there : Slice.from? input place = some ('-' :: behind)) :
    ∃ lexeme back, behind = lexeme ++ back ∧ Lexer.isModifier ('-' :: lexeme) = true ∧
      (∀ c ∈ back.head?, isBlank c = true ∨ c = '#') ∧
      skip? input (fun c => !isBlank c && c != '#') place = some (place + Slice.size ('-' :: lexeme)) := by
  refine ⟨_, _, List.takeWhile_append_dropWhile.symm, ?_, ?_, skip?_eq _ there⟩
  · exact List.all_takeWhile
  · intro c first
    have stops := List.head?_dropWhile_not (fun c => !isBlank c && c != '#') behind
    rw [first] at stops
    by_cases blank : isBlank c = true
    · exact Or.inl blank
    · exact Or.inr (by simpa [blank] using stops)

theorem modifier?_delivers {behind : List Char} (there : Slice.from? input place = some ('-' :: behind)) :
    ∃ result, modifier? input place = some result ∧ Delivers input .between ('-' :: behind) place result := by
  obtain ⟨lexeme, back, rfl, plain, stops, skips⟩ := skip?_lexeme there
  have cut : Slice.between? input place (place + Slice.size ('-' :: lexeme)) = some ('-' :: lexeme) :=
    Slice.between?_advance there
  have after : Slice.from? input (place + Slice.size ('-' :: lexeme)) = some back := Slice.from?_advance there
  have reads := Lexer.read_lexeme ('-' :: lexeme) plain back
  rw [modifier?, skips]
  simp only [Option.bind_eq_bind, Option.bind_some, cut, peek?_eq after]
  split
  · rename_i hash
    obtain ⟨text, rfl⟩ := List.head?_eq_some_iff.mp hash
    have inside : Slice.from? input (place + Slice.size ('-' :: lexeme) + 1) = some text := Slice.from?_next after
    rcases payload?_reads ('-' :: lexeme) ('#' :: text) [] inside with
      ⟨ends, reads'⟩ | ⟨whole, front, back, rfl, ends, reads'⟩
    · rw [ends]
      refine ⟨_, rfl, ?_⟩
      rw [← report_payload after]
      exact .refused _ (reads.trans reads')
    · have size : place + Slice.size ('-' :: lexeme) + 1 + Slice.size front =
          place + Slice.size ('-' :: lexeme ++ '#' :: front) := by
        have hash : '#'.utf8Size = 1 := rfl
        rw [Slice.size_append, Slice.size_cons '#', hash]
        omega
      rw [ends, size]
      refine ⟨_, rfl, .token _ ('-' :: lexeme ++ '#' :: front) back ?_ (reads.trans reads')⟩
      rw [List.append_assoc]
      rfl
  · rename_i other
    refine ⟨_, rfl, .token _ ('-' :: lexeme) back rfl ?_⟩
    refine reads.trans (Lexer.read_modifier_ended ('-' :: lexeme) back fun c first => ?_)
    exact (stops c first).resolve_right fun hash => other (hash ▸ first)

theorem token?_delivers {c : Char} {behind : List Char} (there : Slice.from? input place = some (c :: behind))
    (solid : isBlank c = false) :
    ∃ result, token? input c place = some result ∧ Delivers input .between (c :: behind) place result := by
  rw [token?]
  by_cases dash : c = '-'
  · subst dash
    exact modifier?_delivers there
  · rw [if_neg dash]
    obtain ⟨result, run, delivers⟩ := word?_delivers [] false there
    have starts : Lexer.read .between (c :: behind) = Lexer.read (.word [] false) (c :: behind) := by
      simp only [Lexer.read, Lexer.step, Lexer.start, solid, dash, Bool.false_eq_true, if_false, List.nil_append]
      split <;> rfl
    refine ⟨result, run, ?_⟩
    cases delivers with
    | token token front back split reads => exact .token token front back split (starts.trans reads)
    | refused unclosed reads => exact .refused unclosed (starts.trans reads)

theorem skip?_blanks {start : Nat} (there : Slice.from? input place = some rest)
    (skipped : skip? input isBlank place = some start) :
    Slice.from? input start = some (rest.dropWhile isBlank) := by
  rw [skip?_eq isBlank there] at skipped
  cases skipped
  rw [← List.takeWhile_append_dropWhile (p := isBlank) (l := rest)] at there
  exact Slice.from?_advance there

theorem token?_delivers_behind {start : Nat} {c : Char} (there : Slice.from? input place = some rest)
    (skipped : skip? input isBlank place = some start) (found : peek? input start = some (some c)) :
    ∃ result, token? input c start = some result ∧
      Delivers input .between (rest.dropWhile isBlank) start result := by
  have after := skip?_blanks there skipped
  rw [peek?_eq after, Option.some.injEq] at found
  obtain ⟨behind, split⟩ := List.head?_eq_some_iff.mp found
  rw [split] at after ⊢
  exact token?_delivers after ((skip?_stops skipped).2 c (peek?_eq after))

theorem read_dropWhile_isBlank (rest : List Char) :
    Lexer.read .between (rest.dropWhile isBlank) = Lexer.read .between rest := by
  have blanks := Lexer.read_blanks (rest.takeWhile isBlank) (rest.dropWhile isBlank)
    (List.all_eq_true.mp List.all_takeWhile)
  rw [← blanks, List.takeWhile_append_dropWhile]

/-- From every place on the scanner reads what the lexer reads from there. -/
theorem tokens?_eq (there : Slice.from? input place = some rest) :
    tokens? input place = some ((Lexer.read .between rest).mapError (Lexer.Unclosed.report input)) := by
  fun_induction tokens? input place generalizing rest with
  | case1 place lost =>
    rw [skip?_eq isBlank there] at lost
    contradiction
  | case2 place start skipped lost =>
    rw [peek?_eq (skip?_blanks there skipped)] at lost
    contradiction
  | case3 place start skipped ended =>
    rw [peek?_eq (skip?_blanks there skipped), Option.some.injEq, List.head?_eq_none_iff] at ended
    rw [← read_dropWhile_isBlank, ended]
    rfl
  | case4 place start skipped c found lost =>
    obtain ⟨result, run, _⟩ := token?_delivers_behind there skipped found
    rw [run] at lost
    contradiction
  | case5 place start skipped c found error refused =>
    obtain ⟨result, run, delivers⟩ := token?_delivers_behind there skipped found
    obtain rfl := Option.some.inj (run.symm.trans refused)
    cases delivers with
    | refused unclosed reads =>
      rw [← read_dropWhile_isBlank, reads]
      rfl
  | case6 place start skipped c found token next delivered ih =>
    obtain ⟨result, run, delivers⟩ := token?_delivers_behind there skipped found
    obtain rfl := Option.some.inj (run.symm.trans delivered)
    have after := skip?_blanks there skipped
    cases delivers with
    | token token front back split reads =>
      rw [split] at after
      rw [ih (Slice.from?_advance after), ← read_dropWhile_isBlank rest, reads]
      cases Lexer.read .between back <;> rfl

end

theorem tokenizeFragment?_eq (input : String) : tokenizeFragment? input = some (tokenizeFragment input) := by
  have whole : Slice.from? input.toList 0 = some input.toList := Slice.from?_size [] input.toList
  exact tokens?_eq whole

end Scanner
end FileSieve
