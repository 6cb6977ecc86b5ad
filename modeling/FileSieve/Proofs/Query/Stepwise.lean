import FileSieve.Query.Parsing
import FileSieve.Proofs.Query.Modifiers

/-! Parses step by step. What has been passed and what is left make up the tokens, whatever loadlines are put in
between; a step passes a token or uses up a splice, so every parse ends, with the result that reading the tokens
one after the other has. -/

namespace FileSieve

namespace Parsing

def midway (passed rest : List Token) (asked : List String) (opened : Opened) (options : ScanOptions) : Parsing :=
  { tokens := passed ++ rest, cursor := passed.length, asked, opened, options, result := none }

theorem eq_midway (parsing : Parsing) (underway : parsing.result = none) (token : Token) (rest : List Token)
    (left : parsing.tokens.drop parsing.cursor = token :: rest) :
    parsing = midway (parsing.tokens.take parsing.cursor) (token :: rest) parsing.asked parsing.opened
      parsing.options := by
  have inside : parsing.cursor < parsing.tokens.length := by
    apply Nat.lt_of_not_le
    intro outside
    rw [List.drop_eq_nil_of_le outside] at left
    cases left
  rw [← left, midway, List.take_append_drop, List.length_take_of_le (Nat.le_of_lt inside), ← underway]

section

variable (passed rest : List Token) (asked : List String) (opened : Opened) (options : ScanOptions)

theorem peek_midway : (midway passed rest asked opened options).peek = rest.headD .finish := by
  cases rest <;> simp [peek, midway]

theorem advance_midway (token : Token) (plain : token ≠ .finish) :
    (midway passed (token :: rest) asked opened options).advance =
      midway (passed ++ [token]) rest asked opened options := by
  have next : (midway passed (token :: rest) asked opened options).peek = token := peek_midway ..
  rw [advance, next, if_neg plain]
  simp [midway]

theorem splice_midway (line : List Token) :
    (midway passed rest asked opened options).splice line =
      midway passed (line ++ rest) asked opened options := by
  simp [splice, midway]

variable (source : LoadlineSource) (now : Instant)

theorem note_midway (name : String) :
    (midway passed rest asked opened options).note name =
      midway passed rest (asked ++ [name]) opened options := rfl

theorem ask_midway (name : String) :
    (midway passed rest asked opened options).ask source name =
      if maxSplices ≤ asked.length then
        (midway passed rest asked opened options).conclude (.error .loadlineDepth)
      else match Parser.loadlineTokens source name with
        | .error error => (midway passed rest (asked ++ [name]) opened options).conclude (.error error)
        | .ok line => midway passed (line ++ rest) (asked ++ [name]) opened options := by
  simp only [ask, note_midway, splice_midway]
  rfl

theorem request_named {lexeme name : String} {payload : Option String} {behind : List Token}
    (named : Parser.loadlineName lexeme payload rest = .ok (name, behind)) :
    ∃ word, rest = word ++ behind ∧ .finish ∉ word ∧
      (midway passed rest asked opened options).request source lexeme payload =
        (midway (passed ++ word) behind asked opened options).ask source name := by
  have next := peek_midway passed rest asked opened options
  cases payload with
  | some spelled =>
      cases empty : spelled.isEmpty <;> simp [Parser.loadlineName, empty] at named
      obtain ⟨rfl, rfl⟩ := named
      exact ⟨[], rfl, List.not_mem_nil, by simp [request, empty]⟩
  | none =>
      cases rest with
      | nil => cases named
      | cons token rest =>
          cases token with
          | pattern spelled =>
              cases empty : spelled.isEmpty <;> simp [Parser.loadlineName, empty] at named
              obtain ⟨rfl, rfl⟩ := named
              have advanced := advance_midway passed rest asked opened options (.pattern spelled) nofun
              exact ⟨[.pattern spelled], rfl, by simp, by simp [request, next, advanced, empty]⟩
          | keyword | modifier | finish => cases named

theorem request_unnamed {lexeme : String} {payload : Option String} {error : ParseError}
    (unnamed : Parser.loadlineName lexeme payload rest = .error error) :
    ∃ word behind, rest = word ++ behind ∧ .finish ∉ word ∧
      (midway passed rest asked opened options).request source lexeme payload =
        (midway (passed ++ word) behind asked opened options).conclude (.error error) := by
  have next := peek_midway passed rest asked opened options
  cases payload with
  | some spelled =>
      cases empty : spelled.isEmpty <;> simp [Parser.loadlineName, empty] at unnamed
      subst unnamed
      exact ⟨[], rest, rfl, List.not_mem_nil, by simp [request, empty]⟩
  | none =>
      cases rest with
      | nil =>
          cases unnamed
          exact ⟨[], [], rfl, List.not_mem_nil, by simp [request, next]⟩
      | cons token rest =>
          cases token with
          | pattern spelled =>
              cases empty : spelled.isEmpty <;> simp [Parser.loadlineName, empty] at unnamed
              subst unnamed
              have advanced := advance_midway passed rest asked opened options (.pattern spelled) nofun
              exact ⟨[.pattern spelled], rest, rfl, by simp, by simp [request, next, advanced, empty]⟩
          | keyword | modifier | finish =>
              cases unnamed
              exact ⟨[], _, rfl, List.not_mem_nil, by simp [request, next]⟩

theorem step_finish (last : rest.headD .finish = .finish) :
    (midway passed rest asked opened options).step source now =
      (midway passed rest asked opened options).conclude (opened.finish.map (·, options)) := by
  have next := peek_midway passed rest asked opened options
  rw [last] at next
  simp only [step, next]
  rfl

theorem step_keyword (kind : Keyword) (spelling : String) :
    (midway passed (.keyword kind spelling :: rest) asked opened options).step source now =
      match opened.keyword spelling kind with
      | .error error =>
        (midway (passed ++ [.keyword kind spelling]) rest asked opened options).conclude (.error error)
      | .ok next => midway (passed ++ [.keyword kind spelling]) rest asked next options := by
  have next := peek_midway passed (.keyword kind spelling :: rest) asked opened options
  have advanced := advance_midway passed rest asked opened options (.keyword kind spelling) nofun
  simp only [step, next, advanced, List.headD_cons]
  rfl

theorem step_pattern (text : String) :
    (midway passed (.pattern text :: rest) asked opened options).step source now =
      midway (passed ++ [.pattern text]) rest asked
        (opened.add [.leaf (.wildcard (.ofText text options.base))]) options := by
  have next := peek_midway passed (.pattern text :: rest) asked opened options
  have advanced := advance_midway passed rest asked opened options (.pattern text) nofun
  simp only [step, next, advanced, List.headD_cons]
  rfl

theorem step_modifier (lexeme : String) (payload : Option String) :
    (midway passed (.modifier lexeme payload :: rest) asked opened options).step source now =
      match Modifier.interpret lexeme payload now options with
      | .error error =>
        (midway (passed ++ [.modifier lexeme payload]) rest asked opened options).conclude (.error error)
      | .ok (.criteria items) =>
        midway (passed ++ [.modifier lexeme payload]) rest asked (opened.add items) options
      | .ok (.options changed) => midway (passed ++ [.modifier lexeme payload]) rest asked opened changed
      | .ok (.loadline name) =>
        (midway (passed ++ [.modifier lexeme payload]) rest asked opened options).request source lexeme
          name := by
  have next := peek_midway passed (.modifier lexeme payload :: rest) asked opened options
  have advanced := advance_midway passed rest asked opened options (.modifier lexeme payload) nofun
  simp only [step, next, advanced, List.headD_cons]
  rfl

/-- What a step can do: end the parse, pass tokens, or put a loadline at the cursor. What is left to be read has
the result that it had before. -/
inductive Moves : Parsing → Prop
  | ends (word behind : List Token) (used : List String)
      (result : Except ParseError (Criterion × ScanOptions)) (split : rest = word ++ behind)
      (plain : .finish ∉ word) (few : used.length ≤ maxSplices) (more : asked ⊆ used)
      (same : Parser.read source now (maxSplices - asked.length) opened options rest = result) :
      Moves ((midway (passed ++ word) behind used opened options).conclude result)
  | passes (word behind : List Token) (next : Opened) (changed : ScanOptions)
      (split : rest = word ++ behind) (plain : .finish ∉ word) (inhabited : word ≠ [])
      (same : Parser.read source now (maxSplices - asked.length) opened options rest =
        Parser.read source now (maxSplices - asked.length) next changed behind) :
      Moves (midway (passed ++ word) behind asked next changed)
  | splices (word behind line : List Token) (name : String) (split : rest = word ++ behind)
      (plain : .finish ∉ word) (few : (asked ++ [name]).length ≤ maxSplices)
      (same : Parser.read source now (maxSplices - asked.length) opened options rest =
        Parser.read source now (maxSplices - (asked ++ [name]).length) opened options (line ++ behind)) :
      Moves (midway (passed ++ word) (line ++ behind) (asked ++ [name]) opened options)

theorem read_loadline {lexeme : String} {payload name : Option String} (splices : Nat)
    (interpreted : Modifier.interpret lexeme payload now options = .ok (.loadline name)) :
    Parser.read source now splices opened options (.modifier lexeme payload :: rest) =
      match Parser.loadlineName lexeme name rest with
      | .error error => .error error
      | .ok (name, behind) =>
        match splices with
        | 0 => .error .loadlineDepth
        | splices + 1 =>
          (Parser.loadlineTokens source name).bind fun line =>
            Parser.read source now splices opened options (line ++ behind) := by
  rw [Parser.read]
  simp only [interpreted]
  rfl

theorem request_moves (few : asked.length ≤ maxSplices) (lexeme : String) (payload name : Option String)
    (interpreted : Modifier.interpret lexeme payload now options = .ok (.loadline name)) :
    Moves passed (.modifier lexeme payload :: rest) asked opened options source now
      ((midway (passed ++ [.modifier lexeme payload]) rest asked opened options).request source lexeme name) := by
  have reads := read_loadline rest opened options source now (maxSplices - asked.length) interpreted
  cases named : Parser.loadlineName lexeme name rest with
  | error error =>
      obtain ⟨word, behind, rfl, plain, requested⟩ :=
        request_unnamed (passed ++ [.modifier lexeme payload]) rest asked opened options source named
      rw [requested, List.append_assoc]
      rw [named] at reads
      exact .ends _ behind asked _ rfl (by simpa using plain) few (List.Subset.refl _) reads
  | ok found =>
      obtain ⟨name, behind⟩ := found
      obtain ⟨word, rfl, plain, requested⟩ :=
        request_named (passed ++ [.modifier lexeme payload]) rest asked opened options source named
      have whole : Token.finish ∉ [.modifier lexeme payload] ++ word := by simpa using plain
      rw [requested, List.append_assoc, ask_midway]
      simp only [named] at reads
      split
      · rename_i spent
        -- The budget is spent, so the parser ends with the same error without asking.
        have none : maxSplices - asked.length = 0 := Nat.sub_eq_zero_of_le spent
        rw [none] at reads
        exact .ends _ behind asked _ rfl whole few (List.Subset.refl _) (by rw [none, reads])
      · rename_i room
        have noted : (asked ++ [name]).length = asked.length + 1 := by
          rw [List.length_append, List.length_singleton]
        have fewer : (asked ++ [name]).length ≤ maxSplices := by omega
        have remaining : maxSplices - asked.length = maxSplices - (asked ++ [name]).length + 1 := by omega
        rw [remaining] at reads
        cases fetched : Parser.loadlineTokens source name with
        | error error =>
            rw [fetched] at reads
            have more : asked ⊆ asked ++ [name] := List.subset_append_left _ _
            exact .ends _ behind _ _ rfl whole fewer more (by rw [remaining]; exact reads)
        | ok line =>
            rw [fetched] at reads
            exact .splices _ behind line name rfl whole fewer (by rw [remaining]; exact reads)

theorem step_moves (few : asked.length ≤ maxSplices) :
    Moves passed rest asked opened options source now
      ((midway passed rest asked opened options).step source now) := by
  have ended (last : rest.headD .finish = .finish)
      (same : Parser.read source now (maxSplices - asked.length) opened options rest =
        opened.finish.map (·, options)) :
      Moves passed rest asked opened options source now
        ((midway passed rest asked opened options).step source now) := by
    rw [step_finish passed rest asked opened options source now last]
    -- Nothing is passed at the end of the tokens.
    have stays : Moves passed rest asked opened options source now
        ((midway (passed ++ []) rest asked opened options).conclude (opened.finish.map (·, options))) :=
      .ends [] rest asked _ rfl List.not_mem_nil few (List.Subset.refl _) same
    rwa [List.append_nil] at stays
  cases rest with
  | nil => exact ended rfl (by rw [Parser.read])
  | cons token rest =>
      cases token with
      | finish => exact ended rfl (by rw [Parser.read])
      | keyword kind spelling =>
          rw [step_keyword]
          cases turned : opened.keyword spelling kind with
          | error error =>
              exact .ends [_] rest asked _ rfl (by simp) few (List.Subset.refl _)
                (by rw [Parser.read, turned]; rfl)
          | ok next =>
              exact .passes [_] rest next options rfl (by simp) (List.cons_ne_nil _ _)
                (by rw [Parser.read, turned]; rfl)
      | pattern text =>
          rw [step_pattern]
          exact .passes [_] rest _ options rfl (by simp) (List.cons_ne_nil _ _) (by rw [Parser.read])
      | modifier lexeme payload =>
          rw [step_modifier]
          cases interpreted : Modifier.interpret lexeme payload now options with
          | error error =>
              exact .ends [_] rest asked _ rfl (by simp) few (List.Subset.refl _)
                (by simp only [Parser.read, interpreted])
          | ok effect =>
              cases effect with
              | criteria items =>
                  exact .passes [_] rest _ options rfl (by simp) (List.cons_ne_nil _ _)
                    (by simp only [Parser.read, interpreted])
              | options changed =>
                  exact .passes [_] rest opened changed rfl (by simp) (List.cons_ne_nil _ _)
                    (by simp only [Parser.read, interpreted])
              | loadline name =>
                  exact request_moves passed rest asked opened options source now few lexeme payload name
                    interpreted

end

section

variable (source : LoadlineSource) (now : Instant)

inductive Kept : Parsing → Prop
  | underway (passed rest : List Token) (asked : List String) (opened : Opened) (options : ScanOptions)
      (plain : .finish ∉ passed) (few : asked.length ≤ maxSplices) :
      Kept (midway passed rest asked opened options)
  | ended (passed rest : List Token) (asked : List String) (opened : Opened) (options : ScanOptions)
      (result : Except ParseError (Criterion × ScanOptions)) (plain : .finish ∉ passed)
      (few : asked.length ≤ maxSplices) :
      Kept ((midway passed rest asked opened options).conclude result)

theorem step_kept (parsing : Parsing) (kept : Kept parsing) : Kept (parsing.step source now) := by
  cases kept with
  | ended passed rest asked opened options result plain few =>
      exact .ended passed rest asked opened options result plain few
  | underway passed rest asked opened options plain few =>
      have moves := step_moves passed rest asked opened options source now few
      generalize (midway passed rest asked opened options).step source now = next at moves ⊢
      have longer {word : List Token} (more : .finish ∉ word) : .finish ∉ passed ++ word := by
        rw [List.mem_append, not_or]
        exact ⟨plain, more⟩
      cases moves with
      | ends word behind used result split other fewer more same =>
          exact .ended _ behind used opened options result (longer other) fewer
      | passes word behind next changed split other inhabited same =>
          exact .underway _ behind asked next changed (longer other) few
      | splices word behind line name split other fewer same =>
          exact .underway _ _ _ opened options (longer other) fewer

theorem run_kept (parsing : Parsing) (kept : Kept parsing) (steps : Nat) :
    Kept (parsing.run source now steps) := by
  induction steps generalizing parsing with
  | zero => exact kept
  | succ steps ih => exact ih _ (step_kept source now parsing kept)

/-- Each step leaves fewer tokens, or else fewer splices, so a parse ends, with the result that reading has. -/
theorem run_ends (passed rest : List Token) (asked : List String) (opened : Opened) (options : ScanOptions)
    (few : asked.length ≤ maxSplices) :
    ∃ steps, ((midway passed rest asked opened options).run source now steps).result =
      some (Parser.read source now (maxSplices - asked.length) opened options rest) := by
  have moves := step_moves passed rest asked opened options source now few
  generalize stepped : (midway passed rest asked opened options).step source now = next at moves
  cases moves with
  | ends word behind used result split plain fewer more same =>
      refine ⟨1, ?_⟩
      rw [run, run, stepped, same]
      rfl
  | passes word behind next changed split plain inhabited same =>
      have fewer : behind.length < rest.length := by
        have some := List.length_pos_iff.mpr inhabited
        rw [split, List.length_append]
        omega
      obtain ⟨steps, ended⟩ := run_ends (passed ++ word) behind asked next changed few
      refine ⟨steps + 1, ?_⟩
      rw [run, stepped, same]
      exact ended
  | splices word behind line name split plain fewer same =>
      have spent : maxSplices - (asked ++ [name]).length < maxSplices - asked.length := by
        rw [List.length_append, List.length_singleton] at fewer ⊢
        omega
      obtain ⟨steps, ended⟩ :=
        run_ends (passed ++ word) (line ++ behind) (asked ++ [name]) opened options fewer
      refine ⟨steps + 1, ?_⟩
      rw [run, stepped, same]
      exact ended
termination_by (maxSplices - asked.length, rest.length)

theorem run_result (parsing : Parsing) (result : Except ParseError (Criterion × ScanOptions))
    (ended : parsing.result = some result) (steps : Nat) : parsing.run source now steps = parsing := by
  have stays : parsing.step source now = parsing := by
    rw [step, ended]
  induction steps with
  | zero => rfl
  | succ steps ih => rw [run, stays, ih]

theorem run_add (parsing : Parsing) (first second : Nat) :
    parsing.run source now (first + second) = (parsing.run source now first).run source now second := by
  induction first generalizing parsing with
  | zero => rw [Nat.zero_add, run]
  | succ first ih => rw [Nat.succ_add, run, ih, run]

theorem run_within (parsing : Parsing) (limit : Nat)
    (result : Except ParseError (Criterion × ScanOptions))
    (ended : (parsing.run source now limit).result = some result) (steps : Nat) :
    ∃ fewer ≤ limit, parsing.run source now steps = parsing.run source now fewer := by
  rcases Nat.le_total steps limit with few | many
  · exact ⟨steps, few, rfl⟩
  · obtain ⟨more, rfl⟩ := Nat.exists_eq_add_of_le many
    exact ⟨limit, Nat.le_refl limit, by rw [run_add, run_result source now _ _ ended]⟩

theorem result_unique (parsing : Parsing) (early late : Nat)
    (first second : Except ParseError (Criterion × ScanOptions))
    (here : (parsing.run source now early).result = some first)
    (there : (parsing.run source now late).result = some second) : first = second := by
  have both := run_add source now parsing early late
  have swapped := run_add source now parsing late early
  rw [run_result source now _ _ here] at both
  rw [run_result source now _ _ there, Nat.add_comm, both] at swapped
  rw [swapped, there] at here
  exact (Option.some.inj here).symm

theorem ask_agrees (other : LoadlineSource) (parsing : Parsing) (name : String)
    (agrees : ∀ asked ∈ (parsing.ask source name).asked, other asked = source asked) :
    parsing.ask other name = parsing.ask source name := by
  rw [ask] at agrees
  rw [ask, ask]
  split at agrees
  · rename_i spent
    rw [if_pos spent, if_pos spent]
  · rename_i room
    have noted : name ∈ (parsing.note name).asked := List.mem_append_right _ (List.mem_singleton_self name)
    have answer : other name = source name := by
      split at agrees <;> exact agrees name noted
    have line : Parser.loadlineTokens other name = Parser.loadlineTokens source name := by
      rw [Parser.loadlineTokens, Parser.loadlineTokens, answer]
    rw [line]

theorem request_agrees (other : LoadlineSource) (parsing : Parsing) (lexeme : String) (payload : Option String)
    (agrees : ∀ asked ∈ (parsing.request source lexeme payload).asked, other asked = source asked) :
    parsing.request other lexeme payload = parsing.request source lexeme payload := by
  unfold request at agrees ⊢
  split
  · split
    · rfl
    · rename_i inhabited
      simp only [if_neg inhabited] at agrees
      exact ask_agrees source other parsing _ agrees
  · split
    · rename_i name next
      split
      · rfl
      · rename_i inhabited
        simp only [next, if_neg inhabited] at agrees
        exact ask_agrees source other parsing.advance _ agrees
    · rfl

theorem step_agrees (other : LoadlineSource) (parsing : Parsing)
    (agrees : ∀ asked ∈ (parsing.step source now).asked, other asked = source asked) :
    parsing.step other now = parsing.step source now := by
  unfold step at agrees ⊢
  split
  · rfl
  · rename_i unended
    split
    · rfl
    · rfl
    · rfl
    · rename_i lexeme payload next
      split
      · rfl
      · rfl
      · rfl
      · rename_i name interpreted
        simp only [unended, next, interpreted] at agrees
        exact request_agrees source other parsing.advance lexeme name agrees

theorem asked_step (parsing : Parsing) (kept : Kept parsing) :
    parsing.asked ⊆ (parsing.step source now).asked := by
  cases kept with
  | ended => exact List.Subset.refl _
  | underway passed rest asked opened options plain few =>
      have moves := step_moves passed rest asked opened options source now few
      generalize (midway passed rest asked opened options).step source now = next at moves ⊢
      cases moves with
      | ends word behind used result split other fewer more same => exact more
      | passes => exact List.Subset.refl _
      | splices => exact List.subset_append_left _ _

theorem asked_run (parsing : Parsing) (kept : Kept parsing) (steps : Nat) :
    parsing.asked ⊆ (parsing.run source now steps).asked := by
  induction steps generalizing parsing with
  | zero => exact List.Subset.refl _
  | succ steps ih =>
      have stepped := step_kept source now parsing kept
      exact List.Subset.trans (asked_step source now parsing kept) (ih _ stepped)

theorem run_agrees (other : LoadlineSource) (parsing : Parsing) (kept : Kept parsing) (steps : Nat)
    (agrees : ∀ asked ∈ (parsing.run source now steps).asked, other asked = source asked) :
    parsing.run other now steps = parsing.run source now steps := by
  induction steps generalizing parsing with
  | zero => rfl
  | succ steps ih =>
      have stepped := step_kept source now parsing kept
      have first : parsing.step other now = parsing.step source now := by
        apply step_agrees
        intro asked member
        exact agrees asked (asked_run source now _ stepped steps member)
      rw [run, run, first]
      exact ih _ stepped agrees

end

theorem start_kept (options : ScanOptions) (tokens : List Token) : Kept (start options tokens) :=
  .underway [] tokens [] _ options List.not_mem_nil (Nat.zero_le _)

theorem start_ends (source : LoadlineSource) (now : Instant) (options : ScanOptions) (tokens : List Token) :
    ∃ steps, ((start options tokens).run source now steps).result =
      some (parseTokens source now options tokens) :=
  run_ends source now [] tokens [] (.whole Chain.empty []) options (Nat.zero_le _)

theorem parseTokens_of_run (source : LoadlineSource) (now : Instant) (options : ScanOptions)
    (tokens : List Token) (steps : Nat) (result : Except ParseError (Criterion × ScanOptions))
    (ended : ((start options tokens).run source now steps).result = some result) :
    parseTokens source now options tokens = result := by
  obtain ⟨more, reached⟩ := start_ends source now options tokens
  exact result_unique source now _ more steps _ _ reached ended

end Parsing

end FileSieve
