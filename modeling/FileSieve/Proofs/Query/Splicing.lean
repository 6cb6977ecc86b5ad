import FileSieve.Query.Parser
import FileSieve.Proofs.Query.Emission

/-! Loadlines. The tokens of a loadline stand for the request: the parse goes on as if they had been written in
its place, and all that differs is how many more loadlines may follow. -/

namespace FileSieve

/-- The tokens that ask for the loadline of a name, which is the payload or the next word. -/
inductive RequestsLoadline (name : String) : List Token → Prop
  | payload (lexeme : String) (asks : (Token.modifier lexeme (some name)).asksLoadline = true) :
      RequestsLoadline name [.modifier lexeme (some name)]
  | word (lexeme : String) (asks : (Token.modifier lexeme none).asksLoadline = true) :
      RequestsLoadline name [.modifier lexeme none, .pattern name]

namespace Parser

section

variable (source : LoadlineSource) (now : Instant) (opened : Opened) (options : ScanOptions)

theorem read_more_splices (tokens : List Token) (fewer more : Nat) (le : fewer ≤ more) :
    read source now fewer opened options tokens = .error .loadlineDepth ∨
      read source now fewer opened options tokens = read source now more opened options tokens := by
  fun_induction read source now fewer opened options tokens generalizing more with
  | case1 | case2 =>
      right
      rw [read]
  | case3 splices opened options kind spelling rest ih =>
      simp only [read]
      cases opened.keyword spelling kind with
      | error error => exact .inr rfl
      | ok next => exact ih next more le
  | case4 splices opened options text rest pattern ih =>
      rw [read]
      exact ih more le
  | case5 splices opened options lexeme payload rest error refused =>
      right
      simp only [read, refused]
  | case6 splices opened options lexeme payload rest items interpreted ih =>
      simp only [read, interpreted]
      exact ih more le
  | case7 splices opened options lexeme payload rest changed interpreted ih =>
      simp only [read, interpreted]
      exact ih more le
  | case8 splices opened options lexeme payload rest name interpreted error unnamed =>
      right
      simp only [read, interpreted, unnamed]
  -- Here the smaller budget is spent, the one case in which the two may differ.
  | case9 => exact .inl rfl
  | case10 opened options lexeme payload rest asked interpreted name behind named splices ih =>
      obtain ⟨more, rfl⟩ := Nat.exists_eq_add_of_le' (Nat.one_le_of_lt le)
      simp only [read, interpreted, named]
      cases loadlineTokens source name with
      | error error => exact .inr rfl
      | ok tokens => exact ih tokens more (Nat.le_of_succ_le_succ le)

theorem read_request (splices : Nat) (name : String) (request rest : List Token) (named : name ≠ "")
    (requests : RequestsLoadline name request) :
    read source now (splices + 1) opened options (request ++ rest) =
      (loadlineTokens source name).bind fun tokens =>
        read source now splices opened options (tokens ++ rest) := by
  have inhabited : name.isEmpty = false := String.isEmpty_eq_false_iff.mpr named
  cases requests with
  | payload lexeme asks =>
      have found : loadlineName lexeme (some name) rest = .ok (name, rest) := by
        simp only [loadlineName, inhabited, Bool.false_eq_true, if_false]
      rw [List.singleton_append, read]
      simp only [Modifier.interpret_loadline asks, found]
      rfl
  | word lexeme asks =>
      have found : loadlineName lexeme none (.pattern name :: rest) = .ok (name, rest) := by
        simp only [loadlineName, inhabited, Bool.false_eq_true, if_false]
      rw [List.cons_append, List.singleton_append, read]
      simp only [Modifier.interpret_loadline asks, found]
      rfl

/-- In whatever state a parse comes to a loadline, the rest of the parse ends as it would with the tokens of
the line in place of the request, unless it runs out of splices; a source that fails and a line that
is no tokens end it with just that. -/
theorem loadline_inlined (used : Nat) (left : used < maxSplices) (name : String)
    (request rest : List Token) (named : name ≠ "") (requests : RequestsLoadline name request) :
    (∀ line tokens, source name = .ok line → tokenizeFragment line = .ok tokens →
      read source now (maxSplices - used) opened options (request ++ rest) = .error .loadlineDepth ∨
      read source now (maxSplices - used) opened options (request ++ rest) =
        read source now (maxSplices - used) opened options (tokens ++ rest)) ∧
    (∀ message, source name = .error message →
      read source now (maxSplices - used) opened options (request ++ rest) =
        .error (.loadline name message)) ∧
    (∀ line error, source name = .ok line → tokenizeFragment line = .error error →
      read source now (maxSplices - used) opened options (request ++ rest) = .error (.lex error)) := by
  obtain ⟨splices, remaining⟩ := Nat.exists_eq_add_of_lt left
  have budget : maxSplices - used = splices + 1 := by omega
  rw [budget, read_request source now opened options splices name request rest named requests]
  refine ⟨?_, ?_, ?_⟩
  · intro line tokens found spelled
    have fetched : loadlineTokens source name = .ok tokens := by
      rw [loadlineTokens, found]
      simp only [spelled]
      rfl
    rw [fetched]
    exact read_more_splices source now opened options (tokens ++ rest) splices _ (Nat.le_succ _)
  · intro message failed
    simp only [loadlineTokens, failed]
    rfl
  · intro line error found refused
    simp only [loadlineTokens, found, refused]
    rfl

end

def swap : LoadlineSource := fun _ => .ok "-tA \x7d OR \x7b -tD"

theorem loadline_inlined_swap :
    "swap" ≠ "" ∧ RequestsLoadline "swap" [.modifier "--LoadLine" (some "swap")] ∧ 3 < maxSplices ∧
      read swap ⟨0, 0⟩ 61 (.braces Chain.empty [] (.whole Chain.empty []))
          (.initial (.ofString "/")) ([.modifier "--LoadLine" (some "swap")] ++
            [.keyword .closeBrace "\x7d", .finish]) =
        read swap ⟨0, 0⟩ 61 (.braces Chain.empty [] (.whole Chain.empty []))
          (.initial (.ofString "/")) ([.modifier "-tA" none, .keyword .closeBrace "\x7d",
            .keyword .or "OR", .keyword .openBrace "\x7b", .modifier "-tD" none] ++
            [.keyword .closeBrace "\x7d", .finish]) := by
  have requests : RequestsLoadline "swap" [.modifier "--LoadLine" (some "swap")] :=
    .payload "--LoadLine" rfl
  refine ⟨by decide, requests, by decide, ?_⟩
  have inlined := (loadline_inlined swap ⟨0, 0⟩ (.braces Chain.empty [] (.whole Chain.empty []))
    (.initial (.ofString "/")) 3 (by decide) "swap" _ [.keyword .closeBrace "\x7d", .finish]
    (by decide) requests).1 _ _ rfl rfl
  refine inlined.resolve_left ?_
  change read swap ⟨0, 0⟩ (60 + 1) _ _ _ ≠ _
  rw [read_request _ _ _ _ _ _ _ _ (by decide) requests]
  change read swap ⟨0, 0⟩ 60 _ _ [.modifier "-tA" none, .keyword .closeBrace "\x7d",
    .keyword .or "OR", .keyword .openBrace "\x7b", .modifier "-tD" none, .keyword .closeBrace "\x7d",
    .finish] ≠ _
  have archive : Modifier.interpret "-tA" none ⟨0, 0⟩ (.initial (.ofString "/")) =
      .ok (.criteria [.leaf (.type .archive)]) := rfl
  have directory : Modifier.interpret "-tD" none ⟨0, 0⟩ (.initial (.ofString "/")) =
      .ok (.criteria [.leaf (.type .directory)]) := rfl
  simp only [read, archive, directory]
  intro refused
  cases refused

end Parser
end FileSieve
