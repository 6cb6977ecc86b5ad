import FileSieve.Query.Modifier

namespace FileSieve

theorem ok_of_bind {ε α β : Type} (first : Except ε α) (next : α → Except ε β) (result : β)
    (ran : first >>= next = .ok result) : ∃ value, first = .ok value ∧ next value = .ok result := by
  cases first with
  | error e => cases ran
  | ok value => exact ⟨value, rfl, ran⟩

theorem ok_of_map {ε α β : Type} (first : Except ε α) (change : α → β) (result : β)
    (ran : first.map change = .ok result) : ∃ value, first = .ok value ∧ change value = result := by
  cases first with
  | error e => cases ran
  | ok value => exact ⟨value, rfl, Except.ok.inj ran⟩

namespace Modifier

inductive Adds : Leaf → Prop
  | type (test : AttributeTest) : Adds (.type test)
  | size (comparison : SizeComparison) (bytes : Nat) : Adds (.size comparison bytes)
  | date (field : DateField) (comparison : DateComparison) (reference : Instant) :
      Adds (.date field comparison reference)
  | regex (expression : PathRegex) : Adds (.regex expression)
  | skip (rule : SkipDirectory) : Adds (.skip rule)
  | content (needle : Bytes) (isHex : Bool) (inhabited : needle ≠ []) : Adds (.content needle isHex)
  | digest (algorithm : Algorithm) (digests : List Bytes) (inhabited : digests ≠ [])
      (whole : ∀ digest ∈ digests, digest.length = algorithm.digestLength) : Adds (.digest algorithm digests)

def AddsOnly : Effect → Prop
  | .criteria items => ∀ item ∈ items, ∃ test, item = .leaf test ∧ Adds test
  | _ => True

theorem leaf_adds (test : Leaf) (adds : Adds test) : AddsOnly (leaf test) := by
  intro item member
  exact ⟨test, List.mem_singleton.mp member, adds⟩

theorem typeTests_adds (letters : List Char) (items : List Criterion)
    (read : typeTests letters = .ok items) : AddsOnly (.criteria items) := by
  induction letters generalizing items with
  | nil =>
      cases read
      exact fun _ member => nomatch member
  | cons letter rest ih =>
      rw [typeTests] at read
      split at read
      · cases read
      · rename_i test _
        obtain ⟨others, tail, rfl⟩ := ok_of_map _ _ _ read
        intro item member
        rcases List.mem_cons.mp member with rfl | member
        · exact ⟨.type test, rfl, .type test⟩
        · exact ih others tail item member

theorem dateTest_adds (field : DateField) (text : List Char) (now : Instant) (effect : Effect)
    (read : (dateTest field text now).map leaf = .ok effect) : AddsOnly effect := by
  obtain ⟨test, dates, rfl⟩ := ok_of_map _ _ _ read
  apply leaf_adds
  unfold dateTest at dates
  dsimp only at dates
  split at dates
  · split at dates <;> cases dates
    exact .date field _ _
  · split at dates <;> cases dates
    exact .date field _ _
  · cases dates

theorem leaf_of_map_adds {α : Type} (first : Except ParseError α) (test : α → Leaf) (effect : Effect)
    (adds : ∀ value, first = .ok value → Adds (test value))
    (read : first.map (fun value => leaf (test value)) = .ok effect) : AddsOnly effect := by
  obtain ⟨value, found, rfl⟩ := ok_of_map _ _ _ read
  exact leaf_adds _ (adds value found)

theorem options_of_map_adds {α : Type} (first : Except ParseError α) (set : α → ScanOptions)
    (effect : Effect) (read : first.map (fun value => .options (set value)) = .ok effect) :
    AddsOnly effect := by
  obtain ⟨value, _, rfl⟩ := ok_of_map _ _ _ read
  trivial

theorem short_adds (lexeme : String) (payload : Option String) (now : Instant) (options : ScanOptions)
    (effect : Effect) (read : short lexeme payload now options = .ok effect) : AddsOnly effect := by
  unfold short at read
  split at read
  · cases read
  · extract_lets argument at read
    clear_value argument
    split at read
    · split at read
      · cases read
      · obtain ⟨items, tests, rfl⟩ := ok_of_map _ _ _ read
        exact typeTests_adds _ items tests
    · split at read
      · cases read
        exact leaf_adds _ (.size _ _)
      · cases read
    · exact dateTest_adds _ _ now effect read
    · exact dateTest_adds _ _ now effect read
    · exact dateTest_adds _ _ now effect read
    · exact dateTest_adds _ _ now effect read
    · split at read
      · cases read
        trivial
      · cases read
    · cases read

theorem needle_ne_nil (text : List Char) (needle : Bytes) (error : ParseError)
    (read : orElse error (hexNeedle? text) = .ok needle) : needle ≠ [] := by
  cases decoded : hexNeedle? text with
  | none =>
      rw [decoded] at read
      cases read
  | some found =>
      rw [decoded] at read
      cases read
      exact of_decide_eq_true (Option.filter_eq_some_iff.mp decoded).2

theorem digestItem_length (algorithm : Algorithm) (item : List Char) (digest : Bytes)
    (read : digestItem algorithm item = .ok digest) : digest.length = algorithm.digestLength := by
  unfold digestItem at read
  split at read
  · rename_i found decoded
    cases read
    exact of_decide_eq_true (Option.filter_eq_some_iff.mp decoded).2
  · cases read

theorem digestItems_length (algorithm : Algorithm) (items : List (List Char)) (digests : List Bytes)
    (read : items.mapM (digestItem algorithm) = .ok digests) :
    digests.length = items.length ∧ ∀ digest ∈ digests, digest.length = algorithm.digestLength := by
  induction items generalizing digests with
  | nil =>
      cases read
      exact ⟨rfl, nofun⟩
  | cons item rest ih =>
      rw [List.mapM_cons] at read
      obtain ⟨digest, first, read⟩ := ok_of_bind _ _ _ read
      obtain ⟨others, behind, read⟩ := ok_of_bind _ _ _ read
      cases read
      obtain ⟨count, whole⟩ := ih others behind
      exact ⟨congrArg (· + 1) count,
        List.forall_mem_cons.mpr ⟨digestItem_length algorithm item digest first, whole⟩⟩

theorem digestList_adds (algorithm : Algorithm) (text : List Char) (digests : List Bytes)
    (read : digestList algorithm text = .ok digests) : Adds (.digest algorithm digests) := by
  unfold digestList at read
  split at read
  · cases read
  · rename_i inhabited
    obtain ⟨count, whole⟩ := digestItems_length algorithm _ digests read
    refine .digest algorithm digests ?_ whole
    rintro rfl
    exact inhabited (List.length_eq_zero_iff.mp count.symm)

theorem withPayload_adds (lexeme name : String) (text : List Char) (inhabited : text ≠ [])
    (options : ScanOptions) (effect : Effect)
    (read : withPayload lexeme name text options = .ok effect) : AddsOnly effect := by
  unfold withPayload at read
  dsimp only at read
  split at read
  · cases read
    refine leaf_adds _ (.content _ _ ?_)
    obtain ⟨c, rest, rfl⟩ := List.exists_cons_of_ne_nil inhabited
    exact List.append_ne_nil_of_left_ne_nil String.utf8EncodeChar_ne_nil _
  · refine leaf_of_map_adds _ (fun needle => .content needle true) effect ?_ read
    intro needle found
    exact .content needle true (needle_ne_nil text needle _ found)
  · exact leaf_of_map_adds _ (fun regex => .regex ⟨_, regex⟩) effect (fun _ _ => .regex _) read
  · cases read
    exact leaf_adds _ (.skip _)
  · cases read
    trivial
  · exact options_of_map_adds _ _ effect read
  · exact options_of_map_adds _ _ effect read
  · exact options_of_map_adds _ _ effect read
  · cases read
    trivial
  · exact options_of_map_adds _ _ effect read
  · split at read
    · exact leaf_of_map_adds _ (fun digests => .digest _ digests) effect (digestList_adds _ text) read
    · cases read

theorem long_adds (lexeme name : String) (payload : Option String) (options : ScanOptions)
    (effect : Effect) (read : long lexeme name payload options = .ok effect) : AddsOnly effect := by
  unfold long at read
  split at read
  · cases read
    trivial
  · cases read
    trivial
  · cases read
    trivial
  · cases read
    trivial
  · cases read
    trivial
  · split at read
    · split at read
      · cases read
      · rename_i inhabited
        exact withPayload_adds _ _ _ inhabited _ effect read
    · cases read

theorem interpret_adds (lexeme : String) (payload : Option String) (now : Instant)
    (options : ScanOptions) (effect : Effect)
    (read : interpret lexeme payload now options = .ok effect) : AddsOnly effect := by
  unfold interpret at read
  split at read
  · exact long_adds _ _ _ _ effect read
  · exact short_adds _ _ _ _ effect read

def Plain : Effect → Prop
  | .criteria items =>
    ∀ item ∈ items, ∃ test, item = .leaf test ∧ ∀ pattern, test ≠ .wildcard pattern
  | _ => True

theorem interpret_plain (lexeme : String) (payload : Option String) (now : Instant)
    (options : ScanOptions) (effect : Effect)
    (read : interpret lexeme payload now options = .ok effect) : Plain effect := by
  have adds := interpret_adds lexeme payload now options effect read
  cases effect with
  | criteria items =>
      intro item member
      obtain ⟨test, same, added⟩ := adds item member
      refine ⟨test, same, ?_⟩
      rintro pattern rfl
      cases added
  | options | loadline => trivial

end Modifier

end FileSieve
