import Mathlib.Data.List.Forall2
import FileSieve.Criteria.Describe
import FileSieve.Proofs.Criteria.Parts
import FileSieve.Proofs.Text.Lines

/-! What an outline tells. It is read from the front, node by node: the first line of a node says of which kind it is,
and how far the next line is indented says whether the node goes on. So two criteria have the same outline exactly if
they have the same shape and the same lines for their leaves. -/

namespace FileSieve

namespace Leaf

def text : Leaf → List Char
  | wildcard pattern => pattern.text.toList
  | regex expression => expression.text.toList
  | skip rule => rule.text.toList
  | _ => []

theorem lineFeed_mem_describe_iff (test : Leaf) : '\n' ∈ test.describe ↔ '\n' ∈ test.text := by
  cases test with
  | type test => cases test <;> decide
  | size comparison bytes =>
      cases comparison <;> simp [describe, parenthesized, text, lineFeed_toDigits, SizeComparison.label]
  | date field comparison reference =>
      cases field <;> cases comparison <;>
        simp [describe, parenthesized, text, lineFeed_text, DateField.label, DateComparison.label]
  | wildcard pattern | regex expression | skip rule => simp [describe, parenthesized, text]
  | content needle isHex =>
      cases isHex <;> simp [describe, parenthesized, text, lineFeed_encode, lineFeed_quote]
  | digest algorithm digests =>
      have listed : '\n' ∉ [','].intercalate (digests.map Hex.encode) := lineFeed_intercalate (by simp [lineFeed_encode])
      cases algorithm <;> simp [describe, text, listed, Algorithm.name]

end Leaf

namespace Criterion

/-- Criteria of one shape whose leaves have the same lines: at each node the kind, the number and the order of the
parts and whether there is an alternative are the same. -/
inductive ReadsAs : Criterion → Criterion → Prop
  | leaf {test other : Leaf} (same : test.describe = other.describe) : ReadsAs (.leaf test) (.leaf other)
  | all {items others : List Criterion} (below : List.Forall₂ ReadsAs items others) :
      ReadsAs (.all items) (.all others)
  | any {items others : List Criterion} (below : List.Forall₂ ReadsAs items others) :
      ReadsAs (.any items) (.any others)
  | bracket {items others : List Criterion} (below : List.Forall₂ ReadsAs items others) :
      ReadsAs (.bracket items) (.bracket others)
  | xor {left right first second : Criterion} (onLeft : ReadsAs left first) (onRight : ReadsAs right second) :
      ReadsAs (.xor left right) (.xor first second)
  | not {inner other : Criterion} (below : ReadsAs inner other) : ReadsAs (.not inner) (.not other)
  | ifThen {condition consequence test taken : Criterion} (onCondition : ReadsAs condition test)
      (onConsequence : ReadsAs consequence taken) : ReadsAs (.ifThen condition consequence) (.ifThen test taken)
  | ifThenElse {condition consequence alternative test taken otherwise : Criterion}
      (onCondition : ReadsAs condition test) (onConsequence : ReadsAs consequence taken)
      (onAlternative : ReadsAs alternative otherwise) :
      ReadsAs (.ifThenElse condition consequence alternative) (.ifThenElse test taken otherwise)

inductive Kind where
  | leaf
  | all
  | any
  | bracket
  | xor
  | not
  | condition
  deriving DecidableEq

def Kind.word : Kind → List Char
  | leaf => []
  | all => "AND".toList
  | any => "OR".toList
  | bracket => "BRACKET".toList
  | xor => "XOR".toList
  | not => "NOT".toList
  | condition => "IF".toList

theorem Kind.word_injective {first second : Kind} (same : first.word = second.word) : first = second := by
  cases first <;> cases second <;> first | rfl | exact absurd same (by decide)

theorem Kind.lineFeed_word (kind : Kind) : '\n' ∉ kind.word := by
  cases kind <;> decide

def kind : Criterion → Kind
  | leaf _ => .leaf
  | all _ => .all
  | any _ => .any
  | bracket _ => .bracket
  | xor _ _ => .xor
  | not _ => .not
  | ifThen _ _ | ifThenElse _ _ _ => .condition

def isWord (line : List Char) : Bool :=
  ["AND".toList, "OR".toList, "BRACKET".toList, "XOR".toList, "NOT".toList, "IF".toList, "THEN".toList,
    "ELSE".toList].contains line

theorem isWord_describe (test : Leaf) : isWord test.describe = false := by
  have marked {line : List Char} (mark : Char) (member : mark ∈ line) (other : mark = '(' ∨ mark = '[') :
      isWord line = false := by
    apply Bool.eq_false_iff.mpr
    intro word
    have plain : ∀ word ∈ ["AND".toList, "OR".toList, "BRACKET".toList, "XOR".toList, "NOT".toList, "IF".toList,
        "THEN".toList, "ELSE".toList], '(' ∉ word ∧ '[' ∉ word := by decide
    obtain ⟨round, square⟩ := plain line (List.contains_iff_mem.mp word)
    rcases other with rfl | rfl
    · exact round member
    · exact square member
  have parenthesized (label : String) (inner : List Char) : isWord (Leaf.parenthesized label inner) = false :=
    marked '(' (by simp [Leaf.parenthesized]) (.inl rfl)
  cases test with
  | type test => cases test <;> decide
  | size | date | wildcard | regex | skip => exact parenthesized _ _
  | content needle isHex => cases isHex <;> exact parenthesized _ _
  | digest algorithm digests => exact marked '[' (by simp [Leaf.describe]) (.inr rfl)

theorem head?_describe (test : Leaf) : test.describe.head? ≠ some ' ' := by
  cases test with
  | type test => cases test <;> decide
  | size comparison bytes => cases comparison <;> exact nofun
  | date field comparison reference => cases field <;> cases comparison <;> exact nofun
  | wildcard | regex | skip => exact nofun
  | content needle isHex => cases isHex <;> exact nofun
  | digest algorithm digests => cases algorithm <;> exact nofun

def heading : Criterion → List Char
  | leaf test => test.describe
  | node => node.kind.word

theorem heading_eq_word {criterion : Criterion} (inner : criterion.kind ≠ .leaf) :
    criterion.heading = criterion.kind.word := by
  cases criterion with
  | leaf => exact absurd rfl inner
  | all | any | bracket | xor | not | ifThen | ifThenElse => rfl

theorem isWord_heading (criterion : Criterion) : isWord criterion.heading = (criterion.kind != .leaf) := by
  cases criterion with
  | leaf test => exact isWord_describe test
  | all | any | bracket | xor | not | ifThen | ifThenElse => rfl

theorem heading_flush (criterion : Criterion) : criterion.heading.head? ≠ some ' ' := by
  cases criterion with
  | leaf test => exact head?_describe test
  | all | any | bracket | xor | not | ifThen | ifThenElse => exact nofun

theorem heading_ne_else (criterion : Criterion) : criterion.heading ≠ "ELSE".toList := by
  by_cases inner : criterion.kind = .leaf
  · intro same
    have word := criterion.isWord_heading
    rw [same, inner] at word
    exact absurd word (by decide)
  · rw [heading_eq_word inner]
    cases criterion.kind <;> decide

theorem kind_eq_of_heading {first second : Criterion} (same : first.heading = second.heading) :
    first.kind = second.kind := by
  have words : (first.kind != .leaf) = (second.kind != .leaf) := by
    rw [← isWord_heading, ← isWord_heading, same]
  by_cases inner : first.kind = .leaf
  · rw [inner] at words
    rw [inner, bne_eq_false_iff_eq.mp words.symm]
  · rw [bne_iff_ne.mpr inner] at words
    rw [heading_eq_word inner, heading_eq_word (bne_iff_ne.mp words.symm)] at same
    exact Kind.word_injective same

def outlineBelow (depth : Nat) : Criterion → List (List Char)
  | leaf _ => []
  | all items | any items | bracket items => outlineAll (depth + 1) items
  | xor left right => outline (depth + 1) left ++ outline (depth + 1) right
  | not inner => outline (depth + 1) inner
  | ifThen condition consequence =>
    outline (depth + 1) condition ++ indented depth "THEN".toList :: outline (depth + 1) consequence
  | ifThenElse condition consequence alternative =>
    outline (depth + 1) condition ++ indented depth "THEN".toList :: outline (depth + 1) consequence ++
      indented depth "ELSE".toList :: outline (depth + 1) alternative

theorem outline_eq (depth : Nat) (criterion : Criterion) :
    criterion.outline depth = indented depth criterion.heading :: criterion.outlineBelow depth := by
  cases criterion <;> rfl

def margin (line : List Char) : Nat := (line.takeWhile (· == ' ')).length

theorem margin_indented (depth : Nat) {label : List Char} (flush : label.head? ≠ some ' ') :
    margin (indented depth label) = 2 * depth := by
  have blank : ∀ c ∈ List.replicate (2 * depth) ' ', (c == ' ') = true := by
    intro c member
    rw [List.eq_of_mem_replicate member]
    rfl
  have none : label.takeWhile (· == ' ') = [] := by
    cases label with
    | nil => rfl
    | cons first rest => exact List.takeWhile_cons_of_neg fun same => flush (congrArg some (eq_of_beq same))
  rw [margin, indented, List.takeWhile_append_of_pos blank, none, List.append_nil, List.length_replicate]

/-- What can come behind an outline: a line that is indented no further, and no alternative at its own depth. -/
def Closes (depth : Nat) (rest : List (List Char)) : Prop :=
  ∀ line ∈ rest.head?, margin line ≤ 2 * depth ∧ line ≠ indented depth "ELSE".toList

theorem closes_nil (depth : Nat) : Closes depth [] := nofun

theorem closes_of_margin {depth : Nat} {rest : List (List Char)}
    (outside : ∀ line ∈ rest.head?, margin line ≤ 2 * depth) : Closes (depth + 1) rest := by
  intro line first
  have further : margin (indented (depth + 1) "ELSE".toList) = 2 * (depth + 1) := margin_indented _ (by decide)
  have shallow := outside line first
  refine ⟨by omega, ?_⟩
  rintro rfl
  omega

theorem Closes.deeper {depth : Nat} {rest : List (List Char)} (closes : Closes depth rest) :
    Closes (depth + 1) rest :=
  closes_of_margin fun line first => (closes line first).1

theorem closes_word (depth : Nat) {word : List Char} (flush : word.head? ≠ some ' ') (rest : List (List Char)) :
    Closes (depth + 1) (indented depth word :: rest) := by
  apply closes_of_margin
  rintro line ⟨⟩
  exact Nat.le_of_eq (margin_indented depth flush)

theorem closes_outline (depth : Nat) (criterion : Criterion) (rest : List (List Char)) :
    Closes depth (criterion.outline depth ++ rest) := by
  rw [outline_eq, List.cons_append]
  rintro line ⟨⟩
  refine ⟨Nat.le_of_eq (margin_indented depth criterion.heading_flush), ?_⟩
  intro same
  exact criterion.heading_ne_else (List.append_cancel_left same)

theorem closes_outlineAll {depth : Nat} {rest : List (List Char)} (closes : Closes depth rest)
    (items : List Criterion) : Closes depth (outlineAll depth items ++ rest) := by
  cases items with
  | nil => exact closes
  | cons item items =>
      rw [outlineAll, List.append_assoc]
      exact closes_outline depth item _

/-- In front of what can come behind it, an outline ends at one place and tells how its criterion reads. -/
def Readable (first : Criterion) : Prop :=
  ∀ (second : Criterion) (depth : Nat) (rest others : List (List Char)), Closes depth rest → Closes depth others →
    first.outline depth ++ rest = second.outline depth ++ others → first.ReadsAs second ∧ rest = others

theorem readable_all {items : List Criterion} (readable : ∀ item ∈ items, item.Readable) (others : List Criterion)
    {depth : Nat} {rest behind : List (List Char)} (closes : Closes depth rest) (closesToo : Closes depth behind)
    (same : outlineAll (depth + 1) items ++ rest = outlineAll (depth + 1) others ++ behind) :
    List.Forall₂ ReadsAs items others ∧ rest = behind := by
  have ended {shorter longer : List (List Char)} {item : Criterion} (closed : Closes depth shorter)
      (same : shorter = item.outline (depth + 1) ++ longer) : False := by
    rw [same, outline_eq, List.cons_append] at closed
    have shallow := (closed _ rfl).1
    rw [margin_indented _ item.heading_flush] at shallow
    omega
  induction items generalizing others with
  | nil =>
      cases others with
      | nil => exact ⟨.nil, same⟩
      | cons other others =>
          rw [outlineAll, outlineAll, List.append_assoc] at same
          exact (ended closes same).elim
  | cons item items ih =>
      cases others with
      | nil =>
          rw [outlineAll, outlineAll, List.append_assoc] at same
          exact (ended closesToo same.symm).elim
      | cons other others =>
          obtain ⟨head, tail⟩ := List.forall_mem_cons.mp readable
          rw [outlineAll, outlineAll, List.append_assoc, List.append_assoc] at same
          obtain ⟨first, remaining⟩ := head other (depth + 1) _ _ (closes_outlineAll closes.deeper items)
            (closes_outlineAll closesToo.deeper others) same
          obtain ⟨below, behind⟩ := ih tail others remaining
          exact ⟨.cons first below, behind⟩

theorem readable_condition {condition consequence test taken : Criterion} (onCondition : condition.Readable)
    (onConsequence : consequence.Readable) {depth : Nat} {rest behind : List (List Char)}
    (closes : Closes (depth + 1) rest) (closesToo : Closes (depth + 1) behind)
    (same : condition.outline (depth + 1) ++
        indented depth "THEN".toList :: (consequence.outline (depth + 1) ++ rest) =
      test.outline (depth + 1) ++ indented depth "THEN".toList :: (taken.outline (depth + 1) ++ behind)) :
    condition.ReadsAs test ∧ consequence.ReadsAs taken ∧ rest = behind := by
  obtain ⟨first, remaining⟩ := onCondition test (depth + 1) _ _ (closes_word depth (by decide) _)
    (closes_word depth (by decide) _) same
  obtain ⟨second, behind⟩ := onConsequence taken (depth + 1) _ _ closes closesToo (List.cons.inj remaining).2
  exact ⟨first, second, behind⟩

theorem readable (criterion : Criterion) : criterion.Readable := by
  induction criterion using induction_on with
  | step node ih =>
  intro second depth rest others closes closesToo same
  rw [outline_eq, outline_eq, List.cons_append, List.cons_append] at same
  obtain ⟨opening, below⟩ := List.cons.inj same
  have heading : node.heading = second.heading := List.append_cancel_left opening
  have kinds := kind_eq_of_heading heading
  have otherwise (alternative : List (List Char)) :=
    closes_word depth (by decide : "ELSE".toList.head? ≠ some ' ') alternative
  cases node with
  | leaf test =>
      cases second with
      | leaf other => exact ⟨.leaf heading, below⟩
      | _ => cases kinds
  | all items =>
      cases second with
      | all parts =>
          obtain ⟨parts, behind⟩ := readable_all ih parts closes closesToo below
          exact ⟨.all parts, behind⟩
      | _ => cases kinds
  | any items =>
      cases second with
      | any parts =>
          obtain ⟨parts, behind⟩ := readable_all ih parts closes closesToo below
          exact ⟨.any parts, behind⟩
      | _ => cases kinds
  | bracket items =>
      cases second with
      | bracket parts =>
          obtain ⟨parts, behind⟩ := readable_all ih parts closes closesToo below
          exact ⟨.bracket parts, behind⟩
      | _ => cases kinds
  | xor left right =>
      cases second with
      | xor first last =>
          obtain ⟨left, right⟩ : left.Readable ∧ right.Readable := by simpa [children] using ih
          simp only [outlineBelow, List.append_assoc] at below
          obtain ⟨onLeft, remaining⟩ := left first (depth + 1) _ _ (closes_outline _ _ _) (closes_outline _ _ _) below
          obtain ⟨onRight, behind⟩ := right last (depth + 1) _ _ closes.deeper closesToo.deeper remaining
          exact ⟨.xor onLeft onRight, behind⟩
      | _ => cases kinds
  | not inner =>
      cases second with
      | not other =>
          have inner : inner.Readable := ih inner (List.mem_singleton_self _)
          obtain ⟨onInner, behind⟩ := inner other (depth + 1) _ _ closes.deeper closesToo.deeper below
          exact ⟨.not onInner, behind⟩
      | _ => cases kinds
  | ifThen condition consequence =>
      obtain ⟨condition, consequence⟩ : condition.Readable ∧ consequence.Readable := by simpa [children] using ih
      cases second with
      | ifThen test taken =>
          simp only [outlineBelow, List.append_assoc, List.cons_append] at below
          obtain ⟨onCondition, onConsequence, behind⟩ :=
            readable_condition condition consequence closes.deeper closesToo.deeper below
          exact ⟨.ifThen onCondition onConsequence, behind⟩
      | ifThenElse test taken alternative =>
          simp only [outlineBelow, List.append_assoc, List.cons_append] at below
          -- The other outline goes on with ELSE at this depth, where what follows the node must be further out.
          obtain ⟨_, _, rfl⟩ := readable_condition condition consequence closes.deeper (otherwise _) below
          exact absurd rfl (closes _ rfl).2
      | _ => cases kinds
  | ifThenElse condition consequence alternative =>
      obtain ⟨condition, consequence, alternative⟩ :
          condition.Readable ∧ consequence.Readable ∧ alternative.Readable := by simpa [children] using ih
      cases second with
      | ifThen test taken =>
          simp only [outlineBelow, List.append_assoc, List.cons_append] at below
          obtain ⟨_, _, rfl⟩ := readable_condition condition consequence (otherwise _) closesToo.deeper below
          exact absurd rfl (closesToo _ rfl).2
      | ifThenElse test taken other =>
          simp only [outlineBelow, List.append_assoc, List.cons_append] at below
          obtain ⟨onCondition, onConsequence, remaining⟩ :=
            readable_condition condition consequence (otherwise _) (otherwise _) below
          obtain ⟨onAlternative, behind⟩ := alternative other (depth + 1) _ _ closes.deeper closesToo.deeper
            (List.cons.inj remaining).2
          exact ⟨.ifThenElse onCondition onConsequence onAlternative, behind⟩
      | _ => cases kinds

theorem outlineAll_eq_flatMap (depth : Nat) (items : List Criterion) :
    outlineAll depth items = items.flatMap (outline depth) := by
  induction items with
  | nil => rfl
  | cons item rest ih => rw [outlineAll, List.flatMap_cons, ih]

theorem mem_outlineBelow {depth : Nat} {criterion : Criterion} {line : List Char}
    (member : line ∈ criterion.outlineBelow depth) :
    line = indented depth "THEN".toList ∨ line = indented depth "ELSE".toList ∨
      ∃ child ∈ criterion.children, line ∈ child.outline (depth + 1) := by
  cases criterion <;>
    simp only [outlineBelow, outlineAll_eq_flatMap, children, List.mem_flatMap, List.mem_append, List.mem_cons,
      List.not_mem_nil, or_false, exists_eq_or_imp, exists_eq_left] at member ⊢ <;>
    tauto

theorem lineFeed_indented (depth : Nat) {label : List Char} (plain : '\n' ∉ label) : '\n' ∉ indented depth label := by
  rw [indented, List.mem_append, not_or]
  exact ⟨fun member => absurd (List.eq_of_mem_replicate member) (by decide), plain⟩

theorem lineFeed_heading (criterion : Criterion) (plain : ∀ test ∈ criterion.leaves, '\n' ∉ test.text) :
    '\n' ∉ criterion.heading := by
  by_cases inner : criterion.kind = .leaf
  · cases criterion with
    | leaf test =>
        rw [heading, Leaf.lineFeed_mem_describe_iff]
        exact plain test (List.mem_singleton_self test)
    | _ => cases inner
  · rw [heading_eq_word inner]
    exact Kind.lineFeed_word _

theorem lineFeed_outline (criterion : Criterion) (plain : ∀ test ∈ criterion.leaves, '\n' ∉ test.text) (depth : Nat) :
    ∀ line ∈ criterion.outline depth, '\n' ∉ line := by
  induction criterion using induction_on generalizing depth with
  | step node ih =>
  rw [outline_eq]
  intro line member
  rcases List.mem_cons.mp member with rfl | below
  · exact lineFeed_indented depth (node.lineFeed_heading plain)
  · rcases mem_outlineBelow below with rfl | rfl | ⟨child, among, inside⟩
    · exact lineFeed_indented depth (by decide)
    · exact lineFeed_indented depth (by decide)
    · exact ih child among (fun test leaf => plain test (mem_leaves_of_child among leaf)) (depth + 1) line inside

theorem outline_eq_of_readsAs (first second : Criterion) (alike : first.ReadsAs second) (depth : Nat) :
    first.outline depth = second.outline depth := by
  have ofItems {items others : List Criterion} (below : List.Forall₂ ReadsAs items others) (depth : Nat)
      (same : ∀ item ∈ items, ∀ other, item.ReadsAs other → ∀ depth, item.outline depth = other.outline depth) :
      outlineAll depth items = outlineAll depth others := by
    induction below with
    | nil => rfl
    | cons first _ ih =>
        obtain ⟨head, tail⟩ := List.forall_mem_cons.mp same
        rw [outlineAll, outlineAll, head _ first, ih tail]
  induction first using induction_on generalizing second depth with
  | step node ih =>
  cases alike with
  | leaf same => rw [outline, outline, same]
  | all below | any below | bracket below => rw [outline, outline, ofItems below _ ih]
  | xor onLeft onRight =>
      rw [outline, outline, ih _ (by simp [children]) _ onLeft, ih _ (by simp [children]) _ onRight]
  | not below => rw [outline, outline, ih _ (by simp [children]) _ below]
  | ifThen onCondition onConsequence =>
      rw [outline, outline, ih _ (by simp [children]) _ onCondition, ih _ (by simp [children]) _ onConsequence]
  | ifThenElse onCondition onConsequence onAlternative =>
      rw [outline, outline, ih _ (by simp [children]) _ onCondition, ih _ (by simp [children]) _ onConsequence,
        ih _ (by simp [children]) _ onAlternative]

/-- Where no leaf shows a text with a line feed, criteria have the same outline exactly if they have the same shape and
leaves with the same lines. -/
theorem describe_eq_iff (first second : Criterion)
    (plain : ∀ test ∈ first.leaves ++ second.leaves, '\n' ∉ test.text) :
    first.describe = second.describe ↔ first.ReadsAs second := by
  obtain ⟨ofFirst, ofSecond⟩ := List.forall_mem_append.mp plain
  constructor
  · intro same
    have lines : first.outline 0 = second.outline 0 :=
      closed_injective (lineFeed_outline first ofFirst 0) (lineFeed_outline second ofSecond 0)
        (String.ofList_injective same)
    exact (first.readable second 0 [] [] (closes_nil 0) (closes_nil 0) (congrArg (· ++ []) lines)).1
  · intro alike
    rw [describe, describe, outline_eq_of_readsAs first second alike]

def guardedTexts (base : String) : Criterion :=
  any [ifThen (leaf (.type .hidden)) (all []), leaf (.wildcard (.ofText "docs/*.txt" (.ofString base)))]

theorem describe_eq_iff_guardedTexts :
    (∀ test ∈ (guardedTexts "/a").leaves ++ (guardedTexts "/b").leaves, '\n' ∉ test.text) ∧
      (guardedTexts "/a").describe = (guardedTexts "/b").describe ∧
        (guardedTexts "/a").ReadsAs (guardedTexts "/b") := by
  have plain : ∀ test ∈ (guardedTexts "/a").leaves ++ (guardedTexts "/b").leaves, '\n' ∉ test.text := by
    have written (base : String) : (guardedTexts base).leaves =
        [.type .hidden, .wildcard (.ofText "docs/*.txt" (.ofString base))] := rfl
    have flat : '\n' ∉ "docs/*.txt".toList := by decide
    simp only [written, List.cons_append, List.nil_append, List.forall_mem_cons]
    exact ⟨nofun, flat, nofun, flat, nofun⟩
  have same : (guardedTexts "/a").describe = (guardedTexts "/b").describe := by
    have shown (base : String) : (PathPattern.ofText "docs/*.txt" (.ofString base)).text = "docs/*.txt" := rfl
    simp only [guardedTexts, describe, outline, outlineAll, Leaf.describe, shown]
  exact ⟨plain, same, (describe_eq_iff _ _ plain).mp same⟩

/-- With a line feed in its text, one rule can read like two. -/
example : (all [leaf (.skip ⟨"a)\n  SkipDirectory(b", .name []⟩)]).describe =
    (all [leaf (.skip ⟨"a", .name []⟩), leaf (.skip ⟨"b", .name []⟩)]).describe := rfl

end Criterion

end FileSieve
