import FileSieve.Proofs.Query.Levels
import FileSieve.Proofs.Query.Spelling

/-! The deepest trees. Operators are repeated as often as the parser allows, first XOR, then OR, then AND, so that
each of them takes all that the one before has made; in braces this makes an atom for which the same can be done
once more. The bound on the levels of a parse is what such a command line attains. -/

namespace FileSieve

def archived : Criterion := .leaf (.type .archive)

namespace Operator

def word : Operator → String
  | xor => "XOR"
  | or => "OR"
  | and => "AND"

def further (operator : Operator) : List Token :=
  [.keyword operator.keyword operator.word, .modifier "-tA" none]

def run (operator : Operator) (count : Nat) : List Token := (List.replicate count operator.further).flatten

def alone (operator : Operator) (left : Criterion) (operators : Nat) : Chain :=
  match operator with
  | xor => ⟨none, none, some ⟨left, operators⟩⟩
  | or => ⟨none, some ⟨left, operators⟩, none⟩
  | and => ⟨some ⟨left, operators⟩, none, none⟩

def grow (operator : Operator) (first : Criterion) : Nat → Criterion
  | 0 => first
  | count + 1 => operator.combine archived (operator.grow first count)

theorem grow_descends (operator : Operator) {first : Criterion} {levels : Nat} (way : first.Descends levels)
    (count : Nat) : (operator.grow first count).Descends (levels + count) := by
  induction count with
  | zero => exact way
  | succ count ih =>
      have member : operator.grow first count ∈ (operator.grow first (count + 1)).children := by
        cases operator <;> simp [grow, combine, Criterion.children]
      have level : (operator.grow first (count + 1)).level = 1 := by cases operator <;> rfl
      have deeper := Criterion.Descends.child _ _ _ member ih
      rw [level] at deeper
      exact (Nat.add_comm 1 (levels + count)) ▸ deeper

theorem depth_alone (operator : Operator) (left : Criterion) (operators : Nat) :
    (operator.alone left operators).depth = operators := by
  cases operator <;> simp [alone, Chain.depth, Chain.operators]

theorem push_alone (operator : Operator) (left right : Criterion) (operators : Nat) :
    operator.push (operator.alone left operators) right =
      operator.alone (operator.combine right left) (operators + 1) := by
  cases operator <;> rfl

end Operator

open FileSieve.Opened FileSieve.Parser

section

variable {source : LoadlineSource} {now : Instant} {splices : Nat} {options : ScanOptions}

theorem advances_archived (opened : Opened) :
    Advances source now splices options opened [.modifier "-tA" none] (opened.add [archived]) :=
  advances_modifier opened "-tA" none (List.cons_ne_nil _ _)

theorem settle_add (chain : Chain) (outer : Option Opened) (right : Criterion) :
    ((enclose chain outer).add [right]).settle [] = .ok (chain, right, outer) := by
  cases outer <;> rfl

theorem further_advances (operator : Operator) (opened : Opened) (chain : Chain) (right : Criterion)
    (outer : Option Opened) (settled : opened.settle [] = .ok (chain, right, outer))
    (room : (enclose (operator.push chain right) outer).depth ≤ maxDepth) :
    Advances source now splices options opened operator.further
      ((enclose (operator.push chain right) outer).add [archived]) := by
  have joins : opened.keyword operator.word operator.keyword =
      .ok (enclose (operator.push chain right) outer) := by
    rw [keyword_operator, operator_eq _ settled]
    exact bounded_ok _ room
  exact (advances_keyword joins).append (advances_archived _)

theorem enclose_alone_depth (operator : Operator) (left : Criterion) (operators : Nat) (outer : Option Opened) :
    (enclose (operator.alone left operators) outer).depth = (enclose Chain.empty outer).depth + operators := by
  have alone := operator.depth_alone left operators
  cases outer with
  | none => exact alone.trans (Nat.zero_add _).symm
  | some rest => exact congrArg (rest.depth + 1 + ·) alone

theorem run_advances (operator : Operator) (opened : Opened) (chain : Chain) (right first : Criterion)
    (outer : Option Opened) (settled : opened.settle [] = .ok (chain, right, outer))
    (begins : operator.push chain right = operator.alone first 1) (count : Nat)
    (room : (enclose Chain.empty outer).depth + (count + 1) ≤ maxDepth) :
    Advances source now splices options opened (operator.run (count + 1))
      ((enclose (operator.alone (operator.grow first count) (count + 1)) outer).add [archived]) := by
  induction count with
  | zero =>
      have shallow : (enclose (operator.push chain right) outer).depth ≤ maxDepth := by
        rwa [begins, enclose_alone_depth]
      have joined : Advances source now splices options _ _ _ :=
        further_advances operator opened chain right outer settled shallow
      rwa [begins] at joined
  | succ count ih =>
      have before := ih (Nat.le_of_succ_le room)
      have grown := operator.push_alone (operator.grow first count) archived (count + 1)
      have shallow : (enclose (operator.push (operator.alone (operator.grow first count) (count + 1)) archived)
          outer).depth ≤ maxDepth := by
        rwa [grown, enclose_alone_depth]
      have joined : Advances source now splices options _ _ _ :=
        further_advances operator _ _ archived outer (settle_add _ outer archived) shallow
      rw [grown] at joined
      rw [Operator.run, List.replicate_succ', List.flatten_append, List.flatten_singleton]
      exact before.append joined

end

def layerTokens (count : Nat) : List Token :=
  Operator.xor.run count ++ (Operator.or.run count ++ Operator.and.run count)

def layers (first : Criterion) (count : Nat) : Criterion :=
  Operator.and.grow (Operator.or.grow (Operator.xor.grow first count) count) count

theorem layers_advances (source : LoadlineSource) (now : Instant) (splices : Nat) (options : ScanOptions)
    (opened : Opened) (first : Criterion) (outer : Option Opened)
    (settled : opened.settle [] = .ok (Chain.empty, first, outer)) (count : Nat)
    (room : (enclose Chain.empty outer).depth + (count + 1) ≤ maxDepth) :
    ∃ next chain, Advances source now splices options opened (layerTokens (count + 1)) next ∧
      next.settle [] = .ok (chain, archived, outer) ∧
      chain.close archived = layers first (count + 1) := by
  have xors : Advances source now splices options opened _ _ :=
    run_advances .xor opened Chain.empty first first outer settled rfl count room
  have ors : Advances source now splices options _ _ _ :=
    run_advances .or _ (Operator.xor.alone (Operator.xor.grow first count) (count + 1)) archived
      (Operator.xor.grow first (count + 1)) outer (settle_add _ outer archived) rfl count room
  have ands : Advances source now splices options _ _ _ :=
    run_advances .and _ (Operator.or.alone (Operator.or.grow (Operator.xor.grow first (count + 1)) count)
        (count + 1)) archived (Operator.or.grow (Operator.xor.grow first (count + 1)) (count + 1)) outer
      (settle_add _ outer archived) rfl count room
  exact ⟨_, _, xors.append (ors.append ands), settle_add _ outer archived, rfl⟩

def deepTokens : Nat → List Token
  | 0 => [.modifier "-tA" none]
  | 1 => [.keyword .not "NOT", .modifier "-tA" none]
  | room + 2 =>
    .keyword .openBrace "\x7b" :: (deepTokens (room + 1) ++ (layerTokens (room + 1) ++ [.keyword .closeBrace "\x7d"]))

def deep : Nat → Criterion
  | 0 => archived
  | 1 => .not archived
  | room + 2 => layers (deep (room + 1)) (room + 1)

theorem deep_advances (source : LoadlineSource) (now : Instant) (splices : Nat) (options : ScanOptions)
    (room : Nat) (outer : Option Opened) (shallow : (enclose Chain.empty outer).depth + room ≤ maxDepth) :
    ∃ next, Advances source now splices options (enclose Chain.empty outer) (deepTokens room) next ∧
      next.settle [] = .ok (Chain.empty, deep room, outer) := by
  match room with
  | 0 => exact ⟨_, advances_archived _, settle_add _ outer archived⟩
  | 1 =>
      have opens : (enclose Chain.empty outer).keyword "NOT" .not =
          .ok (negation [] (enclose Chain.empty outer)) := bounded_ok _ shallow
      refine ⟨_, (advances_keyword opens).append (advances_archived _), ?_⟩
      cases outer <;> rfl
  | room + 2 =>
      have around : (enclose Chain.empty (some (enclose Chain.empty outer))).depth =
          (enclose Chain.empty outer).depth + 1 := rfl
      have deeper : (enclose Chain.empty (some (enclose Chain.empty outer))).depth + (room + 1) ≤ maxDepth := by
        omega
      have opens : (enclose Chain.empty outer).keyword "\x7b" .openBrace =
          .ok (enclose Chain.empty (some (enclose Chain.empty outer))) :=
        bounded_ok _ (Nat.le_of_add_right_le deeper)
      obtain ⟨inner, reads, settled⟩ := deep_advances source now splices options (room + 1) _ deeper
      obtain ⟨last, chain, layered, closed, tree⟩ :=
        layers_advances source now splices options inner (deep (room + 1)) _ settled room deeper
      have closes : last.keyword "\x7d" .closeBrace =
          .ok ((enclose Chain.empty outer).add [layers (deep (room + 1)) (room + 1)]) := by
        rw [← tree]
        simp only [keyword, closeBraces, closed]
        rfl
      refine ⟨_, (advances_keyword opens).append (reads.append (layered.append (advances_keyword closes))), ?_⟩
      exact settle_add _ outer _

theorem layers_descends {first : Criterion} {levels : Nat} (way : first.Descends levels) (count : Nat) :
    (layers first count).Descends (levels + 3 * count) := by
  have three := Operator.and.grow_descends
    (Operator.or.grow_descends (Operator.xor.grow_descends way count) count) count
  have sum : levels + count + count + count = levels + 3 * count := by omega
  rwa [sum] at three

theorem deep_descends (room : Nat) : (deep room).Descends (deepestAtom room) := by
  match room with
  | 0 => exact .leaf (.type .archive)
  | 1 => exact .child (.not archived) archived 0 List.mem_cons_self (.leaf (.type .archive))
  | room + 2 =>
      have below := layers_descends (deep_descends (room + 1)) (room + 1)
      have most : deepestAtom (room + 2) = deepestAtom (room + 1) + 3 * (room + 1) :=
        Nat.max_eq_right (by omega)
      rwa [← most] at below

theorem Operator.plain_run (operator : Operator) (count : Nat) :
    ∀ token ∈ operator.run count, token.isPlain = true := by
  have plain : ∀ token ∈ operator.further, token.isPlain = true := by
    refine List.forall_mem_cons.mpr ⟨?_, List.forall_mem_singleton.mpr (by decide)⟩
    cases operator <;> decide
  intro token member
  obtain ⟨piece, among, inside⟩ := List.mem_flatten.mp member
  rw [List.eq_of_mem_replicate among] at inside
  exact plain token inside

theorem plain_layers (count : Nat) : ∀ token ∈ layerTokens count, token.isPlain = true := by
  refine List.forall_mem_append.mpr ⟨Operator.plain_run _ _, ?_⟩
  exact List.forall_mem_append.mpr ⟨Operator.plain_run _ _, Operator.plain_run _ _⟩

theorem plain_deep (room : Nat) : ∀ token ∈ deepTokens room, token.isPlain = true := by
  match room with
  | 0 | 1 => decide
  | room + 2 =>
      refine List.forall_mem_cons.mpr ⟨by decide, ?_⟩
      refine List.forall_mem_append.mpr ⟨plain_deep (room + 1), ?_⟩
      exact List.forall_mem_append.mpr ⟨plain_layers (room + 1), List.forall_mem_singleton.mpr (by decide)⟩

theorem parse_spelled {source : LoadlineSource} {now : Instant} {options : ScanOptions} {tokens : List Token}
    (plain : ∀ token ∈ tokens, token.isPlain = true) {next : Opened} {chain : Chain} {right : Criterion}
    (advances : Advances source now maxSplices options (.whole Chain.empty []) tokens next)
    (settled : next.settle [] = .ok (chain, right, none)) :
    parse source now options (spelled tokens) = .ok (chain.close right, options) := by
  have finished : next.finish = .ok (chain.close right) := by
    rw [Opened.finish, settled]
    rfl
  rw [parse, tokenize_spelled tokens plain]
  show parseTokens source now options (tokens ++ [.finish]) = _
  rw [parseTokens, advances, Parser.read, finished]
  rfl

def deepLine : String := spelled (deepTokens maxDepth ++ layerTokens maxDepth)

theorem parse_deepLine (source : LoadlineSource) (now : Instant) (options : ScanOptions) :
    parse source now options deepLine = .ok (layers (deep maxDepth) maxDepth, options) := by
  have plain : ∀ token ∈ deepTokens maxDepth ++ layerTokens maxDepth, token.isPlain = true :=
    List.forall_mem_append.mpr ⟨plain_deep _, plain_layers _⟩
  obtain ⟨first, reads, settled⟩ :=
    deep_advances source now maxSplices options maxDepth none (Nat.le_refl _)
  obtain ⟨last, chain, layered, closed, tree⟩ :=
    layers_advances source now maxSplices options first (deep maxDepth) none settled 255 (Nat.le_refl _)
  rw [deepLine, parse_spelled plain (reads.append layered) closed, tree]
  rfl

/-- Whatever a command line and its loadlines are, the tree of a parse has no way to a leaf through more than
98689 negations, conditions and operators. -/
theorem parse_levels (source : LoadlineSource) (now : Instant) (initial : ScanOptions)
    (commandLine : String) (criterion : Criterion) (options : ScanOptions)
    (parsed : parse source now initial commandLine = .ok (criterion, options)) (levels : Nat)
    (way : criterion.Descends levels) : levels ≤ 98689 := by
  obtain ⟨tokens, _, ran⟩ := ok_of_bind _ _ _ parsed
  have empty : (Opened.whole Chain.empty []).Fits := ⟨Chain.empty_fits _, List.forall_mem_nil _⟩
  have within := Parser.read_within ⟨empty, Nat.zero_le _⟩ ran
  rw [deepest_levels] at within
  exact within levels way

theorem parse_levels_deepLine :
    ∃ criterion options,
      parse (fun _ => .error "") ⟨0, 0⟩ (.initial (.ofString "/")) deepLine = .ok (criterion, options) ∧
        criterion.Descends 98689 ∧ ∀ levels, criterion.Descends levels → levels ≤ 98689 := by
  have parsed := parse_deepLine (fun _ => .error "") ⟨0, 0⟩ (.initial (.ofString "/"))
  have deepest := layers_descends (deep_descends maxDepth) maxDepth
  rw [deepest_levels] at deepest
  exact ⟨_, _, parsed, deepest, parse_levels _ _ _ _ _ _ parsed⟩

def alternativesLine : String :=
  spelled (.modifier "-tA" none :: (Operator.or.run maxDepth ++ Operator.and.run 1))

theorem parse_alternativesLine (source : LoadlineSource) (now : Instant) (options : ScanOptions) :
    parse source now options alternativesLine =
      .ok (Operator.and.grow (Operator.or.grow archived maxDepth) 1, options) := by
  have plain : ∀ token ∈ Token.modifier "-tA" none :: (Operator.or.run maxDepth ++ Operator.and.run 1),
      token.isPlain = true :=
    List.forall_mem_cons.mpr ⟨by decide,
      List.forall_mem_append.mpr ⟨Operator.plain_run _ _, Operator.plain_run _ _⟩⟩
  have first : Advances source now maxSplices options _ _ _ := advances_archived (.whole Chain.empty [])
  have ors : Advances source now maxSplices options _ _ _ :=
    run_advances .or _ Chain.empty archived archived none (settle_add _ none _) rfl 255 (by decide)
  have ands : Advances source now maxSplices options _ _ _ :=
    run_advances .and _ (Operator.or.alone (Operator.or.grow archived 255) 256) archived
      (Operator.or.grow archived 256) none (settle_add _ none _) rfl 0 (by decide)
  exact parse_spelled plain (first.append (ors.append ands)) (settle_add _ none _)

/-- The bound on what is open at once does not bound the tree. -/
theorem alternatives_too_deep :
    ¬ ∀ (source : LoadlineSource) (now : Instant) (initial : ScanOptions) (commandLine : String)
      (criterion : Criterion) (options : ScanOptions),
      parse source now initial commandLine = .ok (criterion, options) →
      ∀ levels, criterion.Descends levels → levels ≤ maxDepth := by
  intro bounded
  have parsed := parse_alternativesLine (fun _ => .error "") ⟨0, 0⟩ (.initial (.ofString "/"))
  have way : (Operator.and.grow (Operator.or.grow archived maxDepth) 1).Descends (0 + maxDepth + 1) :=
    Operator.and.grow_descends (Operator.or.grow_descends (.leaf (.type .archive)) maxDepth) 1
  have shallow := bounded _ _ _ _ _ _ parsed _ way
  exact absurd shallow (by decide)

end FileSieve
