import FileSieve.Proofs.Query.Trees

namespace FileSieve

/-- Whether a test looks for something: a text that is not empty, or digests that are as long as those of the
algorithm. A pattern must prune if it can. -/
def Leaf.isWellMade : Leaf → Bool
  | content needle _ => !needle.isEmpty
  | digest algorithm digests =>
    !digests.isEmpty && digests.all fun digest => digest.length == algorithm.digestLength
  | wildcard pattern => pattern.root.isNone || pattern.prunes
  | type _ | size _ _ | date _ _ _ | regex _ | skip _ => true

namespace Criterion

/-- Whether a node has as many operands as it is written with. -/
def isWellMade : Criterion → Bool
  | leaf test => test.isWellMade
  | all items | any items => items.length == 2
  | bracket items => 2 ≤ items.length
  | xor _ _ | not _ | ifThen _ _ | ifThenElse _ _ _ => true

/-- Every node of the tree is well made. -/
def WellFormed (criterion : Criterion) : Prop := ∀ part ∈ criterion.parts, part.isWellMade = true

theorem wellFormed_of_children (criterion : Criterion) (made : criterion.isWellMade = true)
    (below : ∀ child ∈ criterion.children, child.WellFormed) : criterion.WellFormed := by
  intro part inside
  rw [parts_eq] at inside
  rcases List.mem_cons.mp inside with rfl | inside
  · exact made
  · obtain ⟨child, member, among⟩ := List.mem_flatMap.mp inside
    exact below child member part among

theorem group_wellFormed (items : List Criterion) (inhabited : items ≠ [])
    (wellFormed : ∀ item ∈ items, item.WellFormed) : (group items).WellFormed := by
  match items with
  | [] => exact absurd rfl inhabited
  | [item] => exact wellFormed item List.mem_cons_self
  | first :: second :: rest =>
      have several : 2 ≤ (first :: second :: rest).length := Nat.le_add_left 2 rest.length
      exact wellFormed_of_children (bracket (first :: second :: rest)) (decide_eq_true several) wellFormed

end Criterion

theorem PathPattern.ofText_prunes (text : String) (base : Path) :
    ((ofText text base).root.isNone || (ofText text base).prunes) = true := by
  rw [prunes]
  cases (ofText text base).root <;> rfl

theorem Modifier.Adds.isWellMade {test : Leaf} (adds : Adds test) : test.isWellMade = true := by
  cases adds with
  | type | size | date | regex | skip => rfl
  | content needle isHex inhabited => simpa [Leaf.isWellMade] using inhabited
  | digest algorithm digests inhabited whole => simpa [Leaf.isWellMade] using ⟨inhabited, whole⟩

theorem Emitted.isWellMade {test : Leaf} (emitted : Emitted test) : test.isWellMade = true := by
  cases emitted with
  | pattern text base => exact PathPattern.ofText_prunes text base
  | modifier lexeme payload now options items test interpreted member =>
      obtain ⟨other, same, adds⟩ := Modifier.interpret_adds _ _ _ _ _ interpreted _ member
      cases same
      exact adds.isWellMade

theorem Built.wellFormed {criterion : Criterion} (built : Built criterion) : criterion.WellFormed := by
  induction built with
  | leaf test emitted => exact Criterion.wellFormed_of_children _ emitted.isWellMade nofun
  | group items inhabited parts ih => exact Criterion.group_wellFormed items inhabited ih
  | all first second _ _ before after | any first second _ _ before after
  | xor first second _ _ before after =>
      apply Criterion.wellFormed_of_children _ rfl
      exact List.forall_mem_cons.mpr ⟨before, List.forall_mem_singleton.mpr after⟩
  | not inner _ ih =>
      apply Criterion.wellFormed_of_children _ rfl
      exact List.forall_mem_singleton.mpr ih
  | ifThen test whenTrue _ _ condition consequence =>
      apply Criterion.wellFormed_of_children _ rfl
      exact List.forall_mem_cons.mpr ⟨condition, List.forall_mem_singleton.mpr consequence⟩
  | ifThenElse test whenTrue whenFalse _ _ _ condition consequence alternative =>
      apply Criterion.wellFormed_of_children _ rfl
      refine List.forall_mem_cons.mpr ⟨condition, ?_⟩
      exact List.forall_mem_cons.mpr ⟨consequence, List.forall_mem_singleton.mpr alternative⟩

/-- The tree of a command line is well formed, whatever the line is and wherever loadlines come from. -/
theorem parse_wellFormed (source : LoadlineSource) (now : Instant) (initial : ScanOptions)
    (commandLine : String) (criterion : Criterion) (options : ScanOptions)
    (parsed : parse source now initial commandLine = .ok (criterion, options)) : criterion.WellFormed :=
  (parse_built source now initial commandLine criterion options parsed).wellFormed

def images : LoadlineSource := fun _ => .ok "--hex#4d 5A# --md5#,D41D8CD98F00B204E9800998ECF8427E#"

def emptyDigest : Bytes :=
  [0xD4, 0x1D, 0x8C, 0xD9, 0x8F, 0x00, 0xB2, 0x04, 0xE9, 0x80, 0x09, 0x98, 0xEC, 0xF8, 0x42, 0x7E]

theorem parse_images :
    parse images ⟨0, 0⟩ (.initial (.ofString "/")) "--loadline#images# OR /srv/*" =
      .ok (.any [.leaf (.wildcard (.ofText "/srv/*" (.ofString "/"))),
          .bracket [.leaf (.content [0x4D, 0x5A] true), .leaf (.digest .md5 [emptyDigest])]],
        .initial (.ofString "/")) := by
  have tokens : tokenize "--loadline#images# OR /srv/*" =
      .ok [.modifier "--loadline" (some "images"), .keyword .or "OR", .pattern "/srv/*", .finish] := rfl
  have asked (options : ScanOptions) : Modifier.interpret "--loadline" (some "images") ⟨0, 0⟩ options =
      .ok (.loadline (some "images")) := rfl
  have name (rest : List Token) :
      Parser.loadlineName "--loadline" (some "images") rest = .ok ("images", rest) := rfl
  have line : Parser.loadlineTokens images "images" =
      .ok [.modifier "--hex" (some "4d 5A"), .modifier "--md5" (some ",D41D8CD98F00B204E9800998ECF8427E")] := rfl
  have hex (options : ScanOptions) : Modifier.interpret "--hex" (some "4d 5A") ⟨0, 0⟩ options =
      .ok (.criteria [.leaf (.content [0x4D, 0x5A] true)]) := rfl
  have digest (options : ScanOptions) :
      Modifier.interpret "--md5" (some ",D41D8CD98F00B204E9800998ECF8427E") ⟨0, 0⟩ options =
        .ok (.criteria [.leaf (.digest .md5 [emptyDigest])]) := rfl
  rw [parse, tokens]
  show parseTokens _ _ _ [.modifier "--loadline" (some "images"), .keyword .or "OR", .pattern "/srv/*", .finish] = _
  simp only [parseTokens, maxSplices, Parser.read, asked, name, line, hex, digest, List.cons_append, List.nil_append,
    bind, Except.bind]
  rfl

theorem parse_wellFormed_images :
    ∃ criterion options,
      parse images ⟨0, 0⟩ (.initial (.ofString "/")) "--loadline#images# OR /srv/*" = .ok (criterion, options) ∧
        criterion.WellFormed :=
  ⟨_, _, parse_images, parse_wellFormed images _ _ _ _ _ parse_images⟩

end FileSieve
