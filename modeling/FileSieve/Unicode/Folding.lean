import FileSieve.Unicode.Lowercase

namespace FileSieve.Unicode

def specialFolds : List (Nat × Nat) :=
  [(0xB5, 0x3BC), (0x130, 0x130), (0x17F, 0x73), (0x345, 0x3B9), (0x3C2, 0x3C3), (0x3D0, 0x3B2),
   (0x3D1, 0x3B8), (0x3D5, 0x3C6), (0x3D6, 0x3C0), (0x3F0, 0x3BA), (0x3F1, 0x3C1), (0x3F5, 0x3B5),
   (0x1C80, 0x432), (0x1C81, 0x434), (0x1C82, 0x43E), (0x1C83, 0x441), (0x1C84, 0x442),
   (0x1C85, 0x442), (0x1C86, 0x44A), (0x1C87, 0x463), (0x1C88, 0xA64B), (0x1E9B, 0x1E61),
   (0x1FBE, 0x3B9), (0x1FD3, 0x390), (0x1FE3, 0x3B0), (0xFB05, 0xFB06)]

def cherokeeFolds : List CaseRun :=
  [⟨0x13A0, 0x13F5, 1, 0⟩, ⟨0x13F8, 0x13FD, 1, -8⟩, ⟨0xAB70, 0xABBF, 1, -38864⟩]

def foldRuns : List CaseRun :=
  specialFolds.map (fun (code, target) => ⟨code, code, 1, target - code⟩) ++ cherokeeFolds ++
    ⟨0x41, 0x5A, 1, 32⟩ :: lowercaseRuns

def foldCode (code : Nat) : Nat :=
  match foldRuns.find? (·.covers code) with
  | some run => (code + run.shift).toNat
  | none => code

def foldSources (target : Nat) : List Nat :=
  foldRuns.filterMap fun run =>
    let source := ((target : Int) - run.shift).toNat
    if run.covers source then some source else none

def caseVariants (code : Nat) : List Nat :=
  let target := foldCode code
  (target :: foldSources target).filter fun source => foldCode source == target

end FileSieve.Unicode
