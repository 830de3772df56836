set_option autoImplicit false

/-!
# Ranges of code points

Character properties are given as lists of inclusive ranges, and case mappings as runs with a step.

## Main definitions

* `Text.CodeRange` — an inclusive range of code points.
* `Text.inRanges` — membership of a character in a list of ranges.
* `Text.CaseRun` — a run of characters mapped to equally spaced images.
* `Text.CaseRun.apply?` — the image of a character under a run.
-/

namespace ModelSchema.Text

/-- An inclusive range of code points. -/
abbrev CodeRange := Nat × Nat

/-- Membership of `c` in one of `ranges`. -/
def inRanges (ranges : List CodeRange) (c : Char) : Bool :=
  ranges.any fun r => r.1 ≤ c.toNat && c.toNat ≤ r.2

/-- A run `(first, last, step, image)`: the characters `first`, `first + step`, …, `last` go to
`image`, `image + step`, …. -/
abbrev CaseRun := Nat × Nat × Nat × Nat

/-- The image of `c` under a run, if the run covers `c`. -/
def CaseRun.apply? (run : CaseRun) (c : Char) : Option Char :=
  let (first, last, step, image) := run
  let n := c.toNat
  if first ≤ n ∧ n ≤ last ∧ (n - first) % step = 0 then some (Char.ofNat (image + (n - first)))
  else none

end ModelSchema.Text
