import ModelSchema.Number.Binary64

set_option autoImplicit false

/-!
# Draws

A draw takes random words from a list and makes a value of them. It fails when the words run out;
and it refuses to draw from an empty range, or with a probability that is none.

A number below `range` is drawn by multiplying a word with `range`: the high half of the product is
the number. To make all numbers equally likely, a product whose low half is too large is rejected
and the next word is taken.

## Main definitions

* `DrawFailure`, `Draw` — draws.
* `Draw.word`, `Draw.below`, `Draw.between`, `Draw.choose`, `Draw.chance`, `Draw.bit`, `Draw.byte` —
  draws of words, numbers, elements, and booleans.
* `Draw.times` — a draw that is repeated.

## Main results

* `Draw.times_zero`, `Draw.times_succ` — a draw that is repeated, one draw at a time.
-/

namespace ModelSchema

/-- Why a draw fails. -/
inductive DrawFailure where
  /-- There are no more words. -/
  | exhausted
  /-- There is nothing to draw from. -/
  | emptyRange
  /-- A probability is not between zero and one. -/
  | illegalProbability
  deriving DecidableEq, Inhabited, Repr

/-- A value made of random words. -/
abbrev Draw := StateT (List UInt64) (Except DrawFailure)

namespace Draw

variable {α : Type}

/-- The next word. -/
def word : Draw UInt64
  | [] => .error .exhausted
  | w :: ws => .ok (w, ws)

/-- The low halves of a product that are accepted for a range: those below the largest multiple of
the range by a power of two that fits into `bits` bits. -/
def zone (bits range : Nat) : Nat :=
  range <<< (bits - 1 - range.log2)

/-- A number below `range`, by the first word whose product with `range` is accepted. Words are cut
to their low `bits` bits. -/
def accept (bits range : Nat) : Draw Nat
  | [] => .error .exhausted
  | w :: ws =>
    let product := w.toNat % (1 <<< bits) * range
    if product % (1 <<< bits) < zone bits range then .ok (product >>> bits, ws)
    else accept bits range ws

/-- A number below `range`, which is at most `2 ^ bits`. -/
def below (bits range : Nat) : Draw Nat :=
  if range = 0 then throw .emptyRange
  else if range = 1 <<< bits then return (← word).toNat % (1 <<< bits)
  else accept bits range

/-- A number from `lo` to `hi`. -/
def between (lo hi : UInt64) : Draw UInt64 :=
  if lo ≤ hi then return UInt64.ofNat (lo.toNat + (← below 64 (hi.toNat - lo.toNat + 1)))
  else throw .emptyRange

/-- The bits of the words by which one of `count` elements is drawn: 32, unless there are more
elements than that many bits can count. -/
def indexBits (count : Nat) : Nat :=
  if count < 1 <<< 32 then 32 else 64

/-- An element of a list. -/
def choose (as : List α) : Draw α := do
  match as[← below (indexBits as.length) as.length]? with
  | some a => return a
  | none => throw .emptyRange

/-- True with probability `p`; with certainty, no word is taken. -/
def chance (p : Binary64) : Draw Bool :=
  if p = .one then return true
  else if p.isUnit then return (← word).toNat < p.threshold
  else throw .illegalProbability

/-- A boolean: the highest of the low 32 bits of a word. -/
def bit : Draw Bool :=
  return (← word).toNat.testBit 31

/-- A byte: the low 8 bits of a word. -/
def byte : Draw Nat :=
  return (← word).toNat % 256

/-- The values of `draw`, repeated `n` times, after the values `drawn`, which are held last one
first. -/
def timesAfter (draw : Draw α) : (n : Nat) → (drawn : List α) → Draw (List α)
  | 0, drawn, ws => .ok (drawn.reverse, ws)
  | n + 1, drawn, ws =>
    match draw ws with
    | .ok (a, ws) => timesAfter draw n (a :: drawn) ws
    | .error e => .error e

/-- The values of `draw`, repeated `n` times. -/
def times (n : Nat) (draw : Draw α) : Draw (List α) :=
  timesAfter draw n []

/-- What has been drawn before comes first, in the order it was drawn in. -/
theorem timesAfter_eq (draw : Draw α) (n : Nat) (drawn : List α) (ws : List UInt64) :
    timesAfter draw n drawn ws = (times n draw ws).map fun r => (drawn.reverse ++ r.1, r.2) := by
  unfold times
  induction n generalizing drawn ws with
  | zero => simp [timesAfter, Except.map]
  | succ n ih =>
    simp only [timesAfter]
    cases draw ws with
    | error e => rfl
    | ok r =>
      simp only [ih (r.1 :: drawn), ih [r.1]]
      cases timesAfter draw n [] r.2 <;> simp [Except.map]

/-- Drawing no times gives nothing. -/
@[simp]
theorem times_zero (draw : Draw α) : times 0 draw = pure [] := rfl

/-- One draw, and then the others. -/
theorem times_succ (draw : Draw α) (n : Nat) :
    times (n + 1) draw = do
      let a ← draw
      let as ← times n draw
      return a :: as := by
  funext ws
  change timesAfter draw (n + 1) [] ws = (draw ws).bind fun r =>
    (times n draw r.2).bind fun s => .ok (r.1 :: s.1, s.2)
  simp only [timesAfter]
  cases draw ws with
  | error e => rfl
  | ok r =>
    simp only [timesAfter_eq draw n [r.1]]
    change _ = (times n draw r.2).bind fun s => .ok (r.1 :: s.1, s.2)
    cases times n draw r.2 <;> rfl

end Draw

end ModelSchema
