set_option autoImplicit false

/-!
# Random words

A stream of random words from a seed: the state grows by a fixed odd number, and each state is mixed
into a word by two rounds of a shift and a product.

## Main definitions

* `Words.mix` — the word of a state.
* `Words.ofSeed` — the first words of the stream of a seed.
-/

namespace ModelSchema.Words

/-- What a state grows by. -/
def increment : UInt64 := 0x9E3779B97F4A7C15

/-- The word of a state. -/
def mix (state : UInt64) : UInt64 :=
  let z := (state ^^^ (state >>> 30)) * 0xBF58476D1CE4E5B9
  let z := (z ^^^ (z >>> 27)) * 0x94D049BB133111EB
  z ^^^ (z >>> 31)

/-- The first `n` words of the stream of a seed. -/
def ofSeed (seed : UInt64) (n : Nat) : List UInt64 :=
  (List.range n).map fun k => mix (seed + increment * UInt64.ofNat (k + 1))

end ModelSchema.Words
