import RoadTraffic.Scalar

/-!
# Sources of randomness

All random decisions draw from a value of a type with `[RandomSource ρ]` and hand the rest of the
source on, so that a run is a function of its seeds. Which stream a seed gives is left to the
instance; a statement for all sources is a statement for all streams.
-/

namespace RoadTraffic

/-- A stream of 32-bit words, and the stream that belongs to a seed. -/
class RandomSource (ρ : Type) where
  seeded : UInt64 → ρ
  word : ρ → UInt32 × ρ

namespace RandomSource

variable {ρ : Type} [RandomSource ρ]

/-- The next 64 bits: two words, the low half first. -/
def longWord (r : ρ) : UInt64 × ρ :=
  let (low, r) := word r
  let (high, r) := word r
  ((high.toUInt64 <<< 32) ||| low.toUInt64, r)

/-- How often a draw by rejection is repeated. Each attempt succeeds with probability at least
one half on random words, so that the limit is never met there. -/
def attemptLimit : Nat := 1024

/-- Repeats an attempt until it gives a value, and gives up with `fallback`. -/
def retry {β : Type} (fallback : β) (attempt : ρ → Option β × ρ) : Nat → ρ → β × ρ
  | 0, r => (fallback, r)
  | n + 1, r =>
    match attempt r with
    | (some b, r) => (b, r)
    | (none, r) => retry fallback attempt n r

end RandomSource

end RoadTraffic
