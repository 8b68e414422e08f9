import RoadTraffic.Fault
import RoadTraffic.Random.Source

/-!
# Uniform draws

A natural number below `range` is the high half of the product of a random word and `range`. The
low half decides whether the word counts: words are rejected until the remaining ones fall on every
number equally often. Draws of scalars put the top 52 or 53 bits of a word behind the binary point.
-/

namespace RoadTraffic

namespace RandomSource

variable {ρ : Type} [RandomSource ρ]

/-- The high half of `word * range`, if the low half is at most `zone`. -/
def highHalf (bits range zone word : Nat) : Option Nat :=
  let product := word * range
  if product % Nat.pow 2 bits ≤ zone then some (product / Nat.pow 2 bits) else none

/-- A draw below `range` by 64-bit words whose low half is at most `zone`. -/
def scaledLong (range zone : Nat) (r : ρ) : Nat × ρ :=
  retry 0 (fun r => let (w, r) := longWord r; (highHalf 64 range zone w.toNat, r)) attemptLimit r

/-- The largest zone on which every number below `range` is met equally often. -/
def fairZone (bits range : Nat) : Nat := Nat.pow 2 bits - 1 - (Nat.pow 2 bits - range) % range

/-- A number below a positive count of at most 64 bits, for repeated draws of one distribution. -/
def below (count : Nat) (r : ρ) : Nat × ρ := scaledLong count (fairZone 64 count) r

/-- A number of the closed range `[low, high]` of 64-bit numbers, for a single draw. The zone is a
power of two times the size of the range, which is fair as well and needs no division. -/
def between (low high : Nat) (r : ρ) : Nat × ρ :=
  let range := high - low + 1
  if range = Nat.pow 2 64 then
    let (w, r) := longWord r
    (w.toNat, r)
  else
    let (n, r) := scaledLong range (range * Nat.pow 2 (63 - range.log2) - 1) r
    (low + n, r)

/-- A number below a positive count of at most 8 bits, drawn by 32-bit words. -/
def belowSmall (count : Nat) (r : ρ) : Nat × ρ :=
  retry 0 (fun r => let (w, r) := word r; (highHalf 32 count (fairZone 32 count) w.toNat, r))
    attemptLimit r

/-- The running totals of a list of weights after weights that add up to `total`. -/
def runningTotals (total : Nat) : List Nat → List Nat
  | [] => []
  | w :: ws => (total + w) :: runningTotals (total + w) ws

/-- An index into a list of weights, each index as often as its weight says. -/
def weighted (weights : List Nat) (r : ρ) : Nat × ρ :=
  let (chosen, r) := below (weights.foldr (· + ·) 0) r
  (((runningTotals 0 weights).dropLast.filter (· ≤ chosen)).length, r)

variable {α : Type} [Scalar α]

/-- A number of `[0, 1)` with 53 random bits. -/
def unit (r : ρ) : α × ρ :=
  let (w, r) := longWord r
  (Scalar.ofNat (w >>> 11).toNat / Scalar.ofNat (Nat.pow 2 53), r)

/-- A number of `[0, 1)` with 52 random bits. -/
def fraction (r : ρ) : α × ρ :=
  let (w, r) := longWord r
  (Scalar.ofNat (w >>> 12).toNat / Scalar.ofNat (Nat.pow 2 52), r)

/-- Whether an event of probability `p` happens. A certain event draws nothing. -/
def happens (p : α) (r : ρ) : Bool × ρ :=
  if 1 ≤ p then (true, r)
  else
    let (w, r) := longWord r
    (decide (w.toNat < Scalar.toNat (Nat.pow 2 64 - 1) (p * Scalar.ofNat (Nat.pow 2 64))), r)

/-- The largest value of `fraction`. -/
def largestFraction : α := 1 - 1 / Scalar.ofNat (Nat.pow 2 52)

/-- Lowers a scale until the largest fraction no longer reaches beyond `high`. -/
def fitScale (low high : α) : Nat → α → α
  | 0, scale => scale
  | n + 1, scale =>
    if high < scale * largestFraction + low then fitScale low high n (Scalar.nextBelow scale)
    else scale

/-- A number of the closed range `[low, high]`, for `low < high`. -/
def betweenScalars (low high : α) (r : ρ) : Except Fault (α × ρ) :=
  let scale := (high - low) / largestFraction
  if Scalar.isFinite scale then
    let scale := fitScale low high attemptLimit scale
    let (f, r) := fraction r
    .ok (f * scale + low, r)
  else .error .unboundedRange

end RandomSource

end RoadTraffic
