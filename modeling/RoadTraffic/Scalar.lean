/-!
# Scalars

The numbers that distances, speeds and angles are made of. Everything in the traffic core is
written over a type `α` with `[Scalar α]`, never over one number format: the same definitions run
on IEEE doubles (`RoadTraffic.Scalar.Double`) and are read over an ordered field when a statement
is about exact arithmetic.

`Scalar` has data and no laws, because doubles satisfy almost none of the field laws. The order in
which operations are applied is therefore part of every definition that uses them.

Comparison against an unordered value (a NaN) is always false, and `Scalar.max`, `Scalar.min` and
`Scalar.clampTo` say what they do with one.
-/

namespace RoadTraffic

/-- A number format: arithmetic, order, rounding and the few functions that the road needs. -/
class Scalar (α : Type) where
  add : α → α → α
  sub : α → α → α
  mul : α → α → α
  div : α → α → α
  neg : α → α
  lt : α → α → Prop
  le : α → α → Prop
  decLt : ∀ a b, Decidable (lt a b)
  decLe : ∀ a b, Decidable (le a b)
  /-- A total preorder that extends `le`: signed zeros are told apart, and unordered values lie
  beyond all others. -/
  totalLe : α → α → Bool
  /-- The number nearest to a natural number. -/
  ofNat : Nat → α
  /-- A bound that no measured length reaches. -/
  infinity : α
  pi : α
  sqrt : α → α
  sin : α → α
  cos : α → α
  acos : α → α
  atan2 : α → α → α
  exp : α → α
  log : α → α
  floor : α → α
  /-- The nearest integer; a half goes away from zero. -/
  round : α → α
  /-- The remainder of the truncated quotient; it has the sign of the dividend. -/
  rem : α → α → α
  /-- `toNat limit x` cuts the fraction of `x` off and keeps the result within `0` and `limit`. -/
  toNat : Nat → α → Nat
  /-- The largest representable number below a positive one. -/
  nextBelow : α → α
  /-- The nearest number in single precision. -/
  single : α → α

namespace Scalar

variable {α : Type} [Scalar α]

instance (priority := low) : Add α := ⟨Scalar.add⟩
instance (priority := low) : Sub α := ⟨Scalar.sub⟩
instance (priority := low) : Mul α := ⟨Scalar.mul⟩
instance (priority := low) : Div α := ⟨Scalar.div⟩
instance (priority := low) : Neg α := ⟨Scalar.neg⟩
instance (priority := low) : LT α := ⟨Scalar.lt⟩
instance (priority := low) : LE α := ⟨Scalar.le⟩
instance (priority := low) (a b : α) : Decidable (a < b) := Scalar.decLt a b
instance (priority := low) (a b : α) : Decidable (a ≤ b) := Scalar.decLe a b
instance (priority := low) (n : Nat) : OfNat α n := ⟨Scalar.ofNat n⟩
instance (priority := low) : Inhabited α := ⟨Scalar.ofNat 0⟩

/-- Whether a value takes part in the order at all; a NaN does not. -/
def isOrdered (a : α) : Prop := a ≤ a

instance (a : α) : Decidable (isOrdered a) := inferInstanceAs (Decidable (a ≤ a))

/-- Whether a value is neither infinite nor unordered: only then its difference to itself is. -/
def isFinite (a : α) : Prop := isOrdered (a - a)

instance (a : α) : Decidable (isFinite a) := inferInstanceAs (Decidable (isOrdered (a - a)))

/-- The larger of two values; an unordered value gives way to the other one. -/
def max (a b : α) : α :=
  if a < b then b else if isOrdered a then a else b

/-- The smaller of two values; an unordered value gives way to the other one. -/
def min (a b : α) : α :=
  if b < a then b else if isOrdered a then a else b

/-- Lengths and areas up to this one count as none. -/
def tiny : α := 1 / 1000000000

/-- The distance from zero. -/
def abs (a : α) : α :=
  if a < 0 then -a else a

/-- The value of `[lo, hi]` nearest to `a`, for `lo ≤ hi`; an unordered `a` stays as it is. -/
def clampTo (lo hi a : α) : α :=
  if a < lo then lo else if hi < a then hi else a

/-- The product of a value with itself. -/
def square (a : α) : α := a * a

/-- The point at `t` on the way from `a` to `b`. -/
def lerp (a b t : α) : α := a + (b - a) * t

/-- The remainder modulo a positive number, in `[0, m)` up to rounding. -/
def modulo (a m : α) : α :=
  let r := rem a m
  if r < 0 then r + m else r

end Scalar

end RoadTraffic
