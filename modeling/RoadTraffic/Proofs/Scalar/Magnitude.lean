import RoadTraffic.Proofs.Scalar.Rounding

/-!
# How far doubles reach

What sums, products, quotients and roots of doubles make of the magnitude of their operands, up to
a digit or two. Lower bounds say what does not vanish in a calculation, upper bounds say where a
large result comes from.
-/

namespace RoadTraffic.Double

open Float.Model (Format UnpackedFloat totalExponent)
open Float.Model.UnpackedFloat (Sign)

/-- The magnitude is that of `2 ^ (k - 1)` at least. -/
def Reaches (k : Int) : UnpackedFloat → Prop
  | .infinity _ => True
  | .finite _ m e _ => k ≤ totalExponent m e
  | .zero _ => False
  | .notANumber => False

/-- Neither a number with a magnitude nor infinite. -/
def Vanishes : UnpackedFloat → Prop
  | .zero _ | .notANumber => True
  | .infinity _ | .finite .. => False

/-- A number, and its sign is positive. -/
def Upward : UnpackedFloat → Prop
  | .infinity s | .zero s | .finite s .. => s = .positive
  | .notANumber => False

section Magnitudes

variable {x y : Float} {s : Sign} {t k : Int} {u : UnpackedFloat}

theorem Reaches.not_vanishes (h : Reaches k u) : ¬ Vanishes u := by
  cases u with
  | infinity | finite => exact id
  | zero | notANumber => exact h.elim

theorem Reaches.mono {j : Int} (h : Reaches k u) (hj : j ≤ k) : Reaches j u := by
  cases u with
  | infinity => exact h
  | finite => exact Int.le_trans hj h
  | zero | notANumber => exact h.elim

theorem Rounds.reaches (h : Rounds s t u) (hk : k ≤ t) (hmin : -1073 ≤ k) : Reaches k u := by
  cases h with
  | zero small => exact absurd (Int.le_trans hmin hk) (Int.not_le.mpr small)
  | finite _ low => exact Int.le_trans hk low
  | infinity => exact trivial

theorem Rounds.of_reaches (h : Rounds s t u) (hk : Reaches (k + 1) u) (hmin : -1073 ≤ k)
    (hmax : k ≤ 1024) : k ≤ t := by
  cases h with
  | zero => exact hk.elim
  | finite _ _ high =>
    unfold Reaches at hk
    omega
  | infinity large => exact Int.le_trans hmax large

theorem Rounds.upward (h : Rounds .positive t u) : Upward u := by
  cases h <;> rfl

theorem parts_mul (x y : Float) :
    parts (x * y) = (Float.Model.pack (UnpackedFloat.mul .binary64 (parts x) (parts y))).unpack :=
  rfl

theorem parts_add (x y : Float) :
    parts (x + y) = (Float.Model.pack (UnpackedFloat.add .binary64 (parts x) (parts y))).unpack :=
  rfl

theorem parts_div (x y : Float) :
    parts (x / y) = (Float.Model.pack (UnpackedFloat.div .binary64 (parts x) (parts y))).unpack :=
  rfl

theorem parts_sqrt (x : Float) :
    parts x.sqrt = (Float.Model.pack (UnpackedFloat.sqrt .binary64 (parts x))).unpack :=
  rfl

theorem sign_mul_self (s : Sign) : s * s = .positive := by
  cases s <;> rfl

theorem rounds_square {m : Nat} {e : Int} {h : 0 < m} (hx : parts x = .finite s m e h) :
    Rounds .positive (totalExponent (m * m) (e + e)) (parts (x * x)) := by
  have hm := Nat.ne_of_gt h
  have hlog := add_le_log2_mul hm hm
  obtain ⟨hregular, -⟩ := regular_of_parts hx
  rw [parts_mul, hx]
  change Rounds _ _ (Float.Model.pack
    (UnpackedFloat.roundWithAccuracy .binary64 (s * s) (m * m) (e + e) .exact)).unpack
  rw [sign_mul_self]
  refine rounds_roundWithAccuracy _ (Nat.mul_ne_zero hm hm) ?_
  rw [targetExponent_eq]
  unfold Regular at hregular
  unfold totalExponent
  omega

theorem reaches_square (h : Reaches k (parts x)) (hmin : -1073 ≤ 2 * k - 1) :
    Reaches (2 * k - 1) (parts (x * x)) := by
  cases hx : parts x with
  | infinity s =>
    rw [parts_mul, hx]
    cases s <;> exact trivial
  | finite s m e hm =>
    rw [hx] at h
    refine (rounds_square hx).reaches ?_ hmin
    have hlog := add_le_log2_mul (Nat.ne_of_gt hm) (Nat.ne_of_gt hm)
    unfold Reaches at h
    unfold totalExponent at h ⊢
    omega
  | zero | notANumber =>
    rw [hx] at h
    exact h.elim

theorem of_reaches_square (h : Reaches (2 * k + 1) (parts (x * x))) (hmin : -1073 ≤ 2 * k)
    (hmax : 2 * k ≤ 1024) : Reaches k (parts x) := by
  cases hx : parts x with
  | infinity s => exact trivial
  | finite s m e hm =>
    have hlow := (rounds_square hx).of_reaches h hmin hmax
    have hlog := log2_mul_le m m
    unfold Reaches
    unfold totalExponent at hlow ⊢
    omega
  | zero s =>
    rw [parts_mul, hx] at h
    cases s <;> exact h.elim
  | notANumber =>
    rw [parts_mul, hx] at h
    exact h.elim

theorem upward_square (h : parts x ≠ .notANumber) : Upward (parts (x * x)) := by
  cases hx : parts x with
  | infinity s | zero s =>
    rw [parts_mul, hx]
    cases s <;> rfl
  | finite s m e hm => exact (rounds_square hx).upward
  | notANumber => exact absurd hx h

/-- The sum of two finite numbers. -/
theorem sum_cases {s' : Sign} {m m' : Nat} {e e' : Int} {h : 0 < m} {h' : 0 < m'}
    (hx : parts x = .finite s m e h) (hy : parts y = .finite s' m' e' h') :
    parts (x + y) = .zero .positive ∧ ¬ (s = .positive ∧ s' = .positive) ∨
      ∃ sum t, Rounds sum t (parts (x + y)) ∧
        t ≤ max (totalExponent m e) (totalExponent m' e') + 1 ∧
        (s = .positive → s' = .positive →
          sum = .positive ∧ totalExponent m e ≤ t ∧ totalExponent m' e' ≤ t) := by
  have hsum : parts (x + y) = (Float.Model.pack (UnpackedFloat.normalize .binary64
      (s.apply (m <<< (e - min e e').toNat : Nat) + s'.apply (m' <<< (e' - min e e').toNat : Nat))
      (min e e') .positive)).unpack := by
    rw [parts_add, hx, hy]
    rfl
  rw [hsum, ← totalExponent_shiftLeft (Nat.ne_of_gt h) (Int.min_le_left e e'),
    ← totalExponent_shiftLeft (Nat.ne_of_gt h') (Int.min_le_right e e')]
  have ha := shiftLeft_ne_zero (Nat.ne_of_gt h) (e - min e e').toNat
  have hb := shiftLeft_ne_zero (Nat.ne_of_gt h') (e' - min e e').toNat
  generalize m <<< (e - min e e').toNat = a, m' <<< (e' - min e e').toNat = b at ha hb ⊢
  generalize min e e' = low
  by_cases hzero : s.apply a + s'.apply b = 0
  · left
    have hcompare : compare (0 : Int) 0 = .eq := by decide
    rw [hzero, UnpackedFloat.normalize, hcompare]
    refine ⟨unpack_pack_zero .positive, ?_⟩
    rintro ⟨rfl, rfl⟩
    exact ha (Nat.eq_zero_of_add_eq_zero_right (Int.ofNat_eq_zero.mp hzero))
  · right
    obtain ⟨sum, hpositive, hrounds⟩ := rounds_normalize (e := low) hzero .positive
    refine ⟨sum, _, hrounds, ?_, ?_⟩
    · have hle : (s.apply a + s'.apply b).natAbs ≤ a + b := by
        cases s <;> cases s' <;> unfold Sign.apply <;> dsimp only <;> omega
      have hlog := log2_le_log2 (Int.natAbs_ne_zero.mpr hzero) hle
      have hadd := log2_add_le a b
      unfold totalExponent
      omega
    · rintro rfl rfl
      have hvalue : Sign.positive.apply a + Sign.positive.apply b = ((a + b : Nat) : Int) := rfl
      rw [hvalue] at hpositive ⊢
      have hloga := log2_le_log2 ha (Nat.le_add_right a b)
      have hlogb := log2_le_log2 hb (Nat.le_add_left b a)
      refine ⟨hpositive (by omega), ?_, ?_⟩
      all_goals unfold totalExponent; rw [Int.natAbs_natCast]; omega

theorem parts_add_notANumber (h : parts x = .notANumber ∨ parts y = .notANumber) :
    parts (x + y) = .notANumber := by
  rw [parts_add]
  rcases h with h | h
  · rw [h]
    exact unpack_pack_notANumber
  · rw [h]
    cases parts x <;> exact unpack_pack_notANumber

theorem parts_mul_notANumber (h : parts x = .notANumber) (y : Float) :
    parts (x * y) = .notANumber := by
  rw [parts_mul, h]
  exact unpack_pack_notANumber

theorem parts_zero_add {m : Nat} {e : Int} {h : 0 < m} {s' : Sign} (hx : parts x = .zero s)
    (hy : parts y = .finite s' m e h) : parts (x + y) = .finite s' m e h := by
  obtain ⟨hregular, he⟩ := regular_of_parts hy
  rw [parts_add, hx, hy]
  exact unpack_pack hregular he

theorem parts_add_zero {m : Nat} {e : Int} {h : 0 < m} {s' : Sign} (hx : parts x = .finite s m e h)
    (hy : parts y = .zero s') : parts (x + y) = .finite s m e h := by
  obtain ⟨hregular, he⟩ := regular_of_parts hx
  rw [parts_add, hx, hy]
  exact unpack_pack hregular he

/-- A sum reaches little further than its terms. -/
theorem of_reaches_add (h : Reaches (k + 2) (parts (x + y))) (hmin : -1074 ≤ k)
    (hmax : k ≤ 1023) : Reaches k (parts x) ∨ Reaches k (parts y) := by
  have hnumbers : ¬ (parts x = .notANumber ∨ parts y = .notANumber) := fun hnan => by
    rw [parts_add_notANumber hnan] at h
    exact h
  cases hx : parts x with
  | notANumber => exact absurd (.inl hx) hnumbers
  | infinity => exact .inl trivial
  | zero s =>
    cases hy : parts y with
    | notANumber => exact absurd (.inr hy) hnumbers
    | infinity => exact .inr trivial
    | zero s' =>
      rw [parts_add, hx, hy] at h
      cases s <;> cases s' <;> exact h.elim
    | finite s' m e hm =>
      rw [parts_zero_add hx hy] at h
      exact .inr (h.mono (by omega))
  | finite s m e hm =>
    cases hy : parts y with
    | notANumber => exact absurd (.inr hy) hnumbers
    | infinity => exact .inr trivial
    | zero s' =>
      rw [parts_add_zero hx hy] at h
      exact .inl (h.mono (by omega))
    | finite s' m' e' hm' =>
      rcases sum_cases hx hy with ⟨hzero, -⟩ | ⟨sum, t, hrounds, ht, -⟩
      · rw [hzero] at h
        exact h.elim
      · have hlow := hrounds.of_reaches (k := k + 1) (by rwa [Int.add_assoc]) (by omega) (by omega)
        unfold Reaches
        omega

theorem parts_add_infinity (hx : parts x = .infinity .positive) (hy : Upward (parts y)) :
    parts (x + y) = .infinity .positive ∧ parts (y + x) = .infinity .positive := by
  rw [parts_add, parts_add, hx]
  cases hy' : parts y with
  | notANumber =>
    rw [hy'] at hy
    exact hy.elim
  | infinity s =>
    rw [hy'] at hy
    obtain rfl : s = .positive := hy
    exact ⟨unpack_pack_infinite _, unpack_pack_infinite _⟩
  | zero | finite => exact ⟨unpack_pack_infinite _, unpack_pack_infinite _⟩

/-- A sum of positive terms is positive and reaches as far as they do. -/
theorem reaches_add (hx : Upward (parts x)) (hy : Upward (parts y)) :
    Upward (parts (x + y)) ∧ ∀ k, -1073 ≤ k → Reaches k (parts x) ∨ Reaches k (parts y) →
      Reaches k (parts (x + y)) := by
  cases hx' : parts x with
  | notANumber =>
    rw [hx'] at hx
    exact hx.elim
  | infinity s =>
    rw [hx'] at hx
    obtain rfl : s = .positive := hx
    rw [(parts_add_infinity hx' hy).1]
    exact ⟨rfl, fun _ _ _ => trivial⟩
  | zero s =>
    rw [hx'] at hx
    obtain rfl : s = .positive := hx
    cases hy' : parts y with
    | notANumber =>
      rw [hy'] at hy
      exact hy.elim
    | infinity s' | zero s' =>
      rw [hy'] at hy
      obtain rfl : s' = .positive := hy
      rw [parts_add, hx', hy']
      exact ⟨rfl, fun _ _ h => h.elim False.elim id⟩
    | finite s' m e hm =>
      rw [hy'] at hy
      rw [parts_zero_add hx' hy']
      exact ⟨hy, fun _ _ h => h.elim False.elim id⟩
  | finite s m e hm =>
    rw [hx'] at hx
    obtain rfl : s = .positive := hx
    cases hy' : parts y with
    | notANumber =>
      rw [hy'] at hy
      exact hy.elim
    | infinity s' =>
      rw [hy'] at hy
      obtain rfl : s' = .positive := hy
      rw [(parts_add_infinity hy' (hx' ▸ rfl)).2]
      exact ⟨rfl, fun _ _ _ => trivial⟩
    | zero s' =>
      rw [parts_add_zero hx' hy']
      exact ⟨rfl, fun _ _ h => h.elim id False.elim⟩
    | finite s' m' e' hm' =>
      rw [hy'] at hy
      rcases sum_cases hx' hy' with ⟨-, hsigns⟩ | ⟨sum, t, hrounds, -, hsum⟩
      · exact absurd ⟨rfl, hy⟩ hsigns
      · obtain ⟨rfl, hm, hm'⟩ := hsum rfl hy
        exact ⟨hrounds.upward, fun k hmin h =>
          hrounds.reaches (h.elim (Int.le_trans · hm) (Int.le_trans · hm')) hmin⟩

/-- The root of a finite positive number. -/
theorem rounds_sqrt {m : Nat} {e : Int} {h : 0 < m} (hx : parts x = .finite .positive m e h) :
    Rounds .positive ((totalExponent m e + 1) / 2) (parts x.sqrt) := by
  obtain ⟨t, ht⟩ : ∃ t, t = min (e / 2)
    (Format.binary64.targetExponent ((totalExponent m e + 1) / 2)) := ⟨_, rfl⟩
  obtain ⟨k, hk⟩ : ∃ k, k = (e - 2 * t).toNat := ⟨_, rfl⟩
  have hroot : Nat.sqrt (m <<< k) ≠ 0 :=
    Nat.ne_of_gt (Nat.sqrt_pos.mpr (Nat.shiftLeft_pos_iff.mpr h))
  have htotal : totalExponent (Nat.sqrt (m <<< k)) t = (totalExponent m e + 1) / 2 := by
    unfold totalExponent
    rw [log2_sqrt, log2_shiftLeft (Nat.ne_of_gt h)]
    omega
  have hparts : ∃ acc, parts x.sqrt = (Float.Model.pack (UnpackedFloat.roundWithAccuracy .binary64
      .positive (Nat.sqrt (m <<< k)) t acc)).unpack := by
    rw [parts_sqrt, hx, hk, ht]
    exact ⟨_, rfl⟩
  obtain ⟨acc, hparts⟩ := hparts
  rw [hparts, ← htotal]
  refine rounds_roundWithAccuracy acc hroot ?_
  rw [htotal]
  omega

/-- A number with a finite root reaches twice as far, within what a double can. -/
theorem of_parts_sqrt {m : Nat} {e : Int} {h : 0 < m} (hx : parts x.sqrt = .finite s m e h)
    (hmin : -1072 ≤ totalExponent m e) :
    Reaches (2 * totalExponent m e - 3) (parts x) ∧ 2 * totalExponent m e ≤ 1027 := by
  cases hx' : parts x with
  | infinity s' =>
    rw [parts_sqrt, hx'] at hx
    cases s' with
    | positive => cases (unpack_pack_infinite .positive).symm.trans hx
    | negative => cases unpack_pack_notANumber.symm.trans hx
  | zero s' =>
    rw [parts_sqrt, hx'] at hx
    cases (unpack_pack_zero s').symm.trans hx
  | notANumber =>
    rw [parts_sqrt, hx'] at hx
    cases unpack_pack_notANumber.symm.trans hx
  | finite s' n f hn =>
    cases s' with
    | negative =>
      rw [parts_sqrt, hx'] at hx
      cases unpack_pack_notANumber.symm.trans hx
    | positive =>
      obtain ⟨hregular, hf⟩ := regular_of_parts hx'
      have hlargest : totalExponent n f ≤ 1024 := by
        unfold Regular at hregular
        unfold totalExponent
        omega
      have hrounds := rounds_sqrt hx'
      rw [hx] at hrounds
      cases hrounds with
      | finite _ _ high =>
        unfold Reaches
        omega

/-- A quotient reaches as far beyond one as the dividend beyond the divisor. -/
theorem reaches_div {m : Nat} {e : Int} {h : 0 < m} (hy : parts y = .finite s m e h)
    (hx : Reaches (totalExponent m e + k) (parts x)) (hmin : -1021 ≤ k) :
    Reaches k (parts (x / y)) := by
  cases hx' : parts x with
  | infinity s' =>
    rw [parts_div, hx', hy]
    change Reaches k (Float.Model.pack (.infinity (s' / s))).unpack
    rw [unpack_pack_infinite]
    exact trivial
  | zero | notANumber =>
    rw [hx'] at hx
    exact hx.elim
  | finite s' n f hn =>
    rw [hx'] at hx
    unfold Reaches at hx
    obtain ⟨t, ht⟩ : ∃ t, t = min (f - e)
      (Format.binary64.targetExponent (totalExponent n f - totalExponent m e)) := ⟨_, rfl⟩
    obtain ⟨j, hj⟩ : ∃ j, j = (f - e - t).toNat := ⟨_, rfl⟩
    have hparts : ∃ acc, parts (x / y) = (Float.Model.pack (UnpackedFloat.roundWithAccuracy
        .binary64 (s' / s) (n <<< j / m) t acc)).unpack := by
      rw [parts_div, hx', hy, hj, ht]
      exact ⟨_, rfl⟩
    obtain ⟨acc, hparts⟩ := hparts
    have hshift := log2_shiftLeft (Nat.ne_of_gt hn) j
    rw [targetExponent_eq] at ht
    have hle : m ≤ n <<< j := Nat.le_of_lt <| lt_of_log2_lt <| by
      unfold totalExponent at hx ht
      omega
    have hlog := log2_le_log2_div (Nat.ne_of_gt h) hle
    have hquot : n <<< j / m ≠ 0 := Nat.ne_of_gt (Nat.div_pos hle h)
    have hfar : totalExponent n f - totalExponent m e ≤ totalExponent (n <<< j / m) t := by
      unfold totalExponent
      omega
    rw [hparts]
    refine (rounds_roundWithAccuracy acc hquot ?_).reaches (by omega) (by omega)
    rw [targetExponent_eq]
    omega

theorem Vanishes.packed (h : Vanishes u) : Vanishes (Float.Model.pack u).unpack := by
  cases u with
  | zero s =>
    rw [unpack_pack_zero]
    exact h
  | notANumber => exact trivial
  | infinity | finite => exact h.elim

theorem Vanishes.mul (h : Vanishes (parts x)) (y : Float) : Vanishes (parts (x * y)) := by
  refine Vanishes.packed (u := UnpackedFloat.mul .binary64 (parts x) (parts y)) ?_
  cases hx : parts x with
  | infinity | finite =>
    rw [hx] at h
    exact h.elim
  | notANumber => exact trivial
  | zero => cases parts y <;> exact trivial

theorem Vanishes.add (hx : Vanishes (parts x)) (hy : Vanishes (parts y)) :
    Vanishes (parts (x + y)) := by
  refine Vanishes.packed (u := UnpackedFloat.add .binary64 (parts x) (parts y)) ?_
  cases hx' : parts x with
  | infinity | finite =>
    rw [hx'] at hx
    exact hx.elim
  | notANumber => exact trivial
  | zero s =>
    cases hy' : parts y with
    | infinity | finite =>
      rw [hy'] at hy
      exact hy.elim
    | notANumber => exact trivial
    | zero s' => cases s <;> cases s' <;> exact trivial

/-- Nothing is left of a number that is divided by an infinite one. -/
theorem vanishes_div (x : Float) (hy : parts y = .infinity s) : Vanishes (parts (x / y)) := by
  refine Vanishes.packed (u := UnpackedFloat.div .binary64 (parts x) (parts y)) ?_
  rw [hy]
  cases parts x <;> exact trivial

theorem zero_lt_iff : Float.ofNat 0 < x ↔ Upward (parts x) ∧ ¬ Vanishes (parts x) := by
  rw [lt_iff_parts, parts_zero]
  cases parts x with
  | notANumber => exact ⟨fun h => (by cases h), fun h => h.1.elim⟩
  | zero s => exact ⟨fun h => (by cases h), fun h => (h.2 trivial).elim⟩
  | infinity s =>
    cases s with
    | positive => exact ⟨fun _ => ⟨rfl, id⟩, fun _ => rfl⟩
    | negative => exact ⟨fun h => (by cases h), fun h => (by cases h.1)⟩
  | finite s m e h =>
    cases s with
    | positive => exact ⟨fun _ => ⟨rfl, id⟩, fun _ => rfl⟩
    | negative => exact ⟨fun h => (by cases h), fun h => (by cases h.1)⟩

theorem parts_tiny : parts Scalar.tiny = .finite .positive 4835703278458517 (-82) (by decide) := by
  unfold Scalar.tiny
  rfl

/-- What is more than a tiny length is infinite or far more than the least double. -/
theorem parts_of_tiny_lt (h : Scalar.tiny < x) : parts x = .infinity .positive ∨
    ∃ m e, ∃ hm : 0 < m, parts x = .finite .positive m e hm ∧ -29 ≤ totalExponent m e := by
  obtain ⟨a, ha, b, hb, hab⟩ := lt_iff_rank.mp h
  rw [parts_tiny] at ha
  cases ha
  cases hx : parts x with
  | notANumber =>
    rw [hx] at hb
    cases hb
  | zero =>
    rw [hx] at hb
    cases hb
    exact absurd hab (by decide)
  | infinity s =>
    cases s with
    | positive => exact .inl rfl
    | negative =>
      rw [hx] at hb
      cases hb
      exact absurd hab (by decide)
  | finite s m e hm =>
    rw [hx] at hb
    cases s with
    | negative =>
      cases hb
      rw [Prod.Lex.toLex_lt_toLex] at hab
      omega
    | positive =>
      cases hb
      rw [Prod.Lex.toLex_lt_toLex, Prod.Lex.toLex_lt_toLex] at hab
      obtain ⟨hregular, -⟩ := regular_of_parts hx
      unfold Regular at hregular
      refine .inr ⟨m, e, hm, rfl, ?_⟩
      unfold totalExponent
      omega

end Magnitudes

end RoadTraffic.Double
