import Mathlib.Algebra.Order.Ring.Nat
import Mathlib.Data.Nat.Sqrt
import RoadTraffic.Proofs.Scalar.Doubles

/-!
# Rounding of doubles

How many binary digits a number has before its point says how large it is up to a factor of two.
Bringing a number to a double changes that by one digit at most (`Double.Rounds`), unless the
number is too small for a double or too large.
-/

namespace RoadTraffic.Double

open Float.Model (Format UnpackedFloat totalExponent)
open Float.Model.UnpackedFloat (Sign Accuracy ExtendedMantissa)

section Digits

variable {m n k : Nat}

theorem log2_le_log2 (hm : m ≠ 0) (h : m ≤ n) : m.log2 ≤ n.log2 :=
  (Nat.le_log2 (by omega)).mpr (Nat.le_trans (Nat.log2_self_le hm) h)

theorem lt_of_log2_lt (h : m.log2 < n.log2) : m < n := by
  refine Nat.lt_of_not_le fun hle => Nat.not_le.mpr h ?_
  rcases Nat.eq_zero_or_pos n with rfl | hpos
  · rw [Nat.log2_zero]
    exact Nat.zero_le _
  · exact log2_le_log2 (Nat.ne_of_gt hpos) hle

theorem shiftLeft_ne_zero (hm : m ≠ 0) (k : Nat) : m <<< k ≠ 0 :=
  Nat.ne_of_gt (Nat.shiftLeft_pos_iff.mpr (Nat.pos_of_ne_zero hm))

theorem log2_shiftLeft (hm : m ≠ 0) (k : Nat) : (m <<< k).log2 = m.log2 + k := by
  induction k with
  | zero => rfl
  | succ k ih =>
    rw [Nat.shiftLeft_succ, Nat.log2_two_mul (shiftLeft_ne_zero hm k), ih]
    rfl

theorem totalExponent_shiftLeft {e low : Int} (hm : m ≠ 0) (h : low ≤ e) :
    totalExponent (m <<< (e - low).toNat) low = totalExponent m e := by
  unfold totalExponent
  rw [log2_shiftLeft hm]
  omega

theorem log2_div_two_pow (hk : k ≤ m.log2) : (m / 2 ^ k).log2 = m.log2 - k := by
  induction k with
  | zero => rw [Nat.pow_zero, Nat.div_one, Nat.sub_zero]
  | succ k ih =>
    have hdef := Nat.log2_def (m / 2 ^ k)
    rw [Nat.pow_succ, ← Nat.div_div_eq_div_mul]
    rw [ih (by omega)] at hdef
    split at hdef <;> omega

theorem add_le_log2_mul (hm : m ≠ 0) (hn : n ≠ 0) : m.log2 + n.log2 ≤ (m * n).log2 := by
  rw [Nat.le_log2 (Nat.mul_ne_zero hm hn), Nat.pow_add]
  exact Nat.mul_le_mul (Nat.log2_self_le hm) (Nat.log2_self_le hn)

theorem log2_mul_le (m n : Nat) : (m * n).log2 ≤ m.log2 + n.log2 + 1 := by
  rcases Nat.eq_zero_or_pos (m * n) with hzero | hpos
  · rw [hzero, Nat.log2_zero]
    exact Nat.zero_le _
  refine Nat.le_of_lt_succ ((Nat.log2_lt (Nat.ne_of_gt hpos)).mpr ?_)
  calc m * n < 2 ^ (m.log2 + 1) * 2 ^ (n.log2 + 1) :=
        Nat.mul_lt_mul'' Nat.lt_log2_self Nat.lt_log2_self
    _ = 2 ^ (m.log2 + n.log2 + 1 + 1) := by rw [← Nat.pow_add]; congr 1; omega

theorem log2_add_le (m n : Nat) : (m + n).log2 ≤ max m.log2 n.log2 + 1 := by
  rcases Nat.eq_zero_or_pos (m + n) with hzero | hpos
  · rw [hzero, Nat.log2_zero]
    exact Nat.zero_le _
  refine Nat.le_of_lt_succ ((Nat.log2_lt (Nat.ne_of_gt hpos)).mpr ?_)
  have hm : m < 2 ^ (max m.log2 n.log2 + 1) := Nat.lt_of_lt_of_le Nat.lt_log2_self
    (Nat.pow_le_pow_right (by decide) (by omega))
  have hn : n < 2 ^ (max m.log2 n.log2 + 1) := Nat.lt_of_lt_of_le Nat.lt_log2_self
    (Nat.pow_le_pow_right (by decide) (by omega))
  rw [Nat.pow_succ]
  omega

theorem log2_le_log2_div (hn : n ≠ 0) (h : n ≤ m) : m.log2 ≤ (m / n).log2 + n.log2 + 1 := by
  have hm : m ≠ 0 := by omega
  refine Nat.le_of_lt_succ ((Nat.log2_lt hm).mpr ?_)
  calc m < n * (m / n + 1) := Nat.lt_mul_div_succ m (Nat.pos_of_ne_zero hn)
    _ ≤ 2 ^ (n.log2 + 1) * 2 ^ ((m / n).log2 + 1) :=
        Nat.mul_le_mul (Nat.le_of_lt Nat.lt_log2_self) Nat.lt_log2_self
    _ = 2 ^ ((m / n).log2 + n.log2 + 1 + 1) := by rw [← Nat.pow_add]; congr 1; omega

theorem log2_sqrt (n : Nat) : n.sqrt.log2 = n.log2 / 2 := by
  rcases Nat.eq_zero_or_pos n with rfl | hpos
  · rfl
  have hn := Nat.ne_of_gt hpos
  refine (Nat.log2_eq_iff (Nat.ne_of_gt (Nat.sqrt_pos.mpr hpos))).mpr ⟨?_, ?_⟩
  · rw [Nat.le_sqrt, ← Nat.pow_add, ← Nat.le_log2 hn]
    omega
  · rw [Nat.sqrt_lt, ← Nat.pow_add, ← Nat.log2_lt hn]
    omega

end Digits

/-- Digits and exponent as doubles have them: 53 digits, or fewer of them at the least exponent. -/
def Regular (m : Nat) (e : Int) : Prop :=
  m.log2 = 52 ∧ -1074 ≤ e ∨ m.log2 < 52 ∧ e = -1074

section Packing

variable {s : Sign} {m : Nat} {e : Int} {h : 0 < m}

theorem unpackSign_packComponents (f : Format) (s : Sign) (e : BitVec f.exponentBits)
    (m : BitVec f.mantissaBitsWithoutImplicit) :
    UnpackedFloat.unpackSign (UnpackedFloat.packComponents f s e m) = s.toBitVec := by
  refine BitVec.eq_of_getLsbD_eq fun i hi => ?_
  obtain rfl : i = 0 := by omega
  delta UnpackedFloat.unpackSign UnpackedFloat.packComponents
  simp [BitVec.getLsbD_append, BitVec.getElem_append]

theorem ofBitVec_toBitVec (s : Sign) : Sign.ofBitVec s.toBitVec = s := by
  cases s <;> rfl

theorem toNat_implicit (v : BitVec 52) : (1#1 ++ v).toNat = 4503599627370496 + v.toNat := by
  rw [BitVec.toNat_append, ← Nat.shiftLeft_add_eq_or_of_lt v.isLt]
  rfl

theorem log2_implicit (v : BitVec 52) : (1#1 ++ v).toNat.log2 = 52 := by
  have hv := v.isLt
  rw [toNat_implicit]
  refine (Nat.log2_eq_iff (by omega)).mpr ⟨?_, ?_⟩ <;> omega

theorem ofNat_normal (hm : m.log2 = 52) : (1#1 ++ BitVec.ofNat 52 m).toNat = m := by
  have hne : m ≠ 0 := fun hzero => absurd (hzero ▸ hm) (by decide)
  obtain ⟨hlow, hhigh⟩ := (Nat.log2_eq_iff hne).mp hm
  rw [toNat_implicit, BitVec.toNat_ofNat]
  omega

theorem unpack_special {b : BitVec 64}
    (hmax : @UnpackedFloat.unpackExponent .binary64 b = -1#11) :
    (∃ s, UnpackedFloat.unpack .binary64 b = .infinity s) ∨
      UnpackedFloat.unpack .binary64 b = .notANumber := by
  unfold UnpackedFloat.unpack
  dsimp only
  rw [if_pos hmax]
  by_cases hdigits : @UnpackedFloat.unpackMantissa .binary64 b = 0#52
  · exact .inl ⟨_, if_pos hdigits⟩
  · exact .inr (if_neg hdigits)

theorem unpack_zero {b : BitVec 64} (hmin : @UnpackedFloat.unpackExponent .binary64 b = 0#11)
    (hdigits : @UnpackedFloat.unpackMantissa .binary64 b = 0#52) :
    ∃ s, UnpackedFloat.unpack .binary64 b = .zero s := by
  unfold UnpackedFloat.unpack
  dsimp only
  rw [hmin, if_neg (by decide), if_pos rfl, dif_pos hdigits]
  exact ⟨_, rfl⟩

theorem unpack_normal {b : BitVec 64}
    (hs : Sign.ofBitVec (@UnpackedFloat.unpackSign .binary64 b) = s)
    (hmax : @UnpackedFloat.unpackExponent .binary64 b ≠ -1#11)
    (hmin : @UnpackedFloat.unpackExponent .binary64 b ≠ 0#11)
    (hm : (1#1 ++ @UnpackedFloat.unpackMantissa .binary64 b).toNat = m)
    (he : (@UnpackedFloat.unpackExponent .binary64 b).toNat - 1075 = e) :
    UnpackedFloat.unpack .binary64 b = .finite s m e h := by
  subst hs hm he
  unfold UnpackedFloat.unpack
  dsimp only
  rw [if_neg hmax, if_neg hmin]
  rfl

theorem unpack_subnormal {b : BitVec 64}
    (hs : Sign.ofBitVec (@UnpackedFloat.unpackSign .binary64 b) = s)
    (hmin : @UnpackedFloat.unpackExponent .binary64 b = 0#11)
    (hm : (@UnpackedFloat.unpackMantissa .binary64 b).toNat = m) :
    UnpackedFloat.unpack .binary64 b = .finite s m (-1074) h := by
  subst hs hm
  have hne : @UnpackedFloat.unpackMantissa .binary64 b ≠ 0#52 := fun hzero =>
    absurd (hzero ▸ h) (by decide)
  unfold UnpackedFloat.unpack
  dsimp only
  rw [hmin, if_neg (by decide), if_pos rfl, dif_neg hne]
  rfl

/-- A double is regular, and its exponent is not too large for one. -/
theorem regular_of_parts {x : Float} (hx : parts x = .finite s m e h) : Regular m e ∧ e ≤ 971 := by
  obtain ⟨b, hb⟩ : ∃ b : BitVec 64, b = x.toModel.toBits.toBitVec := ⟨_, rfl⟩
  have hunpack : UnpackedFloat.unpack .binary64 b = .finite s m e h := hb ▸ hx
  by_cases hspecial : @UnpackedFloat.unpackExponent .binary64 b = -1#11
  · rcases unpack_special hspecial with ⟨_, hinfinite⟩ | hnan
    · cases hinfinite.symm.trans hunpack
    · cases hnan.symm.trans hunpack
  by_cases hleast : @UnpackedFloat.unpackExponent .binary64 b = 0#11
  · by_cases hdigits : @UnpackedFloat.unpackMantissa .binary64 b = 0#52
    · obtain ⟨_, hzero⟩ := unpack_zero hleast hdigits
      cases hzero.symm.trans hunpack
    · have hlt := (@UnpackedFloat.unpackMantissa .binary64 b).isLt
      have hne : (@UnpackedFloat.unpackMantissa .binary64 b).toNat ≠ 0 := fun hzero =>
        hdigits (BitVec.eq_of_toNat_eq hzero)
      cases (unpack_subnormal (h := Nat.pos_of_ne_zero hne) rfl hleast rfl).symm.trans hunpack
      exact ⟨.inr ⟨(Nat.log2_lt hne).mpr hlt, rfl⟩, by decide⟩
  · have hlt := (@UnpackedFloat.unpackExponent .binary64 b).isLt
    have hmin : (@UnpackedFloat.unpackExponent .binary64 b).toNat ≠ 0 := fun hzero =>
      hleast (BitVec.eq_of_toNat_eq hzero)
    have hmax : (@UnpackedFloat.unpackExponent .binary64 b).toNat ≠ 2047 := fun hmax =>
      hspecial (BitVec.eq_of_toNat_eq hmax)
    have hpos : 0 < (1#1 ++ @UnpackedFloat.unpackMantissa .binary64 b).toNat := by
      rw [toNat_implicit]
      exact Nat.add_pos_left (by decide) _
    cases (unpack_normal (h := hpos) rfl hspecial hleast rfl rfl).symm.trans hunpack
    dsimp only [Format.binary64] at hlt
    refine ⟨.inl ⟨log2_implicit _, ?_⟩, ?_⟩ <;> omega

/-- The exponents apart from the two that have a meaning of their own. -/
theorem ofNat_biased {b : Nat} (hmin : 0 < b) (hmax : b < 2047) :
    (BitVec.ofNat 11 b).toNat = b ∧ BitVec.ofNat 11 b ≠ 0#11 ∧ BitVec.ofNat 11 b ≠ -1#11 := by
  have hvalue : (BitVec.ofNat 11 b).toNat = b := by
    rw [BitVec.toNat_ofNat, Nat.mod_eq_of_lt (by omega)]
  refine ⟨hvalue, fun hzero => ?_, fun hlast => ?_⟩
  · rw [hzero] at hvalue
    exact Nat.ne_of_lt hmin hvalue
  · rw [hlast] at hvalue
    exact Nat.ne_of_gt hmax hvalue

theorem pack_finite {biased : Nat} (hbiased : (e + 1075).toNat = biased) :
    UnpackedFloat.pack .binary64 (.finite s m e h) =
      if 2048 ≤ biased + 1 then UnpackedFloat.packedInfinity .binary64 s
      else if m.log2 + 1 = 53 then
        UnpackedFloat.packComponents .binary64 s (BitVec.ofNat 11 biased) (BitVec.ofNat 52 m)
      else UnpackedFloat.packComponents .binary64 s 0#11 (BitVec.ofNat 52 m) := by
  have hsum : (e + ((1023 : Nat) : Int) + ((52 : Nat) : Int)).toNat = biased := by omega
  subst hsum
  rfl

/-- Packing keeps a regular number whose exponent is not too large for a double. -/
theorem unpack_pack (hm : Regular m e) (he : e ≤ 971) :
    (Float.Model.pack (.finite s m e h)).unpack = .finite s m e h := by
  change UnpackedFloat.unpack .binary64 (UnpackedFloat.pack .binary64 (.finite s m e h)) = _
  obtain ⟨biased, hbiased⟩ : ∃ n, (e + 1075).toNat = n := ⟨_, rfl⟩
  obtain ⟨hnormal, hmin⟩ | ⟨hdigits, rfl⟩ := hm
  · obtain ⟨hvalue, hpos, hlast⟩ := @ofNat_biased biased (by omega) (by omega)
    rw [pack_finite hbiased, if_neg (by omega), if_pos (by omega)]
    refine unpack_normal ?_ ?_ ?_ ?_ ?_
    · rw [unpackSign_packComponents, ofBitVec_toBitVec]
    · rwa [UnpackedFloat.unpackExponent_packComponents]
    · rwa [UnpackedFloat.unpackExponent_packComponents]
    · rw [UnpackedFloat.unpackMantissa_packComponents, ofNat_normal hnormal]
    · rw [UnpackedFloat.unpackExponent_packComponents, hvalue]
      omega
  · have hlt : m < 2 ^ 52 := (Nat.log2_lt (Nat.ne_of_gt h)).mp hdigits
    rw [pack_finite hbiased, if_neg (by omega), if_neg (by omega)]
    refine unpack_subnormal ?_ ?_ ?_
    · rw [unpackSign_packComponents, ofBitVec_toBitVec]
    · rw [UnpackedFloat.unpackExponent_packComponents]
    · rw [UnpackedFloat.unpackMantissa_packComponents, BitVec.toNat_ofNat, Nat.mod_eq_of_lt hlt]

/-- A number too large for a double becomes infinite. -/
theorem unpack_pack_infinity (he : 971 < e) :
    (Float.Model.pack (.finite s m e h)).unpack = .infinity s := by
  change UnpackedFloat.unpack .binary64 (UnpackedFloat.pack .binary64 (.finite s m e h)) = _
  rw [pack_finite rfl, if_pos (by omega)]
  cases s <;> rfl

theorem unpack_pack_zero (s : Sign) : (Float.Model.pack (.zero s)).unpack = .zero s := by
  cases s <;> rfl

theorem unpack_pack_infinite (s : Sign) :
    (Float.Model.pack (.infinity s)).unpack = .infinity s := by
  cases s <;> rfl

theorem unpack_pack_notANumber : (Float.Model.pack .notANumber).unpack = .notANumber := rfl

end Packing

section Rounding

variable {s : Sign} {m : Nat} {e : Int}

theorem targetExponent_eq (t : Int) : Format.binary64.targetExponent t = max (t - 53) (-1074) := rfl

theorem mantissa_shiftRight (em : ExtendedMantissa) (k : Nat) :
    (em >>> k).mantissa = em.mantissa / 2 ^ k := by
  induction k with
  | zero => exact (Nat.div_one _).symm
  | succ k ih =>
    change (em >>> k).mantissa / 2 = _
    rw [ih, Nat.div_div_eq_div_mul, Nat.pow_succ]

theorem mantissa_ofMantissaAndAccuracy (m : Nat) (acc : Accuracy) :
    (ExtendedMantissa.ofMantissaAndAccuracy m acc).mantissa = m := by
  cases acc with
  | exact => rfl
  | inexact order => cases order <;> rfl

theorem roundedMantissa_bounds (em : ExtendedMantissa) :
    em.mantissa ≤ em.roundedMantissa ∧ em.roundedMantissa ≤ em.mantissa + 1 := by
  obtain ⟨m, half, sticky⟩ := em
  unfold ExtendedMantissa.roundedMantissa
  cases half <;> cases sticky <;> simp only [ExtendedMantissa.accuracy, Accuracy.roundToNearestEven]
  all_goals omega

/-- A number that has no more digits than a double keeps them. -/
theorem shift_none (hm : m < 9007199254740992) (he : -1074 ≤ e) :
    UnpackedFloat.shiftToTargetExponent .binary64 m e .exact = (⟨m, false, false⟩, e) := by
  have hlog : m.log2 ≤ 52 := by
    rcases Nat.eq_zero_or_pos m with rfl | hpos
    · decide
    · exact Nat.le_of_lt_succ ((Nat.log2_lt (Nat.ne_of_gt hpos)).mpr hm)
  unfold UnpackedFloat.shiftToTargetExponent UnpackedFloat.shiftToExponent
  dsimp only
  have hzero : (Format.binary64.targetExponent (totalExponent m e) - e).toNat = 0 := by
    rw [targetExponent_eq]
    unfold totalExponent
    omega
  rw [hzero]
  exact congrArg _ (Int.add_zero e)

/-- Rounding up to one digit more than a double has gives a power of two. -/
theorem shift_carry (he : -1074 ≤ e) :
    UnpackedFloat.shiftToTargetExponent .binary64 9007199254740992 e .exact =
      (⟨4503599627370496, false, false⟩, e + 1) := by
  unfold UnpackedFloat.shiftToTargetExponent UnpackedFloat.shiftToExponent
  dsimp only
  have hone :
      (Format.binary64.targetExponent (totalExponent 9007199254740992 e) - e).toNat = 1 := by
    have hlog : Nat.log2 9007199254740992 = 53 := by decide
    rw [targetExponent_eq]
    unfold totalExponent
    rw [hlog]
    omega
  rw [hone]
  rfl

/-- What becomes of a number of magnitude `t` that is brought to a double: the magnitude grows by
one at most, apart from numbers that are too small to be told apart or too large to be told at
all. -/
inductive Rounds (s : Sign) (t : Int) : UnpackedFloat → Prop
  | zero (small : t < -1073) : Rounds s t (.zero s)
  | finite {m : Nat} {e : Int} (h : 0 < m) (low : t ≤ totalExponent m e)
      (high : totalExponent m e ≤ max (t + 1) (-1073)) : Rounds s t (.finite s m e h)
  | infinity (large : 1024 ≤ t) : Rounds s t (.infinity s)

theorem Rounds.of_regular {t : Int} (h : 0 < m) (hm : Regular m e) (low : t ≤ totalExponent m e)
    (high : totalExponent m e ≤ max (t + 1) (-1073)) :
    Rounds s t (Float.Model.pack (.finite s m e h)).unpack := by
  by_cases he : e ≤ 971
  · rw [unpack_pack hm he]
    exact .finite h low high
  · rw [unpack_pack_infinity (Int.not_le.mp he)]
    have hlog : m.log2 = 52 := by
      obtain ⟨hlog, -⟩ | ⟨-, rfl⟩ := hm
      · exact hlog
      · exact absurd he (by decide)
    unfold totalExponent at high
    exact .infinity (by omega)

/-- The number of some digits and an exponent, whatever was cut off before. -/
def kept (s : Sign) (last : ExtendedMantissa × Int) : UnpackedFloat :=
  if h : last.1.mantissa = 0 then .zero s
  else .finite s last.1.mantissa last.2 (Nat.pos_of_ne_zero h)

theorem kept_finite (h : 0 < m) (half sticky : Bool) :
    kept s (⟨m, half, sticky⟩, e) = .finite s m e h :=
  dif_neg (Nat.ne_of_gt h)

/-- Rounding cuts the digits off that are too many and may add one to the last digit kept. -/
theorem roundWithAccuracy_eq {t : Int} (acc : Accuracy)
    (ht : t = Format.binary64.targetExponent (totalExponent m e)) (he : e ≤ t) :
    ∃ r, m / 2 ^ (t - e).toNat ≤ r ∧ r ≤ m / 2 ^ (t - e).toNat + 1 ∧
      UnpackedFloat.roundWithAccuracy .binary64 s m e acc =
        kept s (UnpackedFloat.shiftToTargetExponent .binary64 r t .exact) := by
  have hshift : UnpackedFloat.shiftToTargetExponent .binary64 m e acc =
      (ExtendedMantissa.ofMantissaAndAccuracy m acc >>> (t - e).toNat, t) := by
    unfold UnpackedFloat.shiftToTargetExponent UnpackedFloat.shiftToExponent
    dsimp only
    rw [← ht]
    congr 1
    omega
  obtain ⟨hlow, hhigh⟩ := roundedMantissa_bounds
    (ExtendedMantissa.ofMantissaAndAccuracy m acc >>> (t - e).toNat)
  rw [mantissa_shiftRight, mantissa_ofMantissaAndAccuracy] at hlow hhigh
  refine ⟨_, hlow, hhigh, ?_⟩
  unfold UnpackedFloat.roundWithAccuracy
  rw [hshift]
  rfl

/-- Rounding of a number of which the digits `cut` are kept, and `r` once they are rounded. -/
theorem rounds_kept {t total : Int} {cut r : Nat} (hcut : cut ≠ 0) (hfew : cut.log2 ≤ 52)
    (hfull : cut.log2 = 52 ∨ t = -1074) (ht : -1074 ≤ t) (htotal : total = totalExponent cut t)
    (hlow : cut ≤ r) (hhigh : r ≤ cut + 1) :
    Rounds s total (Float.Model.pack
      (kept s (UnpackedFloat.shiftToTargetExponent .binary64 r t .exact))).unpack := by
  have hlt : cut < 9007199254740992 := (Nat.log2_lt hcut).mp (Nat.lt_succ_of_le hfew)
  unfold totalExponent at htotal
  -- one digit comes in addition only if all digits kept are ones
  rcases Nat.lt_or_eq_of_le (show r ≤ 9007199254740992 by omega) with hr | rfl
  · have hne : r ≠ 0 := by omega
    have hlogLow := log2_le_log2 hcut hlow
    have hlogHigh : r.log2 ≤ cut.log2 + 1 := by
      rw [← Nat.log2_two_mul hcut]
      exact log2_le_log2 hne (by omega)
    have hlog : r.log2 < 53 := (Nat.log2_lt hne).mpr hr
    rw [shift_none hr ht, kept_finite (Nat.pos_of_ne_zero hne)]
    refine .of_regular (Nat.pos_of_ne_zero hne) ?_ ?_ ?_
    · unfold Regular
      omega
    all_goals unfold totalExponent; omega
  · have hlog : cut.log2 = 52 := (Nat.log2_eq_iff hcut).mpr ⟨by omega, hlt⟩
    have hlast : Nat.log2 4503599627370496 = 52 := by decide
    rw [shift_carry ht, kept_finite (by decide)]
    refine .of_regular _ (.inl ⟨hlast, by omega⟩) ?_ ?_
    all_goals unfold totalExponent; rw [hlast]; omega

/-- Rounding of a number less than the least double: it is nothing or the least double. -/
theorem rounds_least {total : Int} {r : Nat} (hsmall : total < -1073) (hr : r ≤ 1) :
    Rounds s total (Float.Model.pack
      (kept s (UnpackedFloat.shiftToTargetExponent .binary64 r (-1074) .exact))).unpack := by
  rw [shift_none (by omega) (Int.le_refl _)]
  rcases Nat.le_one_iff_eq_zero_or_eq_one.mp hr with rfl | rfl
  · cases s <;> exact .zero hsmall
  · have hone : totalExponent 1 (-1074) = -1073 := by decide
    rw [kept_finite (by decide)]
    refine .of_regular _ (.inr ⟨by decide, rfl⟩) ?_ ?_ <;> omega

/-- What rounding makes of a number, provided that its exponent is small enough for no digit of it
to be missing. -/
theorem rounds_roundWithAccuracy (acc : Accuracy) (hm : m ≠ 0)
    (he : e ≤ Format.binary64.targetExponent (totalExponent m e)) :
    Rounds s (totalExponent m e)
      (Float.Model.pack (UnpackedFloat.roundWithAccuracy .binary64 s m e acc)).unpack := by
  obtain ⟨t, ht⟩ : ∃ t, t = Format.binary64.targetExponent (totalExponent m e) := ⟨_, rfl⟩
  rw [← ht] at he
  obtain ⟨r, hlow, hhigh, hr⟩ := roundWithAccuracy_eq acc ht he
  obtain ⟨k, hk⟩ : ∃ k, k = (t - e).toNat := ⟨_, rfl⟩
  rw [hr]
  rw [← hk] at hlow hhigh
  rw [targetExponent_eq] at ht
  have htotal : totalExponent m e = m.log2 + 1 + e := rfl
  -- of a number below the least double no digit is kept, but it may be rounded up to one
  by_cases hkeep : k ≤ m.log2
  · have hlog := log2_div_two_pow hkeep
    have hcut : m / 2 ^ k ≠ 0 :=
      Nat.ne_of_gt (Nat.div_pos ((Nat.le_log2 hm).mp hkeep) (Nat.two_pow_pos k))
    have hsame : totalExponent m e = totalExponent (m / 2 ^ k) t := by
      unfold totalExponent at ht ⊢
      omega
    exact rounds_kept hcut (by omega) (by omega) (by omega) hsame hlow hhigh
  · rw [Nat.div_eq_of_lt ((Nat.log2_lt hm).mp (Nat.not_le.mp hkeep))] at hhigh
    obtain rfl : t = -1074 := by omega
    exact rounds_least (by omega) hhigh

theorem rounds_round (hm : m ≠ 0) :
    Rounds s (totalExponent m e)
      (Float.Model.pack (UnpackedFloat.round .binary64 s m e)).unpack := by
  obtain ⟨k, hk⟩ : ∃ k, k = (e - Format.binary64.targetExponent (totalExponent m e)).toNat :=
    ⟨_, rfl⟩
  have htotal : totalExponent (m <<< k) (e - k) = totalExponent m e := by
    unfold totalExponent
    rw [log2_shiftLeft hm]
    omega
  unfold UnpackedFloat.round UnpackedFloat.decreaseExponent
  dsimp only
  rw [← hk, ← htotal]
  refine rounds_roundWithAccuracy _ (shiftLeft_ne_zero hm k) ?_
  rw [htotal]
  omega

theorem rounds_normalize {n : Int} (hn : n ≠ 0) (zeroSign : Sign) :
    ∃ s, (0 < n → s = .positive) ∧ Rounds s (totalExponent n.natAbs e)
      (Float.Model.pack (UnpackedFloat.normalize .binary64 n e zeroSign)).unpack := by
  unfold UnpackedFloat.normalize
  rcases Int.lt_trichotomy n 0 with hneg | hzero | hpos
  · rw [Int.compare_eq_lt.mpr hneg, show n.natAbs = (-n).toNat by omega]
    exact ⟨.negative, fun hpos => absurd hpos (Int.not_lt.mpr (Int.le_of_lt hneg)),
      rounds_round (by omega)⟩
  · exact absurd hzero hn
  · rw [Int.compare_eq_gt.mpr hpos, show n.natAbs = n.toNat by omega]
    exact ⟨.positive, fun _ => rfl, rounds_round (by omega)⟩

end Rounding

end RoadTraffic.Double
