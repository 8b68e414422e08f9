import Mathlib.Order.Interval.Finset.Nat
import Mathlib.Tactic.FieldSimp
import RoadTraffic.Proofs.Scalar.Floor
import RoadTraffic.Settings.Basic

/-!
# The density through the day

A daily schedule has a value for each full hour and straight lines in between. Hours are counted
through the days, in both directions, and each of them has the entry that its hour of the day has
(`entryAt`). So a schedule is an interpolation of a sequence that goes on for ever
(`scheduled_eq`), and midnight is an hour like the others.

`densityAt_daily` says that this curve is the same each day, goes through the entries, stays between
those on either side of it and is nowhere steeper than the steepest line between two of them. The
entries that are looked up are always there (`densityAt?_eq`).
-/

namespace RoadTraffic

open ExactScalar

/-! ## Straight lines between the values of a sequence -/

section

variable {K : Type} [Field K] [LinearOrder K] [IsStrictOrderedRing K] [FloorRing K] {e : ℤ → K}
  {slope : K}

/-- The value at a number of the straight line between the whole numbers on either side of it. -/
def interpolated (e : ℤ → K) (x : K) : K := e ⌊x⌋ + (e (⌊x⌋ + 1) - e ⌊x⌋) * Int.fract x

theorem interpolated_intCast (n : ℤ) : interpolated e n = e n := by
  unfold interpolated
  rw [Int.floor_intCast, Int.fract_intCast, mul_zero, add_zero]

/-- A line still has its value where the next one begins. -/
theorem interpolated_of_mem {n : ℤ} {x : K} (hlow : n ≤ x) (hhigh : x ≤ n + 1) :
    interpolated e x = e n + (e (n + 1) - e n) * (x - n) := by
  rcases eq_or_lt_of_le hhigh with rfl | hlt
  · rw [← Int.cast_one, ← Int.cast_add, interpolated_intCast]
    push_cast
    ring
  · have hfloor : ⌊x⌋ = n := Int.floor_eq_iff.mpr ⟨hlow, hlt⟩
    unfold interpolated
    rw [← Int.self_sub_floor, hfloor]

/-- An interpolated value is between the two that it is interpolated from. -/
theorem interpolated_between (e : ℤ → K) (x : K) :
    min (e ⌊x⌋) (e (⌊x⌋ + 1)) ≤ interpolated e x ∧
      interpolated e x ≤ max (e ⌊x⌋) (e (⌊x⌋ + 1)) := by
  have hlow := Int.fract_nonneg x
  have hhigh := (Int.fract_lt_one x).le
  unfold interpolated
  generalize e ⌊x⌋ = a, e (⌊x⌋ + 1) = b, Int.fract x = t at hlow hhigh ⊢
  rcases le_total a b with h | h
  · rw [min_eq_left h, max_eq_right h]
    have hrise := mul_le_mul_of_nonneg_left hhigh (sub_nonneg.mpr h)
    exact ⟨le_add_of_nonneg_right (mul_nonneg (sub_nonneg.mpr h) hlow), by linarith⟩
  · rw [min_eq_right h, max_eq_left h]
    have hfall := mul_le_mul_of_nonpos_left hhigh (sub_nonpos.mpr h)
    exact ⟨by linarith, add_le_of_nonpos_right (mul_nonpos_of_nonpos_of_nonneg
      (sub_nonpos.mpr h) hlow)⟩

/-- On one line the values differ by its slope at most. -/
theorem abs_interpolated_sub_le_of_mem (h : ∀ n, |e (n + 1) - e n| ≤ slope) {n : ℤ} {x y : K}
    (hx : n ≤ x) (hxy : x ≤ y) (hy : y ≤ n + 1) :
    |interpolated e y - interpolated e x| ≤ slope * (y - x) := by
  have hdiff : interpolated e y - interpolated e x = (e (n + 1) - e n) * (y - x) := by
    rw [interpolated_of_mem (hx.trans hxy) hy, interpolated_of_mem hx (hxy.trans hy)]
    ring
  rw [hdiff, abs_mul, abs_of_nonneg (sub_nonneg.mpr hxy)]
  exact mul_le_mul_of_nonneg_right (h n) (sub_nonneg.mpr hxy)

/-- From one number to a later one it goes line by line, through the whole numbers in between. -/
theorem abs_interpolated_sub_le_of_le (h : ∀ n, |e (n + 1) - e n| ≤ slope) {x y : K}
    (hxy : x ≤ y) : |interpolated e y - interpolated e x| ≤ slope * (y - x) := by
  obtain ⟨k, hk⟩ := Int.eq_ofNat_of_zero_le (sub_nonneg.mpr (Int.floor_le_floor hxy))
  induction k generalizing x with
  | zero =>
    have hfloor : ⌊y⌋ = ⌊x⌋ := by omega
    exact abs_interpolated_sub_le_of_mem h (Int.floor_le x) hxy
      (hfloor ▸ (Int.lt_floor_add_one y).le)
  | succ k ih =>
    have hnext : ((⌊x⌋ + 1 : ℤ) : K) ≤ y := Int.le_floor.mp (by omega)
    have hfloor : ⌊((⌊x⌋ + 1 : ℤ) : K)⌋ = ⌊x⌋ + 1 := Int.floor_intCast _
    have hrest := ih hnext (by rw [hfloor]; omega)
    have hfirst := abs_interpolated_sub_le_of_mem h (Int.floor_le x)
      (show x ≤ ((⌊x⌋ + 1 : ℤ) : K) by push_cast; exact (Int.lt_floor_add_one x).le)
      (by push_cast; exact le_rfl)
    calc |interpolated e y - interpolated e x|
        ≤ |interpolated e y - interpolated e ((⌊x⌋ + 1 : ℤ) : K)| +
          |interpolated e ((⌊x⌋ + 1 : ℤ) : K) - interpolated e x| := abs_sub_le _ _ _
      _ ≤ slope * (y - ((⌊x⌋ + 1 : ℤ) : K)) + slope * (((⌊x⌋ + 1 : ℤ) : K) - x) :=
        add_le_add hrest hfirst
      _ = slope * (y - x) := by ring

/-- An interpolated sequence is nowhere steeper than its steps. -/
theorem abs_interpolated_sub_le (h : ∀ n, |e (n + 1) - e n| ≤ slope) (x y : K) :
    |interpolated e x - interpolated e y| ≤ slope * |x - y| := by
  rcases le_total x y with hxy | hyx
  · rw [abs_sub_comm, abs_sub_comm x, abs_of_nonneg (sub_nonneg.mpr hxy)]
    exact abs_interpolated_sub_le_of_le h hxy
  · rw [abs_of_nonneg (sub_nonneg.mpr hyx)]
    exact abs_interpolated_sub_le_of_le h hyx

end

namespace Settings

/-! ## The look-ups once more -/

section

variable {α : Type} [Scalar α]

/-- The value of a daily schedule at an hour, if the entries that it is made from are there. -/
def scheduled? (hours : List α) (hour : α) : Option α := do
  let hour := Scalar.modulo hour 24
  let index := Scalar.toNat (Nat.pow 2 64 - 1) (Scalar.floor hour) % hoursPerDay
  let next := (index + 1) % hoursPerDay
  return Scalar.lerp (← hours[index]?) (← hours[next]?) (hour - Scalar.floor hour)

/-- The density at an hour of the day, if the entries that it is made from are there. -/
def densityAt? (s : Settings α) (hour : α) : Option α :=
  match s.hourlyDensity with
  | some hours => if hours.length = hoursPerDay then scheduled? hours hour else some s.density
  | none => some s.density

/-- No entry is looked up outside a schedule, at any hour and whatever the number format is. -/
theorem densityAt?_eq (s : Settings α) (hour : α) :
    s.densityAt? hour = some (s.densityAt hour) := by
  unfold densityAt? densityAt
  cases s.hourlyDensity with
  | none => rfl
  | some hours =>
    dsimp only
    split
    · next hlength =>
      have hinside : ∀ n, n % hoursPerDay < hours.length := fun n =>
        hlength.symm ▸ Nat.mod_lt n (by decide)
      unfold scheduled? scheduled
      dsimp only
      simp only [List.getD_eq_getElem?_getD, List.getElem?_eq_getElem (hinside _)]
      rfl
    · rfl

end

/-! ## The curve of a day -/

variable {K : Type} [Field K] [LinearOrder K] [IsStrictOrderedRing K] [FloorRing K] {hours : List K}

/-- The entry of a schedule for an hour, counted from midnight through the days. -/
def entryAt (hours : List K) (n : ℤ) : K := hours.getD (n % hoursPerDay).toNat 0

/-- The largest difference between an entry of a schedule and the next one, also around midnight. -/
def steepest (hours : List K) : K :=
  (Finset.range hoursPerDay).sup' ⟨0, by decide⟩ fun k => |entryAt hours (k + 1) - entryAt hours k|

omit [LinearOrder K] [IsStrictOrderedRing K] [FloorRing K] in
theorem entryAt_congr {n k : ℤ} (h : n % hoursPerDay = k % hoursPerDay) :
    entryAt hours n = entryAt hours k := by
  unfold entryAt
  rw [h]

omit [LinearOrder K] [IsStrictOrderedRing K] [FloorRing K] in
theorem getElem?_eq_entryAt (hlength : hours.length = hoursPerDay) (n : ℤ) :
    hours[(n % hoursPerDay).toNat]? = some (entryAt hours n) := by
  have hinside : (n % hoursPerDay).toNat < hours.length := by
    unfold hoursPerDay at hlength ⊢
    omega
  unfold entryAt
  rw [List.getD_eq_getElem?_getD, List.getElem?_eq_getElem hinside, Option.getD_some]

omit [IsStrictOrderedRing K] [FloorRing K] in
/-- No step of a schedule is larger than the steepest one, on any day. -/
theorem abs_entryAt_sub_le (hours : List K) (n : ℤ) :
    |entryAt hours (n + 1) - entryAt hours n| ≤ steepest hours := by
  obtain ⟨k, hk, hkn⟩ : ∃ k : ℕ, k ∈ Finset.range hoursPerDay ∧ (k : ℤ) = n % hoursPerDay :=
    ⟨(n % hoursPerDay).toNat, by rw [Finset.mem_range]; unfold hoursPerDay; omega, by
      unfold hoursPerDay; omega⟩
  have hnow : entryAt hours n = entryAt hours k := entryAt_congr (by unfold hoursPerDay at *; omega)
  have hnext : entryAt hours (n + 1) = entryAt hours (k + 1) :=
    entryAt_congr (by unfold hoursPerDay at *; omega)
  rw [hnow, hnext]
  exact Finset.le_sup' (fun k : ℕ => |entryAt hours (k + 1) - entryAt hours k|) hk

variable [Scalar K] [ExactScalar K] [FlooredScalar K]

/-- An hour that is brought back to the first day is the same one of its day, and as much of it has
gone by. -/
theorem modulo_day (x : K) :
    ⌊Scalar.modulo x (hoursPerDay : K)⌋ = ⌊x⌋ % hoursPerDay ∧
      Int.fract (Scalar.modulo x (hoursPerDay : K)) = Int.fract x := by
  have hday : (0 : K) < hoursPerDay := Nat.cast_pos.mpr (by decide)
  have hmodulo := FlooredScalar.modulo_eq x hday
  have hfirst : Scalar.modulo x (hoursPerDay : K) =
      x - ((hoursPerDay * ⌊x / hoursPerDay⌋ : ℤ) : K) := by
    have hquotient : (hoursPerDay : K) * (x / hoursPerDay) = x := mul_div_cancel₀ x hday.ne'
    rw [hmodulo, ← Int.self_sub_floor, mul_sub, hquotient]
    push_cast
    rfl
  have hfloor : ⌊Scalar.modulo x (hoursPerDay : K)⌋ = ⌊x⌋ - hoursPerDay * ⌊x / hoursPerDay⌋ := by
    rw [hfirst, Int.floor_sub_intCast]
  have hlow : 0 ≤ ⌊Scalar.modulo x (hoursPerDay : K)⌋ := by
    rw [hmodulo]
    exact Int.floor_nonneg.mpr (mul_nonneg hday.le (Int.fract_nonneg _))
  have hhigh : ⌊Scalar.modulo x (hoursPerDay : K)⌋ < hoursPerDay := by
    rw [Int.floor_lt, hmodulo, Int.cast_natCast]
    exact mul_lt_of_lt_one_right hday (Int.fract_lt_one _)
  refine ⟨?_, ?_⟩
  · rw [← Int.emod_eq_of_lt hlow hhigh, hfloor, Int.sub_mul_emod_self_left]
  · rw [hfirst, Int.fract_sub_intCast]

/-- A schedule is interpolated between its entries. -/
theorem scheduled_eq (hlength : hours.length = hoursPerDay) (x : K) :
    scheduled hours x = interpolated (entryAt hours) x := by
  obtain ⟨hfloor, hfract⟩ := modulo_day x
  have hindex : Scalar.toNat (Nat.pow 2 64 - 1) ((⌊x⌋ % hoursPerDay : ℤ) : K) % hoursPerDay =
      (⌊x⌋ % hoursPerDay).toNat := by
    have hlimit : hoursPerDay ≤ Nat.pow 2 64 - 1 := by decide
    rw [FlooredScalar.toNat_eq, Int.floor_intCast]
    unfold hoursPerDay at *
    omega
  have hnext : ((⌊x⌋ % hoursPerDay).toNat + 1) % hoursPerDay =
      ((⌊x⌋ + 1) % hoursPerDay).toNat := by
    unfold hoursPerDay
    omega
  have hentry : ∀ n : ℤ, hours.getD (n % hoursPerDay).toNat
      (@OfNat.ofNat K 0 (Scalar.instOfNat 0)) = entryAt hours n := fun n => by
    rw [List.getD_eq_getElem?_getD, getElem?_eq_entryAt hlength, Option.getD_some]
  obtain ⟨y, hy⟩ : ∃ y, Scalar.modulo x (hoursPerDay : K) = y := ⟨_, rfl⟩
  have hday : Scalar.modulo x (@OfNat.ofNat K 24 (Scalar.instOfNat 24)) = y := by
    rw [scalar_ofNat_eq]
    exact hy
  rw [hy] at hfloor hfract
  unfold scheduled interpolated Scalar.lerp
  dsimp only
  rw [hday, FlooredScalar.floor_eq, hfloor, hindex, hnext, hentry, hentry]
  simp only [scalar_add_eq, scalar_sub_eq, scalar_mul_eq]
  rw [← hfract, ← Int.self_sub_floor, hfloor]

/-- **The density through the day.** The density that a schedule of a whole day gives is the same at
the same hour of each day and the entry of the schedule at each full hour. In between it lies
between the entries of the two hours on either side, of which the first one follows the last one,
and nowhere does it change faster than from some entry to the next one. All entries that it is made
from are there. -/
theorem densityAt_daily {s : Settings K} (hs : s.hourlyDensity = some hours)
    (hlength : hours.length = hoursPerDay) :
    (∀ x, s.densityAt? x = some (s.densityAt x)) ∧
    (∀ x, s.densityAt (x + hoursPerDay) = s.densityAt x) ∧
    (∀ n : ℤ, hours[(n % hoursPerDay).toNat]? = some (s.densityAt n)) ∧
    (∀ x, ∃ before after, hours[(⌊x⌋ % hoursPerDay).toNat]? = some before ∧
      hours[((⌊x⌋ + 1) % hoursPerDay).toNat]? = some after ∧
      min before after ≤ s.densityAt x ∧ s.densityAt x ≤ max before after) ∧
    ∀ x y, |s.densityAt x - s.densityAt y| ≤ steepest hours * |x - y| := by
  have hcurve : ∀ x, s.densityAt x = interpolated (entryAt hours) x := fun x => by
    unfold densityAt
    rw [hs]
    dsimp only
    rw [if_pos hlength, scheduled_eq hlength]
  refine ⟨s.densityAt?_eq, fun x => ?_, fun n => ?_, fun x => ?_, fun x y => ?_⟩
  · have hentry : ∀ n : ℤ, entryAt hours (n + hoursPerDay) = entryAt hours n :=
      fun n => entryAt_congr (Int.add_emod_right ..)
    rw [hcurve, hcurve]
    unfold interpolated
    rw [Int.floor_add_natCast, Int.fract_add_natCast, hentry, add_right_comm, hentry]
  · rw [getElem?_eq_entryAt hlength, hcurve, interpolated_intCast]
  · rw [hcurve]
    exact ⟨_, _, getElem?_eq_entryAt hlength _, getElem?_eq_entryAt hlength _,
      interpolated_between (entryAt hours) x⟩
  · rw [hcurve, hcurve]
    exact abs_interpolated_sub_le (abs_entryAt_sub_le hours) x y

/-- Settings with a day that is even but for an hour without traffic and a busy one after it. -/
private def busyMorning : Settings Rat :=
  { Settings.standard with hourlyDensity := some (1 :: 1 :: 0 :: 2 :: List.replicate 20 1) }

/-- Two hours after midnight there is no traffic, on the next day as well. In the evening before the
first day it is as at half past three, half the way down from the busy hour to the next one; and the
traffic of the busy hour takes half an hour to come to half of it. -/
theorem densityAt_daily_busyMorning :
    some 0 = some (busyMorning.densityAt ((26 : ℤ) : Rat)) ∧
      busyMorning.densityAt (-41 / 2 + hoursPerDay) = busyMorning.densityAt (-41 / 2) ∧
      busyMorning.densityAt (-41 / 2) ≤ 2 ∧
      |busyMorning.densityAt 3 - busyMorning.densityAt (5 / 2)| ≤ 2 * |3 - 5 / 2| := by
  obtain ⟨-, hdaily, hentry, hbetween, hslow⟩ :=
    densityAt_daily (s := busyMorning) rfl (by decide)
  obtain ⟨before, after, hbefore, hafter, -, hmax⟩ := hbetween (-41 / 2)
  have hsteepest : steepest ((1 :: 1 :: 0 :: 2 :: List.replicate 20 1 : List Rat)) = 2 := by
    decide +kernel
  have hfloor : ⌊(-41 / 2 : Rat)⌋ = -21 := by decide +kernel
  rw [hfloor] at hbefore hafter
  cases hbefore
  cases hafter
  refine ⟨hentry 26, hdaily _, ?_, ?_⟩
  · exact hmax
  · rw [← hsteepest]
    exact hslow _ _

end Settings

end RoadTraffic
