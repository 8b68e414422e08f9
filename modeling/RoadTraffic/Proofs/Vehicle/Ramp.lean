import Mathlib.Algebra.Order.BigOperators.Group.List
import Mathlib.Algebra.Order.Group.MinMax
import RoadTraffic.Proofs.Scalar.Rational
import RoadTraffic.Proofs.Vehicle.SpeedBounds

/-!
# Speeds in stretches of time

A speed that has been given a target approaches a goal at a constant pace: the target, or the limit
where that is lower (`approach`). To go on for one stretch of time and then for another one is to go
on for both at once (`approach_add`), and so it does not matter how often a speed is advanced
(`advanceAll_aim`).

The rate of a speed says less. A limit below the target holds the speed while the rate stays on,
unless a single stretch is so long that the ramp comes to the target, which switches the rate off.
`Approaching` allows for both.
-/

namespace RoadTraffic

open ExactScalar

namespace Speed

section

variable {α : Type} [Scalar α]

/-- The speed after some stretches of time, one after the other. -/
def advanceAll (limit : α) (s : Speed α) (steps : List α) : Speed α :=
  steps.foldl (fun s dt => (s.advance dt limit).2) s

theorem advanceAll_append {limit : α} {s : Speed α} (steps more : List α) :
    s.advanceAll limit (steps ++ more) = (s.advanceAll limit steps).advanceAll limit more :=
  List.foldl_append

theorem advanceAll_target {limit : α} {s : Speed α} (steps : List α) :
    (s.advanceAll limit steps).target = s.target := by
  induction steps generalizing s with
  | nil => rfl
  | cons dt steps ih => exact ih.trans (s.advance_target dt limit)

end

section

variable {K : Type} [Field K] [LinearOrder K] [IsStrictOrderedRing K] {goal c x y : K}

/-- A number that is moved towards a goal by `x`, but not beyond it. -/
def approach (goal x c : K) : K := if c ≤ goal then min (c + x) goal else max (c - x) goal

omit [IsStrictOrderedRing K] in
theorem approach_of_le (h : c ≤ goal) : approach goal x c = min (c + x) goal := if_pos h

theorem approach_of_ge (h : goal ≤ c) (hx : 0 ≤ x) : approach goal x c = max (c - x) goal := by
  rcases eq_or_lt_of_le h with rfl | hlt
  · rw [approach_of_le le_rfl, min_eq_right (le_add_of_nonneg_right hx),
      max_eq_right (sub_le_self goal hx)]
  · exact if_neg (not_le.mpr hlt)

theorem approach_le_goal (h : c ≤ goal) (hx : 0 ≤ x) :
    c ≤ approach goal x c ∧ approach goal x c ≤ goal := by
  rw [approach_of_le h]
  exact ⟨le_min (le_add_of_nonneg_right hx) h, min_le_right _ _⟩

theorem goal_le_approach (h : goal ≤ c) (hx : 0 ≤ x) :
    goal ≤ approach goal x c ∧ approach goal x c ≤ c := by
  rw [approach_of_ge h hx]
  exact ⟨le_max_right _ _, max_le (sub_le_self c hx) h⟩

theorem approach_goal (hx : 0 ≤ x) : approach goal x goal = goal :=
  le_antisymm (approach_le_goal le_rfl hx).2 (goal_le_approach le_rfl hx).1

omit [IsStrictOrderedRing K] in
theorem approach_zero : approach goal 0 c = c := by
  unfold approach
  split
  · next h => rw [add_zero, min_eq_left h]
  · next h => rw [sub_zero, max_eq_left (not_le.mp h).le]

/-- Two moves one after the other are one move. -/
theorem approach_add (hx : 0 ≤ x) (hy : 0 ≤ y) :
    approach goal y (approach goal x c) = approach goal (x + y) c := by
  rcases le_total c goal with h | h
  · rw [approach_of_le h, approach_of_le (min_le_right _ _), approach_of_le h,
      ← min_add_add_right, min_assoc, min_eq_right (le_add_of_nonneg_right hy), add_assoc]
  · rw [approach_of_ge h hx, approach_of_ge (le_max_right _ _) hy,
      approach_of_ge h (add_nonneg hx hy), ← max_sub_sub_right, max_assoc,
      max_eq_right (sub_le_self goal hy), sub_sub]

end

variable {K : Type} [Field K] [LinearOrder K] [IsStrictOrderedRing K] [Scalar K] [ExactScalar K]
  {limit pace dt : K} {s : Speed K}

/-! ## One stretch of time -/

theorem clampTo_of_nonneg {a : K} (ha : 0 ≤ a) : Scalar.clampTo 0 limit a = min a limit := by
  unfold Scalar.clampTo
  simp only [scalar_lt_iff]
  rw [if_neg (not_lt.mpr ha), min_comm, min_def_lt]

/-- A number within zero and a limit that is moved towards a goal comes no further than the
limit. -/
theorem clampTo_approach {goal c x : K} (hgoal : 0 ≤ goal) (hc : 0 ≤ c) (hlimit : c ≤ limit)
    (hx : 0 ≤ x) : Scalar.clampTo 0 limit (approach goal x c) = approach (min goal limit) x c := by
  rcases le_total c goal with h | h
  · rw [clampTo_of_nonneg (hc.trans (approach_le_goal h hx).1), approach_of_le h,
      approach_of_le (le_min h hlimit), min_assoc]
  · have hslower := goal_le_approach h hx
    rw [clampTo_of_nonneg (hgoal.trans hslower.1), min_eq_left (hslower.2.trans hlimit),
      min_eq_left (h.trans hlimit)]

/-- The ramp of a speed without a rate leads nowhere. -/
theorem ramp_of_rest (h : s.rate = 0) (dt : K) : s.ramp dt = s := by
  unfold ramp
  rw [if_pos]
  rw [scalar_le_iff, scalar_le_iff, scalar_ofNat_eq, Nat.cast_zero, h]
  exact ⟨le_rfl, le_rfl⟩

theorem ramp_of_rate (h : s.rate ≠ 0) (dt : K) :
    s.ramp dt =
      if (0 < s.rate ∧ s.target ≤ s.current + s.rate * dt) ∨
        (s.rate < 0 ∧ s.current + s.rate * dt ≤ s.target)
      then { s with current := s.target, rate := 0 }
      else { s with current := s.current + s.rate * dt } := by
  unfold ramp hasReached
  simp only [scalar_le_iff, scalar_lt_iff, scalar_add_eq, scalar_mul_eq, scalar_ofNat_eq,
    Nat.cast_zero]
  rw [if_neg fun hzero => h (le_antisymm hzero.1 hzero.2)]

/-- The ramp of a speed that rises leads up to the target, where it ends. -/
theorem ramp_of_rising (hrate : 0 < s.rate) (dt : K) :
    (s.ramp dt).current = min (s.current + s.rate * dt) s.target ∧
      ((s.ramp dt).rate = s.rate ∨ (s.ramp dt).rate = 0 ∧ (s.ramp dt).current = s.target) := by
  rw [ramp_of_rate hrate.ne']
  split
  · next hreached =>
    rcases hreached with ⟨-, hreached⟩ | ⟨hfalls, -⟩
    · exact ⟨(min_eq_right hreached).symm, Or.inr ⟨rfl, rfl⟩⟩
    · exact absurd hrate (not_lt.mpr hfalls.le)
  · next hbelow =>
    have hbelow : s.current + s.rate * dt ≤ s.target :=
      not_lt.mp fun hbeyond => hbelow (Or.inl ⟨hrate, hbeyond.le⟩)
    exact ⟨(min_eq_left hbelow).symm, Or.inl rfl⟩

/-- The ramp of a speed that falls leads down to the target, where it ends. -/
theorem ramp_of_falling (hrate : s.rate < 0) (dt : K) :
    (s.ramp dt).current = max (s.current + s.rate * dt) s.target ∧
      ((s.ramp dt).rate = s.rate ∨ (s.ramp dt).rate = 0 ∧ (s.ramp dt).current = s.target) := by
  rw [ramp_of_rate hrate.ne]
  split
  · next hreached =>
    rcases hreached with ⟨hrises, -⟩ | ⟨-, hreached⟩
    · exact absurd hrate (not_lt.mpr hrises.le)
    · exact ⟨(max_eq_right hreached).symm, Or.inr ⟨rfl, rfl⟩⟩
  · next habove =>
    have habove : s.target ≤ s.current + s.rate * dt :=
      not_lt.mp fun hbeyond => habove (Or.inr ⟨hrate, hbeyond.le⟩)
    exact ⟨(max_eq_left habove).symm, Or.inl rfl⟩

/-- The speed is on its way at a pace, up or down to its target, or it rests where it can come no
nearer to the target. -/
structure Approaching (limit pace : K) (s : Speed K) : Prop where
  bounded : s.Bounded limit
  heading : (s.rate = pace ∧ s.current ≤ s.target) ∨ (s.rate = -pace ∧ s.target ≤ s.current) ∨
    (s.rate = 0 ∧ s.current = min s.target limit)

/-- Where a speed on its way is after a stretch of time, and that it is still on its way. -/
theorem Approaching.advance (h : s.Approaching limit pace) (hpace : 0 < pace) (hdt : 0 ≤ dt) :
    (s.advance dt limit).2.current = approach (min s.target limit) (pace * dt) s.current ∧
      (s.advance dt limit).2.Approaching limit pace := by
  have hx : 0 ≤ pace * dt := mul_nonneg hpace.le hdt
  have hbounded := h.bounded.advance dt
  have htarget := s.advance_target dt limit
  have hcurrent := advance_current h.bounded.limit_nonneg s dt
  -- the ramp moves the speed towards the target, and the limit takes off what lies beyond it
  have hheld : (s.ramp dt).current = approach s.target (pace * dt) s.current →
      (s.advance dt limit).2.current = approach (min s.target limit) (pace * dt) s.current := by
    intro hramp
    rw [hcurrent, hramp]
    exact clampTo_approach h.bounded.target_nonneg h.bounded.current_nonneg h.bounded.current_le hx
  -- a ramp that has ended at the target leaves the speed as near to it as the limit allows
  have hends : (s.ramp dt).current = s.target →
      (s.advance dt limit).2.current = min (s.advance dt limit).2.target limit := by
    intro hramp
    rw [hcurrent, hramp, htarget]
    exact clampTo_of_nonneg h.bounded.target_nonneg
  rcases h.heading with ⟨hrate, hbelow⟩ | ⟨hrate, habove⟩ | ⟨hrate, hrests⟩
  · obtain ⟨hramp, hend⟩ := ramp_of_rising (hrate.symm ▸ hpace) dt
    have hmoved := hheld (by rw [hramp, hrate, approach_of_le hbelow])
    refine ⟨hmoved, hbounded, ?_⟩
    rcases hend with hon | ⟨hoff, hreached⟩
    · refine Or.inl ⟨hon.trans hrate, ?_⟩
      rw [hmoved, htarget]
      exact (approach_le_goal (le_min hbelow h.bounded.current_le) hx).2.trans (min_le_left _ _)
    · exact Or.inr (Or.inr ⟨hoff, hends hreached⟩)
  · obtain ⟨hramp, hend⟩ := ramp_of_falling (hrate.symm ▸ neg_neg_of_pos hpace) dt
    have hmoved := hheld (by
      rw [hramp, hrate, approach_of_ge habove hx, neg_mul, ← sub_eq_add_neg])
    refine ⟨hmoved, hbounded, ?_⟩
    rcases hend with hon | ⟨hoff, hreached⟩
    · refine Or.inr (Or.inl ⟨hon.trans hrate, ?_⟩)
      have hgoal : min s.target limit = s.target :=
        min_eq_left (habove.trans h.bounded.current_le)
      rw [hmoved, htarget, hgoal]
      exact (goal_le_approach habove hx).1
    · exact Or.inr (Or.inr ⟨hoff, hends hreached⟩)
  · have hramp := ramp_of_rest hrate dt
    have hstays : (s.advance dt limit).2.current = min s.target limit := by
      rw [hcurrent, hramp, hrests, clampTo_of_nonneg (le_min h.bounded.target_nonneg
        h.bounded.limit_nonneg), min_assoc, min_self]
    refine ⟨?_, hbounded, Or.inr (Or.inr ⟨?_, ?_⟩)⟩
    · rw [hstays, hrests, approach_goal hx]
    · change (s.ramp dt).rate = 0
      rw [hramp, hrate]
    · rw [hstays, htarget]

/-! ## Any number of stretches -/

/-- After any number of stretches a speed is where their sum takes it. -/
theorem Approaching.advanceAll (h : s.Approaching limit pace) (hpace : 0 < pace) {steps : List K}
    (hsteps : ∀ dt ∈ steps, 0 ≤ dt) :
    (s.advanceAll limit steps).current =
        approach (min s.target limit) (pace * steps.sum) s.current ∧
      (s.advanceAll limit steps).Approaching limit pace := by
  induction steps generalizing s with
  | nil =>
    rw [List.sum_nil, mul_zero, approach_zero]
    exact ⟨rfl, h⟩
  | cons dt steps ih =>
    obtain ⟨hdt, hsteps⟩ := List.forall_mem_cons.mp hsteps
    obtain ⟨hfirst, hnext⟩ := h.advance hpace hdt
    obtain ⟨hrest, hlast⟩ := ih hnext hsteps
    refine ⟨?_, hlast⟩
    change ((s.advance dt limit).2.advanceAll limit steps).current = _
    rw [hrest, hfirst, advance_target, approach_add (mul_nonneg hpace.le hdt)
      (mul_nonneg hpace.le (List.sum_nonneg hsteps)), List.sum_cons, mul_add]

theorem Approaching.advanceAll_rises (h : s.Approaching limit pace) (hpace : 0 < pace)
    {steps : List K} (hsteps : ∀ dt ∈ steps, 0 ≤ dt) (hbelow : s.current ≤ s.target) :
    s.current ≤ (s.advanceAll limit steps).current ∧
      (s.advanceAll limit steps).current ≤ s.target := by
  have hmoved := approach_le_goal (le_min hbelow h.bounded.current_le)
    (mul_nonneg hpace.le (List.sum_nonneg hsteps))
  rw [(h.advanceAll hpace hsteps).1]
  exact ⟨hmoved.1, hmoved.2.trans (min_le_left _ _)⟩

theorem Approaching.advanceAll_falls (h : s.Approaching limit pace) (hpace : 0 < pace)
    {steps : List K} (hsteps : ∀ dt ∈ steps, 0 ≤ dt) (habove : s.target ≤ s.current) :
    s.target ≤ (s.advanceAll limit steps).current ∧
      (s.advanceAll limit steps).current ≤ s.current := by
  rw [(h.advanceAll hpace hsteps).1, min_eq_left (habove.trans h.bounded.current_le)]
  exact goal_le_approach habove (mul_nonneg hpace.le (List.sum_nonneg hsteps))

/-! ## From a new target on -/

section

variable {deceleration acceleration : K} (target : K)

theorem aim_target : (s.aim target deceleration acceleration).target = max target 0 := by
  show Scalar.max target (@OfNat.ofNat K 0 (Scalar.instOfNat 0)) = max target 0
  rw [scalar_max_eq, scalar_ofNat_eq, Nat.cast_zero]

theorem aim_rate : (s.aim target deceleration acceleration).rate =
    if max target 0 < s.current then -deceleration
    else if s.current < max target 0 then acceleration else 0 := by
  have htarget : (s.aim target deceleration acceleration).target = max target 0 := aim_target target
  rw [← htarget]
  unfold aim
  simp only [scalar_lt_iff, scalar_neg_eq, scalar_ofNat_eq, Nat.cast_zero]

theorem aim_bounded (hnonneg : 0 ≤ s.current) (hlimit : s.current ≤ limit) :
    (s.aim target deceleration acceleration).Bounded limit :=
  ⟨hnonneg, hlimit, (aim_target target).symm ▸ le_max_right target 0⟩

/-- A speed that has nothing to shed approaches its new target with the acceleration. -/
theorem aim_rising (hnonneg : 0 ≤ s.current) (hlimit : s.current ≤ limit)
    (h : s.current ≤ max target 0) :
    (s.aim target deceleration acceleration).Approaching limit acceleration := by
  refine ⟨aim_bounded target hnonneg hlimit, ?_⟩
  rw [aim_rate, aim_target, if_neg (not_lt.mpr h)]
  rcases eq_or_lt_of_le h with hsame | hlt
  · rw [if_neg (not_lt.mpr hsame.ge)]
    exact Or.inr (Or.inr ⟨rfl, hsame.trans (min_eq_left (hsame.ge.trans hlimit)).symm⟩)
  · rw [if_pos hlt]
    exact Or.inl ⟨rfl, h⟩

/-- A speed that has nothing to gain approaches its new target with the deceleration. -/
theorem aim_falling (hnonneg : 0 ≤ s.current) (hlimit : s.current ≤ limit)
    (h : max target 0 ≤ s.current) :
    (s.aim target deceleration acceleration).Approaching limit deceleration := by
  refine ⟨aim_bounded target hnonneg hlimit, ?_⟩
  rw [aim_rate, aim_target]
  rcases eq_or_lt_of_le h with hsame | hlt
  · rw [if_neg (not_lt.mpr hsame.ge), if_neg (not_lt.mpr hsame.le)]
    exact Or.inr (Or.inr ⟨rfl, hsame.symm.trans (min_eq_left (h.trans hlimit)).symm⟩)
  · rw [if_pos hlt]
    exact Or.inr (Or.inl ⟨rfl, h⟩)

end

/-- **Speed does not depend on the frame rate.** A speed within its limit that is given a target and
advanced over any stretches of time, one after the other, is what it would be if it were advanced
over their sum at once. A speed that rises has gained by its acceleration up to the target and the
limit, a speed that falls has shed by its deceleration down to the target. In between it goes
towards the target and does not pass it. -/
theorem advanceAll_aim {deceleration acceleration target : K} {u : Speed K}
    (hu : u = s.aim target deceleration acceleration) (hnonneg : 0 ≤ s.current)
    (hlimit : s.current ≤ limit) (hdeceleration : 0 < deceleration)
    (hacceleration : 0 < acceleration) {steps : List K} (hsteps : ∀ dt ∈ steps, 0 ≤ dt) :
    u.target = max target 0 ∧
    (u.advanceAll limit steps).current = (u.advance steps.sum limit).2.current ∧
    (s.current ≤ u.target →
      (u.advanceAll limit steps).current =
        min (min (s.current + acceleration * steps.sum) u.target) limit) ∧
    (u.target ≤ s.current →
      (u.advanceAll limit steps).current =
        max (s.current - deceleration * steps.sum) u.target) ∧
    ∀ more : List K, (∀ dt ∈ more, 0 ≤ dt) →
      (s.current ≤ u.target →
        (u.advanceAll limit steps).current ≤ (u.advanceAll limit (steps ++ more)).current ∧
        (u.advanceAll limit (steps ++ more)).current ≤ u.target) ∧
      (u.target ≤ s.current →
        u.target ≤ (u.advanceAll limit (steps ++ more)).current ∧
        (u.advanceAll limit (steps ++ more)).current ≤ (u.advanceAll limit steps).current) := by
  have htarget : u.target = max target 0 := hu ▸ aim_target target
  have hcurrent : u.current = s.current := hu ▸ rfl
  have hsum : 0 ≤ steps.sum := List.sum_nonneg hsteps
  have hrises : s.current ≤ u.target → u.Approaching limit acceleration := fun h =>
    hu ▸ aim_rising target hnonneg hlimit (htarget ▸ h)
  have hfalls : u.target ≤ s.current → u.Approaching limit deceleration := fun h =>
    hu ▸ aim_falling target hnonneg hlimit (htarget ▸ h)
  -- what the two directions have in common, with the pace of the direction
  have hone : ∀ pace, 0 < pace → u.Approaching limit pace →
      (u.advanceAll limit steps).current = (u.advance steps.sum limit).2.current := by
    intro pace hpace h
    rw [(h.advanceAll hpace hsteps).1, (h.advance hpace hsum).1]
  refine ⟨htarget, ?_, fun h => ?_, fun h => ?_, fun more hmore => ⟨fun h => ?_, fun h => ?_⟩⟩
  · rcases le_total s.current u.target with h | h
    · exact hone acceleration hacceleration (hrises h)
    · exact hone deceleration hdeceleration (hfalls h)
  · rw [((hrises h).advanceAll hacceleration hsteps).1, hcurrent, approach_of_le (le_min h hlimit),
      min_assoc]
  · rw [((hfalls h).advanceAll hdeceleration hsteps).1, hcurrent, min_eq_left (h.trans hlimit),
      approach_of_ge h (mul_nonneg hdeceleration.le hsum)]
  · have hnow := (hrises h).advanceAll_rises hacceleration hsteps (hcurrent ▸ h)
    have hlater := ((hrises h).advanceAll hacceleration hsteps).2.advanceAll_rises hacceleration
      hmore ((advanceAll_target steps).symm ▸ hnow.2)
    rwa [advanceAll_append, ← advanceAll_target (s := u) steps]
  · have hnow := (hfalls h).advanceAll_falls hdeceleration hsteps (hcurrent ▸ h)
    have hlater := ((hfalls h).advanceAll hdeceleration hsteps).2.advanceAll_falls hdeceleration
      hmore ((advanceAll_target steps).symm ▸ hnow.1)
    rwa [advanceAll_append, ← advanceAll_target (s := u) steps]

/-- A speed of 10 m/s that makes for 20 m/s and may be 15 m/s. -/
private def heldBelow : Speed Rat := (steady 10).aim 20 (85 / 10) (25 / 10)

/-- Second by second or in one stretch, it comes to the limit in four seconds. Only in one stretch
it comes to the target, which switches the rate off. -/
theorem advanceAll_aim_heldBelow :
    (heldBelow.advanceAll 15 [1, 1, 1, 1]).current = 15 ∧
      (heldBelow.advance 4 15).2.current = 15 ∧
      (heldBelow.advanceAll 15 [1]).current ≤ (heldBelow.advanceAll 15 [1, 1, 1, 1]).current ∧
      (heldBelow.advanceAll 15 [1, 1, 1, 1]).rate = 25 / 10 ∧
      (heldBelow.advance 4 15).2.rate = 0 := by
  have hlimit : (steady 10 : Speed Rat).current ≤ 15 := by decide +kernel
  have hsecond : ∀ dt ∈ [(1 : Rat)], 0 ≤ dt := by decide +kernel
  have hseconds : ∀ dt ∈ [(1 : Rat), 1, 1, 1], 0 ≤ dt := by decide +kernel
  have hbelow : (steady 10 : Speed Rat).current ≤ heldBelow.target := by decide +kernel
  have hsum : [(1 : Rat), 1, 1, 1].sum = 4 := by decide +kernel
  have hgoal : min (min ((steady 10 : Speed Rat).current + 25 / 10 * 4) heldBelow.target) 15 =
      15 := by decide +kernel
  obtain ⟨-, hone, hrises, -, -⟩ := advanceAll_aim (u := heldBelow) rfl (by decide +kernel) hlimit
    (by decide +kernel) (by decide +kernel) hseconds
  obtain ⟨-, -, -, -, hway⟩ := advanceAll_aim (u := heldBelow) rfl (by decide +kernel) hlimit
    (by decide +kernel) (by decide +kernel) hsecond
  have hheld := hrises hbelow
  rw [hsum] at hone hheld
  rw [hgoal] at hheld
  exact ⟨hheld, hone.symm.trans hheld, ((hway [1, 1, 1] (by decide +kernel)).1 hbelow).1,
    by decide +kernel, by decide +kernel⟩

end Speed

end RoadTraffic
