import RoadTraffic.Proofs.Vehicle.Ramp
import RoadTraffic.Proofs.Vehicle.Signal

/-!
# Bends ahead

A vehicle looks for bends at the points of its route that it comes to look at (`bendsInSight`), and
makes for the lowest speed of those that it brakes for (`le_lookAhead_bendSpeed_iff`). It brakes for
a bend once the distance to it is needed for braking (`BrakesFor`).

What counts as needed is the distance in which the difference of the two speeds is shed down to
nothing, times a margin. To come from one speed down to another one takes longer, because the
vehicle drives on at the lower speed (`brakesWithin_iff`). The margin makes up for this where the
speed in the bend is low enough, and `bend_in_time_iff` says where that is.
-/

namespace RoadTraffic

open ExactScalar

/-! ## Braking down to a speed -/

namespace Speed

variable {K : Type} [Field K] [LinearOrder K] [IsStrictOrderedRing K] [Scalar K] [ExactScalar K]
  {limit force slower distance : K} {s : Speed K}

/-- Braking at a force a vehicle comes down to a lower speed within a distance. -/
def BrakesWithin (limit force slower distance : K) (s : Speed K) : Prop :=
  ∃ dt, 0 ≤ dt ∧ ((s.aim slower force force).advance dt limit).1 ≤ distance ∧
    ((s.aim slower force force).advance dt limit).2.current ≤ slower

/-- The speed after some time of braking, and the distance that is driven in this time. -/
theorem advance_braking (hnonneg : 0 ≤ slower) (hslower : slower ≤ s.current)
    (hlimit : s.current ≤ limit) (hforce : 0 < force) {dt : K} (hdt : 0 ≤ dt) :
    ((s.aim slower force force).advance dt limit).2.current =
        max (s.current - force * dt) slower ∧
      ((2 : Nat) : K) * ((s.aim slower force force).advance dt limit).1 =
        (s.current + max (s.current - force * dt) slower) * dt := by
  have htarget : max slower 0 = slower := max_eq_left hnonneg
  have hway : (s.aim slower force force).Approaching limit force :=
    aim_falling slower (hnonneg.trans hslower) hlimit (htarget.trans_le hslower)
  have hgoal : min (s.aim slower force force).target limit = slower := by
    rw [aim_target, htarget, min_eq_left (hslower.trans hlimit)]
  have hcurrent := (hway.advance hforce hdt).1
  rw [hgoal, show (s.aim slower force force).current = s.current from rfl,
    approach_of_ge hslower (mul_nonneg hforce.le hdt)] at hcurrent
  refine ⟨hcurrent, ?_⟩
  rw [advance_distance, hcurrent]
  have htwo : ((2 : Nat) : K) ≠ 0 := Nat.cast_ne_zero.mpr two_ne_zero
  rw [Nat.cast_one, ← mul_assoc, ← mul_assoc, mul_one_div_cancel htwo, one_mul]
  rfl

/-- What a vehicle needs to come down to a lower speed is the difference of the squares of the two
speeds, by twice the force. -/
theorem brakesWithin_iff (hnonneg : 0 ≤ slower) (hslower : slower ≤ s.current)
    (hlimit : s.current ≤ limit) (hforce : 0 < force) :
    s.BrakesWithin limit force slower distance ↔
      s.current * s.current - ((2 : Nat) : K) * force * distance ≤ slower * slower := by
  have hsquares : s.current * s.current - slower * slower =
      (s.current + slower) * (s.current - slower) := mul_self_sub_mul_self ..
  have htwo : (0 : K) < ((2 : Nat) : K) := Nat.cast_pos.mpr two_pos
  rw [sub_le_comm, hsquares]
  constructor
  · rintro ⟨dt, hdt, hdistance, hslow⟩
    obtain ⟨hcurrent, hdriven⟩ := advance_braking hnonneg hslower hlimit hforce hdt
    have hreached : s.current - force * dt ≤ slower := (max_le_iff.mp (hcurrent.ge.trans hslow)).1
    rw [max_eq_right hreached] at hdriven
    calc (s.current + slower) * (s.current - slower)
        ≤ (s.current + slower) * (force * dt) :=
          mul_le_mul_of_nonneg_left (sub_le_comm.mp hreached)
            (add_nonneg (hnonneg.trans hslower) hnonneg)
      _ = force * (((2 : Nat) : K) * ((s.aim slower force force).advance dt limit).1) := by
          rw [hdriven]
          ring
      _ ≤ force * (((2 : Nat) : K) * distance) := by gcongr
      _ = ((2 : Nat) : K) * force * distance := by ring
  · intro hfits
    -- the time in which the difference of the speeds is shed
    have hdt : 0 ≤ (s.current - slower) / force := div_nonneg (sub_nonneg.mpr hslower) hforce.le
    have hshed : s.current - force * ((s.current - slower) / force) = slower := by
      rw [mul_div_cancel₀ _ hforce.ne', sub_sub_cancel]
    obtain ⟨hcurrent, hdriven⟩ := advance_braking hnonneg hslower hlimit hforce hdt
    rw [hshed, max_self] at hcurrent hdriven
    refine ⟨_, hdt, ?_, hcurrent.le⟩
    refine le_of_mul_le_mul_left ?_ (mul_pos htwo hforce)
    calc ((2 : Nat) : K) * force *
          ((s.aim slower force force).advance ((s.current - slower) / force) limit).1
        = force * ((s.current + slower) * ((s.current - slower) / force)) := by
          rw [← hdriven]
          ring
      _ = (s.current + slower) * (s.current - slower) := by
          rw [mul_left_comm, mul_div_cancel₀ _ hforce.ne']
      _ ≤ ((2 : Nat) : K) * force * distance := hfits

section

variable {K : Type} [Field K] [LinearOrder K] [IsStrictOrderedRing K] {fast slow margin twice : K}

/-- A margin on the distance in which the difference of two speeds is shed, told by twice the force,
makes up for the speed that is left if and only if the difference times the margin reaches the
sum. -/
theorem margin_makes_up_iff (hslower : slow < fast) (hmargin : 0 ≤ margin) (htwice : 0 < twice) :
    (∀ ahead, 0 ≤ ahead → (fast - slow) * (fast - slow) * margin ≤ twice * ahead →
      fast * fast - twice * ahead ≤ slow * slow) ↔ fast + slow ≤ margin * (fast - slow) := by
  have hdelta : 0 < fast - slow := sub_pos.mpr hslower
  have hsquares : fast * fast - slow * slow ≤ (fast - slow) * (fast - slow) * margin ↔
      fast + slow ≤ margin * (fast - slow) := by
    rw [mul_self_sub_mul_self, mul_assoc, mul_comm (fast - slow) margin, mul_comm (fast + slow),
      mul_le_mul_iff_right₀ hdelta]
  rw [← hsquares]
  constructor
  · intro hall
    -- the margin has to be enough at the very distance that it makes
    have hedge : twice * ((fast - slow) * (fast - slow) * margin / twice) =
        (fast - slow) * (fast - slow) * margin := mul_div_cancel₀ _ htwice.ne'
    have hnow := hall _ (div_nonneg (mul_nonneg (mul_self_nonneg _) hmargin) htwice.le) hedge.ge
    rwa [hedge, sub_le_comm] at hnow
  · intro hmakesUp ahead _ hfar
    rw [sub_le_comm]
    exact hmakesUp.trans hfar

end

end Speed

namespace Vehicle

/-! ## The bends in sight -/

section

variable {α ρ : Type} [Scalar α] {m : RoadMap α} {v : Vehicle α ρ} {point : PointId}

/-- The speed at which a vehicle takes the bend at a point. -/
def speedInBend (m : RoadMap α) (v : Vehicle α ρ) (point : PointId) : α :=
  corneringSpeed (m.point point).radius v.profile.corneringGrip

/-- The deceleration with which a vehicle brakes for a bend. -/
def bendForce (v : Vehicle α ρ) : α := v.profile.deceleration * v.profile.corneringBrake

/-- A vehicle brakes for the bend at a point that lies `ahead` metres before it. -/
def BrakesFor (m : RoadMap α) (v : Vehicle α ρ) (point : PointId) (ahead : α) : Prop :=
  point ≠ v.point ∧ v.speedInBend m point < v.speed.current ∧
    ahead < brakingDistance (v.speed.current - v.speedInBend m point) v.bendForce *
      v.profile.corneringMargin

instance (m : RoadMap α) (v : Vehicle α ρ) (point : PointId) (ahead : α) :
    Decidable (v.BrakesFor m point ahead) := by unfold BrakesFor; infer_instance

theorem bendLimit_eq (point : PointId) (ahead limit : α) :
    v.bendLimit m point ahead limit =
      if v.BrakesFor m point ahead then Scalar.min limit (v.speedInBend m point) else limit := by
  unfold bendLimit
  by_cases hpoint : point = v.point
  · rw [if_pos hpoint, if_neg fun h => h.1 hpoint]
  · rw [if_neg hpoint]
    exact if_congr ⟨fun h => ⟨hpoint, h⟩, fun h => h.2⟩ rfl rfl

variable [RandomSource ρ]

/-- The points at which a vehicle looks for a bend, from a point of its route on, and how far before
each of them it is. -/
def inSight (m : RoadMap α) (vehicles : Occupancy α) (reach : α) :
    Nat → PointId → α → Vehicle α ρ → List (PointId × α)
  | 0, _, _, _ => []
  | points + 1, point, ahead, v =>
    if reach < ahead then []
    else
      match v.seenAt m vehicles point with
      | some _ => []
      | none =>
        let v := v.signalFor m point ahead
        (point, ahead) ::
          match v.walker.tryNext m point with
          | (none, _) => []
          | (some next, walker) =>
            inSight m vehicles reach points next (ahead + m.distance point next) { v with walker }

/-- On an empty road a vehicle sees each point that it comes to. -/
theorem inSight_empty {reach ahead : α} {points : Nat} {point : PointId} (next : PointId)
    (hreach : ¬ reach < ahead)
    (hnext : ((v.signalFor m point ahead).walker.tryNext m point).1 = some next) :
    inSight m .empty reach (points + 1) point ahead v =
      (point, ahead) :: inSight m .empty reach points next (ahead + m.distance point next)
        { v.signalFor m point ahead with
          walker := ((v.signalFor m point ahead).walker.tryNext m point).2 } := by
  rw [inSight, if_neg hreach, seenAt_empty]
  dsimp only
  generalize (v.signalFor m point ahead).walker.tryNext m point = step at hnext ⊢
  rcases step with ⟨after, walker⟩
  obtain rfl : after = some next := hnext
  rfl

/-- The points at which a vehicle that looks ahead looks for a bend. -/
def bendsInSight (m : RoadMap α) (vehicles : Occupancy α) (v : Vehicle α ρ) :
    List (PointId × α) :=
  inSight m vehicles (outlookDistance v.speed.current v.profile.deceleration) outlookPoints
    v.point (-v.progress) v

theorem lookFrom_bendSpeed (vehicles : Occupancy α) (reach : α) (points : Nat) (point : PointId)
    (ahead limit : α) (v : Vehicle α ρ) :
    (lookFrom m vehicles reach points point ahead limit v).1.bendSpeed =
      (inSight m vehicles reach points point ahead v).foldl
        (fun limit p => v.bendLimit m p.1 p.2 limit) limit := by
  induction points generalizing point ahead limit v with
  | zero => rfl
  | succ points ih =>
    unfold lookFrom inSight
    split
    · rfl
    generalize v.seenAt m vehicles point = seen
    cases seen with
    | some other => rfl
    | none =>
      -- the bend limits whatever the vehicle signals or its walker decides
      obtain ⟨walker, signal, hsignal⟩ := signalFor_changes (m := m) (v := v) point ahead
      dsimp only
      rw [hsignal, List.foldl_cons]
      generalize walker.tryNext m point = step
      rcases step with ⟨next, walker'⟩
      cases next with
      | none => rfl
      | some next => exact ih next _ _ { v with walker := walker', signal }

end

/-! ## Which bends are braked for in time -/

variable {K ρ : Type} [Field K] [LinearOrder K] [IsStrictOrderedRing K] [Scalar K] [ExactScalar K]
  {m : RoadMap K} {v : Vehicle K ρ} {point : PointId}

theorem speedInBend_nonneg : 0 ≤ v.speedInBend m point := by
  refine ExactScalar.le_sqrt _ _ le_rfl ?_
  rw [scalar_max_eq, scalar_ofNat_eq, Nat.cast_zero, mul_zero]
  exact le_max_right _ _

theorem le_bendLimit_iff {speed ahead limit : K} :
    speed ≤ v.bendLimit m point ahead limit ↔
      speed ≤ limit ∧ (v.BrakesFor m point ahead → speed ≤ v.speedInBend m point) := by
  rw [bendLimit_eq]
  split
  · next h => rw [scalar_min_eq, le_min_iff, forall_prop_of_true h]
  · next h => rw [and_iff_left fun hbrakes => absurd hbrakes h]

theorem le_foldl_bendLimit_iff {speed limit : K} {bends : List (PointId × K)} :
    speed ≤ bends.foldl (fun limit p => v.bendLimit m p.1 p.2 limit) limit ↔
      speed ≤ limit ∧ ∀ p ∈ bends, v.BrakesFor m p.1 p.2 → speed ≤ v.speedInBend m p.1 := by
  induction bends generalizing limit with
  | nil => simp
  | cons p bends ih => rw [List.foldl_cons, ih, le_bendLimit_iff, List.forall_mem_cons, and_assoc]

/-- A vehicle that looks ahead is to go no faster than in any of the bends that it brakes for, and
nothing else about the bends slows it down. -/
theorem le_lookAhead_bendSpeed_iff [RandomSource ρ] {vehicles : Occupancy K} {speed : K} :
    speed ≤ (v.lookAhead m vehicles).1.bendSpeed ↔
      speed ≤ Scalar.infinity ∧ ∀ p ∈ v.bendsInSight m vehicles,
        v.BrakesFor m p.1 p.2 → speed ≤ v.speedInBend m p.1 := by
  unfold lookAhead bendsInSight
  rw [lookFrom_bendSpeed, le_foldl_bendLimit_iff]

/-- The distance from which on a vehicle brakes for a bend, by twice the force. -/
theorem not_brakesFor_iff (hpoint : point ≠ v.point)
    (hslower : v.speedInBend m point < v.speed.current) (hforce : 0 < v.bendForce) (ahead : K) :
    ¬ v.BrakesFor m point ahead ↔
      (v.speed.current - v.speedInBend m point) * (v.speed.current - v.speedInBend m point) *
          v.profile.corneringMargin ≤ ((2 : Nat) : K) * v.bendForce * ahead := by
  have hneeded : brakingDistance (v.speed.current - v.speedInBend m point) v.bendForce =
      (v.speed.current - v.speedInBend m point) * (v.speed.current - v.speedInBend m point) /
        (((2 : Nat) : K) * v.bendForce) := by
    unfold brakingDistance
    simp only [scalar_le_iff, scalar_mul_eq, scalar_div_eq, scalar_ofNat_eq, Nat.cast_zero]
    rw [if_neg (not_le.mpr hforce)]
  have htwice : 0 < ((2 : Nat) : K) * v.bendForce := mul_pos (Nat.cast_pos.mpr two_pos) hforce
  unfold BrakesFor
  rw [scalar_lt_iff, scalar_lt_iff, scalar_mul_eq, scalar_sub_eq, hneeded, div_mul_eq_mul_div,
    lt_div_iff₀' htwice, ← not_lt]
  exact not_congr ⟨fun h => h.2.2, fun h => ⟨hpoint, hslower, h⟩⟩

/-- **Which bends are noticed in time.** A bend that a vehicle sees and that does not slow it down
is one that it does not brake for yet. From wherever this is so the vehicle can still brake down to
the speed of the bend, if and only if the sum of the two speeds is at most their difference times
the margin. -/
theorem bend_in_time_iff [RandomSource ρ] (hpoint : point ≠ v.point)
    (hslower : v.speedInBend m point < v.speed.current) (hforce : 0 < v.bendForce)
    (hmargin : 0 ≤ v.profile.corneringMargin) :
    (∀ vehicles ahead, (point, ahead) ∈ v.bendsInSight m vehicles →
      v.speedInBend m point < (v.lookAhead m vehicles).1.bendSpeed →
        ¬ v.BrakesFor m point ahead) ∧
    ((∀ ahead, 0 ≤ ahead → ¬ v.BrakesFor m point ahead →
        v.speed.current * v.speed.current - ((2 : Nat) : K) * v.bendForce * ahead ≤
          v.speedInBend m point * v.speedInBend m point) ↔
      v.speed.current + v.speedInBend m point ≤
        v.profile.corneringMargin * (v.speed.current - v.speedInBend m point)) ∧
    ∀ ahead, v.speed.BrakesWithin v.speed.current v.bendForce (v.speedInBend m point) ahead ↔
      v.speed.current * v.speed.current - ((2 : Nat) : K) * v.bendForce * ahead ≤
        v.speedInBend m point * v.speedInBend m point := by
  have hnonneg : 0 ≤ v.speedInBend m point := speedInBend_nonneg
  refine ⟨fun vehicles ahead hsight hfree hbrakes => ?_, ?_, fun ahead =>
    Speed.brakesWithin_iff hnonneg hslower.le le_rfl hforce⟩
  · have hlimit := (le_lookAhead_bendSpeed_iff.mp le_rfl).2 (point, ahead) hsight hbrakes
    exact absurd hlimit (not_le.mpr hfree)
  simp only [not_brakesFor_iff hpoint hslower hforce]
  exact Speed.margin_makes_up_iff hslower hmargin (mul_pos (Nat.cast_pos.mpr two_pos) hforce)

/-! A road that goes straight on and then turns off at a right angle. The points before, in and
behind the bend are the corners of a triangle with sides as 3 to 4 to 5, so that the radius of the
bend is a fraction. -/

/-- The graph of a road of 50 m straight on and a bend, which is wider the longer its side is. -/
private def turnGraph (side : Rat) : RoadBuilder Rat :=
  let sites := [⟨0, 0, 0⟩, ⟨0, 0, 50⟩, ⟨0, 0, 50 + 3 * side⟩, ⟨4 * side, 0, 50 + 3 * side⟩]
  (RoadBuilder.addSpline "turn" (sites.map fun position => ⟨position, 0⟩) false .empty).2

/-- The road that is built from the graph. -/
private def turn (side : Rat) : RoadMap Rat :=
  let points := (turnGraph side).points.map (turnGraph side).measured
  { points
    junctions := (turnGraph side).junctions
    splines := (turnGraph side).splines
    tree := .ofSites (points.toList.map fun p => (p.position, p.id)) }

/-- The side of a bend that is taken at 9.56475 m/s. -/
private def tightSide : Rat := 573885 / 100000

/-- The side of a bend that is taken at twice this speed. -/
private def wideSide : Rat := 4 * tightSide

/-- A vehicle that is placed on the road and moved on to a time. -/
private def movedOnTurn (side : Rat) (point : PointId) (now : Millis) :
    Logged Rat (Bool × Vehicle Rat (Tape fun _ _ => 0)) :=
  (Vehicle.new ⟨SlotKey.nth 0, 0⟩ evenRoadSettings.profile evenRoadSettings 0).placedAndMoved
    (turn side) evenRoadSettings point now

/-- A vehicle that comes along the straight road, 67 m before the tight bend. -/
private def beforeTightBend : Vehicle Rat (Tape fun _ _ => 0) :=
  (answerOf (movedOnTurn tightSide ⟨0⟩ 0) (by decide +kernel)).2

/-- A vehicle that has come as near as 9 m to the wide bend. -/
private def beforeWideBend : Vehicle Rat (Tape fun _ _ => 0) :=
  (answerOf (movedOnTurn wideSide ⟨1⟩ 2700) (by decide +kernel)).2

private theorem tightBend_inSight :
    (⟨2⟩, 1344331 / 20000) ∈ beforeTightBend.bendsInSight (turn tightSide) .empty := by
  unfold bendsInSight outlookPoints
  rw [inSight_empty ⟨1⟩ (by decide +kernel) (by decide +kernel),
    inSight_empty ⟨2⟩ (by decide +kernel) (by decide +kernel),
    inSight_empty ⟨3⟩ (by decide +kernel) (by decide +kernel)]
  refine .tail _ (.tail _ (List.mem_cons.mpr (Or.inl ?_)))
  decide +kernel

private theorem wideBend_inSight :
    (⟨2⟩, 44331 / 5000) ∈ beforeWideBend.bendsInSight (turn wideSide) .empty := by
  unfold bendsInSight outlookPoints
  rw [inSight_empty ⟨2⟩ (by decide +kernel) (by decide +kernel),
    inSight_empty ⟨3⟩ (by decide +kernel) (by decide +kernel)]
  refine .tail _ (List.mem_cons.mpr (Or.inl ?_))
  decide +kernel

/-- Neither bend slows the vehicle down that sees it. -/
private theorem unlimited :
    (beforeTightBend.lookAhead (turn tightSide) .empty).1.bendSpeed = Scalar.infinity ∧
      (beforeWideBend.lookAhead (turn wideSide) .empty).1.bendSpeed = Scalar.infinity := by
  unfold lookAhead
  rw [lookFrom_empty, lookFrom_empty]
  decide +kernel

/-- A bend that is taken at less than half of the speed does not slow the vehicle down yet, and it
can still be taken. -/
theorem bend_in_time_iff_tight :
    beforeTightBend.speedInBend (turn tightSide) ⟨2⟩ < beforeTightBend.speed.current ∧
      (⟨2⟩, 1344331 / 20000) ∈ beforeTightBend.bendsInSight (turn tightSide) .empty ∧
      ¬ beforeTightBend.BrakesFor (turn tightSide) ⟨2⟩ (1344331 / 20000) ∧
      beforeTightBend.speed.current * beforeTightBend.speed.current -
          ((2 : Nat) : Rat) * beforeTightBend.bendForce * (1344331 / 20000) ≤
        beforeTightBend.speedInBend (turn tightSide) ⟨2⟩ *
          beforeTightBend.speedInBend (turn tightSide) ⟨2⟩ ∧
      beforeTightBend.speed.BrakesWithin beforeTightBend.speed.current beforeTightBend.bendForce
        (beforeTightBend.speedInBend (turn tightSide) ⟨2⟩) (1344331 / 20000) := by
  have hpoint : (⟨2⟩ : PointId) ≠ beforeTightBend.point := by decide +kernel
  have hslower : beforeTightBend.speedInBend (turn tightSide) ⟨2⟩ <
      beforeTightBend.speed.current := by decide +kernel
  have hfree : beforeTightBend.speedInBend (turn tightSide) ⟨2⟩ <
      (beforeTightBend.lookAhead (turn tightSide) .empty).1.bendSpeed := by
    rw [unlimited.1]
    decide +kernel
  obtain ⟨hunbraked, hin, hbraking⟩ := bend_in_time_iff hpoint hslower (by decide +kernel)
    (by decide +kernel)
  have hnot := hunbraked .empty _ tightBend_inSight hfree
  have hmakes := hin.mpr (by decide +kernel) _ (by decide +kernel) hnot
  exact ⟨hslower, tightBend_inSight, hnot, hmakes, (hbraking _).mpr hmakes⟩

/-- A bend that is taken at 3 m/s less than the speed is noticed too late. -/
theorem wide_bend_noticed_late :
    (turnGraph wideSide).build = .ok (turn wideSide) ∧ evenRoadSettings.check = .ok () ∧
      Driving (turn wideSide) evenRoadSettings beforeWideBend ∧
      0 ≤ beforeWideBend.speedInBend (turn wideSide) ⟨2⟩ ∧
      beforeWideBend.speedInBend (turn wideSide) ⟨2⟩ < beforeWideBend.speed.current ∧
      0 < beforeWideBend.bendForce ∧ 1 ≤ beforeWideBend.profile.corneringMargin ∧
      (⟨2⟩, 44331 / 5000) ∈ beforeWideBend.bendsInSight (turn wideSide) .empty ∧
      (beforeWideBend.lookAhead (turn wideSide) .empty).1.bendSpeed = Scalar.infinity ∧
      brakingDistance
          (beforeWideBend.speed.current - beforeWideBend.speedInBend (turn wideSide) ⟨2⟩)
          beforeWideBend.bendForce * beforeWideBend.profile.corneringMargin ≤ 44331 / 5000 ∧
      ¬ beforeWideBend.speed.current * beforeWideBend.speed.current -
          2 * beforeWideBend.bendForce * (44331 / 5000) ≤
        beforeWideBend.speedInBend (turn wideSide) ⟨2⟩ *
          beforeWideBend.speedInBend (turn wideSide) ⟨2⟩ :=
  ⟨RoadMap.ofParts_eq_ok.mpr ⟨by decide +kernel, rfl⟩, by decide +kernel,
    driving_of_placedAndMoved rfl _ (by decide +kernel), by decide +kernel,
    by decide +kernel, by decide +kernel, by decide +kernel, wideBend_inSight, unlimited.2,
    by decide +kernel, by decide +kernel⟩

end Vehicle

end RoadTraffic
