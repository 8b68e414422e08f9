import RoadTraffic.Proofs.Vehicle.Patience

/-!
# Vehicles that stand

A vehicle that stands in traffic sounds its horn after a while, and once it has waited for too long
it gives up: it ignores obstacles for ten seconds, and only then a new wait can begin. The vehicle
keeps three times for this, which are set and cleared in different looks. Here they are told by the
looks alone (`Stretch.account`): when a wait began, when the horn was drawn and which looks count.

A `Stretch` is what happens to a vehicle between two placements: its looks, one after another, with
anything in between that leaves its wait alone, such as moving on (`update_wait`). What the vehicle
remembers before each look is an invariant of the stretch (`Recalls`); one look keeps it
(`Recalls.next`), and so it holds before each of them (`Stretch.recalls`).
-/

namespace RoadTraffic

namespace Vehicle

/-- A look at the road and what it leaves the vehicle with. -/
structure Look (α ρ : Type) extends Glance α ρ where
  after : Vehicle α ρ

variable {α ρ : Type} [Scalar α] {m : RoadMap α} {s : Settings α} {around : Surroundings α}
  {now : Millis} {v v' : Vehicle α ρ} {look : Nat → Look α ρ} {n : Nat}

namespace Look

/-- The vehicle is on the road and does not ignore obstacles. -/
def Evaluated (l : Look α ρ) : Prop :=
  l.vehicle.placed = true ∧ ¬ l.time < l.vehicle.wait.ignoresUntil

/-- The vehicle is seen standing. -/
def Standing (l : Look α ρ) : Prop := l.Evaluated ∧ ¬ standingSpeed ≤ l.vehicle.speed.current

/-- The vehicle is seen moving. -/
def Moving (l : Look α ρ) : Prop := l.Evaluated ∧ standingSpeed ≤ l.vehicle.speed.current

/-- The vehicle gives up waiting: from now on it ignores obstacles. -/
def GivesUp (l : Look α ρ) : Prop := l.Evaluated ∧ l.time < l.after.wait.ignoresUntil

/-- No wait goes on after the look. -/
def EndsWait (l : Look α ρ) : Prop := l.Moving ∨ l.GivesUp

instance (l : Look α ρ) : Decidable l.Evaluated := by unfold Evaluated; infer_instance
instance (l : Look α ρ) : Decidable l.Standing := by unfold Standing; infer_instance
instance (l : Look α ρ) : Decidable l.Moving := by unfold Moving; infer_instance
instance (l : Look α ρ) : Decidable l.GivesUp := by unfold GivesUp; infer_instance
instance (l : Look α ρ) : Decidable l.EndsWait := by unfold EndsWait; infer_instance

end Look

/-- From look `i` to look `k` the vehicle is seen standing whenever it is seen. -/
def StandsThrough (look : Nat → Look α ρ) (i k : Nat) : Prop :=
  (look i).Standing ∧ ∀ j, i ≤ j → j ≤ k → (look j).Evaluated → (look j).Standing

/-- The wait at look `k` has begun at look `i`: at the first one at which the vehicle has been seen
standing since a wait ended. -/
structure Waits (look : Nat → Look α ρ) (i k : Nat) : Prop where
  le : i ≤ k
  standing : (look i).Standing
  first : ∀ h < i, (look h).Standing → ∃ j, h ≤ j ∧ j < i ∧ (look j).EndsWait
  lasts : ∀ j, i ≤ j → j < k → ¬ (look j).EndsWait

/-- The horn of the looks from `i` to `k` has been drawn once, at look `i`. -/
structure SoundsOnce [RandomSource ρ] (look : Nat → Look α ρ) (i k : Nat)
    (horn : Interval Millis) : Prop where
  drawn : drawHorn (look i).time (look i).vehicle.random = .ok (horn, (look i).after.random)
  same : ∀ j, i ≤ j → j ≤ k → (look j).after.wait.horn = some horn
  undrawn : ∀ j, i < j → j ≤ k → (look j).after.random = (look j).vehicle.random

/-- What the vehicle recalls when it takes look `k` is what it has been left with. It has not waited
before the first look, and time does not run back. -/
def Follows (look : Nat → Look α ρ) : Nat → Glance α ρ → Prop
  | 0, g => g.vehicle.wait = .over
  | k + 1, g => g.vehicle.wait = (look k).after.wait ∧ (look k).time ≤ g.time

/-- The first `n` looks of a vehicle since it was placed. Whatever else happens in between, the
vehicle is not placed again. -/
def Stretch [RandomSource ρ] (m : RoadMap α) (s : Settings α) (n : Nat)
    (look : Nat → Look α ρ) : Prop :=
  ∀ k < n, Follows look k (look k).toGlance ∧
    Answers ((look k).vehicle.lookOut m s (look k).around (look k).time) (look k).after

/-! ## The wait at a look -/

/-- The beginnings of a wait are told apart by its end. -/
theorem Waits.unique {i i' k : Nat} (h : Waits look i k) (h' : Waits look i' k) : i = i' := by
  -- between two beginnings a wait would have ended
  have hle : ∀ {i i' : Nat}, Waits look i k → Waits look i' k → i' ≤ i := by
    intro i i' h h'
    refine Nat.le_of_not_lt fun hlt => ?_
    obtain ⟨j, hij, hji, hends⟩ := h'.first i hlt h.standing
    exact h.lasts j hij (Nat.lt_of_lt_of_le hji h'.le) hends
  exact Nat.le_antisymm (hle h' h) (hle h h')

theorem Waits.next {i k : Nat} (h : Waits look i k) (hlasts : ¬ (look k).EndsWait) :
    Waits look i (k + 1) where
  le := Nat.le_succ_of_le h.le
  standing := h.standing
  first := h.first
  lasts := by
    intro j hij hjk
    rcases Nat.lt_succ_iff_lt_or_eq.mp hjk with hjk | rfl
    · exact h.lasts j hij hjk
    · exact hlasts

/-- A wait begins when the vehicle is seen standing for the first time. -/
theorem waits_self {k : Nat} (hstanding : (look k).Standing)
    (hfirst : ∀ h < k, (look h).Standing → ∃ j, h ≤ j ∧ j < k ∧ (look j).EndsWait) :
    Waits look k k :=
  ⟨Nat.le_refl k, hstanding, hfirst, fun _ hkj hjk => absurd hjk (Nat.not_lt_of_ge hkj)⟩

variable [RandomSource ρ]

/-! ## A single look -/

theorem drawHorn_bounds {since : Millis} {r r' : ρ} {horn : Interval Millis}
    (h : drawHorn since r = .ok (horn, r')) :
    (since + 3000 ≤ horn.min ∧ horn.min ≤ since + 7000) ∧
      (horn.min + 500 ≤ horn.max ∧ horn.max ≤ horn.min + 1500) := by
  have hdelay := Interval.draw_mem (i := hornDelay) (by decide) (by decide) r
  unfold drawHorn at h
  generalize hornDelay.draw r = first at hdelay h
  rcases first with ⟨delay, r₁⟩
  have hduration := Interval.draw_mem (i := hornDuration) (by decide) (by decide) r₁
  dsimp only at h
  obtain ⟨start, hstart, h⟩ := answers_bind (m := Except Fault) h
  generalize hornDuration.draw r₁ = second at hduration h
  rcases second with ⟨duration, r₂⟩
  dsimp only at h
  obtain ⟨finish, hfinish, h⟩ := answers_bind h
  have hhorn : horn = ⟨start, finish⟩ := congrArg Prod.fst (answers_pure h)
  rw [hhorn, ← later_ok hfinish, ← later_ok hstart]
  exact ⟨⟨Nat.add_le_add_left hdelay.1 _, Nat.add_le_add_left hdelay.2 _⟩,
    ⟨Nat.add_le_add_left hduration.1 _, Nat.add_le_add_left hduration.2 _⟩⟩

/-- The horn for a wait that began at `since`: the one that was drawn for an earlier look, or else
it is drawn now. -/
def HasHorn (since : Millis) (v : Vehicle α ρ) (horn : Interval Millis) (random : ρ) : Prop :=
  (v.wait.horn = some horn ∧ random = v.random) ∨
    (v.wait.horn = none ∧ drawHorn since v.random = .ok (horn, random))

/-- What a look does about the wait of a vehicle that stands. -/
inductive Endures (s : Settings α) (now : Millis) (v : Vehicle α ρ) (random : ρ) (wait : Wait) :
    Prop
  | waits (horn : Interval Millis) (hhorn : HasHorn (v.wait.since.getD now) v horn random)
    (hpatient : ¬ s.patience < now - v.wait.since.getD now)
    (hwait : wait = ⟨some (v.wait.since.getD now), v.wait.ignoresUntil, some horn⟩)
  | givesUp (horn : Interval Millis) (hhorn : HasHorn (v.wait.since.getD now) v horn random)
    (hlost : s.patience < now - v.wait.since.getD now)
    (hwait : wait = ⟨none, now + ignoringTime, some horn⟩)

theorem watchWait_moving (hmoving : standingSpeed ≤ v.speed.current)
    (h : Answers (v.watchWait s now) v') :
    v'.wait = ⟨none, v.wait.ignoresUntil, none⟩ ∧ v'.random = v.random := by
  unfold watchWait at h
  rw [if_pos hmoving] at h
  rw [answers_pure h]
  exact ⟨rfl, rfl⟩

omit [Scalar α] in
/-- What becomes of the wait once the horn is known. -/
theorem endures_of_hasHorn {since : Millis} {horn : Interval Millis} {random : ρ}
    (hsince : since = v.wait.since.getD now) (hhorn : HasHorn since v horn random)
    (h : Answers (show Except Fault (Vehicle α ρ) from do
      let waited ← Millis.since now since
      if s.patience < waited then
        let ignoresUntil ← Millis.later now ignoringTime
        return { v with random, wait := { since := none, ignoresUntil, horn := some horn } }
      else
        return { v with random, wait := { v.wait with since := some since, horn := some horn } })
      v') : Endures s now v v'.random v'.wait := by
  subst hsince
  obtain ⟨waited, hwaited, h⟩ := answers_bind h
  rw [since_ok hwaited] at h
  split at h
  · next hlost =>
    obtain ⟨ignoresUntil, hlater, h⟩ := answers_bind h
    rw [← later_ok hlater] at h
    rw [answers_pure h]
    exact .givesUp horn hhorn hlost rfl
  · next hpatient =>
    rw [answers_pure h]
    exact .waits horn hhorn hpatient rfl

theorem watchWait_standing (hstanding : ¬ standingSpeed ≤ v.speed.current)
    (h : Answers (v.watchWait s now) v') : Endures s now v v'.random v'.wait := by
  unfold watchWait at h
  rw [if_neg hstanding] at h
  dsimp only at h
  split at h
  · next horn hhorn =>
    obtain ⟨drawn, hdrawn, h⟩ := answers_bind h
    cases answers_pure hdrawn
    exact endures_of_hasHorn rfl (Or.inl ⟨hhorn, rfl⟩) h
  · next hnone =>
    obtain ⟨⟨horn, random⟩, hdrawn, h⟩ := answers_bind h
    exact endures_of_hasHorn rfl (Or.inr ⟨hnone, hdrawn⟩) h

/-- What a look does about the wait is what watching it does. -/
theorem lookOut_wait (hplaced : v.placed = true) (hpatient : ¬ now < v.wait.ignoresUntil)
    (h : Answers (v.lookOut m s around now) v') :
    ∃ w, Answers (v.watchWait s now) w ∧ v'.wait = w.wait ∧ v'.random = w.random := by
  rw [lookOut_eq hplaced hpatient] at h
  obtain ⟨w, hw, h⟩ := answers_bind h
  obtain ⟨walker, signal, hlook⟩ := lookAhead_changes (m := m) around.vehicles w
  rw [answers_pure h, hlook]
  exact ⟨w, hw, rfl, rfl⟩

/-- The clock does not keep a vehicle from looking out. -/
theorem lookOut_answers (h : v.ClockFits now) : ∃ v', Answers (v.lookOut m s around now) v' := by
  by_cases hplaced : v.placed = true
  · by_cases hignores : now < v.wait.ignoresUntil
    · exact ⟨_, lookOut_ahead hplaced hignores⟩
    · obtain ⟨w, hw⟩ := watchWait_answers (s := s) h
      rw [lookOut_eq hplaced hignores, hw, ok_bind]
      exact ⟨_, rfl⟩
  · unfold lookOut
    rw [Bool.eq_false_iff.mpr hplaced]
    exact ⟨v, rfl⟩

namespace Look

variable {l : Look α ρ}

/-- What a look does about the wait, for a vehicle that moves, for one that stands and for one that
does not look at the road. -/
theorem cases_of_answers (h : Answers (l.vehicle.lookOut m s l.around l.time) l.after) :
    (l.Moving ∧ l.after.wait = ⟨none, l.vehicle.wait.ignoresUntil, none⟩) ∨
      (l.Standing ∧ Endures s l.time l.vehicle l.after.random l.after.wait) ∨
      (¬ l.Evaluated ∧ l.after.wait = l.vehicle.wait ∧ l.after.random = l.vehicle.random) := by
  by_cases heval : l.Evaluated
  · obtain ⟨w, hw, hwait, hrandom⟩ := lookOut_wait heval.1 heval.2 h
    rw [hwait, hrandom]
    by_cases hmoving : standingSpeed ≤ l.vehicle.speed.current
    · exact Or.inl ⟨⟨heval, hmoving⟩, (watchWait_moving hmoving hw).1⟩
    · exact Or.inr (Or.inl ⟨⟨heval, hmoving⟩, watchWait_standing hmoving hw⟩)
  · refine Or.inr (Or.inr ⟨heval, ?_⟩)
    rcases lookOut_away heval h with hsame | haimed
    · rw [hsame]
      exact ⟨rfl, rfl⟩
    · rw [haimed]
      exact ⟨rfl, rfl⟩

omit [Scalar α] [RandomSource ρ] in
theorem not_givesUp (h : l.after.wait.ignoresUntil = l.vehicle.wait.ignoresUntil) :
    ¬ l.GivesUp := fun hgives => hgives.1.2 (h ▸ hgives.2)

omit [RandomSource ρ] in
theorem not_endsWait (hstanding : l.Standing) (hgives : ¬ l.GivesUp) : ¬ l.EndsWait :=
  fun hends => hends.elim (fun hmoving => hstanding.2 hmoving.2) hgives

omit [RandomSource ρ] in
theorem EndsWait.evaluated (h : l.EndsWait) : l.Evaluated := h.elim And.left And.left

/-- A vehicle gives up if it is seen standing for longer than its patience lasts. -/
theorem givesUp_iff (h : Answers (l.vehicle.lookOut m s l.around l.time) l.after) :
    l.GivesUp ↔ l.Standing ∧ s.patience < l.time - l.vehicle.wait.since.getD l.time := by
  rcases cases_of_answers h with ⟨hmoving, hwait⟩ | ⟨hstanding, hendures⟩ | ⟨haway, hwait, -⟩
  · exact iff_of_false (not_givesUp (by rw [hwait])) fun h => h.1.2 hmoving.2
  · cases hendures with
    | waits horn hhorn hpatient hwait =>
      exact iff_of_false (not_givesUp (by rw [hwait])) fun h => hpatient h.2
    | givesUp horn hhorn hlost hwait =>
      have hgives : l.time < l.after.wait.ignoresUntil := by
        rw [hwait]
        exact Nat.lt_add_of_pos_right (by decide)
      exact iff_of_true ⟨hstanding.1, hgives⟩ ⟨hstanding, hlost⟩
  · exact iff_of_false (fun h => haway h.1) fun h => haway h.1.1

/-- A horn that has been drawn stays the same while the vehicle is not seen moving. -/
theorem keeps_horn {horn : Interval Millis}
    (h : Answers (l.vehicle.lookOut m s l.around l.time) l.after) (hstands : ¬ l.Moving)
    (hhorn : l.vehicle.wait.horn = some horn) :
    l.after.wait.horn = some horn ∧ l.after.random = l.vehicle.random := by
  rcases cases_of_answers h with ⟨hmoving, -⟩ | ⟨-, hendures⟩ | ⟨-, hwait, hrandom⟩
  · exact absurd hmoving hstands
  · have hsame : ∀ {horn'}, HasHorn (l.vehicle.wait.since.getD l.time) l.vehicle horn'
        l.after.random → horn' = horn ∧ l.after.random = l.vehicle.random := by
      rintro horn' (⟨hhorn', hrandom⟩ | ⟨hnone, -⟩)
      · exact ⟨Option.some.inj (hhorn'.symm.trans hhorn), hrandom⟩
      · rw [hhorn] at hnone
        cases hnone
    cases hendures with
    | waits horn' hhorn' hpatient hwait =>
      obtain ⟨rfl, hrandom⟩ := hsame hhorn'
      exact ⟨by rw [hwait], hrandom⟩
    | givesUp horn' hhorn' hlost hwait =>
      obtain ⟨rfl, hrandom⟩ := hsame hhorn'
      exact ⟨by rw [hwait], hrandom⟩
  · exact ⟨by rw [hwait, hhorn], hrandom⟩

/-- A vehicle that is seen standing and has no horn from before draws one. -/
theorem draws_horn (h : Answers (l.vehicle.lookOut m s l.around l.time) l.after)
    (hstanding : l.Standing) (hnone : l.vehicle.wait.horn = none) :
    ∃ horn, drawHorn (l.vehicle.wait.since.getD l.time) l.vehicle.random =
        .ok (horn, l.after.random) ∧ l.after.wait.horn = some horn := by
  rcases cases_of_answers h with ⟨hmoving, -⟩ | ⟨-, hendures⟩ | ⟨haway, -⟩
  · exact absurd hmoving.2 hstanding.2
  · have hdraws : ∀ {horn}, HasHorn (l.vehicle.wait.since.getD l.time) l.vehicle horn
        l.after.random → drawHorn (l.vehicle.wait.since.getD l.time) l.vehicle.random =
          .ok (horn, l.after.random) := by
      rintro horn (⟨hhorn, -⟩ | ⟨-, hdrawn⟩)
      · rw [hnone] at hhorn
        cases hhorn
      · exact hdrawn
    cases hendures with
    | waits horn hhorn hpatient hwait => exact ⟨horn, hdraws hhorn, by rw [hwait]⟩
    | givesUp horn hhorn hlost hwait => exact ⟨horn, hdraws hhorn, by rw [hwait]⟩
  · exact absurd hstanding.1 haway

end Look

/-! ## What a vehicle recalls -/

/-- What the looks before look `k` have left the vehicle with: the beginning of its wait, if one
goes on, and how long it ignores obstacles. It never waits without a horn. -/
structure Recalls (look : Nat → Look α ρ) (k : Nat) (wait : Wait) : Prop where
  waiting : ∀ t, wait.since = some t → ∃ i < k, Waits look i k ∧ (look i).time = t
  resting : wait.since = none →
    ∀ h < k, (look h).Standing → ∃ j, h ≤ j ∧ j < k ∧ (look j).EndsWait
  silent : wait.horn = none → wait.since = none
  ignores : ∀ t, t < wait.ignoresUntil ↔
    ∃ j < k, (look j).GivesUp ∧ t < (look j).time + ignoringTime

omit [RandomSource ρ] in
theorem recalls_over : Recalls look 0 .over where
  waiting := nofun
  resting := fun _ h hlt => absurd hlt (Nat.not_lt_zero h)
  silent := fun _ => rfl
  ignores := fun t => iff_of_false (Nat.not_lt_zero t) fun ⟨j, hj, _⟩ => Nat.not_lt_zero j hj

namespace Recalls

variable {k : Nat}

omit [RandomSource ρ] in
/-- A vehicle that is seen standing waits since the time that it recalls, or from now on. -/
theorem waits (h : Recalls look k (look k).vehicle.wait) (hstanding : (look k).Standing) :
    ∃ i, Waits look i k ∧
      (look i).time = (look k).vehicle.wait.since.getD (look k).time := by
  cases hsince : (look k).vehicle.wait.since with
  | none => exact ⟨k, waits_self hstanding (h.resting hsince), rfl⟩
  | some t =>
    obtain ⟨i, -, hwaits, htime⟩ := h.waiting t hsince
    exact ⟨i, hwaits, htime⟩

omit [RandomSource ρ] in
/-- A look without giving up does not change which times are ignored. -/
theorem ignores_next {wait : Wait} (h : Recalls look k wait) (hgives : ¬ (look k).GivesUp)
    (t : Millis) :
    t < wait.ignoresUntil ↔ ∃ j < k + 1, (look j).GivesUp ∧ t < (look j).time + ignoringTime := by
  rw [h.ignores]
  constructor
  · rintro ⟨j, hj, hj'⟩
    exact ⟨j, Nat.lt_succ_of_lt hj, hj'⟩
  · rintro ⟨j, hj, hgives', ht⟩
    refine ⟨j, Nat.lt_of_le_of_ne (Nat.le_of_lt_succ hj) ?_, hgives', ht⟩
    rintro rfl
    exact hgives hgives'

omit [RandomSource ρ] in
/-- After a look that ends the wait nothing of it is left. -/
theorem resting_next (hends : (look k).EndsWait) :
    ∀ h < k + 1, (look h).Standing → ∃ j, h ≤ j ∧ j < k + 1 ∧ (look j).EndsWait :=
  fun _ hlt _ => ⟨k, Nat.le_of_lt_succ hlt, Nat.lt_succ_self k, hends⟩

/-- A look keeps what the vehicle recalls true to the looks. -/
theorem next (h : Recalls look k (look k).vehicle.wait)
    (hlook : Answers ((look k).vehicle.lookOut m s (look k).around (look k).time) (look k).after) :
    Recalls look (k + 1) (look k).after.wait := by
  rcases Look.cases_of_answers hlook with
    ⟨hmoving, hwait⟩ | ⟨hstanding, hendures⟩ | ⟨haway, hwait, -⟩
  · -- the vehicle moves: no wait is left
    have hgives : ¬ (look k).GivesUp := Look.not_givesUp (by rw [hwait])
    rw [hwait]
    exact ⟨nofun, fun _ => resting_next (Or.inl hmoving), fun _ => rfl, h.ignores_next hgives⟩
  · cases hendures with
    | waits horn hhorn hpatient hwait =>
      -- the wait goes on, or it begins with this look
      have hgives : ¬ (look k).GivesUp := Look.not_givesUp (by rw [hwait])
      obtain ⟨i, hwaits, htime⟩ := h.waits hstanding
      rw [hwait]
      refine ⟨fun t ht => ⟨i, Nat.lt_succ_of_le hwaits.le,
        hwaits.next (Look.not_endsWait hstanding hgives), ?_⟩, nofun, nofun,
        h.ignores_next hgives⟩
      rw [htime]
      exact Option.some.inj ht
    | givesUp horn hhorn hlost hwait =>
      have hgives : (look k).GivesUp := (Look.givesUp_iff hlook).mpr ⟨hstanding, hlost⟩
      rw [hwait]
      refine ⟨nofun, fun _ => resting_next (Or.inr hgives), nofun,
        fun t => ⟨fun ht => ⟨k, Nat.lt_succ_self k, hgives, ht⟩, ?_⟩⟩
      rintro ⟨j, hj, hgives', ht⟩
      rcases Nat.lt_succ_iff_lt_or_eq.mp hj with hj | rfl
      · -- earlier times of ignoring obstacles are over by now
        have hover : ¬ (look k).time < (look j).time + ignoringTime := fun hlt =>
          hstanding.1.2 ((h.ignores _).mpr ⟨j, hj, hgives', hlt⟩)
        exact Nat.lt_of_lt_of_le ht
          (Nat.le_trans (Nat.le_of_not_lt hover) (Nat.le_add_right _ _))
      · exact ht
  · -- the vehicle does not look at the road: nothing changes
    have hlasts : ¬ (look k).EndsWait := fun hends => haway hends.evaluated
    rw [hwait]
    refine ⟨fun t ht => ?_, fun hnone i hi hstanding => ?_, h.silent,
      h.ignores_next fun hgives => haway hgives.1⟩
    · obtain ⟨i, hi, hwaits, htime⟩ := h.waiting t ht
      exact ⟨i, Nat.lt_succ_of_lt hi, hwaits.next hlasts, htime⟩
    · have hik : i < k := by
        refine Nat.lt_of_le_of_ne (Nat.le_of_lt_succ hi) ?_
        rintro rfl
        exact haway hstanding.1
      obtain ⟨j, hij, hjk, hends⟩ := h.resting hnone i hik hstanding
      exact ⟨j, hij, Nat.lt_succ_of_lt hjk, hends⟩

end Recalls

namespace Stretch

/-- Before each look the vehicle recalls the looks before. -/
theorem recalls (h : Stretch m s n look) {k : Nat} (hk : k ≤ n) {g : Glance α ρ}
    (hg : Follows look k g) : Recalls look k g.vehicle.wait := by
  induction k generalizing g with
  | zero =>
    rw [show g.vehicle.wait = .over from hg]
    exact recalls_over
  | succ k ih =>
    obtain ⟨hfollows, hlook⟩ := h k hk
    rw [hg.1]
    exact (ih (Nat.le_of_lt hk) hfollows).next hlook

theorem recalls_look (h : Stretch m s n look) {k : Nat} (hk : k < n) :
    Recalls look k (look k).vehicle.wait :=
  h.recalls (Nat.le_of_lt hk) (h k hk).1

/-- Time does not run back. -/
theorem time_le (h : Stretch m s n look) {k : Nat} (hk : k ≤ n) {g : Glance α ρ}
    (hg : Follows look k g) {i : Nat} (hi : i < k) : (look i).time ≤ g.time := by
  induction k generalizing g with
  | zero => exact absurd hi (Nat.not_lt_zero i)
  | succ k ih =>
    rcases Nat.lt_succ_iff_lt_or_eq.mp hi with hi | rfl
    · exact Nat.le_trans (ih (Nat.le_of_lt hk) (h k hk).1 hi) hg.2
    · exact hg.2

/-- As long as the clock has room, the vehicle can look out once more. -/
theorem answers (h : Stretch m s n look) {g : Glance α ρ} (hg : Follows look n g)
    (hroom : g.time + ignoringTime ≤ Millis.last) :
    ∃ v', Answers (g.vehicle.lookOut m s g.around g.time) v' := by
  refine lookOut_answers ⟨fun since hsince => ?_, hroom⟩
  obtain ⟨i, hi, -, htime⟩ := (h.recalls (Nat.le_refl n) hg).waiting since hsince
  rw [← htime]
  exact h.time_le (Nat.le_refl n) hg hi

/-- Who is seen standing without a horn from before draws one, and keeps it until it is seen
moving. -/
theorem soundsOnce (h : Stretch m s n look) {i k : Nat} (hik : i ≤ k) (hk : k < n)
    (hstands : StandsThrough look i k) (hnone : (look i).vehicle.wait.horn = none) :
    ∃ horn, SoundsOnce look i k horn := by
  induction k, hik using Nat.le_induction with
  | base =>
    obtain ⟨horn, hdrawn, hhorn⟩ := Look.draws_horn (h i hk).2 hstands.1 hnone
    rw [(h.recalls_look hk).silent hnone] at hdrawn
    refine ⟨horn, hdrawn, fun j hij hji => ?_, fun j hij hji => ?_⟩
    · rwa [Nat.le_antisymm hji hij]
    · exact absurd hij (Nat.not_lt_of_ge hji)
  | succ k hik ih =>
    obtain ⟨horn, hdrawn, hsame, hundrawn⟩ := ih (Nat.lt_of_succ_lt hk)
      ⟨hstands.1, fun j hij hjk => hstands.2 j hij (Nat.le_succ_of_le hjk)⟩
    obtain ⟨hfollows, hlook⟩ := h (k + 1) hk
    have hstill : ¬ (look (k + 1)).Moving := fun hmoving =>
      (hstands.2 (k + 1) (Nat.le_succ_of_le hik) (Nat.le_refl _) hmoving.1).2 hmoving.2
    have hhorn : (look (k + 1)).vehicle.wait.horn = some horn := by
      rw [hfollows.1]
      exact hsame k hik (Nat.le_refl k)
    obtain ⟨hhorn', hrandom⟩ := Look.keeps_horn hlook hstill hhorn
    refine ⟨horn, hdrawn, fun j hij hjk => ?_, fun j hij hjk => ?_⟩
    · rcases Nat.le_succ_iff.mp hjk with hjk | rfl
      · exact hsame j hij hjk
      · exact hhorn'
    · rcases Nat.le_succ_iff.mp hjk with hjk | rfl
      · exact hundrawn j hij hjk
      · exact hrandom

/-- The looks that do not count are those within ten seconds after giving up. -/
theorem evaluated_iff (h : Stretch m s n look) {k : Nat} (hk : k < n) :
    (look k).Evaluated ↔ (look k).vehicle.placed = true ∧
      ∀ j < k, (look j).GivesUp → (look j).time + ignoringTime ≤ (look k).time := by
  refine and_congr_right fun _ => ?_
  rw [(h.recalls_look hk).ignores]
  constructor
  · exact fun hpatient j hj hgives => Nat.le_of_not_lt fun hlt => hpatient ⟨j, hj, hgives, hlt⟩
  · rintro hover ⟨j, hj, hgives, hlt⟩
    exact Nat.not_lt_of_ge (hover j hj hgives) hlt

/-- Giving up depends on the beginning of the wait, which is what the vehicle recalls. -/
theorem givesUp_iff_of_waits (h : Stretch m s n look) {i k : Nat} (hk : k < n)
    (hstanding : (look k).Standing) (hwaits : Waits look i k) :
    ((look k).GivesUp ↔ (look i).time + s.patience < (look k).time) ∧
      (¬ (look k).GivesUp → (look k).after.wait.since = some (look i).time) := by
  obtain ⟨i', hwaits', htime⟩ := (h.recalls_look hk).waits hstanding
  rw [hwaits.unique hwaits', htime]
  have hiff := Look.givesUp_iff (h k hk).2
  constructor
  · rw [hiff, and_iff_right hstanding]
    exact Nat.lt_sub_iff_add_lt'
  · intro hgives
    rcases Look.cases_of_answers (h k hk).2 with ⟨hmoving, -⟩ | ⟨-, hendures⟩ | ⟨haway, -⟩
    · exact absurd hmoving.2 hstanding.2
    · cases hendures with
      | waits horn hhorn hpatient hwait => rw [hwait]
      | givesUp horn hhorn hlost hwait => exact absurd (hiff.mpr ⟨hstanding, hlost⟩) hgives
    · exact absurd hstanding.1 haway

/-- **Standing, sounding the horn and giving up.** Whatever is around a vehicle at its looks, and
however fast it is then:
a look counts if the vehicle is on the road and did not give up less than ten seconds before;
if it is seen standing, without a horn left from before, one is drawn for three to seven seconds
later, once for as long as the vehicle is not seen moving, and it sounds for half a second to one
and a half;
when the vehicle is seen moving the horn is gone;
it gives up only when it is seen standing, and then at the first look that comes too long after its
wait began; a wait begins when the vehicle is first seen standing, and after it has been seen moving
or has given up the next one does;
and there can always be one look more, as far as the clock goes. -/
theorem account (h : Stretch m s n look) :
    (∀ k < n, (look k).Evaluated ↔ (look k).vehicle.placed = true ∧
      ∀ j < k, (look j).GivesUp → (look j).time + ignoringTime ≤ (look k).time) ∧
    (∀ i k, i ≤ k → k < n → StandsThrough look i k → (look i).vehicle.wait.horn = none →
      ∃ horn, SoundsOnce look i k horn ∧
        ((look i).time + 3000 ≤ horn.min ∧ horn.min ≤ (look i).time + 7000) ∧
        (horn.min + 500 ≤ horn.max ∧ horn.max ≤ horn.min + 1500)) ∧
    (∀ k < n, (look k).Moving → (look k).after.wait.horn = none) ∧
    (∀ k < n, (look k).GivesUp → (look k).Standing) ∧
    (∀ k < n, (look k).Standing → (∃ i, Waits look i k) ∧ ∀ i, Waits look i k →
      ((look k).GivesUp ↔ (look i).time + s.patience < (look k).time) ∧
        (¬ (look k).GivesUp → (look k).after.wait.since = some (look i).time)) ∧
    (∀ j k, j < k → k < n → (look j).GivesUp → (look k).Standing →
      (∀ i, j < i → i < k → ¬ (look i).Standing) → Waits look k k) ∧
    (∀ g, Follows look n g → g.time + ignoringTime ≤ Millis.last →
      ∃ v', Answers (g.vehicle.lookOut m s g.around g.time) v') := by
  refine ⟨fun k hk => h.evaluated_iff hk, fun i k hik hk hstands hnone => ?_,
    fun k hk hmoving => ?_,
    fun k hk hgives => ((Look.givesUp_iff (h k hk).2).mp hgives).1, fun k hk hstanding => ?_,
    fun j k hjk hk hgives hstanding hbetween => ?_, fun g hg hroom => h.answers hg hroom⟩
  · obtain ⟨horn, hsounds⟩ := h.soundsOnce hik hk hstands hnone
    exact ⟨horn, hsounds, drawHorn_bounds hsounds.drawn⟩
  · rcases Look.cases_of_answers (h k hk).2 with ⟨-, hwait⟩ | ⟨hstanding, -⟩ | ⟨haway, -⟩
    · rw [hwait]
    · exact absurd hmoving.2 hstanding.2
    · exact absurd hmoving.1 haway
  · obtain ⟨i, hwaits, -⟩ := (h.recalls_look hk).waits hstanding
    exact ⟨⟨i, hwaits⟩, fun i hwaits => h.givesUp_iff_of_waits hk hstanding hwaits⟩
  · -- those that were seen standing before were so by the time of giving up
    refine waits_self hstanding fun i hik hstanding' => ⟨j, Nat.le_of_not_lt fun hji => ?_, hjk,
      Or.inr hgives⟩
    exact hbetween i hji hik hstanding'

end Stretch

/-! A vehicle waits close behind another one until it gives up, waits anew and drives on. -/

/-- A vehicle that stands on the first lane. -/
private def ahead : Snapshot Rat := ⟨⟨SlotKey.nth 0, 1⟩, ⟨0⟩, ⟨0, 0, 15⟩, 0, 0, 2, 25⟩

private def arriving : Logged Rat (Except DeadEnd Unit × Vehicle Rat (Tape fun _ _ => 0)) :=
  (Vehicle.new ⟨SlotKey.nth 0, 0⟩ Settings.standard.profile .standard 0).place sideBySide .standard
    ⟨0⟩ 0 false

/-- The vehicle when it has been placed. -/
private def arrived : Vehicle Rat (Tape fun _ _ => 0) :=
  (answerOf arriving (by decide +kernel)).2

/-- The vehicle when it has looked out behind the other one. -/
private def looking (v : Vehicle Rat (Tape fun _ _ => 0)) (now : Millis) :
    Vehicle Rat (Tape fun _ _ => 0) :=
  match v.lookOutBehind .standard ahead now with
  | .ok v' => v'
  | .error _ => v

private theorem lookOut_looking {v : Vehicle Rat (Tape fun _ _ => 0)} {now : Millis}
    (hbehind : v.StandsBehind sideBySide ahead now)
    (hok : (v.lookOutBehind .standard ahead now).isOk = true) :
    Answers (v.lookOut sideBySide .standard ⟨.ofList [ahead], []⟩ now) (looking v now) := by
  rw [lookOut_behind hbehind]
  unfold looking
  cases h : v.lookOutBehind .standard ahead now with
  | ok v' => rfl
  | error fault =>
    rw [h] at hok
    cases hok

/-- The vehicle has come to stand. -/
private def waiting : Vehicle Rat (Tape fun _ _ => 0) := looking arrived 100

/-- The vehicle is out of patience. -/
private def ignoring : Vehicle Rat (Tape fun _ _ => 0) := looking waiting 10200

/-- The vehicle has come to stand again. -/
private def waitingAgain : Vehicle Rat (Tape fun _ _ => 0) := looking ignoring 20200

private def movingOn : Vehicle Rat (Tape fun _ _ => 0) := { waitingAgain with speed := .steady 10 }

/-- The looks of the vehicle; at the third one it ignores the other one. -/
private def looks : Nat → Look Rat (Tape fun _ _ => 0)
  | 0 => ⟨⟨arrived, ⟨.ofList [ahead], []⟩, 100⟩, waiting⟩
  | 1 => ⟨⟨waiting, ⟨.ofList [ahead], []⟩, 10200⟩, ignoring⟩
  | 2 => ⟨⟨ignoring, ⟨.ofList [ahead], []⟩, 20199⟩, ignoring.aim ignoring.maxSpeed
      ignoring.profile.deceleration ignoring.profile.acceleration⟩
  | 3 => ⟨⟨ignoring, ⟨.ofList [ahead], []⟩, 20200⟩, waitingAgain⟩
  | _ => ⟨⟨movingOn, ⟨.ofList [ahead], []⟩, 20300⟩, looking movingOn 20300⟩

private theorem stretch_looks : Stretch sideBySide .standard 5 looks := by
  intro k hk
  match k with
  | 0 =>
    have hover : arrived.wait = .over := by decide +kernel
    exact ⟨hover, lookOut_looking (by decide +kernel) (by decide +kernel)⟩
  | 1 => exact ⟨⟨rfl, by decide⟩, lookOut_looking (by decide +kernel) (by decide +kernel)⟩
  | 2 => exact ⟨⟨rfl, by decide⟩, lookOut_ahead (by decide +kernel) (by decide +kernel)⟩
  | 3 => exact ⟨⟨rfl, by decide⟩, lookOut_looking (by decide +kernel) (by decide +kernel)⟩
  | 4 => exact ⟨⟨rfl, by decide⟩, lookOut_looking (by decide +kernel) (by decide +kernel)⟩

/-- The vehicle gives up at its second look, its third one does not count, at the fourth its next
wait begins, and at the last one its horn, which has been drawn at the first, is gone. -/
theorem waits_behind_obstacle :
    Stretch sideBySide .standard 5 looks ∧ (looks 1).GivesUp ∧ ¬ (looks 2).Evaluated ∧
      Waits looks 3 3 ∧ (∃ horn, SoundsOnce looks 0 3 horn ∧ 3100 ≤ horn.min) ∧
      (looks 4).after.wait.horn = none := by
  obtain ⟨heval, hsounds, hmoves, -, -, hnext, -⟩ := stretch_looks.account
  have hgives : (looks 1).GivesUp := by decide +kernel
  refine ⟨stretch_looks, hgives, fun hlooks => ?_, ?_, ?_, hmoves 4 (by decide) (by decide +kernel)⟩
  · have hover := ((heval 2 (by decide)).mp hlooks).2 1 (by decide) hgives
    exact absurd hover (by decide)
  · refine hnext 1 3 (by decide) (by decide) hgives (by decide +kernel) fun i hi hi' => ?_
    rw [show i = 2 by omega]
    decide +kernel
  · have hthrough : StandsThrough looks 0 3 := by
      refine ⟨by decide +kernel, fun j hj hj' hlooks => ?_⟩
      match j with
      | 0 => decide +kernel
      | 1 => decide +kernel
      | 2 => exact absurd hlooks (by decide +kernel)
      | 3 => decide +kernel
    obtain ⟨horn, hsounds, hbounds, -⟩ :=
      hsounds 0 3 (by decide) (by decide) hthrough (by decide +kernel)
    exact ⟨horn, hsounds, hbounds.1⟩

end Vehicle

end RoadTraffic
