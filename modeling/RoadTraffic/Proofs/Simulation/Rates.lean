import Mathlib.Algebra.Order.Floor.Semiring
import Mathlib.Tactic.Linarith
import RoadTraffic.Proofs.Orchestrator.Reachable
import RoadTraffic.Proofs.Random.Tape
import RoadTraffic.Proofs.Roads.SideBySide
import RoadTraffic.Proofs.Scalar.Rational
import RoadTraffic.Proofs.Settings.Check
import RoadTraffic.Simulation.Basic

/-!
# The rates of the activities

A step of a simulation runs the activities that are due, in their order and each one at most once
(`step_runs`). Which ones these are depends on the lengths of the steps alone, and `schedule` works
it out; the runs of every simulation follow it (`Course.scheduled`).

An activity is due when the time since its last run has come up to its interval, and then counting
begins anew. By how much the last step went beyond the interval is forgotten. So an activity keeps
up with its rate but for the time that is lost in this way (`Course.rates`): where steps do not
divide the interval it falls behind for good.
-/

namespace RoadTraffic

/-- The three activities of a simulation. -/
inductive Activity where
  | tick
  | lookOut
  | update
  deriving DecidableEq

namespace Activity

/-- The activities in the order in which a step runs them. -/
def all : List Activity := [tick, lookOut, update]

/-- The interval of an activity in ms. -/
def interval {α : Type} (s : Settings α) : Activity → Millis
  | tick => s.behaviorInterval
  | lookOut => s.obstacleInterval
  | update => s.updateInterval

theorem all_nodup : all.Nodup := by decide

end Activity

/-- The time since an activity ran. -/
def Elapsed.of {α : Type} (e : Elapsed α) : Activity → Option α
  | .tick => e.tick
  | .lookOut => e.lookOut
  | .update => e.update

/-! ## What changes no settings -/

namespace Session

variable {α ρ : Type} [Scalar α] [RandomSource ρ] {s s' : Session α ρ} {now : Millis}

omit [RandomSource ρ] in
theorem handleEvents_settings (h : Answers s.handleEvents s') :
    s'.world.settings = s.world.settings := by
  refine answers_foldlM (P := fun t => t.world.settings = s.world.settings)
    (fun event _ t t' ht hstep => ?_) rfl h
  rcases handle_cases hstep with ⟨-, rfl⟩ | ⟨key, -, rfl⟩ | ⟨slot, slot', -, -, -, rfl⟩ |
    ⟨key, status, time, slot, -, -, rfl⟩
  · exact ht
  · exact ht
  · exact World.store_settings.trans ht
  · exact World.store_settings.trans ht

theorem setTargets_settings {settings : Settings α} {pairs : List (Slot α ρ × Nat)}
    {w w' : World α ρ} (h : Answers (setTargets settings pairs w) w') :
    w'.settings = w.settings := by
  induction pairs generalizing w with
  | nil => rw [answers_pure h]
  | cons p rest ih =>
    obtain ⟨slot', -, h⟩ := answers_bind h
    exact (ih h).trans World.store_settings

theorem distributeIfDue_settings (h : Answers (s.distributeIfDue now) s') :
    s'.world.settings = s.world.settings := by
  rcases distributeIfDue_cases h with ⟨-, count, after, hafter, rfl⟩ | ⟨-, rfl⟩
  · rcases distributeVehicles_cases hafter with ⟨-, rfl⟩ | ⟨w, hw, rfl⟩
    · rfl
    · exact setTargets_settings hw
  · rfl

theorem tick_settings {outcome : Except DeadEnd Nat} (h : Answers (s.tick now) (outcome, s')) :
    s'.world.settings = s.world.settings := by
  obtain ⟨s₁, s₂, h₁, h₂, h⟩ := tick_cases h
  exact (spawn_persists h).settings.trans
    ((distributeIfDue_settings h₂).trans (handleEvents_settings h₁))

/-- Nothing that is done to a session changes its settings. -/
theorem act_settings {a : Action α} (h : Answers (s.act a) s') :
    s'.world.settings = s.world.settings := by
  cases a with
  | send event => rw [answers_pure h]; rfl
  | setDensity density => rw [answers_pure h, setDensity_world]
  | setHour hour =>
    rw [answers_pure h]
    exact congrArg World.settings setDensity_world
  | tick now =>
    obtain ⟨⟨outcome, after⟩, hafter, rfl⟩ := answers_map h
    exact tick_settings hafter
  | update now =>
    obtain ⟨w, hw, h⟩ := answers_bind h
    rw [answers_pure h]
    exact (World.update_persists hw).settings
  | lookOut now =>
    obtain ⟨w, hw, h⟩ := answers_bind h
    rw [answers_pure h]
    exact (World.lookOut_persists (answers_lift hw)).settings

end Session

namespace Simulation

variable {α ρ : Type} [Scalar α] [RandomSource ρ] {s s' : Simulation α ρ} {dt : α}

/-! ## A step runs what is due -/

/-- Runs an activity, whether it is due or not. -/
def perform (s : Simulation α ρ) : Activity → Logged α (Simulation α ρ)
  | .tick => do
    let (outcome, session) ← s.session.tick s.now
    if let .error cause := outcome then note (.tickFailed s.now cause)
    return { s with session, elapsed := { s.elapsed with tick := some 0 } }
  | .lookOut => do
    let world ← s.session.world.lookOut s.now
    return { s with
      session := { s.session with world }
      elapsed := { s.elapsed with lookOut := some 0 } }
  | .update => do
    let world ← s.session.world.update s.now
    return { s with
      session := { s.session with world }
      elapsed := { s.elapsed with update := some 0 } }

/-- Whether an activity is due. -/
def awaits (s : Simulation α ρ) (a : Activity) : Bool :=
  isDue (a.interval s.session.world.settings) (s.elapsed.of a)

/-- The activities that are due, in their order. -/
def due (s : Simulation α ρ) : List Activity := Activity.all.filter s.awaits

/-- Activities run, one after the other. -/
inductive Runs : List Activity → Simulation α ρ → Simulation α ρ → Prop
  | done (s : Simulation α ρ) : Runs [] s s
  | next {a : Activity} {rest : List Activity} {s t u : Simulation α ρ}
    (h : Answers (s.perform a) t) (hrest : Runs rest t u) : Runs (a :: rest) s u

/-- Runs an activity if it is due. -/
def performIfDue (s : Simulation α ρ) (a : Activity) : Logged α (Simulation α ρ) :=
  if s.awaits a then s.perform a else return s

/-- What a step does when the activities have run. -/
def closeStep (s : Simulation α ρ) : Simulation α ρ :=
  { s with
    session := s.session.takeOverlay.2
    frame := s.frame + 1
    overlay := some s.session.takeOverlay.1 }

theorem step_eq : s.step dt =
    closeStep <$> Activity.all.foldlM performIfDue (s.passTime dt) := by
  have htick : ∀ s : Simulation α ρ, s.runTick = s.performIfDue .tick := by
    intro s
    unfold runTick performIfDue awaits Activity.interval Elapsed.of
    cases isDue s.session.world.settings.behaviorInterval s.elapsed.tick <;> rfl
  have hlookOut : ∀ s : Simulation α ρ, s.runLookOut = s.performIfDue .lookOut := by
    intro s
    unfold runLookOut performIfDue awaits Activity.interval Elapsed.of
    cases isDue s.session.world.settings.obstacleInterval s.elapsed.lookOut <;> rfl
  have hupdate : ∀ s : Simulation α ρ, s.runUpdate = s.performIfDue .update := by
    intro s
    unfold runUpdate performIfDue awaits Activity.interval Elapsed.of
    cases isDue s.session.world.settings.updateInterval s.elapsed.update <;> rfl
  unfold step Activity.all
  simp only [htick, hlookOut, hupdate, List.foldlM_cons, List.foldlM_nil, map_bind,
    bind_pure]
  rfl

/-- What running an activity leaves of a simulation. -/
theorem perform_keeps {a : Activity} (h : Answers (s.perform a) s') :
    s'.session.world.settings = s.session.world.settings ∧
      ∀ b, s'.elapsed.of b = if b = a then some 0 else s.elapsed.of b := by
  cases a with
  | tick =>
    obtain ⟨⟨outcome, session⟩, hsession, h⟩ := answers_bind h
    have hrun : s' = { s with session, elapsed := { s.elapsed with tick := some 0 } } := by
      dsimp only at h
      split at h
      · obtain ⟨-, -, h⟩ := answers_bind h
        exact answers_pure h
      · exact answers_pure h
    rw [hrun]
    exact ⟨Session.tick_settings hsession, fun b => by cases b <;> rfl⟩
  | lookOut =>
    obtain ⟨world, hworld, h⟩ := answers_bind h
    rw [answers_pure h]
    exact ⟨(World.lookOut_persists (answers_lift hworld)).settings, fun b => by cases b <;> rfl⟩
  | update =>
    obtain ⟨world, hworld, h⟩ := answers_bind h
    rw [answers_pure h]
    exact ⟨(World.update_persists hworld).settings, fun b => by cases b <;> rfl⟩

/-- Running activities if they are due is running those that are due to begin with. -/
theorem runs_due {l : List Activity} (hl : l.Nodup) (h : Answers (l.foldlM performIfDue s) s') :
    Runs (l.filter s.awaits) s s' ∧ s'.session.world.settings = s.session.world.settings ∧
      ∀ b, s'.elapsed.of b = if b ∈ l.filter s.awaits then some 0 else s.elapsed.of b := by
  induction l generalizing s with
  | nil =>
    rw [answers_pure h]
    exact ⟨.done s, rfl, fun b => (if_neg List.not_mem_nil).symm⟩
  | cons a l ih =>
    obtain ⟨hnew, hl⟩ := List.nodup_cons.mp hl
    rw [List.foldlM_cons] at h
    obtain ⟨t, ht, h⟩ := answers_bind h
    obtain ⟨hruns, hsettings, helapsed⟩ := ih hl h
    unfold performIfDue at ht
    split at ht
    · next hdue =>
      obtain ⟨hkeeps, hreset⟩ := perform_keeps ht
      -- what is due after this activity was due before it
      have hsame : l.filter t.awaits = l.filter s.awaits := by
        refine List.filter_congr fun b hb => ?_
        have hother : b ≠ a := fun heq => hnew (heq ▸ hb)
        unfold awaits
        rw [hkeeps, hreset, if_neg hother]
      rw [hsame] at hruns helapsed
      rw [List.filter_cons_of_pos hdue]
      refine ⟨.next ht hruns, hsettings.trans hkeeps, fun b => ?_⟩
      rw [helapsed, hreset]
      by_cases hb : b = a <;> simp [hb]
    · next hdue =>
      rw [answers_pure ht] at hruns hsettings helapsed
      rw [List.filter_cons_of_neg hdue]
      exact ⟨hruns, hsettings, helapsed⟩

/-- A step lets time pass and runs the activities that are due then. Their times begin anew, and
those of the others go on. -/
theorem step_runs (h : Answers (s.step dt) s') :
    (∃ u, Runs (s.passTime dt).due (s.passTime dt) u ∧ s' = u.closeStep) ∧
      s'.session.world.settings = s.session.world.settings ∧
      ∀ a, s'.elapsed.of a =
        if a ∈ (s.passTime dt).due then some 0 else (s.elapsed.of a).map (· + dt) := by
  rw [step_eq] at h
  obtain ⟨u, hu, rfl⟩ := answers_map h
  obtain ⟨hruns, hsettings, helapsed⟩ := runs_due Activity.all_nodup hu
  refine ⟨⟨u, hruns, rfl⟩, hsettings, fun a => (helapsed a).trans ?_⟩
  cases a <;> rfl

end Simulation

/-! ## The schedule -/

/-- A step: its length and the activities that it ran. -/
structure Lap (α : Type) where
  dt : α
  ran : List Activity
  deriving DecidableEq

section

variable {α ρ : Type} [Scalar α] [RandomSource ρ]

/-- The time since the last run of an activity, after some steps. The latest step comes first. -/
def waited (a : Activity) : List (Lap α) → Option α
  | [] => none
  | lap :: laps => if a ∈ lap.ran then some 0 else (waited a laps).map (· + lap.dt)

/-- In how many steps an activity ran. -/
def runCount (a : Activity) (laps : List (Lap α)) : Nat := laps.countP (a ∈ ·.ran)

/-- What steps of some lengths run. -/
def schedule (settings : Settings α) : List α → List (Lap α)
  | [] => []
  | dt :: dts =>
    let laps := schedule settings dts
    ⟨dt, Activity.all.filter fun a =>
      Simulation.isDue (a.interval settings) ((waited a laps).map (· + dt))⟩ :: laps

omit [RandomSource ρ] in
/-- A step of the schedule runs what is due after the steps before. -/
theorem schedule_ran {settings : Settings α} {dts : List α} {later earlier : List (Lap α)}
    {lap : Lap α} (h : schedule settings dts = later ++ lap :: earlier) :
    lap.ran = Activity.all.filter fun a =>
      Simulation.isDue (a.interval settings) ((waited a earlier).map (· + lap.dt)) := by
  induction later generalizing dts with
  | nil =>
    cases dts with
    | nil => cases h
    | cons dt dts =>
      cases h
      rfl
  | cons last later ih =>
    cases dts with
    | nil => cases h
    | cons dt dts => exact ih (List.cons.inj h).2

omit [RandomSource ρ] in
theorem mem_ran_iff {settings : Settings α} {dts : List α} {later earlier : List (Lap α)}
    {lap : Lap α} (h : schedule settings dts = later ++ lap :: earlier) (a : Activity) :
    a ∈ lap.ran ↔
      Simulation.isDue (a.interval settings) ((waited a earlier).map (· + lap.dt)) = true := by
  rw [schedule_ran h, List.mem_filter]
  exact and_iff_right (by cases a <;> decide)

/-- A simulation after some steps, with what they have run. Between the steps anything may be done
to the session. -/
inductive Course : List (Lap α) → Simulation α ρ → Prop
  | begun {w : World α ρ} (h : w.SetUp) : Course [] (.ofWorld w)
  | acted {laps : List (Lap α)} {s : Simulation α ρ} {session : Session α ρ}
    {action : Session.Action α} (h : Course laps s)
    (hact : Answers (s.session.act action) session) :
    Course laps { s with session }
  | stepped {laps : List (Lap α)} {s s' : Simulation α ρ} {dt : α} (h : Course laps s)
    (hstep : Answers (s.step dt) s') : Course (⟨dt, (s.passTime dt).due⟩ :: laps) s'

namespace Course

variable {laps : List (Lap α)} {s : Simulation α ρ}

/-- The settings are those that were accepted at the beginning. -/
theorem settings_check (h : Course laps s) : s.session.world.settings.check = .ok () := by
  induction h with
  | begun h => exact (World.setUp_sound h).settings
  | acted h hact ih => rw [← ih]; exact congrArg _ (Session.act_settings hact)
  | stepped h hstep ih => rw [← ih, (Simulation.step_runs hstep).2.1]

/-- The simulation counts the time since the last runs. -/
theorem elapsed (h : Course laps s) (a : Activity) : s.elapsed.of a = waited a laps := by
  induction h with
  | begun h => cases a <;> rfl
  | acted h hact ih => exact ih
  | stepped h hstep ih => rw [(Simulation.step_runs hstep).2.2, ih, waited]

/-- Every simulation follows the schedule for its settings. -/
theorem scheduled (h : Course laps s) :
    laps = schedule s.session.world.settings (laps.map (·.dt)) := by
  induction h with
  | begun h => rfl
  | @acted laps s session action h hact ih =>
    show laps = schedule session.world.settings _
    rw [Session.act_settings hact]
    exact ih
  | @stepped laps s s' dt h hstep ih =>
    rw [List.map_cons, schedule, (Simulation.step_runs hstep).2.1, ← ih]
    have hdue : (s.passTime dt).due = Activity.all.filter fun a =>
        Simulation.isDue (a.interval s.session.world.settings) ((waited a laps).map (· + dt)) := by
      refine List.filter_congr fun a _ => ?_
      rw [← h.elapsed]
      cases a <;> rfl
    rw [hdue]

/-- Steps of the same length lead a course on. -/
theorem steps {dt : α} {n : Nat} {s' : Simulation α ρ} (h : Course laps s)
    (hsteps : Answers (s.steps dt n) s') :
    s'.session.world.settings = s.session.world.settings ∧
      Course (schedule s.session.world.settings (List.replicate n dt ++ laps.map (·.dt))) s' := by
  induction n generalizing laps s with
  | zero =>
    rw [answers_pure hsteps]
    exact ⟨rfl, h.scheduled ▸ h⟩
  | succ n ih =>
    obtain ⟨t, ht, hsteps⟩ := answers_bind hsteps
    have hsettings := (Simulation.step_runs ht).2.1
    obtain ⟨hsame, hcourse⟩ := ih (h.stepped ht) hsteps
    rw [hsettings] at hsame hcourse
    refine ⟨hsame, ?_⟩
    rw [List.replicate_succ', List.append_assoc]
    exact hcourse

end Course

end

/-! ## Keeping up -/

section

variable {K : Type} [Field K]

/-- An interval in s. -/
def seconds (interval : Millis) : K := (interval : K) / ((1000 : Nat) : K)

/-- The length of all steps together. -/
def totalTime : List (Lap K) → K
  | [] => 0
  | lap :: laps => totalTime laps + lap.dt

/-- The time by which the steps that ran an activity again went beyond its interval. -/
def lostTime [Scalar K] (a : Activity) (interval : K) : List (Lap K) → K
  | [] => 0
  | lap :: laps =>
    lostTime a interval laps +
      if a ∈ lap.ran then
        match waited a laps with
        | none => 0
        | some t => t + lap.dt - interval
      else 0

variable [LinearOrder K] [IsStrictOrderedRing K] [Scalar K] [ExactScalar K]
  {settings : Settings K} {a : Activity} {interval : Millis}

omit [Scalar K] [ExactScalar K] in
theorem seconds_pos (h : 0 < interval) : (0 : K) < seconds interval :=
  div_pos (Nat.cast_pos.mpr h) (Nat.cast_pos.mpr (by decide))

/-- Accepted intervals are positive. -/
theorem Activity.interval_pos (h : settings.check = .ok ()) (a : Activity) :
    0 < a.interval settings := by
  obtain ⟨setting, hmem⟩ : ∃ setting, (setting, (Scalar.ofNat (a.interval settings) : K)) ∈
      settings.positives := by
    cases a with
    | tick => exact ⟨.behaviorInterval, by simp [Settings.positives, interval]⟩
    | lookOut => exact ⟨.obstacleInterval, by simp [Settings.positives, interval]⟩
    | update => exact ⟨.updateInterval, by simp [Settings.positives, interval]⟩
  have hpos := (ExactScalar.scalar_lt_iff _ _).mp (Settings.positives_of_check h _ hmem)
  rw [ExactScalar.scalar_ofNat_eq, ExactScalar.ofNat_eq, Nat.cast_zero] at hpos
  exact Nat.cast_pos.mp hpos

theorem isDue_some_iff {t : K} :
    Simulation.isDue interval (some t) = true ↔ seconds interval ≤ t := by
  unfold Simulation.isDue seconds
  rw [decide_eq_true_iff, ExactScalar.scalar_lt_iff, ExactScalar.scalar_div_eq,
    ExactScalar.ofNat_eq, ExactScalar.scalar_ofNat_eq]
  exact not_lt

/-- An activity has fallen behind by what it has lost, and by less than an interval more. -/
structure KeepsUp (a : Activity) (interval : K) (laps : List (Lap K)) : Prop where
  begun : waited a laps = none → laps = []
  soon : (waited a laps).getD 0 < interval
  bound : totalTime laps - lostTime a interval laps ≤
    runCount a laps * interval + (waited a laps).getD 0

omit [LinearOrder K] [IsStrictOrderedRing K] [ExactScalar K] in
/-- A step that runs the activity. -/
theorem laps_ran {lap : Lap K} (h : a ∈ lap.ran) (laps : List (Lap K)) :
    waited a (lap :: laps) = some (Scalar.ofNat 0) ∧
      runCount a (lap :: laps) = runCount a laps + 1 ∧
      totalTime (lap :: laps) = totalTime laps + lap.dt := by
  refine ⟨if_pos h, ?_, rfl⟩
  unfold runCount
  rw [List.countP_cons_of_pos (by simpa using h)]

omit [LinearOrder K] [IsStrictOrderedRing K] [ExactScalar K] in
/-- A step that does not run it. -/
theorem laps_not_ran {lap : Lap K} (h : a ∉ lap.ran) (laps : List (Lap K)) (interval : K) :
    waited a (lap :: laps) = (waited a laps).map (Scalar.add · lap.dt) ∧
      runCount a (lap :: laps) = runCount a laps ∧
      totalTime (lap :: laps) = totalTime laps + lap.dt ∧
      lostTime a interval (lap :: laps) = lostTime a interval laps := by
  refine ⟨if_neg h, ?_, rfl, ?_⟩
  · unfold runCount
    rw [List.countP_cons_of_neg (by simpa using h)]
  · rw [lostTime, if_neg h, add_zero]

theorem KeepsUp.next {laps : List (Lap K)} {lap : Lap K} (h : KeepsUp a (seconds interval) laps)
    (hran : a ∈ lap.ran ↔
      Simulation.isDue interval ((waited a laps).map (Scalar.add · lap.dt)) = true)
    (hdt : lap.dt ≤ seconds interval) (hpos : (0 : K) < seconds interval) :
    KeepsUp a (seconds interval) (lap :: laps) := by
  obtain ⟨hbegun, hsoon, hbound⟩ := h
  have hzero : (Scalar.ofNat 0 : K) = 0 := by rw [ExactScalar.ofNat_eq, Nat.cast_zero]
  cases hwaited : waited a laps with
  | none =>
    -- the activity runs in the very first step
    have hnil := hbegun hwaited
    subst hnil
    have hmem : a ∈ lap.ran := hran.mpr rfl
    obtain ⟨hwaited', hcount, htotal⟩ := laps_ran hmem []
    refine ⟨fun h => ?_, ?_, ?_⟩
    · rw [hwaited'] at h
      cases h
    · rw [hwaited', Option.getD_some, hzero]
      exact hpos
    · rw [hwaited', hcount, htotal, Option.getD_some, hzero, lostTime, if_pos hmem, hwaited]
      simpa [totalTime, lostTime, runCount] using hdt
  | some t =>
    rw [hwaited, Option.map_some, isDue_some_iff, ExactScalar.add_eq] at hran
    rw [hwaited, Option.getD_some] at hsoon hbound
    by_cases hmem : a ∈ lap.ran
    · obtain ⟨hwaited', hcount, htotal⟩ := laps_ran hmem laps
      refine ⟨fun h => ?_, ?_, ?_⟩
      · rw [hwaited'] at h
        cases h
      · rw [hwaited', Option.getD_some, hzero]
        exact hpos
      · rw [hwaited', hcount, htotal, Option.getD_some, hzero, lostTime, if_pos hmem, hwaited]
        push_cast
        linarith
    · obtain ⟨hwaited', hcount, htotal, hlost⟩ := laps_not_ran hmem laps (seconds interval)
      rw [hwaited, Option.map_some, ExactScalar.add_eq] at hwaited'
      have hearly : t + lap.dt < seconds interval := not_le.mp fun hdue => hmem (hran.mpr hdue)
      refine ⟨fun h => ?_, ?_, ?_⟩
      · rw [hwaited'] at h
        cases h
      · rw [hwaited', Option.getD_some]
        exact hearly
      · rw [hwaited', hcount, htotal, hlost, Option.getD_some]
        linarith

/-- Who follows the schedule keeps up with its rate but for what it loses. -/
theorem schedule_keepsUp {settings : Settings K} {dts : List K}
    (hinterval : 0 < a.interval settings)
    (hdts : ∀ dt ∈ dts, dt ≤ seconds (a.interval settings)) :
    KeepsUp a (seconds (a.interval settings)) (schedule settings dts) := by
  have hpos : (0 : K) < seconds (a.interval settings) := seconds_pos hinterval
  induction dts with
  | nil =>
    refine ⟨fun _ => rfl, hpos, ?_⟩
    simp [schedule, waited, totalTime, lostTime, runCount]
  | cons dt dts ih =>
    have hrest := ih fun dt hdt => hdts dt (List.mem_cons_of_mem _ hdt)
    have hlaps : schedule settings (dt :: dts) = [] ++ _ :: schedule settings dts := rfl
    exact hrest.next (mem_ran_iff hlaps a) (hdts dt (List.mem_cons_self ..)) hpos

/-- **Keeping up with the rates.** A step runs the activities that are due, one after the other in
their order, and none of them twice. An activity is due in its first step and whenever the time
since its last run has come up to its interval. If no step is longer than the interval, it has run
once for each interval that has gone by, not counting the time by which the steps that ran it went
beyond the interval. -/
theorem Course.rates [FloorSemiring K] {ρ : Type} [RandomSource ρ] {laps : List (Lap K)}
    {s : Simulation K ρ} (h : Course laps s) :
    (∀ dt s', Answers (s.step dt) s' →
      ∃ u, Simulation.Runs (s.passTime dt).due (s.passTime dt) u ∧ s' = u.closeStep) ∧
    (∀ lap ∈ laps, lap.ran.Sublist Activity.all) ∧
    (∀ later lap earlier, laps = later ++ lap :: earlier → ∀ a, a ∈ lap.ran ↔
      ∀ t, waited a earlier = some t →
        seconds (a.interval s.session.world.settings) ≤ t + lap.dt) ∧
    ∀ a, (∀ lap ∈ laps, lap.dt ≤ seconds (a.interval s.session.world.settings)) →
      ⌊(totalTime laps - lostTime a (seconds (a.interval s.session.world.settings)) laps) /
        seconds (a.interval s.session.world.settings)⌋₊ ≤ runCount a laps := by
  refine ⟨fun dt s' hstep => (Simulation.step_runs hstep).1, fun lap hlap => ?_,
    fun later lap earlier hlaps a => ?_, fun a hdts => ?_⟩
  · obtain ⟨later, earlier, hlaps⟩ := List.append_of_mem hlap
    rw [schedule_ran (h.scheduled.symm.trans hlaps)]
    exact List.filter_sublist
  · rw [mem_ran_iff (h.scheduled.symm.trans hlaps)]
    cases waited a earlier with
    | none => simp [Simulation.isDue]
    | some t =>
      rw [Option.map_some, isDue_some_iff, ExactScalar.scalar_add_eq]
      simp
  · have hinterval := Activity.interval_pos h.settings_check a
    have hkeeps : KeepsUp a (seconds (a.interval s.session.world.settings)) laps := by
      rw [h.scheduled]
      exact schedule_keepsUp hinterval (by simpa using hdts)
    have hpos : (0 : K) < seconds (a.interval s.session.world.settings) := seconds_pos hinterval
    have hlt : totalTime laps - lostTime a (seconds (a.interval s.session.world.settings)) laps <
        (runCount a laps + 1) * seconds (a.interval s.session.world.settings) := by
      have hbound := hkeeps.bound
      have hsoon := hkeeps.soon
      rw [add_mul, one_mul]
      linarith
    refine Nat.le_of_lt_succ ((Nat.floor_lt' (Nat.succ_ne_zero _)).mpr ?_)
    rw [div_lt_iff₀ hpos, Nat.cast_succ]
    exact hlt

end

/-! Steps of 90 ms with intervals of 100 ms, in a world without slots. -/

private def swiftSettings : Settings Rat :=
  { Settings.standard with behaviorInterval := 100, obstacleInterval := 100, updateInterval := 100 }

private def emptyWorld : World Rat (Tape fun _ _ => 0) :=
  ⟨sideBySide, swiftSettings, #[], RandomSource.seeded 0⟩

/-- The simulation after four steps. -/
private def swift : Simulation Rat (Tape fun _ _ => 0) :=
  answerOf ((Simulation.ofWorld emptyWorld).steps (9 / 100) 4) (by decide +kernel)

/-- What the four steps have run: each activity in the first and in the third one. -/
private def swiftLaps : List (Lap Rat) :=
  [⟨9 / 100, []⟩, ⟨9 / 100, Activity.all⟩, ⟨9 / 100, []⟩, ⟨9 / 100, Activity.all⟩]

private theorem swift_course :
    swift.session.world.settings = swiftSettings ∧ Course swiftLaps swift := by
  have hbegun : Course [] (Simulation.ofWorld emptyWorld) :=
    .begun (World.setUp_of_check (by decide +kernel))
  have hsteps : Answers ((Simulation.ofWorld emptyWorld).steps (9 / 100) 4) swift :=
    answers_answerOf _
  obtain ⟨hsettings, hcourse⟩ := hbegun.steps hsteps
  refine ⟨hsettings, ?_⟩
  have hlaps : schedule swiftSettings (List.replicate 4 (9 / 100) ++ []) = swiftLaps := by
    decide +kernel
  rw [← hlaps]
  exact hcourse

/-- Each activity has lost 80 ms in its second run, and it keeps up but for these. -/
theorem rates_swift :
    Course swiftLaps swift ∧ (∀ lap ∈ swiftLaps, 0 < lap.dt ∧ lap.dt ≤ seconds 100) ∧
      ∀ a, lostTime a (seconds 100) swiftLaps = 8 / 100 ∧
        ⌊(totalTime swiftLaps - 8 / 100) / seconds 100⌋₊ ≤ runCount a swiftLaps := by
  obtain ⟨hsettings, hcourse⟩ := swift_course
  have hdts : ∀ lap ∈ swiftLaps, 0 < lap.dt ∧ lap.dt ≤ seconds 100 := by decide +kernel
  refine ⟨hcourse, hdts, fun a => ?_⟩
  have hinterval : a.interval swift.session.world.settings = 100 := by
    rw [hsettings]
    cases a <;> rfl
  have hlost : lostTime a (seconds 100) swiftLaps = 8 / 100 := by
    cases a <;> decide +kernel
  have hrates := (Course.rates hcourse).2.2.2 a
  rw [hinterval, hlost] at hrates
  exact ⟨hlost, hrates fun lap hlap => (hdts lap hlap).2⟩

/-- In 360 ms an activity with an interval of 100 ms may run only twice. -/
theorem rates_behind :
    ∃ (laps : List (Lap Rat)) (s : Simulation Rat (Tape fun _ _ => 0)), Course laps s ∧
      (∀ lap ∈ laps, 0 < lap.dt ∧ lap.dt ≤ seconds 100) ∧
      ∀ a, a.interval s.session.world.settings = 100 ∧ runCount a laps = 2 ∧
        3 ≤ ⌊totalTime laps / seconds 100⌋₊ := by
  obtain ⟨hsettings, hcourse⟩ := swift_course
  refine ⟨swiftLaps, swift, hcourse, by decide +kernel, fun a => ⟨?_, ?_, ?_⟩⟩
  · rw [hsettings]
    cases a <;> rfl
  · cases a <;> decide +kernel
  · exact Nat.le_floor (by decide +kernel)

end RoadTraffic
