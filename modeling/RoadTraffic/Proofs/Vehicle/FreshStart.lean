import RoadTraffic.Proofs.Roads.SideBySide
import RoadTraffic.Proofs.Vehicle.Occupancy
import RoadTraffic.Proofs.Vehicle.TickRate

/-!
# Placed anew

A vehicle that is placed with a speed of its own begins a new life. Of the old one nothing is left
but its profile, its colour and what its two sources of randomness have not given yet
(`place_bare`).

Its name says what slot it belongs to and tells it apart from the others; whatever else happens to
the vehicle happens in the same way under any other name of the slot (`performAll_renamed`), unless
the vehicle of that name is on the road. So two vehicles of different pasts that agree in what is
left are alike from then on (`place_forgets`).
-/

namespace RoadTraffic

namespace Vehicle

variable {α ρ : Type} {id : VehicleId}

/-! ## Names -/

/-- The vehicle under another name. -/
def renamed (id : VehicleId) (v : Vehicle α ρ) : Vehicle α ρ := { v with id }

theorem renamed_walker (v : Vehicle α ρ) : (v.renamed id).walker = v.walker := rfl

theorem renamed_random (v : Vehicle α ρ) : (v.renamed id).random = v.random := rfl

theorem renamed_segment (v : Vehicle α ρ) : (v.renamed id).segment = v.segment := rfl

theorem renamed_wait (v : Vehicle α ρ) : (v.renamed id).wait = v.wait := rfl

theorem renamed_signal (v : Vehicle α ρ) : (v.renamed id).signal = v.signal := rfl

/-- An answer with the vehicle in it under another name. -/
def answerRenamed {β : Type} (id : VehicleId) (answer : β × Vehicle α ρ) : β × Vehicle α ρ :=
  (answer.1, answer.2.renamed id)

/-- The end of a drive with the vehicle under another name. -/
def Drive.renamed (id : VehicleId) : Drive α ρ → Drive α ρ
  | .onSegment v => .onSegment (v.renamed id)
  | .atDeadEnd v => .atDeadEnd (v.renamed id)

variable [Scalar α] [RandomSource ρ] {m : RoadMap α} {s : Settings α} {v : Vehicle α ρ}
  {point : PointId} {now : Millis} {renewed : Bool}

/-! ## What is left of a life -/

/-- The vehicle with nothing but what it keeps when it is placed anew. -/
def bare (v : Vehicle α ρ) : Vehicle α ρ where
  id := v.id
  profile := v.profile
  status := { Status.unknown with color := v.status.color }
  placed := false
  segment := ⟨⟨0⟩, ⟨0⟩, 0, .zero, .zero⟩
  progress := 0
  speed := .stopped
  maxSpeed := 0
  initialMaxSpeed := 0
  protectedUntil := 0
  safetyDistanceSquared := 0
  obstacleDistance := 0
  lastMoved := 0
  walker := v.walker.clear
  random := v.random
  wait := .over
  signal := .off

/-- What is drawn for a vehicle that is renewed and settles does not depend on what it was. -/
theorem renew_settle_bare (now : Millis) (point next : PointId) (walker : Walker ρ) :
    (renew m s point ((enter m point next { v.bare with progress := 0, walker }).fitTangents m) >>=
        settle m s now) =
      renew m s point ((enter m point next { v with progress := 0, walker }).fitTangents m) >>=
        settle m s now := by
  unfold renew
  show (speedFactor s.speedVariation v.random >>= _) >>= _ =
    (speedFactor s.speedVariation v.random >>= _) >>= _
  rcases speedFactor s.speedVariation v.random with fault | ⟨factor, rest⟩
  · rfl
  · rw [ok_bind, ok_bind]
    dsimp only
    show (ite (v.profile.changesColor = true ∧ 1 < v.profile.colors) _ _) >>= _ =
      (ite (v.profile.changesColor = true ∧ 1 < v.profile.colors) _ _) >>= _
    split
    · rfl
    · rfl

/-- Whoever is placed anew is placed as if there had been nothing before. -/
theorem place_bare {next : PointId} {walker : Walker ρ}
    (h : v.walker.clear.tryNext m point = (some next, walker)) :
    v.bare.place m s point now true = v.place m s point now true := by
  have hbare : v.bare.walker.clear.tryNext m point = (some next, walker) := h
  rw [place_renewed hbare, place_renewed h, renew_settle_bare]

/-! ## Motion under another name -/

theorem renew_renamed (v : Vehicle α ρ) :
    (v.renamed id).renew m s point = renamed id <$> v.renew m s point := by
  unfold renew
  rw [map_bind]
  refine bind_congr fun ⟨factor, rest⟩ => ?_
  show ite (v.profile.changesColor = true ∧ 1 < v.profile.colors) _ _ =
    renamed id <$> ite (v.profile.changesColor = true ∧ 1 < v.profile.colors) _ _
  split
  · rfl
  · rfl

theorem settle_renamed (v : Vehicle α ρ) :
    (v.renamed id).settle m s now = renamed id <$> v.settle m s now := by
  unfold settle
  rw [renamed_random]
  rcases s.spawnProtection.draw v.random with ⟨protection, rest⟩
  dsimp only
  rw [map_bind]
  refine bind_congr fun protectedUntil => ?_
  rw [map_bind]
  exact bind_congr fun _ => rfl

theorem place_renamed (v : Vehicle α ρ) :
    (v.renamed id).place m s point now renewed =
      answerRenamed id <$> v.place m s point now renewed := by
  unfold place
  rw [map_bind, renamed_walker]
  refine bind_congr fun _ => ?_
  rcases v.walker.clear.tryNext m point with ⟨_ | next, walker⟩
  · rfl
  dsimp only
  generalize hu : (enter m point next { v with progress := 0, walker }).fitTangents m = u
  have hrenamed : (enter m point next { v.renamed id with progress := 0, walker }).fitTangents m =
      u.renamed id := by
    rw [← hu]
    rfl
  rw [hrenamed]
  have hsettled : ∀ u : Vehicle α ρ, (do
        let settled ← (u.renamed id).settle m s now
        return ((.ok () : Except DeadEnd Unit), settled)) =
      answerRenamed id <$> do
        let settled ← u.settle m s now
        return (.ok (), settled) := by
    intro u
    rw [settle_renamed, map_bind, bind_map_left]
    rfl
  split
  · rw [renew_renamed, map_bind, bind_map_left]
    exact bind_congr fun u => hsettled u
  · exact hsettled u

theorem passSignal_renamed (v : Vehicle α ρ) :
    (v.renamed id).passSignal m point = (v.passSignal m point).renamed id := by
  unfold passSignal
  rw [renamed_signal]
  split
  · show ite (v.signal.remaining - v.segment.length < 0) _ _ =
      renamed id (ite (v.signal.remaining - v.segment.length < 0) _ _)
    split
    · rfl
    · rfl
  · split
    · rfl
    · next j _ =>
      rw [renamed_walker]
      rcases v.walker.takes m j with ⟨taken, walker⟩
      dsimp only
      generalize (if taken = true then some (m.junction j).finish
        else (m.point (m.junction j).start).next) = exit
      split
      · rfl
      · rfl

theorem drive_renamed (v : Vehicle α ρ) (limit : Nat) :
    (v.renamed id).drive m limit = Drive.renamed id <$> v.drive m limit := by
  induction limit generalizing v with
  | zero => rfl
  | succ limit ih =>
    unfold drive
    show ite (v.segment.length < v.progress) _ _ =
      Drive.renamed id <$> ite (v.segment.length < v.progress) _ _
    split
    · rw [renamed_walker, renamed_segment]
      dsimp only
      rcases v.walker.tryNext m v.segment.finish with ⟨_ | next, walker⟩
      · rfl
      · dsimp only
        rw [← ih]
        exact congrArg (fun u => drive m limit (u.enter m v.segment.finish next))
          (passSignal_renamed { v with progress := v.progress - v.segment.length, walker })
    · rfl

/-- Moving on is the same under two names of a slot, which is named when a vehicle restarts. -/
theorem update_renamed (v : Vehicle α ρ) {a b : VehicleId} (hslot : a.slot = b.slot) :
    (v.renamed a).update m s now = answerRenamed a <$> (v.renamed b).update m s now := by
  -- there is one drive, and the vehicle that it ends with bears either name
  have hdrive : ∀ c, ((v.renamed c).depart now).drive m pointLimit =
      Drive.renamed c <$> (v.depart now).drive m pointLimit :=
    fun c => drive_renamed (v.depart now) pointLimit
  unfold update
  show ite (v.placed = true) ((liftM (((v.renamed a).depart now).drive m pointLimit) :
      Logged α (Drive α ρ)) >>= _) _ = answerRenamed a <$> ite (v.placed = true)
    ((liftM (((v.renamed b).depart now).drive m pointLimit) : Logged α (Drive α ρ)) >>= _) _
  split
  · rw [hdrive, hdrive, liftM_map, liftM_map, bind_map_left, bind_map_left, map_bind]
    refine bind_congr fun d => ?_
    cases d with
    | onSegment u => rfl
    | atDeadEnd u =>
      show (note (.restarted a.slot u.segment.finish m.origin) >>= fun _ =>
          liftM ((u.renamed a).place m s m.origin now false)) = answerRenamed a <$>
        (note (.restarted b.slot u.segment.finish m.origin) >>= fun _ =>
          liftM ((u.renamed b).place m s m.origin now false))
      have hplace : (u.renamed a).place m s m.origin now false =
          answerRenamed a <$> (u.renamed b).place m s m.origin now false :=
        place_renamed (u.renamed b)
      rw [hslot, hplace, liftM_map, map_bind]
  · rfl

/-! ## Looking out under another name -/

theorem watchWait_renamed (v : Vehicle α ρ) :
    (v.renamed id).watchWait s now = renamed id <$> v.watchWait s now := by
  unfold watchWait
  show ite (standingSpeed ≤ v.speed.current) _ _ =
    renamed id <$> ite (standingSpeed ≤ v.speed.current) _ _
  split
  · rfl
  · rw [renamed_wait, renamed_random]
    dsimp only
    rcases v.wait.horn with _ | horn
    all_goals
      dsimp only
      rw [map_bind]
      refine bind_congr fun ⟨horn, random⟩ => ?_
      rw [map_bind]
      refine bind_congr fun waited => ?_
      dsimp only
      split
      · rw [map_bind]
        rfl
      · rfl

theorem signalFor_renamed (v : Vehicle α ρ) (ahead : α) :
    (v.renamed id).signalFor m point ahead = (v.signalFor m point ahead).renamed id := by
  unfold signalFor
  split
  · rfl
  · next j _ =>
    rw [renamed_signal, renamed_walker]
    dsimp only
    split
    · rfl
    · rfl

/-- Nobody of a name is seen on the road. -/
def Lacks (id : VehicleId) (vehicles : Occupancy α) : Prop :=
  ∀ p other, vehicles.get? p = some other → other.id ≠ id

section

variable {a b : VehicleId} {vehicles : Occupancy α} (ha : Lacks a vehicles) (hb : Lacks b vehicles)

include ha hb

omit [RandomSource ρ] in
/-- On a road where nobody has either name a vehicle sees the same under both. -/
theorem seenAt_renamed (v : Vehicle α ρ) :
    (v.renamed a).seenAt m vehicles point = (v.renamed b).seenAt m vehicles point := by
  unfold seenAt
  split
  · rfl
  · next other hother =>
    rw [if_neg (show ¬ other.id = (v.renamed a).id from ha point other hother),
      if_neg (show ¬ other.id = (v.renamed b).id from hb point other hother)]
    rfl

theorem lookFrom_renamed (reach : α) (points : Nat) (point : PointId) (ahead bendSpeed : α)
    (v : Vehicle α ρ) :
    lookFrom m vehicles reach points point ahead bendSpeed (v.renamed a) =
      answerRenamed a (lookFrom m vehicles reach points point ahead bendSpeed (v.renamed b)) := by
  induction points generalizing point ahead bendSpeed v with
  | zero => rfl
  | succ points ih =>
    unfold lookFrom
    split
    · rfl
    rw [seenAt_renamed ha hb v]
    split
    · rfl
    rw [signalFor_renamed, signalFor_renamed]
    dsimp only
    rw [renamed_walker, renamed_walker]
    rcases (v.signalFor m point ahead).walker.tryNext m point with ⟨_ | next, walker⟩
    · rfl
    · exact ih next _ _ { v.signalFor m point ahead with walker }

end

omit [RandomSource ρ] in
theorem playerAhead_renamed {players : List (PlayerSnapshot α)} (hslot : id.slot = v.slot) :
    (v.renamed id).playerAhead players = v.playerAhead players := by
  unfold playerAhead
  rw [show (v.renamed id).slot = v.slot from hslot]
  rfl

theorem lookOut_renamed (now : Millis) (v : Vehicle α ρ) {a b : VehicleId}
    {around : Surroundings α} (hslot : a.slot = b.slot) (ha : Lacks a around.vehicles)
    (hb : Lacks b around.vehicles) :
    (v.renamed a).lookOut m s around now = renamed a <$> (v.renamed b).lookOut m s around now := by
  unfold lookOut
  show ite ((!v.placed) = true) _ (ite (now < v.wait.ignoresUntil) _ _) =
    renamed a <$> ite ((!v.placed) = true) _ (ite (now < v.wait.ignoresUntil) _ _)
  split
  · rfl
  split
  · rfl
  rw [watchWait_renamed, watchWait_renamed, bind_map_left, bind_map_left, map_bind]
  refine bind_congr fun u => ?_
  have hahead : (u.renamed a).lookAhead m around.vehicles =
      answerRenamed a ((u.renamed b).lookAhead m around.vehicles) := lookFrom_renamed ha hb ..
  rw [hahead]
  obtain ⟨walker, signal, hseen⟩ := lookAhead_changes (m := m) around.vehicles (u.renamed b)
  rcases hlook : (u.renamed b).lookAhead m around.vehicles with ⟨outlook, w⟩
  rw [hlook] at hseen
  -- players of the vehicle's own slot do not count, and looking ahead has not changed the slot
  have hid : w.id = b := congrArg (·.id) hseen
  have hplayer : (w.renamed a).playerAhead around.players = w.playerAhead around.players :=
    playerAhead_renamed (hslot.trans (congrArg (·.slot) hid.symm))
  show pure ((w.renamed a).heed outlook ((w.renamed a).playerAhead around.players)) = _
  rw [hplayer]
  rfl

/-! ## Lives -/

/-- What can be asked of a vehicle. -/
inductive Request (α : Type) where
  | place (point : PointId) (now : Millis) (renewed : Bool)
  | update (now : Millis)
  | lookOut (around : Surroundings α) (now : Millis)
  | aim (target deceleration acceleration : α)
  | remove

/-- No vehicle of a name is on the road that the vehicle is asked to look at. -/
def Request.Omits (id : VehicleId) : Request α → Prop
  | lookOut around _ => Lacks id around.vehicles
  | _ => True

/-- Does what is asked of a vehicle, and answers what comes of it. -/
def perform (m : RoadMap α) (s : Settings α) :
    Request α → Vehicle α ρ → Logged α (Except DeadEnd Unit × Vehicle α ρ)
  | .place point now renewed, v => v.place m s point now renewed
  | .update now, v => v.update m s now
  | .lookOut around now, v => return (.ok (), ← v.lookOut m s around now)
  | .aim target deceleration acceleration, v =>
    return (.ok (), v.aim target deceleration acceleration)
  | .remove, v => return (.ok (), v.remove)

/-- Does one thing after the other. -/
def performAll (m : RoadMap α) (s : Settings α) :
    List (Request α) → Vehicle α ρ → Logged α (List (Except DeadEnd Unit) × Vehicle α ρ)
  | [], v => return ([], v)
  | request :: requests, v => do
    let (outcome, v) ← v.perform m s request
    let (outcomes, v) ← performAll m s requests v
    return (outcome :: outcomes, v)

theorem perform_renamed (v : Vehicle α ρ) {a b : VehicleId} {request : Request α}
    (hslot : a.slot = b.slot) (ha : request.Omits a) (hb : request.Omits b) :
    (v.renamed a).perform m s request = answerRenamed a <$> (v.renamed b).perform m s request := by
  cases request with
  | place point now renewed =>
    have hplace : (v.renamed a).place m s point now renewed =
        answerRenamed a <$> (v.renamed b).place m s point now renewed :=
      place_renamed (v.renamed b)
    show (liftM ((v.renamed a).place m s point now renewed) : Logged α _) =
      answerRenamed a <$> (liftM ((v.renamed b).place m s point now renewed) : Logged α _)
    rw [hplace, liftM_map]
  | update now => exact update_renamed v hslot
  | lookOut around now =>
    have hlook := lookOut_renamed (m := m) (s := s) now v hslot ha hb
    show ((liftM ((v.renamed a).lookOut m s around now) : Logged α _) >>= _) =
      answerRenamed a <$> ((liftM ((v.renamed b).lookOut m s around now) : Logged α _) >>= _)
    rw [hlook, liftM_map, bind_map_left, map_bind]
    rfl
  | aim target deceleration acceleration => rfl
  | remove => rfl

/-- Whatever happens to a vehicle happens in the same way under another name of its slot. -/
theorem performAll_renamed (v : Vehicle α ρ) {a b : VehicleId} {requests : List (Request α)}
    (hslot : a.slot = b.slot)
    (homits : ∀ request ∈ requests, request.Omits a ∧ request.Omits b) :
    (v.renamed a).performAll m s requests =
      answerRenamed a <$> (v.renamed b).performAll m s requests := by
  induction requests generalizing v with
  | nil => rfl
  | cons request requests ih =>
    obtain ⟨ha, hb⟩ := homits request (List.mem_cons_self ..)
    unfold performAll
    -- the vehicle keeps the name that it had when it was asked
    have hkeeps := perform_renamed (m := m) (s := s) v rfl hb hb
    rw [perform_renamed v hslot ha hb, hkeeps, bind_map_left, bind_map_left, bind_map_left,
      map_bind]
    refine bind_congr fun ⟨outcome, u⟩ => ?_
    have hrest := ih u fun request hrequest => homits request (List.mem_cons_of_mem _ hrequest)
    show ((u.renamed a).performAll m s requests >>= _) =
      answerRenamed a <$> ((u.renamed b).performAll m s requests >>= _)
    rw [hrest, bind_map_left, map_bind]
    rfl

/-- **A vehicle that is placed anew keeps nothing of its past.** Two vehicles of a slot, of whatever
histories, drive with the same profile, have the same colour and are going to draw the same random
words, for themselves and for their ways. Where one of them is placed with a new speed the other one
can be placed as well, and then they are the same vehicle but for their names. They stay that under
everything that happens to both of them, as long as neither of them is on the road for the other. -/
theorem place_forgets {m₁ m₂ : RoadMap α} {s₁ s₂ : Settings α} {v v' w : Vehicle α ρ}
    (hv : Arises m₁ s₁ v) (hw : Arises m₂ s₂ w) (hslot : w.slot = v.slot)
    (hprofile : w.profile = v.profile) (hrandom : w.random = v.random)
    (hwalker : w.walker.random = v.walker.random) (hcolor : w.status.color = v.status.color)
    (h : v.place m s point now true = .ok (.ok (), v')) :
    w.place m s point now true = .ok (.ok (), v'.renamed w.id) ∧
      ∀ requests : List (Request α),
        (∀ request ∈ requests, request.Omits v.id ∧ request.Omits w.id) →
        (v'.renamed w.id).performAll m s requests =
          answerRenamed w.id <$> v'.performAll m s requests := by
  have hclear : w.walker.clear = v.walker.clear := by
    unfold Walker.clear
    rw [Walker.mk.injEq]
    exact ⟨rfl, hw.remembers.trans hv.remembers.symm, hwalker⟩
  have hbare : w.bare = v.bare.renamed w.id := by
    unfold bare renamed
    rw [hprofile, hrandom, hclear, hcolor]
  obtain ⟨next, walker, hnext⟩ :
      ∃ next walker, v.walker.clear.tryNext m point = (some next, walker) := by
    rcases place_ends (show Answers _ _ from h) with
      ⟨-, -, hfailed, -⟩ | ⟨next, walker, -, hnext, -⟩
    · cases hfailed
    · exact ⟨next, walker, hnext⟩
  have hplace : w.place m s point now true = .ok (.ok (), v'.renamed w.id) := by
    rw [← hclear] at hnext
    rw [← place_bare hnext, hbare, place_renamed]
    rw [hclear] at hnext
    rw [place_bare hnext, h]
    rfl
  have hname : v'.renamed v.id = v' := by
    have hsame : v.place m s point now true = answerRenamed v.id <$> v.place m s point now true :=
      place_renamed v
    rw [h] at hsame
    exact (congrArg Prod.snd (Except.ok.inj hsame)).symm
  refine ⟨hplace, fun requests homits => ?_⟩
  have hlife : (v'.renamed w.id).performAll m s requests =
      answerRenamed w.id <$> (v'.renamed v.id).performAll m s requests :=
    performAll_renamed v' hslot fun request hrequest => (homits request hrequest).symm
  rw [hlife, hname]

/-- Settings that leave nothing to chance but the speeds. -/
private def plainSettings : Settings Rat :=
  { Settings.standard with
    safetyDistance := ⟨30, 30⟩
    spawnProtection := ⟨5000, 5000⟩ }

private def newcomer : Vehicle Rat (Tape fun _ _ => 0x80000000) :=
  .new ⟨SlotKey.nth 0, 0⟩ plainSettings.profile plainSettings 0

private def firstLife :
    Logged Rat (Except DeadEnd Unit × Vehicle Rat (Tape fun _ _ => 0x80000000)) :=
  (Vehicle.new ⟨SlotKey.nth 0, 1⟩ plainSettings.profile plainSettings 0).place sideBySide
    plainSettings ⟨2⟩ 0 false

private theorem firstLife_runs : (firstLife #[]).1.isOk = true := by decide +kernel

/-- A vehicle that has been on the road before, on its way to a speed. -/
private def veteran : Vehicle Rat (Tape fun _ _ => 0x80000000) :=
  ((answerOf _ firstLife_runs).2.aim 5 3 2).remove

private def newLife :
    Logged Rat (Except DeadEnd Unit × Vehicle Rat (Tape fun _ _ => 0x80000000)) :=
  newcomer.place sideBySide plainSettings ⟨0⟩ 1000 true

private theorem newLife_runs : (newLife #[]).1.isOk = true := by decide +kernel

/-- The vehicle that has not been on the road before, as it is placed. -/
private def beginner : Vehicle Rat (Tape fun _ _ => 0x80000000) := (answerOf _ newLife_runs).2

/-- A vehicle of another slot that stands on the same lane. -/
private def standing : Snapshot Rat :=
  { { newcomer with id := ⟨SlotKey.nth 1, 0⟩, speed := .stopped }.snapshot with
    position := ⟨0, 0, 50⟩ }

private def toDo : List (Request Rat) :=
  [.lookOut ⟨.ofList [standing], []⟩ 1000, .update 3000]

private theorem toDo_omits : ∀ request ∈ toDo,
    request.Omits newcomer.id ∧ request.Omits veteran.id := by
  intro request hrequest
  unfold toDo at hrequest
  rcases List.mem_pair.mp hrequest with rfl | rfl
  · have hother : ∀ p other, (Occupancy.ofList [standing]).get? p = some other →
        other = standing := by
      intro p other h
      rw [Occupancy.get?_ofList, List.filter_cons] at h
      split at h
      · exact (Option.some.inj h).symm
      · cases h
    exact ⟨fun p other h => by rw [hother p other h]; decide,
      fun p other h => by rw [hother p other h]; decide⟩
  · exact ⟨trivial, trivial⟩

/-- On the road again, the one looks out and drives on as the other one does. -/
theorem place_forgets_first_life :
    veteran.id ≠ newcomer.id ∧ veteran.segment ≠ newcomer.segment ∧
      veteran.place sideBySide plainSettings ⟨0⟩ 1000 true =
        .ok (.ok (), beginner.renamed veteran.id) ∧
      (beginner.renamed veteran.id).performAll sideBySide plainSettings toDo =
        answerRenamed veteran.id <$> beginner.performAll sideBySide plainSettings toDo := by
  have hnewcomer : Arises sideBySide plainSettings newcomer := .begins _ _ _
  have hveteran : Arises sideBySide plainSettings veteran :=
    .removed (.aimed (.placed (.begins _ _ _) (answers_lift (answers_answerOf firstLife_runs)))
      5 3 2)
  have hplaced : Answers (newcomer.place sideBySide plainSettings ⟨0⟩ 1000 true)
      (.ok (), beginner) :=
    answers_lift (answers_of_fst (h := newLife_runs) (by decide +kernel))
  obtain ⟨hplace, hlives⟩ := place_forgets hnewcomer hveteran rfl (by decide +kernel) rfl rfl
    (by decide +kernel) hplaced
  exact ⟨by decide +kernel, by decide +kernel, hplace, hlives toDo toDo_omits⟩

end Vehicle

end RoadTraffic
