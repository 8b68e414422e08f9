import RoadTraffic.Orchestrator.SpawnPoint
import RoadTraffic.Proofs.Journal.Answers
import RoadTraffic.Proofs.Random.Bounds
import RoadTraffic.Proofs.Random.Tape
import RoadTraffic.Proofs.Roads.Lanes
import RoadTraffic.Proofs.Roads.SideBySide

/-!
# The lane that a vehicle appears on

The search for a place to appear tests points until it meets a safe one (`safePlace`), and then any
lane beside that point is drawn, without another test. So a point that is found has a way on and is
a lane of a safe place (`find_lane`), but it need not be safe itself: every lane of the place can be
drawn, whatever the tape was on which the place was found (`exists_drawLane`, `safePlace_splice`).
`find_isSafe_iff` puts both together.
-/

namespace RoadTraffic

namespace SpawnPoint

section

variable {α ρ : Type} [Scalar α] [RandomSource ρ] {m : RoadMap α} {s : Settings α}
  {player : Player α} {vehicles : List (Snapshot α)} {players : List (Vec3 α)}

/-! ## The place before the lane -/

/-- What is drawn for a walk: its length in points and the seed of its decisions. -/
def drawWalk (s : Settings α) (r : ρ) : (Nat × UInt64) × ρ :=
  let (points, r) := s.spawnDistance.draw r
  let (seed, r) := RandomSource.longWord r
  ((points, seed), r)

/-- The first safe point on a walk from the point nearest to the player. -/
def placeOn (ρ : Type) [RandomSource ρ] (m : RoadMap α) (player : Player α)
    (safe : PointId → Bool) (nearest : PointId) (walk : Nat × UInt64) :
    Except Fault (Option PointId) := do
  let length ← walkLength (decide (0 ≤ (m.forward nearest).dot player.status.velocity)) walk.1
  match (Walker.forgetful walk.2 : Walker ρ).traverse m nearest length with
  | (none, _) => return none
  | (some start, w) => return search m safe maxSteps start w

/-- The safe point that a vehicle would appear beside, and what is left of the source then. -/
def safePlace (m : RoadMap α) (s : Settings α) (player : Player α) (vehicles : List (Snapshot α))
    (players : List (Vec3 α)) (r : ρ) : Except Fault (Option PointId × ρ) :=
  match m.nearest? player.status.position with
  | none => .ok (none, r)
  | some (nearest, distanceSquared) =>
    if Scalar.square s.roadReach < distanceSquared then .ok (none, r)
    else
      (placeOn ρ m player (isSafe m s vehicles players) nearest (drawWalk s r).1).map
        fun place => (place, (drawWalk s r).2)

/-- A lane of a place, unless the way ends there. -/
def appearOn (m : RoadMap α) : Option PointId × ρ → Option PointId × ρ
  | (none, r) => (none, r)
  | (some place, r) =>
    let (lane, r) := drawLane m place r
    ((m.point lane).next.map fun _ => lane, r)

theorem find_eq (r : ρ) : find m s player vehicles players r =
    (safePlace m s player vehicles players r).map (appearOn m) := by
  unfold find safePlace
  cases m.nearest? player.status.position with
  | none => rfl
  | some found =>
    dsimp only
    split
    · rfl
    · unfold placeOn drawWalk
      dsimp only
      cases walkLength _ _ with
      | error fault => rfl
      | ok length =>
        rw [ok_bind, ok_bind]
        rcases Walker.traverse m found.1 length _ with ⟨_ | start, w⟩
        · rfl
        · dsimp only
          cases search m (isSafe m s vehicles players) maxSteps start w with
          | none => rfl
          | some place => rfl

theorem search_isSafe {safe : PointId → Bool} {steps : Nat} {start place : PointId}
    {w : Walker ρ} (h : search m safe steps start w = some place) : safe place = true := by
  induction steps generalizing start w with
  | zero =>
    unfold search at h
    split at h
    · next hsafe =>
      cases h
      exact hsafe
    · cases h
  | succ steps ih =>
    unfold search at h
    split at h
    · next hsafe =>
      cases h
      exact hsafe
    · split at h
      · exact ih h
      · cases h

theorem safePlace_isSafe {place : PointId} {r r' : ρ}
    (h : Answers (safePlace m s player vehicles players r) (some place, r')) :
    isSafe m s vehicles players place = true := by
  unfold safePlace at h
  split at h
  · cases h
  · split at h
    · cases h
    · obtain ⟨found, hfound, heq⟩ := answers_map h
      cases heq
      unfold placeOn at hfound
      obtain ⟨length, -, hfound⟩ := answers_bind hfound
      split at hfound
      · cases hfound
      · exact search_isSafe (answers_pure hfound).symm

/-! ## The lane -/

theorem drawLane_mem (place : PointId) (r : ρ) : (drawLane m place r).1 ∈ m.lanes place := by
  -- a place has a lane, so that the draw is one of a number that there is
  have hlength : 0 < (m.lanes place).length :=
    List.length_pos_of_mem (RoadMap.mem_lanes place)
  have hle := RoadMap.lanes_length_le (m := m) place
  have hsmall : (m.lanes place).length - 1 < Nat.pow 2 64 :=
    Nat.lt_of_le_of_lt (Nat.le_trans (Nat.sub_le _ _) hle) (by decide)
  have hdrawn := (RandomSource.between_le (Nat.zero_le _) hsmall r).2
  show (m.lanes place).getD (RandomSource.between 0 ((m.lanes place).length - 1) r).1 place ∈ _
  rw [List.getD_eq_getElem?_getD, List.getElem?_eq_getElem (by omega)]
  exact List.getElem_mem _

/-- A point that is found has a way on and is one of the lanes at a safe place. -/
theorem find_lane {lane : PointId} {r r' : ρ}
    (h : Answers (find m s player vehicles players r) (some lane, r')) :
    (m.point lane).next.isSome = true ∧
      ∃ place r'', Answers (safePlace m s player vehicles players r) (some place, r'') ∧
        isSafe m s vehicles players place = true ∧ lane ∈ m.lanes place := by
  rw [find_eq] at h
  obtain ⟨⟨_ | place, r''⟩, hplace, heq⟩ := answers_map h
  · cases heq
  · have hlane := drawLane_mem (m := m) place r''
    have hfound : some lane = ((m.point (drawLane m place r'').1).next.map
        fun _ => (drawLane m place r'').1) := congrArg Prod.fst heq
    obtain ⟨next, hnext, rfl⟩ := Option.map_eq_some_iff.mp hfound.symm
    exact ⟨by rw [hnext]; rfl, place, r'', hplace, safePlace_isSafe hplace, hlane⟩

end

/-! ## All tapes -/

section

variable {α : Type} [Scalar α] {seeds : UInt64 → Nat → UInt32} {m : RoadMap α} {s : Settings α}
  {player : Player α} {vehicles : List (Snapshot α)} {players : List (Vec3 α)}

omit [Scalar α] in
theorem reads_drawWalk : Tape.Reads (drawWalk s : Tape seeds → _) :=
  Tape.reads_bind Tape.reads_intervalDraw fun points =>
    Tape.reads_map Tape.reads_longWord fun seed => (points, seed)

/-- A place that is found on one tape is found on others that go on in any way. -/
theorem safePlace_splice {place : PointId} {r r' : Tape seeds}
    (h : Answers (safePlace m s player vehicles players r) (some place, r')) :
    ∃ n, ∀ t, Answers (safePlace m s player vehicles players (Tape.splice n r t))
      (some place, t) := by
  obtain ⟨n, hn⟩ := reads_drawWalk (s := s) r
  refine ⟨n, fun t => ?_⟩
  have hwalk := hn (Tape.splice n r t) fun i hi => if_pos hi
  rw [Tape.drop_splice] at hwalk
  unfold safePlace at h ⊢
  split at h
  · cases h
  · split at h
    · cases h
    · next hnear =>
      -- all that is read of the tape is read for the walk
      obtain ⟨found, hfound, heq⟩ := answers_map h
      cases heq
      rw [if_neg hnear, hwalk]
      exact congrArg (Except.map _) hfound

/-- Every lane can be drawn. -/
theorem exists_drawLane {place lane : PointId} (h : lane ∈ m.lanes place) :
    ∃ t : Tape seeds, (drawLane m place t).1 = lane := by
  have hle := RoadMap.lanes_length_le (m := m) place
  have hindex := List.idxOf_lt_length_of_mem h
  have hsmall : (m.lanes place).length < Nat.pow 2 64 := Nat.lt_of_le_of_lt hle (by decide)
  obtain ⟨t, ht⟩ : ∃ t : Tape seeds, (RandomSource.between 0 ((m.lanes place).length - 1) t).1 =
      (m.lanes place).idxOf lane := Tape.exists_between (by omega) (by omega)
  refine ⟨t, ?_⟩
  show (m.lanes place).getD (RandomSource.between 0 _ t).1 place = lane
  rw [ht, List.getD_eq_getElem?_getD, List.getElem?_eq_getElem hindex, Option.getD_some,
    List.getElem_idxOf]

/-- **Where vehicles appear.** A point that is found has a way on and is one of the lanes at a safe
place, whatever source is drawn from. The points that are found are safe on all tapes just if at
every place that some tape leads to all lanes that go on are safe. -/
theorem find_isSafe_iff :
    (∀ (ρ : Type) [RandomSource ρ] (r r' : ρ) lane,
      Answers (find m s player vehicles players r) (some lane, r') →
      (m.point lane).next.isSome = true ∧
        ∃ place r'', Answers (safePlace m s player vehicles players r) (some place, r'') ∧
          isSafe m s vehicles players place = true ∧ lane ∈ m.lanes place) ∧
    ((∀ (r r' : Tape seeds) lane, Answers (find m s player vehicles players r) (some lane, r') →
      isSafe m s vehicles players lane = true ∧ (m.point lane).next.isSome = true) ↔
    ∀ (r r' : Tape seeds) place,
      Answers (safePlace m s player vehicles players r) (some place, r') →
      ∀ lane ∈ m.lanes place, (m.point lane).next.isSome = true →
        isSafe m s vehicles players lane = true) := by
  refine ⟨fun _ _ _ _ _ => find_lane, ?_, ?_⟩
  · intro hsafe r r' place hplace lane hlane hnext
    -- a tape that leads to the place, continued by one that gives the lane
    obtain ⟨n, hn⟩ := safePlace_splice hplace
    obtain ⟨t, ht⟩ := exists_drawLane hlane
    have hfound : Answers (find m s player vehicles players (Tape.splice n r t))
        (some lane, (drawLane m place t).2) := by
      obtain ⟨next, hnext⟩ := Option.isSome_iff_exists.mp hnext
      rw [find_eq, hn t]
      show Except.ok ((m.point (drawLane m place t).1).next.map fun _ => (drawLane m place t).1,
        (drawLane m place t).2) = _
      rw [ht, hnext]
      rfl
    exact (hsafe _ _ _ hfound).1
  · intro hlanes r r' lane hfound
    obtain ⟨hnext, place, r'', hplace, -, hlane⟩ := find_lane hfound
    exact ⟨hlanes r r'' place hplace lane hlane hnext, hnext⟩

end

/-! A player drives towards the end of the first lane, and another one stands to the left of both
lanes: far enough from the first one, but not from the second one. -/

private def nextPointSettings : Settings Rat := { Settings.standard with spawnDistance := ⟨1, 1⟩ }

private def driver : Player Rat where
  status := { Status.unknown with velocity := ⟨0, 0, 10⟩ }
  lastActive := 0
  hasReported := true

private def onlooker : Vec3 Rat := ⟨152, 0, 100⟩

private def firstWords : Tape fun _ _ => 0 := fun _ => 0

/-- The end of the first lane is safe, and a vehicle appears on the second one, which is not. -/
theorem find_beside_onlooker :
    nextPointSettings.check = .ok () ∧
      ∃ lane r', Answers (find sideBySide nextPointSettings driver [] [onlooker] firstWords)
        (some lane, r') ∧ isSafe sideBySide nextPointSettings [] [onlooker] lane = false := by
  have hlane : (find sideBySide nextPointSettings driver [] [onlooker] firstWords).toOption.map
      (·.1) = some (some ⟨2⟩) := by decide +kernel
  refine ⟨by decide +kernel, ⟨2⟩, ?_⟩
  cases hfound : find sideBySide nextPointSettings driver [] [onlooker] firstWords with
  | error fault =>
    rw [hfound] at hlane
    cases hlane
  | ok found =>
    rw [hfound] at hlane
    have hfirst : found.1 = some ⟨2⟩ := Option.some.inj hlane
    exact ⟨found.2, congrArg Except.ok (Prod.ext hfirst rfl), by decide +kernel⟩

end SpawnPoint

end RoadTraffic
