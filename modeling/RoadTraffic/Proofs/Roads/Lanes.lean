import Mathlib.Data.List.Chain
import Mathlib.Data.List.Nodup
import RoadTraffic.Proofs.Roads.Acceptance
import RoadTraffic.Proofs.Scalar.Rational

/-!
# Lanes beside each other

Whatever the links to the left and to the right are, a point has at least one lane, itself, and no
more than are told apart. The links may lead in circles, to the other carriageway or back to another
point than they came from: the lanes at a point are still points linked to the right one by one,
none of them twice, and all but the point itself are seen to travel the same way (`lanes_abreast`).

They are told by two walks that go on as long as there is a link, with nothing but their own breaks
to end them. Step by step, with a look-up outside the map for a fault, they are a `Sweep`. On a map
every sweep comes to its end.
-/

namespace RoadTraffic

namespace RoadMap

variable {α : Type} [Scalar α] {m : RoadMap α}

theorem rightward_length {id : PointId} {room : Nat} {lane : Option PointId}
    {found : List PointId} :
    (m.rightward id room lane found).length ≤ found.length + room := by
  induction room generalizing lane found with
  | zero => exact Nat.le_refl _
  | succ room ih =>
    cases lane with
    | none => exact Nat.le_add_right _ _
    | some lane =>
      unfold rightward
      split
      · exact Nat.le_add_right _ _
      · -- one more lane is told apart, and there is room for one less
        have hrest : (m.rightward id room (m.point lane).right (found ++ [lane])).length ≤
            (found ++ [lane]).length + room := ih
        rw [List.length_append, List.length_singleton] at hrest
        omega

/-- The point itself is among its lanes. -/
theorem mem_lanes (id : PointId) : id ∈ m.lanes id := by
  unfold lanes
  dsimp only
  split
  · next hmem => exact hmem
  · exact List.mem_singleton_self id

theorem lanes_length_le (id : PointId) : (m.lanes id).length ≤ maxLanes := by
  unfold lanes
  dsimp only
  split
  · have hrow : (m.rightward id maxLanes (some (m.leftmost id maxLanes id)) []).length ≤
        [].length + maxLanes := rightward_length
    rw [List.length_nil, Nat.zero_add] at hrow
    exact hrow
  · show 1 ≤ 8
    omega

/-! ## From left to right -/

/-- Lanes that were found on the way to the right up to `lane`, which comes next. -/
structure Passed (m : RoadMap α) (id : PointId) (lane : Option PointId) (found : List PointId) :
    Prop where
  nodup : found.Nodup
  linked : found.IsChain fun p q => (m.point p).right = some q
  next : ∀ p ∈ found.getLast?, (m.point p).right = lane
  together : ∀ p ∈ found, m.sameDirection id p = true

theorem passed_nil (m : RoadMap α) (id : PointId) (lane : Option PointId) :
    m.Passed id lane [] :=
  ⟨List.nodup_nil, List.isChain_nil, nofun, nofun⟩

theorem Passed.push {id lane : PointId} {found : List PointId} (h : m.Passed id (some lane) found)
    (hnew : lane ∉ found) (hway : m.sameDirection id lane = true) :
    m.Passed id (m.point lane).right (found ++ [lane]) where
  nodup := List.nodup_append.mpr ⟨h.nodup, List.nodup_singleton lane, fun p hp q hq heq =>
    hnew (List.mem_singleton.mp hq ▸ heq ▸ hp)⟩
  linked := by
    refine List.isChain_append.mpr ⟨h.linked, List.isChain_singleton lane, fun p hp q hq => ?_⟩
    rw [h.next p hp]
    exact hq
  next p hp := by
    rw [List.getLast?_concat] at hp
    rw [Option.mem_some_iff.mp hp]
  together p hp := by
    rcases List.mem_append.mp hp with hp | hp
    · exact h.together p hp
    · rw [List.mem_singleton.mp hp]
      exact hway

theorem Passed.rightward {id : PointId} {room : Nat} {lane : Option PointId}
    {found : List PointId} (h : m.Passed id lane found) :
    ∃ lane', m.Passed id lane' (m.rightward id room lane found) := by
  induction room generalizing lane found with
  | zero => exact ⟨lane, h⟩
  | succ room ih =>
    cases lane with
    | none => exact ⟨none, h⟩
    | some lane =>
      unfold RoadMap.rightward
      split
      · exact ⟨some lane, h⟩
      next hgo =>
      obtain ⟨hnew, hway⟩ := not_or.mp hgo
      exact ih (h.push hnew (by simpa using hway))

/-! ## Step by step -/

/-- How far a look at the lanes at a point has come: `steps` lanes to the left of it, or back to the
right up to `lane` with some lanes found. -/
inductive Sweep where
  | left (last : PointId) (steps : Nat)
  | right (lane : Option PointId) (found : List PointId)

namespace Strict

/-- The direction of travel at a point that has to be on the map, and so do its neighbours. -/
def forward (m : RoadMap α) (id : PointId) : Except Fault (Vec3 α) := do
  let p ← m.demandPoint id
  match p.next, p.previous with
  | some next, _ => return ((← m.demandPoint next).position - p.position).direction
  | none, some previous => return (p.position - (← m.demandPoint previous).position).direction
  | none, none => return .zero

/-- Whether traffic at two points that have to be on the map travels the same general way. -/
def sameDirection (m : RoadMap α) (a b : PointId) : Except Fault Bool := do
  return decide (0 < (← forward m a).dot (← forward m b))

/-- The lanes that were found, or the point alone if it is not among them. -/
def found (id : PointId) (lanes : List PointId) : List PointId :=
  if id ∈ lanes then lanes else [id]

/-- One more lane to the left. -/
def sweepLeft (m : RoadMap α) (id last : PointId) (steps : Nat) : Except Fault Sweep := do
  match (← m.demandPoint last).left with
  | none => return .right (some last) []
  | some left =>
    if left = id ∨ maxLanes ≤ steps then return .right (some last) []
    if !(← sameDirection m id left) then return .right (some last) []
    return .left left (steps + 1)

/-- One more lane to the right, or the lanes from left to right. -/
def sweepRight (m : RoadMap α) (id lane : PointId) (lanes : List PointId) :
    Except Fault (Sweep ⊕ List PointId) := do
  if lanes.length = maxLanes ∨ lane ∈ lanes then return .inr (found id lanes)
  if !(← sameDirection m id lane) then return .inr (found id lanes)
  return .inl (.right (← m.demandPoint lane).right (lanes ++ [lane]))

/-- One step of a sweep. -/
def sweep (m : RoadMap α) (id : PointId) : Sweep → Except Fault (Sweep ⊕ List PointId)
  | .left last steps => .inl <$> sweepLeft m id last steps
  | .right none lanes => .ok (.inr (found id lanes))
  | .right (some lane) lanes => sweepRight m id lane lanes

/-- A sweep comes to an end, without a fault, and has found some lanes. -/
inductive Sweeps (m : RoadMap α) (id : PointId) : Sweep → List PointId → Prop where
  | ends {s : Sweep} {lanes : List PointId} (h : sweep m id s = .ok (.inr lanes)) :
    Sweeps m id s lanes
  | goes {s s' : Sweep} {lanes : List PointId} (h : sweep m id s = .ok (.inl s'))
    (hrest : Sweeps m id s' lanes) : Sweeps m id s lanes

theorem Sweeps.unique {id : PointId} {s : Sweep} {lanes lanes' : List PointId}
    (h : Sweeps m id s lanes) (h' : Sweeps m id s lanes') : lanes = lanes' := by
  induction h with
  | ends h =>
    cases h' with
    | ends h' => exact Sum.inr.inj (Except.ok.inj (h.symm.trans h'))
    | goes h' _ => cases h.symm.trans h'
  | goes h _ ih =>
    cases h' with
    | ends h' => cases h.symm.trans h'
    | goes h' hrest =>
      obtain rfl := Sum.inl.inj (Except.ok.inj (h.symm.trans h'))
      exact ih hrest

theorem demandPoint_inside {p : PointId} (hp : p.index < m.size) :
    m.demandPoint p = .ok (m.point p) := by
  rcases m.demandPoint_cases p with ⟨-, h⟩ | ⟨hno, -⟩
  · exact h
  · exact absurd hp hno

section

variable (hwell : Validation.WellFormed m.points m.junctions m.splines) {id : PointId}
  (hid : id.index < m.size)
include hwell hid

omit hid in
theorem link_inside {p q : PointId} (hq : q ∈ (m.point p).links) : q.index < m.size :=
  hwell.link hq

theorem forward_inside : forward m id = .ok (m.forward id) := by
  unfold forward RoadMap.forward
  rw [demandPoint_inside hid]
  dsimp only [bind, Except.bind]
  rcases hnext : (m.point id).next with _ | next
  · rcases hprevious : (m.point id).previous with _ | previous
    · rfl
    · dsimp only
      rw [demandPoint_inside (link_inside hwell (RoadPoint.mem_links.mpr (.inr (.inl hprevious))))]
      rfl
  · dsimp only
    rw [demandPoint_inside (link_inside hwell (RoadPoint.mem_links.mpr (.inl hnext)))]
    rfl

theorem sameDirection_inside {p : PointId} (hp : p.index < m.size) :
    sameDirection m id p = .ok (m.sameDirection id p) := by
  unfold sameDirection
  rw [forward_inside hwell hid, forward_inside hwell hp]
  rfl

theorem sweep_turns {last : PointId} {steps : Nat} (hlast : last.index < m.size)
    (hend : ∀ left, (m.point last).left = some left →
      (left = id ∨ maxLanes ≤ steps) ∨ m.sameDirection id left = false) :
    sweep m id (.left last steps) = .ok (.inl (.right (some last) [])) := by
  show Sum.inl <$> sweepLeft m id last steps = _
  unfold sweepLeft
  rw [demandPoint_inside hlast]
  dsimp only [bind, Except.bind]
  rcases hleft : (m.point last).left with _ | left
  · rfl
  have hinside : left.index < m.size :=
    link_inside hwell (RoadPoint.mem_links.mpr (.inr (.inr (.inl hleft))))
  dsimp only
  split
  · rfl
  next hgo =>
  rw [sameDirection_inside hwell hid hinside, (hend left hleft).resolve_left hgo]
  rfl

theorem sweep_left {last left : PointId} {steps : Nat} (hlast : last.index < m.size)
    (hleft : (m.point last).left = some left) (hne : left ≠ id) (hsteps : steps < maxLanes)
    (hway : m.sameDirection id left = true) :
    sweep m id (.left last steps) = .ok (.inl (.left left (steps + 1))) := by
  have hinside : left.index < m.size :=
    link_inside hwell (RoadPoint.mem_links.mpr (.inr (.inr (.inl hleft))))
  show Sum.inl <$> sweepLeft m id last steps = _
  unfold sweepLeft
  rw [demandPoint_inside hlast]
  dsimp only [bind, Except.bind]
  rw [hleft]
  dsimp only
  rw [if_neg (not_or.mpr ⟨hne, Nat.not_le.mpr hsteps⟩), sameDirection_inside hwell hid hinside,
    hway]
  rfl

theorem sweep_stops {lane : PointId} {lanes : List PointId} (hlane : lane.index < m.size)
    (hend : (lanes.length = maxLanes ∨ lane ∈ lanes) ∨ m.sameDirection id lane = false) :
    sweep m id (.right (some lane) lanes) = .ok (.inr (found id lanes)) := by
  show sweepRight m id lane lanes = _
  unfold sweepRight
  split
  · rfl
  next hgo =>
  rw [sameDirection_inside hwell hid hlane, hend.resolve_left hgo]
  rfl

theorem sweep_right {lane : PointId} {lanes : List PointId} (hlane : lane.index < m.size)
    (hroom : lanes.length ≠ maxLanes) (hnew : lane ∉ lanes)
    (hway : m.sameDirection id lane = true) :
    sweep m id (.right (some lane) lanes) =
      .ok (.inl (.right (m.point lane).right (lanes ++ [lane]))) := by
  show sweepRight m id lane lanes = _
  unfold sweepRight
  rw [if_neg (not_or.mpr ⟨hroom, hnew⟩), sameDirection_inside hwell hid hlane, hway,
    demandPoint_inside hlane]
  rfl

/-- On the way to the left a sweep comes to the last lane. -/
theorem sweeps_left {n steps : Nat} {last : PointId} {lanes : List PointId}
    (hsteps : steps + n = maxLanes) (hlast : last.index < m.size)
    (h : Sweeps m id (.right (some (m.leftmost id n last)) []) lanes) :
    Sweeps m id (.left last steps) lanes := by
  induction n generalizing last steps with
  | zero => exact .goes (sweep_turns hwell hid hlast fun _ _ => .inl (.inr hsteps.ge)) h
  | succ n ih =>
    unfold leftmost at h
    split at h
    · next hnone =>
      refine .goes (sweep_turns hwell hid hlast fun left hleft => ?_) h
      cases hnone.symm.trans hleft
    next left hleft =>
    split at h
    · next hend =>
      refine .goes (sweep_turns hwell hid hlast fun left' hleft' => ?_) h
      obtain rfl := Option.some.inj (hleft.symm.trans hleft')
      exact hend.imp .inl Bool.eq_false_of_not_eq_true'
    · next hgo =>
      obtain ⟨hne, hway⟩ := not_or.mp hgo
      have hinside : left.index < m.size :=
        link_inside hwell (RoadPoint.mem_links.mpr (.inr (.inr (.inl hleft))))
      exact .goes (sweep_left hwell hid hlast hleft hne (by omega) (by simpa using hway))
        (ih (by omega) hinside h)

/-- On the way to the right a sweep finds what there is room for. -/
theorem sweeps_right {room : Nat} {lane : Option PointId} {lanes : List PointId}
    (hroom : lanes.length + room = maxLanes) (hlane : ∀ p ∈ lane, p.index < m.size) :
    Sweeps m id (.right lane lanes) (found id (m.rightward id room lane lanes)) := by
  induction room generalizing lane lanes with
  | zero =>
    cases lane with
    | none => exact .ends rfl
    | some lane => exact .ends (sweep_stops hwell hid (hlane lane rfl) (.inl (.inl hroom)))
  | succ room ih =>
    cases lane with
    | none => exact .ends rfl
    | some lane =>
      have hinside := hlane lane rfl
      unfold rightward
      split
      · next hend =>
        exact .ends (sweep_stops hwell hid hinside (hend.imp .inr Bool.eq_false_of_not_eq_true'))
      · next hgo =>
        obtain ⟨hnew, hway⟩ := not_or.mp hgo
        refine .goes (sweep_right hwell hid hinside (by omega) hnew (by simpa using hway))
          (ih ?_ fun p hp => ?_)
        · rw [List.length_append, List.length_singleton]
          omega
        · exact link_inside hwell (RoadPoint.mem_links.mpr (.inr (.inr (.inr hp))))

omit hid in
theorem leftmost_inside {n : Nat} {last : PointId} (hlast : last.index < m.size) :
    (m.leftmost id n last).index < m.size := by
  induction n generalizing last with
  | zero => exact hlast
  | succ n ih =>
    unfold leftmost
    split
    · exact hlast
    next left hleft =>
    split
    · exact hlast
    · exact ih (link_inside hwell (RoadPoint.mem_links.mpr (.inr (.inr (.inl hleft)))))

/-- A sweep that begins at the point itself finds its lanes. -/
theorem sweeps_lanes : Sweeps m id (.left id 0) (m.lanes id) := by
  refine sweeps_left hwell hid (Nat.zero_add maxLanes) hid ?_
  refine sweeps_right hwell hid (Nat.zero_add maxLanes) fun p hp => ?_
  exact Option.some.inj hp ▸ leftmost_inside hwell hid

end

end Strict

/-! ## The lanes at a point -/

/-- A sweep that begins at a point of the map comes to an end, without a fault, and finds the lanes
at the point, from left to right, whatever links there are. -/
theorem lanes_abreast (hm : m.Validated) {id : PointId} (hid : id.index < m.size) :
    (∀ lanes, Strict.Sweeps m id (.left id 0) lanes ↔ lanes = m.lanes id) ∧
      id ∈ m.lanes id ∧ (m.lanes id).Nodup ∧ (m.lanes id).length ≤ 8 ∧
      (m.lanes id).IsChain (fun p q => (m.point p).right = some q) ∧
      ∀ p ∈ m.lanes id, p ≠ id → m.sameDirection id p = true := by
  have hsweeps := Strict.sweeps_lanes hm.wellFormed hid
  refine ⟨fun lanes => ⟨fun h => h.unique hsweeps, fun h => h ▸ hsweeps⟩, mem_lanes id, ?_⟩
  obtain ⟨_, hrow⟩ : ∃ lane, m.Passed id lane
      (m.rightward id maxLanes (some (m.leftmost id maxLanes id)) []) :=
    (passed_nil m id _).rightward
  have hlength := lanes_length_le (m := m) id
  unfold lanes at hlength ⊢
  dsimp only at hlength ⊢
  split
  · next hmem =>
    rw [if_pos hmem] at hlength
    exact ⟨hrow.nodup, hlength, hrow.linked, fun p hp _ => hrow.together p hp⟩
  · refine ⟨List.nodup_singleton id, ?_, List.isChain_singleton id, fun p hp hne => ?_⟩
    · rw [List.length_singleton]
      decide
    · exact absurd (List.mem_singleton.mp hp) hne

/-- Where one of three lanes begins. -/
private def carouselPoint (index : Nat) (left right : Option PointId) : RoadPoint Rat :=
  { RoadPoint.unlinked ⟨index⟩ ⟨3 * (index : Rat), 0, 0⟩ with
    next := some ⟨index + 3⟩, left, right, length := 100 }

/-- Where it ends. -/
private def carouselEnd (index : Nat) : RoadPoint Rat :=
  { RoadPoint.unlinked ⟨index + 3⟩ ⟨3 * (index : Rat), 0, 100⟩ with previous := some ⟨index⟩ }

/-- Three lanes that are linked to the right in a circle, and to the left where the walk does not
come to an end by itself. -/
private def carousel : RoadMap Rat where
  points := #[carouselPoint 0 none (some ⟨1⟩), carouselPoint 1 (some ⟨2⟩) (some ⟨2⟩),
    carouselPoint 2 (some ⟨2⟩) (some ⟨0⟩), carouselEnd 0, carouselEnd 1, carouselEnd 2]
  junctions := #[]
  splines := []
  tree := .empty

/-- In a circle of lanes the one that the walk to the left breaks off at comes first. -/
theorem lanes_abreast_carousel :
    Strict.Sweeps carousel ⟨1⟩ (.left ⟨1⟩ 0) [⟨2⟩, ⟨0⟩, ⟨1⟩] ∧
      (carousel.point ⟨2⟩).right = some ⟨0⟩ ∧ carousel.sameDirection ⟨1⟩ ⟨2⟩ = true := by
  have hvalid : carousel.Validated := by
    unfold Validated
    decide +kernel
  have hlanes : [⟨2⟩, ⟨0⟩, ⟨1⟩] = carousel.lanes ⟨1⟩ := by decide +kernel
  have hid : (⟨1⟩ : PointId).index < carousel.size := by decide
  obtain ⟨hsweeps, -, -, -, hlinked, htogether⟩ := lanes_abreast hvalid hid
  rw [← hlanes] at hlinked htogether
  exact ⟨(hsweeps _).mpr hlanes, (List.isChain_cons_cons.mp hlinked).1,
    htogether ⟨2⟩ (by decide) (by decide)⟩

end RoadMap

end RoadTraffic
