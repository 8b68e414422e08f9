import RoadTraffic.Proofs.Journal.Answers
import RoadTraffic.Proofs.Roads.Nearest
import RoadTraffic.Roads.LaneDetection

/-!
# What lane detection does to a map

Lane links are both what a detection looks for and part of the map on which it looks. But neither
the direction of travel at a point nor the search for the nearest one takes notice of them: on maps
that differ in lane links alone (`RoadMap.SameRoads`) the same is found beside a point, unless it
has been linked there before. So each point is settled by itself (`LaneDetector.settled`), once and
for all.

A detection settles all points (`point_detect`), and so does whoever links one after the other
(`Settles.linkInTurn`). From this follows what a detection does to a map (`detect_settles`). Nothing
is assumed of the number format.
-/

namespace RoadTraffic

namespace RoadMap

variable {α : Type} [Scalar α] {m m' : RoadMap α} {p q : PointId}

/-! ## Maps that differ in lane links -/

/-- There is a lane link from `p` to `q` that was not there before. -/
def Gains (m m' : RoadMap α) (p q : PointId) : Prop :=
  ((m'.point p).left = some q ∧ (m.point p).left ≠ some q) ∨
    ((m'.point p).right = some q ∧ (m.point p).right ≠ some q)

/-- How many sides of points have a link on the second map and none on the first one. -/
def sidesGained (m m' : RoadMap α) : Nat :=
  (List.range m.size).countP (fun i =>
      (m.point ⟨i⟩).left.isNone && (m'.point ⟨i⟩).left.isSome) +
    (List.range m.size).countP fun i =>
      (m.point ⟨i⟩).right.isNone && (m'.point ⟨i⟩).right.isSome

/-- Two maps differ in their lane links alone. -/
structure SameRoads (m m' : RoadMap α) : Prop where
  size : m'.points.size = m.points.size
  junctions : m'.junctions = m.junctions
  splines : m'.splines = m.splines
  tree : m'.tree = m.tree
  point : ∀ p, m'.point p =
    { m.point p with left := (m'.point p).left, right := (m'.point p).right }

/-- Lane links are added where there are none, and nothing else is changed. -/
structure Extends (m m' : RoadMap α) : Prop extends SameRoads m m' where
  left : ∀ {p q}, (m.point p).left = some q → (m'.point p).left = some q
  right : ∀ {p q}, (m.point p).right = some q → (m'.point p).right = some q

theorem points_eq_map (m : RoadMap α) :
    m.points.toList = (List.range m.points.size).map fun i => m.point ⟨i⟩ := by
  refine List.ext_getElem? fun i => ?_
  rw [List.getElem?_map]
  rcases Nat.lt_or_ge i m.points.size with hi | hi
  · rw [point_mem (p := ⟨i⟩) hi, List.getElem?_range hi]
    rfl
  · rw [List.getElem?_eq_none (by rwa [Array.length_toList]),
      List.getElem?_eq_none (by rwa [List.length_range])]
    rfl

theorem sidesGained_self (m : RoadMap α) : m.sidesGained m = 0 := by
  have hside : ∀ link : Option PointId, (link.isNone && link.isSome) = false := by
    intro link
    cases link <;> rfl
  unfold sidesGained
  simp only [hside, List.countP_false]
  rfl

theorem SameRoads.refl (m : RoadMap α) : m.SameRoads m :=
  ⟨rfl, rfl, rfl, rfl, fun _ => rfl⟩

theorem SameRoads.symm (h : m.SameRoads m') : m'.SameRoads m where
  size := h.size.symm
  junctions := h.junctions.symm
  splines := h.splines.symm
  tree := h.tree.symm
  point p := by rw [h.point p]

theorem SameRoads.trans {m'' : RoadMap α} (h : m.SameRoads m') (h' : m'.SameRoads m'') :
    m.SameRoads m'' where
  size := h'.size.trans h.size
  junctions := h'.junctions.trans h.junctions
  splines := h'.splines.trans h.splines
  tree := h'.tree.trans h.tree
  point p := by
    rw [h'.point p, h.point p]

section

variable (h : m.SameRoads m')
include h

/-- What a link does not touch stays as it is. -/
theorem SameRoads.side {β : Type} (side : RoadPoint α → β)
    (hside : ∀ p left right, side { p with left, right } = side p) (p : PointId) :
    side (m'.point p) = side (m.point p) :=
  (congrArg side (h.point p)).trans (hside _ _ _)

theorem SameRoads.forward (p : PointId) : m'.forward p = m.forward p := by
  have hposition := h.side (·.position) fun _ _ _ => rfl
  unfold RoadMap.forward
  dsimp only at hposition ⊢
  rw [h.side (·.next) (fun _ _ _ => rfl) p, h.side (·.previous) (fun _ _ _ => rfl) p, hposition p]
  split
  · rw [hposition]
  · rw [hposition]
  · rfl

theorem SameRoads.sameDirection (p q : PointId) :
    m'.sameDirection p q = m.sameDirection p q := by
  unfold RoadMap.sameDirection
  rw [h.forward, h.forward]

theorem SameRoads.nearest? (position : Vec3 α) : m'.nearest? position = m.nearest? position := by
  unfold RoadMap.nearest?
  rw [h.tree]

/-- Links do not move points. -/
theorem SameRoads.sites :
    (m'.points.toList.map fun p => (p.position, p.id)) =
      m.points.toList.map fun p => (p.position, p.id) := by
  rw [points_eq_map, points_eq_map, h.size, List.map_map, List.map_map]
  exact List.map_congr_left fun i _ => h.side (fun p => (p.position, p.id)) (fun _ _ _ => rfl) ⟨i⟩

/-- A link of the new map is one of the old map or gained. -/
theorem SameRoads.of_mem_links (hq : q ∈ (m'.point p).links) :
    q ∈ (m.point p).links ∨ m.Gains m' p q := by
  rw [RoadPoint.mem_links] at hq ⊢
  rw [h.side (·.next) (fun _ _ _ => rfl) p, h.side (·.previous) (fun _ _ _ => rfl) p] at hq
  by_cases hleft : (m.point p).left = some q
  · exact Or.inl (Or.inr (Or.inr (Or.inl hleft)))
  by_cases hright : (m.point p).right = some q
  · exact Or.inl (Or.inr (Or.inr (Or.inr hright)))
  rcases hq with hq | hq | hq | hq
  · exact Or.inl (Or.inl hq)
  · exact Or.inl (Or.inr (Or.inl hq))
  · exact Or.inr (Or.inl ⟨hq, hleft⟩)
  · exact Or.inr (Or.inr ⟨hq, hright⟩)

/-- With links to its own points, a map is again one. -/
theorem SameRoads.ofParts {points : Array (RoadPoint α)} {junctions : Array (Junction α)}
    {splines : List Spline} (hm : RoadMap.ofParts points junctions splines = .ok m)
    (hgains : ∀ {p q}, m.Gains m' p q → q.index < m.points.size) :
    RoadMap.ofParts m'.points m'.junctions m'.splines = .ok m' := by
  have hvalid := validated_of_ofParts hm
  have hwell := hvalid.wellFormed
  rw [h.junctions, h.splines]
  have hlinked := hwell.relink h.size (h.side (·.id) fun _ _ _ => rfl)
    (h.side (·.branch) fun _ _ _ => rfl) (h.side (·.merge) fun _ _ _ => rfl)
    (fun hq => (h.of_mem_links hq).elim hwell.link hgains)
    fun {p q} => (h.side (·.next) (fun _ _ _ => rfl) p).congr_left.trans
      (hwell.chain.trans (h.side (·.previous) (fun _ _ _ => rfl) q).congr_left.symm)
  refine ofParts_eq_ok.mpr ⟨Validation.check_of_wellFormed hlinked ?_, ?_⟩
  · rw [h.size]
    exact (Validation.check_ok hvalid).1
  · -- the tree is the same, since no point has moved
    have htree : m.tree = .ofSites (m.points.toList.map fun p => (p.position, p.id)) := by
      obtain ⟨-, rfl⟩ := ofParts_eq_ok.mp hm
      rfl
    rw [h.sites, ← htree, ← h.tree, ← h.junctions, ← h.splines]

/-- On maps that differ in lane links alone, the lane links make the only difference. -/
theorem SameRoads.eq
    (hpoint : ∀ p : PointId, p.index < m.points.size → m'.point p = m.point p) : m' = m := by
  have hpoints : m'.points = m.points := by
    refine Array.toList_inj.mp ?_
    rw [points_eq_map, points_eq_map, h.size]
    exact List.map_congr_left fun i hi => hpoint ⟨i⟩ (List.mem_range.mp hi)
  obtain ⟨points, junctions, splines, tree⟩ := m
  obtain ⟨points', junctions', splines', tree'⟩ := m'
  obtain rfl : points' = points := hpoints
  obtain rfl : junctions' = junctions := h.junctions
  obtain rfl : splines' = splines := h.splines
  obtain rfl : tree' = tree := h.tree
  rfl

end

/-! ## Links that are filled in -/

variable {find : RoadPoint α → Option PointId × Option PointId}

omit [Scalar α] in
theorem addLaneLinks_size (m : RoadMap α)
    (find : RoadPoint α → Option PointId × Option PointId) :
    (m.addLaneLinks (m.points.toList.map find)).points.size = m.points.size := by
  unfold addLaneLinks
  dsimp only
  rw [List.size_toArray, List.length_zipWith, List.length_map, Nat.min_self, Array.length_toList]

theorem point_addLaneLinks (hp : p.index < m.points.size) :
    (m.addLaneLinks (m.points.toList.map find)).point p =
      { m.point p with
        left := (m.point p).left.or (find (m.point p)).1
        right := (m.point p).right.or (find (m.point p)).2 } := by
  have hfilled := point_mem (addLaneLinks_size m find ▸ hp)
  unfold addLaneLinks at hfilled
  dsimp only at hfilled
  rw [List.getElem?_zipWith, List.getElem?_map, point_mem hp] at hfilled
  exact (Option.some.inj hfilled).symm

/-- Filling in links is no other change. -/
theorem extends_addLaneLinks (m : RoadMap α)
    (find : RoadPoint α → Option PointId × Option PointId) :
    m.Extends (m.addLaneLinks (m.points.toList.map find)) where
  size := addLaneLinks_size m find
  junctions := rfl
  splines := rfl
  tree := rfl
  point p := by
    rcases Nat.lt_or_ge p.index m.points.size with hp | hp
    · rw [point_addLaneLinks hp]
    · rw [point_outside hp, point_outside ((addLaneLinks_size m find).symm ▸ hp)]
  left {p q} hleft := by
    rcases Nat.lt_or_ge p.index m.points.size with hp | hp
    · rw [point_addLaneLinks hp, hleft]
      rfl
    · rw [point_outside hp] at hleft
      cases hleft
  right {p q} hright := by
    rcases Nat.lt_or_ge p.index m.points.size with hp | hp
    · rw [point_addLaneLinks hp, hright]
      rfl
    · rw [point_outside hp] at hright
      cases hright

/-- The links that are gained are those that were found. -/
theorem of_gains (h : m.Gains (m.addLaneLinks (m.points.toList.map find)) p q) :
    p.index < m.points.size ∧
      ((find (m.point p)).1 = some q ∨ (find (m.point p)).2 = some q) := by
  -- a side that was not linked before has what was found there
  have hfound : ∀ {link found : Option PointId}, link.or found = some q → link ≠ some q →
      found = some q := by
    intro link found hor hne
    cases link with
    | none => exact hor
    | some q' => exact absurd hor hne
  rcases Nat.lt_or_ge p.index m.points.size with hp | hp
  · refine ⟨hp, ?_⟩
    unfold Gains at h
    rw [point_addLaneLinks hp] at h
    exact h.imp (fun h => hfound h.1 h.2) fun h => hfound h.1 h.2
  · have hnone := point_outside ((addLaneLinks_size m find).symm ▸ hp)
    unfold Gains at h
    rw [hnone] at h
    rcases h with ⟨h, -⟩ | ⟨h, -⟩ <;> cases h

end RoadMap

namespace LaneDetector

section

variable {α : Type} [Scalar α] {d : LaneDetector α} {m m' : RoadMap α} {added : Nat}
  {p q : PointId}

/-- The links that are found for a point. -/
def linksAt (d : LaneDetector α) (m : RoadMap α) (p : RoadPoint α) :
    Option PointId × Option PointId :=
  ((d.lookAround m p).1.link, (d.lookAround m p).2.link)

theorem faultless_detect (d : LaneDetector α) (m : RoadMap α) : Faultless (d.detect m) := by
  unfold detect
  exact (faultless_forM faultless_note _).bind fun _ => (faultless_note _).bind fun _ =>
    faultless_pure _

theorem detect_answers (h : Answers (d.detect m) (added, m')) :
    m' = m.addLaneLinks (m.points.toList.map (d.linksAt m)) := by
  unfold detect at h
  obtain ⟨-, -, h⟩ := answers_bind h
  obtain ⟨-, -, h⟩ := answers_bind h
  cases answers_pure h
  rw [List.map_map]
  rfl

theorem of_link {b : Beside} (h : b.link = some q) : b = .lane q := by
  cases b <;> cases h
  rfl

/-- A link leads to what lies on its side. -/
theorem of_linksAt {p : RoadPoint α} :
    ((d.linksAt m p).1 = some q → d.look m p (1 * d.laneWidth) = .lane q) ∧
      ((d.linksAt m p).2 = some q → d.look m p (-1 * d.laneWidth) = .lane q) := by
  unfold linksAt lookAround
  split
  · exact ⟨nofun, nofun⟩
  constructor
  · intro h
    dsimp only at h
    split at h
    · exact of_link h
    · cases h
  · intro h
    dsimp only at h
    split at h
    · exact of_link h
    · cases h

/-- What lies to the left of a point is linked if there is no link yet. -/
theorem gains_of_look (h : Answers (d.detect m) (added, m')) (hp : p.index < m.points.size)
    (hnext : (m.point p).next.isNone = false) (hleft : (m.point p).left = none)
    (hlook : d.look m (m.point p) (1 * d.laneWidth) = .lane q) : m.Gains m' p q := by
  have hlink : (d.linksAt m (m.point p)).1 = some q := by
    unfold linksAt lookAround
    rw [if_neg (hnext ▸ Bool.false_ne_true), hleft]
    dsimp only [Option.isNone_none]
    rw [if_pos rfl, hlook]
    rfl
  unfold RoadMap.Gains
  rw [detect_answers h, RoadMap.point_addLaneLinks hp, hleft, Option.none_or, hlink]
  exact Or.inl ⟨rfl, nofun⟩

theorem of_look {p : RoadPoint α} {offset : α} (h : d.look m p offset = .lane q) :
    ∃ e, m.nearest? (placeBeside m p offset) = some (q, e) ∧ q ≠ p.id ∧
      ¬ d.radius * d.radius < e ∧ (m.sameDirection p.id q = true ∨ d.twoWay = true) := by
  unfold look at h
  split at h
  · cases h
  next id e hnearest =>
  split at h
  · cases h
  next hno =>
  split at h
  · next hway =>
    cases h
    exact ⟨e, hnearest, fun heq => hno (Or.inl heq), fun hfar => hno (Or.inr hfar),
      Bool.or_eq_true _ _ ▸ hway⟩
  · cases h

theorem detect_added (h : Answers (d.detect m) (added, m')) :
    added = countLinks (m.points.toList.map (d.linksAt m)) := by
  unfold detect at h
  obtain ⟨-, -, h⟩ := answers_bind h
  obtain ⟨-, -, h⟩ := answers_bind h
  cases answers_pure h
  rw [List.map_map]
  rfl

/-- What is linked is on the map. -/
theorem linksAt_inside {points : Array (RoadPoint α)} {junctions : Array (Junction α)}
    {splines : List Spline} (hm : RoadMap.ofParts points junctions splines = .ok m)
    {p : RoadPoint α} (h : (d.linksAt m p).1 = some q ∨ (d.linksAt m p).2 = some q) :
    q.index < m.points.size := by
  rcases h with h | h
  · obtain ⟨e, hnearest, -⟩ := of_look (of_linksAt.1 h)
    exact RoadMap.nearest?_inside hm hnearest
  · obtain ⟨e, hnearest, -⟩ := of_look (of_linksAt.2 h)
    exact RoadMap.nearest?_inside hm hnearest

/-! ## One point at a time -/

/-- A point with the links that are found for it. -/
def settled (d : LaneDetector α) (m : RoadMap α) (p : RoadPoint α) : RoadPoint α :=
  { p with left := p.left.or (d.linksAt m p).1, right := p.right.or (d.linksAt m p).2 }

/-- What a detector finds beside a point does not depend on any lane link. -/
theorem look_linked (h : m.SameRoads m') (p : RoadPoint α) (left right : Option PointId)
    (offset : α) : d.look m' { p with left, right } offset = d.look m p offset := by
  unfold look placeBeside
  dsimp only
  rw [h.forward, h.nearest?]
  simp only [h.sameDirection]

theorem linksAt_eq (d : LaneDetector α) (m : RoadMap α) (p : RoadPoint α) :
    d.linksAt m p =
      if p.next.isNone then (none, none)
      else
        (if p.left.isNone then (d.look m p (1 * d.laneWidth)).link else none,
          if p.right.isNone then (d.look m p (-1 * d.laneWidth)).link else none) := by
  unfold linksAt lookAround
  split
  · rfl
  · dsimp only
    rw [apply_ite Beside.link, apply_ite Beside.link]
    rfl

theorem linksAt_congr (h : m.SameRoads m') (p : RoadPoint α) : d.linksAt m' p = d.linksAt m p := by
  rw [linksAt_eq, linksAt_eq, look_linked h p p.left p.right, look_linked h p p.left p.right]

theorem settled_congr (h : m.SameRoads m') (p : RoadPoint α) : d.settled m' p = d.settled m p := by
  unfold settled
  rw [linksAt_congr h]

/-- Once a point is settled, nothing more is found for it. -/
theorem linksAt_settled (d : LaneDetector α) (m : RoadMap α) (p : RoadPoint α) :
    d.linksAt m (d.settled m p) = (none, none) := by
  -- what fills a side in is what would be found there again, and nothing fills it in for good
  have hagain : ∀ link found : Option PointId,
      (if (link.or (if link.isNone then found else none)).isNone then found else none) = none := by
    intro link found
    cases link <;> cases found <;> rfl
  have hlook : ∀ offset, d.look m (d.settled m p) offset = d.look m p offset :=
    look_linked (.refl m) p _ _
  rw [linksAt_eq, hlook, hlook]
  unfold settled
  dsimp only
  rw [linksAt_eq]
  split
  · rfl
  · dsimp only
    rw [hagain, hagain]

theorem settled_settled (d : LaneDetector α) (m : RoadMap α) (p : RoadPoint α) :
    d.settled m (d.settled m p) = d.settled m p := by
  rw [settled, linksAt_settled, Option.or_none, Option.or_none]

/-- Looks at one point of a map and links it at once. -/
def linkPoint (d : LaneDetector α) (m : RoadMap α) (id : PointId) : RoadMap α :=
  { m with points := m.points.modify id.index (d.settled m) }

/-- Looks at one point after the other. -/
def linkInTurn (d : LaneDetector α) (m : RoadMap α) (order : List PointId) : RoadMap α :=
  order.foldl d.linkPoint m

theorem point_linkPoint (d : LaneDetector α) {id : PointId} (hp : p.index < m.points.size) :
    (d.linkPoint m id).point p = if p = id then d.settled m (m.point p) else m.point p := by
  unfold linkPoint RoadMap.point
  dsimp only
  rw [Array.getD_eq_getD_getElem?, Array.getElem?_modify, Array.getD_eq_getD_getElem?,
    Array.getElem?_eq_getElem hp]
  by_cases heq : p = id
  · rw [if_pos heq, if_pos (congrArg PointId.index heq).symm]
    rfl
  · rw [if_neg heq, if_neg fun h => heq (congrArg PointId.mk h).symm]

theorem sameRoads_linkPoint (d : LaneDetector α) (m : RoadMap α) (id : PointId) :
    m.SameRoads (d.linkPoint m id) where
  size := Array.size_modify
  junctions := rfl
  splines := rfl
  tree := rfl
  point p := by
    rcases Nat.lt_or_ge p.index m.points.size with hp | hp
    · rw [point_linkPoint d hp]
      split <;> rfl
    · have hsize : (d.linkPoint m id).points.size = m.points.size := Array.size_modify
      rw [RoadMap.point_outside hp, RoadMap.point_outside (hsize ▸ hp)]

/-- What has become of a map when some of its points have been linked: these are settled, as they
are on the map that was there at first, and the others are as they were. -/
structure Settles (d : LaneDetector α) (m : RoadMap α) (linked : List PointId) (m' : RoadMap α) :
    Prop where
  roads : m.SameRoads m'
  point : ∀ {p : PointId}, p.index < m.points.size →
    m'.point p = if p ∈ linked then d.settled m (m.point p) else m.point p

theorem Settles.linkPoint {linked : List PointId} (h : d.Settles m linked m') (id : PointId) :
    d.Settles m (id :: linked) (d.linkPoint m' id) where
  roads := h.roads.trans (sameRoads_linkPoint d m' id)
  point {p} hp := by
    rw [point_linkPoint d (h.roads.size.symm ▸ hp), settled_congr h.roads, h.point hp]
    by_cases heq : p = id
    · -- a point that is linked once more stays as it is
      rw [if_pos heq, if_pos (List.mem_cons.mpr (.inl heq))]
      split
      · exact settled_settled d m _
      · rfl
    · rw [if_neg heq]
      simp only [List.mem_cons, heq, false_or]

theorem Settles.linkInTurn {linked : List PointId} (h : d.Settles m linked m')
    (order : List PointId) :
    ∃ linked', (∀ p, p ∈ linked' ↔ p ∈ order ∨ p ∈ linked) ∧
      d.Settles m linked' (d.linkInTurn m' order) := by
  induction order generalizing linked m' with
  | nil => exact ⟨linked, fun p => by simp, h⟩
  | cons id order ih =>
    obtain ⟨linked', hlinked, hsettles⟩ := ih (h.linkPoint id)
    refine ⟨linked', fun p => ?_, hsettles⟩
    rw [hlinked, List.mem_cons, List.mem_cons, or_left_comm, or_assoc]

/-! ## All points at once -/

/-- All points are settled by a detection. -/
theorem point_detect (h : Answers (d.detect m) (added, m')) (hp : p.index < m.points.size) :
    m'.point p = d.settled m (m.point p) := by
  rw [detect_answers h, RoadMap.point_addLaneLinks hp]
  rfl

theorem extends_detect (h : Answers (d.detect m) (added, m')) : m.Extends m' := by
  rw [detect_answers h]
  exact RoadMap.extends_addLaneLinks m (d.linksAt m)

/-- In whatever order the points are linked one by one, the map is the same in the end. -/
theorem linkInTurn_eq (h : Answers (d.detect m) (added, m')) {order : List PointId}
    (horder : ∀ p : PointId, p ∈ order ↔ p.index < m.size) : d.linkInTurn m order = m' := by
  have hbegin : d.Settles m [] m := ⟨.refl m, fun _ => rfl⟩
  obtain ⟨linked, hlinked, hsettles⟩ := hbegin.linkInTurn order
  have hroads := (extends_detect h).toSameRoads
  -- both maps have all of their points settled
  refine (hroads.symm.trans hsettles.roads).eq fun p hp => ?_
  rw [hroads.size] at hp
  rw [point_detect h hp, hsettles.point hp, if_pos]
  exact (hlinked p).mpr (.inl ((horder p).mpr hp))

theorem countLinks_eq (links : List (Option PointId × Option PointId)) :
    countLinks links = links.countP (·.1.isSome) + links.countP (·.2.isSome) := by
  unfold countLinks
  induction links with
  | nil => rfl
  | cons link links ih =>
    rw [List.map_cons, List.foldr_cons, ih, List.countP_cons, List.countP_cons]
    simp only [Bool.toNat, Bool.cond_eq_ite]
    omega

/-- Where there is a link, none is looked for. -/
theorem linksAt_linked (d : LaneDetector α) (m : RoadMap α) (p : RoadPoint α) :
    (p.left.isNone = false → (d.linksAt m p).1 = none) ∧
      (p.right.isNone = false → (d.linksAt m p).2 = none) := by
  rw [linksAt_eq]
  split
  · exact ⟨fun _ => rfl, fun _ => rfl⟩
  · exact ⟨fun hleft => if_neg (hleft ▸ Bool.false_ne_true),
      fun hright => if_neg (hright ▸ Bool.false_ne_true)⟩

/-- A link is found where there was none and is one then. -/
theorem linksAt_isSome (d : LaneDetector α) (m : RoadMap α) (p : RoadPoint α) :
    (d.linksAt m p).1.isSome = (p.left.isNone && (d.settled m p).left.isSome) ∧
      (d.linksAt m p).2.isSome = (p.right.isNone && (d.settled m p).right.isSome) := by
  have hside : ∀ link found : Option PointId, (link.isNone = false → found = none) →
      found.isSome = (link.isNone && (link.or found).isSome) := by
    intro link found hfound
    cases link with
    | none => rfl
    | some q =>
      rw [hfound rfl]
      rfl
  exact ⟨hside _ _ (linksAt_linked d m p).1, hside _ _ (linksAt_linked d m p).2⟩

/-- What is answered is the number of sides that are linked anew. -/
theorem added_eq (h : Answers (d.detect m) (added, m')) : added = m.sidesGained m' := by
  rw [detect_added h, countLinks_eq, RoadMap.points_eq_map]
  unfold RoadMap.sidesGained
  rw [List.map_map, List.countP_map, List.countP_map]
  refine congrArg₂ _ (List.countP_congr fun i hi => ?_) (List.countP_congr fun i hi => ?_)
  · rw [point_detect h (List.mem_range.mp hi), ← (linksAt_isSome d m (m.point ⟨i⟩)).1]
    rfl
  · rw [point_detect h (List.mem_range.mp hi), ← (linksAt_isSome d m (m.point ⟨i⟩)).2]
    rfl

/-- A second detection finds nothing. -/
theorem detect_again (h : Answers (d.detect m) (added, m')) {added' : Nat} {m'' : RoadMap α}
    (h' : Answers (d.detect m') (added', m'')) : added' = 0 ∧ m'' = m' := by
  have hroads := (extends_detect h).toSameRoads
  have hnone : ∀ {p : PointId}, p.index < m'.points.size →
      d.linksAt m' (m'.point p) = (none, none) := by
    intro p hp
    rw [linksAt_congr hroads, point_detect h (hroads.size ▸ hp), linksAt_settled]
  have hsame : m'' = m' := (extends_detect h').toSameRoads.eq fun p hp => by
    rw [point_detect h' hp, settled, hnone hp, Option.or_none, Option.or_none]
  refine ⟨?_, hsame⟩
  rw [added_eq h', hsame, RoadMap.sidesGained_self]

/-- Detecting lanes on a map always succeeds. It adds links where there are none and changes nothing
else, so that it leaves a map, and it answers how many sides have been linked. The order of the
points does not matter, although each is linked on a map on which the ones before it are linked
already, and nothing is left to be found by a second detection. -/
theorem detect_settles {points : Array (RoadPoint α)} {junctions : Array (Junction α)}
    {splines : List Spline} (hm : RoadMap.ofParts points junctions splines = .ok m)
    (d : LaneDetector α) :
    Faultless (d.detect m) ∧ ∀ added m', Answers (d.detect m) (added, m') →
      m.Extends m' ∧ RoadMap.ofParts m'.points m'.junctions m'.splines = .ok m' ∧
        added = m.sidesGained m' ∧
        (∀ order : List PointId, (∀ p : PointId, p ∈ order ↔ p.index < m.size) →
          d.linkInTurn m order = m') ∧
        Faultless (d.detect m') ∧ ∀ added' m'', Answers (d.detect m') (added', m'') →
          added' = 0 ∧ m'' = m' := by
  refine ⟨faultless_detect d m, fun added m' h => ?_⟩
  have hextends := extends_detect h
  have hgains : ∀ {p q}, m.Gains m' p q → q.index < m.points.size := by
    intro p q hgains
    rw [detect_answers h] at hgains
    exact linksAt_inside hm (RoadMap.of_gains hgains).2
  exact ⟨hextends, hextends.toSameRoads.ofParts hm hgains, added_eq h,
    fun order horder => linkInTurn_eq h horder, faultless_detect d m',
    fun added' m'' h' => detect_again h h'⟩

end

/-- The points of two lanes side by side that are not linked. -/
private def apartPoints : Array (RoadPoint Rat) :=
  sideBySidePoints.map fun p => { p with left := none, right := none }

/-- Their road. -/
private def apart : RoadMap Rat := { sideBySide with points := apartPoints }

private theorem apart_wellFormed : RoadMap.ofParts apartPoints #[] [] = .ok apart := by
  obtain ⟨-, hroad⟩ := RoadMap.ofParts_eq_ok.mp sideBySide_wellFormed
  have htree : sideBySide.tree =
      .ofSites (sideBySidePoints.toList.map fun p => (p.position, p.id)) :=
    congrArg RoadMap.tree hroad
  have hsites : apartPoints.toList.map (fun p => (p.position, p.id)) =
      sideBySidePoints.toList.map fun p => (p.position, p.id) := by
    rw [apartPoints, Array.toList_map, List.map_map]
    rfl
  have hcheck : Validation.check apartPoints #[] [] = .ok () := by decide +kernel
  refine RoadMap.ofParts_eq_ok.mpr ⟨hcheck, ?_⟩
  rw [hsites, ← htree]
  rfl

/-- Where the lanes lie side by side, the left one is linked to the right one. The right one ends
there, and so it is not linked to the left one. -/
theorem detect_settles_apart :
    RoadMap.ofParts apartPoints #[] [] = .ok apart ∧ ∃ m',
      Answers ((⟨3, 1, false⟩ : LaneDetector Rat).detect apart) (1, m') ∧
      (m'.point ⟨2⟩).right = some ⟨1⟩ ∧
      linkInTurn ⟨3, 1, false⟩ apart [⟨3⟩, ⟨0⟩, ⟨2⟩, ⟨1⟩, ⟨2⟩] = m' ∧
      Answers ((⟨3, 1, false⟩ : LaneDetector Rat).detect m') (0, m') := by
  obtain ⟨hfaultless, hsettles⟩ := detect_settles apart_wellFormed ⟨3, 1, false⟩
  obtain ⟨⟨added, m'⟩, hanswers⟩ := hfaultless.answers
  obtain ⟨-, -, hadded, horder, hagain, hnothing⟩ := hsettles added m' hanswers
  have hall : ∀ p : PointId, p ∈ [⟨3⟩, ⟨0⟩, ⟨2⟩, ⟨1⟩, (⟨2⟩ : PointId)] ↔ p.index < apart.size := by
    rintro ⟨i⟩
    rw [show apart.size = 4 by decide +kernel]
    simp only [List.mem_cons, PointId.mk.injEq, List.not_mem_nil, or_false]
    omega
  have hturn := horder _ hall
  obtain ⟨⟨added', m''⟩, hanswers'⟩ := hagain.answers
  obtain ⟨rfl, rfl⟩ := hnothing added' m'' hanswers'
  have hone : apart.sidesGained m'' = 1 := by
    rw [← hturn]
    decide +kernel
  refine ⟨apart_wellFormed, m'', hone ▸ hadded ▸ hanswers, ?_, hturn, hanswers'⟩
  rw [← hturn]
  decide +kernel

end LaneDetector

end RoadTraffic
