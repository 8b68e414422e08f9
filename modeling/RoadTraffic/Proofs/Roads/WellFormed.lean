import RoadTraffic.Proofs.Roads.Linked

/-!
# Well-formed graphs

`WellFormed` says of points, junctions and splines what the checks look for, but not how they look
for it: it speaks of the point and the junction with an index, and of no order in which they are
visited. A graph that is well-formed and has a point passes all checks (`check_of_wellFormed`).
-/

namespace RoadTraffic

theorem RoadPoint.mem_links {α : Type} {p : RoadPoint α} {q : PointId} :
    q ∈ p.links ↔ p.next = some q ∨ p.previous = some q ∨ p.left = some q ∨ p.right = some q := by
  simp [RoadPoint.links, List.mem_filterMap, eq_comm]

namespace Validation

variable {α : Type}

/-! ## The checks, one by one -/

theorem checkDistinct_of_places {seen : Array Bool} {n : Nat} {l : List (RoadPoint α)}
    (hplaces : ∀ i p, l[i]? = some p → p.id.index = n + i) (hsize : n + l.length ≤ seen.size)
    (hseen : ∀ i, n ≤ i → i < seen.size → seen[i]? = some false) :
    checkDistinct seen n l = .ok () := by
  induction l generalizing seen n with
  | nil => rfl
  | cons p l ih =>
    have hp : p.id.index = n := hplaces 0 p rfl
    rw [List.length_cons] at hsize
    unfold checkDistinct
    rw [hp, hseen n (Nat.le_refl n) (by omega)]
    refine ih (fun i q hq => ?_) ?_ fun i hi hlt => ?_
    · have hplace := hplaces (i + 1) q hq
      omega
    · rw [Array.set!_eq_setIfInBounds, Array.size_setIfInBounds]
      omega
    · rw [Array.set!_eq_setIfInBounds, Array.size_setIfInBounds] at hlt
      rw [Array.set!_eq_setIfInBounds, Array.getElem?_setIfInBounds, if_neg (by omega)]
      exact hseen i (by omega) hlt

theorem checkPlaces_of_places {n : Nat} {l : List (RoadPoint α)}
    (hplaces : ∀ i p, l[i]? = some p → p.id.index = n + i) : checkPlaces n l = .ok () := by
  induction l generalizing n with
  | nil => rfl
  | cons p l ih =>
    have hp : p.id.index = n := hplaces 0 p rfl
    unfold checkPlaces
    rw [if_pos hp]
    refine ih fun i q hq => ?_
    have hplace := hplaces (i + 1) q hq
    omega

theorem checkPoint_of {points : Array (RoadPoint α)} {p : RoadPoint α}
    (hlinks : ∀ q ∈ p.links, q.index < points.size)
    (hnext : ∀ q, p.next = some q → (points[q.index]?).bind (·.previous) = some p.id)
    (hprevious : ∀ q, p.previous = some q → (points[q.index]?).bind (·.next) = some p.id) :
    checkPoint points p = .ok () := by
  have hinside : p.links.find? (points.size ≤ ·.index) = none := by
    refine List.find?_eq_none.mpr fun q hq => ?_
    have hlt := hlinks q hq
    simpa using hlt
  unfold checkPoint
  rw [hinside]
  cases hn : p.next with
  | none =>
    cases hp : p.previous with
    | none => rfl
    | some q => simp [hprevious q hp, pure, Except.pure]
  | some next =>
    cases hp : p.previous with
    | none => simp [hnext next hn, pure, Except.pure]
    | some q => simp [hnext next hn, hprevious q hp, pure, Except.pure]

/-- A list of checks is passed by who passes each of them. -/
theorem forM_of_all {ε β : Type} {check : β → Except ε Unit} {l : List β}
    (h : ∀ b ∈ l, check b = .ok ()) : l.forM check = .ok () := by
  induction l with
  | nil => rfl
  | cons b l ih =>
    show (check b >>= fun _ => l.forM check) = .ok ()
    rw [h b (List.mem_cons_self ..)]
    exact ih fun c hc => h c (List.mem_cons_of_mem _ hc)

/-- No two junctions of a list have this end in common. -/
def Apart (side : Junction α → PointId) (js : List (Junction α)) : Prop :=
  ∀ (i i' : Nat) (j j' : Junction α), js[i]? = some j → js[i']? = some j' → side j = side j' →
    i = i'

/-- At the end of the junction at place `n` no earlier one has the same end. -/
theorem Names.free {table : Array (Option JunctionId)} {side : Junction α → PointId}
    {js : List (Junction α)} {n : Nat} {junction : Junction α} (h : Names table side js n)
    (hapart : Apart side js) (hj : js[n]? = some junction) :
    table.getD (side junction).index none = none := by
  cases hnamed : table.getD (side junction).index none with
  | none => rfl
  | some j =>
    obtain ⟨hlt, other, hother, hside⟩ := (h _ _).mp hnamed
    have hsame := hapart _ _ _ _ hother hj (congrArg PointId.mk hside)
    exact absurd hsame (Nat.ne_of_lt hlt)

theorem gatherEnds_of [Scalar α] {size n : Nat} {js : List (Junction α)} {ends : JunctionEnds}
    (hends : Gathered size js n ends)
    (hjs : ∀ (i : Nat) (j : Junction α), js[i]? = some j → j.id.index = i ∧ j.start.index < size ∧
      j.finish.index < size ∧ isProbability j.probability)
    (hstarts : Apart (·.start) js) (hfinishes : Apart (·.finish) js) :
    ∃ ends', gatherEnds ends n (js.drop n) = .ok ends' := by
  generalize hrest : js.drop n = rest
  induction rest generalizing n ends with
  | nil => exact ⟨ends, rfl⟩
  | cons junction rest ih =>
    have hj : js[n]? = some junction := by
      rw [← Nat.add_zero n, ← List.getElem?_drop, hrest, List.getElem?_cons_zero]
    have htail : js.drop (n + 1) = rest := by
      rw [← List.drop_drop, hrest, List.drop_succ_cons, List.drop_zero]
    obtain ⟨hid, hstart, hfinish, hprobability⟩ := hjs n junction hj
    have hfreeStart := hends.starts.free hstarts hj
    have hfreeFinish := hends.finishes.free hfinishes hj
    unfold gatherEnds
    rw [if_neg (by rw [hends.starts_size]; omega), if_neg (not_not.mpr hprobability),
      if_neg (by rw [hfreeStart]; decide), if_neg (by rw [hfreeFinish]; decide)]
    refine ih ⟨?_, ?_, ?_, ?_⟩ htail
    · simp only [Array.set!_eq_setIfInBounds, Array.size_setIfInBounds, hends.starts_size]
    · simp only [Array.set!_eq_setIfInBounds, Array.size_setIfInBounds, hends.finishes_size]
    · exact hends.starts.insert hj hid (hends.starts_size ▸ hstart) hfreeStart
    · exact hends.finishes.insert hj hid (hends.finishes_size ▸ hfinish) hfreeFinish

theorem checkSplines_of {points : Array (RoadPoint α)} {names : List String} {l : List Spline}
    (hnew : ∀ s ∈ l, s.name ∉ names) (hnames : (l.map (·.name)).Nodup)
    (hpoints : ∀ s ∈ l, ∀ p ∈ s.points, p.index < points.size) :
    checkSplines points names l = .ok () := by
  induction l generalizing names with
  | nil => rfl
  | cons s l ih =>
    rw [List.map_cons, List.nodup_cons] at hnames
    have hinside : s.points.find? (points.size ≤ ·.index) = none := by
      refine List.find?_eq_none.mpr fun p hp => ?_
      have hlt := hpoints s (List.mem_cons_self ..) p hp
      simpa using hlt
    unfold checkSplines
    rw [if_neg (hnew s (List.mem_cons_self ..)), hinside]
    refine ih (fun t ht hmem => ?_) hnames.2 fun t ht => hpoints t (List.mem_cons_of_mem _ ht)
    rcases List.mem_cons.mp hmem with heq | hmem
    · exact hnames.1 (heq ▸ List.mem_map_of_mem ht)
    · exact hnew t (List.mem_cons_of_mem _ ht) hmem

/-! ## Well-formed graphs -/

variable [Scalar α]

/-- The point of an index, and an unlinked one where there is none. -/
def pointAt (points : Array (RoadPoint α)) (p : PointId) : RoadPoint α :=
  points.getD p.index default

/-- The junction of an index. -/
def junctionAt (junctions : Array (Junction α)) (j : JunctionId) : Junction α :=
  junctions.getD j.index default

/-- Points, junctions and splines fit together. -/
structure WellFormed (points : Array (RoadPoint α)) (junctions : Array (Junction α))
    (splines : List Spline) : Prop where
  id : ∀ {p : PointId}, p.index < points.size → (pointAt points p).id = p
  link : ∀ {p q : PointId}, q ∈ (pointAt points p).links → q.index < points.size
  chain : ∀ {p q : PointId},
    (pointAt points p).next = some q ↔ (pointAt points q).previous = some p
  junction : ∀ {j : JunctionId}, j.index < junctions.size → (junctionAt junctions j).id = j
  start : ∀ {j : JunctionId}, j.index < junctions.size →
    (junctionAt junctions j).start.index < points.size
  finish : ∀ {j : JunctionId}, j.index < junctions.size →
    (junctionAt junctions j).finish.index < points.size
  probability : ∀ {j : JunctionId}, j.index < junctions.size →
    isProbability (junctionAt junctions j).probability
  branch : ∀ {p : PointId} {j : JunctionId}, (pointAt points p).branch = some j ↔
    j.index < junctions.size ∧ (junctionAt junctions j).start = p
  merge : ∀ {p : PointId} {j : JunctionId}, (pointAt points p).merge = some j ↔
    j.index < junctions.size ∧ (junctionAt junctions j).finish = p
  names : (splines.map (·.name)).Nodup
  onSpline : ∀ {s : Spline}, s ∈ splines → ∀ {p : PointId}, p ∈ s.points → p.index < points.size

variable {points : Array (RoadPoint α)} {junctions : Array (Junction α)} {splines : List Spline}

theorem pointAt_eq {i : Nat} {p : RoadPoint α} (h : points[i]? = some p) :
    pointAt points ⟨i⟩ = p := by
  unfold pointAt
  rw [Array.getD_eq_getD_getElem?, h]
  rfl

theorem pointAt_outside {p : PointId} (h : points.size ≤ p.index) :
    pointAt points p = default := by
  unfold pointAt
  rw [Array.getD_eq_getD_getElem?, Array.getElem?_eq_none h]
  rfl

theorem getElem?_eq_pointAt {p : PointId} (h : p.index < points.size) :
    points[p.index]? = some (pointAt points p) := by
  unfold pointAt
  rw [Array.getD_eq_getD_getElem?, Array.getElem?_eq_getElem h]
  rfl

theorem junctionAt_eq {i : Nat} {j : Junction α} (h : junctions[i]? = some j) :
    junctionAt junctions ⟨i⟩ = j := by
  unfold junctionAt
  rw [Array.getD_eq_getD_getElem?, h]
  rfl

theorem getElem?_eq_junctionAt {j : JunctionId} (h : j.index < junctions.size) :
    junctions[j.index]? = some (junctionAt junctions j) := by
  unfold junctionAt
  rw [Array.getD_eq_getD_getElem?, Array.getElem?_eq_getElem h]
  rfl

/-- The points of the list are those that the indices find. -/
theorem WellFormed.at_place (h : WellFormed points junctions splines) {p : RoadPoint α}
    {i : Nat} (hp : points.toList[i]? = some p) :
    pointAt points ⟨i⟩ = p ∧ i < points.size ∧ p.id = ⟨i⟩ := by
  rw [Array.getElem?_toList] at hp
  have hi : i < points.size := (Array.getElem?_eq_some_iff.mp hp).1
  have heq := pointAt_eq hp
  refine ⟨heq, hi, ?_⟩
  rw [← heq]
  exact h.id hi

theorem WellFormed.checkIds (h : WellFormed points junctions splines) :
    checkIds points = .ok () := by
  have hplaces : ∀ i p, points.toList[i]? = some p → p.id.index = 0 + i := by
    intro i p hp
    rw [(h.at_place hp).2.2, Nat.zero_add]
  have hdistinct : checkDistinct (Array.replicate points.size false) 0 points.toList = .ok () := by
    refine checkDistinct_of_places hplaces ?_ fun i _ hi => ?_
    · exact Nat.le_of_eq (by rw [Array.size_replicate, Array.length_toList, Nat.zero_add])
    · rw [Array.size_replicate] at hi
      rw [Array.getElem?_replicate, if_pos hi]
  unfold Validation.checkIds
  rw [hdistinct]
  exact checkPlaces_of_places hplaces

theorem WellFormed.checkLinks (h : WellFormed points junctions splines) :
    checkLinks points = .ok () := by
  refine forM_of_all fun p hp => ?_
  obtain ⟨i, hi⟩ := List.mem_iff_getElem?.mp hp
  obtain ⟨heq, hlt, hid⟩ := h.at_place hi
  -- a neighbour along the lane is a point of the graph and leads back
  have hback : ∀ {q : PointId} {side : RoadPoint α → Option PointId}, q ∈ p.links →
      side (pointAt points q) = some ⟨i⟩ → (points[q.index]?).bind side = some p.id := by
    intro q side hq hside
    rw [getElem?_eq_pointAt (h.link (heq ▸ hq)), hid]
    exact hside
  refine checkPoint_of (fun q hq => h.link (heq ▸ hq)) (fun q hq => ?_) fun q hq => ?_
  · exact hback (by simp [RoadPoint.links, hq]) (h.chain.mp (heq ▸ hq))
  · exact hback (by simp [RoadPoint.links, hq]) (h.chain.mpr (heq ▸ hq))

/-- The junctions of the list are those that the indices find. -/
theorem junctionAt_place {i : Nat} {j : Junction α} (hj : junctions.toList[i]? = some j) :
    i < junctions.size ∧ junctionAt junctions ⟨i⟩ = j := by
  rw [Array.getElem?_toList] at hj
  exact ⟨(Array.getElem?_eq_some_iff.mp hj).1, junctionAt_eq hj⟩

/-- Where points name the junctions that have an end there, no two junctions share it. -/
theorem apart_of_named {side : Junction α → PointId} {link : PointId → Option JunctionId}
    (h : ∀ {p j}, link p = some j ↔ j.index < junctions.size ∧ side (junctionAt junctions j) = p) :
    Apart side junctions.toList := by
  intro i i' j j' hj hj' hside
  obtain ⟨hi, rfl⟩ := junctionAt_place hj
  obtain ⟨hi', rfl⟩ := junctionAt_place hj'
  have hnamed := h.mpr ⟨hi, hside⟩
  rw [h.mpr ⟨hi', rfl⟩, Option.some.injEq, JunctionId.mk.injEq] at hnamed
  exact hnamed.symm

/-- A table that names the junctions at their ends has what the points name. -/
theorem Names.eq_named {table : Array (Option JunctionId)} {side : Junction α → PointId}
    {link : PointId → Option JunctionId} {n : Nat} (hnames : Names table side junctions.toList n)
    (hn : junctions.toList.length ≤ n)
    (h : ∀ {p j}, link p = some j ↔ j.index < junctions.size ∧ side (junctionAt junctions j) = p)
    (p : PointId) : link p = table.getD p.index none := by
  refine Option.ext fun j => ?_
  rw [h, hnames]
  constructor
  · rintro ⟨hj, hside⟩
    refine ⟨Nat.lt_of_lt_of_le hj (Array.length_toList ▸ hn), _, ?_, congrArg PointId.index hside⟩
    rw [Array.getElem?_toList]
    exact getElem?_eq_junctionAt hj
  · rintro ⟨-, junction, hj, hside⟩
    obtain ⟨hlt, rfl⟩ := junctionAt_place hj
    exact ⟨hlt, congrArg PointId.mk hside⟩

theorem WellFormed.checkJunctions (h : WellFormed points junctions splines) :
    checkJunctions points junctions = .ok () := by
  have hnowhere : Gathered points.size junctions.toList 0
      ⟨Array.replicate points.size none, Array.replicate points.size none⟩ :=
    ⟨Array.size_replicate, Array.size_replicate, names_nowhere _ _ _, names_nowhere _ _ _⟩
  have hjs : ∀ (i : Nat) (j : Junction α), junctions.toList[i]? = some j → j.id.index = i ∧
      j.start.index < points.size ∧ j.finish.index < points.size ∧ isProbability j.probability := by
    intro i j hj
    obtain ⟨hi, rfl⟩ := junctionAt_place hj
    exact ⟨congrArg JunctionId.index (h.junction hi), h.start hi, h.finish hi, h.probability hi⟩
  obtain ⟨ends, hends⟩ := gatherEnds_of hnowhere hjs (apart_of_named h.branch)
    (apart_of_named h.merge)
  obtain ⟨n, hn, hgathered⟩ := gatherEnds_ok hnowhere hends
  rw [List.drop_zero] at hends
  unfold Validation.checkJunctions
  dsimp only
  rw [hends]
  refine forM_of_all fun p hp => ?_
  obtain ⟨i, hi⟩ := List.mem_iff_getElem?.mp hp
  obtain ⟨heq, -, hid⟩ := h.at_place hi
  unfold checkEnds
  rw [if_pos]
  rw [hid, ← heq]
  exact ⟨hgathered.starts.eq_named hn h.branch ⟨i⟩, hgathered.finishes.eq_named hn h.merge ⟨i⟩⟩

/-- Points that keep their indices and their junctions may be linked anew, if the links fit. -/
theorem WellFormed.relink {points' : Array (RoadPoint α)}
    (h : WellFormed points junctions splines) (hsize : points'.size = points.size)
    (hid : ∀ p, (pointAt points' p).id = (pointAt points p).id)
    (hbranch : ∀ p, (pointAt points' p).branch = (pointAt points p).branch)
    (hmerge : ∀ p, (pointAt points' p).merge = (pointAt points p).merge)
    (hlink : ∀ {p q : PointId}, q ∈ (pointAt points' p).links → q.index < points.size)
    (hchain : ∀ {p q : PointId},
      (pointAt points' p).next = some q ↔ (pointAt points' q).previous = some p) :
    WellFormed points' junctions splines where
  id hp := (hid _).trans (h.id (hsize ▸ hp))
  link hq := hsize.symm ▸ hlink hq
  chain := hchain
  junction := h.junction
  start hj := hsize.symm ▸ h.start hj
  finish hj := hsize.symm ▸ h.finish hj
  probability := h.probability
  branch := hbranch _ ▸ h.branch
  merge := hmerge _ ▸ h.merge
  names := h.names
  onSpline hs _ hp := hsize.symm ▸ h.onSpline hs hp

/-- A well-formed graph that has a point passes all checks. -/
theorem check_of_wellFormed (h : WellFormed points junctions splines) (hpoint : points.size ≠ 0) :
    check points junctions splines = .ok () := by
  have hsplines : checkSplines points [] splines = .ok () :=
    checkSplines_of (fun s _ => List.not_mem_nil) h.names fun s hs p => h.onSpline hs
  have hempty : ¬ points.isEmpty := by simpa [Array.isEmpty] using hpoint
  unfold check
  rw [if_neg hempty, h.checkIds, h.checkLinks, h.checkJunctions, hsplines]
  rfl

end Validation

end RoadTraffic
