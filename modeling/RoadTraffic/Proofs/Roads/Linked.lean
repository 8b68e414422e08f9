import RoadTraffic.Proofs.Journal.Answers
import RoadTraffic.Roads.Map

/-!
# What validated roads promise

A map that has passed the checks is linked both ways: the next point of a point leads back to it, a
point names a junction exactly if the junction starts or ends there, and so the other end of the
junction names it too (`Validated.linked`).

The links have no preferred direction. The map with the direction of travel turned round
(`reverse`) is linked as well, so that what is proved about the way ahead holds for the way back.
-/

namespace RoadTraffic

namespace Validation

variable {α : Type}

theorem checkPlaces_ok {n : Nat} {l : List (RoadPoint α)} (h : checkPlaces n l = .ok ()) :
    ∀ i p, l[i]? = some p → p.id.index = n + i := by
  induction l generalizing n with
  | nil => simp
  | cons q l ih =>
    unfold checkPlaces at h
    split at h
    · next hq =>
      intro i p hp
      cases i with
      | zero =>
        simp only [List.getElem?_cons_zero, Option.some.injEq] at hp
        rw [← hp, hq, Nat.add_zero]
      | succ i =>
        rw [List.getElem?_cons_succ] at hp
        have hplace := ih h i p hp
        omega
    · cases h

/-- The links of a point stay within the map, and its neighbours along the lane lead back to it. -/
theorem checkPoint_ok {points : Array (RoadPoint α)} {p : RoadPoint α}
    (h : checkPoint points p = .ok ()) :
    (∀ q ∈ p.links, q.index < points.size) ∧
    (∀ q, p.next = some q → (points[q.index]?).bind (·.previous) = some p.id) ∧
      ∀ q, p.previous = some q → (points[q.index]?).bind (·.next) = some p.id := by
  unfold checkPoint at h
  extract_lets atPrevious atNext at h
  have hprevious : atPrevious () = .ok () →
      ∀ q, p.previous = some q → (points[q.index]?).bind (·.next) = some p.id := by
    intro h q hq
    simp only [atPrevious, hq] at h
    by_contra hne
    rw [if_neg hne] at h
    cases h
  cases hfind : p.links.find? (points.size ≤ ·.index) with
  | some target =>
    rw [hfind] at h
    cases h
  | none =>
    have hinside : ∀ q ∈ p.links, q.index < points.size := by
      intro q hq
      have hlt := List.find?_eq_none.mp hfind q hq
      rwa [decide_eq_true_eq, Nat.not_le] at hlt
    rw [hfind] at h
    simp only [atNext] at h
    split at h
    · next next hnext =>
      obtain ⟨hback, h⟩ := of_demand (k := atPrevious) h
      refine ⟨hinside, fun q hq => ?_, hprevious h⟩
      rw [hnext, Option.some.injEq] at hq
      rw [← hq]
      exact hback
    · next hnone => exact ⟨hinside, fun q hq => absurd hq (hnone q), hprevious h⟩

/-- The table names, for each point, the junctions before place `n` that have this end there. -/
def Names (table : Array (Option JunctionId)) (side : Junction α → PointId)
    (js : List (Junction α)) (n : Nat) : Prop :=
  ∀ i j, table.getD i none = some j ↔
    j.index < n ∧ ∃ junction, js[j.index]? = some junction ∧ (side junction).index = i

theorem names_nowhere (side : Junction α → PointId) (js : List (Junction α)) (size : Nat) :
    Names (Array.replicate size none) side js 0 := by
  intro i j
  have hnone : (Array.replicate size (none : Option JunctionId)).getD i none = none := by
    rw [Array.getD_eq_getD_getElem?, Array.getElem?_replicate]
    split <;> rfl
  simp [hnone]

/-- One more junction, at an end that no junction has yet. -/
theorem Names.insert {table : Array (Option JunctionId)} {side : Junction α → PointId}
    {js : List (Junction α)} {n : Nat} {junction : Junction α} (h : Names table side js n)
    (hj : js[n]? = some junction) (hid : junction.id.index = n)
    (hsize : (side junction).index < table.size)
    (hfree : table.getD (side junction).index none = none) :
    Names (table.set! (side junction).index (some junction.id)) side js (n + 1) := by
  intro i j
  have hget : (table.set! (side junction).index (some junction.id)).getD i none =
      if (side junction).index = i then some junction.id else table.getD i none := by
    simp only [Array.set!_eq_setIfInBounds, Array.getD_eq_getD_getElem?,
      Array.getElem?_setIfInBounds]
    split
    · simp
    · rfl
  rw [hget]
  constructor
  · intro hij
    split at hij
    · next hi =>
      rw [Option.some.injEq] at hij
      rw [← hij, hid]
      exact ⟨Nat.lt_succ_self n, junction, hj, hi⟩
    · obtain ⟨hn, hside⟩ := (h i j).mp hij
      exact ⟨Nat.lt_succ_of_lt hn, hside⟩
  · rintro ⟨hn, other, hother, hi⟩
    rcases Nat.lt_succ_iff_lt_or_eq.mp hn with hlt | heq
    · have hnamed := (h i j).mpr ⟨hlt, other, hother, hi⟩
      rw [if_neg ?_]
      · exact hnamed
      · intro hi'
        rw [← hi', hfree] at hnamed
        cases hnamed
    · rw [heq, hj, Option.some.injEq] at hother
      rw [hother, if_pos hi, ← hother, Option.some.injEq]
      exact congrArg JunctionId.mk (hid.trans heq.symm)

/-- Both tables name the junctions before place `n`, and have room for every point. -/
structure Gathered (size : Nat) (js : List (Junction α)) (n : Nat) (ends : JunctionEnds) :
    Prop where
  starts_size : ends.starts.size = size
  finishes_size : ends.finishes.size = size
  starts : Names ends.starts (·.start) js n
  finishes : Names ends.finishes (·.finish) js n

theorem gatherEnds_ok [Scalar α] {size n : Nat} {js : List (Junction α)} {ends ends' : JunctionEnds}
    (hends : Gathered size js n ends) (h : gatherEnds ends n (js.drop n) = .ok ends') :
    ∃ n', js.length ≤ n' ∧ Gathered size js n' ends' := by
  -- the junctions still to be gathered are those from place `n` on
  generalize hrest : js.drop n = rest at h
  induction rest generalizing n ends with
  | nil =>
    cases h
    exact ⟨n, List.drop_eq_nil_iff.mp hrest, hends⟩
  | cons junction rest ih =>
    have hj : js[n]? = some junction := by
      rw [← Nat.add_zero n, ← List.getElem?_drop, hrest, List.getElem?_cons_zero]
    have htail : js.drop (n + 1) = rest := by
      rw [← List.drop_drop, hrest, List.drop_succ_cons, List.drop_zero]
    unfold gatherEnds at h
    split at h
    · cases h
    next hplace =>
    split at h
    · cases h
    split at h
    · cases h
    next hstart =>
    split at h
    · cases h
    next hfinish =>
    obtain ⟨hid, hstartSize, hfinishSize⟩ := by
      simpa only [not_or, not_not, Nat.not_le] using hplace
    simp only [Bool.not_eq_true, Option.isSome_eq_false_iff, Option.isNone_iff_eq_none]
      at hstart hfinish
    have hsizes : ends.finishes.size = ends.starts.size :=
      hends.finishes_size.trans hends.starts_size.symm
    refine ih ⟨?_, ?_, ?_, ?_⟩ htail h
    · simp only [Array.set!_eq_setIfInBounds, Array.size_setIfInBounds, hends.starts_size]
    · simp only [Array.set!_eq_setIfInBounds, Array.size_setIfInBounds, hends.finishes_size]
    · exact hends.starts.insert hj hid hstartSize hstart
    · exact hends.finishes.insert hj hid (hsizes ▸ hfinishSize) hfinish

/-- A junction of the list is named at its end once all of them are gathered. -/
theorem Names.of_mem {table : Array (Option JunctionId)} {side : Junction α → PointId}
    {js : List (Junction α)} {n : Nat} (h : Names table side js n) (hn : js.length ≤ n)
    {j : JunctionId} {junction : Junction α} (hj : js[j.index]? = some junction) :
    table.getD (side junction).index none = some j :=
  (h _ _).mpr ⟨Nat.lt_of_lt_of_le (List.getElem?_eq_some_iff.mp hj).1 hn, junction, hj, rfl⟩

/-- All checks are passed by who passes each of them. -/
theorem check_ok [Scalar α] {points : Array (RoadPoint α)} {junctions : Array (Junction α)}
    {splines : List Spline} (h : check points junctions splines = .ok ()) :
    points.size ≠ 0 ∧ checkPlaces 0 points.toList = .ok () ∧ checkLinks points = .ok () ∧
      (∃ ends, gatherEnds ⟨Array.replicate points.size none, Array.replicate points.size none⟩ 0
          junctions.toList = .ok ends ∧ points.toList.forM (checkEnds ends) = .ok ()) ∧
      checkSplines points [] splines = .ok () := by
  unfold check at h
  extract_lets afterwards at h
  obtain ⟨hempty, h⟩ := of_refusal (k := afterwards) h
  obtain ⟨⟨⟩, hids, h⟩ := of_step h
  obtain ⟨⟨⟩, hlinks, h⟩ := of_step h
  obtain ⟨⟨⟩, hjunctions, hsplines⟩ := of_step h
  obtain ⟨⟨⟩, -, hplaces⟩ := of_step hids
  exact ⟨by simpa [Array.isEmpty] using hempty, hplaces, hlinks, of_step hjunctions, hsplines⟩

end Validation

namespace RoadMap

variable {α : Type} [Scalar α]

/-- The parts of the map have passed the checks. -/
def Validated (m : RoadMap α) : Prop :=
  Validation.check m.points m.junctions m.splines = .ok ()

/-- A map is made of parts that pass the checks, and of nothing else. -/
theorem ofParts_eq_ok {points : Array (RoadPoint α)} {junctions : Array (Junction α)}
    {splines : List Spline} {m : RoadMap α} :
    ofParts points junctions splines = .ok m ↔
      Validation.check points junctions splines = .ok () ∧
        m = ⟨points, junctions, splines,
          .ofSites (points.toList.map fun p => (p.position, p.id))⟩ := by
  unfold ofParts
  cases Validation.check points junctions splines with
  | error e => exact ⟨fun h => (nomatch h), fun h => (nomatch h.1)⟩
  | ok u => exact ⟨fun h => ⟨rfl, (Except.ok.inj h).symm⟩, fun h => congrArg Except.ok h.2.symm⟩

theorem validated_of_ofParts {points : Array (RoadPoint α)} {junctions : Array (Junction α)}
    {splines : List Spline} {m : RoadMap α} (h : ofParts points junctions splines = .ok m) :
    m.Validated := by
  obtain ⟨hcheck, rfl⟩ := ofParts_eq_ok.mp h
  exact hcheck

/-- The links of a map lead both ways. -/
structure Linked (m : RoadMap α) : Prop where
  previous_of_next : ∀ {p q}, (m.point p).next = some q → (m.point q).previous = some p
  next_of_previous : ∀ {p q}, (m.point q).previous = some p → (m.point p).next = some q
  start_of_branch : ∀ {p j}, (m.point p).branch = some j → (m.junction j).start = p
  finish_of_merge : ∀ {p j}, (m.point p).merge = some j → (m.junction j).finish = p
  merge_of_branch : ∀ {p j},
    (m.point p).branch = some j → (m.point (m.junction j).finish).merge = some j
  branch_of_merge : ∀ {p j},
    (m.point p).merge = some j → (m.point (m.junction j).start).branch = some j

/-- A look-up outside the map finds a point without links. -/
theorem point_outside {m : RoadMap α} {p : PointId} (h : m.points.size ≤ p.index) :
    m.point p = default := by
  unfold point
  rw [Array.getD_eq_getD_getElem?, Array.getElem?_eq_none h]
  rfl

theorem point_mem {m : RoadMap α} {p : PointId} (h : p.index < m.points.size) :
    m.points.toList[p.index]? = some (m.point p) := by
  unfold point
  rw [Array.getD_eq_getD_getElem?, Array.getElem?_toList, Array.getElem?_eq_getElem h]
  rfl

/-- To ask for a point of the map is no fault, and to ask for any other one is. -/
theorem demandPoint_cases (m : RoadMap α) (p : PointId) :
    (p.index < m.size ∧ m.demandPoint p = .ok (m.point p)) ∨
      (¬ p.index < m.size ∧ m.demandPoint p = .error (.missingPoint p.index)) := by
  unfold demandPoint point size
  rw [Array.getD_eq_getD_getElem?]
  by_cases hp : p.index < m.points.size
  · rw [Array.getElem?_eq_getElem hp]
    exact Or.inl ⟨hp, rfl⟩
  · rw [Array.getElem?_eq_none (Nat.le_of_not_lt hp)]
    exact Or.inr ⟨hp, rfl⟩

theorem junction_eq {m : RoadMap α} {j : JunctionId} {junction : Junction α}
    (h : m.junctions.toList[j.index]? = some junction) : m.junction j = junction := by
  rw [Array.getElem?_toList] at h
  unfold RoadMap.junction
  rw [Array.getD_eq_getD_getElem?, h]
  rfl

/-- Once all junctions are gathered a table names at each point the junction that has its end
there. -/
theorem named_iff {m : RoadMap α} {table : Array (Option JunctionId)}
    {side : Junction α → PointId} {n : Nat}
    (h : Validation.Names table side m.junctions.toList n) (hn : m.junctions.toList.length ≤ n)
    {p : PointId} {j : JunctionId} :
    table.getD p.index none = some j ↔
      j.index < m.junctions.size ∧ side (m.junction j) = p := by
  constructor
  · intro hj
    obtain ⟨-, junction, hget, hside⟩ := (h _ _).mp hj
    rw [junction_eq hget]
    rw [Array.getElem?_toList] at hget
    exact ⟨(Array.getElem?_eq_some_iff.mp hget).1, congrArg PointId.mk hside⟩
  · rintro ⟨hj, rfl⟩
    refine h.of_mem hn ?_
    unfold RoadMap.junction
    rw [Array.getElem?_toList, Array.getD_eq_getD_getElem?, Array.getElem?_eq_getElem hj]
    rfl

/-- A link that leads on leads to a point of the map. -/
theorem point_of_bind {m : RoadMap α} {q p : PointId} {link : RoadPoint α → Option PointId}
    (h : (m.points[q.index]?).bind link = some p) : link (m.point q) = some p := by
  obtain ⟨r, hr, hlink⟩ := Option.bind_eq_some_iff.mp h
  unfold point
  rw [Array.getD_eq_getD_getElem?, hr]
  exact hlink

/-- What the checks of a validated map say about a point, and the tables of the junctions' ends that
they were made with. -/
theorem Validated.checks {m : RoadMap α} (h : m.Validated) :
    ∃ n ends, m.junctions.toList.length ≤ n ∧
      Validation.Gathered m.points.size m.junctions.toList n ends ∧
      ∀ p : PointId, p.index < m.points.size → (m.point p).id = p ∧
        Validation.checkPoint m.points (m.point p) = .ok () ∧
        Validation.checkEnds ends (m.point p) = .ok () := by
  obtain ⟨-, hplaces, hlinks, ⟨ends, hgather, hends⟩, -⟩ := Validation.check_ok h
  have hnowhere : Validation.Gathered m.points.size m.junctions.toList 0
      ⟨Array.replicate m.points.size none, Array.replicate m.points.size none⟩ :=
    ⟨Array.size_replicate, Array.size_replicate, Validation.names_nowhere _ _ _,
      Validation.names_nowhere _ _ _⟩
  obtain ⟨n, hn, hgathered⟩ := Validation.gatherEnds_ok hnowhere hgather
  refine ⟨n, ends, hn, hgathered, fun p hp => ?_⟩
  have hmem := List.mem_of_getElem? (point_mem hp)
  have hid := Validation.checkPlaces_ok hplaces _ _ (point_mem hp)
  rw [Nat.zero_add] at hid
  exact ⟨congrArg PointId.mk hid, forM_ok hlinks _ hmem, forM_ok hends _ hmem⟩

/-- A point of a validated map names a junction exactly if the junction starts or ends there. -/
theorem Validated.named {m : RoadMap α} (h : m.Validated) :
    (∀ {p j}, (m.point p).branch = some j ↔
      j.index < m.junctions.size ∧ (m.junction j).start = p) ∧
    ∀ {p j}, (m.point p).merge = some j ↔
      j.index < m.junctions.size ∧ (m.junction j).finish = p := by
  obtain ⟨n, ends, hn, hgathered, hpoints⟩ := h.checks
  -- a point names what the tables say, also where there is no point
  have hends : ∀ p, (m.point p).branch = ends.starts.getD p.index none ∧
      (m.point p).merge = ends.finishes.getD p.index none := by
    intro p
    rcases Nat.lt_or_ge p.index m.points.size with hp | hp
    · obtain ⟨hid, -, hp⟩ := hpoints p hp
      unfold Validation.checkEnds at hp
      split at hp
      · next hp' => rw [hid] at hp'; exact hp'
      · cases hp
    · rw [point_outside hp, Array.getD_eq_getD_getElem?, Array.getD_eq_getD_getElem?,
        Array.getElem?_eq_none (hgathered.starts_size ▸ hp),
        Array.getElem?_eq_none (hgathered.finishes_size ▸ hp)]
      exact ⟨rfl, rfl⟩
  refine ⟨fun {p j} => ?_, fun {p j} => ?_⟩
  · rw [(hends p).1]
    exact named_iff hgathered.starts hn
  · rw [(hends p).2]
    exact named_iff hgathered.finishes hn

theorem Validated.linked {m : RoadMap α} (h : m.Validated) : m.Linked := by
  obtain ⟨n, ends, -, -, hpoints⟩ := h.checks
  obtain ⟨hbranch, hmerge⟩ := h.named
  refine ⟨?_, ?_, fun hj => (hbranch.mp hj).2, fun hj => (hmerge.mp hj).2,
    fun hj => hmerge.mpr ⟨(hbranch.mp hj).1, rfl⟩, fun hj => hbranch.mpr ⟨(hmerge.mp hj).1, rfl⟩⟩
  · intro p q hq
    rcases Nat.lt_or_ge p.index m.points.size with hp | hp
    · obtain ⟨hid, hcheck, -⟩ := hpoints p hp
      have hback := (Validation.checkPoint_ok hcheck).2.1 q hq
      rw [hid] at hback
      exact point_of_bind hback
    · rw [point_outside hp] at hq
      cases hq
  · intro p q hp
    rcases Nat.lt_or_ge q.index m.points.size with hq | hq
    · obtain ⟨hid, hcheck, -⟩ := hpoints q hq
      have hback := (Validation.checkPoint_ok hcheck).2.2 p hp
      rw [hid] at hback
      exact point_of_bind hback
    · rw [point_outside hq] at hp
      cases hp

end RoadMap

section

variable {α : Type}

/-- The point for those who travel the other way. -/
def RoadPoint.reverse (p : RoadPoint α) : RoadPoint α :=
  { p with
    next := p.previous, previous := p.next, left := p.right, right := p.left
    branch := p.merge, merge := p.branch }

/-- The junction for those who travel the other way. -/
def Junction.reverse (j : Junction α) : Junction α :=
  { j with start := j.finish, finish := j.start }

/-- The links of the map with the direction of travel turned round. -/
def RoadMap.reverse (m : RoadMap α) : RoadMap α :=
  { m with points := m.points.map (·.reverse), junctions := m.junctions.map (·.reverse) }

/-- Turned round twice, the map is as it was. -/
@[simp] theorem RoadMap.reverse_reverse (m : RoadMap α) : m.reverse.reverse = m := by
  unfold reverse
  simp [RoadPoint.reverse, Junction.reverse, Function.comp_def]

end

namespace RoadMap

variable {α : Type} [Scalar α]

@[simp] theorem point_reverse (m : RoadMap α) (p : PointId) :
    m.reverse.point p = (m.point p).reverse := by
  unfold point reverse
  rw [Array.getD_eq_getD_getElem?, Array.getD_eq_getD_getElem?, Array.getElem?_map]
  cases m.points[p.index]? <;> rfl

@[simp] theorem junction_reverse (m : RoadMap α) (j : JunctionId) :
    m.reverse.junction j = (m.junction j).reverse := by
  unfold junction reverse
  rw [Array.getD_eq_getD_getElem?, Array.getD_eq_getD_getElem?, Array.getElem?_map]
  cases m.junctions[j.index]? <;> rfl

theorem Linked.reverse {m : RoadMap α} (h : m.Linked) : m.reverse.Linked := by
  constructor <;> simp only [point_reverse, junction_reverse]
  · exact h.next_of_previous
  · exact h.previous_of_next
  · exact h.finish_of_merge
  · exact h.start_of_branch
  · exact h.branch_of_merge
  · exact h.merge_of_branch

end RoadMap

end RoadTraffic
