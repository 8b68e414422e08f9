import Mathlib.Data.List.Chain
import Mathlib.Data.List.Nodup
import RoadTraffic.Proofs.Geometry.Directions
import RoadTraffic.Proofs.Roads.Linked
import RoadTraffic.Slot.Basic

/-!
# Rows of lanes

On a road whose lanes are linked to both sides all of them are told from any of them, from the left
edge to the right one (`lanes_of_row`), as long as there are no more than are told apart. So it
makes no difference to a lane which of the lanes a vehicle asks from: each is judged by its true
place.

The edge of a road is where there is no link, or where the link leads to a lane that is not on the
way of any lane of the road, such as one of the other carriageway. Of the numbers nothing is used
but that a lane which is on the way of another one is on its own way, too (`DirectedScalar`).
-/

namespace RoadTraffic

namespace RoadMap

variable {α : Type} [Scalar α] {m : RoadMap α}

/-- Some points lie side by side from the left edge of the road to the right one. -/
structure IsRow (m : RoadMap α) (row : List PointId) : Prop where
  distinct : row.Nodup
  few : row.length ≤ maxLanes
  linked : row.IsChain fun p q => (m.point p).right = some q ∧ (m.point q).left = some p
  together : ∀ p ∈ row, ∀ q ∈ row, p ≠ q → m.sameDirection p q = true
  leftEdge : ∀ first ∈ row.head?, ∀ q, (m.point first).left = some q →
    ∀ p ∈ row, m.sameDirection p q = false
  rightEdge : ∀ last ∈ row.getLast?, ∀ q, (m.point last).right = some q →
    ∀ p ∈ row, m.sameDirection p q = false

/-- On the way to the left the lanes are left behind up to the edge. -/
theorem leftmost_of_chain {id p : PointId} {steps : Nat} {lanes : List PointId}
    (hsteps : lanes.length ≤ steps)
    (hlinked : (p :: lanes).IsChain fun q left => (m.point q).left = some left)
    (hnew : id ∉ lanes) (hway : ∀ q ∈ lanes, m.sameDirection id q = true)
    (hedge : ∀ first ∈ (p :: lanes).getLast?, ∀ q, (m.point first).left = some q →
      m.sameDirection id q = false) :
    (p :: lanes).getLast? = some (m.leftmost id steps p) := by
  induction lanes generalizing p steps with
  | nil =>
    cases steps with
    | zero => rfl
    | succ steps =>
      unfold leftmost
      split
      · rfl
      next left hleft =>
      rw [if_pos]
      · rfl
      · exact .inr (by rw [hedge p rfl left hleft]; rfl)
  | cons left lanes ih =>
    obtain ⟨hleft, hlinked⟩ := List.isChain_cons_cons.mp hlinked
    obtain ⟨hne, hnew⟩ := not_or.mp (List.mem_cons.not.mp hnew)
    obtain ⟨steps, rfl⟩ : ∃ n, steps = n + 1 := Nat.exists_eq_add_one_of_ne_zero (by
      rw [List.length_cons] at hsteps
      omega)
    unfold leftmost
    rw [hleft]
    dsimp only
    rw [if_neg]
    · rw [List.getLast?_cons_cons] at hedge ⊢
      exact ih (Nat.le_of_succ_le_succ hsteps) hlinked hnew
        (fun q hq => hway q (List.mem_cons_of_mem _ hq)) hedge
    · rw [hway left (List.mem_cons_self ..)]
      simpa using Ne.symm hne

theorem goes_on {id p : PointId} {found lanes : List PointId} (hnew : (found ++ p :: lanes).Nodup)
    (hway : ∀ q ∈ p :: lanes, m.sameDirection id q = true) :
    ¬ (p ∈ found ∨ !m.sameDirection id p) := by
  rw [hway p (List.mem_cons_self ..), Bool.not_true, or_iff_left Bool.false_ne_true]
  exact fun hmem => (List.nodup_append.mp hnew).2.2 p hmem p (List.mem_cons_self ..) rfl

/-- On the way to the right all lanes are found up to the edge. -/
theorem rightward_of_chain {id p : PointId} {room : Nat} {found lanes : List PointId}
    (hroom : lanes.length < room)
    (hlinked : (p :: lanes).IsChain fun q right => (m.point q).right = some right)
    (hnew : (found ++ p :: lanes).Nodup) (hway : ∀ q ∈ p :: lanes, m.sameDirection id q = true)
    (hedge : ∀ last ∈ (p :: lanes).getLast?, ∀ q, (m.point last).right = some q →
      m.sameDirection id q = false) :
    m.rightward id room (some p) found = found ++ p :: lanes := by
  induction lanes generalizing p found room with
  | nil =>
    obtain ⟨room, rfl⟩ := Nat.exists_eq_add_one_of_ne_zero (Nat.ne_zero_of_lt hroom)
    unfold rightward
    rw [if_neg (goes_on hnew hway)]
    -- whether there is room left or not, nothing is found beyond the edge
    cases room with
    | zero => rfl
    | succ room =>
      rcases hright : (m.point p).right with _ | right
      · rfl
      · unfold rightward
        rw [if_pos (.inr (by rw [hedge p rfl right hright]; rfl))]
  | cons right lanes ih =>
    obtain ⟨room, rfl⟩ := Nat.exists_eq_add_one_of_ne_zero (Nat.ne_zero_of_lt hroom)
    obtain ⟨hright, hlinked⟩ := List.isChain_cons_cons.mp hlinked
    unfold rightward
    rw [if_neg (goes_on hnew hway), hright]
    rw [List.getLast?_cons_cons] at hedge
    have hfound : found ++ [p] ++ right :: lanes = found ++ p :: right :: lanes := by
      rw [List.append_assoc, List.singleton_append]
    rw [← hfound] at hnew ⊢
    exact ih (Nat.lt_of_succ_lt_succ hroom) hlinked hnew
      (fun q hq => hway q (List.mem_cons_of_mem _ hq)) hedge

theorem IsRow.head? {row : List PointId} (h : m.IsRow row) {id : PointId} (hid : id ∈ row) :
    row.head? = some (m.leftmost id maxLanes id) := by
  obtain ⟨before, after, rfl⟩ := List.append_of_mem hid
  obtain ⟨hbefore, -, hdisjoint⟩ := List.nodup_append.mp h.distinct
  have hnew : id ∉ before.reverse := fun hmem =>
    hdisjoint id (List.mem_reverse.mp hmem) id (List.mem_cons_self ..) rfl
  have hway : ∀ q ∈ before.reverse, m.sameDirection id q = true := fun q hq =>
    h.together id hid q (List.mem_append_left _ (List.mem_reverse.mp hq)) fun heq => hnew (heq ▸ hq)
  -- the part of the row up to `id`, read backwards
  have hpart : id :: before.reverse = (before ++ [id]).reverse := by
    rw [List.reverse_append, List.reverse_singleton, List.singleton_append]
  have hhead : (before ++ id :: after).head? = (id :: before.reverse).getLast? := by
    rw [hpart, List.getLast?_reverse, ← List.singleton_append, ← List.append_assoc]
    cases before <;> rfl
  rw [hhead]
  refine leftmost_of_chain ?_ ?_ hnew hway ?_
  · have hfew := h.few
    rw [List.length_append] at hfew
    rw [List.length_reverse]
    omega
  · have hlinked := h.linked
    rw [← List.singleton_append, ← List.append_assoc] at hlinked
    rw [hpart, List.isChain_reverse]
    exact (List.isChain_append.mp hlinked).1.imp fun _ _ hlink => hlink.2
  · rw [← hhead]
    exact fun first hfirst q hq => h.leftEdge first hfirst q hq id hid

/-- A lane of a road is on its own way, unless it is the only one. -/
theorem IsRow.alone_or_self [DirectedScalar α] {row : List PointId} (h : m.IsRow row)
    {id : PointId} (hid : id ∈ row) : row = [id] ∨ m.sameDirection id id = true := by
  by_cases hother : ∃ q ∈ row, id ≠ q
  · obtain ⟨q, hq, hne⟩ := hother
    exact .inr (sameDirection_self (h.together id hid q hq hne))
  · have hsame : ∀ q ∈ row, q = id := fun q hq =>
      Classical.byContradiction fun hne => hother ⟨q, hq, Ne.symm hne⟩
    have hrow := List.eq_replicate_of_mem hsame
    have hdistinct := h.distinct
    rw [hrow, List.nodup_replicate] at hdistinct
    have hpos := List.length_pos_of_mem hid
    rw [show row.length = 1 by omega] at hrow
    exact .inl hrow

theorem IsRow.rightward [DirectedScalar α] {row : List PointId} (h : m.IsRow row) {id : PointId}
    (hid : id ∈ row) (hself : m.sameDirection id id = true) :
    m.rightward id maxLanes (some (m.leftmost id maxLanes id)) [] = row := by
  obtain ⟨rest, hrow⟩ := List.head?_eq_some_iff.mp (h.head? hid)
  have hfew := h.few
  rw [hrow, List.length_cons] at hfew
  refine (rightward_of_chain hfew ?_ ?_ ?_ ?_).trans hrow.symm
  · exact hrow ▸ h.linked.imp fun _ _ hlink => hlink.1
  · exact hrow ▸ h.distinct
  · intro q hq
    rw [← hrow] at hq
    by_cases heq : id = q
    · exact heq ▸ hself
    · exact h.together id hid q hq heq
  · rw [← hrow]
    exact fun last hlast q hq => h.rightEdge last hlast q hq id hid

theorem IsRow.lanes_eq [DirectedScalar α] {row : List PointId} (h : m.IsRow row) {id : PointId}
    (hid : id ∈ row) : m.lanes id = row := by
  unfold lanes
  by_cases hself : m.sameDirection id id = true
  · rw [h.rightward hid hself]
    exact if_pos hid
  · -- a point without a direction finds not even itself, but it has no neighbours either
    obtain rfl := (h.alone_or_self hid).resolve_right hself
    have hleft : m.leftmost id maxLanes id = id := (Option.some.inj (h.head? hid)).symm
    have hnone : m.rightward id maxLanes (some id) [] = [] := if_pos (.inr (by simpa using hself))
    rw [hleft, hnone]
    rfl

/-- The lanes of a road are told from any of them, and each is judged by its place among them. -/
theorem lanes_of_row [DirectedScalar α] {ρ : Type} {row : List PointId} (h : m.IsRow row) {k : Nat}
    {p : PointId} (hp : row[k]? = some p) :
    m.lanes p = row ∧
      ∀ slot : Slot α ρ, slot.admitsLane m p = slot.profile.lanes.allows k row.length := by
  have hlanes := h.lanes_eq (List.mem_of_getElem? hp)
  refine ⟨hlanes, fun slot => ?_⟩
  obtain ⟨hk, rfl⟩ := List.getElem?_eq_some_iff.mp hp
  unfold Slot.admitsLane
  dsimp only
  rw [hlanes, h.distinct.idxOf_getElem k hk]

/-- A point of a road of three lanes in doubles, 3 m apart. The one to the left is oncoming. -/
private def avenuePoint (index x z : Nat) : RoadPoint Float :=
  .unlinked ⟨index⟩ ⟨Float.ofNat x, Float.ofNat 0, Float.ofNat z⟩

/-- Two lanes and an oncoming one, which is linked to the lane beside it. -/
private def avenue : RoadMap Float where
  points := #[
    { avenuePoint 0 0 0 with next := some ⟨3⟩, left := some ⟨1⟩ },
    { avenuePoint 1 3 0 with next := some ⟨4⟩, left := some ⟨2⟩, right := some ⟨0⟩ },
    { avenuePoint 2 6 100 with next := some ⟨5⟩, left := some ⟨1⟩ },
    { avenuePoint 3 0 100 with previous := some ⟨0⟩ },
    { avenuePoint 4 3 100 with previous := some ⟨1⟩ },
    { avenuePoint 5 6 0 with previous := some ⟨2⟩ }]
  junctions := #[]
  splines := []
  tree := .empty

/-- On two lanes the one to the left comes first, whichever is asked, and the oncoming lane that it
is linked to is none of them. -/
theorem lanes_of_row_avenue :
    avenue.Validated ∧ avenue.IsRow [⟨1⟩, ⟨0⟩] ∧ (avenue.point ⟨1⟩).left = some ⟨2⟩ ∧
      avenue.lanes ⟨1⟩ = [⟨1⟩, ⟨0⟩] ∧ avenue.lanes ⟨0⟩ = [⟨1⟩, ⟨0⟩] ∧
      ∀ slot : Slot Float Unit, slot.admitsLane avenue ⟨0⟩ = slot.profile.lanes.allows 1 2 := by
  have hvalid : avenue.Validated := by
    unfold Validated
    decide +kernel
  have hleft : (avenue.point ⟨1⟩).left = some ⟨2⟩ := rfl
  have hrow : avenue.IsRow [⟨1⟩, ⟨0⟩] := {
    distinct := by decide
    few := by decide
    linked := List.isChain_pair.mpr ⟨rfl, rfl⟩
    together := by decide +kernel
    leftEdge := by
      rintro _ ⟨⟩ q hq
      cases hleft.symm.trans hq
      decide +kernel
    rightEdge := by
      rintro _ ⟨⟩ q hq
      cases hq }
  obtain ⟨hone, -⟩ := lanes_of_row hrow (k := 0) (p := ⟨1⟩) (ρ := Unit) rfl
  obtain ⟨hzero, hjudged⟩ := lanes_of_row hrow (k := 1) (p := ⟨0⟩) (ρ := Unit) rfl
  exact ⟨hvalid, hrow, hleft, hone, hzero, hjudged⟩

end RoadMap

end RoadTraffic
