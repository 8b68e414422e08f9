import RoadTraffic.Proofs.Roads.Lookups
import RoadTraffic.Proofs.Roads.WellFormed

/-!
# Exactly the well-formed graphs are maps

A graph that is well-formed and has a point passes all checks (`check_of_wellFormed`). Here is the
converse: what passes them is well-formed (`RoadMap.Validated.wellFormed`). Several of the checks
look from one side only. Two junctions that share an end are found out by the table of ends, a point
that hides a junction by the comparison with that table, and only all checks together make the
links of a graph lead both ways.

So a list of points, junctions and splines is made a map exactly if it is well-formed, and finding
out never takes a look-up that fails (`ofParts_accepts`).
-/

namespace RoadTraffic

namespace Validation

variable {α : Type}

/-- A junction that is gathered has its place as its index, ends inside the map and a
probability. -/
theorem gatherEnds_inside [Scalar α] {ends ends' : JunctionEnds} {n : Nat}
    {js : List (Junction α)} (h : gatherEnds ends n js = .ok ends') :
    ∀ (i : Nat) (j : Junction α), js[i]? = some j → j.id.index = n + i ∧
      j.start.index < ends.starts.size ∧ j.finish.index < ends.starts.size ∧
      isProbability j.probability := by
  induction js generalizing ends n with
  | nil => simp
  | cons junction js ih =>
    unfold gatherEnds at h
    split at h
    · cases h
    next hplace =>
    split at h
    · cases h
    next hprobability =>
    split at h
    · cases h
    split at h
    · cases h
    rw [not_or, not_or, not_not, Nat.not_le, Nat.not_le] at hplace
    intro i j hj
    cases i with
    | zero =>
      rw [List.getElem?_cons_zero, Option.some.injEq] at hj
      rw [← hj]
      exact ⟨hplace.1, hplace.2.1, hplace.2.2, not_not.mp hprobability⟩
    | succ i =>
      rw [List.getElem?_cons_succ] at hj
      obtain ⟨hid, hends⟩ := ih h i j hj
      simp only [Array.set!_eq_setIfInBounds, Array.size_setIfInBounds] at hends
      exact ⟨by omega, hends⟩

/-- Splines that pass have names of their own and stay within the map. -/
theorem checkSplines_ok {points : Array (RoadPoint α)} {names : List String} {l : List Spline}
    (h : checkSplines points names l = .ok ()) :
    (∀ s ∈ l, s.name ∉ names) ∧ (l.map (·.name)).Nodup ∧
      ∀ s ∈ l, ∀ p ∈ s.points, p.index < points.size := by
  induction l generalizing names with
  | nil => simp
  | cons s l ih =>
    unfold checkSplines at h
    split at h
    · cases h
    next hnew =>
    split at h
    · cases h
    next hinside =>
    obtain ⟨hnames, hnodup, hpoints⟩ := ih h
    refine ⟨fun t ht => ?_, ?_, fun t ht p hp => ?_⟩
    · rcases List.mem_cons.mp ht with rfl | ht
      · exact hnew
      · exact fun hmem => hnames t ht (List.mem_cons_of_mem _ hmem)
    · rw [List.map_cons, List.nodup_cons, List.mem_map]
      refine ⟨?_, hnodup⟩
      rintro ⟨t, ht, hname⟩
      exact hnames t ht (hname ▸ List.mem_cons_self ..)
    · rcases List.mem_cons.mp ht with rfl | ht
      · have hlt := List.find?_eq_none.mp hinside p hp
        rwa [decide_eq_true_eq, Nat.not_le] at hlt
      · exact hpoints t ht p hp

end Validation

namespace RoadMap

open Validation

variable {α : Type} [Scalar α]

/-- What passes the checks is well-formed. -/
theorem Validated.wellFormed {m : RoadMap α} (h : m.Validated) :
    WellFormed m.points m.junctions m.splines := by
  obtain ⟨n, ends, -, -, hpoints⟩ := h.checks
  obtain ⟨hbranch, hmerge⟩ := h.named
  have hlinked := h.linked
  obtain ⟨-, -, -, ⟨_, hgather, -⟩, hsplines⟩ := check_ok h
  have hjunction : ∀ {j : JunctionId}, j.index < m.junctions.size →
      (m.junction j).id = j ∧ (m.junction j).start.index < m.points.size ∧
        (m.junction j).finish.index < m.points.size ∧ isProbability (m.junction j).probability := by
    intro j hj
    have hget := getElem?_eq_junctionAt hj
    rw [← Array.getElem?_toList] at hget
    obtain ⟨hid, hstart, hfinish, hprobability⟩ := gatherEnds_inside hgather j.index _ hget
    rw [Array.size_replicate] at hstart hfinish
    exact ⟨congrArg JunctionId.mk (hid.trans (Nat.zero_add _)), hstart, hfinish, hprobability⟩
  obtain ⟨-, hnames, honSpline⟩ := checkSplines_ok hsplines
  refine ⟨fun hp => (hpoints _ hp).1, fun {p q} hq => ?_,
    ⟨hlinked.previous_of_next, hlinked.next_of_previous⟩, fun hj => (hjunction hj).1,
    fun hj => (hjunction hj).2.1, fun hj => (hjunction hj).2.2.1, fun hj => (hjunction hj).2.2.2,
    hbranch, hmerge, hnames, fun hs _ hp => honSpline _ hs _ hp⟩
  rcases Nat.lt_or_ge p.index m.points.size with hp | hp
  · exact (checkPoint_ok (hpoints p hp).2.1).1 q hq
  · rw [pointAt_outside hp] at hq
    cases hq

/-- Points, junctions and splines are made a map exactly if there is a point and they are
well-formed, in which no two junctions start or end together. Finding out takes no look-up that
fails. -/
theorem ofParts_accepts (points : Array (RoadPoint α)) (junctions : Array (Junction α))
    (splines : List Spline) :
    Scrutiny.Agrees (Strict.ofParts points junctions splines) (ofParts points junctions splines) ∧
      ((∃ m, ofParts points junctions splines = .ok m) ↔
        points.size ≠ 0 ∧ WellFormed points junctions splines ∧
          Apart (·.start) junctions.toList ∧ Apart (·.finish) junctions.toList) := by
  refine ⟨Strict.ofParts_agrees points junctions splines, ?_, ?_⟩
  · rintro ⟨m, hm⟩
    obtain ⟨hcheck, rfl⟩ := ofParts_eq_ok.mp hm
    have hwell := (validated_of_ofParts hm).wellFormed
    exact ⟨(check_ok hcheck).1, hwell, apart_of_named hwell.branch, apart_of_named hwell.merge⟩
  · rintro ⟨hsize, hwell, -, -⟩
    exact ⟨_, ofParts_eq_ok.mpr ⟨check_of_wellFormed hwell hsize, rfl⟩⟩

end RoadMap

end RoadTraffic
