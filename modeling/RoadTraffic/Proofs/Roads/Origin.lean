import RoadTraffic.Proofs.Roads.Builder
import RoadTraffic.Proofs.Roads.Circuits

/-!
# Where vehicles restart

A vehicle whose way has ended restarts at the first point of the first spline. The checks of a map
do not see to it that there is such a point, nor that a way leads on from there. The operations that
a map is built with do: points come with a spline of at least two of them, and what once follows a
point is never taken away (`SetsOut`). So a way leads on from the origin of every map that was built
(`origin_leads`).
-/

namespace RoadTraffic

namespace RoadBuilder

open Validation (pointAt)

variable {α : Type} [Scalar α] {b b' : RoadBuilder α}

/-- Where there are points there is a spline, and every spline begins with a point that another one
follows. -/
structure SetsOut (b : RoadBuilder α) : Prop where
  spline : b.points.size ≠ 0 → b.splines ≠ []
  follows : ∀ s ∈ b.splines, ∃ first rest, s.points = first :: rest ∧
    ∃ q, (pointAt b.points first).next = some q

theorem setsOut_empty : (empty : RoadBuilder α).SetsOut := ⟨fun h => absurd rfl h, nofun⟩

theorem Link.splines (hb : b.Link b') : b'.splines = b.splines := by
  cases hb <;> rfl

/-- A link may come before others, but it takes none away. -/
theorem Link.next (hb : b.Link b') {p q : PointId} (h : (pointAt b.points p).next = some q) :
    ∃ q, (pointAt b'.points p).next = some q := by
  cases hb with
  | junction _ hstart hfinish _ _ =>
    rw [point_withJunction hstart hfinish]
    exact ⟨q, h⟩
  | @connection first second hfirst hsecond _ _ =>
    rw [point_connected hfirst hsecond]
    by_cases hp : p = first
    · exact ⟨second, if_pos hp⟩
    · exact ⟨q, (if_neg hp).trans h⟩
  | lanes hleft hright =>
    rw [point_beside hleft hright]
    exact ⟨q, h⟩

theorem Link.setsOut (hb : b.Link b') (h : b.SetsOut) : b'.SetsOut := by
  refine ⟨fun hsize => ?_, fun s hs => ?_⟩
  · rw [hb.splines]
    exact h.spline (hb.size ▸ hsize)
  · rw [hb.splines] at hs
    obtain ⟨first, rest, hpoints, q, hq⟩ := h.follows s hs
    exact ⟨first, rest, hpoints, hb.next hq⟩

theorem Growth.setsOut (hb : b.Growth b') (h : b.SetsOut) : b'.SetsOut := by
  cases hb with
  | @spline name sites closed _ hlength =>
    refine ⟨fun _ => by simp [withSpline], fun s hs => ?_⟩
    rcases List.mem_append.mp hs with hs | hs
    · obtain ⟨first, rest, hpoints, q, hq⟩ := h.follows s hs
      exact ⟨first, rest, hpoints, q, next_withSpline.mpr (.inl hq)⟩
    · rw [List.mem_singleton.mp hs]
      -- the second point of the new spline follows the first one
      rcases sites with _ | ⟨first, _ | ⟨second, rest⟩⟩
      · exact absurd hlength (Nat.not_le.mpr Nat.two_pos)
      · exact absurd hlength (Nat.not_le.mpr Nat.one_lt_two)
      · refine ⟨⟨b.points.size + 0⟩, _, by rw [List.mapIdx_cons, List.map_cons]; rfl,
          ⟨b.points.size + 1⟩, next_withSpline.mpr (.inr ?_)⟩
        exact ⟨0, Nat.lt_of_lt_of_le Nat.two_pos hlength, 1, hlength, rfl, rfl, .inl rfl⟩

theorem after_setsOut (ops : List (Operation α)) : (empty.after ops).SetsOut :=
  after_preserves (P := SetsOut) Growth.setsOut Link.setsOut setsOut_empty ops

/-- The map of a well-formed graph is the graph, measured. -/
theorem WellFormed.surveyed_of_build (h : b.WellFormed) {m : RoadMap α} (hm : b.build = .ok m) :
    b.Surveyed m := by
  have hpoint : b.points.size ≠ 0 := by
    intro hempty
    rw [build_empty hempty] at hm
    cases hm
  obtain ⟨m', hm', hsurveyed⟩ := h.build hpoint
  rw [hm', Except.ok.injEq] at hm
  exact hm ▸ hsurveyed

/-- From the origin of a map that was built a way leads on. -/
theorem origin_leads {ops : List (Operation α)} {m : RoadMap α}
    (hm : (empty.after ops).build = .ok m) : ∃ q, m.Leads m.origin q := by
  have hsets := after_setsOut ops
  have hwell := after_wellFormed wellFormed_empty ops
  have hsurveyed := hwell.surveyed_of_build hm
  have hsize := (Validation.check_ok (RoadMap.validated_of_ofParts hm)).1
  generalize empty.after ops = b at hm hsets hwell hsurveyed
  obtain ⟨s, splines, hs⟩ := List.exists_cons_of_ne_nil (hsets.spline (hsurveyed.size ▸ hsize))
  have hmem : s ∈ b.splines := hs ▸ List.mem_cons_self ..
  obtain ⟨first, rest, hpoints, q, hq⟩ := hsets.follows s hmem
  have horigin : m.origin = first := by
    unfold RoadMap.origin
    rw [hsurveyed.splines, hs]
    obtain ⟨name, points, closed⟩ := s
    obtain rfl : points = first :: rest := hpoints
    rfl
  have hinside : first.index < m.size := by
    rw [hsurveyed.size]
    exact hwell.onSpline hmem (hpoints ▸ List.mem_cons_self ..)
  refine ⟨q, RoadMap.leads_iff.mpr (.inl ?_)⟩
  rw [horigin, hsurveyed.point hinside]
  exact hq

end RoadBuilder

end RoadTraffic
