import Mathlib.Algebra.Order.Field.Basic
import Mathlib.Data.Fintype.EquivFin
import Mathlib.Logic.Relation
import RoadTraffic.Proofs.Roads.Linked

/-!
# Circuits without length

From a point the way leads to its next point and through the junction that branches off there
(`Leads`). Nothing in the checks of a map keeps the two ends of such a way apart, and a chain of
ways without length may come back to where it began (`StandsStill`).

A map has finitely many ways. So those that have a length are not shorter than some length
(`exists_shortest`), and where no chain of ways without length comes back, every such chain ends
(`standing_induction`).
-/

namespace RoadTraffic

namespace RoadMap

section

variable {α : Type} [Scalar α] {m : RoadMap α} {p q : PointId}

/-- The points to which the way may go on from a point. -/
def ways (m : RoadMap α) (p : PointId) : List PointId :=
  (m.point p).next.toList ++ ((m.point p).branch.map fun j => (m.junction j).finish).toList

/-- The way may go on from the first point to the second one. -/
def Leads (m : RoadMap α) (p q : PointId) : Prop := q ∈ m.ways p

theorem leads_iff : m.Leads p q ↔ (m.point p).next = some q ∨
    ∃ j, (m.point p).branch = some j ∧ (m.junction j).finish = q := by
  unfold Leads ways
  rw [List.mem_append, Option.mem_toList, Option.mem_toList,
    Option.map_eq_some_iff]

/-- No way leads on from outside the map. -/
theorem Leads.inside (h : m.Leads p q) : p.index < m.size := by
  refine Nat.lt_of_not_ge fun hp => ?_
  rw [leads_iff, point_outside hp] at h
  rcases h with h | ⟨j, h, -⟩ <;> cases h

end

section

variable {K : Type} [Field K] [Scalar K] {m : RoadMap K} {p q : PointId}

/-- The way leads from the first point to the second one and has no length. -/
def Stands (m : RoadMap K) (p q : PointId) : Prop := m.Leads p q ∧ m.distance p q = 0

/-- A chain of ways without length comes back to where it began. -/
def StandsStill (m : RoadMap K) : Prop := ∃ p, Relation.TransGen m.Stands p p

/-- Every point of a circuit without length has another one after it. -/
theorem exists_stands_of_circuit (h : Relation.TransGen m.Stands p p) :
    ∃ q, m.Stands p q ∧ Relation.TransGen m.Stands q q := by
  obtain ⟨q, hpq, hqp⟩ := Relation.TransGen.head'_iff.mp h
  exact ⟨q, hpq, Relation.TransGen.tail' hqp hpq⟩

/-- Where every way has a length there is no circuit without one. -/
theorem not_standsStill (h : ∀ i < m.size, ∀ q ∈ m.ways ⟨i⟩, m.distance ⟨i⟩ q ≠ 0) :
    ¬ m.StandsStill := by
  rintro ⟨p, hp⟩
  obtain ⟨q, ⟨hleads, hzero⟩, -⟩ := exists_stands_of_circuit hp
  exact h p.index hleads.inside q hleads hzero

/-- Where no chain of ways without length comes back, what holds of a point as soon as it holds of
all points to which ways without length lead on holds of all points. -/
theorem standing_induction (hno : ¬ m.StandsStill) {P : PointId → Prop}
    (h : ∀ p, (∀ q, m.Stands p q → P q) → P p) (p : PointId) : P p := by
  let after (i j : Fin m.size) : Prop := Relation.TransGen m.Stands ⟨j⟩ ⟨i⟩
  have : Std.Irrefl after := ⟨fun i hi => hno ⟨_, hi⟩⟩
  have : IsTrans (Fin m.size) after := ⟨fun i j k hij hjk => hjk.trans hij⟩
  have hinside : ∀ i : Fin m.size, P ⟨i⟩ := by
    intro i
    induction i using (Finite.wellFounded_of_trans_of_irrefl after).induction with
    | _ i ih =>
      refine h _ fun q hq => ?_
      by_cases hinside : q.index < m.size
      · exact ih ⟨q.index, hinside⟩ (.single hq)
      · exact h q fun r hr => absurd hr.1.inside hinside
  by_cases hp : p.index < m.size
  · exact hinside ⟨p.index, hp⟩
  · exact h p fun q hq => absurd hq.1.inside hp

end

variable {K : Type} [Field K] [LinearOrder K] [IsStrictOrderedRing K]

/-- Some positive number is below all positive ones of a list. -/
theorem exists_pos_le (l : List K) : ∃ d : K, 0 < d ∧ ∀ a ∈ l, 0 < a → d ≤ a := by
  induction l with
  | nil => exact ⟨1, one_pos, nofun⟩
  | cons a l ih =>
    obtain ⟨d, hd, hl⟩ := ih
    by_cases ha : 0 < a
    · refine ⟨min a d, lt_min ha hd, fun b hb hpos => ?_⟩
      rcases List.mem_cons.mp hb with rfl | hb
      · exact min_le_left _ _
      · exact le_trans (min_le_right _ _) (hl b hb hpos)
    · refine ⟨d, hd, fun b hb hpos => ?_⟩
      rcases List.mem_cons.mp hb with rfl | hb
      · exact absurd hpos ha
      · exact hl b hb hpos

/-- The ways that have a length are not arbitrarily short. -/
theorem exists_shortest [Scalar K] (m : RoadMap K) :
    ∃ d : K, 0 < d ∧ ∀ {p q}, m.Leads p q → 0 < m.distance p q → d ≤ m.distance p q := by
  obtain ⟨d, hd, hle⟩ := exists_pos_le
    ((List.range m.size).flatMap fun i => (m.ways ⟨i⟩).map (m.distance ⟨i⟩))
  refine ⟨d, hd, fun {p q} hway hpos => hle _ ?_ hpos⟩
  exact List.mem_flatMap.mpr
    ⟨p.index, List.mem_range.mpr hway.inside, List.mem_map.mpr ⟨q, hway, rfl⟩⟩

end RoadMap

end RoadTraffic
