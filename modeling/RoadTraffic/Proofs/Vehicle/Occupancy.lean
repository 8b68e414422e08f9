import Std.Data.HashMap.Lemmas
import RoadTraffic.Proofs.Scalar.Order
import RoadTraffic.Vehicle.Occupancy

/-!
# The vehicle that is seen at a point

Of the vehicles at a point the first of the slowest ones is seen (`get?_eq_some`), and no other.
What the list of vehicles has at other points, in which order it mixes the points and which of the
faster vehicles it has at all makes no difference (`get?_filter`).

That the first of the slowest ones is seen needs no law of the order, so that it holds also among
speeds that are no numbers. That nothing else is seen needs the speeds to be ordered: a first
vehicle with an unordered speed would hide the slower ones behind it.
-/

namespace RoadTraffic

namespace Occupancy

variable {α : Type} [Scalar α] {x y : Snapshot α} {l : List (Snapshot α)} {p : PointId}

/-! ## A fold for each point -/

/-- What is seen at a point after one more vehicle there. -/
def seenWith (seen : Option (Snapshot α)) (x : Snapshot α) : Option (Snapshot α) :=
  match seen with
  | some y => some (slower y x)
  | none => some x

theorem get?_add (o : Occupancy α) (x : Snapshot α) (p : PointId) :
    (o.add x).get? p = if x.point = p then seenWith (o.get? p) x else o.get? p := by
  unfold add get?
  dsimp only
  rw [Std.HashMap.getElem?_insert]
  by_cases hp : x.point = p
  · rw [if_pos hp, if_pos (beq_iff_eq.mpr hp), hp]
    cases o.slowest[p]? with
    | none => rfl
    | some y => rfl
  · rw [if_neg hp, if_neg (fun h => hp (beq_iff_eq.mp h))]

theorem get?_foldl_add (l : List (Snapshot α)) (o : Occupancy α) (p : PointId) :
    (l.foldl add o).get? p = (l.filter (·.point = p)).foldl seenWith (o.get? p) := by
  induction l generalizing o with
  | nil => rfl
  | cons x l ih =>
    rw [List.foldl_cons, ih, get?_add]
    by_cases hp : x.point = p
    · rw [if_pos hp, List.filter_cons, if_pos (decide_eq_true hp), List.foldl_cons]
    · rw [if_neg hp, List.filter_cons, if_neg (fun h => hp (of_decide_eq_true h))]

omit [Scalar α] in
theorem get?_empty (p : PointId) : (empty : Occupancy α).get? p = none :=
  Std.HashMap.getElem?_empty

/-- The first of the slowest vehicles of a list. -/
def firstSlowest : List (Snapshot α) → Option (Snapshot α)
  | [] => none
  | x :: l => some (l.foldl slower x)

theorem get?_ofList (l : List (Snapshot α)) (p : PointId) :
    (ofList l).get? p = firstSlowest (l.filter (·.point = p)) := by
  have hsome : ∀ (l : List (Snapshot α)) (x : Snapshot α),
      l.foldl seenWith (some x) = some (l.foldl slower x) := by
    intro l
    induction l with
    | nil => exact fun _ => rfl
    | cons y l ih => exact fun x => ih (slower x y)
  unfold ofList
  rw [get?_foldl_add, get?_empty]
  cases l.filter (·.point = p) with
  | nil => rfl
  | cons x l => exact hsome l x

/-! ## The first of the slowest -/

/-- A list has a vehicle, faster ones before it and none that is slower behind it. -/
def IsFirstSlowest (l : List (Snapshot α)) (x : Snapshot α) : Prop :=
  ∃ before behind, l = before ++ x :: behind ∧ (∀ y ∈ before, x.speed < y.speed) ∧
    ∀ y ∈ behind, ¬ y.speed < x.speed

theorem IsFirstSlowest.mem (h : IsFirstSlowest l x) : x ∈ l := by
  obtain ⟨before, behind, rfl, -, -⟩ := h
  exact List.mem_append_right before (List.mem_cons_self ..)

theorem IsFirstSlowest.filter {q : Snapshot α → Bool} (h : IsFirstSlowest l x) (hx : q x = true) :
    IsFirstSlowest (l.filter q) x := by
  obtain ⟨before, behind, rfl, hbefore, hbehind⟩ := h
  refine ⟨before.filter q, behind.filter q, ?_, ?_, ?_⟩
  · rw [List.filter_append, List.filter_cons_of_pos hx]
  · exact fun y hy => hbefore y (List.mem_filter.mp hy).1
  · exact fun y hy => hbehind y (List.mem_filter.mp hy).1

theorem foldl_slower_of_none_below (h : ∀ y ∈ l, ¬ y.speed < x.speed) :
    l.foldl slower x = x := by
  induction l with
  | nil => rfl
  | cons y l ih =>
    rw [List.foldl_cons, slower, if_neg (h y (List.mem_cons_self ..))]
    exact ih fun z hz => h z (List.mem_cons_of_mem _ hz)

theorem foldl_slower_mem (l : List (Snapshot α)) (x : Snapshot α) :
    l.foldl slower x ∈ x :: l := by
  induction l generalizing x with
  | nil => exact List.mem_cons_self ..
  | cons y l ih =>
    rw [List.foldl_cons]
    rcases List.mem_cons.mp (ih (slower x y)) with h | h
    · rw [h]
      unfold slower
      split
      · exact List.mem_cons_of_mem _ (List.mem_cons_self ..)
      · exact List.mem_cons_self ..
    · exact List.mem_cons_of_mem _ (List.mem_cons_of_mem _ h)

theorem firstSlowest_of_isFirstSlowest (h : IsFirstSlowest l x) : firstSlowest l = some x := by
  obtain ⟨before, behind, rfl, hbefore, hbehind⟩ := h
  cases before with
  | nil => exact congrArg some (foldl_slower_of_none_below hbehind)
  | cons y before =>
    show some ((before ++ x :: behind).foldl slower y) = some x
    -- whichever of the faster ones was kept until then, the vehicle takes its place
    have hseen : x.speed < (before.foldl slower y).speed :=
      hbefore _ (foldl_slower_mem before y)
    rw [List.foldl_append, List.foldl_cons, slower, if_pos hseen,
      foldl_slower_of_none_below hbehind]

variable [OrderedScalar α]

/-- What a fold from a vehicle on comes to is that vehicle, unless a slower one follows. -/
theorem foldl_slower_cases (hy : Scalar.isOrdered y.speed)
    (hl : ∀ z ∈ l, Scalar.isOrdered z.speed) :
    (l.foldl slower y = y ∧ ∀ z ∈ l, ¬ z.speed < y.speed) ∨
      (IsFirstSlowest l (l.foldl slower y) ∧ (l.foldl slower y).speed < y.speed) := by
  induction l generalizing y with
  | nil => exact Or.inl ⟨rfl, fun z hz => absurd hz (List.not_mem_nil)⟩
  | cons z l ih =>
    have hz := hl z (List.mem_cons_self ..)
    have hrest := fun a ha => hl a (List.mem_cons_of_mem _ ha)
    rw [List.foldl_cons, slower]
    by_cases hzy : z.speed < y.speed
    · -- `z` takes the place of `y`
      rw [if_pos hzy]
      rcases ih hz hrest with ⟨hsame, hnone⟩ | ⟨⟨before, behind, hl, hbefore, hbehind⟩, hlt⟩
      · rw [hsame]
        exact Or.inr ⟨⟨[], l, rfl, fun a ha => absurd ha (List.not_mem_nil), hnone⟩, hzy⟩
      · refine Or.inr ⟨⟨z :: before, behind, ?_, ?_, hbehind⟩, OrderedScalar.lt_trans hlt hzy⟩
        · exact congrArg (z :: ·) hl
        · exact List.forall_mem_cons.mpr ⟨hlt, hbefore⟩
    · rw [if_neg hzy]
      rcases ih hy hrest with ⟨hsame, hnone⟩ | ⟨⟨before, behind, hl, hbefore, hbehind⟩, hlt⟩
      · exact Or.inl ⟨hsame, List.forall_mem_cons.mpr ⟨hzy, hnone⟩⟩
      · refine Or.inr ⟨⟨z :: before, behind, ?_, ?_, hbehind⟩, hlt⟩
        · exact congrArg (z :: ·) hl
        · have hyz := OrderedScalar.le_of_not_lt hy hz hzy
          exact List.forall_mem_cons.mpr ⟨OrderedScalar.lt_of_lt_of_le hlt hyz, hbefore⟩

theorem isFirstSlowest_of_firstSlowest (hl : ∀ z ∈ l, Scalar.isOrdered z.speed)
    (h : firstSlowest l = some x) : IsFirstSlowest l x := by
  cases l with
  | nil => cases h
  | cons y l =>
    cases h
    rcases foldl_slower_cases (hl y (List.mem_cons_self ..))
      fun z hz => hl z (List.mem_cons_of_mem _ hz) with
      ⟨hsame, hnone⟩ | ⟨⟨before, behind, hl, hbefore, hbehind⟩, hlt⟩
    · rw [hsame]
      exact ⟨[], l, rfl, fun a ha => absurd ha (List.not_mem_nil), hnone⟩
    · refine ⟨y :: before, behind, ?_, List.forall_mem_cons.mpr ⟨hlt, hbefore⟩, hbehind⟩
      exact congrArg (y :: ·) hl

/-- Among ordered speeds the first of the slowest vehicles at a point is seen there. -/
theorem get?_eq_some (hl : ∀ z ∈ l, Scalar.isOrdered z.speed) :
    (ofList l).get? p = some x ↔ IsFirstSlowest (l.filter (·.point = p)) x := by
  rw [get?_ofList]
  exact ⟨isFirstSlowest_of_firstSlowest fun z hz => hl z (List.mem_filter.mp hz).1,
    firstSlowest_of_isFirstSlowest⟩

/-- Where the vehicle that is seen stays, nothing else comes in sight when others are taken away. -/
theorem get?_filter {q : Snapshot α → Bool} (hl : ∀ z ∈ l, Scalar.isOrdered z.speed)
    (hstays : ∀ x, (ofList l).get? p = some x → q x = true) :
    (ofList (l.filter q)).get? p = (ofList l).get? p := by
  have hswap : (l.filter q).filter (·.point = p) = (l.filter (·.point = p)).filter q := by
    rw [List.filter_filter, List.filter_filter]
    exact List.filter_congr fun y _ => Bool.and_comm _ _
  -- where nothing is seen there is nothing; elsewhere the vehicle that is seen stays
  rcases hseen : (ofList l).get? p with _ | x
  · rw [get?_ofList] at hseen ⊢
    rw [hswap]
    cases hthere : l.filter (·.point = p) with
    | nil => rfl
    | cons y rest =>
      rw [hthere] at hseen
      cases hseen
  · have hkept := ((get?_eq_some hl).mp hseen).filter (hstays x hseen)
    rw [← hswap] at hkept
    exact (get?_eq_some fun z hz => hl z (List.mem_filter.mp hz).1).mpr hkept

end Occupancy

end RoadTraffic
