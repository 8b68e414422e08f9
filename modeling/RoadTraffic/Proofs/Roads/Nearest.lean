import Mathlib.Data.List.Sort
import RoadTraffic.Proofs.Geometry.Exact
import RoadTraffic.Proofs.Roads.Acceptance
import RoadTraffic.Proofs.Roads.SideBySide

/-!
# The nearest point

A tree over positions needs no links: the list in which the sites are kept is read as a tree, whose
node is the middle of the list and whose subtrees are the two halves (`halved`). To arrange sites in
that way, the median along an axis is put into the middle, and then the halves are arranged along
the next axis (`arrange`). How the median is found does not matter, as long as nothing beyond it is
left before it and nothing before it is left behind it (`Selects`). The tree over a list is the one
that sorting arranges (`ofSites_eq`).

However that is done, the tree holds the sites of the list and no others, and each of its nodes
parts what is below it from what is above it (`arranged_parted`). A search in such a tree never
finds anything but a site with its own distance, and it passes over a half only if everything there
is at least as far away as what it has found (`search_finds`). So in exact arithmetic what is found
is a nearest site (`nearest?_isNearest`), and on a map a nearest point (`RoadMap.nearest?_spec`).
-/

namespace RoadTraffic

namespace NearestTree

/-! ## The sites of a tree -/

/-- The positions in a tree, with their points. -/
def sites {α : Type} : NearestTree α → List (Vec3 α × PointId)
  | empty => []
  | node position id lower upper => (position, id) :: (lower.sites ++ upper.sites)

section

variable {α : Type} {levels : Nat} {l : List (Vec3 α × PointId)}

/-- A list is read as a tree with the site in the middle at its node. -/
theorem halved_node {lower upper : List (Vec3 α × PointId)} {m : Vec3 α × PointId}
    (h : lower.length = (lower ++ m :: upper).length / 2) :
    halved (levels + 1) (lower ++ m :: upper) =
      node m.1 m.2 (halved levels lower) (halved levels upper) := by
  rw [halved, ← h, List.drop_left, List.take_left]

theorem halved_nil : (halved levels [] : NearestTree α) = empty := by
  cases levels with
  | zero => rfl
  | succ levels => rw [halved, List.drop_nil]

/-- A list that is not empty has a middle. -/
theorem exists_middle (hl : l ≠ []) :
    ∃ lower m upper, l = lower ++ m :: upper ∧ lower.length = l.length / 2 := by
  have hlt : l.length / 2 < l.length :=
    Nat.div_lt_self (List.length_pos_iff.mpr hl) (Nat.lt_succ_self 1)
  refine ⟨l.take (l.length / 2), l[l.length / 2], l.drop (l.length / 2 + 1), ?_,
    List.length_take_of_le (Nat.le_of_lt hlt)⟩
  rw [← List.drop_eq_getElem_cons hlt, List.take_append_drop]

/-- With a level for each site, the tree that a list is read as holds all of its sites. -/
theorem halved_sites (h : l.length ≤ levels) : (halved levels l).sites.Perm l := by
  induction levels generalizing l with
  | zero =>
    rw [List.eq_nil_of_length_eq_zero (Nat.le_zero.mp h)]
    exact .nil
  | succ levels ih =>
    rcases eq_or_ne l [] with rfl | hl
    · rw [halved_nil]
      exact .nil
    obtain ⟨lower, m, upper, rfl, hmiddle⟩ := exists_middle hl
    rw [List.length_append, List.length_cons] at h
    rw [halved_node hmiddle, sites]
    exact (((ih (by omega)).append (ih (by omega))).cons _).trans List.perm_middle.symm

end

/-! ## How sites are arranged -/

section

variable {α : Type} [Scalar α] {axis : Axis} {levels middle : Nat}
  {l l' : List (Vec3 α × PointId)}

/-- A way to bring the right site to a place of a list: what becomes of the list, by the axis along
which the sites are compared and by the place. -/
abbrev Selection (α : Type) :=
  Axis → Nat → List (Vec3 α × PointId) → List (Vec3 α × PointId)

/-- The second list has the sites of the first one, and the right one is at the place: along the
axis no site before it comes after it, and no site behind it comes before it. In which order the
others are is not said. -/
def Selects (axis : Axis) (middle : Nat) (l l' : List (Vec3 α × PointId)) : Prop :=
  l'.Perm l ∧ ∃ lower m upper, l' = lower ++ m :: upper ∧ lower.length = middle ∧
    (∀ a ∈ lower, Scalar.totalLe (axis.of a.1) (axis.of m.1) = true) ∧
    ∀ b ∈ upper, Scalar.totalLe (axis.of m.1) (axis.of b.1) = true

/-- The right site is brought to each place of each list. -/
def Selecting (select : Selection α) : Prop :=
  ∀ axis middle l, middle < l.length → Selects axis middle l (select axis middle l)

/-- In a list that is sorted along the axis the right site is at each place. -/
theorem selects_of_pairwise (hperm : l'.Perm l)
    (hsorted : l'.Pairwise fun a b => Scalar.totalLe (axis.of a.1) (axis.of b.1) = true)
    (hmiddle : middle < l.length) : Selects axis middle l l' := by
  rw [← hperm.length_eq] at hmiddle
  have hsplit : l' = l'.take middle ++ l'[middle] :: l'.drop (middle + 1) := by
    rw [← List.drop_eq_getElem_cons hmiddle, List.take_append_drop]
  refine ⟨hperm, _, _, _, hsplit, List.length_take_of_le (Nat.le_of_lt hmiddle), ?_⟩
  rw [hsplit, List.pairwise_append, List.pairwise_cons] at hsorted
  obtain ⟨-, ⟨habove, -⟩, hbelow⟩ := hsorted
  exact ⟨fun a ha => hbelow a ha _ (List.mem_cons_self ..), habove⟩

/-- The list in which the sites of a list are kept: the median in the middle, and in each half its
median along the next axis, for some levels. -/
def arrange (select : Selection α) :
    Nat → Axis → List (Vec3 α × PointId) → List (Vec3 α × PointId)
  | 0, _, l => l
  | levels + 1, axis, l =>
    if l.length ≤ 1 then l
    else
      let selected := select axis (l.length / 2) l
      match selected.drop (l.length / 2) with
      | [] => selected
      | m :: upper =>
        arrange select levels axis.succ (selected.take (l.length / 2)) ++
          m :: arrange select levels axis.succ upper

variable {select : Selection α}

omit [Scalar α] in
theorem arrange_nil : arrange select levels axis [] = [] := by
  cases levels <;> rfl

/-- A list that is not empty is arranged around its median. -/
theorem arrange_cases (hselect : Selecting select) (levels : Nat) (axis : Axis) (hl : l ≠ []) :
    ∃ lower m upper, (lower ++ m :: upper).Perm l ∧ lower.length = l.length / 2 ∧
      (∀ a ∈ lower, Scalar.totalLe (axis.of a.1) (axis.of m.1) = true) ∧
      (∀ b ∈ upper, Scalar.totalLe (axis.of m.1) (axis.of b.1) = true) ∧
      (1 < l.length → select axis (l.length / 2) l = lower ++ m :: upper) ∧
      arrange select (levels + 1) axis l =
        arrange select levels axis.succ lower ++ m :: arrange select levels axis.succ upper := by
  rw [arrange]
  split
  · next hone =>
    -- a single site is its own median
    obtain ⟨m, rfl⟩ := List.length_eq_one_iff.mp
      (Nat.le_antisymm hone (List.length_pos_iff.mpr hl))
    refine ⟨[], m, [], .refl _, (Nat.div_eq_of_lt (Nat.lt_succ_self 1)).symm, nofun, nofun,
      fun h => absurd h (Nat.lt_irrefl 1), ?_⟩
    rw [arrange_nil]
    rfl
  · have hlt : l.length / 2 < l.length :=
      Nat.div_lt_self (List.length_pos_iff.mpr hl) (Nat.lt_succ_self 1)
    obtain ⟨hperm, lower, m, upper, hselected, hmiddle, hbelow, habove⟩ := hselect axis _ l hlt
    refine ⟨lower, m, upper, hselected ▸ hperm, hmiddle, hbelow, habove, fun _ => hselected, ?_⟩
    dsimp only
    rw [hselected, ← hmiddle, List.drop_left, List.take_left]

theorem arrange_perm (hselect : Selecting select) (levels : Nat) (axis : Axis)
    (l : List (Vec3 α × PointId)) : (arrange select levels axis l).Perm l := by
  induction levels generalizing axis l with
  | zero => exact .refl _
  | succ levels ih =>
    rcases eq_or_ne l [] with rfl | hl
    · exact .refl _
    obtain ⟨lower, m, upper, hperm, -, -, -, -, harrange⟩ :=
      arrange_cases hselect levels axis hl
    rw [harrange]
    exact ((ih _ _).append ((ih _ _).cons m)).trans hperm

/-- The tree over the sites of a list, arranged in some way. -/
def arranged (select : Selection α) (l : List (Vec3 α × PointId)) : NearestTree α :=
  halved l.length (arrange select l.length .x l)

/-- Halves around a middle are read as the subtrees of a node. -/
theorem halved_around (hselect : Selecting select) {lower upper : List (Vec3 α × PointId)}
    {m : Vec3 α × PointId} (h : lower.length = (lower ++ m :: upper).length / 2) :
    halved (levels + 1)
        (arrange select levels axis lower ++ m :: arrange select levels axis upper) =
      node m.1 m.2 (halved levels (arrange select levels axis lower))
        (halved levels (arrange select levels axis upper)) := by
  have hlength : ∀ half, (arrange select levels axis half).length = half.length :=
    fun half => (arrange_perm hselect levels axis half).length_eq
  rw [halved_node]
  rw [List.length_append, List.length_cons] at h ⊢
  rw [hlength, hlength]
  exact h

theorem sortAlong_perm (axis : Axis) (l : List (Vec3 α × PointId)) : (sortAlong axis l).Perm l :=
  List.mergeSort_perm ..

end

/-! ## What is found at all -/

section

variable {α : Type} [Scalar α] {target : Vec3 α} {best : Found α}

theorem of_mem_sites_build {levels : Nat} {axis : Axis} {l : List (Vec3 α × PointId)}
    {q : Vec3 α × PointId} (hq : q ∈ (build levels axis l).sites) : q ∈ l := by
  induction levels generalizing axis l with
  | zero => cases hq
  | succ levels ih =>
    have hperm := sortAlong_perm axis l
    unfold build at hq
    dsimp only at hq
    split at hq
    · cases hq
    next position id upper hdrop =>
    rcases List.mem_cons.mp hq with rfl | hq
    · have hmiddle : (position, id) ∈ (sortAlong axis l).drop (l.length / 2) :=
        hdrop ▸ List.mem_cons_self ..
      exact hperm.mem_iff.mp (List.mem_of_mem_drop hmiddle)
    rcases List.mem_append.mp hq with hq | hq
    · exact hperm.mem_iff.mp (List.mem_of_mem_take (ih hq))
    · have hupper : q ∈ (sortAlong axis l).drop (l.length / 2) :=
        hdrop ▸ List.mem_cons_of_mem _ (ih hq)
      exact hperm.mem_iff.mp (List.mem_of_mem_drop hupper)

/-- However distances compare, a search finds what had been found before or a site of the tree. -/
theorem search_found {P : PointId → Prop} {tree : NearestTree α} {axis : Axis}
    (htree : ∀ q ∈ tree.sites, P q.2) (hbest : ∀ f ∈ best, P f.1) :
    ∀ f ∈ search target axis tree best, P f.1 := by
  induction tree generalizing axis best with
  | empty => exact hbest
  | node position id lower upper ihLower ihUpper =>
    have hlower : ∀ q ∈ lower.sites, P q.2 := fun q hq =>
      htree q (List.mem_cons_of_mem _ (List.mem_append_left _ hq))
    have hupper : ∀ q ∈ upper.sites, P q.2 := fun q hq =>
      htree q (List.mem_cons_of_mem _ (List.mem_append_right _ hq))
    have hoffer : ∀ f ∈ best.offer id (position.distanceSquared target), P f.1 := by
      have hid : P id := htree _ (List.mem_cons_self ..)
      intro f hf
      unfold Found.offer at hf
      split at hf
      · cases hf
        exact hid
      split at hf
      · cases hf
        exact hid
      · exact hbest f hf
    unfold search
    dsimp only
    split
    · split
      · exact ihUpper hupper (ihLower hlower hoffer)
      · exact ihLower hlower hoffer
    · split
      · exact ihLower hlower (ihUpper hupper hoffer)
      · exact ihUpper hupper hoffer

end

/-! ## The order of a tree -/

section

variable {K : Type} [LinearOrder K]

/-- Along the axis of its level each node parts what is below it from what is above it. -/
def Parted : Axis → NearestTree K → Prop
  | _, empty => True
  | axis, node position _ lower upper =>
    (∀ q ∈ lower.sites, axis.of q.1 ≤ axis.of position) ∧
      (∀ q ∈ upper.sites, axis.of position ≤ axis.of q.1) ∧
      lower.Parted axis.succ ∧ upper.Parted axis.succ

variable [Scalar K] [SortedScalar K] {axis : Axis} {levels : Nat} {l : List (Vec3 K × PointId)}
  {select : Selection K}

theorem sortAlong_pairwise (axis : Axis) (l : List (Vec3 K × PointId)) :
    (sortAlong axis l).Pairwise fun a b =>
      Scalar.totalLe (axis.of a.1) (axis.of b.1) = true := by
  refine List.pairwise_mergeSort ?_ ?_ l
  · intro a b c hab hbc
    rw [SortedScalar.totalLe_iff] at hab hbc ⊢
    exact le_trans hab hbc
  · intro a b
    rw [Bool.or_eq_true, SortedScalar.totalLe_iff, SortedScalar.totalLe_iff]
    exact le_total _ _

/-- Sorting brings the right site to every place. -/
theorem selecting_sortAlong :
    Selecting fun (axis : Axis) (_ : Nat) (l : List (Vec3 K × PointId)) => sortAlong axis l :=
  fun axis _ l hmiddle =>
    selects_of_pairwise (sortAlong_perm axis l) (sortAlong_pairwise axis l) hmiddle

/-- The tree over a list is the one that sorting arranges. -/
theorem build_eq (h : l.length ≤ levels) :
    build levels axis l =
      halved levels (arrange (fun axis _ l => sortAlong axis l) levels axis l) := by
  induction levels generalizing axis l with
  | zero => rfl
  | succ levels ih =>
    have hperm := sortAlong_perm axis l
    rcases eq_or_ne l [] with rfl | hl
    · rw [build, hperm.eq_nil, List.drop_nil, arrange_nil, halved_nil]
    obtain ⟨lower, m, upper, hperm', hmiddle, -, -, hselected, harrange⟩ :=
      arrange_cases selecting_sortAlong levels axis hl
    have hsorted : sortAlong axis l = lower ++ m :: upper := by
      rcases Nat.lt_or_ge 1 l.length with hmore | hone
      · exact hselected hmore
      · -- a single site is sorted
        obtain ⟨q, rfl⟩ := List.length_eq_one_iff.mp
          (Nat.le_antisymm hone (List.length_pos_iff.mpr hl))
        rw [List.perm_singleton.mp hperm, List.perm_singleton.mp hperm']
    have hlength := hperm'.length_eq
    rw [← hlength] at hmiddle
    rw [harrange, halved_around selecting_sortAlong hmiddle, build, hsorted, ← hlength, ← hmiddle,
      List.drop_left, List.take_left]
    rw [List.length_append, List.length_cons] at hlength
    dsimp only
    rw [ih (by omega), ih (by omega)]

theorem arranged_parted (hselect : Selecting select) (h : l.length ≤ levels) :
    (halved levels (arrange select levels axis l)).Parted axis := by
  induction levels generalizing axis l with
  | zero => trivial
  | succ levels ih =>
    rcases eq_or_ne l [] with rfl | hl
    · rw [arrange_nil, halved_nil]
      trivial
    obtain ⟨lower, m, upper, hperm, hmiddle, hbelow, habove, -, harrange⟩ :=
      arrange_cases hselect levels axis hl
    have hlength := hperm.length_eq
    rw [← hlength] at hmiddle
    rw [List.length_append, List.length_cons] at hlength
    have hlower : lower.length ≤ levels := by omega
    have hupper : upper.length ≤ levels := by omega
    have hmem : ∀ {q axis} {half : List (Vec3 K × PointId)}, half.length ≤ levels →
        q ∈ (halved levels (arrange select levels axis half)).sites → q ∈ half := by
      intro q axis half hhalf hq
      have harranged := arrange_perm hselect levels axis half
      have hsites := halved_sites (harranged.length_eq.trans_le hhalf)
      exact harranged.mem_iff.mp (hsites.mem_iff.mp hq)
    rw [harrange, halved_around hselect hmiddle]
    refine ⟨fun q hq => ?_, fun q hq => ?_, ih hlower, ih hupper⟩
    · exact (SortedScalar.totalLe_iff _ _).mp (hbelow q (hmem hlower hq))
    · exact (SortedScalar.totalLe_iff _ _).mp (habove q (hmem hupper hq))

end

/-! ## The search -/

section

variable {K : Type} [LinearOrder K] [Scalar K] {target : Vec3 K} {best found : Found K}
  {l l' : List (Vec3 K × PointId)}

/-- Something has been found that is no farther away than `d`. -/
def Found.Within (f : Found K) (d : K) : Prop := ∃ id e, f = some (id, e) ∧ e ≤ d

omit [Scalar K] in
theorem Found.Within.mono {d d' : K} (h : Found.Within found d) (hd : d ≤ d') :
    Found.Within found d' := by
  obtain ⟨id, e, hfound, he⟩ := h
  exact ⟨id, e, hfound, le_trans he hd⟩

/-- What a search through some sites makes of what had been found before: it is no farther away than
any of them, nor than before, and it is one of them unless it was there before. -/
structure Finds (target : Vec3 K) (l : List (Vec3 K × PointId)) (best found : Found K) : Prop where
  keeps : ∀ d, best.Within d → found.Within d
  reaches : ∀ q ∈ l, found.Within (q.1.distanceSquared target)
  honest : ∀ id e, found = some (id, e) →
    best = some (id, e) ∨ ∃ q ∈ l, q.2 = id ∧ e = q.1.distanceSquared target

theorem Finds.refl : Finds target [] best best :=
  ⟨fun _ h => h, nofun, fun _ _ h => Or.inl h⟩

/-- One search after the other goes through the sites of both. -/
theorem Finds.trans {between : Found K} (h : Finds target l best between)
    (h' : Finds target l' between found) : Finds target (l ++ l') best found where
  keeps := fun d hd => h'.keeps d (h.keeps d hd)
  reaches := by
    intro q hq
    rcases List.mem_append.mp hq with hq | hq
    · exact h'.keeps _ (h.reaches q hq)
    · exact h'.reaches q hq
  honest := by
    intro id e he
    rcases h'.honest id e he with hbetween | ⟨q, hq, hfound⟩
    · rcases h.honest id e hbetween with hbest | ⟨q, hq, hfound⟩
      · exact Or.inl hbest
      · exact Or.inr ⟨q, List.mem_append_left _ hq, hfound⟩
    · exact Or.inr ⟨q, List.mem_append_right _ hq, hfound⟩

/-- In which order sites are gone through does not matter. -/
theorem Finds.perm (h : Finds target l best found) (hl : l.Perm l') :
    Finds target l' best found where
  keeps := h.keeps
  reaches := fun q hq => h.reaches q (hl.mem_iff.mpr hq)
  honest := fun id e he => (h.honest id e he).imp_right fun ⟨q, hq, hfound⟩ =>
    ⟨q, hl.mem_iff.mp hq, hfound⟩

end

section

variable {K : Type} [Field K] [LinearOrder K] [IsStrictOrderedRing K] [Scalar K] [ExactScalar K]
  {target : Vec3 K} {best found : Found K} {l l' : List (Vec3 K × PointId)}

theorem offer_finds (target : Vec3 K) (best : Found K) (position : Vec3 K) (id : PointId) :
    Finds target [(position, id)] best (best.offer id (position.distanceSquared target)) := by
  have hoffered : ∀ d : K, Found.Within (some (id, d)) d := fun d => ⟨id, d, rfl, le_refl d⟩
  have hfound : ∀ {e : K} {id' : PointId},
      (some (id, position.distanceSquared target) : Found K) = some (id', e) →
        ∃ q ∈ [(position, id)], q.2 = id' ∧ e = q.1.distanceSquared target := by
    intro e id' h
    cases h
    exact ⟨_, List.mem_singleton_self _, rfl, rfl⟩
  cases best with
  | none =>
    refine ⟨?_, ?_, fun id' e he => Or.inr (hfound he)⟩
    · rintro d ⟨_, _, h, _⟩
      cases h
    · intro q hq
      rw [List.mem_singleton.mp hq]
      exact hoffered _
  | some b =>
    obtain ⟨id', e⟩ := b
    unfold Found.offer
    simp only [ExactScalar.scalar_lt_iff]
    split
    · next hnearer =>
      refine ⟨?_, ?_, fun id' e he => Or.inr (hfound he)⟩
      · rintro d ⟨_, _, h, hd⟩
        cases h
        exact (hoffered _).mono (le_trans hnearer.le hd)
      · intro q hq
        rw [List.mem_singleton.mp hq]
        exact hoffered _
    · next hfarther =>
      refine ⟨fun d hd => hd, ?_, fun _ _ he => Or.inl he⟩
      intro q hq
      rw [List.mem_singleton.mp hq]
      exact ⟨id', e, rfl, not_lt.mp hfarther⟩

/-- Sites may be passed over that are no nearer than what has been found. -/
theorem passOver_finds {bound : K} (hfar : ¬ best.reaches bound = true)
    (hl : ∀ q ∈ l, bound ≤ q.1.distanceSquared target) : Finds target l best best := by
  refine ⟨fun _ h => h, fun q hq => ?_, fun _ _ h => Or.inl h⟩
  cases best with
  | none => exact absurd rfl hfar
  | some b =>
    obtain ⟨id, e⟩ := b
    unfold Found.reaches at hfar
    simp only [decide_eq_true_eq, ExactScalar.scalar_lt_iff] at hfar
    exact ⟨id, e, rfl, le_trans (not_lt.mp hfar) (hl q hq)⟩

/-- The second half is searched only if something in it may be nearer. -/
theorem farHalf_finds {between far : Found K} {bound : K} (hnear : Finds target l best between)
    (hfar : Finds target l' between far)
    (hl' : ∀ q ∈ l', bound ≤ q.1.distanceSquared target) :
    Finds target (l ++ l') best (if between.reaches bound then far else between) := by
  split
  · exact hnear.trans hfar
  · next hpassed => exact hnear.trans (passOver_finds hpassed hl')

/-- A position is at least as far from another one as along any axis. -/
theorem axis_le_distanceSquared (axis : Axis) (a b : Vec3 K) :
    (axis.of b - axis.of a) * (axis.of b - axis.of a) ≤ a.distanceSquared b := by
  rw [Vec3.distanceSquared_eq]
  have hx := mul_self_nonneg (b.x - a.x)
  have hy := mul_self_nonneg (b.y - a.y)
  have hz := mul_self_nonneg (b.z - a.z)
  cases axis <;> (unfold Axis.of; dsimp only; linarith)

/-- What lies on the other side of a plane is at least as far away as the plane. -/
theorem plane_le_distanceSquared {axis : Axis} {position q : Vec3 K}
    (h : (axis.of target ≤ axis.of position ∧ axis.of position ≤ axis.of q) ∨
      (axis.of q ≤ axis.of position ∧ axis.of position ≤ axis.of target)) :
    (axis.of target - axis.of position) * (axis.of target - axis.of position) ≤
      q.distanceSquared target := by
  refine le_trans (abs_le_iff_mul_self_le.mp ?_) (axis_le_distanceSquared axis q target)
  rcases h with ⟨h, h'⟩ | ⟨h, h'⟩
  · rw [abs_sub_comm, abs_sub_comm (axis.of target) (axis.of q), abs_of_nonneg (sub_nonneg.mpr h),
      abs_of_nonneg (sub_nonneg.mpr (le_trans h h'))]
    exact sub_le_sub_right h' _
  · rw [abs_of_nonneg (sub_nonneg.mpr h'), abs_of_nonneg (sub_nonneg.mpr (le_trans h h'))]
    exact sub_le_sub_left h _

theorem search_finds {tree : NearestTree K} {axis : Axis} (h : tree.Parted axis) :
    Finds target tree.sites best (search target axis tree best) := by
  induction tree generalizing axis best with
  | empty => exact .refl
  | node position id lower upper ihLower ihUpper =>
    obtain ⟨hbelow, habove, hlower, hupper⟩ := h
    have hoffer := offer_finds target best position id
    rw [search]
    simp only [ExactScalar.scalar_lt_iff, ExactScalar.scalar_sub_eq, ExactScalar.scalar_mul_eq,
      ExactScalar.scalar_ofNat_eq, Nat.cast_zero]
    split
    · next hside =>
      have hbeyond : ∀ q ∈ upper.sites, _ ≤ q.1.distanceSquared target := fun q hq =>
        plane_le_distanceSquared (Or.inl ⟨(sub_neg.mp hside).le, habove q hq⟩)
      exact hoffer.trans (farHalf_finds (ihLower hlower) (ihUpper hupper) hbeyond)
    · next hside =>
      have hbeyond : ∀ q ∈ lower.sites, _ ≤ q.1.distanceSquared target := fun q hq =>
        plane_le_distanceSquared (Or.inr ⟨hbelow q hq, sub_nonneg.mp (not_lt.mp hside)⟩)
      exact (hoffer.trans (farHalf_finds (ihUpper hupper) (ihLower hlower) hbeyond)).perm
        (List.perm_append_comm.append_left [(position, id)])

variable [SortedScalar K] {select : Selection K}

/-- However the sites are arranged, a search from the root of the tree goes through all of them. -/
theorem arranged_finds (hselect : Selecting select) (l : List (Vec3 K × PointId))
    (target : Vec3 K) : Finds target l none ((arranged select l).nearest? target) := by
  have hsites := arrange_perm hselect l.length .x l
  exact (search_finds (arranged_parted hselect (le_refl _))).perm
    ((halved_sites hsites.length_eq.le).trans hsites)

omit [Field K] [IsStrictOrderedRing K] [ExactScalar K] in
theorem ofSites_eq (l : List (Vec3 K × PointId)) :
    ofSites l = arranged (fun axis _ l => sortAlong axis l) l :=
  build_eq (le_refl _)

theorem ofSites_finds (l : List (Vec3 K × PointId)) (target : Vec3 K) :
    Finds target l none ((ofSites l).nearest? target) := by
  rw [ofSites_eq]
  exact arranged_finds selecting_sortAlong l target

/-- Nothing is found among no sites. Otherwise one of the sites is found, with the square of its own
distance, and no site is closer. -/
def IsNearest (l : List (Vec3 K × PointId)) (target : Vec3 K) (found : Found K) : Prop :=
  (found = none ↔ l = []) ∧
    ∀ id d, found = some (id, d) →
      (∃ position, (position, id) ∈ l ∧ position.distanceSquared target = d) ∧
        ∀ q ∈ l, d ≤ q.1.distanceSquared target

omit [Field K] [IsStrictOrderedRing K] [ExactScalar K] [SortedScalar K] in
theorem Finds.isNearest (h : Finds target l none found) : IsNearest l target found := by
  have hhonest : ∀ id d, found = some (id, d) →
      ∃ position, (position, id) ∈ l ∧ position.distanceSquared target = d := by
    intro id d hfound
    obtain hnone | ⟨q, hq, rfl, rfl⟩ := h.honest id d hfound
    · cases hnone
    · exact ⟨q.1, hq, rfl⟩
  refine ⟨⟨fun hnone => ?_, fun hl => ?_⟩, fun id d hfound => ⟨hhonest id d hfound, fun q hq => ?_⟩⟩
  · refine List.eq_nil_iff_forall_not_mem.mpr fun q hq => ?_
    obtain ⟨id, e, hfound, -⟩ := h.reaches q hq
    exact absurd (hnone.symm.trans hfound) (by simp)
  · rcases hfound : found with _ | ⟨id, d⟩
    · rfl
    · obtain ⟨position, hmem, -⟩ := hhonest id d hfound
      rw [hl] at hmem
      cases hmem
  · obtain ⟨id', e, hfound', he⟩ := h.reaches q hq
    cases hfound.symm.trans hfound'
    exact he

/-- **The tree finds a nearest point.** However the medians are found by which a list of sites is
arranged, and in the tree over the list in particular, a search finds a site to which no other one
is closer to the target, unless there is none at all. -/
theorem nearest?_isNearest (hselect : Selecting select) (l : List (Vec3 K × PointId))
    (target : Vec3 K) :
    IsNearest l target ((arranged select l).nearest? target) ∧
      IsNearest l target ((ofSites l).nearest? target) :=
  ⟨(arranged_finds hselect l target).isNearest, (ofSites_finds l target).isNearest⟩

/-- Selection by sorting the reversed list. -/
private def byInsertion : Selection Rat := fun axis _ l =>
  l.reverse.insertionSort fun a b => Scalar.totalLe (axis.of a.1) (axis.of b.1) = true

private theorem selecting_byInsertion : Selecting byInsertion := by
  intro axis middle l hmiddle
  have htotal : Std.Total fun a b : Vec3 Rat × PointId =>
      Scalar.totalLe (axis.of a.1) (axis.of b.1) = true :=
    ⟨fun a b => by
      rw [SortedScalar.totalLe_iff, SortedScalar.totalLe_iff]
      exact le_total _ _⟩
  have htrans : IsTrans (Vec3 Rat × PointId) fun a b =>
      Scalar.totalLe (axis.of a.1) (axis.of b.1) = true :=
    ⟨fun a b c => by
      rw [SortedScalar.totalLe_iff, SortedScalar.totalLe_iff, SortedScalar.totalLe_iff]
      exact le_trans⟩
  exact selects_of_pairwise ((List.perm_insertionSort _ _).trans l.reverse_perm)
    (List.pairwise_insertionSort _ _) hmiddle

/-- Six sites, two of them in the same place and three in one plane. -/
private def sixSites : List (Vec3 Rat × PointId) :=
  [(⟨5, 0, 0⟩, ⟨0⟩), (⟨0, 0, 0⟩, ⟨1⟩), (⟨5, 0, 1⟩, ⟨2⟩), (⟨0, 0, 0⟩, ⟨3⟩), (⟨2, 1, 0⟩, ⟨4⟩),
    (⟨5, 0, 9⟩, ⟨5⟩)]

theorem nearest?_of_six :
    Selecting byInsertion ∧ arrange byInsertion 6 .x sixSites ≠ sixSites ∧
      (arranged byInsertion sixSites).nearest? ⟨4, 0, 2⟩ = some (⟨2⟩, 2) ∧
      ∀ q ∈ sixSites, 2 ≤ q.1.distanceSquared ⟨4, 0, 2⟩ := by
  have hfound : (arranged byInsertion sixSites).nearest? ⟨4, 0, 2⟩ = some (⟨2⟩, 2) := by
    decide +kernel
  obtain ⟨⟨-, hnearest⟩, -⟩ := nearest?_isNearest selecting_byInsertion sixSites ⟨4, 0, 2⟩
  exact ⟨selecting_byInsertion, by decide +kernel, hfound, (hnearest _ _ hfound).2⟩

end

end NearestTree

namespace RoadMap

section

variable {α : Type} [Scalar α] {points : Array (RoadPoint α)} {junctions : Array (Junction α)}
  {splines : List Spline} {m : RoadMap α}

/-- What is found near a target is a point of the map. -/
theorem nearest?_inside (hm : ofParts points junctions splines = .ok m) {target : Vec3 α}
    {found : PointId × α} (h : m.nearest? target = some found) : found.1.index < m.points.size := by
  have hwell := (validated_of_ofParts hm).wellFormed
  have hsites : ∀ q ∈ m.tree.sites, q.2.index < m.points.size := by
    intro q hq
    obtain ⟨-, rfl⟩ := ofParts_eq_ok.mp hm
    obtain ⟨p, hp, rfl⟩ := List.mem_map.mp (NearestTree.of_mem_sites_build hq)
    obtain ⟨i, hi⟩ := List.mem_iff_getElem?.mp hp
    obtain ⟨-, hlt, hid⟩ := hwell.at_place hi
    exact hid ▸ hlt
  exact NearestTree.search_found (P := (·.index < m.points.size)) hsites (by rintro _ ⟨⟩) _ h

end

variable {K : Type} [Field K] [LinearOrder K] [IsStrictOrderedRing K] [Scalar K] [ExactScalar K]
  [SortedScalar K] {points : Array (RoadPoint K)} {junctions : Array (Junction K)}
  {splines : List Spline} {m : RoadMap K}

/-- The sites that a map is searched for are its points. -/
theorem nearest?_finds (hm : ofParts points junctions splines = .ok m) (target : Vec3 K) :
    NearestTree.Finds target (m.points.toList.map fun p => (p.position, p.id)) none
      (m.nearest? target) := by
  obtain ⟨-, rfl⟩ := ofParts_eq_ok.mp hm
  exact NearestTree.ofSites_finds ..

/-- On a map there is something near every target: a point with its distance, and no point of the
map is nearer. -/
theorem nearest?_spec (hm : ofParts points junctions splines = .ok m) (target : Vec3 K) :
    ∃ id : PointId, id.index < m.size ∧
      m.nearest? target = some (id, (m.point id).position.distanceSquared target) ∧
      ∀ p : PointId, p.index < m.size →
        (m.point id).position.distanceSquared target ≤
          (m.point p).position.distanceSquared target := by
  have hvalid := validated_of_ofParts hm
  have hfinds := nearest?_finds hm target
  have hreaches : ∀ p : PointId, p.index < m.size →
      NearestTree.Found.Within (m.nearest? target)
        ((m.point p).position.distanceSquared target) := fun p hp =>
    hfinds.reaches _ (List.mem_map_of_mem (List.mem_of_getElem? (point_mem hp)))
  obtain ⟨id, d, hfound, -⟩ := hreaches ⟨0⟩ (Nat.pos_of_ne_zero (Validation.check_ok hvalid).1)
  -- what was found is one of the sites, and so the point that its index finds
  obtain hnone | ⟨_, hsite, rfl, rfl⟩ := hfinds.honest id d hfound
  · cases hnone
  obtain ⟨p, hp, rfl⟩ := List.mem_map.mp hsite
  obtain ⟨i, hi⟩ := List.mem_iff_getElem?.mp hp
  obtain ⟨hpoint, hlt, hid⟩ := hvalid.wellFormed.at_place hi
  have hposition : (m.point p.id).position = p.position := by
    rw [hid]
    exact congrArg RoadPoint.position hpoint
  refine ⟨p.id, hid ▸ hlt, hposition ▸ hfound, fun q hq => ?_⟩
  obtain ⟨id, e, hother, he⟩ := hreaches q hq
  cases hfound.symm.trans hother
  exact hposition ▸ he

end RoadMap

end RoadTraffic
