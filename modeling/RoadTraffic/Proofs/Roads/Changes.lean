import RoadTraffic.Proofs.Roads.WellFormed
import RoadTraffic.Roads.Builder

/-!
# Changes of a graph under construction

An operation looks at the graph, and only then does it change anything: it either fails and leaves
the graph as it is, or makes one change that fits (`Makes`). What a change may be is told apart here
from how the operations check for it. A spline brings points of its own (`Growth`); a junction, a
connection and a lane link lie among the points that are there (`Link`).

Each change keeps the graph well-formed (`Growth.wellFormed`, `Link.wellFormed`).
-/

namespace RoadTraffic

namespace RoadBuilder

variable {α β γ : Type}

/-! ## Operations that fail without a trace -/

/-- `x` fails and leaves the graph as it is, or answers and leaves a graph that `R` relates to
it. -/
inductive Makes (R : RoadBuilder α → RoadBuilder α → Prop) (x : Building α β)
    (b : RoadBuilder α) : Prop where
  | failed (e : MapError α) (h : x b = (.error e, b))
  | done (c : β) (b' : RoadBuilder α) (h : x b = (.ok c, b')) (hb : R b b')

theorem bind_run (x : Building α β) (f : β → Building α γ) (b : RoadBuilder α) :
    (x >>= f) b = match x b with
      | (.error e, b') => (.error e, b')
      | (.ok c, b') => f c b' := by
  show ExceptT.bindCont f (x b).1 (x b).2 = _
  rcases x b with ⟨_ | _, b'⟩ <;> rfl

variable {R : RoadBuilder α → RoadBuilder α → Prop} {b : RoadBuilder α}

/-- Who leaves the graph as it is and then makes a change makes that change. -/
theorem Makes.bind {x : Building α β} {f : β → Building α γ} (hx : Makes Eq x b)
    (hf : ∀ c, Makes R (f c) b) : Makes R (x >>= f) b := by
  have hrun := bind_run x f b
  cases hx with
  | failed e h => exact .failed e (by rw [hrun, h])
  | done c b' h hb =>
    subst hb
    rw [h] at hrun
    cases hf c with
    | failed e h' => exact .failed e (hrun.trans h')
    | done d b'' h' hb => exact .done d b'' (hrun.trans h') hb

theorem makes_discard {x : Building α β} (h : Makes R x b) :
    Makes R (discard x : Building α Unit) b := by
  have hrun : (discard x : Building α Unit) b = _ := bind_run x (fun _ => pure ()) b
  cases h with
  | failed e h => exact .failed e (by rw [hrun, h])
  | done c b' h hb => exact .done () b' (by rw [hrun, h]; rfl) hb

theorem makes_get {f : RoadBuilder α → Building α γ} (h : Makes R (f b) b) :
    Makes R (get >>= f) b := by
  cases h with
  | failed e h => exact .failed e h
  | done c b' h hb => exact .done c b' h hb

theorem makes_lift {answer : Except (MapError α) β} {f : β → Building α γ}
    (hf : ∀ c, answer = .ok c → Makes R (f c) b) :
    Makes R ((liftM answer : Building α β) >>= f) b := by
  cases answer with
  | error e => exact .failed e rfl
  | ok c =>
    cases hf c rfl with
    | failed e h => exact .failed e h
    | done d b' h hb => exact .done d b' h hb

theorem makes_ite {c : Prop} [Decidable c] {x y : Building α γ} (hx : c → Makes R x b)
    (hy : ¬ c → Makes R y b) : Makes R (if c then x else y) b := by
  split
  · next hc => exact hx hc
  · next hc => exact hy hc

theorem resolve_makes (reference : String) (b : RoadBuilder α) :
    Makes Eq (resolve reference) b := by
  refine makes_get ?_
  cases Reference.resolve b.splines reference with
  | error e => exact .failed e rfl
  | ok p => exact .done p b rfl rfl

theorem resolvePair_makes (pair : PairEntry) (b : RoadBuilder α) : Makes Eq (resolvePair pair) b :=
  (resolve_makes pair.first b).bind fun _ => (resolve_makes pair.second b).bind fun _ =>
    .done _ _ rfl rfl

variable [Scalar α]

/-! ## The changes -/

/-- The graph with one more spline. -/
def withSpline (b : RoadBuilder α) (name : String) (sites : List (Site α)) (closed : Bool) :
    RoadBuilder α :=
  let chain := sites.mapIdx fun i site => chained b.points.size sites.length i closed site
  { b with
    points := b.points ++ chain.toArray
    splines := b.splines ++ [⟨name, chain.map (·.id), closed⟩] }

/-- The graph with one more junction. -/
def withJunction (b : RoadBuilder α) (junction : Junction α) : RoadBuilder α :=
  let id : JunctionId := ⟨b.junctions.size⟩
  let named := (b.modifyPoint junction.start ({ · with branch := some id })).modifyPoint
    junction.finish ({ · with merge := some id })
  { named with junctions := b.junctions.push { junction with id } }

/-- The graph in which the lane of `first` goes on at `second`. -/
def connected (b : RoadBuilder α) (first second : PointId) : RoadBuilder α :=
  (b.modifyPoint first ({ · with next := some second })).modifyPoint second
    ({ · with previous := some first })

/-- The graph in which `left` lies to the left of `right`. -/
def beside (b : RoadBuilder α) (left right : PointId) : RoadBuilder α :=
  (b.modifyPoint left ({ · with right := some right })).modifyPoint right
    ({ · with left := some left })

/-- A spline is added under a new name. -/
inductive Growth (b : RoadBuilder α) : RoadBuilder α → Prop where
  | spline {name : String} {sites : List (Site α)} {closed : Bool}
      (hname : ∀ s ∈ b.splines, s.name ≠ name) (hlength : 2 ≤ sites.length) :
      b.Growth (b.withSpline name sites closed)

/-- Points of the graph are linked that were free for it. -/
inductive Link (b : RoadBuilder α) : RoadBuilder α → Prop where
  | junction {junction : Junction α} (hprobability : Validation.isProbability junction.probability)
      (hstart : junction.start.index < b.points.size)
      (hfinish : junction.finish.index < b.points.size)
      (hbranch : (b.point junction.start).branch = none)
      (hmerge : (b.point junction.finish).merge = none) : b.Link (b.withJunction junction)
  | connection {first second : PointId} (hfirst : first.index < b.points.size)
      (hsecond : second.index < b.points.size) (hnext : (b.point first).next = none)
      (hprevious : (b.point second).previous = none) : b.Link (b.connected first second)
  | lanes {left right : PointId} (hleft : left.index < b.points.size)
      (hright : right.index < b.points.size) : b.Link (b.beside left right)

/-! ## What the operations make -/

theorem addSpline_makes (name : String) (sites : List (Site α)) (closed : Bool)
    (b : RoadBuilder α) : Makes Growth (addSpline name sites closed) b := by
  refine makes_get (makes_ite (fun _ => .failed _ rfl) fun hname => ?_)
  refine makes_ite (fun _ => .failed _ rfl) fun hlength => ?_
  refine .done _ _ rfl (.spline (fun s hs heq => hname ?_) (Nat.not_lt.mp hlength))
  exact List.any_eq_true.mpr ⟨s, hs, beq_iff_eq.mpr heq⟩

theorem addJunction_makes (junction : Junction α) (b : RoadBuilder α) :
    Makes Link (addJunction junction) b := by
  refine makes_get (makes_ite (fun hprobability => ?_) fun _ => .failed _ rfl)
  refine makes_ite (fun _ => .failed _ rfl) fun hends => ?_
  refine makes_ite (fun _ => .failed _ rfl) fun hbranch => ?_
  refine makes_ite (fun _ => .failed _ rfl) fun hmerge => ?_
  rw [not_or, Nat.not_le, Nat.not_le] at hends
  rw [Bool.not_eq_true, Option.isSome_eq_false_iff, Option.isNone_iff_eq_none] at hbranch hmerge
  exact .done _ _ rfl (.junction hprobability hends.1 hends.2 hbranch hmerge)

omit [Scalar α] in
theorem checkLink_ok {first second : PointId} {u : Unit} (h : b.checkLink first second = .ok u) :
    first.index < b.points.size ∧ second.index < b.points.size := by
  unfold checkLink at h
  split at h
  · cases h
  · next hfirst =>
    split at h
    · cases h
    · next hsecond => exact ⟨Nat.not_le.mp hfirst, Nat.not_le.mp hsecond⟩

theorem connect_makes (first second : PointId) (b : RoadBuilder α) :
    Makes Link (connect first second) b := by
  refine makes_get (makes_lift fun _ hlink => ?_)
  obtain ⟨hfirst, hsecond⟩ := checkLink_ok hlink
  refine makes_ite (fun _ => .failed _ rfl) fun hnext => ?_
  refine makes_ite (fun _ => .failed _ rfl) fun hprevious => ?_
  rw [Bool.not_eq_true, Option.isSome_eq_false_iff, Option.isNone_iff_eq_none] at hnext hprevious
  exact .done _ _ rfl (.connection hfirst hsecond hnext hprevious)

theorem linkLanes_makes (left right : PointId) (b : RoadBuilder α) :
    Makes Link (linkLanes left right) b := by
  refine makes_get (makes_lift fun _ hlink => ?_)
  obtain ⟨hleft, hright⟩ := checkLink_ok hlink
  exact .done _ _ rfl (.lanes hleft hright)

/-! ## Changes keep graphs well-formed -/

/-- Points, junctions and splines of the graph fit together. -/
def WellFormed (b : RoadBuilder α) : Prop :=
  Validation.WellFormed b.points b.junctions b.splines

open Validation (pointAt junctionAt)

omit [Scalar α] in
@[simp] theorem modifyPoint_size {id : PointId} {f : RoadPoint α → RoadPoint α} :
    (b.modifyPoint id f).points.size = b.points.size := Array.size_modify

theorem point_modifyPoint {id : PointId} {f : RoadPoint α → RoadPoint α}
    (hid : id.index < b.points.size) (p : PointId) :
    pointAt (b.modifyPoint id f).points p =
      if p = id then f (pointAt b.points p) else pointAt b.points p := by
  unfold pointAt modifyPoint
  rw [Array.getD_eq_getD_getElem?, Array.getElem?_modify]
  by_cases hp : p = id
  · rw [if_pos (congrArg PointId.index hp.symm), if_pos hp, hp, Array.getElem?_eq_getElem hid,
      Array.getD_eq_getD_getElem?, Array.getElem?_eq_getElem hid]
    rfl
  · rw [if_neg fun h => hp (congrArg PointId.mk h.symm), if_neg hp, Array.getD_eq_getD_getElem?]

theorem point_connected {first second : PointId} (hfirst : first.index < b.points.size)
    (hsecond : second.index < b.points.size) (p : PointId) :
    pointAt (b.connected first second).points p =
      { pointAt b.points p with
        next := if p = first then some second else (pointAt b.points p).next
        previous := if p = second then some first else (pointAt b.points p).previous } := by
  unfold connected
  rw [point_modifyPoint (modifyPoint_size.symm ▸ hsecond), point_modifyPoint hfirst]
  split <;> split <;> rfl

theorem point_beside {left right : PointId} (hleft : left.index < b.points.size)
    (hright : right.index < b.points.size) (p : PointId) :
    pointAt (b.beside left right).points p =
      { pointAt b.points p with
        right := if p = left then some right else (pointAt b.points p).right
        left := if p = right then some left else (pointAt b.points p).left } := by
  unfold beside
  rw [point_modifyPoint (modifyPoint_size.symm ▸ hright), point_modifyPoint hleft]
  split <;> split <;> rfl

theorem point_withJunction {junction : Junction α} (hstart : junction.start.index < b.points.size)
    (hfinish : junction.finish.index < b.points.size) (p : PointId) :
    pointAt (b.withJunction junction).points p =
      { pointAt b.points p with
        branch := if p = junction.start then some ⟨b.junctions.size⟩
          else (pointAt b.points p).branch
        merge := if p = junction.finish then some ⟨b.junctions.size⟩
          else (pointAt b.points p).merge } := by
  show pointAt ((b.modifyPoint _ _).modifyPoint _ _).points p = _
  rw [point_modifyPoint (modifyPoint_size.symm ▸ hfinish), point_modifyPoint hstart]
  split <;> split <;> rfl

theorem inside_of_ite {c : Prop} [Decidable c] {link : Option PointId} {p q : PointId} {n : Nat}
    (h : (if c then some p else link) = some q) (hp : p.index < n)
    (hlink : link = some q → q.index < n) : q.index < n := by
  split at h
  · rw [← Option.some.inj h]
    exact hp
  · exact hlink h

theorem WellFormed.connected (h : b.WellFormed) {first second : PointId}
    (hfirst : first.index < b.points.size) (hsecond : second.index < b.points.size)
    (hnext : (pointAt b.points first).next = none)
    (hprevious : (pointAt b.points second).previous = none) :
    (b.connected first second).WellFormed := by
  have hpoint := point_connected hfirst hsecond
  refine h.relink (modifyPoint_size.trans modifyPoint_size) (fun p => by rw [hpoint])
    (fun p => by rw [hpoint]) (fun p => by rw [hpoint]) (fun {p q} hq => ?_) fun {p q} => ?_
  · rw [hpoint, RoadPoint.mem_links] at hq
    rcases hq with hq | hq | hq
    · exact inside_of_ite hq hsecond fun hq => h.link (RoadPoint.mem_links.mpr (.inl hq))
    · exact inside_of_ite hq hfirst fun hq => h.link (RoadPoint.mem_links.mpr (.inr (.inl hq)))
    · exact h.link (RoadPoint.mem_links.mpr (.inr (.inr hq)))
  · rw [hpoint, hpoint]
    dsimp only
    by_cases hp : p = first
    · by_cases hq : q = second
      · rw [if_pos hp, if_pos hq, hp, hq]
        exact iff_of_true rfl rfl
      · -- `first` led nowhere, so nothing but `second` follows it
        rw [if_pos hp, if_neg hq, ← h.chain, hp, hnext, Option.some.injEq]
        exact ⟨fun heq => absurd heq.symm hq, nofun⟩
    · by_cases hq : q = second
      · rw [if_neg hp, if_pos hq, h.chain, hq, hprevious, Option.some.injEq]
        exact ⟨nofun, fun heq => absurd heq.symm hp⟩
      · rw [if_neg hp, if_neg hq, h.chain]

theorem WellFormed.beside (h : b.WellFormed) {left right : PointId}
    (hleft : left.index < b.points.size) (hright : right.index < b.points.size) :
    (b.beside left right).WellFormed := by
  have hpoint := point_beside hleft hright
  refine h.relink (modifyPoint_size.trans modifyPoint_size) (fun p => by rw [hpoint])
    (fun p => by rw [hpoint]) (fun p => by rw [hpoint]) (fun {p q} hq => ?_) fun {p q} => ?_
  · rw [hpoint, RoadPoint.mem_links] at hq
    rcases hq with hq | hq | hq | hq
    · exact h.link (RoadPoint.mem_links.mpr (.inl hq))
    · exact h.link (RoadPoint.mem_links.mpr (.inr (.inl hq)))
    · exact inside_of_ite hq hleft fun hq =>
        h.link (RoadPoint.mem_links.mpr (.inr (.inr (.inl hq))))
    · exact inside_of_ite hq hright fun hq =>
        h.link (RoadPoint.mem_links.mpr (.inr (.inr (.inr hq))))
  · rw [hpoint, hpoint]
    exact h.chain

/-- The junction that an index finds after one more was added. -/
theorem junctionAt_push {junctions : Array (Junction α)} {junction : Junction α} {j : JunctionId} :
    junctionAt (junctions.push junction) j =
      if j.index = junctions.size then junction else junctionAt junctions j := by
  unfold junctionAt
  rw [Array.getD_eq_getD_getElem?, Array.getElem?_push]
  split
  · rfl
  · rw [Array.getD_eq_getD_getElem?]

/-- One more junction at an end that none had. `name` tells which junction a point names for that
end, and `side` which end it is. -/
theorem named_push {junctions : Array (Junction α)} (junction : Junction α)
    {side : Junction α → PointId} {name : PointId → Option JunctionId}
    (h : ∀ {p j}, name p = some j ↔ j.index < junctions.size ∧ side (junctionAt junctions j) = p)
    (hfree : name (side junction) = none) {p : PointId} {j : JunctionId} :
    (if p = side junction then some ⟨junctions.size⟩ else name p) = some j ↔
      j.index < (junctions.push junction).size ∧
        side (junctionAt (junctions.push junction) j) = p := by
  rw [Array.size_push, junctionAt_push]
  by_cases hj : j.index = junctions.size
  · obtain rfl : j = ⟨junctions.size⟩ := congrArg JunctionId.mk hj
    rw [if_pos rfl]
    by_cases hp : p = side junction
    · rw [if_pos hp]
      exact iff_of_true rfl ⟨Nat.lt_succ_self _, hp.symm⟩
    · rw [if_neg hp]
      exact ⟨fun hold => absurd (h.mp hold).1 (Nat.lt_irrefl _), fun hnew => absurd hnew.2.symm hp⟩
  · rw [if_neg hj, Nat.lt_succ_iff_lt_or_eq, or_iff_left hj]
    by_cases hp : p = side junction
    · -- no older junction has this end
      rw [if_pos hp, hp, ← h, hfree, Option.some.injEq]
      exact ⟨fun heq => absurd (congrArg JunctionId.index heq).symm hj, nofun⟩
    · rw [if_neg hp, h]

/-- What holds of the older junctions and of the new one holds of all. -/
theorem forall_push {junctions : Array (Junction α)} (junction : Junction α)
    {P : JunctionId → Junction α → Prop} (hnew : P ⟨junctions.size⟩ junction)
    (hold : ∀ {j : JunctionId}, j.index < junctions.size → P j (junctionAt junctions j))
    {j : JunctionId} (hj : j.index < (junctions.push junction).size) :
    P j (junctionAt (junctions.push junction) j) := by
  rw [Array.size_push] at hj
  rw [junctionAt_push]
  split
  · next heq =>
    obtain rfl : j = ⟨junctions.size⟩ := congrArg JunctionId.mk heq
    exact hnew
  · exact hold (by omega)

theorem WellFormed.withJunction (h : b.WellFormed) {junction : Junction α}
    (hprobability : Validation.isProbability junction.probability)
    (hstart : junction.start.index < b.points.size)
    (hfinish : junction.finish.index < b.points.size)
    (hbranch : (pointAt b.points junction.start).branch = none)
    (hmerge : (pointAt b.points junction.finish).merge = none) :
    (b.withJunction junction).WellFormed := by
  have hpoint := point_withJunction hstart hfinish
  have hsize : (b.withJunction junction).points.size = b.points.size :=
    modifyPoint_size.trans modifyPoint_size
  let new : Junction α := { junction with id := ⟨b.junctions.size⟩ }
  exact {
    id := fun hp => by rw [hpoint]; exact h.id (hsize ▸ hp)
    link := fun hq => by rw [hpoint] at hq; exact hsize.symm ▸ h.link hq
    chain := fun {p q} => by rw [hpoint, hpoint]; exact h.chain
    junction := forall_push new (P := fun j junction => junction.id = j) rfl h.junction
    start := forall_push new (P := fun _ j => j.start.index < _) (hsize.symm ▸ hstart)
      fun hj => hsize.symm ▸ h.start hj
    finish := forall_push new (P := fun _ j => j.finish.index < _) (hsize.symm ▸ hfinish)
      fun hj => hsize.symm ▸ h.finish hj
    probability := forall_push new (P := fun _ j => Validation.isProbability j.probability)
      hprobability h.probability
    branch := fun {p j} => by rw [hpoint]; exact named_push new h.branch hbranch
    merge := fun {p j} => by rw [hpoint]; exact named_push new h.merge hmerge
    names := h.names
    onSpline := fun hs _ hp => hsize.symm ▸ h.onSpline hs hp }

/-! ### One more spline -/

section Spline

variable {name : String} {sites : List (Site α)} {closed : Bool}

theorem withSpline_size :
    (b.withSpline name sites closed).points.size = b.points.size + sites.length := by
  simp [withSpline]

theorem point_withSpline (p : PointId) :
    pointAt (b.withSpline name sites closed).points p =
      if p.index < b.points.size then pointAt b.points p
      else match sites[p.index - b.points.size]? with
        | some site =>
          chained b.points.size sites.length (p.index - b.points.size) closed site
        | none => default := by
  unfold pointAt withSpline
  dsimp only
  rw [Array.getD_eq_getD_getElem?, Array.getElem?_append]
  by_cases hp : p.index < b.points.size
  · rw [if_pos hp, if_pos hp, Array.getD_eq_getD_getElem?]
  · rw [if_neg hp, if_neg hp, List.getElem?_toArray, List.getElem?_mapIdx]
    cases sites[p.index - b.points.size]? <;> rfl

/-- A point is linked as before, or it is one of the new ones and linked along the spline. -/
theorem link_withSpline {β : Type} (side : RoadPoint α → Option β) (hside : side default = none)
    {p : PointId} {c : β} :
    side (pointAt (b.withSpline name sites closed).points p) = some c ↔
      side (pointAt b.points p) = some c ∨
        ∃ i site, sites[i]? = some site ∧ p = ⟨b.points.size + i⟩ ∧
          side (chained b.points.size sites.length i closed site) = some c := by
  rw [point_withSpline]
  split
  · next hp =>
    refine (or_iff_left ?_).symm
    rintro ⟨i, -, -, rfl, -⟩
    exact absurd hp (Nat.not_lt.mpr (Nat.le_add_right _ _))
  · next hp =>
    rw [Validation.pointAt_outside (Nat.not_lt.mp hp), hside, or_iff_right nofun]
    constructor
    · intro hc
      split at hc
      · next site hsite =>
        refine ⟨_, site, hsite, ?_, hc⟩
        rw [Nat.add_sub_cancel' (Nat.not_lt.mp hp)]
      · rw [hside] at hc
        cases hc
    · rintro ⟨i, site, hsite, rfl, hc⟩
      dsimp only
      rw [Nat.add_sub_cancel_left, hsite]
      exact hc

/-- The place `k` comes after the place `i` along a spline of `count` points. -/
def Follows (count : Nat) (closed : Bool) (i k : Nat) : Prop :=
  k = i + 1 ∨ closed = true ∧ i + 1 = count ∧ k = 0

theorem chained_next {first count i : Nat} (hi : i < count) {site : Site α} {q : PointId} :
    (chained first count i closed site).next = some q ↔
      ∃ k < count, q = ⟨first + k⟩ ∧ Follows count closed i k := by
  unfold chained Follows
  dsimp only
  split
  · next hlt =>
    rw [Option.some.injEq]
    constructor
    · rintro rfl
      exact ⟨i + 1, hlt, rfl, .inl rfl⟩
    · rintro ⟨k, hk, rfl, rfl | ⟨-, hlast, -⟩⟩
      · rfl
      · omega
  · next hlast =>
    split
    · next hclosed =>
      rw [Option.some.injEq]
      constructor
      · rintro rfl
        exact ⟨0, by omega, rfl, .inr ⟨hclosed, by omega, rfl⟩⟩
      · rintro ⟨k, hk, rfl, rfl | ⟨-, -, rfl⟩⟩
        · omega
        · rfl
    · next hopen =>
      refine iff_of_false nofun ?_
      rintro ⟨k, hk, -, rfl | ⟨hclosed, -, -⟩⟩
      · omega
      · exact hopen hclosed

theorem chained_previous {first count k : Nat} (hk : k < count) {site : Site α} {p : PointId} :
    (chained first count k closed site).previous = some p ↔
      ∃ i < count, p = ⟨first + i⟩ ∧ Follows count closed i k := by
  unfold chained Follows
  dsimp only
  split
  · next hpos =>
    rw [Option.some.injEq]
    constructor
    · rintro rfl
      exact ⟨k - 1, by omega, by rw [Nat.add_sub_assoc hpos], .inl (by omega)⟩
    · rintro ⟨i, hi, rfl, rfl | ⟨-, -, rfl⟩⟩
      · rfl
      · omega
  · next hzero =>
    split
    · next hclosed =>
      rw [Option.some.injEq]
      constructor
      · rintro rfl
        exact ⟨count - 1, by omega, by rw [Nat.add_sub_assoc (by omega)],
          .inr ⟨hclosed, by omega, by omega⟩⟩
      · rintro ⟨i, hi, rfl, rfl | ⟨-, rfl, -⟩⟩
        · omega
        · rfl
    · next hopen =>
      refine iff_of_false nofun ?_
      rintro ⟨i, hi, -, rfl | ⟨hclosed, -, -⟩⟩
      · omega
      · exact hopen hclosed

omit [Scalar α] in
theorem lt_of_getElem? {i : Nat} {site : Site α} (h : sites[i]? = some site) : i < sites.length :=
  (List.getElem?_eq_some_iff.mp h).1

/-- Links that the points of a new spline do not have are as before. -/
theorem side_withSpline {β : Type} (side : RoadPoint α → Option β) (hside : side default = none)
    (hchained : ∀ i site, side (chained b.points.size sites.length i closed site) = none)
    (p : PointId) :
    side (pointAt (b.withSpline name sites closed).points p) = side (pointAt b.points p) := by
  refine Option.ext fun c => ?_
  rw [link_withSpline side hside, or_iff_left]
  rintro ⟨i, site, -, -, hc⟩
  rw [hchained] at hc
  cases hc

/-- The point `q` comes after `p` along a spline of `count` points that begins with the point
`first`. -/
def Threads (first count : Nat) (closed : Bool) (p q : PointId) : Prop :=
  ∃ i < count, ∃ k < count, p = ⟨first + i⟩ ∧ q = ⟨first + k⟩ ∧ Follows count closed i k

theorem next_withSpline {p q : PointId} :
    (pointAt (b.withSpline name sites closed).points p).next = some q ↔
      (pointAt b.points p).next = some q ∨ Threads b.points.size sites.length closed p q := by
  rw [link_withSpline (·.next) rfl]
  refine or_congr Iff.rfl ⟨?_, ?_⟩
  · rintro ⟨i, site, hsite, rfl, hq⟩
    have hi := lt_of_getElem? hsite
    obtain ⟨k, hk, rfl, hfollows⟩ := (chained_next hi).mp hq
    exact ⟨i, hi, k, hk, rfl, rfl, hfollows⟩
  · rintro ⟨i, hi, k, hk, rfl, rfl, hfollows⟩
    exact ⟨i, sites[i], List.getElem?_eq_getElem hi, rfl,
      (chained_next hi).mpr ⟨k, hk, rfl, hfollows⟩⟩

theorem previous_withSpline {p q : PointId} :
    (pointAt (b.withSpline name sites closed).points q).previous = some p ↔
      (pointAt b.points q).previous = some p ∨ Threads b.points.size sites.length closed p q := by
  rw [link_withSpline (·.previous) rfl]
  refine or_congr Iff.rfl ⟨?_, ?_⟩
  · rintro ⟨k, site, hsite, rfl, hp⟩
    have hk := lt_of_getElem? hsite
    obtain ⟨i, hi, rfl, hfollows⟩ := (chained_previous hk).mp hp
    exact ⟨i, hi, k, hk, rfl, rfl, hfollows⟩
  · rintro ⟨i, hi, k, hk, rfl, rfl, hfollows⟩
    exact ⟨k, sites[k], List.getElem?_eq_getElem hk, rfl,
      (chained_previous hk).mpr ⟨i, hi, rfl, hfollows⟩⟩

/-- The points of the new spline are among the points. -/
theorem Threads.inside {first count : Nat} {p q : PointId} (h : Threads first count closed p q) :
    p.index < first + count ∧ q.index < first + count := by
  obtain ⟨i, hi, k, hk, rfl, rfl, -⟩ := h
  exact ⟨Nat.add_lt_add_left hi _, Nat.add_lt_add_left hk _⟩

theorem WellFormed.withSpline (h : b.WellFormed) (hname : ∀ s ∈ b.splines, s.name ≠ name) :
    (b.withSpline name sites closed).WellFormed where
  id {p} hp := by
    rw [withSpline_size] at hp
    rw [point_withSpline]
    split
    · next hold => exact h.id hold
    · next hnew =>
      rw [List.getElem?_eq_getElem (by omega)]
      exact congrArg PointId.mk (Nat.add_sub_cancel' (Nat.not_lt.mp hnew))
  link {p q} hq := by
    have hold : q ∈ (pointAt b.points p).links → q.index < b.points.size + sites.length :=
      fun hq => Nat.lt_add_right _ (h.link hq)
    rw [RoadPoint.mem_links] at hold
    rw [RoadPoint.mem_links, next_withSpline, previous_withSpline,
      side_withSpline (·.left) rfl fun _ _ => rfl,
      side_withSpline (·.right) rfl fun _ _ => rfl] at hq
    rw [withSpline_size]
    rcases hq with (hq | hq) | (hq | hq) | hq
    · exact hold (.inl hq)
    · exact hq.inside.2
    · exact hold (.inr (.inl hq))
    · exact hq.inside.1
    · exact hold (.inr (.inr hq))
  chain {p q} := by
    rw [next_withSpline, previous_withSpline, h.chain]
  junction := h.junction
  start hj := by
    rw [withSpline_size]
    exact Nat.lt_add_right _ (h.start hj)
  finish hj := by
    rw [withSpline_size]
    exact Nat.lt_add_right _ (h.finish hj)
  probability := h.probability
  branch {p j} := by
    rw [side_withSpline (·.branch) rfl fun _ _ => rfl]
    exact h.branch
  merge {p j} := by
    rw [side_withSpline (·.merge) rfl fun _ _ => rfl]
    exact h.merge
  names := by
    show ((b.splines ++ [_]).map Spline.name).Nodup
    rw [List.map_append, List.map_singleton, List.nodup_append]
    refine ⟨h.names, List.pairwise_singleton _ _, fun n hn n' hn' => ?_⟩
    obtain ⟨s, hs, rfl⟩ := List.mem_map.mp hn
    rw [List.mem_singleton.mp hn']
    exact hname s hs
  onSpline {s} hs p hp := by
    rw [withSpline_size]
    rcases List.mem_append.mp hs with hs | hs
    · exact Nat.lt_add_right _ (h.onSpline hs hp)
    · rw [List.mem_singleton.mp hs] at hp
      obtain ⟨q, hq, rfl⟩ := List.mem_map.mp hp
      obtain ⟨i, hi, rfl⟩ := List.mem_mapIdx.mp hq
      exact Nat.add_lt_add_left hi _

end Spline

theorem Growth.wellFormed {b b' : RoadBuilder α} (hb : b.Growth b') (h : b.WellFormed) :
    b'.WellFormed := by
  cases hb with
  | spline hname _ => exact h.withSpline hname

theorem Link.wellFormed {b b' : RoadBuilder α} (hb : b.Link b') (h : b.WellFormed) :
    b'.WellFormed := by
  cases hb with
  | junction hprobability hstart hfinish hbranch hmerge =>
    exact h.withJunction hprobability hstart hfinish hbranch hmerge
  | connection hfirst hsecond hnext hprevious =>
    exact h.connected hfirst hsecond hnext hprevious
  | lanes hleft hright => exact h.beside hleft hright

theorem Link.size {b b' : RoadBuilder α} (hb : b.Link b') : b'.points.size = b.points.size := by
  cases hb <;> exact modifyPoint_size.trans modifyPoint_size

end RoadBuilder

end RoadTraffic
