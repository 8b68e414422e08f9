import RoadTraffic.Proofs.Roads.Changes
import Mathlib.Logic.Relation

/-!
# Whatever is accepted can be built

Operations are made on the empty graph one after the other, those that fail included (`after`). The
graph that they leave is well-formed however they are mixed, so its map can be built as soon as a
spline was added, and the map is the graph with every point measured (`Surveyed`). An operation that
fails leaves no trace, but that a document keeps what its entries did before one of them failed
(`Operation.Undone`).
-/

namespace RoadTraffic

/-- One entry of a document. -/
inductive DocumentEntry (α : Type) where
  | connection (pair : PairEntry)
  | lanes (pair : PairEntry)
  | junction (entry : JunctionEntry α)

/-- The entries of a document in the order in which they are added. -/
def RoadDocument.entries {α : Type} (document : RoadDocument α) : List (DocumentEntry α) :=
  document.connections.map .connection ++
    (document.lanes.map .lanes ++ document.junctions.map .junction)

namespace RoadBuilder

variable {α : Type} [Scalar α]

/-- Adds one entry of a document. -/
def addEntry : DocumentEntry α → Building α Unit
  | .connection pair => do
    let (first, second) ← resolvePair pair
    connect first second
  | .lanes pair => do
    let (left, right) ← resolvePair pair
    linkLanes left right
  | .junction entry => addJunctionEntry entry

/-- An operation on a graph under construction. -/
inductive Operation (α : Type) where
  | spline (name : String) (sites : List (Site α)) (closed : Bool)
  | junction (junction : Junction α)
  | connection (first second : PointId)
  | lanes (left right : PointId)
  | document (document : RoadDocument α)

/-- What an operation does, without its answer. -/
def Operation.run : Operation α → Building α Unit
  | .spline name sites closed => discard <| addSpline name sites closed
  | .junction j => discard <| addJunction j
  | .connection first second => connect first second
  | .lanes left right => linkLanes left right
  | .document d => addDocument d

/-- The graph after some operations, whether they failed or not. -/
def after (b : RoadBuilder α) (ops : List (Operation α)) : RoadBuilder α :=
  ops.foldl (fun b op => (op.run b).2) b

/-- The operation adds a spline. -/
def Operation.AddsSpline (b : RoadBuilder α) : Operation α → Prop
  | .spline name sites closed => ∃ first b', addSpline name sites closed b = (.ok first, b')
  | _ => False

/-- One of the operations adds a spline. -/
def AddsSpline (b : RoadBuilder α) (ops : List (Operation α)) : Prop :=
  ∃ before op rest, ops = before ++ op :: rest ∧ op.AddsSpline (b.after before)

/-- What an operation that failed with `e` has done: nothing, but that the entries of a document
were added up to the one that failed. -/
def Operation.Undone (b : RoadBuilder α) (e : MapError α) (b' : RoadBuilder α) :
    Operation α → Prop
  | .document d => ∃ before entry rest, d.entries = before ++ entry :: rest ∧
      before.forM addEntry b = (.ok (), b') ∧ addEntry entry b' = (.error e, b')
  | _ => b' = b

/-- The map is the graph, with every point measured. -/
structure Surveyed (b : RoadBuilder α) (m : RoadMap α) : Prop where
  size : m.size = b.points.size
  junctions : m.junctions = b.junctions
  splines : m.splines = b.splines
  point : ∀ {p : PointId}, p.index < m.size → m.point p =
    { b.point p with
      length := (m.point p).length
      radius := (m.point p).radius
      corneringSpeed := (m.point p).corneringSpeed }
  length : ∀ {p : PointId}, p.index < m.size → (m.point p).length =
    match (m.point p).next with
    | some next => m.distance next p
    | none => 0
  radius : ∀ {p : PointId}, p.index < m.size → (m.point p).radius =
    match (m.point p).previous, (m.point p).next with
    | some previous, some next =>
      circumradius (m.point previous).position (m.point p).position (m.point next).position
    | _, _ => Scalar.infinity

/-! ## Documents -/

variable {b b' : RoadBuilder α}

theorem addDocument_eq (document : RoadDocument α) :
    addDocument document = document.entries.forM addEntry := by
  have happend : ∀ l l' : List (DocumentEntry α),
      (l ++ l').forM addEntry = l.forM addEntry >>= fun _ => l'.forM addEntry :=
    fun _ _ => List.forM_append
  have hmap : ∀ {γ : Type} (f : γ → DocumentEntry α) (l : List γ),
      (l.map f).forM addEntry = l.forM fun c => addEntry (f c) :=
    fun _ _ => List.forM_map
  unfold RoadDocument.entries
  rw [happend, happend, hmap, hmap, hmap]
  rfl

theorem addEntry_makes (entry : DocumentEntry α) (b : RoadBuilder α) :
    Makes Link (addEntry entry) b := by
  cases entry with
  | connection pair => exact (resolvePair_makes pair b).bind fun _ => connect_makes _ _ b
  | lanes pair => exact (resolvePair_makes pair b).bind fun _ => linkLanes_makes _ _ b
  | junction entry =>
    exact (resolvePair_makes _ b).bind fun _ => makes_discard (addJunction_makes _ b)

theorem forM_addEntry_cons (entry : DocumentEntry α) (rest : List (DocumentEntry α)) :
    (entry :: rest).forM addEntry = addEntry entry >>= fun _ => rest.forM addEntry := rfl

/-- Entries one after the other make one change each. -/
theorem forM_addEntry_links (entries : List (DocumentEntry α)) (b : RoadBuilder α) :
    Relation.ReflTransGen Link b (entries.forM addEntry b).2 := by
  induction entries generalizing b with
  | nil => exact .refl
  | cons entry rest ih =>
    rw [forM_addEntry_cons, bind_run]
    cases addEntry_makes entry b with
    | failed e h => rw [h]
    | done c b' h hb =>
      rw [h]
      exact .head hb (ih b')

/-- Entries fail at one of them: those before it have been added, and it leaves no trace. -/
theorem forM_addEntry_failed {entries : List (DocumentEntry α)} {e : MapError α}
    (h : entries.forM addEntry b = (.error e, b')) :
    ∃ before entry rest, entries = before ++ entry :: rest ∧
      before.forM addEntry b = (.ok (), b') ∧ addEntry entry b' = (.error e, b') := by
  induction entries generalizing b with
  | nil => cases h
  | cons entry rest ih =>
    rw [forM_addEntry_cons, bind_run] at h
    cases addEntry_makes entry b with
    | failed e' hentry =>
      rw [hentry] at h
      cases h
      exact ⟨[], entry, rest, rfl, rfl, hentry⟩
    | done c b'' hentry _ =>
      rw [hentry] at h
      obtain ⟨before, last, after, rfl, hbefore, hlast⟩ := ih h
      refine ⟨entry :: before, last, after, rfl, ?_, hlast⟩
      rw [forM_addEntry_cons, bind_run, hentry]
      exact hbefore

/-! ## Sequences of operations -/

theorem wellFormed_empty : (empty : RoadBuilder α).WellFormed where
  id hp := absurd hp (Nat.not_lt_zero _)
  link := nofun
  chain := iff_of_false nofun nofun
  junction hj := absurd hj (Nat.not_lt_zero _)
  start hj := absurd hj (Nat.not_lt_zero _)
  finish hj := absurd hj (Nat.not_lt_zero _)
  probability hj := absurd hj (Nat.not_lt_zero _)
  branch := iff_of_false nofun fun h => absurd h.1 (Nat.not_lt_zero _)
  merge := iff_of_false nofun fun h => absurd h.1 (Nat.not_lt_zero _)
  names := List.nodup_nil
  onSpline := nofun

variable {R : RoadBuilder α → RoadBuilder α → Prop} {β : Type} {x : Building α β}

omit [Scalar α] in
theorem Makes.undone (hx : Makes R x b) {e : MapError α} (h : x b = (.error e, b')) : b' = b := by
  cases hx with
  | failed e' h' =>
    rw [h'] at h
    exact (Prod.mk.inj h).2.symm
  | done c b'' h' _ =>
    rw [h'] at h
    cases h

omit [Scalar α] in
theorem Makes.preserves (hx : Makes R x b) {P : RoadBuilder α → Prop} (hb : P b)
    (hR : ∀ {b'}, R b b' → P b') : P (x b).2 := by
  cases hx with
  | failed e h => rw [h]; exact hb
  | done c b' h hb' => rw [h]; exact hR hb'

omit [Scalar α] in
theorem discard_run (x : Building α β) (b : RoadBuilder α) :
    ((discard x : Building α Unit) b).2 = (x b).2 := by
  have hrun : (discard x : Building α Unit) b = _ := bind_run x (fun _ => pure ()) b
  rw [hrun]
  rcases x b with ⟨_ | _, b'⟩ <;> rfl

theorem Operation.undone {op : Operation α} {e : MapError α} (h : op.run b = (.error e, b')) :
    op.Undone b e b' := by
  cases op with
  | spline name sites closed => exact (makes_discard (addSpline_makes name sites closed b)).undone h
  | junction j => exact (makes_discard (addJunction_makes j b)).undone h
  | connection first second => exact (connect_makes first second b).undone h
  | lanes left right => exact (linkLanes_makes left right b).undone h
  | document d =>
    rw [Operation.run, addDocument_eq] at h
    exact forM_addEntry_failed h

theorem document_preserves {P : RoadBuilder α → Prop} (hP : ∀ {b b'}, Link b b' → P b → P b')
    (hb : P b) (d : RoadDocument α) : P (addDocument d b).2 := by
  rw [addDocument_eq]
  have hlinks := forM_addEntry_links d.entries b
  generalize (d.entries.forM addEntry b).2 = b' at hlinks
  induction hlinks with
  | refl => exact hb
  | tail _ hlink ih => exact hP hlink ih

/-- What every change keeps, every operation keeps. -/
theorem Operation.run_preserves {P : RoadBuilder α → Prop}
    (hgrowth : ∀ {b b'}, Growth b b' → P b → P b') (hlink : ∀ {b b'}, Link b b' → P b → P b')
    (op : Operation α) (hb : P b) : P (op.run b).2 := by
  cases op with
  | spline name sites closed =>
    exact (makes_discard (addSpline_makes name sites closed b)).preserves hb (hgrowth · hb)
  | junction j => exact (makes_discard (addJunction_makes j b)).preserves hb (hlink · hb)
  | connection first second => exact (connect_makes first second b).preserves hb (hlink · hb)
  | lanes left right => exact (linkLanes_makes left right b).preserves hb (hlink · hb)
  | document d => exact document_preserves hlink hb d

theorem after_preserves {P : RoadBuilder α → Prop} (hgrowth : ∀ {b b'}, Growth b b' → P b → P b')
    (hlink : ∀ {b b'}, Link b b' → P b → P b') (hb : P b) (ops : List (Operation α)) :
    P (b.after ops) := by
  induction ops generalizing b with
  | nil => exact hb
  | cons op ops ih => exact ih (op.run_preserves hgrowth hlink hb)

theorem after_wellFormed (h : b.WellFormed) (ops : List (Operation α)) :
    (b.after ops).WellFormed :=
  after_preserves (P := WellFormed) Growth.wellFormed Link.wellFormed h ops

/-- There are points where there were some before, or where a spline was added. -/
theorem Operation.run_size (op : Operation α) (b : RoadBuilder α) :
    (op.run b).2.points.size ≠ 0 ↔ b.points.size ≠ 0 ∨ op.AddsSpline b := by
  have hsame : (op.run b).2.points.size = b.points.size → ¬ op.AddsSpline b →
      ((op.run b).2.points.size ≠ 0 ↔ b.points.size ≠ 0 ∨ op.AddsSpline b) := by
    intro hsize hno
    rw [hsize, or_iff_left hno]
  have hlink : ∀ {x : Building α Unit}, Makes Link x b → (x b).2.points.size = b.points.size :=
    fun hx => hx.preserves (P := fun b' => b'.points.size = b.points.size) rfl Link.size
  cases op with
  | spline name sites closed =>
    rw [show (Operation.run (.spline name sites closed) b).2 = _ from discard_run _ b]
    cases addSpline_makes name sites closed b with
    | failed e h =>
      rw [h, or_iff_left]
      rintro ⟨first, b', h'⟩
      rw [h] at h'
      cases h'
    | done first b' h hb =>
      rw [h]
      refine iff_of_true ?_ (.inr ⟨first, b', h⟩)
      cases hb with
      | spline hname hlength =>
        rw [withSpline_size]
        omega
  | junction j => exact hsame (hlink (makes_discard (addJunction_makes j b))) id
  | connection first second => exact hsame (hlink (connect_makes first second b)) id
  | lanes left right => exact hsame (hlink (linkLanes_makes left right b)) id
  | document d =>
    exact hsame (document_preserves (P := fun b' => b'.points.size = b.points.size)
      (fun hlink h => hlink.size.trans h) rfl d) id

theorem addsSpline_cons (op : Operation α) (ops : List (Operation α)) :
    AddsSpline b (op :: ops) ↔ op.AddsSpline b ∨ AddsSpline (op.run b).2 ops := by
  constructor
  · rintro ⟨before, op', rest, heq, hop⟩
    cases before with
    | nil =>
      obtain ⟨rfl, -⟩ := List.cons.inj heq
      exact .inl hop
    | cons first before =>
      obtain ⟨rfl, rfl⟩ := List.cons.inj heq
      exact .inr ⟨before, op', rest, rfl, hop⟩
  · rintro (hop | ⟨before, op', rest, rfl, hop⟩)
    · exact ⟨[], op, ops, rfl, hop⟩
    · exact ⟨op :: before, op', rest, rfl, hop⟩

theorem after_size (b : RoadBuilder α) (ops : List (Operation α)) :
    (b.after ops).points.size ≠ 0 ↔ b.points.size ≠ 0 ∨ AddsSpline b ops := by
  induction ops generalizing b with
  | nil =>
    refine (or_iff_left ?_).symm
    rintro ⟨before, op, rest, heq, -⟩
    cases before <;> cases heq
  | cons op ops ih =>
    rw [addsSpline_cons, ← or_assoc, ← op.run_size b]
    exact ih _

/-! ## The map of a graph -/

open Validation (pointAt)

theorem pointAt_measured {p : PointId} (hp : p.index < b.points.size) :
    pointAt (b.points.map b.measured) p = b.measured (pointAt b.points p) := by
  unfold pointAt
  rw [Array.getD_eq_getD_getElem?, Array.getElem?_map, Array.getD_eq_getD_getElem?,
    Array.getElem?_eq_getElem hp]
  rfl

/-- Measuring a point leaves its links alone. -/
theorem side_measured {β : Type} (side : RoadPoint α → β)
    (hside : ∀ p, side (b.measured p) = side p) (p : PointId) :
    side (pointAt (b.points.map b.measured) p) = side (pointAt b.points p) := by
  by_cases hp : p.index < b.points.size
  · rw [pointAt_measured hp, hside]
  · rw [Validation.pointAt_outside (Nat.not_lt.mp hp), Validation.pointAt_outside]
    rw [Array.size_map]
    exact Nat.not_lt.mp hp

theorem WellFormed.measured (h : b.WellFormed) :
    Validation.WellFormed (b.points.map b.measured) b.junctions b.splines := by
  refine h.relink Array.size_map (side_measured (·.id) fun _ => rfl)
    (side_measured (·.branch) fun _ => rfl) (side_measured (·.merge) fun _ => rfl)
    (fun {p q} hq => ?_) fun {p q} => ?_
  · rw [side_measured (·.links) (fun _ => rfl) p] at hq
    exact h.link hq
  · rw [side_measured (·.next) (fun _ => rfl) p, side_measured (·.previous) (fun _ => rfl) q]
    exact h.chain

/-- Links lead to where the points of the measured map are. -/
theorem position?_eq {points : Array (RoadPoint α)} (hpoints : points = b.points.map b.measured)
    {link : Option PointId} (hlink : ∀ q, link = some q → q.index < b.points.size) :
    b.position? link = link.map fun q => (pointAt points q).position := by
  cases link with
  | none => rfl
  | some q =>
    show (b.points[q.index]?).map (·.position) = some (pointAt points q).position
    rw [Validation.getElem?_eq_pointAt (hlink q rfl), hpoints,
      side_measured (·.position) (fun _ => rfl) q]
    rfl

theorem build_empty (h : b.points.size = 0) : b.build = .error .empty := by
  unfold build RoadMap.ofParts Validation.check
  have hempty : (b.points.map b.measured).isEmpty := by simpa [Array.isEmpty] using h
  rw [if_pos hempty]
  rfl

theorem WellFormed.surveyed (h : b.WellFormed) {m : RoadMap α}
    (hpoints : m.points = b.points.map b.measured) (hjunctions : m.junctions = b.junctions)
    (hsplines : m.splines = b.splines) : b.Surveyed m := by
  have hsize : m.size = b.points.size := by
    unfold RoadMap.size
    rw [hpoints, Array.size_map]
  have hpoint : ∀ {p : PointId}, p.index < m.size → m.point p = b.measured (b.point p) := by
    intro p hp
    unfold RoadMap.point
    rw [hpoints]
    exact pointAt_measured (hsize ▸ hp)
  have hnext : ∀ p, b.position? (b.point p).next =
      (b.point p).next.map fun q => (m.point q).position :=
    fun _ => position?_eq hpoints fun _ hq => h.link (RoadPoint.mem_links.mpr (.inl hq))
  have hprevious : ∀ p, b.position? (b.point p).previous =
      (b.point p).previous.map fun q => (m.point q).position :=
    fun _ => position?_eq hpoints fun _ hq => h.link (RoadPoint.mem_links.mpr (.inr (.inl hq)))
  refine ⟨hsize, hjunctions, hsplines, fun {p} hp => ?_, fun {p} hp => ?_, fun {p} hp => ?_⟩
  · rw [hpoint hp]
    rfl
  · unfold RoadMap.distance
    rw [hpoint hp]
    unfold RoadBuilder.measured
    dsimp only
    rw [hnext]
    cases (b.point p).next <;> rfl
  · rw [hpoint hp]
    unfold RoadBuilder.measured
    dsimp only
    rw [hnext, hprevious]
    cases (b.point p).previous <;> cases (b.point p).next <;> rfl

/-- A well-formed graph with a point is a map once it is measured. -/
theorem WellFormed.build (h : b.WellFormed) (hpoint : b.points.size ≠ 0) :
    ∃ m, b.build = .ok m ∧ b.Surveyed m := by
  have hcheck := Validation.check_of_wellFormed h.measured (by rwa [Array.size_map])
  unfold RoadBuilder.build RoadMap.ofParts
  rw [hcheck]
  exact ⟨_, rfl, h.surveyed rfl rfl rfl⟩

/-- Whatever operations are made on the empty graph, one that fails leaves no trace but the entries
of a document before the failing one, and the graph can be built exactly if a spline was added. The
map is the graph with every point measured. -/
theorem built_after (ops : List (Operation α)) :
    (∀ (op : Operation α) (e : MapError α) (b' : RoadBuilder α),
      op.run (empty.after ops) = (.error e, b') → op.Undone (empty.after ops) e b') ∧
    (¬ AddsSpline empty ops → (empty.after ops).build = .error (.empty : MapError α)) ∧
    (AddsSpline empty ops →
      ∃ m, (empty.after ops).build = .ok m ∧ (empty.after ops).Surveyed m) := by
  have hsize := after_size empty ops
  rw [or_iff_right (fun h => h rfl)] at hsize
  refine ⟨fun op e b' => Operation.undone, fun hno => ?_, fun hadds => ?_⟩
  · exact build_empty (not_not.mp fun hne => hno (hsize.mp hne))
  · exact (after_wellFormed wellFormed_empty ops).build (hsize.mpr hadds)

end RoadBuilder

end RoadTraffic
