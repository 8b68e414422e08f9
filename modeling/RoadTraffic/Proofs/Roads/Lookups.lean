import RoadTraffic.Proofs.Roads.Linked

/-!
# The look-ups of the checks

The checks of a graph look points and junctions up by indices that they find in the graph itself,
which may be anything. Each check relies on the ones before it for the indices to be inside. To a
definition that takes a look-up outside for an empty place this makes no difference, so that it
cannot be seen there.

Here the checks are made once more in such a way that a look-up outside is a fault (`Strict`). They
meet no fault, whatever the graph, and come to the same verdict (`Strict.ofParts_agrees`).
-/

namespace RoadTraffic

/-- What there is at an index that has to be inside. -/
def demandEntry {β : Type} (entries : Array β) (index : Nat) : Except Fault β :=
  match entries[index]? with
  | some b => .ok b
  | none => .error (.missingPoint index)

/-- A check that may meet a fault before it comes to a verdict. -/
abbrev Scrutiny (α β : Type) := ExceptT (MapError α) (Except Fault) β

namespace Scrutiny

variable {α β γ : Type}

/-- Looks up what there is at an index. -/
def entry (entries : Array β) (index : Nat) : Scrutiny α β :=
  ExceptT.lift (demandEntry entries index)

/-- The check meets no fault, and its verdict is the given one. -/
def Agrees (x : Scrutiny α β) (verdict : Except (MapError α) β) : Prop := x.run = .ok verdict

theorem agrees_pure (b : β) : Agrees (pure b : Scrutiny α β) (.ok b) := rfl

theorem agrees_throw (e : MapError α) : Agrees (throw e : Scrutiny α β) (.error e) := rfl

theorem agrees_lift (verdict : Except (MapError α) β) :
    Agrees (liftM verdict : Scrutiny α β) verdict := by
  cases verdict <;> rfl

/-- The second check matters only where the first one has passed. -/
theorem Agrees.bind {x : Scrutiny α β} {verdict : Except (MapError α) β}
    {f : β → Scrutiny α γ} {g : β → Except (MapError α) γ} (hx : Agrees x verdict)
    (hf : ∀ b, verdict = .ok b → Agrees (f b) (g b)) : Agrees (x >>= f) (verdict >>= g) := by
  unfold Agrees at hx ⊢
  rw [ExceptT.run_bind, hx]
  cases verdict with
  | error e => rfl
  | ok b => exact hf b rfl

/-- A look-up inside finds what is there. -/
theorem agrees_entry {entries : Array β} {index : Nat} {b : β} (hb : entries[index]? = some b)
    {f : β → Scrutiny α γ} {verdict : Except (MapError α) γ} (hf : Agrees (f b) verdict) :
    Agrees (entry entries index >>= f) verdict := by
  unfold entry demandEntry
  rw [hb]
  exact hf

theorem agrees_ite {c : Prop} [Decidable c] {x y : Scrutiny α β}
    {verdict verdict' : Except (MapError α) β} (hx : c → Agrees x verdict)
    (hy : ¬ c → Agrees y verdict') :
    Agrees (if c then x else y) (if c then verdict else verdict') := by
  split
  · next hc => exact hx hc
  · next hc => exact hy hc

theorem agrees_forM {l : List β} {x : β → Scrutiny α Unit} {check : β → Except (MapError α) Unit}
    (h : ∀ b ∈ l, Agrees (x b) (check b)) : Agrees (l.forM x) (l.forM check) := by
  induction l with
  | nil => exact agrees_pure ()
  | cons b l ih =>
    refine (h b (List.mem_cons_self ..)).bind fun _ _ => ?_
    exact ih fun c hc => h c (List.mem_cons_of_mem _ hc)

end Scrutiny

namespace Validation

/-! ## The checks once more -/

namespace Strict

variable {α : Type}

/-- The links of a point stay within the map, and its neighbours along the lane lead back to it. -/
def checkPoint (points : Array (RoadPoint α)) (p : RoadPoint α) : Scrutiny α Unit := do
  if let some target := p.links.find? (points.size ≤ ·.index) then
    throw (.danglingLink p.id target)
  if let some next := p.next then
    let neighbour ← Scrutiny.entry points next.index
    unless neighbour.previous = some p.id do throw (.brokenChain p.id)
  if let some previous := p.previous then
    let neighbour ← Scrutiny.entry points previous.index
    unless neighbour.next = some p.id do throw (.brokenChain previous)

/-- Refuses a junction that is misplaced, leads out of the map, is not a matter of chance or shares
an end with an earlier one. -/
def gatherEnds [Scalar α] (ends : JunctionEnds) (index : Nat) :
    List (Junction α) → Scrutiny α JunctionEnds
  | [] => return ends
  | j :: rest => do
    if j.id.index ≠ index ∨ ends.starts.size ≤ j.start.index ∨
        ends.starts.size ≤ j.finish.index then
      throw (.badJunction j.id)
    else if ¬ isProbability j.probability then throw (.badProbability j.id j.probability)
    else
      let leaving ← Scrutiny.entry ends.starts j.start.index
      if leaving.isSome then throw (.junctionConflict j.start)
      else
        let arriving ← Scrutiny.entry ends.finishes j.finish.index
        if arriving.isSome then throw (.junctionConflict j.finish)
        else
          gatherEnds
            { starts := ends.starts.set! j.start.index (some j.id)
              finishes := ends.finishes.set! j.finish.index (some j.id) }
            (index + 1) rest

/-- A point names exactly the junctions that start and end at it. -/
def checkEnds (ends : JunctionEnds) (p : RoadPoint α) : Scrutiny α Unit := do
  let leaving ← Scrutiny.entry ends.starts p.id.index
  let arriving ← Scrutiny.entry ends.finishes p.id.index
  if p.branch = leaving ∧ p.merge = arriving then return ()
  else throw (.junctionConflict p.id)

/-- The junctions and the points agree. -/
def checkJunctions [Scalar α] (points : Array (RoadPoint α)) (junctions : Array (Junction α)) :
    Scrutiny α Unit := do
  let nowhere := Array.replicate points.size (none : Option JunctionId)
  let ends ← gatherEnds ⟨nowhere, nowhere⟩ 0 junctions.toList
  points.toList.forM (checkEnds ends)

/-- Refuses a name met before and a point outside the map, which is told with the first point of
its spline. -/
def checkSplines (points : Array (RoadPoint α)) (names : List String) :
    List Spline → Scrutiny α Unit
  | [] => return ()
  | s :: rest => do
    if s.name ∈ names then throw (.duplicateSpline s.name)
    else
      match s.points.find? (points.size ≤ ·.index) with
      | some target =>
        let first ← Scrutiny.entry s.points.toArray 0
        throw (.danglingLink first target)
      | none => checkSplines points (s.name :: names) rest

/-- All checks. The first one looks nothing up but what it asks for. -/
def check [Scalar α] (points : Array (RoadPoint α)) (junctions : Array (Junction α))
    (splines : List Spline) : Scrutiny α Unit := do
  if points.isEmpty then throw .empty
  liftM (checkIds points)
  points.toList.forM (checkPoint points)
  checkJunctions points junctions
  checkSplines points [] splines

/-- The search tree over a list of positions, each subtree of which has to have a median. -/
def build [Scalar α] : Nat → Axis → List (Vec3 α × PointId) → Except Fault (NearestTree α)
  | _, _, [] => return .empty
  | 0, _, _ :: _ => throw (.missingPoint 0)
  | levels + 1, axis, site :: sites => do
    let sorted := NearestTree.sortAlong axis (site :: sites)
    let middle := (site :: sites).length / 2
    let (position, id) ← demandEntry sorted.toArray middle
    let lower ← build levels axis.succ (sorted.take middle)
    let upper ← build levels axis.succ (sorted.drop (middle + 1))
    return .node position id lower upper

/-- The map of a well-formed graph. -/
def ofParts [Scalar α] (points : Array (RoadPoint α)) (junctions : Array (Junction α))
    (splines : List Spline) : Scrutiny α (RoadMap α) := do
  check points junctions splines
  let tree ← ExceptT.lift (build points.size .x (points.toList.map fun p => (p.position, p.id)))
  return { points, junctions, splines, tree }

/-! ## They meet no fault -/

open Scrutiny

theorem checkPoint_agrees (points : Array (RoadPoint α)) (p : RoadPoint α) :
    Agrees (checkPoint points p) (Validation.checkPoint points p) := by
  unfold checkPoint Validation.checkPoint
  cases hfind : p.links.find? (points.size ≤ ·.index) with
  | some target => exact agrees_throw _
  | none =>
    -- no link leads outside, so each of them finds a point
    have hinside : ∀ q ∈ p.links, ∃ neighbour, points[q.index]? = some neighbour := by
      intro q hq
      have hlt := List.find?_eq_none.mp hfind q hq
      rw [decide_eq_true_eq, Nat.not_le] at hlt
      exact ⟨_, Array.getElem?_eq_getElem hlt⟩
    extract_lets back ahead back' ahead'
    have hback : Agrees (back ()) (back' ()) := by
      unfold back back'
      cases hp : p.previous with
      | none => exact agrees_pure ()
      | some previous =>
        obtain ⟨neighbour, hneighbour⟩ := hinside previous (by simp [RoadPoint.links, hp])
        refine agrees_entry hneighbour ?_
        dsimp only
        rw [hneighbour]
        exact agrees_ite (fun _ => agrees_pure ()) fun _ => agrees_throw _
    show Agrees (ahead ()) (ahead' ())
    unfold ahead ahead'
    cases hn : p.next with
    | none => exact hback
    | some next =>
      obtain ⟨neighbour, hneighbour⟩ := hinside next (by simp [RoadPoint.links, hn])
      refine agrees_entry hneighbour ?_
      dsimp only
      rw [hneighbour]
      exact agrees_ite (fun _ => hback) fun _ => rfl

/-- As long as both tables have room for all points, no junction is looked up outside. -/
theorem gatherEnds_agrees [Scalar α] {ends : JunctionEnds} {index : Nat}
    (hsizes : ends.finishes.size = ends.starts.size) (js : List (Junction α)) :
    Agrees (gatherEnds ends index js) (Validation.gatherEnds ends index js) := by
  induction js generalizing ends index with
  | nil => exact agrees_pure ends
  | cons j rest ih =>
    unfold gatherEnds Validation.gatherEnds
    refine agrees_ite (fun _ => agrees_throw _) fun hplace => ?_
    refine agrees_ite (fun _ => agrees_throw _) fun _ => ?_
    rw [not_or, not_or, Nat.not_le, Nat.not_le] at hplace
    obtain ⟨-, hstart, hfinish⟩ := hplace
    have hleaving : ends.starts[j.start.index]? = some (ends.starts.getD j.start.index none) := by
      rw [Array.getD_eq_getD_getElem?, Array.getElem?_eq_getElem hstart, Option.getD_some]
    have harriving :
        ends.finishes[j.finish.index]? = some (ends.finishes.getD j.finish.index none) := by
      rw [Array.getD_eq_getD_getElem?, Array.getElem?_eq_getElem (hsizes ▸ hfinish),
        Option.getD_some]
    refine agrees_entry hleaving (agrees_ite (fun _ => agrees_throw _) fun _ => ?_)
    refine agrees_entry harriving (agrees_ite (fun _ => agrees_throw _) fun _ => ih ?_)
    simp only [Array.set!_eq_setIfInBounds, Array.size_setIfInBounds, hsizes]

theorem checkEnds_agrees {ends : JunctionEnds} {p : RoadPoint α}
    (hstart : p.id.index < ends.starts.size) (hfinish : p.id.index < ends.finishes.size) :
    Agrees (checkEnds ends p) (Validation.checkEnds ends p) := by
  unfold checkEnds Validation.checkEnds
  rw [Array.getD_eq_getD_getElem?, Array.getD_eq_getD_getElem?, Array.getElem?_eq_getElem hstart,
    Array.getElem?_eq_getElem hfinish]
  refine agrees_entry (Array.getElem?_eq_getElem hstart) ?_
  refine agrees_entry (Array.getElem?_eq_getElem hfinish) ?_
  exact agrees_ite (fun _ => agrees_pure ()) fun _ => agrees_throw _

/-- Where the points have their places as indices, the tables of ends have an entry for each. -/
theorem checkJunctions_agrees [Scalar α] {points : Array (RoadPoint α)}
    {junctions : Array (Junction α)}
    (hplaces : ∀ p ∈ points.toList, p.id.index < points.size) :
    Agrees (checkJunctions points junctions) (Validation.checkJunctions points junctions) := by
  unfold checkJunctions Validation.checkJunctions
  dsimp only
  refine (gatherEnds_agrees (Array.size_replicate.trans Array.size_replicate.symm) _).bind
    fun ends hends => agrees_forM fun p hp => ?_
  have hnowhere : Gathered points.size junctions.toList 0
      ⟨Array.replicate points.size none, Array.replicate points.size none⟩ :=
    ⟨Array.size_replicate, Array.size_replicate, names_nowhere _ _ _, names_nowhere _ _ _⟩
  obtain ⟨n, -, hgathered⟩ := gatherEnds_ok hnowhere hends
  refine checkEnds_agrees ?_ ?_
  · rw [hgathered.starts_size]
    exact hplaces p hp
  · rw [hgathered.finishes_size]
    exact hplaces p hp

theorem checkSplines_agrees (points : Array (RoadPoint α)) (names : List String)
    (splines : List Spline) :
    Agrees (checkSplines points names splines) (Validation.checkSplines points names splines) := by
  induction splines generalizing names with
  | nil => exact agrees_pure ()
  | cons s rest ih =>
    unfold checkSplines Validation.checkSplines
    refine agrees_ite (fun _ => agrees_throw _) fun _ => ?_
    cases hfind : s.points.find? (points.size ≤ ·.index) with
    | none => exact ih _
    | some target =>
      -- a spline with a point outside has a first point
      cases hpoints : s.points with
      | nil =>
        rw [hpoints] at hfind
        cases hfind
      | cons first others => exact agrees_throw _

theorem check_agrees [Scalar α] (points : Array (RoadPoint α)) (junctions : Array (Junction α))
    (splines : List Spline) :
    Agrees (check points junctions splines) (Validation.check points junctions splines) := by
  unfold check Validation.check
  extract_lets rest rest'
  refine agrees_ite (fun _ => agrees_throw _) fun _ => ?_
  unfold rest rest'
  refine (agrees_lift _).bind fun _ hids => ?_
  refine (agrees_forM fun p _ => checkPoint_agrees points p).bind fun _ _ => ?_
  refine (checkJunctions_agrees fun p hp => ?_).bind fun _ _ =>
    checkSplines_agrees points [] splines
  obtain ⟨⟨⟩, -, hplaces⟩ := of_step hids
  obtain ⟨i, hi⟩ := List.mem_iff_getElem?.mp hp
  rw [checkPlaces_ok hplaces i p hi, Nat.zero_add, ← Array.length_toList]
  exact (List.getElem?_eq_some_iff.mp hi).1

/-- Every list of positions that is not empty has a median, and a tree of as many levels as there
are positions has room for all of them. -/
theorem build_eq [Scalar α] {levels : Nat} {axis : Axis} {sites : List (Vec3 α × PointId)}
    (hlevels : sites.length ≤ levels) :
    build levels axis sites = .ok (NearestTree.build levels axis sites) := by
  induction levels generalizing axis sites with
  | zero =>
    rw [List.eq_nil_of_length_eq_zero (Nat.le_zero.mp hlevels)]
    rfl
  | succ levels ih =>
    unfold build NearestTree.build
    have hlength : (NearestTree.sortAlong axis sites).length = sites.length :=
      List.length_mergeSort _
    cases sites with
    | nil =>
      dsimp only
      rw [List.eq_nil_of_length_eq_zero hlength, List.drop_nil]
      rfl
    | cons site sites =>
      dsimp only
      generalize NearestTree.sortAlong axis (site :: sites) = sorted at hlength ⊢
      generalize hmiddle : (site :: sites).length / 2 = middle
      rw [List.length_cons] at hlength hlevels hmiddle
      have hinside : middle < sorted.length := by omega
      have hmedian : demandEntry sorted.toArray middle = .ok sorted[middle] := by
        unfold demandEntry
        rw [List.getElem?_toArray, List.getElem?_eq_getElem hinside]
      have hlower : (sorted.take middle).length ≤ levels := by
        rw [List.length_take]
        omega
      have hupper : (sorted.drop (middle + 1)).length ≤ levels := by
        rw [List.length_drop]
        omega
      rw [hmedian, ih hlower, ih hupper, List.drop_eq_getElem_cons hinside]
      rfl

/-- Whatever is to be made a map, no look-up fails. -/
theorem ofParts_agrees [Scalar α] (points : Array (RoadPoint α)) (junctions : Array (Junction α))
    (splines : List Spline) :
    Agrees (ofParts points junctions splines) (RoadMap.ofParts points junctions splines) := by
  unfold ofParts RoadMap.ofParts
  refine (check_agrees points junctions splines).bind fun _ _ => ?_
  have hlength : (points.toList.map fun p => (p.position, p.id)).length = points.size := by
    rw [List.length_map, Array.length_toList]
  rw [build_eq (Nat.le_of_eq hlength)]
  unfold NearestTree.ofSites
  rw [hlength]
  exact agrees_pure _

end Strict

end Validation

end RoadTraffic
