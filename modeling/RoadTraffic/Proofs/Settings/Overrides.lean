import RoadTraffic.Proofs.Scalar.Rational
import RoadTraffic.Settings.Basic

/-!
# Which override counts

The profile of a car is made by all overrides for its model, one after the other: first those for
every skin, then those for its own one. No override fixes more than some of the fields, so that each
field has a history of its own.

`profileFor_decided` says where the value of a field comes from (`Settings.Decided`): from the last
override for the skin that fixes it, else from the last one for all skins, else from the settings.
Fields are told by name (`ProfileField`), and all that is used of them is what an override makes of
one (`ProfileField.of_apply`).
-/

namespace RoadTraffic

/-- The fields of a profile. -/
inductive ProfileField where
  | acceleration | deceleration | corneringGrip | corneringMargin | corneringBrake | heightOffset
  | frontLength | rearLength | tyreDiameter | changesColor | colors | lanes | vehicleLimit
  deriving DecidableEq, Repr

namespace ProfileField

/-- What a field of a profile may be. -/
def Value (α : Type) : ProfileField → Type
  | changesColor => Bool
  | colors => Nat
  | lanes => AllowedLanes
  | vehicleLimit => Option Nat
  | acceleration | deceleration | corneringGrip | corneringMargin | corneringBrake | heightOffset
  | frontLength | rearLength | tyreDiameter => α

variable {α : Type}

/-- The field of a profile. -/
def of (p : Profile α) : (f : ProfileField) → f.Value α
  | acceleration => p.acceleration
  | deceleration => p.deceleration
  | corneringGrip => p.corneringGrip
  | corneringMargin => p.corneringMargin
  | corneringBrake => p.corneringBrake
  | heightOffset => p.heightOffset
  | frontLength => p.frontLength
  | rearLength => p.rearLength
  | tyreDiameter => p.tyreDiameter
  | changesColor => p.changesColor
  | colors => p.colors
  | lanes => p.lanes
  | vehicleLimit => p.vehicleLimit

/-- What an override fixes the field at. There is no override that takes a limit of vehicles
away. -/
def fixedBy (o : Override α) : (f : ProfileField) → Option (f.Value α)
  | acceleration => o.acceleration
  | deceleration => o.deceleration
  | corneringGrip => o.corneringGrip
  | corneringMargin => o.corneringMargin
  | corneringBrake => o.corneringBrake
  | heightOffset => o.heightOffset
  | frontLength => o.frontLength
  | rearLength => o.rearLength
  | tyreDiameter => o.tyreDiameter
  | changesColor => o.changesColor
  | colors => o.colors
  | lanes => o.lanes
  | vehicleLimit => o.vehicleLimit.map some

/-- An override changes the fields that it fixes and no others. -/
theorem of_apply (f : ProfileField) (p : Profile α) (o : Override α) :
    f.of (o.apply p) = (f.fixedBy o).getD (f.of p) := by
  cases f with
  | vehicleLimit =>
    change o.vehicleLimit.or p.vehicleLimit = (o.vehicleLimit.map some).getD p.vehicleLimit
    cases o.vehicleLimit with
    | none => rfl
    | some limit => rfl
  | _ => rfl

/-- A profile has no other fields. -/
theorem ext_of {p q : Profile α} (h : ∀ f : ProfileField, f.of p = f.of q) : p = q := by
  cases p
  cases q
  congr
  · exact h .acceleration
  · exact h .deceleration
  · exact h .corneringGrip
  · exact h .corneringMargin
  · exact h .corneringBrake
  · exact h .heightOffset
  · exact h .frontLength
  · exact h .rearLength
  · exact h .tyreDiameter
  · exact h .changesColor
  · exact h .colors
  · exact h .lanes
  · exact h .vehicleLimit

/-! ## What a list of overrides makes of a field -/

/-- None of the overrides that are meant fixes the field. -/
def FreeIn (f : ProfileField) (meant : Override α → Prop) (l : List (Override α)) : Prop :=
  ∀ o ∈ l, meant o → f.fixedBy o = none

instance (f : ProfileField) (meant : Override α → Prop) [DecidablePred meant]
    (l : List (Override α)) : Decidable (f.FreeIn meant l) := by unfold FreeIn; infer_instance

/-- Of the overrides that are meant, the last one that fixes the field fixes it at the value. -/
def LastFixed (f : ProfileField) (meant : Override α → Prop) (l : List (Override α))
    (value : f.Value α) : Prop :=
  ∃ before o after, l = before ++ o :: after ∧ meant o ∧ f.fixedBy o = some value ∧
    f.FreeIn meant after

variable {f : ProfileField} {meant : Override α → Prop} {l : List (Override α)}

theorem freeIn_or_lastFixed (f : ProfileField) (meant : Override α → Prop)
    (l : List (Override α)) : f.FreeIn meant l ∨ ∃ value, f.LastFixed meant l value := by
  induction l with
  | nil => exact Or.inl fun o ho => absurd ho List.not_mem_nil
  | cons o l ih =>
    rcases ih with hfree | ⟨value, before, last, after, rfl, hlast⟩
    · by_cases ho : meant o → f.fixedBy o = none
      · exact Or.inl (List.forall_mem_cons.mpr ⟨ho, hfree⟩)
      · obtain ⟨hmeant, hfixed⟩ := Classical.not_imp.mp ho
        obtain ⟨value, hvalue⟩ := Option.ne_none_iff_exists'.mp hfixed
        exact Or.inr ⟨value, [], o, l, rfl, hmeant, hvalue, hfree⟩
    · exact Or.inr ⟨value, o :: before, last, after, rfl, hlast⟩

theorem of_foldl_free {p : Profile α} (h : ∀ o ∈ l, f.fixedBy o = none) :
    f.of (l.foldl Override.apply p) = f.of p := by
  induction l generalizing p with
  | nil => rfl
  | cons o l ih =>
    rw [List.foldl_cons, ih fun o' ho' => h o' (List.mem_cons_of_mem o ho'), of_apply,
      h o (List.mem_cons_self ..), Option.getD_none]

variable {isMeant : Override α → Bool} (hmeant : ∀ o, isMeant o = true ↔ meant o)
include hmeant

/-- Overrides that do not fix a field leave it as it is. -/
theorem FreeIn.of_foldl (h : f.FreeIn meant l) (p : Profile α) :
    f.of ((l.filter isMeant).foldl Override.apply p) = f.of p := by
  refine of_foldl_free fun o ho => ?_
  obtain ⟨ho, hisMeant⟩ := List.mem_filter.mp ho
  exact h o ho ((hmeant o).mp hisMeant)

/-- The last override that fixes a field has the last word, whatever the field was before. -/
theorem LastFixed.of_foldl {value : f.Value α} (h : f.LastFixed meant l value) (p : Profile α) :
    f.of ((l.filter isMeant).foldl Override.apply p) = value := by
  obtain ⟨before, o, after, rfl, ho, hvalue, hafter⟩ := h
  rw [List.filter_append, List.filter_cons_of_pos ((hmeant o).mpr ho), List.foldl_append,
    List.foldl_cons, hafter.of_foldl hmeant, of_apply, hvalue, Option.getD_some]

end ProfileField

namespace Override

variable {α : Type} {model skin : String}

theorem isForModel_iff (o : Override α) :
    o.isForModel model = true ↔ o.model = model ∧ o.skin = none := by
  unfold isForModel
  rw [Bool.and_eq_true, beq_iff_eq, Option.isNone_iff_eq_none]

theorem isForSkin_iff (o : Override α) :
    o.isForSkin model skin = true ↔ o.model = model ∧ o.skin = some skin := by
  unfold isForSkin
  rw [Bool.and_eq_true, beq_iff_eq, beq_iff_eq]

/-- Lists that agree on some entries agree on those among them that are looked for. -/
theorem filter_eq_of_filter_eq {p q : Override α → Bool} (hpq : ∀ o, p o = true → q o = true)
    {l l' : List (Override α)} (h : l.filter q = l'.filter q) : l.filter p = l'.filter p := by
  have hnested : ∀ k : List (Override α), k.filter p = (k.filter q).filter p := fun k => by
    rw [List.filter_filter]
    refine List.filter_congr fun o _ => ?_
    cases hp : p o with
    | false => rfl
    | true => rw [hpq o hp, Bool.and_true]
  rw [hnested, h, ← hnested]

end Override

namespace Settings

open Override ProfileField

variable {α : Type} [Scalar α]

/-- Where the value of a field in the profile of a car comes from. -/
inductive Decided (s : Settings α) (model skin : String) (f : ProfileField) : f.Value α → Prop where
  /-- The last override for the skin that fixes the field. -/
  | bySkin {value : f.Value α}
    (hskin : f.LastFixed (fun o => o.model = model ∧ o.skin = some skin) s.overrides value) :
    Decided s model skin f value
  /-- The last override for all skins that fixes it, if none for the skin does. -/
  | byModel {value : f.Value α}
    (hskin : f.FreeIn (fun o => o.model = model ∧ o.skin = some skin) s.overrides)
    (hmodel : f.LastFixed (fun o => o.model = model ∧ o.skin = none) s.overrides value) :
    Decided s model skin f value
  /-- The settings, if no override does. -/
  | byDefault (hskin : f.FreeIn (fun o => o.model = model ∧ o.skin = some skin) s.overrides)
    (hmodel : f.FreeIn (fun o => o.model = model ∧ o.skin = none) s.overrides) :
    Decided s model skin f (f.of s.profile)

/-- The overrides for the skin come after those for all skins. -/
theorem profileFor_eq (s : Settings α) (model skin : String) :
    s.profileFor model skin = (s.overrides.filter (·.isForSkin model skin)).foldl apply
      ((s.overrides.filter (·.isForModel model)).foldl apply s.profile) :=
  List.foldl_append

variable {s : Settings α} {model skin : String} {f : ProfileField} {value : f.Value α}

theorem Decided.of_profileFor (h : s.Decided model skin f value) :
    f.of (s.profileFor model skin) = value := by
  rw [profileFor_eq]
  cases h with
  | bySkin hskin => exact hskin.of_foldl isForSkin_iff _
  | byModel hskin hmodel =>
    rw [hskin.of_foldl isForSkin_iff]
    exact hmodel.of_foldl isForModel_iff _
  | byDefault hskin hmodel =>
    rw [hskin.of_foldl isForSkin_iff]
    exact hmodel.of_foldl isForModel_iff _

theorem exists_decided (s : Settings α) (model skin : String) (f : ProfileField) :
    ∃ value, s.Decided model skin f value := by
  rcases f.freeIn_or_lastFixed (fun o => o.model = model ∧ o.skin = some skin) s.overrides with
    hskin | ⟨value, hskin⟩
  · rcases f.freeIn_or_lastFixed (fun o => o.model = model ∧ o.skin = none) s.overrides with
      hmodel | ⟨value, hmodel⟩
    · exact ⟨_, .byDefault hskin hmodel⟩
    · exact ⟨value, .byModel hskin hmodel⟩
  · exact ⟨value, .bySkin hskin⟩

/-- The value of a field comes from one place only, and it is the value in the profile. -/
theorem decided_iff (f : ProfileField) (value : f.Value α) :
    s.Decided model skin f value ↔ f.of (s.profileFor model skin) = value := by
  refine ⟨Decided.of_profileFor, ?_⟩
  rintro rfl
  obtain ⟨value, hvalue⟩ := exists_decided s model skin f
  rw [hvalue.of_profileFor]
  exact hvalue

/-- Nothing but the overrides for the model and those for the skin matters, each in their order. -/
theorem profileFor_congr {overrides : List (Override α)}
    (hmodel : overrides.filter (·.isForModel model) = s.overrides.filter (·.isForModel model))
    (hskin : overrides.filter (·.isForSkin model skin) =
      s.overrides.filter (·.isForSkin model skin)) :
    { s with overrides }.profileFor model skin = s.profileFor model skin := by
  rw [profileFor_eq, profileFor_eq]
  dsimp only
  rw [hmodel, hskin]
  rfl

/-- **Which override counts.** Each field of the profile of a car is decided by itself: by the last
override for the skin that fixes it, else by the last one for all skins of the model, else by the
settings. So overrides for other cars do not matter, nor does it matter how those with a skin and
those without one are mixed. -/
theorem profileFor_decided (s : Settings α) (model skin : String) :
    (∀ (f : ProfileField) (value : f.Value α),
      s.Decided model skin f value ↔ f.of (s.profileFor model skin) = value) ∧
    (∀ p, (∀ f : ProfileField, s.Decided model skin f (f.of p)) → p = s.profileFor model skin) ∧
    (∀ overrides : List (Override α),
      overrides.filter (fun o => o.model = model ∧ (o.skin = none ∨ o.skin = some skin)) =
        s.overrides.filter (fun o => o.model = model ∧ (o.skin = none ∨ o.skin = some skin)) →
      { s with overrides }.profileFor model skin = s.profileFor model skin) ∧
    (∀ overrides : List (Override α),
      overrides.filter (·.skin.isSome) = s.overrides.filter (·.skin.isSome) →
      overrides.filter (·.skin.isNone) = s.overrides.filter (·.skin.isNone) →
      { s with overrides }.profileFor model skin = s.profileFor model skin) := by
  refine ⟨decided_iff, fun p hp => ?_, fun overrides hsame => ?_, fun overrides hsome hnone => ?_⟩
  · exact ext_of fun f => ((hp f).of_profileFor).symm
  · refine profileFor_congr (filter_eq_of_filter_eq (fun o ho => ?_) hsame)
      (filter_eq_of_filter_eq (fun o ho => ?_) hsame)
    · obtain ⟨hm, hs⟩ := (isForModel_iff o).mp ho
      exact decide_eq_true ⟨hm, Or.inl hs⟩
    · obtain ⟨hm, hs⟩ := (isForSkin_iff o).mp ho
      exact decide_eq_true ⟨hm, Or.inr hs⟩
  · refine profileFor_congr (filter_eq_of_filter_eq (fun o ho => ?_) hnone)
      (filter_eq_of_filter_eq (fun o ho => ?_) hsome)
    · rw [((isForModel_iff o).mp ho).2]
      rfl
    · rw [((isForSkin_iff o).mp ho).2]
      rfl

/-- Settings with overrides for vans, the first of them for red ones. -/
private def vanColors : Settings Rat :=
  { Settings.standard with
    overrides := [
      { Override.ofModel "van" with skin := some "red", acceleration := some 1 },
      { Override.ofModel "van" with acceleration := some 2, deceleration := some 6 },
      { Override.ofModel "van" with deceleration := some 7, vehicleLimit := some 3 },
      { Override.ofModel "van" with skin := some "blue", vehicleLimit := some 1 }] }

/-- A red van accelerates as red ones do and brakes as the last override for all vans says. Its
tyres are the usual ones. It does not matter that there are blue vans, nor would it if red vans came
after the other ones. -/
theorem profileFor_decided_red_van :
    (vanColors.profileFor "van" "red").acceleration = 1 ∧
      (vanColors.profileFor "van" "red").deceleration = 7 ∧
      (vanColors.profileFor "van" "red").vehicleLimit = some 3 ∧
      (vanColors.profileFor "van" "red").tyreDiameter = 65 / 100 ∧
      { vanColors with overrides := vanColors.overrides.take 3 }.profileFor "van" "red" =
        vanColors.profileFor "van" "red" ∧
      { vanColors with overrides := (vanColors.overrides.take 3).rotateLeft 1 ++
        vanColors.overrides.drop 3 }.profileFor "van" "red" = vanColors.profileFor "van" "red" := by
  obtain ⟨hdecided, -, hothers, hmoved⟩ := profileFor_decided vanColors "van" "red"
  refine ⟨(hdecided .acceleration (1 : Rat)).mp (.bySkin ?_),
    (hdecided .deceleration (7 : Rat)).mp (.byModel (by decide) ?_),
    (hdecided .vehicleLimit (some 3)).mp (.byModel (by decide) ?_),
    (hdecided .tyreDiameter (65 / 100 : Rat)).mp (.byDefault (by decide) (by decide)),
    hothers _ (by decide), hmoved _ (by decide) (by decide)⟩
  · exact ⟨[], _, _, rfl, ⟨rfl, rfl⟩, rfl, by decide⟩
  · exact ⟨vanColors.overrides.take 2, _, _, rfl, ⟨rfl, rfl⟩, rfl, by decide⟩
  · exact ⟨vanColors.overrides.take 2, _, _, rfl, ⟨rfl, rfl⟩, rfl, by decide⟩

end Settings

end RoadTraffic
