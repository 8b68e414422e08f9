import Mathlib.Data.List.DropRight
import RoadTraffic.Proofs.Roads.Acceptance
import RoadTraffic.Proofs.Roads.Origin
import RoadTraffic.Proofs.Scalar.Rational

/-!
# What references name

A reference is read backwards to its last `@`, trimmed at both ends and read as a number. Here it is
told apart from all that what is read so. Parts of a text are told by what they are put together to
(`Text.Trims`, `Reference.split?_eq_some_iff`), numerals by their digits (`Text.Denotes`), and both
together say what a reference is (`Reference.Spells`). A text is read exactly if it is one
(`Reference.read_eq_ok_iff`), in one way only.

What a reference names is looked up among the splines, of which at most one has the name. The map of
a graph has the splines of the graph, so that both resolve references in the same way, and to the
point that is meant (`RoadBuilder.resolve_built`).
-/

namespace RoadTraffic

namespace Text

/-! ## Blanks at the ends -/

/-- A text neither begins nor ends with a blank. -/
def Bare (cs : List Char) : Prop :=
  (∀ c, cs.head? = some c → isBlank c = false) ∧ ∀ c, cs.getLast? = some c → isBlank c = false

/-- The second text is the first one without the blanks at its ends. -/
structure Trims (cs t : List Char) : Prop where
  parts : ∃ front back, cs = front ++ t ++ back ∧ (∀ c ∈ front, isBlank c = true) ∧
    ∀ c ∈ back, isBlank c = true
  bare : Bare t

theorem trims_trim (cs : List Char) : Trims cs (trim cs) := by
  have htrim : trim cs = (cs.dropWhile isBlank).rdropWhile isBlank := rfl
  refine ⟨⟨cs.takeWhile isBlank, (cs.dropWhile isBlank).rtakeWhile isBlank, ?_,
    fun c hc => List.mem_takeWhile_imp hc, fun c hc => List.mem_rtakeWhile_imp hc⟩, ?_, ?_⟩
  · rw [htrim, List.append_assoc, List.rdropWhile_append_rtakeWhile,
      List.takeWhile_append_dropWhile]
  · -- what is first behind the blanks in front stays first
    intro c hc
    obtain ⟨back, hback⟩ := List.rdropWhile_prefix isBlank (cs.dropWhile isBlank)
    have hfirst := List.head?_dropWhile_not isBlank cs
    rw [← hback, List.head?_append, ← htrim, hc] at hfirst
    exact hfirst
  · intro c hc
    have hne : trim cs ≠ [] := by
      rintro hnil
      rw [hnil] at hc
      cases hc
    have hlast := List.rdropWhile_last_not isBlank (cs.dropWhile isBlank) hne
    rw [List.getLast?_eq_some_getLast hne, Option.some.injEq] at hc
    exact hc ▸ Bool.eq_false_of_not_eq_true hlast

/-- Without the blanks at its ends a text is one text only, the trimmed one. -/
theorem trim_eq_iff {cs t : List Char} : trim cs = t ↔ Trims cs t := by
  constructor
  · rintro rfl
    exact trims_trim cs
  · rintro ⟨⟨front, back, rfl, hfront, hback⟩, hfirst, hlast⟩
    unfold trim
    rw [List.append_assoc, List.dropWhile_append_of_pos hfront]
    cases t with
    | nil =>
      rw [List.nil_append, List.dropWhile_eq_nil_iff.mpr hback]
      rfl
    | cons c t =>
      rw [List.cons_append, List.dropWhile_cons_of_neg (by rw [hfirst c rfl]; exact nofun),
        ← List.cons_append, List.reverse_append,
        List.dropWhile_append_of_pos fun c hc => hback c (List.mem_reverse.mp hc)]
      -- from behind, too, nothing is dropped of what is neither front nor back
      have hkept : (c :: t).rdropWhile isBlank = c :: t := by
        refine List.rdropWhile_eq_self_iff.mpr fun hne => ?_
        rw [hlast _ (List.getLast?_eq_some_getLast hne)]
        exact nofun
      exact hkept

theorem trims_self {cs : List Char} (h : Bare cs) : Trims cs cs :=
  ⟨⟨[], [], (List.append_nil _).symm, nofun, nofun⟩, h⟩

/-! ## Numerals -/

/-- A text consists of the digits of a number below `2 ^ 64`, zeros in front included. -/
structure Digits (cs : List Char) (n : Nat) : Prop where
  some : cs ≠ []
  digit : ∀ c ∈ cs, c.isDigit = true
  value : Nat.ofDigitChars 10 cs 0 = n
  bound : n < Nat.pow 2 64

/-- A text is a numeral: digits, or a plus sign and digits. -/
def Denotes (cs : List Char) (n : Nat) : Prop :=
  Digits cs n ∨ ∃ digits, cs = '+' :: digits ∧ Digits digits n

theorem Digits.ne_plus {cs rest : List Char} {n : Nat} (h : Digits cs n) : cs ≠ '+' :: rest := by
  rintro rfl
  exact absurd (h.digit '+' (List.mem_cons_self ..)) (by decide)

theorem digits_iff {cs : List Char} {n : Nat} :
    (if cs ≠ [] ∧ cs.all Char.isDigit ∧ digitsValue 0 cs < Nat.pow 2 64 then
      some (digitsValue 0 cs) else none) = some n ↔ Digits cs n := by
  have hvalue : digitsValue 0 cs = Nat.ofDigitChars 10 cs 0 := Nat.ofDigitChars_eq_foldl.symm
  rw [Option.ite_none_right_eq_some, hvalue, List.all_eq_true, Option.some.injEq]
  constructor
  · rintro ⟨⟨hsome, hdigit, hlt⟩, rfl⟩
    exact ⟨hsome, hdigit, rfl, hlt⟩
  · rintro ⟨hsome, hdigit, rfl, hlt⟩
    exact ⟨⟨hsome, hdigit, hlt⟩, rfl⟩

/-- A numeral is read as the number that its digits have for a value. -/
theorem numeral?_eq_some_iff {cs : List Char} {n : Nat} : numeral? cs = some n ↔ Denotes cs n := by
  by_cases hplus : ∃ digits, cs = '+' :: digits
  · obtain ⟨digits, rfl⟩ := hplus
    have hread : numeral? ('+' :: digits) = some n ↔ Digits digits n := digits_iff
    refine hread.trans ⟨fun h => .inr ⟨digits, rfl, h⟩, ?_⟩
    rintro (h | ⟨digits', heq, h⟩)
    · exact absurd rfl h.ne_plus
    · exact (List.cons.inj heq).2 ▸ h
  · have hplus : ∀ digits, cs ≠ '+' :: digits := not_exists.mp hplus
    have hread : numeral? cs = some n ↔ Digits cs n := by
      rw [← digits_iff]
      unfold numeral?
      simp only
    refine hread.trans (or_iff_left ?_).symm
    rintro ⟨digits, heq, -⟩
    exact hplus digits heq

theorem digits_toString {n : Nat} (h : n < Nat.pow 2 64) : Digits (toString n).toList n := by
  rw [Nat.toString_eq_ofList_toDigits, String.toList_ofList]
  exact ⟨Nat.toDigits_ne_nil, fun c hc => Nat.isDigit_of_mem_toDigits (by decide) (by decide) hc,
    Nat.ofDigitChars_ten_toDigits, h⟩

theorem isBlank_of_isDigit {c : Char} (h : c.isDigit = true) : isBlank c = false := by
  have hdigit : 48 ≤ c.toNat ∧ c.toNat ≤ 57 := by
    simpa [Char.isDigit, UInt32.le_iff_toNat_le] using h
  -- the digits lie between the blanks 32 and 133
  simp only [isBlank, Bool.or_eq_false_iff, Bool.and_eq_false_iff, decide_eq_false_iff_not,
    beq_eq_false_iff_ne, ne_eq, UInt32.le_iff_toNat_le, ← UInt32.toNat_inj, UInt32.reduceToNat,
    Char.toNat_val]
  omega

/-- Digits are no blanks. -/
theorem Digits.bare {cs : List Char} {n : Nat} (h : Digits cs n) : Bare cs :=
  ⟨fun c hc => isBlank_of_isDigit (h.digit c (List.mem_of_mem_head? hc)),
    fun c hc => isBlank_of_isDigit (h.digit c (List.mem_of_mem_getLast? hc))⟩

end Text

namespace Reference

/-! ## References -/

theorem splitReversed_eq_some_iff {behind cs before after : List Char} :
    splitReversed behind cs = some (before, after) ↔
      ∃ front, cs = front ++ '@' :: before.reverse ∧ '@' ∉ front ∧
        after = front.reverse ++ behind := by
  induction cs generalizing behind with
  | nil =>
    refine iff_of_false nofun ?_
    rintro ⟨front, h, -⟩
    cases front <;> cases h
  | cons c cs ih =>
    unfold splitReversed
    split
    · next hc =>
      subst hc
      constructor
      · intro h
        obtain ⟨rfl, rfl⟩ := Prod.mk.inj (Option.some.inj h)
        exact ⟨[], by rw [List.reverse_reverse]; rfl, List.not_mem_nil, rfl⟩
      · rintro ⟨front, h, hno, rfl⟩
        cases front with
        | nil =>
          rw [List.nil_append, List.cons.injEq] at h
          rw [h.2, List.reverse_reverse]
          rfl
        | cons d front =>
          obtain ⟨rfl, -⟩ := List.cons.inj h
          exact absurd (List.mem_cons_self ..) hno
    · next hc =>
      rw [ih]
      constructor
      · rintro ⟨front, rfl, hno, rfl⟩
        refine ⟨c :: front, rfl, List.not_mem_cons_of_ne_of_not_mem (Ne.symm hc) hno, ?_⟩
        rw [List.reverse_cons, List.append_assoc]
        rfl
      · rintro ⟨front, h, hno, rfl⟩
        cases front with
        | nil => exact absurd (List.cons.inj h).1 hc
        | cons d front =>
          obtain ⟨rfl, rfl⟩ := List.cons.inj h
          refine ⟨front, rfl, fun hmem => hno (List.mem_cons_of_mem _ hmem), ?_⟩
          rw [List.reverse_cons, List.append_assoc]
          rfl

/-- A text is split at an `@` behind which there is none. -/
theorem split?_eq_some_iff {cs before after : List Char} :
    split? cs = some (before, after) ↔ cs = before ++ '@' :: after ∧ '@' ∉ after := by
  unfold split?
  rw [splitReversed_eq_some_iff]
  constructor
  · rintro ⟨front, h, hno, rfl⟩
    rw [List.reverse_eq_iff, List.reverse_append, List.reverse_cons, List.reverse_reverse,
      List.append_assoc] at h
    rw [List.append_nil]
    exact ⟨h, fun hmem => hno (List.mem_reverse.mp hmem)⟩
  · rintro ⟨rfl, hno⟩
    refine ⟨after.reverse, ?_, fun hmem => hno (List.mem_reverse.mp hmem), ?_⟩
    · rw [List.reverse_append, List.reverse_cons, List.append_assoc]
      rfl
    · rw [List.reverse_reverse, List.append_nil]

/-- A text is a reference to the point at a place of a spline: trimmed, the part before its last `@`
is the name of the spline, and the part behind it a numeral of the place. -/
def Spells (text name : String) (index : Nat) : Prop :=
  ∃ before after numeral, text.toList = before ++ '@' :: after ∧ '@' ∉ after ∧
    Text.Trims before name.toList ∧ Text.Trims after numeral ∧ Text.Denotes numeral index

variable {α : Type}

/-- A text is read exactly if it is a reference, as what it is a reference to. -/
theorem read_eq_ok_iff {text : String} {r : Reference} :
    (read text : Except (MapError α) Reference) = .ok r ↔ Spells text r.name r.index := by
  unfold read Spells
  constructor
  · intro h
    split at h
    · cases h
    next before after hsplit =>
    split at h
    · cases h
    next index hnumeral =>
    obtain rfl := Except.ok.inj h
    obtain ⟨htext, hno⟩ := split?_eq_some_iff.mp hsplit
    exact ⟨before, after, _, htext, hno, String.toList_ofList ▸ Text.trims_trim before,
      Text.trims_trim after, Text.numeral?_eq_some_iff.mp hnumeral⟩
  · rintro ⟨before, after, numeral, htext, hno, hname, hindex, hnumeral⟩
    rw [split?_eq_some_iff.mpr ⟨htext, hno⟩]
    dsimp only
    rw [Text.trim_eq_iff.mpr hindex, Text.numeral?_eq_some_iff.mpr hnumeral,
      Text.trim_eq_iff.mpr hname, String.ofList_toList]

/-- Of splines that have names of their own, a name finds the one that has it. -/
theorem find?_eq_some_iff {splines : List Spline} (hnames : (splines.map (·.name)).Nodup)
    {name : String} {s : Spline} :
    splines.find? (·.name == name) = some s ↔ s ∈ splines ∧ s.name = name := by
  have hfound : ∀ {t : Spline}, splines.find? (·.name == name) = some t →
      t ∈ splines ∧ t.name = name :=
    fun ht => ⟨List.mem_of_find?_eq_some ht,
      beq_iff_eq.mp (List.find?_some (p := fun t : Spline => t.name == name) ht)⟩
  refine ⟨hfound, ?_⟩
  rintro ⟨hs, hname⟩
  obtain ⟨t, ht⟩ : ∃ t, splines.find? (·.name == name) = some t :=
    Option.isSome_iff_exists.mp (List.find?_isSome.mpr ⟨s, hs, beq_iff_eq.mpr hname⟩)
  obtain ⟨htmem, htname⟩ := hfound ht
  rw [ht, List.inj_on_of_nodup_map hnames htmem hs (htname.trans hname.symm)]

/-- A text is resolved exactly if it is a reference to a place of a spline where there is a point,
to this point. -/
theorem resolve_eq_ok_iff {splines : List Spline} (hnames : (splines.map (·.name)).Nodup)
    {text : String} {p : PointId} :
    (resolve splines text : Except (MapError α) PointId) = .ok p ↔
      ∃ s ∈ splines, ∃ i, Spells text s.name i ∧ s.points[i]? = some p := by
  unfold resolve
  constructor
  · intro h
    rcases hread : (read text : Except (MapError α) Reference) with e | r
    · rw [hread] at h
      cases h
    rw [hread] at h
    change find splines r = .ok p at h
    unfold find at h
    split at h
    · cases h
    next s hs =>
    split at h
    · cases h
    next q hq =>
    obtain rfl := Except.ok.inj h
    obtain ⟨hmem, hname⟩ := (find?_eq_some_iff hnames).mp hs
    exact ⟨s, hmem, r.index, hname ▸ read_eq_ok_iff.mp hread, hq⟩
  · rintro ⟨s, hs, i, hspells, hp⟩
    have hread : (read text : Except (MapError α) Reference) = .ok ⟨s.name, i⟩ :=
      read_eq_ok_iff.mpr hspells
    rw [hread]
    show find splines ⟨s.name, i⟩ = .ok p
    unfold find
    rw [(find?_eq_some_iff hnames).mpr ⟨hs, rfl⟩]
    dsimp only
    rw [hp]

/-- The name of a spline, an `@` and the digits of a place are a reference to this place, unless the
name begins or ends with a blank. -/
theorem spells_append {name : String} (hname : Text.Bare name.toList) {i : Nat}
    (hi : i < Nat.pow 2 64) : Spells (name ++ "@" ++ toString i) name i := by
  have hdigits := Text.digits_toString hi
  refine ⟨name.toList, (toString i).toList, (toString i).toList, ?_, ?_, Text.trims_self hname,
    Text.trims_self hdigits.bare, .inl hdigits⟩
  · rw [String.toList_append, String.toList_append, List.append_assoc]
    rfl
  · intro hmem
    exact absurd (hdigits.digit _ hmem) (by decide)

end Reference

namespace RoadBuilder

variable {α : Type}

theorem resolve_run (text : String) (b : RoadBuilder α) :
    resolve text b = (Reference.resolve b.splines text, b) := by
  have hlift : ∀ answer : Except (MapError α) PointId,
      (liftM answer : Building α PointId) b = (answer, b) := by
    intro answer
    cases answer <;> rfl
  exact hlift _

variable [Scalar α]

/-- The graph and its map resolve all texts alike, and without a trace. They resolve them exactly if
they are references to points of splines, to these points; in particular a spline is found by its
name, unless this begins or ends with a blank, whether there is an `@` in it or not. -/
theorem resolve_built {ops : List (Operation α)} {m : RoadMap α}
    (hm : (empty.after ops).build = .ok m) :
    (∀ text, resolve text (empty.after ops) = (m.resolve text, empty.after ops)) ∧
    (∀ text p, m.resolve text = .ok p ↔
      ∃ s ∈ m.splines, ∃ i, Reference.Spells text s.name i ∧ s.points[i]? = some p) ∧
    ∀ s ∈ m.splines, Text.Bare s.name.toList → ∀ i p, i < Nat.pow 2 64 →
      s.points[i]? = some p → m.resolve (s.name ++ "@" ++ toString i) = .ok p := by
  have hsurveyed := (after_wellFormed wellFormed_empty ops).surveyed_of_build hm
  have hvalid : m.Validated := RoadMap.validated_of_ofParts hm
  have hresolved : ∀ text p, m.resolve text = .ok p ↔
      ∃ s ∈ m.splines, ∃ i, Reference.Spells text s.name i ∧ s.points[i]? = some p :=
    fun _ _ => Reference.resolve_eq_ok_iff hvalid.wellFormed.names
  refine ⟨fun text => ?_, hresolved, fun s hs hname i p hi hp => ?_⟩
  · rw [resolve_run, RoadMap.resolve, hsurveyed.splines]
  · exact (hresolved _ _).mpr ⟨s, hs, i, Reference.spells_append hname hi, hp⟩

/-- A lane that has an `@` in its name. -/
private def signedLane : Operation Rat :=
  .spline "lane@1" [⟨⟨0, 0, 0⟩, 0⟩, ⟨⟨0, 0, 100⟩, 0⟩] false

/-- The last `@` ends the name of the lane, and blanks, a plus sign and zeros in front of the number
do not matter. -/
theorem resolve_built_signed :
    ∃ m, (empty.after [signedLane]).build = .ok m ∧
      m.resolve ("lane@1" ++ "@" ++ toString 1) = .ok ⟨1⟩ ∧
      m.resolve " lane@1 @ +01" = .ok ⟨1⟩ ∧
      resolve " lane@1 @ +01" (empty.after [signedLane]) = (.ok ⟨1⟩, empty.after [signedLane]) := by
  obtain ⟨m, hm, hsurveyed⟩ := (after_wellFormed wellFormed_empty [signedLane]).build (by decide)
  obtain ⟨hsame, hresolved, hnamed⟩ := resolve_built hm
  have hlane : (⟨"lane@1", [⟨0⟩, ⟨1⟩], false⟩ : Spline) ∈ m.splines :=
    hsurveyed.splines ▸ List.mem_singleton.mpr rfl
  have hbare : Text.Bare "lane@1".toList := by
    refine ⟨?_, ?_⟩
    all_goals
      rintro _ ⟨⟩
      decide
  have hspelled : m.resolve " lane@1 @ +01" = .ok ⟨1⟩ := by
    refine (hresolved _ _).mpr ⟨_, hlane, 1, ?_, rfl⟩
    have hsplit : " lane@1 @ +01".toList = " lane@1 ".toList ++ '@' :: " +01".toList := rfl
    have hdigits : Text.Digits ['0', '1'] 1 :=
      ⟨by decide, List.all_eq_true.mp rfl, by decide, by decide⟩
    exact ⟨_, _, "+01".toList, hsplit, by decide +kernel, Text.trim_eq_iff.mp rfl,
      Text.trim_eq_iff.mp rfl, .inr ⟨['0', '1'], rfl, hdigits⟩⟩
  exact ⟨m, hm, hnamed _ hlane hbare 1 _ (by decide) rfl, hspelled, hspelled ▸ hsame _⟩

end RoadBuilder

end RoadTraffic
