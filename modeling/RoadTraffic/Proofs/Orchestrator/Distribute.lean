import Mathlib.Data.List.Forall2
import RoadTraffic.Orchestrator.Distribute

/-!
# Distribution over slots

Each slot gets one share: there are as many numbers as limits. The rounds give out all vehicles, or
as many as the limits leave room for (`distribute_fits`).

What one round does is told by four lemmas: nothing is lost between what is given and what is left
(`handOut_conserves`), the limits stay the same and are kept (`handOut_caps`, `handOut_within`), and
as long as a share is open it takes something (`handOut_grows`), so that less and less is left.
`Deals` are the rounds as they come, without a bound on their number; that `rounds` makes them all
is `rounds_deals`.
-/

namespace RoadTraffic

namespace Share

theorem handOut_length {base rest : Nat} {shares : List Share} :
    (handOut base rest shares).2.length = shares.length := by
  induction shares generalizing rest with
  | nil => rfl
  | cons share shares ih =>
    unfold handOut
    split
    · exact congrArg (· + 1) ih
    · exact congrArg (· + 1) ih

theorem rounds_length {limit remaining : Nat} {shares : List Share} :
    (rounds limit remaining shares).length = shares.length := by
  induction limit generalizing remaining shares with
  | zero => rfl
  | succ limit ih =>
    unfold rounds
    dsimp only
    split
    · rfl
    · rw [ih, handOut_length]

/-! ## One round -/

/-- The number of shares that are not full. -/
def openCount (shares : List Share) : Nat := (shares.filter (!·.isFull)).length

/-- What all shares have been given together. -/
def givenTotal (shares : List Share) : Nat := (shares.map (·.given)).foldr (· + ·) 0

/-- A limit, where there is one, is not exceeded. -/
def Within (cap : Option Nat) (given : Nat) : Prop := ∀ limit, cap = some limit → given ≤ limit

/-- Both differences that a round takes for a share are there: it has been given no more than its
limit, and takes no more than it is offered. -/
def Sound (s : Share) : Prop :=
  Within s.cap s.given ∧ ∀ offered, s.accepts offered ≤ offered

variable {base rest offered : Nat} {s : Share} {shares : List Share}

theorem accepts_le (s : Share) (offered : Nat) : s.accepts offered ≤ offered := by
  unfold accepts
  split
  · exact Nat.min_le_left ..
  · exact Nat.le_refl _

/-- A share that is open takes something if it is offered something. -/
theorem accepts_pos (hopen : s.isFull = false) (hoffered : 0 < offered) :
    0 < s.accepts offered := by
  unfold isFull at hopen
  unfold accepts
  split
  · next cap hcap =>
    rw [hcap] at hopen
    have hroom := of_decide_eq_false hopen
    omega
  · exact hoffered

theorem within_accepts (h : Within s.cap s.given) (offered : Nat) :
    Within s.cap (s.given + s.accepts offered) := by
  intro limit hlimit
  have hgiven := h limit hlimit
  unfold accepts
  rw [hlimit]
  dsimp only
  omega

/-- The offer that the next open share gets. -/
abbrev offer (base rest : Nat) : Nat := base + if 0 < rest then 1 else 0

theorem handOut_full (h : s.isFull = true) :
    handOut base rest (s :: shares) =
      ((handOut base rest shares).1, s :: (handOut base rest shares).2) := by
  rw [handOut, if_pos h]

theorem handOut_open (h : s.isFull = false) :
    handOut base rest (s :: shares) =
      (offer base rest - s.accepts (offer base rest) + (handOut base (rest - 1) shares).1,
        { s with given := s.given + s.accepts (offer base rest) } ::
          (handOut base (rest - 1) shares).2) := by
  rw [handOut, if_neg (by rw [h]; decide)]

theorem openCount_full (h : s.isFull = true) :
    openCount (s :: shares) = openCount shares := by
  unfold openCount
  rw [List.filter_cons_of_neg (by simp [h])]

theorem openCount_open (h : s.isFull = false) :
    openCount (s :: shares) = openCount shares + 1 := by
  unfold openCount
  rw [List.filter_cons_of_pos (by simp [h]), List.length_cons]

theorem givenTotal_cons : givenTotal (s :: shares) = s.given + givenTotal shares := rfl

/-- What is given in a round and what is left of it make up what was offered. -/
theorem handOut_conserves :
    (handOut base rest shares).1 + givenTotal (handOut base rest shares).2 =
      givenTotal shares + (base * openCount shares + min rest (openCount shares)) := by
  induction shares generalizing rest with
  | nil => simp [handOut, openCount]
  | cons s shares ih =>
    cases h : s.isFull with
    | true =>
      rw [handOut_full h, openCount_full h, givenTotal_cons, givenTotal_cons]
      have hrest := @ih rest
      omega
    | false =>
      rw [handOut_open h, openCount_open h, givenTotal_cons, givenTotal_cons, Nat.mul_succ]
      have hrest := @ih (rest - 1)
      have htaken := accepts_le s (offer base rest)
      -- the one more that this share may be offered is missing from the rest
      have hoffer : offer base rest = base + min rest 1 := by
        unfold offer
        split <;> omega
      rw [hoffer] at htaken ⊢
      dsimp only
      omega

theorem handOut_caps :
    (handOut base rest shares).2.map (·.cap) = shares.map (·.cap) := by
  induction shares generalizing rest with
  | nil => rfl
  | cons s shares ih =>
    cases h : s.isFull with
    | true => rw [handOut_full h, List.map_cons, List.map_cons, ih]
    | false => rw [handOut_open h, List.map_cons, List.map_cons, ih]

theorem handOut_within (h : ∀ s ∈ shares, Within s.cap s.given) :
    ∀ s ∈ (handOut base rest shares).2, Within s.cap s.given := by
  induction shares generalizing rest with
  | nil => exact h
  | cons s shares ih =>
    have hs := h s (List.mem_cons_self ..)
    have hshares := fun rest => @ih rest fun t ht => h t (List.mem_cons_of_mem _ ht)
    intro t ht
    cases hfull : s.isFull with
    | true =>
      rw [handOut_full hfull] at ht
      rcases List.mem_cons.mp ht with rfl | ht
      · exact hs
      · exact hshares rest t ht
    | false =>
      rw [handOut_open hfull] at ht
      rcases List.mem_cons.mp ht with rfl | ht
      · exact within_accepts hs _
      · exact hshares (rest - 1) t ht

/-- Nothing is taken back. -/
theorem handOut_mono : givenTotal shares ≤ givenTotal (handOut base rest shares).2 := by
  induction shares generalizing rest with
  | nil => exact Nat.le_refl _
  | cons s shares ih =>
    cases h : s.isFull with
    | true =>
      rw [handOut_full h, givenTotal_cons, givenTotal_cons]
      exact Nat.add_le_add_left ih _
    | false =>
      rw [handOut_open h, givenTotal_cons, givenTotal_cons]
      exact Nat.add_le_add (Nat.le_add_right ..) ih

/-- As long as something is offered and a share is open, something is given. -/
theorem handOut_grows (hoffered : 0 < base + rest) (hopen : openCount shares ≠ 0) :
    givenTotal shares < givenTotal (handOut base rest shares).2 := by
  induction shares generalizing rest with
  | nil => exact absurd rfl hopen
  | cons s shares ih =>
    cases h : s.isFull with
    | true =>
      rw [handOut_full h, givenTotal_cons, givenTotal_cons]
      rw [openCount_full h] at hopen
      exact Nat.add_lt_add_left (ih hoffered hopen) _
    | false =>
      rw [handOut_open h, givenTotal_cons, givenTotal_cons]
      have htaken : 0 < s.accepts (offer base rest) := by
        refine accepts_pos h ?_
        unfold offer
        split <;> omega
      have hshares : givenTotal shares ≤ givenTotal (handOut base (rest - 1) shares).2 :=
        handOut_mono
      dsimp only
      omega

/-! ## Round after round -/

/-- The rounds that are made while vehicles remain, and what the shares are in the end. A round
divides the vehicles that remain by the number of open shares, which is not zero, and subtracts
nothing from less. The rounds end when no vehicle remains or all shares are full. -/
inductive Deals : Nat → List Share → List Share → Prop where
  | done {remaining : Nat} {shares : List Share}
    (h : remaining = 0 ∨ ∀ s ∈ shares, s.isFull = true) : Deals remaining shares shares
  | round {remaining : Nat} {shares final : List Share} (hremaining : 0 < remaining)
    (hopen : openCount shares ≠ 0) (hsound : ∀ s ∈ shares, s.Sound)
    (hrest : Deals
      (handOut (remaining / openCount shares) (remaining % openCount shares) shares).1
      (handOut (remaining / openCount shares) (remaining % openCount shares) shares).2 final) :
    Deals remaining shares final

theorem openCount_eq_zero : openCount shares = 0 ↔ ∀ s ∈ shares, s.isFull = true := by
  unfold openCount
  rw [List.length_eq_zero_iff, List.filter_eq_nil_iff]
  simp

/-- A round offers all vehicles that remain. -/
theorem round_conserves (remaining : Nat) (hopen : openCount shares ≠ 0) :
    (handOut (remaining / openCount shares) (remaining % openCount shares) shares).1 +
      givenTotal (handOut (remaining / openCount shares) (remaining % openCount shares) shares).2 =
      givenTotal shares + remaining := by
  have hrest : remaining % openCount shares < openCount shares :=
    Nat.mod_lt _ (Nat.pos_of_ne_zero hopen)
  rw [handOut_conserves, Nat.min_eq_left (Nat.le_of_lt hrest), Nat.mul_comm, Nat.div_add_mod]

/-- After a round fewer vehicles remain. -/
theorem round_lt {remaining : Nat} (hremaining : 0 < remaining) (hopen : openCount shares ≠ 0) :
    (handOut (remaining / openCount shares) (remaining % openCount shares) shares).1 <
      remaining := by
  have hoffered : 0 < remaining / openCount shares + remaining % openCount shares := by
    have hdivision := Nat.div_add_mod remaining (openCount shares)
    rcases Nat.eq_zero_or_pos (remaining / openCount shares) with hzero | hpos
    · rw [hzero, Nat.mul_zero] at hdivision
      omega
    · omega
  have hgrows := handOut_grows hoffered hopen
  have hconserves := round_conserves remaining hopen
  omega

/-- There are no more rounds than vehicles, so that the bound on the rounds cuts none off. -/
theorem rounds_deals {limit remaining : Nat} (hlimit : remaining ≤ limit)
    (h : ∀ s ∈ shares, Within s.cap s.given) :
    Deals remaining shares (rounds limit remaining shares) := by
  induction limit generalizing remaining shares with
  | zero => exact .done (Or.inl (Nat.le_zero.mp hlimit))
  | succ limit ih =>
    unfold rounds
    dsimp only
    split
    · next hend => exact .done (hend.imp_right openCount_eq_zero.mp)
    · next hgoes =>
      obtain ⟨hremaining, hopen⟩ := not_or.mp hgoes
      have hlt := round_lt (Nat.pos_of_ne_zero hremaining) hopen
      exact .round (Nat.pos_of_ne_zero hremaining) hopen (fun s hs => ⟨h s hs, accepts_le s⟩)
        (ih (by omega) (handOut_within h))

/-- In the end the limits are what they were and are kept, and what is not given is left because all
shares are full. -/
theorem Deals.ends {remaining : Nat} {final : List Share} (h : Deals remaining shares final)
    (hshares : ∀ s ∈ shares, Within s.cap s.given) :
    final.map (·.cap) = shares.map (·.cap) ∧ (∀ s ∈ final, Within s.cap s.given) ∧
      ∃ left, left + givenTotal final = givenTotal shares + remaining ∧
        (left = 0 ∨ ∀ s ∈ final, s.isFull = true) := by
  induction h with
  | done hend => exact ⟨rfl, hshares, _, Nat.add_comm .., hend⟩
  | round hremaining hopen hsound hrest ih =>
    obtain ⟨hcaps, hwithin, left, hleft, hend⟩ := ih (handOut_within hshares)
    refine ⟨hcaps.trans handOut_caps, hwithin, left, ?_, hend⟩
    rw [hleft, Nat.add_comm, round_conserves _ hopen]

theorem givenTotal_empty (caps : List (Option Nat)) :
    givenTotal (caps.map fun cap => ⟨cap, 0⟩) = 0 := by
  induction caps with
  | nil => rfl
  | cons cap caps ih => rw [List.map_cons, givenTotal_cons, ih]

/-- What all limits leave room for together. -/
def room (caps : List (Option Nat)) : Nat := (caps.filterMap id).foldr (· + ·) 0

theorem room_cons {limit : Nat} (h : s.cap = some limit) :
    room ((s :: shares).map (·.cap)) = limit + room (shares.map (·.cap)) := by
  unfold room
  rw [List.map_cons, h]
  rfl

theorem givenTotal_le_room (hlimited : none ∉ shares.map (·.cap))
    (h : ∀ s ∈ shares, Within s.cap s.given) : givenTotal shares ≤ room (shares.map (·.cap)) := by
  induction shares with
  | nil => exact Nat.le_refl _
  | cons s shares ih =>
    rw [List.map_cons, List.mem_cons, not_or] at hlimited
    obtain ⟨limit, hlimit⟩ := Option.ne_none_iff_exists'.mp (Ne.symm hlimited.1)
    have hs := h s (List.mem_cons_self ..) limit hlimit
    have hrest := ih hlimited.2 fun t ht => h t (List.mem_cons_of_mem _ ht)
    rw [givenTotal_cons, room_cons hlimit]
    omega

/-- Where all shares are full nothing more would fit. -/
theorem room_le_givenTotal (hfull : ∀ s ∈ shares, s.isFull = true) :
    none ∉ shares.map (·.cap) ∧ room (shares.map (·.cap)) ≤ givenTotal shares := by
  induction shares with
  | nil => exact ⟨List.not_mem_nil, Nat.le_refl _⟩
  | cons s shares ih =>
    obtain ⟨hlimited, hrest⟩ := ih fun t ht => hfull t (List.mem_cons_of_mem _ ht)
    have hs := hfull s (List.mem_cons_self ..)
    unfold isFull at hs
    cases hcap : s.cap with
    | none =>
      rw [hcap] at hs
      cases hs
    | some limit =>
      rw [hcap] at hs
      have hlimit := of_decide_eq_true hs
      rw [givenTotal_cons, room_cons hcap, List.map_cons, hcap, List.mem_cons, not_or]
      exact ⟨⟨by simp, hlimited⟩, by omega⟩

end Share

theorem distribute_length {total : Nat} {caps : List (Option Nat)} :
    (distribute total caps).length = caps.length := by
  unfold distribute
  rw [List.length_map, Share.rounds_length, List.length_map]

/-- **What fits is given out.** The rounds come to an end of their own, without a division by zero
and without a difference below zero. Each slot then has a number within its limit, and the numbers
add up to the total, or to what the limits leave room for if that is less. -/
theorem distribute_fits (total : Nat) (caps : List (Option Nat)) :
    (∃ shares, Share.Deals total (caps.map fun cap => ⟨cap, 0⟩) shares ∧
      distribute total caps = shares.map (·.given)) ∧
    List.Forall₂ Share.Within caps (distribute total caps) ∧
    (distribute total caps).foldr (· + ·) 0 =
      if none ∈ caps then total else min total ((caps.filterMap id).foldr (· + ·) 0) := by
  have hempty : ∀ s ∈ caps.map fun cap => (⟨cap, 0⟩ : Share), Share.Within s.cap s.given := by
    intro s hs
    obtain ⟨cap, -, rfl⟩ := List.mem_map.mp hs
    exact fun limit _ => Nat.zero_le limit
  have hdeals := Share.rounds_deals (Nat.le_refl total) hempty
  obtain ⟨hcaps, hwithin, left, hleft, hend⟩ := hdeals.ends hempty
  rw [Share.givenTotal_empty, Nat.zero_add] at hleft
  rw [List.map_map, show ((·.cap) ∘ fun cap => (⟨cap, 0⟩ : Share)) = id from rfl,
    List.map_id] at hcaps
  unfold distribute
  generalize Share.rounds total total (caps.map fun cap => ⟨cap, 0⟩) = shares at *
  refine ⟨⟨shares, hdeals, rfl⟩, ?_, ?_⟩
  · rw [← hcaps, List.forall₂_map_left_iff, List.forall₂_map_right_iff, List.forall₂_same]
    exact hwithin
  show Share.givenTotal shares = if none ∈ caps then total else min total (Share.room caps)
  rw [← hcaps]
  split
  · next hunlimited =>
    -- an unlimited share is never full, so that nothing is left
    rcases hend with hnone | hfull
    · omega
    · exact absurd hunlimited (Share.room_le_givenTotal hfull).1
  · next hlimited =>
    have hfits := Share.givenTotal_le_room hlimited hwithin
    rcases hend with hnone | hfull
    · omega
    · have hroom := (Share.room_le_givenTotal hfull).2
      omega

/-- The first slot takes two; what it leaves is shared by the others. -/
example : distribute 10 [some 2, none, none] = [2, 4, 4] := by decide

end RoadTraffic
