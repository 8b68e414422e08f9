import Mathlib.Data.Nat.Factorial.Basic
import RoadTraffic.Proofs.Orchestrator.Distribute

/-!
# How even a distribution is

A round offers the same number to all open slots, and what the division leaves over goes to the
first of them. Between two slots that take more than they are given one such round makes a
difference of one. But what the full slots send back is dealt out in further rounds, and each of
them begins with the first slots again. So the slots differ by as many vehicles as there are uneven
rounds (`rounds_spread`), of which all but one fill a slot (`unevenRounds_le`).

No less can be said: limits that grow as the factorials do fill one slot in each round and leave the
last slot out in all of them (`rounds_stairs`).
-/

namespace RoadTraffic

namespace Share

variable {base rest offered limit remaining n : Nat} {s s' : Share} {shares : List Share}

/-- The slot takes more than it has been given. -/
def Below (cap : Option Nat) (given : Nat) : Prop := ∀ limit, cap = some limit → given < limit

theorem isFull_eq_false : s.isFull = false ↔ Below s.cap s.given := by
  unfold isFull Below
  split
  · next cap hcap =>
    rw [hcap, decide_eq_false_iff_not, Nat.not_le]
    exact ⟨fun h limit hlimit => Option.some.inj hlimit ▸ h, fun h => h cap rfl⟩
  · next hcap =>
    rw [hcap]
    exact ⟨fun _ _ hlimit => (nomatch hlimit), fun _ => rfl⟩

/-! ## One round -/

/-- Who is still open took all that was offered. -/
theorem accepts_eq (h : isFull { s with given := s.given + s.accepts offered } = false) :
    s.accepts offered = offered := by
  rw [isFull_eq_false] at h
  unfold accepts at h ⊢
  split
  · next cap hcap =>
    have hroom := h cap hcap
    rw [hcap] at hroom
    dsimp only at hroom
    omega
  · rfl

/-- What a round makes of a share: it has been given at most `most` more. If it is still open it was
open before, and has been given `least` at least. -/
structure Dealt (least most : Nat) (s s' : Share) : Prop where
  le : s'.given ≤ s.given + most
  ge : s'.isFull = false → s.isFull = false ∧ s.given + least ≤ s'.given

theorem Dealt.mono {least most more : Nat} (h : Dealt least most s s') (hmore : most ≤ more) :
    Dealt least more s s' :=
  ⟨Nat.le_trans h.le (Nat.add_le_add_left hmore _), h.ge⟩

theorem dealt_full (h : s.isFull = true) (least most : Nat) : Dealt least most s s :=
  ⟨Nat.le_add_right .., fun hopen => absurd (h.symm.trans hopen) (by decide)⟩

theorem dealt_open (h : s.isFull = false) (offered : Nat) :
    Dealt offered offered s { s with given := s.given + s.accepts offered } := by
  refine ⟨Nat.add_le_add_left (accepts_le s offered) _, fun hopen => ⟨h, ?_⟩⟩
  show s.given + offered ≤ s.given + s.accepts offered
  rw [accepts_eq hopen]

theorem offer_pred_le : offer base (rest - 1) ≤ offer base rest := by
  unfold offer
  split <;> split <;> omega

theorem of_mem_handOut (h : s' ∈ (handOut base rest shares).2) :
    ∃ s ∈ shares, Dealt base (offer base rest) s s' := by
  induction shares generalizing rest with
  | nil => cases h
  | cons s shares ih =>
    cases hfull : s.isFull with
    | true =>
      rw [handOut_full hfull] at h
      rcases List.mem_cons.mp h with rfl | h
      · exact ⟨_, List.mem_cons_self .., dealt_full hfull _ _⟩
      · obtain ⟨t, ht, hdealt⟩ := ih h
        exact ⟨t, List.mem_cons_of_mem _ ht, hdealt⟩
    | false =>
      rw [handOut_open hfull] at h
      rcases List.mem_cons.mp h with rfl | h
      · have hdealt := dealt_open hfull (offer base rest)
        refine ⟨s, List.mem_cons_self .., hdealt.le, fun hopen => ⟨hfull, ?_⟩⟩
        exact Nat.le_trans (Nat.add_le_add_left (Nat.le_add_right ..) _) (hdealt.ge hopen).2
      · obtain ⟨t, ht, hdealt⟩ := ih h
        exact ⟨t, List.mem_cons_of_mem _ ht, hdealt.mono offer_pred_le⟩

/-- No share has been given more than `n` more than one that is open. -/
def Spread (n : Nat) (shares : List Share) : Prop :=
  ∀ s ∈ shares, ∀ t ∈ shares, t.isFull = false → s.given ≤ t.given + n

/-- Whether the first open shares get more in a round than the other ones. -/
def unevenness (rest : Nat) : Nat := if 0 < rest then 1 else 0

/-- A round makes a difference of one, or none if nothing is left over. -/
theorem handOut_spread (h : Spread n shares) (base rest : Nat) :
    Spread (unevenness rest + n) (handOut base rest shares).2 := by
  intro s' hs' t' ht' hopen
  obtain ⟨s, hs, hdealt⟩ := of_mem_handOut hs'
  obtain ⟨t, ht, hdealt'⟩ := of_mem_handOut ht'
  obtain ⟨hopen, hleast⟩ := hdealt'.ge hopen
  have hbefore := h s hs t ht hopen
  have hmost : s'.given ≤ s.given + (base + unevenness rest) := hdealt.le
  omega

/-- Of two open shares the first one has been given no less. -/
def Ordered (shares : List Share) : Prop :=
  shares.Pairwise fun s t => s.isFull = false → t.isFull = false → t.given ≤ s.given

theorem handOut_ordered (h : Ordered shares) (base rest : Nat) :
    Ordered (handOut base rest shares).2 := by
  induction shares generalizing rest with
  | nil => exact h
  | cons s shares ih =>
    obtain ⟨hfirst, hshares⟩ := List.pairwise_cons.mp h
    cases hfull : s.isFull with
    | true =>
      rw [handOut_full hfull]
      refine List.pairwise_cons.mpr ⟨fun t' _ hopen => ?_, ih hshares rest⟩
      exact absurd (hfull.symm.trans hopen) (by decide)
    | false =>
      rw [handOut_open hfull]
      refine List.pairwise_cons.mpr ⟨fun t' ht' hopen hopen' => ?_, ih hshares (rest - 1)⟩
      -- a later share is not offered more, and the first one has taken what it was offered
      obtain ⟨t, ht, hdealt⟩ := of_mem_handOut ht'
      have hbefore := hfirst t ht hfull (hdealt.ge hopen').1
      have hmost := (hdealt.mono offer_pred_le).le
      have hleast := ((dealt_open hfull (offer base rest)).ge hopen).2
      omega

/-- Something is left of a round only if it fills a share. -/
theorem handOut_fills (base rest : Nat) (shares : List Share) :
    openCount (handOut base rest shares).2 + min (handOut base rest shares).1 1 ≤
      openCount shares := by
  induction shares generalizing rest with
  | nil => exact Nat.le_refl _
  | cons s shares ih =>
    cases hfull : s.isFull with
    | true =>
      rw [handOut_full hfull, openCount_full hfull, openCount_full hfull]
      exact ih rest
    | false =>
      have hrest := ih (rest - 1)
      rw [handOut_open hfull, openCount_open hfull]
      dsimp only
      cases hfilled : isFull { s with given := s.given + s.accepts (offer base rest) } with
      | true =>
        rw [openCount_full hfilled]
        omega
      | false =>
        rw [openCount_open hfilled, accepts_eq hfilled]
        omega

/-! ## Round after round -/

/-- The number of rounds in which the first open shares get more than the other ones. -/
def unevenRounds : Nat → Nat → List Share → Nat
  | 0, _, _ => 0
  | limit + 1, remaining, shares =>
    if remaining = 0 ∨ openCount shares = 0 then 0
    else
      let round := handOut (remaining / openCount shares) (remaining % openCount shares) shares
      unevenRounds limit round.1 round.2 + unevenness (remaining % openCount shares)

theorem rounds_none : rounds limit 0 shares = shares := by
  cases limit with
  | zero => rfl
  | succ limit =>
    rw [rounds]
    exact if_pos (Or.inl rfl)

theorem rounds_next (hremaining : 0 < remaining) (hopen : 0 < openCount shares) :
    rounds (limit + 1) remaining shares =
      rounds limit
        (handOut (remaining / openCount shares) (remaining % openCount shares) shares).1
        (handOut (remaining / openCount shares) (remaining % openCount shares) shares).2 := by
  rw [rounds]
  exact if_neg (not_or.mpr ⟨Nat.ne_of_gt hremaining, Nat.ne_of_gt hopen⟩)

/-- The rounds of a distribution, with the number of uneven ones: there are none any more, or one is
made and then the others. -/
theorem rounds_cases (limit remaining : Nat) (shares : List Share) :
    (rounds (limit + 1) remaining shares = shares ∧
      unevenRounds (limit + 1) remaining shares = 0) ∨
    0 < remaining ∧ ∃ left dealt,
      handOut (remaining / openCount shares) (remaining % openCount shares) shares =
        (left, dealt) ∧
      rounds (limit + 1) remaining shares = rounds limit left dealt ∧
      unevenRounds (limit + 1) remaining shares =
        unevenRounds limit left dealt + unevenness (remaining % openCount shares) := by
  by_cases hend : remaining = 0 ∨ openCount shares = 0
  · left
    rw [rounds, unevenRounds, if_pos hend]
    exact ⟨if_pos hend, rfl⟩
  · right
    obtain ⟨hremaining, hopen⟩ := not_or.mp hend
    refine ⟨Nat.pos_of_ne_zero hremaining, _, _, rfl,
      rounds_next (Nat.pos_of_ne_zero hremaining) (Nat.pos_of_ne_zero hopen), ?_⟩
    rw [unevenRounds, if_neg hend]

theorem rounds_spread (h : Spread n shares) :
    Spread (unevenRounds limit remaining shares + n) (rounds limit remaining shares) := by
  induction limit generalizing remaining shares n with
  | zero => rwa [unevenRounds, Nat.zero_add]
  | succ limit ih =>
    rcases rounds_cases limit remaining shares with
      ⟨hrounds, huneven⟩ | ⟨-, left, dealt, hround, hrounds, huneven⟩
    · rwa [hrounds, huneven, Nat.zero_add]
    · rw [hrounds, huneven, Nat.add_assoc]
      have hdealt := handOut_spread h (remaining / openCount shares) (remaining % openCount shares)
      rw [hround] at hdealt
      exact ih hdealt

theorem rounds_ordered (h : Ordered shares) : Ordered (rounds limit remaining shares) := by
  induction limit generalizing remaining shares with
  | zero => exact h
  | succ limit ih =>
    rcases rounds_cases limit remaining shares with
      ⟨hrounds, -⟩ | ⟨-, left, dealt, hround, hrounds, -⟩
    · rwa [hrounds]
    · rw [hrounds]
      have hdealt := handOut_ordered h (remaining / openCount shares) (remaining % openCount shares)
      rw [hround] at hdealt
      exact ih hdealt

/-- All uneven rounds but one fill a share. -/
theorem unevenRounds_le (limit remaining : Nat) (shares : List Share) :
    unevenRounds limit remaining shares + openCount (rounds limit remaining shares) ≤
      openCount shares + min remaining 1 := by
  induction limit generalizing remaining shares with
  | zero =>
    rw [unevenRounds, rounds]
    omega
  | succ limit ih =>
    rcases rounds_cases limit remaining shares with
      ⟨hrounds, huneven⟩ | ⟨hremaining, left, dealt, hround, hrounds, huneven⟩
    · rw [hrounds, huneven]
      omega
    · rw [hrounds, huneven]
      have hfills := handOut_fills (remaining / openCount shares)
        (remaining % openCount shares) shares
      rw [hround] at hfills
      have hlater := ih left dealt
      have hone : unevenness (remaining % openCount shares) ≤ 1 := by
        unfold unevenness
        split <;> omega
      dsimp only at hfills
      omega

/-- The slot has been given vehicles, and as many as it takes. -/
def Reached (cap : Option Nat) (given : Nat) : Prop := cap = some given ∧ 0 < given

instance (cap : Option Nat) (given : Nat) : Decidable (Reached cap given) := by
  unfold Reached
  infer_instance

/-- The shares that are filled while vehicles are given out have reached their limits. -/
theorem openCount_emptied (h : ∀ s ∈ shares, Within s.cap s.given) :
    openCount (shares.map fun s => ⟨s.cap, 0⟩) =
      openCount shares + shares.countP fun s => Reached s.cap s.given := by
  induction shares with
  | nil => rfl
  | cons s shares ih =>
    have hshares := ih fun t ht => h t (List.mem_cons_of_mem _ ht)
    have hs := h s (List.mem_cons_self ..)
    rw [List.map_cons, List.countP_cons]
    cases hfull : s.isFull with
    | false =>
      -- who is open in the end was open in the beginning
      have hbelow := isFull_eq_false.mp hfull
      have hopen : isFull ⟨s.cap, 0⟩ = false :=
        isFull_eq_false.mpr fun limit hlimit => Nat.zero_lt_of_lt (hbelow limit hlimit)
      have hreached : ¬ Reached s.cap s.given := fun hreached =>
        Nat.lt_irrefl _ (hbelow _ hreached.1)
      rw [openCount_open hopen, openCount_open hfull, hshares, decide_eq_false hreached]
      simp only [Bool.false_eq_true, if_false]
      omega
    | true =>
      obtain ⟨limit, hcap, hle⟩ : ∃ limit, s.cap = some limit ∧ limit ≤ s.given := by
        unfold isFull at hfull
        split at hfull
        · next cap hcap => exact ⟨cap, hcap, of_decide_eq_true hfull⟩
        · cases hfull
      have hgiven : limit = s.given := Nat.le_antisymm hle (hs limit hcap)
      rw [openCount_full hfull, hcap, hgiven]
      rcases Nat.eq_zero_or_pos s.given with hzero | hpos
      · rw [openCount_full (by rw [hzero]; rfl), hshares,
          decide_eq_false fun h => absurd h.2 (by omega)]
        simp only [Bool.false_eq_true, if_false]
        omega
      · rw [openCount_open (isFull_eq_false.mpr fun _ h => Option.some.inj h ▸ hpos), hshares,
          decide_eq_true ⟨rfl, hpos⟩, if_pos rfl]
        omega

/-! ## Uneven in every round -/

/-- Slots that are full do not take part in a round. -/
theorem handOut_behind {done : List Share} (h : ∀ s ∈ done, s.isFull = true) :
    handOut base rest (done ++ shares) =
      ((handOut base rest shares).1, done ++ (handOut base rest shares).2) := by
  induction done with
  | nil => rfl
  | cons s done ih =>
    rw [List.cons_append, handOut_full (h s (List.mem_cons_self ..)),
      ih fun t ht => h t (List.mem_cons_of_mem _ ht)]
    rfl

theorem openCount_behind {done : List Share} (h : ∀ s ∈ done, s.isFull = true) :
    openCount (done ++ shares) = openCount shares := by
  induction done with
  | nil => rfl
  | cons s done ih =>
    rw [List.cons_append, openCount_full (h s (List.mem_cons_self ..)),
      ih fun t ht => h t (List.mem_cons_of_mem _ ht)]

/-- A slot that takes `room` more than it has been given. -/
abbrev takingMore (room given : Nat) : Share := ⟨some (given + room), given⟩

theorem isFull_takingMore {room : Nat} (hroom : 0 < room) (given : Nat) :
    (takingMore room given).isFull = false :=
  isFull_eq_false.mpr fun limit hlimit => by
    rw [← Option.some.inj hlimit]
    exact Nat.lt_add_of_pos_right hroom

theorem accepts_takingMore (room given offered : Nat) :
    (takingMore room given).accepts offered = min offered room := by
  show min offered (given + room - given) = min offered room
  rw [Nat.add_sub_cancel_left]

/-- Slots that have all been given the same, and how much each of them takes besides. -/
def taking (rooms : List Nat) (given : Nat) : List Share :=
  rooms.map fun room => takingMore room given

theorem openCount_taking {rooms : List Nat} {given : Nat} (h : ∀ room ∈ rooms, 0 < room) :
    openCount (taking rooms given ++ shares) = rooms.length + openCount shares := by
  induction rooms with
  | nil => exact (Nat.zero_add _).symm
  | cons room rooms ih =>
    have hopen := isFull_takingMore (h room (List.mem_cons_self ..)) given
    have hrooms := ih fun r hr => h r (List.mem_cons_of_mem _ hr)
    show openCount (takingMore room given :: (taking rooms given ++ shares)) = _
    rw [openCount_open hopen, hrooms, List.length_cons]
    omega

/-- Slots that take more than they are offered are given what they are offered. -/
theorem handOut_taking {rooms : List Nat} (h : rooms.length ≤ rest) (base given : Nat)
    (shares : List Share) :
    handOut base rest (taking (rooms.map (· + (base + 1))) given ++ shares) =
      ((handOut base (rest - rooms.length) shares).1,
        taking rooms (given + (base + 1)) ++ (handOut base (rest - rooms.length) shares).2) := by
  induction rooms generalizing rest with
  | nil => rfl
  | cons room rooms ih =>
    rw [List.length_cons] at h
    have hopen := isFull_takingMore (Nat.add_pos_right room (Nat.succ_pos base)) given
    have hoffer : offer base rest = base + 1 := by
      unfold offer
      rw [if_pos (by omega)]
    have haccepts : (takingMore (room + (base + 1)) given).accepts (base + 1) = base + 1 := by
      rw [accepts_takingMore]
      omega
    have hlater := @ih (rest - 1) (by omega)
    rw [Nat.sub_sub, Nat.add_comm 1] at hlater
    have hcap : given + (room + (base + 1)) = given + (base + 1) + room := by omega
    show handOut base rest (takingMore (room + (base + 1)) given ::
      (taking (rooms.map (· + (base + 1))) given ++ shares)) = _
    rw [handOut_open hopen, hoffer, haccepts, hlater, Nat.sub_self, Nat.zero_add, List.length_cons]
    show (_, (⟨some (given + (room + (base + 1))), given + (base + 1)⟩ : Share) :: _) = _
    rw [hcap]
    rfl

/-- How much each of `n` slots takes, so that every round fills the first of them that is open. -/
def stairs : Nat → List Nat
  | 0 => []
  | n + 1 => 1 :: (stairs n).map (· + (n + 2).factorial)

theorem stairs_length (n : Nat) : (stairs n).length = n := by
  induction n with
  | zero => rfl
  | succ n ih => rw [stairs, List.length_cons, List.length_map, ih]

theorem stairs_pos : ∀ room ∈ stairs n, 0 < room := by
  induction n with
  | zero => exact fun room h => absurd h List.not_mem_nil
  | succ n ih =>
    intro room h
    rcases List.mem_cons.mp h with rfl | h
    · exact Nat.one_pos
    · obtain ⟨lower, hlower, rfl⟩ := List.mem_map.mp h
      exact Nat.add_pos_left (ih lower hlower) _

/-- Two slots that take any number. -/
abbrev unlimited (a b : Nat) : List Share := [⟨none, a⟩, ⟨none, b⟩]

theorem openCount_stairs {done : List Share} (hdone : ∀ s ∈ done, s.isFull = true)
    (given last : Nat) :
    openCount (done ++ (taking (stairs n) given ++ unlimited given last)) = n + 2 := by
  rw [openCount_behind hdone, openCount_taking stairs_pos, stairs_length]
  rfl

/-- A round over the stairs fills the first step, gives the last slot one less than the others and
leaves as many vehicles as the next round begins with. -/
theorem handOut_stairs {done : List Share} (hdone : ∀ s ∈ done, s.isFull = true) {given last : Nat}
    (hbase : base + 1 = (n + 2).factorial) :
    handOut base (n + 2) (done ++ (taking (stairs (n + 1)) given ++ unlimited given last)) =
      (base, done ++ takingMore 0 (given + 1) :: (taking (stairs n) (given + (base + 1)) ++
        unlimited (given + (base + 1)) (last + base))) := by
  have hfirst := isFull_takingMore Nat.one_pos given
  have haccepts : (takingMore 1 given).accepts (base + 1) = 1 := by
    rw [accepts_takingMore]
    omega
  have hlater := handOut_taking (Nat.le_succ_of_le (Nat.le_of_eq (stairs_length n))) base given
    (unlimited given last)
  rw [stairs_length, Nat.succ_sub (Nat.le_refl n), Nat.sub_self] at hlater
  have hstairs : taking (stairs (n + 1)) given =
      takingMore 1 given :: taking ((stairs n).map (· + (base + 1))) given := by
    rw [stairs, hbase]
    rfl
  -- the last one left over goes to the first of the two unlimited slots
  have hends : handOut base 1 (unlimited given last) =
      (0, unlimited (given + (base + 1)) (last + base)) := by
    show ((base + 1 - (base + 1)) + ((base + 0 - (base + 0)) + 0), _) = _
    rw [Nat.sub_self, Nat.sub_self]
    rfl
  rw [handOut_behind hdone, hstairs, List.cons_append, handOut_open hfirst,
    show offer base (n + 2) = base + 1 from rfl, haccepts, show n + 2 - 1 = n.succ from rfl, hlater,
    hends]
  rfl

/-- The stairs are climbed in uneven rounds, one for each step and one more, and the last slot gets
one vehicle less in all of them. -/
theorem rounds_stairs {done : List Share} (hdone : ∀ s ∈ done, s.isFull = true)
    (given last : Nat) (hlimit : (n + 2).factorial - 1 ≤ limit) :
    ∃ final a b, rounds limit ((n + 2).factorial - 1)
        (done ++ (taking (stairs n) given ++ unlimited given last)) = final ++ unlimited a b ∧
      a + last = b + given + (n + 1) := by
  induction n generalizing done given last limit with
  | zero =>
    have hopen := openCount_stairs (n := 0) hdone given last
    obtain ⟨limit, rfl⟩ := Nat.exists_eq_add_of_le' hlimit
    refine ⟨done, given + 1, last, ?_, by omega⟩
    have hround : handOut 0 1 (done ++ unlimited given last) =
        (0, done ++ unlimited (given + 1) last) := handOut_behind hdone
    show rounds (limit + 1) 1 (done ++ (taking (stairs 0) given ++ unlimited given last)) = _
    rw [rounds_next Nat.one_pos (by rw [hopen]; exact Nat.two_pos), hopen]
    show rounds limit (handOut 0 1 (done ++ unlimited given last)).1
      (handOut 0 1 (done ++ unlimited given last)).2 = _
    rw [hround]
    exact rounds_none
  | succ n ih =>
    obtain ⟨base, hbase⟩ : ∃ base, base + 1 = (n + 2).factorial :=
      ⟨_, Nat.succ_pred (Nat.factorial_ne_zero _)⟩
    have hremaining : (n + 1 + 2).factorial - 1 = n + 2 + (n + 3) * base := by
      show (n + 3) * (n + 2).factorial - 1 = _
      rw [← hbase, Nat.mul_succ]
      omega
    have hbase_le : base ≤ (n + 3) * base := Nat.le_mul_of_pos_left _ (Nat.succ_pos _)
    rw [hremaining] at hlimit ⊢
    obtain ⟨limit, rfl⟩ : ∃ l, limit = l + 1 := Nat.exists_eq_add_of_le' (by omega)
    have hdiv : (n + 2 + (n + 3) * base) / (n + 1 + 2) = base := by
      rw [Nat.add_mul_div_left _ _ (Nat.succ_pos _), Nat.div_eq_of_lt (Nat.lt_succ_self (n + 2)),
        Nat.zero_add]
    have hmod : (n + 2 + (n + 3) * base) % (n + 1 + 2) = n + 2 := by
      rw [Nat.add_mul_mod_self_left, Nat.mod_eq_of_lt (Nat.lt_succ_self (n + 2))]
    have hopen := openCount_stairs (n := n + 1) hdone given last
    rw [rounds_next (by omega) (by rw [hopen]; exact Nat.succ_pos _), hopen, hdiv, hmod,
      handOut_stairs hdone hbase]
    dsimp only
    have hdone' : ∀ s ∈ done ++ [takingMore 0 (given + 1)], s.isFull = true := by
      intro s hs
      rcases List.mem_append.mp hs with hs | hs
      · exact hdone s hs
      · rw [List.mem_singleton.mp hs]
        exact decide_eq_true (Nat.le_refl _)
    have hbase_limit : (n + 2).factorial - 1 ≤ limit := by omega
    obtain ⟨final, a, b, hfinal, hab⟩ :=
      ih hdone' (given + (base + 1)) (last + base) hbase_limit
    refine ⟨final, a, b, ?_, by omega⟩
    rw [← hfinal, ← hbase, Nat.add_sub_cancel, List.append_assoc]
    rfl

/-- In the end the slots have the limits that they had, and keep them. -/
theorem rounds_emptied (total : Nat) (caps : List (Option Nat)) :
    (rounds total total (caps.map fun cap => ⟨cap, 0⟩)).map (·.cap) = caps ∧
      ∀ s ∈ rounds total total (caps.map fun cap => ⟨cap, 0⟩), Within s.cap s.given := by
  have hempty : ∀ s ∈ caps.map fun cap => (⟨cap, 0⟩ : Share), Within s.cap s.given := by
    intro s hs
    obtain ⟨cap, -, rfl⟩ := List.mem_map.mp hs
    exact fun limit _ => Nat.zero_le limit
  obtain ⟨hcaps, hwithin, -⟩ := (rounds_deals (Nat.le_refl total) hempty).ends hempty
  rw [List.map_map, show ((·.cap) ∘ fun cap => (⟨cap, 0⟩ : Share)) = id from rfl,
    List.map_id] at hcaps
  exact ⟨hcaps, hwithin⟩

end Share

/-- The limit of each slot, and how many vehicles it gets. -/
def allotment (total : Nat) (caps : List (Option Nat)) : List (Option Nat × Nat) :=
  caps.zip (distribute total caps)

theorem allotment_eq (total : Nat) (caps : List (Option Nat)) :
    allotment total caps =
      (Share.rounds total total (caps.map fun cap => ⟨cap, 0⟩)).map fun s => (s.cap, s.given) := by
  have hcaps := (Share.rounds_emptied total caps).1
  unfold allotment distribute
  generalize Share.rounds total total (caps.map fun cap => ⟨cap, 0⟩) = shares at *
  rw [← hcaps, List.zip_map']

/-- How many rounds of a distribution give the first slots more than the other ones. -/
def unevenRounds (total : Nat) (caps : List (Option Nat)) : Nat :=
  Share.unevenRounds total total (caps.map fun cap => ⟨cap, 0⟩)

theorem allotment_spread (total : Nat) (caps : List (Option Nat)) :
    ∀ p ∈ allotment total caps, ∀ q ∈ allotment total caps, Share.Below q.1 q.2 →
      p.2 ≤ q.2 + unevenRounds total caps := by
  have hempty : Share.Spread 0 (caps.map fun cap => ⟨cap, 0⟩) := by
    intro s hs t _ _
    obtain ⟨cap, -, rfl⟩ := List.mem_map.mp hs
    exact Nat.zero_le _
  rw [allotment_eq]
  intro p hp q hq hbelow
  obtain ⟨s, hs, rfl⟩ := List.mem_map.mp hp
  obtain ⟨t, ht, rfl⟩ := List.mem_map.mp hq
  exact Share.rounds_spread hempty s hs t ht (Share.isFull_eq_false.mpr hbelow)

theorem allotment_ordered (total : Nat) (caps : List (Option Nat)) :
    (allotment total caps).Pairwise
      fun p q => Share.Below p.1 p.2 → Share.Below q.1 q.2 → q.2 ≤ p.2 := by
  have hempty : Share.Ordered (caps.map fun cap => ⟨cap, 0⟩) :=
    List.pairwise_map.mpr (List.pairwise_of_forall fun _ _ _ _ => Nat.le_refl 0)
  rw [allotment_eq]
  refine List.pairwise_map.mpr ((Share.rounds_ordered hempty).imp fun h hs ht => ?_)
  exact h (Share.isFull_eq_false.mpr hs) (Share.isFull_eq_false.mpr ht)

/-- There is one uneven round more at most than there are slots that get as many vehicles as they
take. -/
theorem unevenRounds_le_reached (total : Nat) (caps : List (Option Nat)) :
    unevenRounds total caps ≤
      (allotment total caps).countP (fun p => Share.Reached p.1 p.2) + 1 := by
  obtain ⟨hcaps, hwithin⟩ := Share.rounds_emptied total caps
  have huneven := Share.unevenRounds_le total total (caps.map fun cap => ⟨cap, 0⟩)
  have hemptied := Share.openCount_emptied hwithin
  rw [show (fun s : Share => (⟨s.cap, 0⟩ : Share)) = (fun cap => ⟨cap, 0⟩) ∘ (·.cap) from rfl,
    ← List.map_map, hcaps] at hemptied
  rw [allotment_eq, List.countP_map]
  show Share.unevenRounds total total _ ≤
    List.countP (fun s : Share => Share.Reached s.cap s.given) _ + 1
  omega

/-- With limits like stairs, the second of two unlimited slots is behind by one vehicle for each
step and one more. -/
theorem exists_piled_up (n : Nat) :
    ∃ total caps, caps.countP (·.isSome) = n ∧
      ∃ p ∈ allotment total caps, ∃ q ∈ allotment total caps,
        p.1 = none ∧ q.1 = none ∧ p.2 = q.2 + (n + 1) := by
  have hempty : ((Share.stairs n).map some ++ [none, none]).map (fun cap => ⟨cap, 0⟩) =
      [] ++ (Share.taking (Share.stairs n) 0 ++ Share.unlimited 0 0) := by
    rw [List.map_append, List.map_map, List.nil_append]
    unfold Share.taking Share.takingMore
    simp only [Nat.zero_add]
    rfl
  obtain ⟨final, a, b, hfinal, hab⟩ :=
    Share.rounds_stairs (n := n) (fun _ h => absurd h List.not_mem_nil) 0 0 (Nat.le_refl _)
  have hslots : allotment ((n + 2).factorial - 1) ((Share.stairs n).map some ++ [none, none]) =
      final.map (fun s => (s.cap, s.given)) ++ [(none, a), (none, b)] := by
    rw [allotment_eq, hempty, hfinal, List.map_append]
    rfl
  refine ⟨(n + 2).factorial - 1, (Share.stairs n).map some ++ [none, none], ?_, (none, a), ?_,
    (none, b), ?_, rfl, rfl, hab⟩
  · rw [List.countP_append, List.countP_map,
      show (Option.isSome ∘ some) = (fun _ : Nat => true) from rfl, List.countP_true,
      Share.stairs_length]
    rfl
  · simp [hslots]
  · simp [hslots]

/-- **How even a distribution is.** A slot that takes more than it gets is behind no other slot by
more vehicles than there are uneven rounds, and of two such slots the later one gets no more than
the earlier one. There is one uneven round more at most than there are slots that get as many
vehicles as they take. And for every number of limited slots some distribution is as uneven as
that. -/
theorem distribute_evenness (total : Nat) (caps : List (Option Nat)) :
    (∀ p ∈ allotment total caps, ∀ q ∈ allotment total caps, Share.Below q.1 q.2 →
      p.2 ≤ q.2 + unevenRounds total caps) ∧
    (allotment total caps).Pairwise
      (fun p q => Share.Below p.1 p.2 → Share.Below q.1 q.2 → q.2 ≤ p.2) ∧
    unevenRounds total caps ≤
      (allotment total caps).countP (fun p => Share.Reached p.1 p.2) + 1 ∧
    ∀ n, ∃ total caps, caps.countP (·.isSome) = n ∧
      ∃ p ∈ allotment total caps, ∃ q ∈ allotment total caps,
        p.1 = none ∧ q.1 = none ∧ p.2 = q.2 + (n + 1) :=
  ⟨allotment_spread total caps, allotment_ordered total caps,
    unevenRounds_le_reached total caps, exists_piled_up⟩

/-- What the first round leaves of three slots goes to the first of the other two again, which has
got the one left over in that round already. -/
theorem distribute_evenness_two_rounds :
    allotment 7 [none, none, some 1] = [(none, 4), (none, 2), (some 1, 1)] ∧
      unevenRounds 7 [none, none, some 1] = 2 ∧
      (4 : Nat) ≤ 2 + unevenRounds 7 [none, none, some 1] := by
  have hslots : allotment 7 [none, none, some 1] = [(none, 4), (none, 2), (some 1, 1)] := by decide
  obtain ⟨hbehind, -⟩ := distribute_evenness 7 [none, none, some 1]
  refine ⟨hslots, by decide, hbehind (none, 4) ?_ (none, 2) ?_ fun _ h => (nomatch h)⟩
  · rw [hslots]
    decide
  · rw [hslots]
    decide

/-- Of five vehicles for a slot that takes one and two that take any number, the latter do not get
two each: the first of them gets both that are left over. -/
theorem distribute_leftovers_pile_up :
    allotment 5 [some 1, none, none] = [(some 1, 1), (none, 3), (none, 1)] ∧
      ¬ ∀ p ∈ allotment 5 [some 1, none, none], ∀ q ∈ allotment 5 [some 1, none, none],
        Share.Below q.1 q.2 → p.2 - 1 ≤ q.2 := by
  have hslots : allotment 5 [some 1, none, none] = [(some 1, 1), (none, 3), (none, 1)] := by decide
  refine ⟨hslots, fun h => ?_⟩
  rw [hslots] at h
  have hbehind : 3 - 1 ≤ 1 :=
    h (none, 3) (by decide) (none, 1) (by decide) fun _ hlimit => (nomatch hlimit)
  omega

end RoadTraffic
