import RoadTraffic.Interval

/-!
# Tapes of random words

A tape is a source of randomness that is nothing but the words to come, so that a statement about
all tapes is one about all streams. Which tape belongs to a seed is a parameter.

Two facts about draws are proved here. A draw looks at no more than a beginning of the tape
(`Reads`), so that behind it the tape may be continued at will. And a draw by rejection leaves
nothing out: for every number of its range there is a tape that gives it (`exists_between`).
-/

namespace RoadTraffic

/-- The words to come, where `seeds` tells which ones a seed gives. -/
def Tape (_seeds : UInt64 → Nat → UInt32) : Type := Nat → UInt32

namespace Tape

variable {seeds : UInt64 → Nat → UInt32} {β γ : Type}

instance : RandomSource (Tape seeds) where
  seeded := seeds
  word t := (t 0, fun i => t (i + 1))

/-- The tape behind its first words. -/
def drop (n : Nat) (t : Tape seeds) : Tape seeds := fun i => t (n + i)

/-- The first words of one tape, and another one behind them. -/
def splice (n : Nat) (t t' : Tape seeds) : Tape seeds := fun i => if i < n then t i else t' (i - n)

theorem drop_splice {n : Nat} {t t' : Tape seeds} : (splice n t t').drop n = t' := by
  funext i
  unfold drop splice
  rw [if_neg (by omega), Nat.add_sub_cancel_left]

/-! ## Draws look at a beginning of the tape -/

/-- On tapes with the same beginning a draw gives the same and leaves what is behind it. -/
def Reads (draw : Tape seeds → β × Tape seeds) : Prop :=
  ∀ t, ∃ n, ∀ t', (∀ i < n, t' i = t i) → draw t' = ((draw t).1, t'.drop n)

theorem reads_pure {b : β} : Reads (fun t : Tape seeds => (b, t)) := by
  intro t
  refine ⟨0, fun t' _ => ?_⟩
  have hdrop : t'.drop 0 = t' := funext fun i => congrArg t' (Nat.zero_add i)
  rw [hdrop]

theorem reads_word : Reads (RandomSource.word : Tape seeds → UInt32 × Tape seeds) := by
  intro t
  refine ⟨1, fun t' hagree => ?_⟩
  have hdrop : t'.drop 1 = fun i => t' (i + 1) := funext fun i => congrArg t' (Nat.add_comm 1 i)
  show (t' 0, _) = (t 0, _)
  rw [hagree 0 (by omega), hdrop]

/-- One draw after the other is a draw. -/
theorem reads_bind {draw : Tape seeds → β × Tape seeds} {next : β → Tape seeds → γ × Tape seeds}
    (hdraw : Reads draw) (hnext : ∀ b, Reads (next b)) :
    Reads (fun t => let (b, t) := draw t; next b t) := by
  intro t
  show ∃ n, ∀ t', (∀ i < n, t' i = t i) →
    next (draw t').1 (draw t').2 = ((next (draw t).1 (draw t).2).1, t'.drop n)
  obtain ⟨n, hn⟩ := hdraw t
  have hself := hn t fun _ _ => rfl
  -- the second draw reads on where the first one has stopped
  obtain ⟨k, hk⟩ := hnext (draw t).1 (t.drop n)
  refine ⟨n + k, fun t' hagree => ?_⟩
  have hfirst := hn t' fun i hi => hagree i (by omega)
  have hrest := hk (t'.drop n) fun i hi => hagree (n + i) (by omega)
  have hdrop : (t'.drop n).drop k = t'.drop (n + k) :=
    funext fun i => congrArg t' (Nat.add_assoc n k i).symm
  have hdrawn : (draw t).2 = t.drop n := (Prod.mk.inj hself).2
  rw [hfirst, hdrawn]
  dsimp only
  rw [hrest, hdrop]

theorem reads_map {draw : Tape seeds → β × Tape seeds} (hdraw : Reads draw) (f : β → γ) :
    Reads (fun t => let (b, t) := draw t; (f b, t)) :=
  reads_bind hdraw fun b => reads_pure (b := f b)

theorem reads_longWord :
    Reads (RandomSource.longWord : Tape seeds → UInt64 × Tape seeds) :=
  reads_bind reads_word fun low =>
    reads_map reads_word fun high => (high.toUInt64 <<< 32) ||| low.toUInt64

theorem reads_retry {fallback : β} {attempt : Tape seeds → Option β × Tape seeds}
    (hattempt : Reads attempt) (n : Nat) : Reads (RandomSource.retry fallback attempt n) := by
  induction n with
  | zero => exact reads_pure
  | succ n ih =>
    -- an attempt is one draw, and the attempts that are left are the next one
    let goOn : Option β → Tape seeds → β × Tape seeds
      | some b, t => (b, t)
      | none, t => RandomSource.retry fallback attempt n t
    have hstep : RandomSource.retry fallback attempt (n + 1) =
        fun t => let (found, t) := attempt t; goOn found t := by
      funext t
      rw [RandomSource.retry]
      rcases attempt t with ⟨_ | b, rest⟩
      · rfl
      · rfl
    have hgoOn : ∀ found, Reads (goOn found) := by
      intro found
      cases found with
      | none => exact ih
      | some b => exact reads_pure
    rw [hstep]
    exact reads_bind hattempt hgoOn

theorem reads_scaledLong {range zone : Nat} :
    Reads (RandomSource.scaledLong range zone : Tape seeds → Nat × Tape seeds) :=
  reads_retry (reads_map reads_longWord fun w => RandomSource.highHalf 64 range zone w.toNat) _

theorem reads_between {low high : Nat} :
    Reads (RandomSource.between low high : Tape seeds → Nat × Tape seeds) := by
  unfold RandomSource.between
  dsimp only
  by_cases hrange : high - low + 1 = Nat.pow 2 64
  · simp only [if_pos hrange]
    exact reads_map reads_longWord UInt64.toNat
  · simp only [if_neg hrange]
    exact reads_map reads_scaledLong (low + ·)

theorem reads_intervalDraw {i : Interval Nat} :
    Reads (i.draw : Tape seeds → Nat × Tape seeds) := by
  unfold Interval.draw
  by_cases hrange : i.min < i.max
  · simp only [if_pos hrange]
    exact reads_between
  · simp only [if_neg hrange]
    exact reads_pure

/-! ## Every number can be drawn -/

/-- The two halves of a word, the low one first, are read as the word. -/
theorem longWord_halves (w : UInt64) :
    ((w >>> 32).toUInt32.toUInt64 <<< 32) ||| w.toUInt32.toUInt64 = w := by
  have hw : w.toNat < 2 ^ 64 := w.toNat_lt
  have hhigh : (w >>> 32).toUInt32.toUInt64.toNat = w.toNat / 2 ^ 32 := by
    rw [UInt32.toNat_toUInt64, UInt64.toNat_toUInt32, UInt64.toNat_shiftRight]
    show (w.toNat >>> 32) % 2 ^ 32 = _
    rw [Nat.shiftRight_eq_div_pow]
    omega
  have hlow : w.toUInt32.toUInt64.toNat = w.toNat % 2 ^ 32 := by
    rw [UInt32.toNat_toUInt64, UInt64.toNat_toUInt32]
  apply UInt64.toNat_inj.mp
  rw [UInt64.toNat_or, UInt64.toNat_shiftLeft, hhigh, hlow]
  show ((w.toNat / 2 ^ 32) <<< 32 % 2 ^ 64) ||| _ = _
  -- the halves have no bit in common, so that joining them is adding them
  have hlt : (w.toNat / 2 ^ 32) <<< 32 < 2 ^ 64 := by
    rw [Nat.shiftLeft_eq]
    omega
  rw [Nat.mod_eq_of_lt hlt, ← Nat.shiftLeft_add_eq_or_of_lt (Nat.mod_lt _ (by decide)),
    Nat.shiftLeft_eq]
  omega

/-- Every word can be the next one. -/
theorem exists_longWord (w : UInt64) :
    ∃ t : Tape seeds, (RandomSource.longWord t).1 = w := by
  refine ⟨fun i => if i = 0 then w.toUInt32 else (w >>> 32).toUInt32, ?_⟩
  exact longWord_halves w

/-- The word that a number below `range` is drawn by: the first one whose product with `range`
reaches the number in its high part. What the product has beyond that is less than `range`. -/
theorem exists_word {size range i : Nat} (hi : i < range) (hrange : range < size) :
    ∃ w < size, w * range / size = i ∧ w * range % size < range := by
  have hpos : 0 < range := by omega
  generalize hw : (i * size + (range - 1)) / range = w
  have hlower : w * range ≤ i * size + (range - 1) := by
    rw [← hw]
    exact Nat.div_mul_le_self _ _
  have hupper : i * size ≤ w * range := by
    have hstep := Nat.lt_div_mul_add hpos (a := i * size + (range - 1))
    rw [hw] at hstep
    omega
  -- rounding up costs less than one `range`, which is what is left in the low part
  obtain ⟨rest, hrest⟩ := Nat.exists_eq_add_of_le hupper
  have hsmall : rest < range := by omega
  have hlimit : w * range < size * range := by
    have hnext : (i + 1) * size ≤ range * size := Nat.mul_le_mul_right _ hi
    rw [Nat.succ_mul, Nat.mul_comm range] at hnext
    omega
  refine ⟨w, Nat.lt_of_mul_lt_mul_right hlimit, ?_, ?_⟩
  · rw [hrest, Nat.mul_comm i, Nat.mul_add_div (by omega), Nat.div_eq_of_lt (by omega),
      Nat.add_zero]
  · rw [hrest, Nat.mul_comm i, Nat.mul_add_mod, Nat.mod_eq_of_lt (by omega)]
    exact hsmall

/-- Every number of a range can be drawn. -/
theorem exists_between {i n : Nat} (hi : i ≤ n) (hn : n + 1 < Nat.pow 2 64) :
    ∃ t : Tape seeds, (RandomSource.between 0 n t).1 = i := by
  obtain ⟨w, hw, hquotient, hrest⟩ := exists_word (show i < n + 1 by omega) hn
  obtain ⟨t, ht⟩ := exists_longWord (UInt64.ofNat w)
  refine ⟨t, ?_⟩
  generalize hzone : (n + 1) * Nat.pow 2 (63 - (n + 1).log2) = zone
  have hfits : n + 1 ≤ zone := by
    rw [← hzone]
    exact Nat.le_mul_of_pos_right _ (Nat.two_pow_pos _)
  have hword : (RandomSource.longWord t).1.toNat = w := by
    rw [ht, UInt64.toNat_ofNat_of_lt' hw]
  -- the low part is below the range and so in the zone: the first attempt is accepted
  have haccepted : RandomSource.highHalf 64 (n + 1) (zone - 1)
      (RandomSource.longWord t).1.toNat = some i := by
    unfold RandomSource.highHalf
    dsimp only
    rw [hword, if_pos (by omega), hquotient]
  have hdrawn : (RandomSource.scaledLong (n + 1) (zone - 1) t).1 = i := by
    show (RandomSource.retry 0 _ (1023 + 1) t).1 = i
    rw [RandomSource.retry]
    dsimp only
    rw [haccepted]
  unfold RandomSource.between
  dsimp only
  rw [Nat.sub_zero, if_neg (by omega), hzone]
  show 0 + _ = i
  rw [hdrawn, Nat.zero_add]

end Tape

end RoadTraffic
