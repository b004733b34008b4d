import SignOn.Time.Basic

/-!
# Whole seconds of a span

A quotient that is rounded to floating point is off by half a unit in its last place at most. While
the unit is less than two parts of the divisor, no whole number lies between the quotient and what
it is rounded to, so that both have the same whole numbers below and above them
(`Approximates.le_floor_iff`, `Approximates.ceil_le_iff`). It is so for spans of microseconds of less
than 2³³ seconds, whose whole seconds are exact (`Time.wholeSeconds_eq`).
-/

namespace SignOn

-- ---------------------------------------------------------------------------
-- Rounded quotients
-- ---------------------------------------------------------------------------

namespace Rounding

theorem roundHalfEven_near (n : Nat) {d : Nat} (hd : 0 < d) :
    2 * n ≤ 2 * (d * roundHalfEven n d) + d ∧ 2 * (d * roundHalfEven n d) ≤ 2 * n + d := by
  have hsplit := Nat.div_add_mod n d
  have hrest := Nat.mod_lt n hd
  have hnext : d * (n / d + 1) = d * (n / d) + d := Nat.mul_succ ..
  unfold roundHalfEven
  simp only
  split
  · omega
  · split
    · omega
    · split <;> omega

/-- `x` is `n / d` up to half a unit in its last place, which is less than one part of the
divisor. -/
structure Approximates (x : BinaryFraction) (n d : Nat) : Prop where
  pos : 0 < d
  fine : d < 2 <<< x.log2Den
  lower : 2 * n <<< x.log2Den ≤ 2 * (d * x.num) + d
  upper : 2 * (d * x.num) ≤ 2 * n <<< x.log2Den + d

variable {x : BinaryFraction} {n d : Nat}

theorem nearestDouble_approximates (hd : 0 < d) (hn : n ≠ 0) (hsmall : n < d <<< 53)
    (hfine : d < 2 <<< doublings n d) : Approximates (nearestDouble n d) n d := by
  obtain ⟨hlower, hupper⟩ := roundHalfEven_near (n <<< doublings n d) hd
  unfold nearestDouble
  simp only [hn, hsmall, ↓reduceIte]
  generalize doublings n d = up at *
  exact ⟨hd, hfine, hlower, hupper⟩

/-- Nothing is rounded up to a whole number, or from one down. -/
theorem Approximates.le_num_iff (h : Approximates x n d) (q : Nat) :
    q <<< x.log2Den ≤ x.num ↔ d * q ≤ n := by
  obtain ⟨hpos, hfine, hlower, hupper⟩ := h
  rw [Nat.shiftLeft_eq] at *
  generalize 2 ^ x.log2Den = unit at *
  constructor
  · intro hq
    refine Nat.le_of_not_lt fun hn => ?_
    have hnum : d * (q * unit) ≤ d * x.num := Nat.mul_le_mul_left d hq
    have hrest : (n + 1) * unit ≤ d * q * unit := Nat.mul_le_mul_right unit hn
    rw [← Nat.mul_assoc] at hnum
    rw [Nat.succ_mul] at hrest
    omega
  · intro hq
    refine Nat.le_of_not_lt fun hn => ?_
    have hnum : d * (x.num + 1) ≤ d * (q * unit) := Nat.mul_le_mul_left d hn
    have hrest : d * q * unit ≤ n * unit := Nat.mul_le_mul_right unit hq
    rw [Nat.mul_succ, ← Nat.mul_assoc] at hnum
    omega

theorem Approximates.num_le_iff (h : Approximates x n d) (q : Nat) :
    x.num ≤ q <<< x.log2Den ↔ n ≤ d * q := by
  obtain ⟨hpos, hfine, hlower, hupper⟩ := h
  rw [Nat.shiftLeft_eq] at *
  generalize 2 ^ x.log2Den = unit at *
  constructor
  · intro hq
    refine Nat.le_of_not_lt fun hn => ?_
    have hnum : d * x.num ≤ d * (q * unit) := Nat.mul_le_mul_left d hq
    have hrest : (d * q + 1) * unit ≤ n * unit := Nat.mul_le_mul_right unit hn
    rw [← Nat.mul_assoc] at hnum
    rw [Nat.succ_mul] at hrest
    omega
  · intro hq
    refine Nat.le_of_not_lt fun hn => ?_
    have hnum : d * (q * unit + 1) ≤ d * x.num := Nat.mul_le_mul_left d hn
    have hrest : n * unit ≤ d * q * unit := Nat.mul_le_mul_right unit hq
    rw [Nat.mul_succ, ← Nat.mul_assoc] at hnum
    omega

theorem Approximates.le_floor_iff (h : Approximates x n d) (q : Nat) : q ≤ x.floor ↔ d * q ≤ n := by
  rw [BinaryFraction.floor, Nat.shiftRight_eq_div_pow, Nat.le_div_iff_mul_le (Nat.two_pow_pos _),
    ← Nat.shiftLeft_eq, h.le_num_iff]

theorem Approximates.ceil_le_iff (h : Approximates x n d) (q : Nat) : x.ceil ≤ q ↔ n ≤ d * q := by
  have hpos : 0 < 2 ^ x.log2Den := Nat.two_pow_pos _
  rw [BinaryFraction.ceil, Nat.shiftRight_eq_div_pow, Nat.one_shiftLeft, ← Nat.lt_succ_iff,
    Nat.div_lt_iff_lt_mul hpos, ← h.num_le_iff, Nat.shiftLeft_eq, Nat.succ_mul]
  omega

end Rounding

-- ---------------------------------------------------------------------------
-- Spans of time
-- ---------------------------------------------------------------------------

namespace Time

/-- Less than 2³³ seconds in either direction. -/
def IsShort (micros : Int) : Prop :=
  micros.natAbs < microsPerSecond <<< 33

instance (micros : Int) : Decidable (IsShort micros) :=
  inferInstanceAs (Decidable (_ < _))

theorem seconds_approximates {micros : Int} (h : IsShort micros) (hne : micros ≠ 0) :
    Rounding.Approximates (seconds micros) micros.natAbs microsPerSecond := by
  have hn : micros.natAbs ≠ 0 := Int.natAbs_ne_zero.mpr hne
  have hshort : micros.natAbs < 2 ^ 53 := Nat.lt_trans h (by decide)
  have hlog : micros.natAbs.log2 < 53 := (Nat.log2_lt hn).mpr hshort
  have hden : microsPerSecond.log2 = 19 := by decide +kernel
  have hdoublings : 19 ≤ Rounding.doublings micros.natAbs microsPerSecond := by
    unfold Rounding.doublings
    rw [hden]
    simp only
    split <;> omega
  refine Rounding.nearestDouble_approximates (by decide) hn (Nat.lt_trans hshort (by decide)) ?_
  have hunit : 2 ^ 19 ≤ 2 ^ Rounding.doublings micros.natAbs microsPerSecond :=
    Nat.pow_le_pow_right (by decide) hdoublings
  have hfine : microsPerSecond < 2 * 2 ^ 19 := by decide
  omega

theorem wholeSeconds_eq {micros : Int} (h : IsShort micros) :
    wholeSeconds micros = micros / microsPerSecond := by
  by_cases hne : micros = 0
  · subst hne
    rfl
  · have ha := seconds_approximates h hne
    unfold wholeSeconds
    split
    · have hle := (ha.ceil_le_iff _).mp (Nat.le_refl _)
      have hge := (ha.ceil_le_iff ((micros.natAbs + 999999) / 1000000)).mpr
        (by unfold microsPerSecond; omega)
      unfold microsPerSecond at *
      omega
    · have hle := (ha.le_floor_iff _).mp (Nat.le_refl _)
      have hge := (ha.le_floor_iff (micros.natAbs / 1000000)).mpr
        (by unfold microsPerSecond; omega)
      unfold microsPerSecond at *
      omega

end Time

end SignOn
