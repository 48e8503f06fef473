import TelemetryAlerts.Proofs.Number.Decimal

/-!
# Rounding keeps the order

A larger quotient is never rounded to a smaller float. So there is one bound for the integers:
those below it are rounded to finite floats, the others to infinity.

**Results.**
* `magnitudeBits_mono`: rounding keeps the order.
* `magnitudeBits_lt_infinityBits_iff`: which integers are rounded to finite floats.
* `decimalBits_zero`: a decimal without an exponent is rounded as the integer that it is.
-/

namespace TelemetryAlerts
namespace Number

/-! ### Rounding to an integer -/

section

variable {n d n' d' : Nat}

theorem div_le_roundHalfEven
    (n d : Nat) :
    n / d ≤ roundHalfEven n d := by
  unfold roundHalfEven
  dsimp only
  split_ifs <;> omega

theorem roundHalfEven_le_div_add_one
    (n d : Nat) :
    roundHalfEven n d ≤ n / d + 1 := by
  unfold roundHalfEven
  dsimp only
  split_ifs <;> omega

theorem roundHalfEven_one
    (n : Nat) :
    roundHalfEven n 1 = n := by
  simp [roundHalfEven, Nat.mod_one]

/-- A larger quotient is not rounded to a smaller integer. -/
theorem roundHalfEven_mono
    (hd : 0 < d)
    (hd' : 0 < d')
    (h : n * d' ≤ n' * d) :
    roundHalfEven n d ≤ roundHalfEven n' d' := by
  have hn : d * (n / d) + n % d = n := Nat.div_add_mod n d
  have hn' : d' * (n' / d') + n' % d' = n' := Nat.div_add_mod n' d'
  have hfloor : n / d ≤ n' / d' := by
    refine (Nat.le_div_iff_mul_le hd').mpr (Nat.le_of_mul_le_mul_right ?_ hd)
    calc n / d * d' * d = d * (n / d) * d' := by ring
      _ ≤ n * d' := Nat.mul_le_mul_right d' (Nat.mul_div_le n d)
      _ ≤ n' * d := h
  rcases hfloor.lt_or_eq with hlt | heq
  · calc roundHalfEven n d ≤ n / d + 1 := roundHalfEven_le_div_add_one n d
      _ ≤ n' / d' := hlt
      _ ≤ roundHalfEven n' d' := div_le_roundHalfEven n' d'
  · -- with the same integer below, the fractions are in order
    have hrest : n % d * d' ≤ n' % d' * d := by
      rw [← hn, ← hn', heq] at h
      linarith
    have habove : d < 2 * (n % d) → d' < 2 * (n' % d') := fun hhalf =>
      Nat.lt_of_mul_lt_mul_right (a := d) (by nlinarith)
    have hhalf : d = 2 * (n % d) → d' ≤ 2 * (n' % d') := fun hhalf =>
      Nat.le_of_mul_le_mul_right (c := d) (by nlinarith) hd
    unfold roundHalfEven
    dsimp only
    rw [heq]
    split_ifs <;> omega

theorem roundHalfEven_le_of_quotient_le
    {k : Nat}
    (hd : 0 < d)
    (h : quotient n d ≤ k) :
    roundHalfEven n d ≤ k := by
  have hdq : (0 : ℚ) < d := by exact_mod_cast hd
  rw [quotient, div_le_iff₀ hdq] at h
  rw [← roundHalfEven_one k]
  refine roundHalfEven_mono hd one_pos ?_
  rw [mul_one]
  exact_mod_cast h

theorem le_roundHalfEven_of_le_quotient
    {k : Nat}
    (hd : 0 < d)
    (h : (k : ℚ) ≤ quotient n d) :
    k ≤ roundHalfEven n d := by
  have hdq : (0 : ℚ) < d := by exact_mod_cast hd
  rw [quotient, le_div_iff₀ hdq] at h
  rw [← roundHalfEven_one k]
  refine roundHalfEven_mono one_pos hd ?_
  rw [mul_one]
  exact_mod_cast h

/-! ### Rounding to a float -/

/-- The significand that rounding finds at an exponent. -/
def significandAt (n d : Nat) (e : Int) : Nat :=
  roundHalfEven (scaleBinary n d e).1 (scaleBinary n d e).2

theorem magnitudeBits_eq
    (hn : 0 < n) :
    magnitudeBits n d =
      min infinityBits ((exponentOf n d - minExponent).toNat * 2 ^ 52 +
        significandAt n d (exponentOf n d)) := by
  rw [magnitudeBits, if_neg hn.ne']
  rfl

theorem magnitudeBits_le_infinityBits
    (n d : Nat) :
    magnitudeBits n d ≤ infinityBits := by
  rcases Nat.eq_zero_or_pos n with rfl | hn
  · simp [magnitudeBits]
  · rw [magnitudeBits_eq hn]
    exact min_le_left _ _

theorem minExponent_le_exponentOf
    (n d : Nat) :
    minExponent ≤ exponentOf n d :=
  le_max_left _ _

/-- At its exponent, a quotient is rounded to 53 bits at most. -/
theorem significandAt_le
    (hn : 0 < n)
    (hd : 0 < d) :
    significandAt n d (exponentOf n d) ≤ 2 ^ 53 := by
  refine roundHalfEven_le_of_quotient_le (scaleBinary_den_pos n hd _) ?_
  have hlog := Int.lt_zpow_succ_log_self (b := 2) (by decide) (quotient n d)
  have hexponent : Int.log 2 (quotient n d) + 1 ≤ 53 + exponentOf n d := by
    rw [exponentOf_eq_log hn hd]
    omega
  rw [quotient_scaleBinary, div_le_iff₀ (by positivity)]
  push_cast at hlog ⊢
  calc quotient n d ≤ 2 ^ (Int.log 2 (quotient n d) + 1) := hlog.le
    _ ≤ 2 ^ (53 + exponentOf n d) := zpow_le_zpow_right₀ (by norm_num) hexponent
    _ = 2 ^ 53 * 2 ^ exponentOf n d := by
        rw [zpow_add₀ (by norm_num)]
        norm_num

/-- Above the least exponent, the significand has 53 bits. -/
theorem le_significandAt
    (hn : 0 < n)
    (hd : 0 < d)
    (hleast : minExponent < exponentOf n d) :
    2 ^ 52 ≤ significandAt n d (exponentOf n d) := by
  refine le_roundHalfEven_of_le_quotient (scaleBinary_den_pos n hd _) ?_
  have hlog := Int.zpow_log_le_self (b := 2) (by decide) (quotient_pos hn hd)
  have hexponent : 52 + exponentOf n d = Int.log 2 (quotient n d) := by
    rw [exponentOf_eq_log hn hd] at hleast ⊢
    omega
  rw [quotient_scaleBinary, le_div_iff₀ (by positivity)]
  push_cast at hlog ⊢
  calc (2 : ℚ) ^ 52 * 2 ^ exponentOf n d = 2 ^ (52 + exponentOf n d) := by
        rw [zpow_add₀ (by norm_num)]
        norm_num
    _ ≤ quotient n d := by rw [hexponent]; exact hlog

/-- A larger quotient is not rounded to a smaller float. -/
theorem magnitudeBits_mono
    (hd : 0 < d)
    (hd' : 0 < d')
    (h : quotient n d ≤ quotient n' d') :
    magnitudeBits n d ≤ magnitudeBits n' d' := by
  rcases Nat.eq_zero_or_pos n with rfl | hn
  · simp [magnitudeBits]
  have hn' : 0 < n' := by
    rcases Nat.eq_zero_or_pos n' with rfl | hn'
    · have hpos := quotient_pos hn hd
      simp only [quotient, Nat.cast_zero, zero_div] at h hpos
      linarith
    · exact hn'
  rw [magnitudeBits_eq hn, magnitudeBits_eq hn']
  refine min_le_min_left _ ?_
  have hexponents : exponentOf n d ≤ exponentOf n' d' := by
    rw [exponentOf_eq_log hn hd, exponentOf_eq_log hn' hd']
    have hlog := Int.log_mono_right (b := 2) (quotient_pos hn hd) h
    omega
  rcases hexponents.lt_or_eq with hlt | heq
  · -- the significand runs out before the exponent goes up
    have hleast := minExponent_le_exponentOf n d
    have hlow := significandAt_le hn hd
    have hhigh := le_significandAt hn' hd' (hleast.trans_lt hlt)
    have hsteps : (exponentOf n d - minExponent).toNat + 1 ≤
        (exponentOf n' d' - minExponent).toNat := by
      omega
    nlinarith
  · rw [heq]
    refine Nat.add_le_add_left ?_ _
    have hden := scaleBinary_den_pos n hd (exponentOf n' d')
    have hden' := scaleBinary_den_pos n' hd' (exponentOf n' d')
    have hscaled : quotient (scaleBinary n d (exponentOf n' d')).1
          (scaleBinary n d (exponentOf n' d')).2 ≤
        quotient (scaleBinary n' d' (exponentOf n' d')).1
          (scaleBinary n' d' (exponentOf n' d')).2 := by
      rw [quotient_scaleBinary, quotient_scaleBinary]
      gcongr
    refine roundHalfEven_mono hden hden' ?_
    rw [quotient, quotient, div_le_div_iff₀ (by exact_mod_cast hden) (by exact_mod_cast hden')]
      at hscaled
    exact_mod_cast hscaled

end

/-! ### Integers -/

/-- Half a step above the greatest finite float: the integers from here on are rounded to
infinity. -/
def integerBound : Nat :=
  2 ^ 1024 - 2 ^ 970

theorem magnitudeBits_mono_int
    {m n : Nat}
    (h : m ≤ n) :
    magnitudeBits m 1 ≤ magnitudeBits n 1 := by
  refine magnitudeBits_mono one_pos one_pos ?_
  simpa [quotient] using h

/-- Just the integers below the bound are rounded to finite floats. -/
theorem magnitudeBits_lt_infinityBits_iff
    (n : Nat) :
    magnitudeBits n 1 < infinityBits ↔ n < integerBound := by
  constructor
  · intro hlt
    by_contra hge
    have hbound : infinityBits = magnitudeBits integerBound 1 := by decide +kernel
    have hle := magnitudeBits_mono_int (not_lt.mp hge)
    omega
  · intro hlt
    have hbound : magnitudeBits (integerBound - 1) 1 < infinityBits := by decide +kernel
    exact (magnitudeBits_mono_int (Nat.le_sub_one_of_lt hlt)).trans_lt hbound

theorem magnitudeBits_of_integerBound_le
    {n : Nat}
    (h : integerBound ≤ n) :
    magnitudeBits n 1 = infinityBits := by
  refine le_antisymm (magnitudeBits_le_infinityBits n 1) (not_lt.mp fun hlt => ?_)
  exact absurd ((magnitudeBits_lt_infinityBits_iff n).mp hlt) (not_lt.mpr h)

/-- A decimal without an exponent is rounded as the integer that it is. -/
theorem decimalBits_zero
    (n : Nat) :
    decimalBits n 0 = magnitudeBits n 1 := by
  rcases Nat.eq_zero_or_pos n with rfl | hn
  · rfl
  have hlow : ¬ (n = 0 ∨ (digitCount n : Int) + 0 < -330) := by omega
  simp only [decimalBits, if_neg hlow]
  split_ifs with hlong
  · -- too many digits to be below the bound
    have hcount : 310 ≤ digitCount n - 1 := by omega
    have hbound : integerBound ≤ 10 ^ 310 := by decide +kernel
    have hpower : 10 ^ 310 ≤ 10 ^ (digitCount n - 1) :=
      pow_le_pow_right₀ (by decide) hcount
    exact (magnitudeBits_of_integerBound_le
      (hbound.trans (hpower.trans (digitCount_bounds hn).1))).symm
  · simp [decimalRatio]

theorem ofInt?_eq
    (n : Int) :
    ofInt? n =
      if n.natAbs < integerBound then some (ofMagnitude (n < 0) (magnitudeBits n.natAbs 1))
      else none := by
  simp only [ofInt?, magnitudeBits_lt_infinityBits_iff]

end Number
end TelemetryAlerts
