import TelemetryAlerts.Number.Decimal
import TelemetryAlerts.Proofs.Number.Rounding
import TelemetryAlerts.Proofs.Text.Digits

/-!
# Decimals read back as the float that they stand for

A decimal is rounded to a float by its value alone, so that it may be written with more
or fewer zeros at its end. The shortest decimal of a float is rounded to that float:
either the search has found it as such, or it is the exact expansion.

**Results.**
* `decimalBits_congr`: decimals of one value are rounded to one float.
* `toFloat_shortest`: the shortest decimal of a float reads back as that float.
-/

namespace TelemetryAlerts
namespace Number

/-- The value of `digits · 10 ^ exponent`. -/
def decimalValue (digits : Nat) (exponent : Int) : ℚ :=
  digits * (10 : ℚ) ^ exponent

theorem quotient_decimalRatio
    (digits : Nat) (exponent : Int) :
    quotient (decimalRatio digits exponent).1 (decimalRatio digits exponent).2 =
      decimalValue digits exponent := by
  unfold decimalRatio decimalValue quotient
  split
  · next he =>
      obtain ⟨k, rfl⟩ := Int.eq_ofNat_of_zero_le he
      simp
  · next he =>
      obtain ⟨k, hk⟩ := Int.eq_ofNat_of_zero_le (a := -exponent) (by omega)
      have he' : exponent = -(k : Int) := by omega
      simp [he', div_eq_mul_inv]

theorem decimalRatio_den_pos
    (digits : Nat) (exponent : Int) :
    0 < (decimalRatio digits exponent).2 := by
  unfold decimalRatio
  split <;> positivity

theorem decimalValue_pos
    {digits : Nat}
    (hdigits : 0 < digits)
    (exponent : Int) :
    0 < decimalValue digits exponent := by
  unfold decimalValue
  positivity

theorem decimalValue_eq_zero_iff
    (digits : Nat) (exponent : Int) :
    decimalValue digits exponent = 0 ↔ digits = 0 := by
  have hpow : (10 : ℚ) ^ exponent ≠ 0 := by positivity
  simp [decimalValue, hpow]

/-- Zeros after the digits raise the exponent. -/
theorem decimalValue_mul_pow
    (digits k : Nat) (exponent : Int) :
    decimalValue (digits * 10 ^ k) exponent = decimalValue digits (k + exponent) := by
  have hten : (10 : ℚ) ≠ 0 := by norm_num
  unfold decimalValue
  push_cast
  rw [mul_assoc, ← zpow_natCast, ← zpow_add₀ hten]

/-- A number lies between the powers of ten that its digit count names. -/
theorem digitCount_bounds
    {n : Nat}
    (hn : 0 < n) :
    10 ^ (digitCount n - 1) ≤ n ∧ n < 10 ^ digitCount n := by
  have hne : n ≠ 0 := by omega
  have hlen : 0 < (Nat.toDigits 10 n).length := Nat.length_toDigits_pos
  simp only [digitCount, if_neg hne]
  constructor
  · rcases Nat.lt_or_ge 1 (Nat.toDigits 10 n).length with hlong | hshort
    · have hnot : ¬ (Nat.toDigits 10 n).length ≤ (Nat.toDigits 10 n).length - 1 := by omega
      rw [Nat.length_toDigits_le_iff (by decide) (by omega)] at hnot
      omega
    · have hone : (Nat.toDigits 10 n).length - 1 = 0 := by omega
      rw [hone]
      omega
  · exact (Nat.length_toDigits_le_iff (by decide) hlen).mp le_rfl

/-- The digit count and the exponent add up to the decimal logarithm of the value. -/
theorem digitCount_add_eq_log
    {digits : Nat}
    (hdigits : 0 < digits)
    (exponent : Int) :
    (digitCount digits : Int) + exponent = Int.log 10 (decimalValue digits exponent) + 1 := by
  obtain ⟨hlow, hhigh⟩ := digitCount_bounds hdigits
  have hcount : 0 < digitCount digits := by
    rcases Nat.eq_zero_or_pos (digitCount digits) with h | h
    · rw [h] at hhigh
      omega
    · exact h
  have hq := decimalValue_pos hdigits exponent
  have hten : (10 : ℚ) ≠ 0 := by norm_num
  have hlow' : (10 : ℚ) ^ ((digitCount digits : Int) - 1) ≤ digits := by
    have h : ((digitCount digits : Int) - 1) = ((digitCount digits - 1 : Nat) : Int) := by omega
    rw [h, zpow_natCast]
    exact_mod_cast hlow
  have hhigh' : (digits : ℚ) < 10 ^ (digitCount digits : Int) := by
    rw [zpow_natCast]
    exact_mod_cast hhigh
  have h₁ : (digitCount digits : Int) - 1 + exponent ≤
      Int.log 10 (decimalValue digits exponent) := by
    refine (Int.zpow_le_iff_le_log (by decide) hq).mp ?_
    push_cast
    rw [zpow_add₀ hten, decimalValue]
    gcongr
  have h₂ : Int.log 10 (decimalValue digits exponent) <
      (digitCount digits : Int) + exponent := by
    refine (Int.lt_zpow_iff_log_lt (by decide) hq).mp ?_
    push_cast
    rw [zpow_add₀ hten, decimalValue]
    gcongr
  omega

/-- Decimals of one value are rounded to one float. -/
theorem decimalBits_congr
    {m m' : Nat} {e e' : Int}
    (h : decimalValue m e = decimalValue m' e') :
    decimalBits m e = decimalBits m' e' := by
  rcases Nat.eq_zero_or_pos m with rfl | hm
  · have hm' : m' = 0 := by
      rw [← decimalValue_eq_zero_iff m' e', ← h, decimalValue_eq_zero_iff]
    simp [decimalBits, hm']
  · have hm' : 0 < m' := by
      rcases Nat.eq_zero_or_pos m' with rfl | hm'
      · have := decimalValue_pos hm e
        rw [h] at this
        simp [decimalValue] at this
      · exact hm'
    have htop : (digitCount m : Int) + e = (digitCount m' : Int) + e' := by
      rw [digitCount_add_eq_log hm, digitCount_add_eq_log hm', h]
    have hbits :
        magnitudeBits (decimalRatio m e).1 (decimalRatio m e).2 =
          magnitudeBits (decimalRatio m' e').1 (decimalRatio m' e').2 := by
      refine magnitudeBits_congr (decimalRatio_den_pos m e) (decimalRatio_den_pos m' e') ?_
      rw [← quotient_eq_iff (decimalRatio_den_pos m e) (decimalRatio_den_pos m' e'),
        quotient_decimalRatio, quotient_decimalRatio, h]
    have hne : m ≠ 0 := by omega
    have hne' : m' ≠ 0 := by omega
    simp only [decimalBits, htop, hbits, hne, hne', false_or]

/-! ### The shortest decimal -/

/-- The value of a finite float is within the range in which decimals are rounded. -/
theorem Parts.value_bounds
    {p : Parts}
    (hp : p.Canonical)
    (hsig : 0 < p.significand) :
    (10 : ℚ) ^ (-331 : Int) ≤ p.significand * (2 : ℚ) ^ p.exponent ∧
      p.significand * (2 : ℚ) ^ p.exponent < 10 ^ (310 : Int) := by
  have hone : (1 : ℚ) ≤ p.significand := by exact_mod_cast hsig
  have hlt : (p.significand : ℚ) < 2 ^ 53 := by exact_mod_cast hp.significand_lt
  have hmin : (2 : ℚ) ^ (-1074 : Int) ≤ 2 ^ p.exponent :=
    zpow_le_zpow_right₀ (by norm_num) hp.le_exponent
  have hmax : (2 : ℚ) ^ p.exponent ≤ 2 ^ (971 : Int) :=
    zpow_le_zpow_right₀ (by norm_num) hp.exponent_le
  have hsmall : (2 : ℚ) ^ 1074 ≤ 10 ^ 331 := by
    have h : 2 ^ 1074 ≤ 10 ^ 331 := by decide +kernel
    exact_mod_cast h
  have hlarge : (2 : ℚ) ^ 53 * 2 ^ 971 < 10 ^ 310 := by
    have h : 2 ^ 53 * 2 ^ 971 < 10 ^ 310 := by decide +kernel
    exact_mod_cast h
  constructor
  · calc (10 : ℚ) ^ (-331 : Int) ≤ 2 ^ (-1074 : Int) := by
          simp only [zpow_neg, zpow_ofNat]
          gcongr
      _ ≤ 2 ^ p.exponent := hmin
      _ = 1 * 2 ^ p.exponent := by rw [one_mul]
      _ ≤ p.significand * 2 ^ p.exponent := by gcongr
  · calc (p.significand : ℚ) * 2 ^ p.exponent
        ≤ p.significand * 2 ^ (971 : Int) := by gcongr
      _ < 2 ^ 53 * 2 ^ (971 : Int) := by gcongr
      _ < 10 ^ (310 : Int) := by simpa only [zpow_ofNat] using hlarge

/-- A decimal that has the value of a float is rounded to the float's bits. -/
theorem decimalBits_of_value
    {p : Parts} {m : Nat} {e : Int}
    (hp : p.Canonical)
    (hsig : 0 < p.significand)
    (h : decimalValue m e = p.significand * (2 : ℚ) ^ p.exponent) :
    decimalBits m e = magnitudeBits p.ratio.1 p.ratio.2 := by
  obtain ⟨hlow, hhigh⟩ := Parts.value_bounds hp hsig
  have hq : 0 < decimalValue m e := by
    rw [h]
    positivity
  have hm : 0 < m := by
    rcases Nat.eq_zero_or_pos m with rfl | hm
    · simp [decimalValue] at hq
    · exact hm
  have htop := digitCount_add_eq_log hm e
  have h₁ : -331 ≤ Int.log 10 (decimalValue m e) :=
    (Int.zpow_le_iff_le_log (by decide) hq).mp (by rw [h]; exact_mod_cast hlow)
  have h₂ : Int.log 10 (decimalValue m e) < 310 :=
    (Int.lt_zpow_iff_log_lt (by decide) hq).mp (by rw [h]; exact_mod_cast hhigh)
  have hnotlow : ¬ (m = 0 ∨ (digitCount m : Int) + e < -330) := by omega
  have hnothigh : ¬ 310 < (digitCount m : Int) + e := by omega
  simp only [decimalBits, if_neg hnotlow, if_neg hnothigh]
  refine magnitudeBits_congr (decimalRatio_den_pos m e) p.ratio_den_pos ?_
  rw [← quotient_eq_iff (decimalRatio_den_pos m e) p.ratio_den_pos, quotient_decimalRatio,
    Parts.quotient_ratio, h]

/-- What the search finds reads back as the bits that it was given. -/
theorem decimalBits_searchGrids
    {bits num den : Nat} {top : Int} {m : Nat} {e : Int} :
    ∀ {fuel count : Nat},
      searchGrids bits num den top fuel count = some (m, e) →
      decimalBits m e = bits
  | 0, _, h => by
      simp [searchGrids] at h
  | fuel + 1, count, h => by
      simp only [searchGrids] at h
      split at h
      · next k hfound =>
          simp only [Option.some.injEq, Prod.mk.injEq] at h
          obtain ⟨rfl, rfl⟩ := h
          simpa using List.find?_some hfound
      · next hnone =>
          exact decimalBits_searchGrids h

/-- The exact expansion of a float has its value. -/
theorem exactDecimal_value
    (p : Parts) :
    decimalValue (exactDecimal p).1 (exactDecimal p).2 =
      p.significand * (2 : ℚ) ^ p.exponent := by
  unfold exactDecimal decimalValue
  split
  · next he =>
      obtain ⟨k, hk⟩ := Int.eq_ofNat_of_zero_le he
      simp [hk]
  · next he =>
      obtain ⟨k, hk⟩ := Int.eq_ofNat_of_zero_le (a := -p.exponent) (by omega)
      have he' : p.exponent = -(k : Int) := by omega
      have hten : (10 : ℚ) = 2 * 5 := by norm_num
      simp only [he', neg_neg, Int.toNat_natCast, zpow_neg, zpow_natCast, Nat.cast_mul,
        Nat.cast_pow, Nat.cast_ofNat, hten, mul_pow]
      field_simp

/-- The shortest decimal of a float is rounded to the float's bits. -/
theorem decimalBits_shortest
    {p : Parts}
    (hp : p.Canonical) :
    decimalBits p.shortest.digits p.shortest.exponent = magnitudeBits p.ratio.1 p.ratio.2 := by
  rcases Nat.eq_zero_or_pos p.significand with hzero | hsig
  · have hnum : p.ratio.1 = 0 := by
      unfold Parts.ratio
      split <;> simp [hzero]
    simp [Parts.shortest, hzero, decimalBits, magnitudeBits, hnum]
  · have hne : p.significand ≠ 0 := by omega
    simp only [Parts.shortest, if_neg hne]
    cases hsearch : searchGrids (magnitudeBits p.ratio.1 p.ratio.2) p.ratio.1 p.ratio.2
        (decimalTop p.ratio.1 p.ratio.2) 17 1 with
    | some found =>
        exact decimalBits_searchGrids hsearch
    | none =>
        exact decimalBits_of_value hp hsig (exactDecimal_value p)

theorem negative_shortest
    (p : Parts) :
    p.shortest.negative = p.negative := by
  unfold Parts.shortest
  split <;> rfl

/-- The shortest decimal of a float reads back as that float. -/
theorem toFloat_shortest
    {x : Float} {p : Parts}
    (h : parts? x = some p) :
    p.shortest.toFloat = x := by
  rw [Decimal.toFloat, negative_shortest, decimalBits_shortest (parts?_spec h).1,
    ofMagnitude_ratio h]

end Number
end TelemetryAlerts
