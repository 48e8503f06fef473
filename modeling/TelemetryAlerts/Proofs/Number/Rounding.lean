import Mathlib
import TelemetryAlerts.Number.Rounding

/-!
# Rounding is a function of the quotient

`magnitudeBits` rounds a quotient that is given as two naturals. Here its exponent is
found to be a binary logarithm of the quotient, so that only the quotient counts, and a
quotient that is itself a float is rounded to that float.

**Results.**
* `exponentOf_eq_log`: the exponent is the binary logarithm, 52 places down.
* `magnitudeBits_congr`: equal quotients are rounded to the same float.
* `ofMagnitude_ratio`: the pieces of a finite float are put together again.
-/

namespace TelemetryAlerts
namespace Number

/-- The quotient of two naturals as a rational number. -/
def quotient (num den : Nat) : ℚ :=
  (num : ℚ) / den

theorem quotient_pos
    {num den : Nat}
    (hnum : 0 < num)
    (hden : 0 < den) :
    0 < quotient num den := by
  unfold quotient
  positivity

theorem quotient_eq_iff
    {n d n' d' : Nat}
    (hd : 0 < d)
    (hd' : 0 < d') :
    quotient n d = quotient n' d' ↔ n * d' = n' * d := by
  unfold quotient
  rw [div_eq_div_iff (by positivity) (by positivity)]
  exact_mod_cast Iff.rfl

/-- Scaling by a power of two divides the quotient by that power. -/
theorem quotient_scaleBinary
    (num den : Nat) (e : Int) :
    quotient (scaleBinary num den e).1 (scaleBinary num den e).2 =
      quotient num den / 2 ^ e := by
  unfold scaleBinary quotient
  split
  · next he =>
      obtain ⟨k, rfl⟩ := Int.eq_ofNat_of_zero_le he
      simp [div_div]
  · next he =>
      obtain ⟨k, hk⟩ := Int.eq_ofNat_of_zero_le (a := -e) (by omega)
      have he' : e = -(k : Int) := by omega
      subst he'
      simp [mul_div_right_comm]

theorem scaleBinary_den_pos
    (num : Nat)
    {den : Nat}
    (hden : 0 < den)
    (e : Int) :
    0 < (scaleBinary num den e).2 := by
  unfold scaleBinary
  split <;> positivity

/-- A natural number lies between two neighbouring powers of two. -/
theorem log2_bounds
    {n : Nat}
    (hn : 0 < n) :
    (2 : ℚ) ^ (Nat.log2 n : Int) ≤ n ∧ (n : ℚ) < 2 ^ ((Nat.log2 n : Int) + 1) := by
  have hle : 2 ^ Nat.log2 n ≤ n := Nat.log2_self_le (by omega)
  have hlt : n < 2 ^ (Nat.log2 n + 1) := Nat.lt_log2_self
  constructor
  · exact_mod_cast hle
  · exact_mod_cast hlt

/-- The logarithm of a number is the place where its powers of two enclose it. -/
theorem log_eq_of_bounds
    {q : ℚ} {t : Int}
    (hq : 0 < q)
    (hle : (2 : ℚ) ^ t ≤ q)
    (hlt : q < 2 ^ (t + 1)) :
    Int.log 2 q = t := by
  have h₁ : t ≤ Int.log 2 q :=
    (Int.zpow_le_iff_le_log (by decide) hq).mp (by exact_mod_cast hle)
  have h₂ : Int.log 2 q < t + 1 :=
    (Int.lt_zpow_iff_log_lt (by decide) hq).mp (by exact_mod_cast hlt)
  omega

/-- The exponent is the binary logarithm of the quotient, 52 places down. -/
theorem exponentOf_eq_log
    {num den : Nat}
    (hnum : 0 < num)
    (hden : 0 < den) :
    exponentOf num den = max minExponent (Int.log 2 (quotient num den) - 52) := by
  have hq := quotient_pos hnum hden
  obtain ⟨hn₁, hn₂⟩ := log2_bounds hnum
  obtain ⟨hd₁, hd₂⟩ := log2_bounds hden
  have hdq : (0 : ℚ) < den := by exact_mod_cast hden
  have htwo : (2 : ℚ) ≠ 0 := by norm_num
  set t : Int := (Nat.log2 num : Int) - (Nat.log2 den : Int) with ht
  -- the quotient of two such numbers spans two neighbouring powers
  have hlow : (2 : ℚ) ^ (t - 1) ≤ quotient num den := by
    rw [quotient, le_div_iff₀ hdq]
    calc (2 : ℚ) ^ (t - 1) * den
        ≤ 2 ^ (t - 1) * 2 ^ ((Nat.log2 den : Int) + 1) := by gcongr
      _ = 2 ^ (Nat.log2 num : Int) := by rw [← zpow_add₀ htwo]; congr 1; omega
      _ ≤ num := hn₁
  have hhigh : quotient num den < 2 ^ (t + 1) := by
    rw [quotient, div_lt_iff₀ hdq]
    calc (num : ℚ) < 2 ^ ((Nat.log2 num : Int) + 1) := hn₂
      _ = 2 ^ (t + 1) * 2 ^ (Nat.log2 den : Int) := by rw [← zpow_add₀ htwo]; congr 1; omega
      _ ≤ 2 ^ (t + 1) * den := by gcongr
  have hscaled := quotient_scaleBinary num den t
  have hpos := scaleBinary_den_pos num hden t
  have hbelow :
      (scaleBinary num den t).1 < (scaleBinary num den t).2 ↔ quotient num den < 2 ^ t := by
    have hposq : (0 : ℚ) < (scaleBinary num den t).2 := by exact_mod_cast hpos
    rw [← @Nat.cast_lt ℚ, ← div_lt_one hposq, ← quotient, hscaled,
      div_lt_one (by positivity)]
  unfold exponentOf
  simp only [← ht]
  by_cases hlt : quotient num den < 2 ^ t
  · have hlog : Int.log 2 (quotient num den) = t - 1 :=
      log_eq_of_bounds hq hlow (by simpa using hlt)
    rw [if_pos (hbelow.mpr hlt), hlog]
    congr 1
    omega
  · have hlog : Int.log 2 (quotient num den) = t :=
      log_eq_of_bounds hq (not_lt.mp hlt) hhigh
    rw [if_neg (fun h => hlt (hbelow.mp h)), hlog]

/-- A common factor makes no difference to the rounded quotient. -/
theorem roundHalfEven_mul
    (num den : Nat)
    {c : Nat}
    (hc : 0 < c) :
    roundHalfEven (num * c) (den * c) = roundHalfEven num den := by
  have h₁ : 2 * (num % den * c) < den * c ↔ 2 * (num % den) < den := by
    rw [← mul_assoc, Nat.mul_lt_mul_right hc]
  have h₂ : den * c < 2 * (num % den * c) ↔ den < 2 * (num % den) := by
    rw [← mul_assoc, Nat.mul_lt_mul_right hc]
  simp only [roundHalfEven, Nat.mul_div_mul_right _ _ hc, Nat.mul_mod_mul_right, h₁, h₂]

theorem roundHalfEven_congr
    {n d n' d' : Nat}
    (hd : 0 < d)
    (hd' : 0 < d')
    (h : n * d' = n' * d) :
    roundHalfEven n d = roundHalfEven n' d' := by
  rw [← roundHalfEven_mul n d hd', h, Nat.mul_comm d d', roundHalfEven_mul n' d' hd]

/-- Equal quotients are rounded to the same float. -/
theorem magnitudeBits_congr
    {n d n' d' : Nat}
    (hd : 0 < d)
    (hd' : 0 < d')
    (h : n * d' = n' * d) :
    magnitudeBits n d = magnitudeBits n' d' := by
  rcases Nat.eq_zero_or_pos n with rfl | hn
  · have hn' : n' = 0 := by
      rcases Nat.mul_eq_zero.mp (by simpa using h.symm) with h | h
      · exact h
      · omega
    simp [magnitudeBits, hn']
  · have hn' : 0 < n' := by
      rcases Nat.eq_zero_or_pos n' with rfl | hn'
      · have := Nat.mul_pos hn hd'
        omega
      · exact hn'
    have hq : quotient n d = quotient n' d' := (quotient_eq_iff hd hd').mpr h
    have he : exponentOf n d = exponentOf n' d' := by
      rw [exponentOf_eq_log hn hd, exponentOf_eq_log hn' hd', hq]
    have hs := quotient_scaleBinary n d (exponentOf n d)
    have hs' := quotient_scaleBinary n' d' (exponentOf n d)
    have hround :
        roundHalfEven (scaleBinary n d (exponentOf n d)).1 (scaleBinary n d (exponentOf n d)).2 =
          roundHalfEven (scaleBinary n' d' (exponentOf n d)).1
            (scaleBinary n' d' (exponentOf n d)).2 := by
      refine
        roundHalfEven_congr (scaleBinary_den_pos _ hd _) (scaleBinary_den_pos _ hd' _) ?_
      rw [← quotient_eq_iff (scaleBinary_den_pos _ hd _) (scaleBinary_den_pos _ hd' _),
        hs, hs', hq]
    simp only [magnitudeBits, if_neg (Nat.pos_iff_ne_zero.mp hn),
      if_neg (Nat.pos_iff_ne_zero.mp hn'), ← he, hround]

/-! ### Finite floats -/

namespace Parts

/-- The pieces of a float as they can be: the significand has 53 bits, or fewer at the
least exponent. -/
structure Canonical (p : Parts) : Prop where
  significand_lt : p.significand < 2 ^ 53
  le_exponent : minExponent ≤ p.exponent
  exponent_le : p.exponent ≤ 971
  full_or_least : 2 ^ 52 ≤ p.significand ∨ p.exponent = minExponent

theorem ratio_den_pos
    (p : Parts) :
    0 < p.ratio.2 := by
  unfold ratio
  split <;> positivity

theorem quotient_ratio
    (p : Parts) :
    quotient p.ratio.1 p.ratio.2 = p.significand * (2 : ℚ) ^ p.exponent := by
  unfold ratio quotient
  split
  · next he =>
      obtain ⟨k, hk⟩ := Int.eq_ofNat_of_zero_le he
      simp [hk]
  · next he =>
      obtain ⟨k, hk⟩ := Int.eq_ofNat_of_zero_le (a := -p.exponent) (by omega)
      have he' : p.exponent = -(k : Int) := by omega
      simp [he', div_eq_mul_inv]

/-- The exponent of a float is the one that rounding finds for its value. -/
theorem exponentOf_ratio
    {p : Parts}
    (hp : p.Canonical)
    (hsig : 0 < p.significand) :
    exponentOf p.ratio.1 p.ratio.2 = p.exponent := by
  obtain ⟨hlt, hmin, -, hcases⟩ := hp
  have hq : 0 < quotient p.ratio.1 p.ratio.2 := by
    rw [quotient_ratio]
    positivity
  have hnum : 0 < p.ratio.1 := by
    rcases Nat.eq_zero_or_pos p.ratio.1 with h | h
    · simp [quotient, h] at hq
    · exact h
  obtain ⟨hlow, hhigh⟩ := log2_bounds hsig
  have hlog :
      Int.log 2 (quotient p.ratio.1 p.ratio.2) = (Nat.log2 p.significand : Int) + p.exponent := by
    refine log_eq_of_bounds hq ?_ ?_
    · rw [quotient_ratio, zpow_add₀ (by norm_num)]
      gcongr
    · rw [quotient_ratio,
        show (Nat.log2 p.significand : Int) + p.exponent + 1 =
          ((Nat.log2 p.significand : Int) + 1) + p.exponent by ring,
        zpow_add₀ (by norm_num)]
      gcongr
  have htop : Nat.log2 p.significand < 53 := (Nat.log2_lt (by omega)).mpr hlt
  rw [exponentOf_eq_log hnum p.ratio_den_pos, hlog]
  rcases hcases with hbig | hleast
  · have hbits : 52 ≤ Nat.log2 p.significand := (Nat.le_log2 (by omega)).mpr hbig
    omega
  · omega

/-- The value of a float is rounded to its own bits. -/
theorem magnitudeBits_ratio
    {p : Parts}
    (hp : p.Canonical) :
    magnitudeBits p.ratio.1 p.ratio.2 =
      min infinityBits ((p.exponent - minExponent).toNat * 2 ^ 52 + p.significand) := by
  rcases Nat.eq_zero_or_pos p.significand with hzero | hsig
  · have hexp : p.exponent = minExponent := by
      rcases hp.full_or_least with h | h
      · rw [hzero] at h
        norm_num at h
      · exact h
    have hnum : p.ratio.1 = 0 := by
      unfold ratio
      split <;> simp [hzero]
    simp [magnitudeBits, hnum, hzero, hexp]
  · have hexp := exponentOf_ratio hp hsig
    have hnum : p.ratio.1 ≠ 0 := by
      unfold ratio
      split
      · simp only
        positivity
      · simp only
        omega
    have hden := scaleBinary_den_pos p.ratio.1 p.ratio_den_pos p.exponent
    have hround :
        roundHalfEven (scaleBinary p.ratio.1 p.ratio.2 p.exponent).1
            (scaleBinary p.ratio.1 p.ratio.2 p.exponent).2 =
          p.significand := by
      have hone : roundHalfEven p.significand 1 = p.significand := by
        simp [roundHalfEven, Nat.mod_one]
      rw [← hone]
      refine roundHalfEven_congr hden (by decide) ?_
      rw [← quotient_eq_iff hden (by decide), quotient_scaleBinary, quotient_ratio]
      have hpow : (2 : ℚ) ^ p.exponent ≠ 0 := by positivity
      field_simp
      simp [quotient]
    simp only [magnitudeBits, if_neg hnum, hexp, hround]

end Parts

/-- The pieces of a finite float, from its bits. -/
theorem parts?_spec
    {x : Float} {p : Parts}
    (h : parts? x = some p) :
    p.Canonical ∧
      (p.negative = true ↔ 2 ^ 63 ≤ x.toBits.toNat) ∧
      min infinityBits ((p.exponent - minExponent).toNat * 2 ^ 52 + p.significand) =
        x.toBits.toNat % 2 ^ 63 := by
  have hbits : x.toBits.toNat < 2 ^ 64 := x.toBits.toNat_lt
  simp only [parts?] at h
  generalize x.toBits.toNat = bits at h hbits ⊢
  split at h
  · simp at h
  · next hfield =>
      split at h
      · next hleast =>
          obtain rfl := (Option.some.inj h).symm
          refine ⟨⟨?_, ?_, ?_, Or.inr rfl⟩, by simp, ?_⟩
          · simp only
            omega
          · simp
          · simp [minExponent]
          · simp only [infinityBits, sub_self, Int.toNat_zero]
            omega
      · next hnormal =>
          obtain rfl := (Option.some.inj h).symm
          refine ⟨⟨?_, ?_, ?_, Or.inl ?_⟩, by simp, ?_⟩
          · simp only
            omega
          · simp only [minExponent]
            omega
          · simp only [minExponent]
            omega
          · simp only
            omega
          · simp only [infinityBits, minExponent]
            omega

theorem isFinite_iff
    (x : Float) :
    isFinite x = true ↔ ∃ p, parts? x = some p := by
  simp [isFinite, Option.isSome_iff_exists]

/-- The pieces of a finite float are put together again. -/
theorem ofMagnitude_ratio
    {x : Float} {p : Parts}
    (h : parts? x = some p) :
    ofMagnitude p.negative (magnitudeBits p.ratio.1 p.ratio.2) = x := by
  obtain ⟨hcanonical, hsign, hbits⟩ := parts?_spec h
  have hlt : x.toBits.toNat < 2 ^ 64 := x.toBits.toNat_lt
  rw [Parts.magnitudeBits_ratio hcanonical, hbits]
  have hall :
      (if p.negative then x.toBits.toNat % 2 ^ 63 + 2 ^ 63 else x.toBits.toNat % 2 ^ 63) =
        x.toBits.toNat := by
    cases hneg : p.negative with
    | true =>
        have := hsign.mp hneg
        simp only [if_true]
        omega
    | false =>
        have : ¬ 2 ^ 63 ≤ x.toBits.toNat := fun hle => by simp [hsign.mpr hle] at hneg
        simp only [Bool.false_eq_true, if_false]
        omega
  rw [ofMagnitude, hall, UInt64.ofNat_toNat, Float.ofBits_toBits]

end Number
end TelemetryAlerts
