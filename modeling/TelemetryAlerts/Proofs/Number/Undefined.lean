import Mathlib
import TelemetryAlerts.Telemetry.Reading

/-!
# Undefined floats

Of two floats that are defined, one is less than the other just if the other is not at most the
first. A difference of defined floats is defined, unless both are the same infinity. No reading
and no threshold stands for an undefined float.

**Results.**
* `lt_iff_not_le`: defined floats can be compared.
* `isNaN_sub_iff`, `isNaN_abs`: when a distance is undefined.
* `Scalar.isNaN_of_number?`: what a scalar stands for is defined.
-/

namespace TelemetryAlerts
namespace Number

open Float.Model (Format UnpackedFloat)
open Float.Model.UnpackedFloat

variable {u v : UnpackedFloat} {x y : Float}

/-! ### Packing -/

theorem isNaN_unpack_iff
    (bits : BitVec Format.binary64.numBits) :
    (unpack .binary64 bits).isNaN = true ↔
      unpackExponent bits = -1#11 ∧ unpackMantissa bits ≠ 0#52 := by
  rw [unpack]
  split_ifs <;> simp_all [UnpackedFloat.isNaN]

/-- No defined float is packed into the bits of an undefined one, also if it is out of range. -/
theorem isNaN_pack
    (u : UnpackedFloat) :
    (Float.Model.pack u).isNaN = u.isNaN := by
  have hpack : (Float.Model.pack u).isNaN =
      (unpack .binary64 (UnpackedFloat.pack .binary64 u)).isNaN := rfl
  rw [hpack, Bool.eq_iff_iff, isNaN_unpack_iff]
  cases u with
  | notANumber =>
      decide
  | infinity s =>
      simp [UnpackedFloat.pack, packedInfinity, UnpackedFloat.isNaN]
  | zero s =>
      simp [UnpackedFloat.pack, packedZero, UnpackedFloat.isNaN]
  | finite s m e hm =>
      rw [UnpackedFloat.pack]
      split_ifs with hlarge hfull
      · simp [packedInfinity, UnpackedFloat.isNaN]
      · set biased := (e + Format.binary64.exponentBias +
          Format.binary64.mantissaBitsWithoutImplicit).toNat
        have hfield : BitVec.ofNat 11 biased ≠ -1#11 := by
          intro h
          have h := congrArg BitVec.toNat h
          simp at h hlarge
          omega
        simpa [UnpackedFloat.isNaN] using fun h => absurd h hfield
      · simp [UnpackedFloat.isNaN]

/-! ### Comparing -/

theorem compare_swap
    (u v : UnpackedFloat) :
    v.compare u = (u.compare v).map Ordering.swap := by
  have hswap (e f : Int) (m n : Nat) :
      (compare e f).then (compare m n) = ((compare f e).then (compare n m)).swap := by
    rw [Ordering.swap_then, ← Std.OrientedCmp.eq_swap, ← Std.OrientedCmp.eq_swap]
  cases u with
  | notANumber =>
      cases v <;> rfl
  | infinity s =>
      cases s <;> rcases v with (_ | _) | _ | _ | _ <;> rfl
  | zero s =>
      rcases v with (_ | _) | _ | _ | (_ | _) <;> rfl
  | finite s m e hm =>
      rcases v with (_ | _) | _ | _ | ⟨t, n, f, hn⟩
      case finite =>
        cases s <;> cases t
        · exact congrArg (some ∘ Ordering.swap) (hswap f e n m)
        · rfl
        · rfl
        · exact congrArg some (hswap f e n m)
      all_goals cases s <;> rfl

theorem isSome_compare
    (hu : u.isNaN = false)
    (hv : v.isNaN = false) :
    (u.compare v).isSome = true := by
  fun_cases UnpackedFloat.compare u v <;> first | rfl | contradiction

theorem lt_iff_compare :
    x < y ↔ x.toModel.unpack.compare y.toModel.unpack = some .lt := by
  have hlt : x < y ↔ (x.toModel.unpack.compare y.toModel.unpack == some .lt) = true :=
    decide_eq_true_iff
  rw [hlt, beq_iff_eq]

theorem le_iff_compare :
    x ≤ y ↔ (x.toModel.unpack.compare y.toModel.unpack).any Ordering.isLE = true :=
  decide_eq_true_iff

theorem not_le_of_lt
    (h : x < y) :
    ¬ y ≤ x := by
  rw [le_iff_compare, compare_swap x.toModel.unpack, lt_iff_compare.mp h]
  exact Bool.false_ne_true

/-- Defined floats can be compared. -/
theorem lt_iff_not_le
    (hx : x.isNaN = false)
    (hy : y.isNaN = false) :
    x < y ↔ ¬ y ≤ x := by
  obtain ⟨o, ho⟩ := Option.isSome_iff_exists.mp (isSome_compare hx hy)
  rw [lt_iff_compare, le_iff_compare, compare_swap x.toModel.unpack, ho]
  cases o <;> decide

theorem not_lt_of_isNaN
    (hx : x.isNaN = true) :
    ¬ x < y := by
  rw [lt_iff_compare, isNaN_iff.mp hx]
  cases y.toModel.unpack <;> exact nofun

theorem not_le_of_isNaN
    (hx : x.isNaN = true) :
    ¬ y ≤ x := by
  rw [le_iff_compare, isNaN_iff.mp hx]
  cases y.toModel.unpack <;> exact Bool.false_ne_true

/-! ### Distances -/

theorem isNaN_abs
    (x : Float) :
    x.abs.isNaN = x.isNaN := by
  have habs : x.abs.isNaN = (Float.Model.pack x.toModel.unpack.abs).isNaN := rfl
  have hx : x.isNaN = x.toModel.unpack.isNaN := rfl
  rw [habs, isNaN_pack, hx]
  cases x.toModel.unpack <;> rfl

theorem isNaN_round
    (s : Sign) (m : Nat) (e : Int) :
    (UnpackedFloat.round .binary64 s m e).isNaN = false := by
  simp only [UnpackedFloat.round, roundWithAccuracy]
  split_ifs <;> rfl

theorem isNaN_normalize
    (m e : Int) (s : Sign) :
    (UnpackedFloat.normalize .binary64 m e s).isNaN = false := by
  rw [UnpackedFloat.normalize]
  split
  · exact isNaN_round _ _ _
  · rfl
  · exact isNaN_round _ _ _

theorem isNaN_unpackedSub_iff
    (hu : u.isNaN = false)
    (hv : v.isNaN = false) :
    (UnpackedFloat.sub .binary64 u v).isNaN = true ↔ u.isInf = true ∧ u = v := by
  cases u with
  | notANumber =>
      cases hu
  | infinity s =>
      cases v with
      | notANumber =>
          cases hv
      | infinity t =>
          cases s <;> cases t
          case negative.negative | positive.positive =>
            exact iff_of_true rfl ⟨rfl, rfl⟩
          case negative.positive | positive.negative =>
            exact iff_of_false (by decide) (by simp)
      | zero t | finite t n f hn =>
          simp [UnpackedFloat.sub, UnpackedFloat.isNaN]
  | zero s =>
      cases v with
      | notANumber =>
          cases hv
      | zero t =>
          cases s <;> cases t <;> exact iff_of_false (by decide) fun h => nomatch h.1
      | infinity t | finite t n f hn =>
          simp [UnpackedFloat.sub, UnpackedFloat.isNaN]
  | finite s m e hm =>
      cases v with
      | notANumber =>
          cases hv
      | infinity t | zero t =>
          simp [UnpackedFloat.sub, UnpackedFloat.isNaN]
      | finite t n f hn =>
          simp [UnpackedFloat.sub, isNaN_normalize, UnpackedFloat.isInf]

/-- The difference of defined floats is defined, unless both are the same infinity. -/
theorem isNaN_sub_iff
    (hx : x.isNaN = false)
    (hy : y.isNaN = false) :
    (x - y).isNaN = true ↔ x.isInf = true ∧ x = y := by
  have hsub : (x - y).isNaN =
      (Float.Model.pack (UnpackedFloat.sub .binary64 x.toModel.unpack y.toModel.unpack)).isNaN :=
    rfl
  have hunpack : x.toModel.unpack = y.toModel.unpack ↔ x = y := by
    refine (unpack_inj_of_valid x.toModel.valid y.toModel.valid).trans ?_
    rcases x with ⟨⟨⟨b⟩, hb⟩⟩
    rcases y with ⟨⟨⟨c⟩, hc⟩⟩
    simp
  rw [hsub, isNaN_pack, isNaN_unpackedSub_iff hx hy, hunpack]
  rfl

/-! ### Numbers that are read -/

theorem isNaN_ofMagnitude
    (negative : Bool)
    {bits : Nat}
    (h : bits < infinityBits) :
    (ofMagnitude negative bits).isNaN = false := by
  have hpack : (ofMagnitude negative bits).isNaN =
      (Float.Model.pack (unpack .binary64
        (UInt64.ofNat (if negative then bits + 2 ^ (63 : Nat) else bits)).toBitVec)).isNaN := rfl
  rw [hpack, isNaN_pack, ← Bool.not_eq_true, isNaN_unpack_iff]
  rintro ⟨hexponent, -⟩
  have hfield := congrArg BitVec.toNat hexponent
  have hones : (-1#11 : BitVec 11).toNat = 2047 := by decide
  have hwidth : 2 ^ Format.binary64.exponentBits = 2048 := rfl
  have hplace : 2 ^ Format.binary64.mantissaBitsWithoutImplicit = 2 ^ 52 := rfl
  rw [unpackExponent_def, BitVec.extractLsb'_toNat, Nat.shiftRight_eq_div_pow,
    UInt64.toNat_toBitVec, UInt64.toNat_ofNat', hones, hwidth, hplace] at hfield
  unfold infinityBits at h
  split_ifs at hfield <;> omega

theorem isNaN_of_ofInt?
    {n : Int}
    (h : ofInt? n = some x) :
    x.isNaN = false := by
  unfold ofInt? at h
  simp only at h
  split_ifs at h with hfits
  rw [← Option.some.inj h]
  exact isNaN_ofMagnitude _ hfits

end Number

/-- What a scalar stands for is defined. -/
theorem Scalar.isNaN_of_number?
    {v : Scalar} {x : Float}
    (h : v.number? = some x) :
    x.isNaN = false := by
  cases v with
  | null =>
      cases h
  | bool b =>
      cases b <;> cases h <;> decide
  | int n =>
      exact Number.isNaN_of_ofInt? h
  | float y =>
      rw [number?] at h
      split_ifs at h with hnan
      rw [← Option.some.inj h]
      simpa using hnan
  | text s =>
      obtain ⟨-, hdefined⟩ := Option.filter_eq_some_iff.mp h
      simpa using hdefined

theorem Json.isNaN_of_number?
    {v : Json} {x : Float}
    (h : v.number? = some x) :
    x.isNaN = false := by
  obtain ⟨s, -, hs⟩ := Option.bind_eq_some_iff.mp h
  exact Scalar.isNaN_of_number? hs

theorem Snapshot.isNaN_of_number?
    {s : Snapshot} {field : String} {x : Float}
    (h : s.number? field = some x) :
    x.isNaN = false := by
  obtain ⟨v, -, hv⟩ := Option.bind_eq_some_iff.mp h
  exact Json.isNaN_of_number? hv

end TelemetryAlerts
