import TelemetryAlerts.Proofs.Evaluation.Normalized
import TelemetryAlerts.Proofs.Json.Numeral
import TelemetryAlerts.Proofs.Number.Order
import TelemetryAlerts.Proofs.Number.Undefined
import TelemetryAlerts.Proofs.Store.Server

/-!
# Integers in figures

A service may report an integer as a number or in figures, with blanks around them. Both stand
for the nearest float, so that it makes no difference to any condition which of them is read.
They part beyond the greatest float: there the number stands for nothing, and no condition on it
holds, while the figures stand for infinity.

**Results.**
* `Number.ofText?_figures`: the float that figures stand for.
* `Scalar.number?_int`, `Scalar.number?_figures`: what a number and its figures stand for.
* `figures_alike_iff`: the integers that are the same in both forms.
-/

namespace TelemetryAlerts

/-- An integer in figures, with characters before and after it. -/
def figures (before : List Char) (n : Int) (after : List Char) : String :=
  String.ofList (before ++ Json.intText n ++ after)

/-! ### Reading figures -/

namespace Text

/-- What is dropped around a text without such characters is all that stands around it. -/
theorem dropEnds_append
    {drop : Char → Bool} {before cs after : List Char}
    (hbefore : ∀ c ∈ before, drop c = true)
    (hcs : ∀ c ∈ cs, drop c = false)
    (hafter : ∀ c ∈ after, drop c = true) :
    dropEnds drop (before ++ cs ++ after) = cs := by
  cases cs with
  | nil =>
      have hall : ∀ c ∈ before ++ [] ++ after, drop c = true := by
        intro c hc
        rw [List.append_nil] at hc
        exact (List.mem_append.mp hc).elim (hbefore c) (hafter c)
      rw [dropEnds, List.dropWhile_eq_nil_iff.mpr hall]
      rfl
  | cons c rest =>
      have hfirst : ¬ drop c = true := by simp [hcs c (by simp)]
      have hlast : (c :: rest).reverse.dropWhile drop = (c :: rest).reverse := by
        refine List.dropWhile_eq_self_iff.mpr fun hlength => ?_
        rw [hcs _ (List.mem_reverse.mp (List.getElem_mem hlength))]
        exact Bool.false_ne_true
      rw [dropEnds, List.append_assoc, List.dropWhile_append_of_pos hbefore, List.cons_append,
        List.dropWhile_cons_of_neg hfirst, ← List.cons_append, List.reverse_append,
        List.dropWhile_append_of_pos (by simpa using hafter), hlast, List.reverse_reverse]

theorem toNat_of_isDigit
    {c : Char}
    (hc : c.isDigit = true) :
    48 ≤ c.toNat ∧ c.toNat ≤ 57 := by
  simp only [Char.isDigit, Bool.and_eq_true, decide_eq_true_eq, UInt32.le_iff_toNat_le] at hc
  exact hc

theorem decimalValue?_of_isDigit
    {c : Char}
    (hc : c.isDigit = true) :
    decimalValue? c = asciiDigit? c := by
  obtain ⟨hlow, hhigh⟩ := toNat_of_isDigit hc
  have hascii : '0' ≤ c ∧ c ≤ '9' := by
    simp only [Char.le_def, UInt32.le_iff_toNat_le]
    exact ⟨hlow, hhigh⟩
  rw [asciiDigit?, if_pos hascii, decimalValue?, decimalZeros,
    List.find?_cons_of_pos (by simp only [Bool.and_eq_true, decide_eq_true_eq]; omega)]
  rfl

theorem toLower_of_isDigit
    {c : Char}
    (hc : c.isDigit = true) :
    c.toLower = c := by
  have hhigh := (toNat_of_isDigit hc).2
  refine dif_neg ?_
  rintro ⟨hletter, -⟩
  have hletter : 65 ≤ c.toNat := UInt32.le_iff_toNat_le.mp hletter
  omega

theorem isBlank_of_isDigit
    {c : Char}
    (hc : c.isDigit = true) :
    isBlank c = false := by
  obtain ⟨hlow, hhigh⟩ := toNat_of_isDigit hc
  simp [isBlank, isSpace]
  omega

end Text

namespace Number

variable {ds : List Char}

theorem exists_value_of_isDigit
    {c : Char}
    (hc : c.isDigit = true) :
    ∃ d, Text.decimalValue? c = some d ∧ Text.asciiDigit? c = some d := by
  rw [Text.decimalValue?_of_isDigit hc]
  obtain ⟨d, hd⟩ := Option.isSome_iff_exists.mp ((Text.isSome_asciiDigit? c).trans hc)
  exact ⟨d, hd, hd⟩

theorem spanDigits_of_isDigit
    (hds : ∀ c ∈ ds, c.isDigit = true) :
    spanDigits Text.decimalValue? ds = (Text.digitValues ds, []) := by
  induction ds with
  | nil =>
      rfl
  | cons c rest ih =>
      obtain ⟨d, hvalue, hascii⟩ := exists_value_of_isDigit (hds c (by simp))
      have hrest := ih fun b hb => hds b (by simp [hb])
      cases rest with
      | nil =>
          simp [spanDigits, Text.digitValues, hvalue, hascii]
      | cons b more =>
          have hb : b ≠ '_' := by
            rintro rfl
            exact absurd (hds '_' (by simp)) (by decide)
          have hspan : spanDigits Text.decimalValue? (c :: b :: more) =
              (d :: (spanDigits Text.decimalValue? (b :: more)).1,
                (spanDigits Text.decimalValue? (b :: more)).2) := by
            rw [spanDigits, hvalue]
            dsimp only
            split
            · exact absurd rfl hb
            · exact absurd rfl hb
            · rfl
          rw [hspan, hrest]
          simp [Text.digitValues, hascii]

theorem spanSign_signText
    (negative : Bool)
    (hds : ∀ c ∈ ds, c.isDigit = true) :
    spanSign (Json.signText negative ++ ds) = (negative, ds) := by
  cases negative with
  | true =>
      rfl
  | false =>
      change spanSign ds = (false, ds)
      unfold spanSign
      split
      · exact absurd (hds '-' (by simp)) (by decide)
      · exact absurd (hds '+' (by simp)) (by decide)
      · rfl

theorem namedMagnitude?_of_isDigit
    (hds : ∀ c ∈ ds, c.isDigit = true) :
    namedMagnitude? ds = none := by
  have hlower : ds.map Char.toLower = ds :=
    (List.map_congr_left fun c hc => Text.toLower_of_isDigit (hds c hc)).trans (List.map_id ds)
  have hword (word : String) (hletter : ∃ c ∈ word.toList, c.isDigit = false) :
      String.ofList ds ≠ word := by
    rintro rfl
    obtain ⟨c, hc, hletter⟩ := hletter
    rw [String.toList_ofList] at hc
    rw [hds c hc] at hletter
    cases hletter
  unfold namedMagnitude?
  rw [hlower]
  split
  · next h => exact absurd h (hword _ ⟨'n', by simp, rfl⟩)
  · next h => exact absurd h (hword _ ⟨'n', by simp, rfl⟩)
  · next h => exact absurd h (hword _ ⟨'n', by simp, rfl⟩)
  · rfl

/-- A sign and digits stand for the float nearest to the integer that they spell. -/
theorem numeral?_of_isDigit
    (negative : Bool)
    (hds : ∀ c ∈ ds, c.isDigit = true)
    (hne : ds ≠ []) :
    numeral? Text.decimalValue? (Json.signText negative ++ ds) =
      some (ofMagnitude negative (magnitudeBits (Text.ofDigits 10 (Text.digitValues ds)) 1)) := by
  have hempty : (Text.digitValues ds).isEmpty = false := by
    rw [List.isEmpty_eq_false_iff, ← List.length_pos_iff, Text.length_digitValues hds,
      List.length_pos_iff]
    exact hne
  have hunsigned : unsigned? Text.decimalValue? ds =
      some (Text.ofDigits 10 (Text.digitValues ds), 0) := by
    simp [unsigned?, spanDigits_of_isDigit hds, exponentPart?, hempty]
  rw [numeral?, spanSign_signText negative hds]
  simp only [namedMagnitude?_of_isDigit hds, hunsigned, Option.map_some, Decimal.toFloat,
    decimalBits_zero]

/-- Figures with blanks around them stand for the float nearest to the integer, and for infinity
if the integer is beyond every float. -/
theorem ofText?_figures
    (n : Int)
    {before after : List Char}
    (hbefore : ∀ c ∈ before, Text.isBlank c = true)
    (hafter : ∀ c ∈ after, Text.isBlank c = true) :
    ofText? (figures before n after) =
      some (ofMagnitude (n < 0) (magnitudeBits n.natAbs 1)) := by
  have hdigits : ∀ c ∈ Nat.toDigits 10 n.natAbs, c.isDigit = true := fun c hc =>
    Text.isDigit_of_mem_toDigits hc
  have hblank : ∀ c ∈ Json.intText n, Text.isBlank c = false := by
    intro c hc
    rw [Json.intText_eq, List.mem_append] at hc
    rcases hc with hsign | hdigit
    · rw [Json.signText] at hsign
      split_ifs at hsign
      · rw [List.mem_singleton.mp hsign]
        decide
      · cases hsign
    · exact Text.isBlank_of_isDigit (hdigits c hdigit)
  rw [ofText?, figures, String.toList_ofList, Text.dropEnds_append hbefore hblank hafter,
    Json.intText_eq, numeral?_of_isDigit _ hdigits Nat.toDigits_ne_nil, Text.ofDigits_toDigits]

theorem isNaN_ofMagnitude_le
    (negative : Bool)
    {bits : Nat}
    (h : bits ≤ infinityBits) :
    (ofMagnitude negative bits).isNaN = false := by
  rcases h.lt_or_eq with hlt | rfl
  · exact isNaN_ofMagnitude negative hlt
  · cases negative <;> decide +kernel

/-- The infinities. -/
def infinity (negative : Bool) : Float :=
  ofMagnitude negative infinityBits

end Number

/-! ### What integers stand for -/

@[simp] theorem Scalar.number?_toJson
    (v : Scalar) :
    v.toJson.number? = v.number? := by
  cases v <;> rfl

section

variable {n : Int} {before after : List Char}

theorem Scalar.number?_int
    (n : Int) :
    (Scalar.int n).number? =
      if n.natAbs < Number.integerBound then
        some (Number.ofMagnitude (n < 0) (Number.magnitudeBits n.natAbs 1))
      else none :=
  Number.ofInt?_eq n

/-- A number beyond every float stands for nothing. -/
theorem Scalar.number?_int_of_integerBound_le
    (hrange : Number.integerBound ≤ n.natAbs) :
    (Scalar.int n).number? = none := by
  rw [number?_int, if_neg (not_lt.mpr hrange)]

variable (hbefore : ∀ c ∈ before, Text.isBlank c = true)
variable (hafter : ∀ c ∈ after, Text.isBlank c = true)

include hbefore hafter

/-- Figures stand for a float in any case. -/
theorem Scalar.number?_figures :
    (Scalar.text (figures before n after)).number? =
      some (Number.ofMagnitude (n < 0) (Number.magnitudeBits n.natAbs 1)) := by
  rw [number?, Number.ofText?_figures n hbefore hafter]
  refine Option.filter_eq_some_iff.mpr ⟨rfl, (Bool.not_eq_true' _).mpr ?_⟩
  exact Number.isNaN_ofMagnitude_le _ (Number.magnitudeBits_le_infinityBits n.natAbs 1)

/-- Figures beyond every float stand for infinity. -/
theorem Scalar.number?_figures_of_integerBound_le
    (hrange : Number.integerBound ≤ n.natAbs) :
    (Scalar.text (figures before n after)).number? =
      some (Number.infinity (n < 0)) := by
  rw [number?_figures hbefore hafter, Number.magnitudeBits_of_integerBound_le hrange]
  rfl

theorem Scalar.number?_int_eq_figures_iff :
    (Scalar.int n).number? = (Scalar.text (figures before n after)).number? ↔
      n.natAbs < Number.integerBound := by
  rw [number?_int, number?_figures hbefore hafter]
  split_ifs with hrange <;> simp [hrange]

end

/-! ### What conditions make of them -/

namespace Condition

/-- It makes no difference which of two scalars is the reading of a field. -/
def SameReading (v w : Scalar) : Prop :=
  ∀ (c : Condition) (s : Snapshot) (field : String),
    c.holds (Json.insertField field v.toJson s) = c.holds (Json.insertField field w.toJson s)

/-- It makes no difference which of two scalars is the threshold of a condition. -/
def SameThreshold (v w : Scalar) : Prop :=
  ∀ (c : Condition) (s : Snapshot),
    { c with threshold := v }.holds s = { c with threshold := w }.holds s

/-- It makes no difference which of two scalars is the upper end of a range. -/
def SameUpper (v w : Scalar) : Prop :=
  ∀ (c : Condition) (s : Snapshot),
    { c with upper := v }.holds s = { c with upper := w }.holds s

variable {c : Condition} {s : Snapshot} {v w : Scalar}

theorem number?_insertField
    (s : Snapshot) (field : String) (v : Scalar) (field' : String) :
    Snapshot.number? (Json.insertField field v.toJson s) field' =
      if field' = field then v.number? else s.number? field' := by
  rw [Snapshot.number?, lookup_insertField]
  split_ifs
  · exact v.number?_toJson
  · rfl

theorem sameReading_of_number?
    (h : v.number? = w.number?) :
    SameReading v w := by
  intro c s field
  refine holds_of_number?_eq ?_
  rw [number?_insertField, number?_insertField, h]

theorem sameThreshold_of_number?
    (h : v.number? = w.number?) :
    SameThreshold v w := fun c s => by
  simp only [holds, h]

theorem sameUpper_of_number?
    (h : v.number? = w.number?) :
    SameUpper v w := fun c s => by
  simp only [holds, h]

theorem holds_of_reading_none
    (h : s.number? c.field = none) :
    c.holds s = false := by
  rw [holds, h]

theorem holds_of_threshold_none
    (h : c.threshold.number? = none) :
    c.holds s = false := by
  unfold holds
  rw [h]
  cases s.number? c.field <;> rfl

/-! Infinity is greater or less than zero, and out of the range from zero to zero or in the range
up to itself, while nothing at all holds of what stands for no number. -/

/-- A condition with zero for its bounds. -/
def aboutZero (op : Operator) : Condition where
  field := "level"
  operator := op
  threshold := .int 0
  upper := .int 0
  unit? := none
  level? := none

/-- A level of zero. -/
def levelZero : Snapshot :=
  [("level", .int 0)]

theorem number?_zero :
    (Scalar.int 0).number? = some 0 := by
  decide +kernel

theorem number?_levelZero :
    levelZero.number? "level" = some 0 :=
  number?_zero

theorem not_sameReading
    {negative : Bool}
    (hv : v.number? = none)
    (hw : w.number? = some (Number.infinity negative)) :
    ¬ SameReading v w := by
  intro hsame
  have hboth (op : Operator) := hsame (aboutZero op) [] "level"
  have hnone (op : Operator) :
      (aboutZero op).holds (Json.insertField "level" v.toJson []) = false :=
    holds_of_reading_none ((number?_insertField [] "level" v "level").trans hv)
  have hsome : Snapshot.number? (Json.insertField "level" w.toJson []) "level" =
      some (Number.infinity negative) := (number?_insertField [] "level" w "level").trans hw
  cases negative with
  | false =>
      have hgreater := (hnone .greaterThan).symm.trans (hboth .greaterThan)
      simp only [holds, aboutZero, hsome, number?_zero] at hgreater
      revert hgreater
      decide +kernel
  | true =>
      have hless := (hnone .lessThan).symm.trans (hboth .lessThan)
      simp only [holds, aboutZero, hsome, number?_zero] at hless
      revert hless
      decide +kernel

theorem not_sameThreshold
    {negative : Bool}
    (hv : v.number? = none)
    (hw : w.number? = some (Number.infinity negative)) :
    ¬ SameThreshold v w := by
  intro hsame
  have hboth (op : Operator) := hsame (aboutZero op) levelZero
  have hnone (op : Operator) : { aboutZero op with threshold := v }.holds levelZero = false :=
    holds_of_threshold_none hv
  cases negative with
  | false =>
      have hless := (hnone .lessThan).symm.trans (hboth .lessThan)
      simp only [holds, aboutZero, number?_levelZero, hw] at hless
      revert hless
      decide +kernel
  | true =>
      have hgreater := (hnone .greaterThan).symm.trans (hboth .greaterThan)
      simp only [holds, aboutZero, number?_levelZero, hw] at hgreater
      revert hgreater
      decide +kernel

theorem not_sameUpper
    {negative : Bool}
    (hv : v.number? = none)
    (hw : w.number? = some (Number.infinity negative)) :
    ¬ SameUpper v w := by
  intro hsame
  have hboth (op : Operator) := hsame (aboutZero op) levelZero
  cases negative with
  | false =>
      have hbetween := hboth .between
      simp only [holds, aboutZero, number?_levelZero, number?_zero, hv, hw, Option.any_none,
        Option.any_some] at hbetween
      revert hbetween
      decide +kernel
  | true =>
      have houtside := hboth .outside
      simp only [holds, aboutZero, number?_levelZero, number?_zero, hv, hw, Option.any_none,
        Option.any_some] at houtside
      revert houtside
      decide +kernel

end Condition

/-! ### Both forms of an integer -/

open Condition in
/-- Below the bound, and only there, an integer and its figures with blanks around them stand for
the same float, and as a reading, as a threshold or as the upper end of a range they make no
difference to any condition. From the bound on, the figures stand for infinity, while the number
stands for nothing, so that no condition holds of it or with it as the threshold. -/
theorem figures_alike_iff
    (n : Int)
    {before after : List Char}
    (hbefore : ∀ c ∈ before, Text.isBlank c = true)
    (hafter : ∀ c ∈ after, Text.isBlank c = true) :
    List.TFAE [
      n.natAbs < Number.integerBound,
      (Scalar.int n).number? = (Scalar.text (figures before n after)).number?,
      SameReading (.int n) (.text (figures before n after)),
      SameThreshold (.int n) (.text (figures before n after)),
      SameUpper (.int n) (.text (figures before n after))] ∧
    (Number.integerBound ≤ n.natAbs →
      (Scalar.int n).number? = none ∧
      (Scalar.text (figures before n after)).number? = some (Number.infinity (n < 0)) ∧
      ∀ (c : Condition) (s : Snapshot),
        c.holds (Json.insertField c.field (.int n) s) = false ∧
        { c with threshold := .int n }.holds s = false) := by
  have hbeyond (hrange : ¬ n.natAbs < Number.integerBound) :
      (Scalar.int n).number? = none ∧
        (Scalar.text (figures before n after)).number? = some (Number.infinity (n < 0)) :=
    ⟨Scalar.number?_int_of_integerBound_le (not_lt.mp hrange),
      Scalar.number?_figures_of_integerBound_le hbefore hafter (not_lt.mp hrange)⟩
  refine ⟨?_, fun hrange => ?_⟩
  · tfae_have 1 ↔ 2 := (Scalar.number?_int_eq_figures_iff hbefore hafter).symm
    tfae_have 2 → 3 := sameReading_of_number?
    tfae_have 2 → 4 := sameThreshold_of_number?
    tfae_have 2 → 5 := sameUpper_of_number?
    tfae_have 3 → 1 := fun hsame => not_not.mp fun hrange =>
      not_sameReading (hbeyond hrange).1 (hbeyond hrange).2 hsame
    tfae_have 4 → 1 := fun hsame => not_not.mp fun hrange =>
      not_sameThreshold (hbeyond hrange).1 (hbeyond hrange).2 hsame
    tfae_have 5 → 1 := fun hsame => not_not.mp fun hrange =>
      not_sameUpper (hbeyond hrange).1 (hbeyond hrange).2 hsame
    tfae_finish
  · obtain ⟨hnumber, hfigures⟩ := hbeyond (not_lt.mpr hrange)
    refine ⟨hnumber, hfigures, fun c s =>
      ⟨holds_of_reading_none ?_, holds_of_threshold_none hnumber⟩⟩
    exact (number?_insertField s c.field (.int n) c.field).trans ((if_pos rfl).trans hnumber)

theorem figures_alike_iff_frost :
    figures ['\t', ' '] (-273) ['\n'] = "\t -273\n" ∧
      (Scalar.int (-273)).number? = (Scalar.text "\t -273\n").number? ∧
      Condition.SameReading (.int (-273)) (.text "\t -273\n") ∧
      (Scalar.text (figures [] (10 ^ 400) [])).number? = some (Number.infinity false) ∧
      ∀ c : Condition, c.holds [(c.field, .int (10 ^ 400))] = false := by
  have htext : figures ['\t', ' '] (-273) ['\n'] = "\t -273\n" := by decide +kernel
  have hbefore : ∀ c ∈ ['\t', ' '], Text.isBlank c = true := by simp [Text.isBlank, Text.isSpace]
  have hafter : ∀ c ∈ ['\n'], Text.isBlank c = true := by simp [Text.isBlank, Text.isSpace]
  have hnone : ∀ c ∈ [], Text.isBlank c = true := by simp
  obtain ⟨halike, -⟩ := figures_alike_iff (-273) hbefore hafter
  have hsmall : (-273 : Int).natAbs < Number.integerBound := by decide +kernel
  rw [htext] at halike
  obtain ⟨-, hbeyond⟩ := figures_alike_iff (10 ^ 400) hnone hnone
  obtain ⟨-, hinfinite, hfails⟩ := hbeyond (by decide +kernel)
  have hpositive : decide ((10 ^ 400 : Int) < 0) = false := by decide +kernel
  rw [hpositive] at hinfinite
  exact ⟨htext, (halike.out 0 1).mp hsmall, (halike.out 0 2).mp hsmall, hinfinite,
    fun c => (hfails c []).1⟩

/-- A number with more digits than any float stands for nothing, its figures for infinity. -/
theorem not_figures_alike_googol :
    ¬ ∀ (n : Int) (before after : List Char),
      (∀ c ∈ before, Text.isBlank c = true) → (∀ c ∈ after, Text.isBlank c = true) →
        (Scalar.int n).number? = (Scalar.text (figures before n after)).number? := by
  intro hall
  have hsame := hall (10 ^ 400) [] [] (by simp) (by simp)
  rw [Scalar.number?_int_eq_figures_iff (by simp) (by simp)] at hsame
  revert hsame
  decide +kernel

end TelemetryAlerts
