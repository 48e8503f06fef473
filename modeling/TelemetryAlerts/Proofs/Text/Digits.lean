import TelemetryAlerts.Text.Digit
import TelemetryAlerts.Number.Layout
import Mathlib.Data.List.Induction
import Mathlib.Tactic

/-!
# Numbers as digit texts

The decimal digits that a natural number is written with, and the number that they
spell when they are read.

**Results.**
* `ofDigits_toDigits`: the digits of a number spell it.
* `ofDigits_padded`: zeros in front make no difference.
* `takeWhile_digits`: a run of digits ends where the digits end.
-/

namespace TelemetryAlerts
namespace Text

/-- The digit characters are those that have a value. -/
theorem isSome_asciiDigit? (c : Char) :
    (asciiDigit? c).isSome = c.isDigit := by
  simp only [asciiDigit?, Char.isDigit, Char.le_def]
  split <;> simp_all [UInt32.le_iff_toNat_le]

@[simp] theorem asciiDigit?_digitChar
    {d : Nat}
    (hd : d < 10) :
    asciiDigit? d.digitChar = some d := by
  interval_cases d <;> rfl

/-- A number spelled by two runs of digits one after the other. -/
theorem ofDigits_append
    (base : Nat)
    (xs ys : List Nat) :
    ofDigits base (xs ++ ys) =
      ofDigits base xs * base ^ ys.length + ofDigits base ys := by
  induction ys using List.reverseRecOn with
  | nil =>
      simp [ofDigits]
  | append_singleton ys y ih =>
      simp only [ofDigits] at ih ⊢
      rw [← List.append_assoc, List.foldl_append, ih]
      simp only [List.foldl_append, List.foldl_cons, List.foldl_nil, List.length_append,
        List.length_cons, List.length_nil]
      ring

/-- The values of the digit characters in a text. -/
def digitValues (cs : List Char) : List Nat :=
  cs.filterMap asciiDigit?

@[simp] theorem digitValues_append
    (cs ds : List Char) :
    digitValues (cs ++ ds) = digitValues cs ++ digitValues ds := by
  simp [digitValues]

theorem isDigit_of_mem_toDigits
    {n : Nat} {c : Char}
    (hc : c ∈ Nat.toDigits 10 n) :
    c.isDigit = true :=
  Nat.isDigit_of_mem_toDigits (by decide) (by decide) hc

theorem exists_asciiDigit?
    {c : Char}
    (hc : c.isDigit = true) :
    ∃ d, asciiDigit? c = some d := by
  rw [← Option.isSome_iff_exists, isSome_asciiDigit?, hc]

/-- Every digit character has one value. -/
theorem length_digitValues
    {cs : List Char}
    (hcs : ∀ c ∈ cs, c.isDigit = true) :
    (digitValues cs).length = cs.length := by
  induction cs with
  | nil =>
      rfl
  | cons c cs ih =>
      obtain ⟨d, hd⟩ := exists_asciiDigit? (hcs c (by simp))
      have htail := ih fun b hb => hcs b (by simp [hb])
      simpa [digitValues, hd] using htail

/-- Reading digit characters one by one gives all their values. -/
theorem mapM_asciiDigit?
    {cs : List Char}
    (hcs : ∀ c ∈ cs, c.isDigit = true) :
    cs.mapM asciiDigit? = some (digitValues cs) := by
  induction cs with
  | nil =>
      rfl
  | cons c cs ih =>
      obtain ⟨d, hd⟩ := exists_asciiDigit? (hcs c (by simp))
      have htail := ih fun b hb => hcs b (by simp [hb])
      simp [digitValues, hd, htail]

/-- The digits of a number spell it. -/
theorem ofDigits_toDigits
    (n : Nat) :
    ofDigits 10 (digitValues (Nat.toDigits 10 n)) = n := by
  induction n using Nat.strong_induction_on with
  | _ n ih =>
      rw [Nat.toDigits_eq_if (by decide)]
      split
      · next hn =>
          simp [digitValues, ofDigits, hn]
      · next hn =>
          have hrest := ih (n / 10) (by omega)
          have hlast : n % 10 < 10 := Nat.mod_lt _ (by decide)
          rw [digitValues_append, ofDigits_append, hrest]
          simp [digitValues, ofDigits, hlast]
          omega

/-- Zeros in front of digits do not change what they spell. -/
theorem ofDigits_replicate_zero
    (k : Nat) (cs : List Char) :
    ofDigits 10 (digitValues (List.replicate k '0' ++ cs)) =
      ofDigits 10 (digitValues cs) := by
  induction k with
  | zero =>
      rfl
  | succ k ih =>
      rw [← ih, List.replicate_succ]
      rfl

theorem ofDigits_padded
    (width n : Nat) :
    ofDigits 10 (digitValues (Number.padded width n)) = n := by
  simp only [Number.padded]
  rw [ofDigits_replicate_zero, ofDigits_toDigits]

theorem isDigit_of_mem_padded
    {width n : Nat} {c : Char}
    (hc : c ∈ Number.padded width n) :
    c.isDigit = true := by
  simp only [Number.padded, List.mem_append, List.mem_replicate] at hc
  rcases hc with ⟨-, rfl⟩ | hc
  · rfl
  · exact isDigit_of_mem_toDigits hc

/-- A number that fits has exactly as many digits as it is padded to. -/
theorem length_padded
    {width n : Nat}
    (hpos : 0 < width)
    (hn : n < 10 ^ width) :
    (Number.padded width n).length = width := by
  have hle : (Nat.toDigits 10 n).length ≤ width :=
    (Nat.length_toDigits_le_iff (by decide) hpos).mpr hn
  simp only [Number.padded, List.length_append, List.length_replicate]
  omega

/-- A text that does not go on with a digit. -/
def EndsDigits (rest : List Char) : Prop :=
  ∀ c ∈ rest.head?, c.isDigit = false

@[simp] theorem endsDigits_nil : EndsDigits [] := by
  simp [EndsDigits]

@[simp] theorem endsDigits_cons
    (c : Char) (rest : List Char) :
    EndsDigits (c :: rest) ↔ c.isDigit = false := by
  simp [EndsDigits]

/-- A run of digits is taken whole, and nothing beyond it. -/
theorem takeWhile_digits
    {ds rest : List Char}
    (hds : ∀ c ∈ ds, c.isDigit = true)
    (hrest : EndsDigits rest) :
    (ds ++ rest).takeWhile (fun c => (asciiDigit? c).isSome) = ds := by
  simp only [isSome_asciiDigit?]
  rw [List.takeWhile_append_of_pos hds]
  cases rest with
  | nil =>
      simp
  | cons c rest =>
      have hc : c.isDigit = false := by simpa using hrest
      simp [hc]

/-- What follows a run of digits is left. -/
theorem dropWhile_digits
    {ds rest : List Char}
    (hds : ∀ c ∈ ds, c.isDigit = true)
    (hrest : EndsDigits rest) :
    (ds ++ rest).dropWhile (fun c => (asciiDigit? c).isSome) = rest := by
  simp only [isSome_asciiDigit?]
  rw [List.dropWhile_append_of_pos hds]
  cases rest with
  | nil =>
      rfl
  | cons c rest =>
      have hc : c.isDigit = false := by simpa using hrest
      simp [hc]

end Text
end TelemetryAlerts
