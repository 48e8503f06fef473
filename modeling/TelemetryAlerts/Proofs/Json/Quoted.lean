import TelemetryAlerts.Json.Reader
import TelemetryAlerts.Json.Writer
import Mathlib.Tactic

/-!
# Strings in stored documents

A string is written in quotes, with escapes for the quote, the backslash and the control
characters. Reading stops at the closing quote and gives the string back.

**Results.**
* `readText_string`: a written string is read back, whatever follows it.
* `string_append_inj`: two texts that begin with written strings agree only if the strings
  do.
-/

namespace TelemetryAlerts
namespace Json

theorem hexDigit?_hexChar
    {d : Nat}
    (hd : d < 16) :
    Text.hexDigit? (Text.hexChar d) = some d := by
  interval_cases d <;> rfl

/-- Four padded hexadecimal digits are read back. -/
theorem fourHexDigits?_hexPadded
    {n : Nat}
    (hn : n < 0x10000)
    (rest : List Char) :
    fourHexDigits? (Text.hexPadded 4 n ++ rest) = some (n, rest) := by
  have h₁ := hexDigit?_hexChar (d := n / 16 / 16 / 16 % 16) (by omega)
  have h₂ := hexDigit?_hexChar (d := n / 16 / 16 % 16) (by omega)
  have h₃ := hexDigit?_hexChar (d := n / 16 % 16) (by omega)
  have h₄ := hexDigit?_hexChar (d := n % 16) (by omega)
  have hsum :
      Text.ofDigits 16
          [n / 16 / 16 / 16 % 16, n / 16 / 16 % 16, n / 16 % 16, n % 16] = n := by
    simp only [Text.ofDigits, List.foldl_cons, List.foldl_nil]
    omega
  simp [Text.hexPadded, fourHexDigits?, h₁, h₂, h₃, h₄, hsum]

/-- The code of a character names that character. -/
theorem charOfCode_toNat
    (c : Char) :
    charOfCode c.toNat = c := by
  have hvalid : c.toNat.isValidChar := c.valid
  simp [charOfCode, hvalid]

/-- The escape of a control character is read back. -/
theorem readEscape_unitEscape
    {c : Char}
    (hc : c.toNat < 0x20)
    (left : Nat)
    (b : Char) (rest : List Char) :
    readEscape left ('u' :: (Text.hexPadded 4 c.toNat ++ b :: rest)) =
      .ok (c, b :: rest) := by
  have hlen : ¬ (Text.hexPadded 4 c.toNat ++ b :: rest).length < 5 := by
    simp [Text.hexPadded]
  have hfour := fourHexDigits?_hexPadded (n := c.toNat) (by omega) (b :: rest)
  have hunit (l : Nat) :
      escapedUnit l (Text.hexPadded 4 c.toNat ++ b :: rest) = .ok (c.toNat, b :: rest) := by
    simp only [escapedUnit, if_neg hlen, hfour]
  have hlow : ¬ (0xD800 ≤ c.toNat ∧ c.toNat < 0xDC00) := by omega
  simp only [readEscape, hunit, bind, Except.bind]
  rw [if_neg hlow, charOfCode_toNat]
  rfl

/-- One written character is read back inside a string. -/
theorem readString_char
    (left fuel : Nat) (acc : List Char)
    (c b : Char) (rest : List Char) :
    readString left (fuel + 1) acc (Style.stored.char c ++ b :: rest) =
      readString left fuel (c :: acc) (b :: rest) := by
  unfold Style.char
  split
  · rfl
  · rfl
  · rfl
  · rfl
  · rfl
  · rfl
  · rfl
  · next hquote hslash _ _ _ _ _ =>
      dsimp only
      split
      · next hctl =>
          have hesc (l : Nat) := readEscape_unitEscape hctl l b rest
          simp only [unitEscape, List.cons_append, readString]
          simp [hesc]
      · next hctl =>
          have hplain : (Style.stored.escapeNonAscii && decide (0x7F ≤ c.toNat)) = false := rfl
          have hquote' : c ≠ '"' := hquote
          have hslash' : c ≠ '\\' := hslash
          rw [hplain]
          simp [readString, hquote', hslash', hctl]

/-- Written characters up to the closing quote are read back. -/
theorem readString_chars
    (left : Nat) (rest : List Char) :
    ∀ (cs : List Char) (fuel : Nat) (acc : List Char),
      cs.length < fuel →
      readString left fuel acc (cs.flatMap Style.stored.char ++ '"' :: rest) =
        .ok (String.ofList (acc.reverse ++ cs), rest)
  | [], fuel + 1, acc, _ => by
      simp [readString]
  | c :: cs, fuel + 1, acc, hfuel => by
      have hstep (b : Char) (tail : List Char) :=
        readString_char left fuel acc c b tail
      have htail := readString_chars left rest cs fuel (c :: acc) (by simpa using hfuel)
      cases hnext : cs.flatMap Style.stored.char ++ '"' :: rest with
      | nil =>
          simp at hnext
      | cons b tail =>
          rw [hnext] at htail
          rw [List.flatMap_cons, List.append_assoc, hnext, hstep, htail]
          simp

theorem length_le_flatMap_char
    (cs : List Char) :
    cs.length ≤ (cs.flatMap Style.stored.char).length := by
  induction cs with
  | nil =>
      simp
  | cons c cs ih =>
      have hpos : 0 < (Style.stored.char c).length := by
        unfold Style.char
        split
        case h_8 =>
            dsimp only
            split_ifs <;> simp [unitEscape]
        all_goals simp
      simp only [List.length_cons, List.flatMap_cons, List.length_append]
      omega

/-- A written string is read back, whatever follows it. -/
theorem readText_string
    (s : String) (rest : List Char) :
    readText (s.toList.flatMap Style.stored.char ++ '"' :: rest) = .ok (s, rest) := by
  have hlen := length_le_flatMap_char s.toList
  have hread :=
    readString_chars ((s.toList.flatMap Style.stored.char ++ '"' :: rest).length + 1) rest
      s.toList ((s.toList.flatMap Style.stored.char ++ '"' :: rest).length + 1) []
      (by simp only [List.length_append, List.length_cons]; omega)
  simpa [readText] using hread

/-- Two texts that begin with written strings agree only if the strings do. -/
theorem string_append_inj
    {s t : String} {u v : List Char}
    (h : Style.stored.string s ++ u = Style.stored.string t ++ v) :
    s = t ∧ u = v := by
  simp only [Style.string, List.cons_append, List.append_assoc, List.nil_append,
    List.cons.injEq, true_and] at h
  have hs := readText_string s u
  rw [h, readText_string t v] at hs
  simp only [Except.ok.injEq, Prod.mk.injEq] at hs
  exact ⟨hs.1.symm, hs.2.symm⟩

end Json
end TelemetryAlerts
