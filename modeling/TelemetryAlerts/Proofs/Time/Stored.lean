import TelemetryAlerts.Proofs.Text.Digits
import TelemetryAlerts.Time.Reader

/-!
# Stored moments are read back

The text under which a moment is stored names exactly that moment: its calendar fields,
its microseconds and its distance from universal time.

**Results.**
* `ofText?_storedText`: reading the stored text of a moment gives the moment.
* `storedText_injective`: different moments have different stored texts.
-/

namespace TelemetryAlerts
namespace Moment

open Number (padded)

/-- The bounds that the numbers of a moment keep. -/
theorem bounds
    (t : Moment) :
    t.year ≤ 9999 ∧ t.month ≤ 12 ∧ t.day ≤ 31 ∧ t.hour < 24 ∧ t.minute < 60 ∧
      t.second < 60 ∧ t.micro < 1000000 ∧
        ∀ o ∈ t.offset?, -1440 < o ∧ o < 1440 := by
  have hcivil := t.civil
  simp only [isCivil, Bool.and_eq_true, decide_eq_true_eq, Option.all_eq_true] at hcivil
  obtain ⟨⟨⟨⟨⟨⟨⟨⟨⟨⟨-, hyear⟩, -⟩, hmonth⟩, -⟩, hday⟩, hhour⟩, hminute⟩, hsecond⟩, hmicro⟩,
    hoffset⟩ := hcivil
  have hlength : Calendar.daysInMonth t.year t.month ≤ 31 := by
    unfold Calendar.daysInMonth
    split <;> (try split) <;> omega
  exact ⟨hyear, hmonth, hday.trans hlength, hhour, hminute, hsecond, hmicro, hoffset⟩

/-! ### The parts of the text -/

theorem takeDigits?_padded
    {width n : Nat}
    (hpos : 0 < width)
    (hn : n < 10 ^ width)
    (rest : List Char) :
    takeDigits? width (padded width n ++ rest) = some (n, rest) := by
  have hlength := Text.length_padded hpos hn
  have hread : (padded width n).mapM Text.asciiDigit? =
      some (Text.digitValues (padded width n)) :=
    Text.mapM_asciiDigit? fun _ hc => Text.isDigit_of_mem_padded hc
  simp [takeDigits?, List.take_left' hlength, List.drop_left' hlength, hlength, hread,
    Text.ofDigits_padded]

@[simp] theorem takeChar?_cons
    (c : Char) (rest : List Char) :
    takeChar? c (c :: rest) = some rest := by
  simp [takeChar?]

theorem takeDate?_dateText
    (t : Moment) (rest : List Char) :
    takeDate? (t.dateText ++ rest) = some ((t.year, t.month, t.day), rest) := by
  obtain ⟨hyear, hmonth, hday, -⟩ := t.bounds
  have hy := takeDigits?_padded (n := t.year) (by decide : 0 < 4) (by omega)
  have hm := takeDigits?_padded (n := t.month) (by decide : 0 < 2) (by omega)
  have hd := takeDigits?_padded (n := t.day) (by decide : 0 < 2) (by omega)
  simp only [takeDate?, dateText, List.append_assoc, List.cons_append, hy, hm, hd,
    Option.bind_eq_bind, Option.bind_some, takeChar?_cons]
  rfl

/-- What may follow the time of day in a stored text. -/
def EndsTime (rest : List Char) : Prop :=
  ∀ c ∈ rest.head?, c.isDigit = false ∧ c ≠ '.' ∧ c ≠ ','

theorem takeFraction?_fractionText
    (t : Moment)
    {rest : List Char}
    (hrest : EndsTime rest) :
    takeFraction? (t.fractionText ++ rest) = some (t.micro, rest) := by
  by_cases hmicro : t.micro = 0
  · rw [fractionText, if_pos hmicro, hmicro]
    cases rest with
    | nil =>
        rfl
    | cons c rest =>
        obtain ⟨-, hdot, hcomma⟩ := hrest c rfl
        simp [takeFraction?, hdot, hcomma]
  · have hbound : t.micro < 10 ^ 6 := t.bounds.2.2.2.2.2.2.1
    have hlength := Text.length_padded (by decide : 0 < 6) hbound
    have hdigits : ∀ c ∈ padded 6 t.micro, c.isDigit = true :=
      fun _ hc => Text.isDigit_of_mem_padded hc
    have hends : Text.EndsDigits rest := fun c hc => (hrest c hc).1
    have hrun := Text.takeWhile_digits hdigits hends
    have hvalues : (Text.digitValues (padded 6 t.micro)).length = 6 := by
      rw [Text.length_digitValues hdigits, hlength]
    have hmicros : fractionMicros (Text.digitValues (padded 6 t.micro)) = t.micro := by
      rw [fractionMicros, List.take_of_length_le hvalues.le, hvalues, Text.ofDigits_padded]
      simp
    have hne : (Text.digitValues (padded 6 t.micro)).isEmpty = false := by
      rw [List.isEmpty_eq_false_iff, ← List.length_pos_iff]
      omega
    rw [fractionText, if_neg hmicro, List.cons_append, takeFraction?]
    simp only [true_or, if_true, hrun]
    rw [← Text.digitValues, hne, hmicros, hvalues, List.drop_left' hlength]
    simp

/-- The distance from universal time at the end of a stored text. -/
def storedOffset : Option Int → List Char
  | none => []
  | some 0 => ['Z']
  | some o => offsetText o

theorem storedText_eq
    (t : Moment) :
    t.storedText =
      String.ofList (t.dateText ++ 'T' :: t.timeText ++ t.fractionText ++
        storedOffset t.offset?) := by
  unfold storedText storedOffset
  cases t.offset? with
  | none => rfl
  | some o => rfl

theorem endsTime_storedOffset
    (offset? : Option Int) :
    EndsTime (storedOffset offset?) := by
  unfold storedOffset
  split
  · simp [EndsTime]
  · simp [EndsTime]
  · next o _ =>
      simp only [EndsTime, offsetText]
      split <;> simp

theorem offsetPart?_offsetText
    {o : Int}
    (hlow : -1440 < o)
    (hhigh : o < 1440) :
    offsetPart? (offsetText o) = some (some o) := by
  have hhours := takeDigits?_padded (n := o.natAbs / 60) (by decide : 0 < 2) (by omega)
  have hminutes := takeDigits?_padded (n := o.natAbs % 60) (by decide : 0 < 2) (by omega) []
  rw [List.append_nil] at hminutes
  have hsmall : o.natAbs % 60 < 60 := Nat.mod_lt _ (by decide)
  by_cases hneg : o < 0
  · simp only [offsetText, if_pos hneg, List.cons_append, offsetPart?]
    simp [offsetSign?, hhours, hminutes, hsmall, abs_of_neg hneg]
    omega
  · simp only [offsetText, if_neg hneg, List.cons_append, offsetPart?]
    simp [offsetSign?, hhours, hminutes, hsmall, abs_of_nonneg (Int.not_lt.mp hneg)]
    omega

theorem offsetPart?_storedOffset
    {offset? : Option Int}
    (hbounds : ∀ o ∈ offset?, -1440 < o ∧ o < 1440) :
    offsetPart? (storedOffset offset?) = some offset? := by
  unfold storedOffset
  split
  · rfl
  · rfl
  · next o _ =>
      obtain ⟨hlow, hhigh⟩ := hbounds o rfl
      exact offsetPart?_offsetText hlow hhigh

/-! ### The whole text -/

/-- Reading the stored text of a moment gives the moment. -/
theorem ofText?_storedText
    (t : Moment) :
    ofText? t.storedText = some t := by
  obtain ⟨-, -, -, hhour, hminute, hsecond, -, hoffset⟩ := t.bounds
  have hh := takeDigits?_padded (n := t.hour) (by decide : 0 < 2) (by omega)
  have hm := takeDigits?_padded (n := t.minute) (by decide : 0 < 2) (by omega)
  have hs := takeDigits?_padded (n := t.second) (by decide : 0 < 2) (by omega)
  have hfraction := takeFraction?_fractionText t (endsTime_storedOffset t.offset?)
  have hread : ofDateTime? (t.dateText ++ 'T' :: t.timeText ++ t.fractionText ++
      storedOffset t.offset?) = some t := by
    simp only [ofDateTime?, List.append_assoc, List.cons_append, takeDate?_dateText,
      Option.bind_eq_bind, Option.bind_some, List.mem_cons, true_or, if_true, timeText, hh,
      takeChar?_cons, hm, takeSeconds?, hs, hfraction, Option.pure_def,
      offsetPart?_storedOffset hoffset, mk?, t.civil, dif_pos]
  rw [storedText_eq, ofText?, String.toList_ofList, hread]
  rfl

theorem storedText_injective :
    Function.Injective storedText := by
  intro t u h
  have hread := ofText?_storedText t
  rw [h, ofText?_storedText u] at hread
  exact (Option.some.inj hread).symm

end Moment
end TelemetryAlerts
