import TelemetryAlerts.Json.Reader
import TelemetryAlerts.Json.Writer
import TelemetryAlerts.Proofs.Number.Decimal
import TelemetryAlerts.Proofs.Text.Digits

/-!
# Numbers in stored documents

A whole number is written with all its digits, a finite float with the digits of its
shortest decimal and always with a point or an exponent. So the two are told apart when
they are read, and each is read back as it was.

**Results.**
* `readNumber_int`: a whole number is read back, unless it has too many digits.
* `readNumber_float`: a finite float is read back.
-/

namespace TelemetryAlerts
namespace Json

open Number

/-- A text that does not go on with any character of a number. -/
def EndsNumber (rest : List Char) : Prop :=
  ∀ c ∈ rest.head?, c.isDigit = false ∧ c ≠ '.' ∧ c ≠ 'e' ∧ c ≠ 'E'

theorem EndsNumber.endsDigits
    {rest : List Char}
    (h : EndsNumber rest) :
    Text.EndsDigits rest :=
  fun c hc => (h c hc).1

theorem endsNumber_cons
    {c : Char}
    (rest : List Char)
    (hc : c.isDigit = false ∧ c ≠ '.' ∧ c ≠ 'e' ∧ c ≠ 'E') :
    EndsNumber (c :: rest) := by
  simpa [EndsNumber] using hc

/-- Digits that stand before the point: no zero is in front of another digit. -/
structure WholePart (ds : List Char) : Prop where
  isDigit : ∀ c ∈ ds, c.isDigit = true
  ne_nil : ds ≠ []
  lone_zero : ds.head? = some '0' → ds = ['0']

/-- The sign of a number. -/
def signText (negative : Bool) : List Char :=
  if negative then ['-'] else []

/-! ### The parts of a number -/

theorem spanAsciiDigits_append
    {ds rest : List Char}
    (hds : ∀ c ∈ ds, c.isDigit = true)
    (hrest : Text.EndsDigits rest) :
    spanAsciiDigits (ds ++ rest) = (ds, rest) := by
  simp only [spanAsciiDigits, Text.takeWhile_digits hds hrest, Text.dropWhile_digits hds hrest]

theorem digitsValue_eq
    (ds : List Char) :
    digitsValue ds = Text.ofDigits 10 (Text.digitValues ds) := rfl

theorem spanFraction_none
    {rest : List Char}
    (h : ∀ c ∈ rest.head?, c ≠ '.') :
    spanFraction rest = none := by
  unfold spanFraction
  split
  · exact absurd rfl (h '.' (by simp))
  · rfl

theorem spanFraction_digits
    {ds rest : List Char}
    (hds : ∀ c ∈ ds, c.isDigit = true)
    (hne : ds ≠ [])
    (hrest : Text.EndsDigits rest) :
    spanFraction ('.' :: (ds ++ rest)) = some (ds, rest) := by
  have hempty : ds.isEmpty = false := by simpa using hne
  simp [spanFraction, spanAsciiDigits_append hds hrest, hempty]

theorem spanExponent_none
    {rest : List Char}
    (h : ∀ c ∈ rest.head?, c ≠ 'e' ∧ c ≠ 'E') :
    spanExponent rest = none := by
  unfold spanExponent
  split
  · next c tail =>
      obtain ⟨h₁, h₂⟩ := h c (by simp)
      simp [h₁, h₂]
  · rfl

/-- An exponent of at least two digits is read back. -/
theorem spanExponent_padded
    (e : Int)
    {rest : List Char}
    (hrest : Text.EndsDigits rest) :
    spanExponent
        ('e' :: (if e < 0 then '-' else '+') :: (padded 2 e.natAbs ++ rest)) =
      some (e, rest) := by
  have hspan :
      spanAsciiDigits (padded 2 e.natAbs ++ rest) = (padded 2 e.natAbs, rest) :=
    spanAsciiDigits_append (fun c hc => Text.isDigit_of_mem_padded hc) hrest
  have hempty : (padded 2 e.natAbs).isEmpty = false := by
    have hne : padded 2 e.natAbs ≠ [] := by
      simp [padded, Nat.toDigits_ne_nil]
    simpa using hne
  have hvalue : digitsValue (padded 2 e.natAbs) = e.natAbs := by
    rw [digitsValue_eq, Text.ofDigits_padded]
  by_cases he : e < 0
  · simp [he, spanExponent, hspan, hempty, hvalue, abs_of_neg]
  · simp [he, spanExponent, hspan, hempty, hvalue, abs_of_nonneg (not_lt.mp he)]

/-- The sign in front of digits is split off. -/
theorem spanMinus_signText
    (negative : Bool)
    (tail : List Char)
    {ds : List Char}
    (hds : ∀ c ∈ ds, c.isDigit = true)
    (hne : ds ≠ []) :
    spanMinus (signText negative ++ (ds ++ tail)) = (negative, ds ++ tail) := by
  cases negative with
  | true =>
      rfl
  | false =>
      cases ds with
      | nil =>
          exact absurd rfl hne
      | cons d more =>
          have hd : d.isDigit = true := hds d (by simp)
          have hminus : d ≠ '-' := by
            rintro rfl
            simp at hd
          simp [signText, spanMinus, hminus]

/-- A number is read part by part: its sign, its whole part, a fraction and an exponent. -/
theorem readNumber_of_spans
    (negative : Bool)
    (tail : List Char)
    (fraction? : Option (List Char × List Char))
    (exponent? : Option (Int × List Char))
    {ds : List Char}
    (hds : WholePart ds)
    (htail : Text.EndsDigits tail)
    (hfraction : spanFraction tail = fraction?)
    (hexponent : spanExponent ((fraction?.map (·.2)).getD tail) = exponent?) :
    readNumber (signText negative ++ (ds ++ tail)) =
      (let rest := (exponent?.map (·.2)).getD ((fraction?.map (·.2)).getD tail)
      if fraction?.isNone && exponent?.isNone then
        if maxWholeDigits < ds.length then .error .tooManyDigits
        else .ok (.int (if negative then -(digitsValue ds : Int) else digitsValue ds), rest)
      else
        .ok (.float (Decimal.mk negative
          (digitsValue (ds ++ (fraction?.map (·.1)).getD []))
          ((exponent?.map (·.1)).getD 0 - ((fraction?.map (·.1)).getD []).length)).toFloat,
          rest)) := by
  obtain ⟨hdigits, hne, hzero⟩ := hds
  have hsign := spanMinus_signText negative tail hdigits hne
  cases ds with
  | nil =>
      exact absurd rfl hne
  | cons d more =>
      have hwhole :
          (if d == '0' then ([d], more ++ tail) else (d :: more, tail)) =
            (d :: more, tail) := by
        by_cases hd : d = '0'
        · subst hd
          have hmore : more = [] := by simpa using hzero rfl
          simp [hmore]
        · simp [hd]
      simp only [readNumber, hsign, spanAsciiDigits_append hdigits htail, hwhole, hfraction,
        hexponent]

/-! ### Whole numbers -/

/-- The digits of a number begin with a zero only if that is all. -/
theorem wholePart_toDigits
    (n : Nat) :
    WholePart (Nat.toDigits 10 n) := by
  refine ⟨fun c hc => Text.isDigit_of_mem_toDigits hc, Nat.toDigits_ne_nil, ?_⟩
  induction n using Nat.strong_induction_on with
  | _ n ih =>
      rw [Nat.toDigits_eq_if (by decide)]
      split
      · next hn =>
          intro h
          simpa using h
      · next hn =>
          intro h
          have hhead : (Nat.toDigits 10 (n / 10)).head? = some '0' := by
            cases hrest : Nat.toDigits 10 (n / 10) with
            | nil =>
                exact absurd hrest Nat.toDigits_ne_nil
            | cons d more =>
                simpa [hrest] using h
          have hzero := ih (n / 10) (by omega) hhead
          have hvalue := Text.ofDigits_toDigits (n / 10)
          rw [hzero] at hvalue
          have hten : n / 10 = 0 := hvalue.symm
          omega

theorem intText_eq
    (n : Int) :
    intText n = signText (decide (n < 0)) ++ Nat.toDigits 10 n.natAbs := by
  by_cases hn : n < 0 <;> simp [intText, signText, hn]

/-- A whole number is read back, unless it has too many digits. -/
theorem readNumber_int
    (n : Int)
    {rest : List Char}
    (hrest : EndsNumber rest) :
    readNumber (intText n ++ rest) =
      if maxWholeDigits < (Nat.toDigits 10 n.natAbs).length then .error .tooManyDigits
      else .ok (.int n, rest) := by
  have hfraction : spanFraction rest = none := spanFraction_none fun c hc => (hrest c hc).2.1
  have hexponent : spanExponent rest = none := spanExponent_none fun c hc => (hrest c hc).2.2
  have hread :=
    readNumber_of_spans (decide (n < 0)) rest none none (wholePart_toDigits n.natAbs)
      hrest.endsDigits hfraction (by simpa using hexponent)
  have hvalue :
      (if decide (n < 0) then -(digitsValue (Nat.toDigits 10 n.natAbs) : Int)
        else digitsValue (Nat.toDigits 10 n.natAbs)) = n := by
    rw [digitsValue_eq, Text.ofDigits_toDigits]
    by_cases hn : n < 0
    · simp only [hn, decide_true, if_true]
      omega
    · simp only [hn, decide_false, Bool.false_eq_true, if_false]
      omega
  rw [intText_eq, List.append_assoc, hread]
  simp only [Option.isNone_none, Bool.and_self, if_true, Option.map_none, Option.getD_none,
    hvalue]

/-! ### Floats -/

/-- The zeros at the end of a run of digits are all that is dropped from it. -/
theorem dropZeros_append
    (ds : List Char) :
    ∃ k, ds = dropZeros ds ++ List.replicate k '0' := by
  refine ⟨(ds.reverse.takeWhile (· == '0')).length, ?_⟩
  have hzeros :
      ds.reverse.takeWhile (· == '0') =
        List.replicate (ds.reverse.takeWhile (· == '0')).length '0' := by
    rw [List.eq_replicate_iff]
    refine ⟨rfl, fun c hc => ?_⟩
    simpa using List.mem_takeWhile_imp hc
  have hsplit := List.takeWhile_append_dropWhile (p := (· == '0')) (l := ds.reverse)
  calc ds = ds.reverse.reverse := by simp
    _ = (ds.reverse.takeWhile (· == '0') ++ ds.reverse.dropWhile (· == '0')).reverse := by
        rw [hsplit]
    _ = dropZeros ds ++ (ds.reverse.takeWhile (· == '0')).reverse := by
        rw [List.reverse_append, dropZeros]
    _ = dropZeros ds ++
          List.replicate (ds.reverse.takeWhile (· == '0')).length '0' := by
        conv_lhs => rw [hzeros]
        rw [List.reverse_replicate]

theorem isDigit_of_mem_zeros
    {k : Nat} {c : Char}
    (hc : c ∈ List.replicate k '0') :
    c.isDigit = true := by
  obtain ⟨-, rfl⟩ := List.mem_replicate.mp hc
  rfl

/-- Zeros at the end of digits scale what they spell. -/
theorem digitsValue_append_zeros
    (ds : List Char) (k : Nat) :
    digitsValue (ds ++ List.replicate k '0') = digitsValue ds * 10 ^ k := by
  have hzeros : Text.ofDigits 10 (Text.digitValues (List.replicate k '0')) = 0 := by
    have h := Text.ofDigits_replicate_zero k []
    rw [List.append_nil] at h
    exact h
  have hlen : (Text.digitValues (List.replicate k '0')).length = k := by
    rw [Text.length_digitValues]
    · simp
    · intro c hc
      obtain ⟨-, rfl⟩ := List.mem_replicate.mp hc
      rfl
  rw [digitsValue_eq, digitsValue_eq, Text.digitValues_append, Text.ofDigits_append, hzeros,
    hlen, Nat.add_zero]

/-- Digits that are laid out around a point: they begin with a zero only if that is all. -/
structure Figures (ds : List Char) (point : Int) : Prop where
  isDigit : ∀ c ∈ ds, c.isDigit = true
  ne_nil : ds ≠ []
  lone_zero : ds.head? = some '0' → ds = ['0'] ∧ point = 1

theorem Figures.wholePart
    {ds more : List Char} {point : Int}
    (h : Figures (ds ++ more) point)
    (hne : ds ≠ []) :
    WholePart ds := by
  refine ⟨fun c hc => h.isDigit c (by simp [hc]), hne, fun hhead => ?_⟩
  cases ds with
  | nil =>
      exact absurd rfl hne
  | cons d rest =>
      have hall := (h.lone_zero (by simpa using hhead)).1
      simp only [List.cons_append, List.cons.injEq, List.append_eq_nil_iff] at hall
      simp [hall.1, hall.2.1]

/-- A float that is read back from a text has a given value. -/
def ReadsFloat (negative : Bool) (text rest : List Char) (value : ℚ) : Prop :=
  ∃ m e, readNumber (signText negative ++ (text ++ rest)) =
    .ok (.float (Decimal.mk negative m e).toFloat, rest) ∧ decimalValue m e = value

/-- Digits before and after a point are read back. -/
theorem readsFloat_fraction
    (negative : Bool)
    {ds fs rest : List Char}
    (hds : WholePart ds)
    (hfs : ∀ c ∈ fs, c.isDigit = true)
    (hne : fs ≠ [])
    (hrest : EndsNumber rest) :
    ReadsFloat negative (ds ++ '.' :: fs) rest
      (decimalValue (digitsValue (ds ++ fs)) (-(fs.length : Int))) := by
  refine ⟨digitsValue (ds ++ fs), -(fs.length : Int), ?_, rfl⟩
  have hexponent : spanExponent rest = none := spanExponent_none fun c hc => (hrest c hc).2.2
  have hread :=
    readNumber_of_spans negative ('.' :: (fs ++ rest)) _ none hds (by simp)
      (spanFraction_digits hfs hne hrest.endsDigits) (by simpa using hexponent)
  rw [List.append_assoc, List.cons_append, hread]
  simp

/-- Digits with an exponent are read back. -/
theorem readsFloat_wholeExponent
    (negative : Bool)
    {ds rest : List Char} (x : Int)
    (hds : WholePart ds)
    (hrest : EndsNumber rest) :
    ReadsFloat negative (ds ++ 'e' :: (if x < 0 then '-' else '+') :: padded 2 x.natAbs) rest
      (decimalValue (digitsValue ds) x) := by
  refine ⟨digitsValue ds, x, ?_, rfl⟩
  have hread :=
    readNumber_of_spans negative
      ('e' :: (if x < 0 then '-' else '+') :: (padded 2 x.natAbs ++ rest))
      none _ hds (by simp) (spanFraction_none (by simp))
      (spanExponent_padded x hrest.endsDigits)
  simp only [List.append_assoc, List.cons_append]
  rw [hread]
  simp

/-- Digits before and after a point, with an exponent, are read back. -/
theorem readsFloat_fractionExponent
    (negative : Bool)
    {ds fs rest : List Char} (x : Int)
    (hds : WholePart ds)
    (hfs : ∀ c ∈ fs, c.isDigit = true)
    (hne : fs ≠ [])
    (hrest : EndsNumber rest) :
    ReadsFloat negative
      ((ds ++ '.' :: fs) ++ 'e' :: (if x < 0 then '-' else '+') :: padded 2 x.natAbs) rest
      (decimalValue (digitsValue (ds ++ fs)) (x - fs.length)) := by
  refine ⟨digitsValue (ds ++ fs), x - fs.length, ?_, rfl⟩
  have hread :=
    readNumber_of_spans negative
      ('.' :: (fs ++ ('e' :: (if x < 0 then '-' else '+') :: (padded 2 x.natAbs ++ rest))))
      _ _ hds (by simp) (spanFraction_digits hfs hne (by simp))
      (spanExponent_padded x hrest.endsDigits)
  simp only [List.append_assoc, List.cons_append]
  rw [hread]
  simp

/-- Digits with an exponent are read back, with a point after the first digit or without. -/
theorem readsFloat_exponent
    (negative : Bool)
    {ds rest : List Char} {point : Int}
    (hds : Figures ds point)
    (hrest : EndsNumber rest) :
    ReadsFloat negative
      ((if ds.length ≤ 1 then ds else ds.take 1 ++ '.' :: ds.drop 1) ++
        'e' :: (if point - 1 < 0 then '-' else '+') :: padded 2 (point - 1).natAbs)
      rest (decimalValue (digitsValue ds) (point - ds.length)) := by
  have hpositive : 0 < ds.length := List.length_pos_of_ne_nil hds.ne_nil
  by_cases hshort : ds.length ≤ 1
  · have hlen : (ds.length : Int) = 1 := by omega
    have hwhole : WholePart ds := ⟨hds.isDigit, hds.ne_nil, fun h => (hds.lone_zero h).1⟩
    rw [if_pos hshort, hlen]
    exact readsFloat_wholeExponent negative (point - 1) hwhole hrest
  · have hsplit : ds.take 1 ++ ds.drop 1 = ds := List.take_append_drop 1 ds
    have htake : ds.take 1 ≠ [] := List.ne_nil_of_length_pos (by rw [List.length_take]; omega)
    have hdrop : ds.drop 1 ≠ [] := List.ne_nil_of_length_pos (by rw [List.length_drop]; omega)
    have hwhole : WholePart (ds.take 1) := Figures.wholePart (hsplit.symm ▸ hds) htake
    have hlen : point - ds.length = point - 1 - (ds.drop 1).length := by
      rw [List.length_drop]
      omega
    have hread := readsFloat_fractionExponent negative (point - 1) hwhole
      (fun c hc => hds.isDigit c (List.mem_of_mem_drop hc)) hdrop hrest
    rw [hsplit, ← hlen] at hread
    rwa [if_neg hshort]

/-- A zero, the point, and zeros in front of the digits. -/
theorem readsFloat_leadingZeros
    (negative : Bool)
    {ds rest : List Char} {point : Int}
    (hds : Figures ds point)
    (hrest : EndsNumber rest)
    (hpoint : point ≤ 0) :
    ReadsFloat negative ('0' :: '.' :: List.replicate (-point).toNat '0' ++ ds) rest
      (decimalValue (digitsValue ds) (point - ds.length)) := by
  have hfs : ∀ c ∈ List.replicate (-point).toNat '0' ++ ds, c.isDigit = true :=
    List.forall_mem_append.mpr ⟨fun c => isDigit_of_mem_zeros, hds.isDigit⟩
  have hzero : WholePart ['0'] := ⟨by simp, by simp, by simp⟩
  have hread := readsFloat_fraction negative hzero hfs (by simp [hds.ne_nil]) hrest
  have hvalue :
      digitsValue (['0'] ++ (List.replicate (-point).toNat '0' ++ ds)) = digitsValue ds := by
    have h := Text.ofDigits_replicate_zero ((-point).toNat + 1) ds
    simpa only [digitsValue_eq, List.replicate_succ, List.cons_append, List.nil_append] using h
  have hexp :
      -((List.replicate (-point).toNat '0' ++ ds).length : Int) = point - ds.length := by
    rw [List.length_append, List.length_replicate]
    omega
  rw [hvalue, hexp] at hread
  simpa using hread

/-- Zeros after the digits leave a whole part, since a zero that is all has none after it. -/
theorem Figures.wholePart_append_zeros
    {ds : List Char} {point : Int}
    (h : Figures ds point) :
    WholePart (ds ++ List.replicate (point.toNat - ds.length) '0') := by
  refine ⟨List.forall_mem_append.mpr ⟨h.isDigit, fun c => isDigit_of_mem_zeros⟩,
    by simp [h.ne_nil], fun hhead => ?_⟩
  rw [List.head?_append_of_ne_nil _ h.ne_nil] at hhead
  obtain ⟨rfl, rfl⟩ := h.lone_zero hhead
  rfl

/-- All digits before the point, with zeros after them. -/
theorem readsFloat_trailingZeros
    (negative : Bool)
    {ds rest : List Char} {point : Int}
    (hds : Figures ds point)
    (hrest : EndsNumber rest)
    (hlong : ds.length ≤ point.toNat) :
    ReadsFloat negative
      (ds ++ List.replicate (point.toNat - ds.length) '0' ++ Layout.standard.wholeTail.toList)
      rest (decimalValue (digitsValue ds) (point - ds.length)) := by
  have hpositive : 0 < ds.length := List.length_pos_of_ne_nil hds.ne_nil
  have hread := readsFloat_fraction negative hds.wholePart_append_zeros
    (by simp : ∀ c ∈ ['0'], c.isDigit = true) (by simp) hrest
  have hall : ds ++ List.replicate (point.toNat - ds.length) '0' ++ ['0'] =
      ds ++ List.replicate (point.toNat - ds.length + 1) '0' := by
    rw [List.append_assoc, List.replicate_succ']
  have hexp : ((point.toNat - ds.length + 1 : Nat) : Int) + -((['0'].length : Nat) : Int) =
      point - ds.length := by
    simp only [List.length_singleton]
    omega
  rw [hall, digitsValue_append_zeros, decimalValue_mul_pow, hexp] at hread
  simpa [Layout.standard] using hread

/-- The point among the digits. -/
theorem readsFloat_pointAmong
    (negative : Bool)
    {ds rest : List Char} {point : Int}
    (hds : Figures ds point)
    (hrest : EndsNumber rest)
    (hpoint : 0 < point)
    (hshort : point.toNat < ds.length) :
    ReadsFloat negative (ds.take point.toNat ++ '.' :: ds.drop point.toNat) rest
      (decimalValue (digitsValue ds) (point - ds.length)) := by
  have hsplit : ds.take point.toNat ++ ds.drop point.toNat = ds := List.take_append_drop _ ds
  have htake : ds.take point.toNat ≠ [] := by
    intro h
    rcases List.take_eq_nil_iff.mp h with h | h
    · omega
    · exact hds.ne_nil h
  have hdrop : ds.drop point.toNat ≠ [] := by
    intro h
    have := List.drop_eq_nil_iff.mp h
    omega
  have hwhole : WholePart (ds.take point.toNat) := Figures.wholePart (hsplit.symm ▸ hds) htake
  have hread := readsFloat_fraction negative hwhole
    (fun c hc => hds.isDigit c (List.mem_of_mem_drop hc)) hdrop hrest
  have hexp : -((ds.drop point.toNat).length : Int) = point - ds.length := by
    rw [List.length_drop]
    omega
  rwa [hsplit, hexp] at hread

/-- Digits that are laid out around a point are read back. -/
theorem readsFloat_magnitude
    (negative : Bool)
    {ds rest : List Char} {point : Int}
    (hds : Figures ds point)
    (hrest : EndsNumber rest) :
    ReadsFloat negative (Layout.standard.magnitude ds point) rest
      (decimalValue (digitsValue ds) (point - ds.length)) := by
  unfold Layout.magnitude
  by_cases hrange : Layout.standard.positionalFrom ≤ point ∧ point ≤ Layout.standard.positionalTo
  · rw [if_pos hrange]
    split_ifs with hpoint hlong
    · exact readsFloat_leadingZeros negative hds hrest hpoint
    · exact readsFloat_trailingZeros negative hds hrest hlong
    · exact readsFloat_pointAmong negative hds hrest (by omega) (by omega)
  · rw [if_neg hrange]
    exact readsFloat_exponent negative hds hrest

/-- What is left of the digits of a number without the zeros at their end spells the number
up to a power of ten. -/
theorem exists_dropZeros_toDigits
    (n : Nat) :
    ∃ k, Nat.toDigits 10 n = dropZeros (Nat.toDigits 10 n) ++ List.replicate k '0' ∧
      digitsValue (dropZeros (Nat.toDigits 10 n)) * 10 ^ k = n := by
  obtain ⟨k, hk⟩ := dropZeros_append (Nat.toDigits 10 n)
  refine ⟨k, hk, ?_⟩
  rw [← digitsValue_append_zeros, ← hk]
  exact Text.ofDigits_toDigits n

theorem figures_dropZeros
    {n : Nat}
    (hn : n ≠ 0)
    (exponent : Int) :
    Figures (dropZeros (Nat.toDigits 10 n)) ((Nat.toDigits 10 n).length + exponent) := by
  obtain ⟨k, hk, hvalue⟩ := exists_dropZeros_toDigits n
  have hwhole := wholePart_toDigits n
  refine ⟨fun c hc => hwhole.isDigit c ?_, fun hnil => hn ?_, fun hhead => absurd ?_ hn⟩
  · rw [hk]
    exact List.mem_append_left _ hc
  · rw [hnil, show digitsValue [] = 0 from rfl, Nat.zero_mul] at hvalue
    exact hvalue.symm
  · have hhead' : (Nat.toDigits 10 n).head? = some '0' := by
      rw [hk, List.head?_append, hhead]
      rfl
    have hspelled := Text.ofDigits_toDigits n
    rw [hwhole.lone_zero hhead'] at hspelled
    exact hspelled.symm

theorem decimalValue_dropZeros
    (n : Nat) (exponent : Int) :
    decimalValue (digitsValue (dropZeros (Nat.toDigits 10 n)))
        ((Nat.toDigits 10 n).length + exponent - (dropZeros (Nat.toDigits 10 n)).length) =
      decimalValue n exponent := by
  obtain ⟨k, hk, hvalue⟩ := exists_dropZeros_toDigits n
  have hlength := congrArg List.length hk
  rw [List.length_append, List.length_replicate] at hlength
  conv_rhs => rw [← hvalue, decimalValue_mul_pow]
  congr 1
  omega

/-- A written decimal is read back as the float that it stands for. -/
theorem readNumber_decimal
    (x : Decimal)
    {rest : List Char}
    (hrest : EndsNumber rest) :
    readNumber (Layout.standard.decimal x ++ rest) = .ok (.float x.toFloat, rest) := by
  have hsign (body : List Char) :
      (if x.negative then '-' :: body else body) ++ rest =
        signText x.negative ++ (body ++ rest) := by
    cases x.negative <;> simp [signText]
  obtain ⟨m, e, hread, hvalue⟩ :
      ReadsFloat x.negative
        (if x.digits = 0 then Layout.standard.magnitude ['0'] 1
          else
            let ds := Nat.toDigits 10 x.digits
            Layout.standard.magnitude (dropZeros ds) (ds.length + x.exponent))
        rest (decimalValue x.digits x.exponent) := by
    split_ifs with hzero
    · have hfigures : Figures ['0'] 1 := ⟨by simp, by simp, by simp⟩
      have hread := readsFloat_magnitude x.negative hfigures hrest
      have hvalue : decimalValue (digitsValue ['0']) (1 - (['0'].length : Int)) =
          decimalValue x.digits x.exponent := by
        rw [hzero, (decimalValue_eq_zero_iff _ _).mpr rfl]
        exact (decimalValue_eq_zero_iff _ _).mpr rfl
      rwa [hvalue] at hread
    · have hread := readsFloat_magnitude x.negative (figures_dropZeros hzero x.exponent) hrest
      rwa [decimalValue_dropZeros] at hread
  have hbits : decimalBits m e = decimalBits x.digits x.exponent := decimalBits_congr hvalue
  have hfloat : (Decimal.mk x.negative m e).toFloat = x.toFloat := by
    simp only [Decimal.toFloat, hbits]
  rw [Layout.decimal, hsign, hread, hfloat]

/-- A finite float is read back. -/
theorem readNumber_float
    {x : Float}
    (hx : isFinite x = true)
    {rest : List Char}
    (hrest : EndsNumber rest) :
    readNumber (Style.stored.float x ++ rest) = .ok (.float x, rest) := by
  obtain ⟨p, hp⟩ := (isFinite_iff x).mp hx
  have hread := readNumber_decimal p.shortest hrest
  simpa [Style.float, hx, Layout.float, hp, toFloat_shortest hp] using hread

/-- Whatever is read as a number begins with a digit, or with a sign and a digit. -/
theorem exists_digit_of_readNumber
    {cs : List Char} {v : Json} {rest : List Char}
    (h : readNumber cs = .ok (v, rest)) :
    ∃ negative d more, cs = signText negative ++ d :: more ∧ d.isDigit = true := by
  have hsplit : cs = signText (spanMinus cs).1 ++ (spanMinus cs).2 := by
    unfold spanMinus
    split <;> simp [signText]
  have hrun : (spanAsciiDigits (spanMinus cs).2).1 ≠ [] := by
    intro hnil
    simp only [readNumber, hnil] at h
    simp [malformedAt] at h
  cases hbody : (spanMinus cs).2 with
  | nil =>
      rw [hbody] at hrun
      exact absurd rfl hrun
  | cons d more =>
      refine ⟨(spanMinus cs).1, d, more, by rw [← hbody, ← hsplit], ?_⟩
      rw [hbody] at hrun
      by_contra hd
      refine hrun ?_
      simp [spanAsciiDigits, Text.isSome_asciiDigit?, hd]

end Json
end TelemetryAlerts
