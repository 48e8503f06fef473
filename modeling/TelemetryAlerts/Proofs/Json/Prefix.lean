import TelemetryAlerts.Proofs.Json.RoundTrip

/-!
# Where a stored value ends

The text of a value tells where it ends: two texts that begin with values agree only if
the values have the same text. That holds of values that cannot be read as well.

**Results.**
* `value_append_inj`: two texts that begin with values agree part by part.
* `object_inj`, `fields_cons_inj`: so do the texts of objects, field by field.
* `int_of_value`, `readBack_of_value`: what the text of a single value tells.
-/

namespace TelemetryAlerts
namespace Json

/-- Two texts that begin with whole numbers agree only if the numbers do. -/
theorem intText_append_inj
    {n m : Int} {r r' : List Char}
    (hr : EndsNumber r)
    (hr' : EndsNumber r')
    (h : intText n ++ r = intText m ++ r') :
    n = m ∧ r = r' := by
  have hn := wholePart_toDigits n.natAbs
  have hm := wholePart_toDigits m.natAbs
  rw [intText_eq, intText_eq, List.append_assoc, List.append_assoc] at h
  have hparts := congrArg spanMinus h
  rw [spanMinus_signText _ r hn.isDigit hn.ne_nil, spanMinus_signText _ r' hm.isDigit hm.ne_nil]
    at hparts
  obtain ⟨hsign, hrest⟩ := Prod.mk.inj hparts
  have hspan := congrArg spanAsciiDigits hrest
  rw [spanAsciiDigits_append hn.isDigit hr.endsDigits,
    spanAsciiDigits_append hm.isDigit hr'.endsDigits] at hspan
  obtain ⟨hdigits, hrest⟩ := Prod.mk.inj hspan
  have habs := congrArg digitsValue hdigits
  rw [digitsValue_eq, digitsValue_eq, Text.ofDigits_toDigits, Text.ofDigits_toDigits] at habs
  have hnegative : n < 0 ↔ m < 0 := by simpa using hsign
  exact ⟨by omega, hrest⟩

/-- A whole number begins with no bracket. -/
theorem intText_append_ne
    (n : Int) (c : Char) (r tail : List Char)
    (hc : c = '[' ∨ c = '{') :
    intText n ++ r ≠ c :: tail := by
  obtain ⟨negative, d, more, htext, hd⟩ := intText_begins n
  rw [htext]
  intro h
  cases negative with
  | true =>
      rcases hc with rfl | rfl <;> simp [signText] at h
  | false =>
      have hdc : d = c := by simpa [signText] using congrArg List.head? h
      rcases hc with rfl | rfl <;> rw [hdc] at hd <;> simp at hd

/-- Where two values that can be read are written, what follows them is the same. -/
theorem rest_of_legible
    {v w : Json} {r r' : List Char}
    (hr : EndsNumber r)
    (hr' : EndsNumber r')
    (h : Style.stored.value v ++ r = Style.stored.value w ++ r')
    (hv : isLegible v = true) :
    isLegible w = true ∧ r = r' := by
  have hread := readValue_value v
    (2 * (Style.stored.value v).length + 2 * (Style.stored.value w).length) hr (by omega)
  rw [h, readValue_value w _ hr' (by omega), if_pos hv] at hread
  split_ifs at hread with hw
  exact ⟨hw, (Prod.mk.inj (Except.ok.inj hread)).2.symm⟩

mutual

/-- What follows a value is told by the text. -/
theorem rest_of_value :
    ∀ (v w : Json) {r r' : List Char}, EndsNumber r → EndsNumber r' →
      Style.stored.value v ++ r = Style.stored.value w ++ r' → r = r'
  | v, w, r, r', hr, hr', h => by
      by_cases hv : isLegible v = true
      · exact (rest_of_legible hr hr' h hv).2
      by_cases hw : isLegible w = true
      · exact (rest_of_legible hr' hr h.symm hw).2.symm
      -- neither can be read, so each is a whole number or has parts
      match v, w with
      | .int n, .int m =>
          exact (intText_append_inj hr hr' h).2
      | .arr (x :: xs), .arr (y :: ys) =>
          simp only [Style.value, List.cons_append, List.append_assoc, List.cons.injEq,
            true_and] at h
          exact rest_of_items xs ys
            (rest_of_value x y (endsNumber_items xs r) (endsNumber_items ys r') h)
      | .obj ((k, x) :: xs), .obj ((l, y) :: ys) =>
          simp only [Style.value, List.cons_append, List.append_assoc, List.cons.injEq,
            true_and] at h
          obtain ⟨-, h⟩ := string_append_inj h
          exact rest_of_fields xs ys
            (rest_of_value x y (endsNumber_fields xs r) (endsNumber_fields ys r')
              (List.append_cancel_left h))
      | .int n, .arr (y :: ys) =>
          exact absurd h (intText_append_ne n '[' r _ (Or.inl rfl))
      | .int n, .obj ((l, y) :: ys) =>
          exact absurd h (intText_append_ne n '{' r _ (Or.inr rfl))
      | .arr (x :: xs), .int m =>
          exact absurd h.symm (intText_append_ne m '[' r' _ (Or.inl rfl))
      | .obj ((k, x) :: xs), .int m =>
          exact absurd h.symm (intText_append_ne m '{' r' _ (Or.inr rfl))
      | .arr (x :: xs), .obj ((l, y) :: ys) =>
          simp [Style.value] at h
      | .obj ((k, x) :: xs), .arr (y :: ys) =>
          simp [Style.value] at h
      | .null, _ | .bool _, _ | .float _, _ | .str _, _ | .arr [], _ | .obj [], _ =>
          exact absurd rfl hv
      | _, .null | _, .bool _ | _, .float _ | _, .str _ | _, .arr [] | _, .obj [] =>
          exact absurd rfl hw
termination_by v => sizeOf v

/-- The same of the items of a list. -/
theorem rest_of_items :
    ∀ (xs ys : List Json) {r r' : List Char},
      Style.stored.items xs ++ r = Style.stored.items ys ++ r' → r = r'
  | [], [], r, r', h => by
      simpa [Style.items] using h
  | [], y :: ys, r, r', h => by
      simp [Style.items, Style.stored] at h
  | x :: xs, [], r, r', h => by
      simp [Style.items, Style.stored] at h
  | x :: xs, y :: ys, r, r', h => by
      simp only [Style.items, List.append_assoc] at h
      exact rest_of_items xs ys
        (rest_of_value x y (endsNumber_items xs r) (endsNumber_items ys r')
          (List.append_cancel_left h))
termination_by xs => sizeOf xs

/-- The same of the fields of an object. -/
theorem rest_of_fields :
    ∀ (xs ys : List (String × Json)) {r r' : List Char},
      Style.stored.fields xs ++ r = Style.stored.fields ys ++ r' → r = r'
  | [], [], r, r', h => by
      simpa [Style.fields] using h
  | [], (l, y) :: ys, r, r', h => by
      simp [Style.fields, Style.stored] at h
  | (k, x) :: xs, [], r, r', h => by
      simp [Style.fields, Style.stored] at h
  | (k, x) :: xs, (l, y) :: ys, r, r', h => by
      simp only [Style.fields, List.append_assoc] at h
      obtain ⟨-, h⟩ := string_append_inj (List.append_cancel_left h)
      exact rest_of_fields xs ys
        (rest_of_value x y (endsNumber_fields xs r) (endsNumber_fields ys r')
          (List.append_cancel_left h))
termination_by xs => sizeOf xs

end

/-- Two texts that begin with values agree part by part. -/
theorem value_append_inj
    {v w : Json} {r r' : List Char}
    (hr : EndsNumber r)
    (hr' : EndsNumber r')
    (h : Style.stored.value v ++ r = Style.stored.value w ++ r') :
    Style.stored.value v = Style.stored.value w ∧ r = r' := by
  have hrest := rest_of_value v w hr hr' h
  rw [hrest] at h
  exact ⟨List.append_cancel_right h, hrest⟩

theorem endsNumber_allFields
    (fields : List (String × Json)) :
    EndsNumber (Style.stored.fields fields) := by
  have hends := endsNumber_fields fields []
  rwa [List.append_nil] at hends

/-- So do the texts of objects whose first fields have one name. -/
theorem object_inj
    {name : String} {v w : Json} {fields gields : List (String × Json)}
    (h : Style.stored.value (.obj ((name, v) :: fields)) =
      Style.stored.value (.obj ((name, w) :: gields))) :
    Style.stored.value v = Style.stored.value w ∧
      Style.stored.fields fields = Style.stored.fields gields := by
  simp only [Style.value, List.cons_append, List.append_assoc, List.cons.injEq, true_and] at h
  obtain ⟨-, h⟩ := string_append_inj h
  exact value_append_inj (endsNumber_allFields fields) (endsNumber_allFields gields)
    (List.append_cancel_left h)

/-- So do the texts of fields of one name and what follows them. -/
theorem fields_cons_inj
    {name : String} {v w : Json} {fields gields : List (String × Json)}
    (h : Style.stored.fields ((name, v) :: fields) = Style.stored.fields ((name, w) :: gields)) :
    Style.stored.value v = Style.stored.value w ∧
      Style.stored.fields fields = Style.stored.fields gields := by
  simp only [Style.fields, List.append_assoc] at h
  obtain ⟨-, h⟩ := string_append_inj (List.append_cancel_left h)
  exact value_append_inj (endsNumber_allFields fields) (endsNumber_allFields gields)
    (List.append_cancel_left h)

/-! ### Single values -/

theorem int_of_value
    {n m : Int}
    (h : Style.stored.value (.int n) = Style.stored.value (.int m)) :
    n = m := by
  have hnothing : EndsNumber [] := by simp [EndsNumber]
  simp only [Style.value] at h
  exact (intText_append_inj hnothing hnothing (by rw [h])).1

/-- A value that can be read is told by its text, as it is read back. -/
theorem readBack_of_value
    {v w : Json}
    (h : Style.stored.value v = Style.stored.value w)
    (hv : isLegible v = true) :
    readBack v = readBack w := by
  have hread := read_write v
  rw [write, h, ← write, read_write w, if_pos hv] at hread
  split_ifs at hread
  exact (Except.ok.inj hread).symm

end Json
end TelemetryAlerts
