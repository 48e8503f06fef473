import TelemetryAlerts.Proofs.Json.Numeral
import TelemetryAlerts.Proofs.Json.Quoted

/-!
# Stored documents are read back

Reading the text of a stored document gives the document back, with `null` in the place
of every float that is not finite. Only two things can come in between: an object that
names a field twice keeps the last value, and a whole number with more digits than are
read makes the whole text unreadable.

**Results.**
* `read_write`: what reading the text of a stored document gives, for every document.
* `value_readBack`: if no object names a field twice, the document that was read has the
  text that it was read from.
-/

namespace TelemetryAlerts
namespace Json

open Number

mutual

/-- Whether every whole number inside a value has few enough digits to be read. -/
def isLegible : Json → Bool
  | .int n => decide ((Nat.toDigits 10 n.natAbs).length ≤ maxWholeDigits)
  | .arr items => areLegibleItems items
  | .obj fields => areLegibleFields fields
  | _ => true

/-- The same of every item of a list. -/
def areLegibleItems : List Json → Bool
  | [] => true
  | v :: rest => isLegible v && areLegibleItems rest

/-- The same of every field of an object. -/
def areLegibleFields : List (String × Json) → Bool
  | [] => true
  | (_, v) :: rest => isLegible v && areLegibleFields rest

end

mutual

/-- A value as its stored text is read: a float that is not finite is `null`, and an
object has the last value of each name. -/
def readBack : Json → Json
  | .float x => if isFinite x then float x else null
  | .arr items => arr (readBackItems items)
  | .obj fields => obj (ofAssignments (readBackFields fields))
  | v => v

/-- The same of every item of a list. -/
def readBackItems : List Json → List Json
  | [] => []
  | v :: rest => readBack v :: readBackItems rest

/-- The same of every field of an object. -/
def readBackFields : List (String × Json) → List (String × Json)
  | [] => []
  | (k, v) :: rest => (k, readBack v) :: readBackFields rest

end

/-! ### How a value begins -/

/-- A value begins with a character that is neither a space nor a closing bracket nor the
mark of a byte order. -/
def Begins (text : List Char) : Prop :=
  ∃ c cs, text = c :: cs ∧ isJsonSpace c = false ∧ c ≠ ']' ∧ c ≠ '\uFEFF'

theorem Begins.append
    {text : List Char}
    (h : Begins text)
    (rest : List Char) :
    Begins (text ++ rest) := by
  obtain ⟨c, cs, rfl, hc⟩ := h
  exact ⟨c, cs ++ rest, rfl, hc⟩

theorem skipSpace_of_begins
    {text : List Char}
    (h : Begins text) :
    skipSpace text = text := by
  obtain ⟨c, cs, rfl, hspace, -⟩ := h
  simp [skipSpace, hspace]

theorem begins_signText
    (negative : Bool)
    {d : Char} (more : List Char)
    (hd : d.isDigit = true) :
    Begins (signText negative ++ d :: more) := by
  cases negative with
  | true =>
      exact ⟨'-', d :: more, rfl, by decide⟩
  | false =>
      refine ⟨d, more, rfl, ?_, ?_, ?_⟩
      · by_contra hspace
        simp only [isJsonSpace, Bool.not_eq_false, Bool.or_eq_true, beq_iff_eq] at hspace
        rcases hspace with ((rfl | rfl) | rfl) | rfl <;> simp at hd
      · rintro rfl
        simp at hd
      · rintro rfl
        simp at hd

theorem string_begins
    (s : String) :
    Begins (Style.stored.string s) :=
  ⟨'"', s.toList.flatMap Style.stored.char ++ ['"'], rfl, by decide⟩

/-- The digits of a whole number, with its sign. -/
theorem intText_begins
    (n : Int) :
    ∃ negative d more, intText n = signText negative ++ d :: more ∧ d.isDigit = true := by
  have hwhole := wholePart_toDigits n.natAbs
  cases hds : Nat.toDigits 10 n.natAbs with
  | nil =>
      exact absurd hds hwhole.ne_nil
  | cons d more =>
      refine ⟨decide (n < 0), d, more, by rw [intText_eq, hds], hwhole.isDigit d ?_⟩
      simp [hds]

/-- The digits of a finite float, with its sign. -/
theorem float_begins
    {x : Float}
    (hx : isFinite x = true) :
    ∃ negative d more, Style.stored.float x = signText negative ++ d :: more ∧
      d.isDigit = true := by
  have hnothing : EndsNumber [] := by simp [EndsNumber]
  have hread := readNumber_float hx hnothing
  rw [List.append_nil] at hread
  exact exists_digit_of_readNumber hread

/-- A float that is not finite is written `null`. -/
theorem float_of_not_finite
    {x : Float}
    (hx : ¬ isFinite x = true) :
    Style.stored.float x = "null".toList := by
  simp only [Style.float, if_neg hx]
  split_ifs <;> rfl

theorem value_begins
    (v : Json) :
    Begins (Style.stored.value v) := by
  cases v with
  | null =>
      exact ⟨'n', "ull".toList, rfl, by decide⟩
  | bool b =>
      cases b with
      | true =>
          exact ⟨'t', "rue".toList, rfl, by decide⟩
      | false =>
          exact ⟨'f', "alse".toList, rfl, by decide⟩
  | int n =>
      obtain ⟨negative, d, more, htext, hd⟩ := intText_begins n
      simpa only [Style.value, htext] using begins_signText negative more hd
  | float x =>
      by_cases hx : isFinite x = true
      · obtain ⟨negative, d, more, htext, hd⟩ := float_begins hx
        simpa only [Style.value, htext] using begins_signText negative more hd
      · simp only [Style.value, float_of_not_finite hx]
        exact ⟨'n', "ull".toList, rfl, by decide⟩
  | str s =>
      simpa only [Style.value] using string_begins s
  | arr items =>
      cases items with
      | nil =>
          exact ⟨'[', [']'], by simp [Style.value], by decide⟩
      | cons v rest =>
          exact ⟨'[', Style.stored.value v ++ Style.stored.items rest, by simp [Style.value],
            by decide⟩
  | obj fields =>
      cases fields with
      | nil =>
          exact ⟨'{', ['}'], by simp [Style.value], by decide⟩
      | cons p rest =>
          obtain ⟨k, v⟩ := p
          exact ⟨'{', Style.stored.string k ++ Style.stored.fieldSeparator.toList ++
            Style.stored.value v ++ Style.stored.fields rest, by simp [Style.value],
            by decide⟩

theorem value_length_pos
    (v : Json) :
    0 < (Style.stored.value v).length := by
  obtain ⟨c, cs, htext, -⟩ := value_begins v
  simp [htext]

/-! ### Reading values by their kind -/

/-- A text that begins like a number is read as a number. -/
theorem readValue_digits
    (fuel : Nat) (negative : Bool)
    {d : Char} (more : List Char)
    (hd : d.isDigit = true) :
    readValue (fuel + 1) (signText negative ++ d :: more) =
      readNumber (signText negative ++ d :: more) := by
  have hne (c : Char) (hc : c.isDigit = false) : d ≠ c := by
    rintro rfl
    rw [hd] at hc
    cases hc
  have hI := hne 'I' rfl
  cases negative with
  | true =>
      simp [signText, readValue, dropWord?, hI.symm]
  | false =>
      have h₁ := hne '"' rfl
      have h₂ := hne '{' rfl
      have h₃ := hne '[' rfl
      have h₄ := hne 'n' rfl
      have h₅ := hne 't' rfl
      have h₆ := hne 'f' rfl
      have h₇ := hne 'N' rfl
      have h₈ := hne '-' rfl
      simp [signText, readValue, dropWord?, h₁, h₂, h₃, h₄.symm, h₅.symm, h₆.symm, h₇.symm,
        h₈.symm, hI.symm]

theorem readValue_null
    (fuel : Nat) (rest : List Char) :
    readValue (fuel + 1) ("null".toList ++ rest) = .ok (.null, rest) := by
  simp [readValue, dropWord?]

theorem readValue_bool
    (fuel : Nat) (b : Bool) (rest : List Char) :
    readValue (fuel + 1) (Style.stored.value (.bool b) ++ rest) = .ok (.bool b, rest) := by
  cases b <;> simp [Style.value, readValue, dropWord?]

theorem readValue_string
    (fuel : Nat) (s : String) (rest : List Char) :
    readValue (fuel + 1) (Style.stored.string s ++ rest) = .ok (.str s, rest) := by
  simp only [Style.string, List.cons_append, List.append_assoc, List.nil_append, readValue,
    readText_string]
  rfl

theorem readValue_int
    (fuel : Nat) (n : Int)
    {rest : List Char}
    (hrest : EndsNumber rest) :
    readValue (fuel + 1) (intText n ++ rest) =
      if (isLegible (.int n)) then .ok (.int n, rest) else .error .tooManyDigits := by
  obtain ⟨negative, d, more, htext, hd⟩ := intText_begins n
  have hread := readNumber_int n hrest
  have hvalue := readValue_digits fuel negative (more ++ rest) hd
  simp only [htext, List.append_assoc, List.cons_append] at hread hvalue ⊢
  rw [hvalue, hread]
  by_cases hlong : maxWholeDigits < (Nat.toDigits 10 n.natAbs).length
  · simp [isLegible, hlong]
  · simp [isLegible, hlong, Nat.le_of_not_lt hlong]

theorem readValue_float
    (fuel : Nat) (x : Float)
    {rest : List Char}
    (hrest : EndsNumber rest) :
    readValue (fuel + 1) (Style.stored.float x ++ rest) = .ok (readBack (.float x), rest) := by
  by_cases hx : isFinite x = true
  · obtain ⟨negative, d, more, htext, hd⟩ := float_begins hx
    have hread := readNumber_float hx hrest
    have hvalue := readValue_digits fuel negative (more ++ rest) hd
    simp only [htext, List.append_assoc, List.cons_append] at hread hvalue ⊢
    rw [hvalue, hread]
    simp [readBack, hx]
  · rw [float_of_not_finite hx, readValue_null]
    simp [readBack, hx]

/-! ### Reading values of every kind -/

theorem endsNumber_items
    (items : List Json) (rest : List Char) :
    EndsNumber (Style.stored.items items ++ rest) := by
  cases items with
  | nil =>
      exact endsNumber_cons rest (by decide)
  | cons v more =>
      simp only [Style.items, Style.stored, List.append_assoc]
      exact endsNumber_cons _ (by decide)

theorem endsNumber_fields
    (fields : List (String × Json)) (rest : List Char) :
    EndsNumber (Style.stored.fields fields ++ rest) := by
  cases fields with
  | nil =>
      exact endsNumber_cons rest (by decide)
  | cons p more =>
      obtain ⟨k, v⟩ := p
      simp only [Style.fields, Style.stored, List.append_assoc]
      exact endsNumber_cons _ (by decide)

theorem items_length_pos
    (items : List Json) :
    0 < (Style.stored.items items).length := by
  cases items <;> simp [Style.items, Style.stored]

theorem fields_length_pos
    (fields : List (String × Json)) :
    0 < (Style.stored.fields fields).length := by
  cases fields <;> simp [Style.fields, Style.stored]

theorem skipSpace_value
    (v : Json) (rest : List Char) :
    skipSpace (Style.stored.value v ++ rest) = Style.stored.value v ++ rest :=
  skipSpace_of_begins ((value_begins v).append rest)

theorem skipSpace_string
    (s : String) (rest : List Char) :
    skipSpace (Style.stored.string s ++ rest) = Style.stored.string s ++ rest :=
  skipSpace_of_begins ((string_begins s).append rest)

/-- A list with items is read item by item. -/
theorem readValue_list
    (fuel : Nat) (v : Json) (items : List Json) (rest : List Char) :
    readValue (fuel + 1) (Style.stored.value (.arr (v :: items)) ++ rest) =
      (readItems fuel [] (Style.stored.value v ++ (Style.stored.items items ++ rest))).map
        fun r => (.arr r.1, r.2) := by
  have hskip := skipSpace_value v (Style.stored.items items ++ rest)
  obtain ⟨c, cs, hhead, -, hclose, -⟩ :=
    (value_begins v).append (Style.stored.items items ++ rest)
  rw [hhead] at hskip ⊢
  simp only [Style.value, List.cons_append, List.append_assoc, readValue, hhead, hskip]
  split
  · next r heq =>
      exact absurd (List.cons.inj heq).1 hclose
  · rfl

/-- An object with fields is read field by field. -/
theorem readValue_object
    (fuel : Nat) (k : String) (v : Json) (fields : List (String × Json)) (rest : List Char) :
    readValue (fuel + 1) (Style.stored.value (.obj ((k, v) :: fields)) ++ rest) =
      (readFields fuel [] (Style.stored.string k ++ Style.stored.fieldSeparator.toList ++
        Style.stored.value v ++ (Style.stored.fields fields ++ rest))).map
        fun r => (.obj (ofAssignments r.1), r.2) := by
  simp only [Style.value, List.cons_append, List.append_assoc, readValue, skipSpace_string]
  split
  · next r heq =>
      simp [Style.string] at heq
  · rfl

/-- A field is read name first. -/
theorem readFields_field
    (fuel : Nat) (acc : List (String × Json)) (k : String) (v : Json) (rest : List Char) :
    readFields (fuel + 1) acc
        (Style.stored.string k ++ Style.stored.fieldSeparator.toList ++ Style.stored.value v ++
          rest) =
      match readValue fuel (Style.stored.value v ++ rest) with
      | .error e => .error e
      | .ok (v, rest) =>
        match skipSpace rest with
        | '}' :: r => .ok (((k, v) :: acc).reverse, r)
        | ',' :: r => readFields fuel ((k, v) :: acc) (skipSpace r)
        | r => malformedAt r.length := by
  have hseparator : Style.stored.fieldSeparator.toList = [':'] := rfl
  have hcolon (tail : List Char) : skipSpace (':' :: tail) = ':' :: tail := rfl
  simp only [hseparator, Style.string, List.cons_append, List.append_assoc, List.nil_append]
  rw [readFields]
  simp only [readText_string, hcolon, skipSpace_value]
  all_goals rfl

mutual

/-- A written value is read back, whatever follows it. Two steps for each character are
enough. -/
theorem readValue_value :
    ∀ (v : Json) (fuel : Nat) {rest : List Char},
      EndsNumber rest →
      2 * (Style.stored.value v).length ≤ fuel + 1 →
      readValue (fuel + 1) (Style.stored.value v ++ rest) =
        if isLegible v then .ok (readBack v, rest) else .error .tooManyDigits
  | .null, fuel, rest, _, _ => by
      simpa [Style.value, isLegible, readBack] using readValue_null fuel rest
  | .bool b, fuel, rest, _, _ => by
      simpa [isLegible, readBack] using readValue_bool fuel b rest
  | .int n, fuel, rest, hrest, _ => by
      simpa [Style.value, readBack] using readValue_int fuel n hrest
  | .float x, fuel, rest, hrest, _ => by
      simpa [Style.value, isLegible] using readValue_float fuel x hrest
  | .str s, fuel, rest, _, _ => by
      simpa [Style.value, isLegible, readBack] using readValue_string fuel s rest
  | .arr [], fuel, rest, _, _ => by
      simp [Style.value, readValue, skipSpace, isJsonSpace, isLegible, areLegibleItems,
        readBack, readBackItems]
  | .arr (v :: items), fuel, rest, _, hfuel => by
      have hpos := value_length_pos v
      simp only [Style.value, List.length_cons, List.length_append] at hfuel
      obtain ⟨fuel, rfl⟩ : ∃ f, fuel = f + 1 := ⟨fuel - 1, by omega⟩
      have hread :=
        readItems_items v items fuel rest []
          (by simp only [List.length_append]; omega)
      rw [readValue_list, hread, isLegible, areLegibleItems, readBack, readBackItems]
      by_cases hlegible : (isLegible v && areLegibleItems items) = true
      · rw [if_pos hlegible, if_pos hlegible]
        rfl
      · rw [if_neg hlegible, if_neg hlegible]
        rfl
  | .obj [], fuel, rest, _, _ => by
      simp [Style.value, readValue, skipSpace, isJsonSpace, isLegible, areLegibleFields,
        readBack, readBackFields, ofAssignments]
  | .obj ((k, v) :: fields), fuel, rest, _, hfuel => by
      have hpos := value_length_pos v
      simp only [Style.value, List.length_cons, List.length_append] at hfuel
      obtain ⟨fuel, rfl⟩ : ∃ f, fuel = f + 1 := ⟨fuel - 1, by omega⟩
      have hread :=
        readFields_fields k v fields fuel rest []
          (by simp only [List.length_append]; omega)
      rw [readValue_object, hread, isLegible, areLegibleFields, readBack, readBackFields]
      by_cases hlegible : (isLegible v && areLegibleFields fields) = true
      · rw [if_pos hlegible, if_pos hlegible]
        rfl
      · rw [if_neg hlegible, if_neg hlegible]
        rfl
termination_by v => sizeOf v

/-- The written items of a list are read back. -/
theorem readItems_items :
    ∀ (v : Json) (items : List Json) (fuel : Nat) (rest : List Char) (acc : List Json),
      2 * (Style.stored.value v ++ Style.stored.items items).length ≤ fuel + 2 →
      readItems (fuel + 1) acc (Style.stored.value v ++ (Style.stored.items items ++ rest)) =
        if isLegible v && areLegibleItems items then
          .ok (acc.reverse ++ readBack v :: readBackItems items, rest)
        else .error .tooManyDigits
  | v, [], fuel, rest, acc, hfuel => by
      have hpos := value_length_pos v
      simp only [Style.items, List.length_append, List.length_cons, List.length_nil] at hfuel
      obtain ⟨fuel, rfl⟩ : ∃ f, fuel = f + 1 := ⟨fuel - 1, by omega⟩
      rw [readItems,
        readValue_value v fuel (endsNumber_items [] rest) (by omega)]
      cases hlegible : isLegible v with
      | false =>
          simp
      | true =>
          simp [Style.items, skipSpace, isJsonSpace, areLegibleItems, readBackItems]
  | v, w :: more, fuel, rest, acc, hfuel => by
      have hpos := value_length_pos v
      have hmore := items_length_pos more
      have hcomma (tail : List Char) : skipSpace (',' :: tail) = ',' :: tail := rfl
      have hitem : Style.stored.itemSeparator.toList = [','] := rfl
      simp only [Style.items, List.length_append] at hfuel
      obtain ⟨fuel, rfl⟩ : ∃ f, fuel = f + 1 := ⟨fuel - 1, by omega⟩
      rw [readItems,
        readValue_value v fuel (endsNumber_items (w :: more) rest) (by omega)]
      have hread :=
        readItems_items w more fuel rest (readBack v :: acc)
          (by simp only [List.length_append, hitem, List.length_cons] at hfuel ⊢; omega)
      cases hlegible : isLegible v with
      | false =>
          simp
      | true =>
          simp only [Style.items, hitem, List.append_assoc, List.cons_append, List.nil_append,
            if_true, hcomma, skipSpace_value, hread, Bool.true_and, areLegibleItems,
            readBackItems, List.reverse_cons]
termination_by v items => 1 + sizeOf v + sizeOf items

/-- The written fields of an object are read back. -/
theorem readFields_fields :
    ∀ (k : String) (v : Json) (fields : List (String × Json)) (fuel : Nat) (rest : List Char)
      (acc : List (String × Json)),
      2 * (Style.stored.string k ++ Style.stored.fieldSeparator.toList ++
        Style.stored.value v ++ Style.stored.fields fields).length ≤ fuel + 2 →
      readFields (fuel + 1) acc
          (Style.stored.string k ++ Style.stored.fieldSeparator.toList ++
            Style.stored.value v ++ (Style.stored.fields fields ++ rest)) =
        if isLegible v && areLegibleFields fields then
          .ok (acc.reverse ++ (k, readBack v) :: readBackFields fields, rest)
        else .error .tooManyDigits
  | k, v, [], fuel, rest, acc, hfuel => by
      have hpos := value_length_pos v
      simp only [Style.fields, List.length_append, List.length_cons, List.length_nil] at hfuel
      obtain ⟨fuel, rfl⟩ : ∃ f, fuel = f + 1 := ⟨fuel - 1, by omega⟩
      rw [readFields_field,
        readValue_value v fuel (endsNumber_fields [] rest) (by omega)]
      cases hlegible : isLegible v with
      | false =>
          simp
      | true =>
          simp [Style.fields, skipSpace, isJsonSpace, areLegibleFields, readBackFields]
  | k, v, (l, w) :: more, fuel, rest, acc, hfuel => by
      have hpos := value_length_pos v
      have hmore := fields_length_pos more
      have hcomma (tail : List Char) : skipSpace (',' :: tail) = ',' :: tail := rfl
      have hitem : Style.stored.itemSeparator.toList = [','] := rfl
      simp only [Style.fields, List.length_append] at hfuel
      obtain ⟨fuel, rfl⟩ : ∃ f, fuel = f + 1 := ⟨fuel - 1, by omega⟩
      rw [readFields_field,
        readValue_value v fuel (endsNumber_fields ((l, w) :: more) rest) (by omega)]
      have hread :=
        readFields_fields l w more fuel rest ((k, readBack v) :: acc)
          (by simp only [List.length_append, hitem, List.length_cons] at hfuel ⊢; omega)
      cases hlegible : isLegible v with
      | false =>
          simp
      | true =>
          simp only [List.append_assoc] at hread
          simp only [Style.fields, hitem, List.append_assoc, List.cons_append, List.nil_append,
            if_true, hcomma, skipSpace_string, hread, Bool.true_and, areLegibleFields,
            readBackFields, List.reverse_cons]
termination_by _ v fields => 1 + sizeOf v + sizeOf fields

end

/-! ### Whole texts -/

/-- What reading the text of a stored document gives. -/
theorem read_write
    (v : Json) :
    read (write Style.stored v) =
      if isLegible v then .ok (readBack v) else .error .tooManyDigits := by
  have hnothing : EndsNumber [] := by simp [EndsNumber]
  have hvalue :=
    readValue_value v (2 * (Style.stored.value v).length + 1) hnothing (by omega)
  have hskip := skipSpace_value v []
  rw [List.append_nil] at hvalue hskip
  have hmark : ¬ (Style.stored.value v).head? = some '\uFEFF' := by
    obtain ⟨c, cs, htext, -, -, hc⟩ := value_begins v
    simpa [htext] using hc
  simp only [read, write, String.toList_ofList, if_neg hmark, hskip, hvalue]
  by_cases hlegible : isLegible v = true
  · simp [hlegible, skipSpace]
  · simp [hlegible, ReadError.fromStart]

/-! ### Objects that name no field twice -/

mutual

/-- Whether no object inside a value names a field twice. -/
def namesDistinct : Json → Bool
  | .arr items => namesDistinctItems items
  | .obj fields => decide (fields.map Prod.fst).Nodup && namesDistinctFields fields
  | _ => true

/-- The same of every item of a list. -/
def namesDistinctItems : List Json → Bool
  | [] => true
  | v :: rest => namesDistinct v && namesDistinctItems rest

/-- The same of every field of an object. -/
def namesDistinctFields : List (String × Json) → Bool
  | [] => true
  | (_, v) :: rest => namesDistinct v && namesDistinctFields rest

end

theorem insertField_of_notMem
    {β : Type} (k : String) (v : β)
    {fields : List (String × β)}
    (h : k ∉ fields.map Prod.fst) :
    insertField k v fields = fields ++ [(k, v)] := by
  induction fields with
  | nil =>
      rfl
  | cons p rest ih =>
      obtain ⟨l, w⟩ := p
      simp only [List.map_cons, List.mem_cons, not_or] at h
      rw [insertField, if_neg (Ne.symm h.1), ih h.2, List.cons_append]

/-- Assignments to different names are the fields they leave. -/
theorem ofAssignments_of_nodup
    {β : Type} {fields : List (String × β)}
    (h : (fields.map Prod.fst).Nodup) :
    ofAssignments fields = fields := by
  suffices hfold : ∀ done : List (String × β), ((done ++ fields).map Prod.fst).Nodup →
      fields.foldl (fun acc p => insertField p.1 p.2 acc) done = done ++ fields by
    simpa [ofAssignments] using hfold [] (by simpa using h)
  clear h
  induction fields with
  | nil =>
      simp
  | cons p rest ih =>
      intro done hdone
      have hnew : p.1 ∉ done.map Prod.fst := by
        intro hmem
        rw [List.map_append, List.nodup_append] at hdone
        exact hdone.2.2 _ hmem _ (by simp) rfl
      rw [List.foldl_cons, insertField_of_notMem _ _ hnew, ih _ (by simpa using hdone)]
      simp

theorem readBackFields_names
    (fields : List (String × Json)) :
    (readBackFields fields).map Prod.fst = fields.map Prod.fst := by
  induction fields with
  | nil =>
      rfl
  | cons p rest ih =>
      simp [readBackFields, ih]

mutual

/-- A document as it was read back has the same text. -/
theorem value_readBack :
    ∀ (v : Json), namesDistinct v = true →
      Style.stored.value (readBack v) = Style.stored.value v
  | .null, _ => rfl
  | .bool _, _ => rfl
  | .int _, _ => rfl
  | .float x, _ => by
      by_cases hx : isFinite x = true
      · simp [readBack, hx]
      · simp [readBack, hx, Style.value, float_of_not_finite hx]
  | .str _, _ => rfl
  | .arr [], _ => rfl
  | .arr (v :: items), h => by
      simp only [namesDistinct, namesDistinctItems, Bool.and_eq_true] at h
      simp only [readBack, readBackItems, Style.value, value_readBack v h.1,
        items_readBack items h.2]
  | .obj [], _ => rfl
  | .obj ((k, v) :: fields), h => by
      simp only [namesDistinct, Bool.and_eq_true, decide_eq_true_eq] at h
      have hnames : ((readBackFields ((k, v) :: fields)).map Prod.fst).Nodup := by
        rw [readBackFields_names]
        exact h.1
      simp only [namesDistinctFields, Bool.and_eq_true] at h
      simp only [readBack, ofAssignments_of_nodup hnames]
      simp only [readBackFields, Style.value, value_readBack v h.2.1,
        fields_readBack fields h.2.2]

/-- The same of the items of a list. -/
theorem items_readBack :
    ∀ (items : List Json), namesDistinctItems items = true →
      Style.stored.items (readBackItems items) = Style.stored.items items
  | [], _ => rfl
  | v :: rest, h => by
      simp only [namesDistinctItems, Bool.and_eq_true] at h
      simp only [readBackItems, Style.items, value_readBack v h.1, items_readBack rest h.2]

/-- The same of the fields of an object. -/
theorem fields_readBack :
    ∀ (fields : List (String × Json)), namesDistinctFields fields = true →
      Style.stored.fields (readBackFields fields) = Style.stored.fields fields
  | [], _ => rfl
  | (k, v) :: rest, h => by
      simp only [namesDistinctFields, Bool.and_eq_true] at h
      simp only [readBackFields, Style.fields, value_readBack v h.1, fields_readBack rest h.2]

end

end Json
end TelemetryAlerts
