import TelemetryAlerts.Proofs.Text.Utf8
import TelemetryAlerts.Web.Form

/-!
# Escapes in paths

Escaping a path changes neither what it stands for nor its segments, and an escaped path stays as
it is. What a text stands for is no longer than the text, and a text without percent signs stands
for itself.

**Results.**
* `unescape_escapePath`: an escaped text stands for what the text itself stands for.
* `length_unescape_le`: a text stands for one that is no longer.
* `unescape_of_notMem`: a text without percent signs stands for itself.
* `escapePath_escapePath`: a text is escaped once.
-/

namespace TelemetryAlerts
namespace Web

open Text (Continues given readBytes readByte)

/-- A text as it stands in a path. -/
def escapePath (cs : List Char) : List Char :=
  percentEncode Address.isPathSafe cs

/-- Whether a character stands in a path as it is. -/
def isPlain (c : Char) : Bool :=
  isUnreserved c || Address.isPathSafe c

/-- A character as it stands in a path. -/
def escapeChar (c : Char) : List Char :=
  if isPlain c then [c] else percentChar c

theorem escapePath_cons
    (c : Char) (cs : List Char) :
    escapePath (c :: cs) = escapeChar c ++ escapePath cs := by
  rw [escapePath, percentEncode, List.flatMap_cons]
  rfl

theorem escapePath_append
    (cs ds : List Char) :
    escapePath (cs ++ ds) = escapePath cs ++ escapePath ds :=
  List.flatMap_append

/-! ### The characters of escapes -/

/-- A digit of an escape. -/
def escapeDigit (n : Nat) : Char :=
  Char.ofNat (if n < 10 then 48 + n else 55 + n)

theorem percentByte_eq
    (b : UInt8) :
    percentByte b = ['%', escapeDigit (b.toNat / 16), escapeDigit (b.toNat % 16)] :=
  rfl

theorem hexDigit?_escapeDigit :
    ∀ n < 16, Text.hexDigit? (escapeDigit n) = some n := by
  decide

theorem isUnreserved_escapeDigit :
    ∀ n < 16, isUnreserved (escapeDigit n) = true := by
  decide

theorem percentChar_eq
    (c : Char) :
    percentChar c = (String.utf8EncodeChar c).flatMap percentByte := by
  rw [percentChar, Text.toUTF8_singleton]

/-- An escape consists of percent signs and unreserved characters. -/
theorem mem_percentChar
    {c d : Char}
    (h : d ∈ percentChar c) :
    d = '%' ∨ isUnreserved d = true := by
  rw [percentChar_eq, List.mem_flatMap] at h
  obtain ⟨b, -, hd⟩ := h
  have hb := b.toNat_lt
  simp only [percentByte_eq, List.mem_cons, List.not_mem_nil, or_false] at hd
  rcases hd with rfl | rfl | rfl
  · exact Or.inl rfl
  · exact Or.inr (isUnreserved_escapeDigit _ (by omega))
  · exact Or.inr (isUnreserved_escapeDigit _ (by omega))

/-- A mark that is not unreserved stands in an escaped text only if it stands in the text. -/
theorem mem_of_mem_escapePath
    {d : Char} {cs : List Char}
    (hd : isUnreserved d = false)
    (hpercent : d ≠ '%')
    (h : d ∈ escapePath cs) :
    d ∈ cs := by
  rw [escapePath, percentEncode, List.mem_flatMap] at h
  obtain ⟨c, hc, hdc⟩ := h
  split_ifs at hdc
  · rw [List.mem_singleton.mp hdc]
    exact hc
  · rcases mem_percentChar hdc with rfl | hunreserved
    · exact absurd rfl hpercent
    · rw [hd] at hunreserved
      cases hunreserved

theorem isPlain_of_mem_escapePath
    {d : Char} {cs : List Char}
    (h : d ∈ escapePath cs) :
    isPlain d = true := by
  rw [escapePath, percentEncode, List.mem_flatMap] at h
  obtain ⟨c, -, hdc⟩ := h
  split_ifs at hdc with hplain
  · rw [List.mem_singleton.mp hdc]
    exact hplain
  · rcases mem_percentChar hdc with rfl | hunreserved
    · decide
    · rw [isPlain, hunreserved, Bool.true_or]

theorem escapePath_of_isPlain
    {cs : List Char}
    (h : ∀ c ∈ cs, isPlain c = true) :
    escapePath cs = cs := by
  induction cs with
  | nil =>
      rfl
  | cons c cs ih =>
      rw [List.forall_mem_cons] at h
      rw [escapePath_cons, escapeChar, if_pos h.1, ih h.2]
      rfl

/-- A text is escaped once. -/
theorem escapePath_escapePath
    (cs : List Char) :
    escapePath (escapePath cs) = escapePath cs :=
  escapePath_of_isPlain fun _ => isPlain_of_mem_escapePath

/-- An escaped text without percent signs is the text itself. -/
theorem escapePath_of_notMem
    {cs : List Char}
    (h : '%' ∉ escapePath cs) :
    escapePath cs = cs := by
  refine escapePath_of_isPlain fun c hc => Decidable.byContradiction fun hplain => h ?_
  obtain ⟨b, tail, hbytes, -⟩ := Text.utf8EncodeChar_begins c
  rw [escapePath, percentEncode, List.mem_flatMap]
  refine ⟨c, hc, ?_⟩
  rw [show (isUnreserved c || Address.isPathSafe c) = isPlain c from rfl, if_neg hplain,
    percentChar_eq, hbytes, List.flatMap_cons]
  exact List.mem_append_left _ List.mem_cons_self

/-! ### What a text stands for -/

/-- Whether a text begins with two hexadecimal digits. -/
def beginsWithDigits : List Char → Bool
  | a :: b :: _ => (Text.hexDigit? a).isSome && (Text.hexDigit? b).isSome
  | _ => false

/-- A percent sign with two digits stands for a byte. -/
theorem unescapedBytes_percent
    {a b : Char} {x y : Nat} {rest : List Char}
    (ha : Text.hexDigit? a = some x)
    (hb : Text.hexDigit? b = some y) :
    unescapedBytes ('%' :: a :: b :: rest) = UInt8.ofNat (x * 16 + y) :: unescapedBytes rest := by
  simp only [unescapedBytes, ha, hb]

/-- Any other character stands for itself. -/
theorem unescapedBytes_cons
    {c : Char} {cs : List Char}
    (h : c = '%' → beginsWithDigits cs = false) :
    unescapedBytes (c :: cs) = String.utf8EncodeChar c ++ unescapedBytes cs := by
  rw [← Text.toUTF8_singleton]
  by_cases hc : c = '%'
  · subst hc
    match cs, h rfl with
    | [], _ =>
        rfl
    | [a], _ =>
        rfl
    | a :: b :: rest, hdigits =>
        rw [unescapedBytes]
        split
        · next ha hb =>
            simp [beginsWithDigits, ha, hb] at hdigits
        · rfl
  · rw [unescapedBytes]
    exact fun _ _ _ hpercent => absurd hpercent hc

/-- A text is nothing, or begins with a percent sign and two digits, or with another character. -/
theorem escape_induction
    {P : List Char → Prop}
    (nil : P [])
    (byte : ∀ a b x y rest, Text.hexDigit? a = some x → Text.hexDigit? b = some y → P rest →
      P ('%' :: a :: b :: rest))
    (char : ∀ c rest, (c = '%' → beginsWithDigits rest = false) → P rest → P (c :: rest))
    (cs : List Char) :
    P cs := by
  induction cs using unescapedBytes.induct with
  | case1 =>
      exact nil
  | case2 a b rest x y hb ha ih =>
      exact byte a b x y rest ha hb ih
  | case3 a b rest hnone ih =>
      refine char '%' (a :: b :: rest) (fun _ => ?_) ih
      cases ha : Text.hexDigit? a with
      | none =>
          simp [beginsWithDigits, ha]
      | some x =>
          cases hb : Text.hexDigit? b with
          | none =>
              simp [beginsWithDigits, hb]
          | some y =>
              exact (hnone x y ha hb).elim
  | case4 c rest hother ih =>
      refine char c rest (fun hc => ?_) ih
      match rest, hother with
      | [], _ | [_], _ =>
          rfl
      | a :: b :: rest, hother =>
          exact (hother a b rest hc rfl).elim

theorem unescapedBytes_percentByte
    (b : UInt8) (rest : List Char) :
    unescapedBytes (percentByte b ++ rest) = b :: unescapedBytes rest := by
  have hb := b.toNat_lt
  rw [percentByte_eq]
  simp only [List.cons_append, List.nil_append]
  rw [unescapedBytes_percent (hexDigit?_escapeDigit _ (by omega))
    (hexDigit?_escapeDigit _ (by omega)), Nat.div_add_mod', UInt8.ofNat_toNat]

/-- The escapes of a character stand for its bytes. -/
theorem unescapedBytes_percentChar
    (c : Char) (rest : List Char) :
    unescapedBytes (percentChar c ++ rest) = String.utf8EncodeChar c ++ unescapedBytes rest := by
  rw [percentChar_eq]
  induction String.utf8EncodeChar c with
  | nil =>
      rfl
  | cons b bytes ih =>
      rw [List.flatMap_cons, List.append_assoc, unescapedBytes_percentByte, ih, List.cons_append]

/-- A digit stands in a path as it is. -/
theorem isPlain_of_hexDigit?
    {c : Char} {x : Nat}
    (h : Text.hexDigit? c = some x) :
    isPlain c = true := by
  have halphanum : c.isAlphanum = true := by
    unfold Text.hexDigit? at h
    split_ifs at h with hdigit hlower hupper
    · have hkind : c.isDigit = true :=
        Bool.and_eq_true_iff.mpr ⟨decide_eq_true hdigit.1, decide_eq_true hdigit.2⟩
      exact Bool.or_eq_true_iff.mpr (Or.inr hkind)
    · have hend : c.val ≤ 'z'.val := UInt32.le_trans hlower.2 (by decide)
      have hkind : c.isLower = true :=
        Bool.and_eq_true_iff.mpr ⟨decide_eq_true hlower.1, decide_eq_true hend⟩
      exact Bool.or_eq_true_iff.mpr (Or.inl (Bool.or_eq_true_iff.mpr (Or.inr hkind)))
    · have hend : c.val ≤ 'Z'.val := UInt32.le_trans hupper.2 (by decide)
      have hkind : c.isUpper = true :=
        decide_eq_true ⟨hupper.1, hend⟩
      exact Bool.or_eq_true_iff.mpr (Or.inl (Bool.or_eq_true_iff.mpr (Or.inl hkind)))
  rw [isPlain, isUnreserved, halphanum]
  rfl

/-- What is escaped begins with a percent sign. -/
theorem beginsWithDigits_percentChar
    (c : Char) (rest : List Char) :
    beginsWithDigits (percentChar c ++ rest) = false ∧
      ∀ a, beginsWithDigits (a :: (percentChar c ++ rest)) = false := by
  obtain ⟨b, tail, hbytes, -⟩ := Text.utf8EncodeChar_begins c
  rw [percentChar_eq, hbytes, List.flatMap_cons, percentByte_eq]
  constructor
  · rfl
  · intro a
    simp [beginsWithDigits, show Text.hexDigit? '%' = none by decide]

/-- Escaping a text makes no digits at its beginning. -/
theorem beginsWithDigits_escapePath
    {cs : List Char}
    (h : beginsWithDigits cs = false) :
    beginsWithDigits (escapePath cs) = false := by
  match cs with
  | [] =>
      rfl
  | [a] =>
      rw [escapePath_cons, escapeChar]
      split_ifs
      · rfl
      · exact (beginsWithDigits_percentChar a _).1
  | a :: b :: rest =>
      rw [escapePath_cons, escapeChar]
      split_ifs
      · rw [escapePath_cons, escapeChar]
        split_ifs
        · exact h
        · exact (beginsWithDigits_percentChar b _).2 a
      · exact (beginsWithDigits_percentChar a _).1

/-- An escaped text stands for the bytes that the text itself stands for. -/
theorem unescapedBytes_escapePath
    (cs : List Char) :
    unescapedBytes (escapePath cs) = unescapedBytes cs := by
  induction cs using escape_induction with
  | nil =>
      rfl
  | byte a b x y rest ha hb ih =>
      have hplain (c : Char) (hc : isPlain c = true) : escapeChar c = [c] := if_pos hc
      rw [escapePath_cons, escapePath_cons, escapePath_cons, hplain '%' (by decide),
        hplain a (isPlain_of_hexDigit? ha), hplain b (isPlain_of_hexDigit? hb)]
      simp only [List.cons_append, List.nil_append]
      rw [unescapedBytes_percent ha hb, unescapedBytes_percent ha hb, ih]
  | char c rest hc ih =>
      rw [escapePath_cons, escapeChar, unescapedBytes_cons hc, ← ih]
      split_ifs
      · exact unescapedBytes_cons fun hpercent => beginsWithDigits_escapePath (hc hpercent)
      · exact unescapedBytes_percentChar c _

/-- An escaped text stands for what the text itself stands for. -/
theorem unescape_escapePath
    (cs : List Char) :
    unescape (escapePath cs) = unescape cs := by
  rw [unescape, unescapedBytes_escapePath, unescape]

/-- A text without percent signs stands for itself. -/
theorem unescape_of_notMem
    {cs : List Char}
    (h : '%' ∉ cs) :
    unescape cs = cs := by
  have hbytes : unescapedBytes cs = cs.flatMap String.utf8EncodeChar := by
    induction cs with
    | nil =>
        rfl
    | cons c cs ih =>
        rw [List.mem_cons, not_or] at h
        rw [unescapedBytes_cons fun hc => absurd hc.symm h.1, ih h.2, List.flatMap_cons]
  rw [unescape, hbytes, Text.ofBytes_flatMap_utf8EncodeChar]

/-- What a text stands for is read as no more characters than the text has, after a mark for what
was left unfinished. -/
theorem length_readBytes_unescapedBytes
    {u? : Option Text.Unfinished}
    (hu : Continues u?)
    (cs : List Char) :
    (readBytes u? (unescapedBytes cs)).length ≤ (given u?).length + cs.length := by
  induction cs using escape_induction generalizing u? with
  | nil =>
      exact Nat.le_refl _
  | byte a b x y rest ha hb ih =>
      have hrest := ih (Text.continues_readByte hu (UInt8.ofNat (x * 16 + y)).toNat)
      have hbyte := Text.length_readByte u? (UInt8.ofNat (x * 16 + y)).toNat
      rw [unescapedBytes_percent ha hb, Text.readBytes_cons u? rfl]
      simp only [List.length_append, List.length_cons]
      omega
  | char c rest hc ih =>
      have hrest := ih Text.continues_none
      rw [unescapedBytes_cons hc, Text.readBytes_utf8EncodeChar hu]
      simp only [List.length_append, List.length_cons]
      have hnothing : (given none).length = 0 := rfl
      omega

/-- A text stands for one that is no longer. -/
theorem length_unescape_le
    (cs : List Char) :
    (unescape cs).length ≤ cs.length := by
  have hlength := length_readBytes_unescapedBytes Text.continues_none cs
  rwa [show (given none).length = 0 from rfl, Nat.zero_add] at hlength

end Web
end TelemetryAlerts
