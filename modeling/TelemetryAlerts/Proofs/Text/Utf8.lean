import TelemetryAlerts.Text.Utf8
import Mathlib.Tactic.SplitIfs

/-!
# Reading the bytes of characters

The bytes of a text are read as that text. Bytes of any kind are read as at most as many
characters, counting each character of a text among them once.

**Results.**
* `readBytes_utf8EncodeChar`: the bytes of a character are read as that character, after a mark
  for what was left unfinished before them.
* `ofBytes_flatMap_utf8EncodeChar`: the bytes of a text are read as that text.
* `length_readByte`: a byte is read as one character at most.
-/

namespace TelemetryAlerts
namespace Text

theorem toList_loop
    (bytes : ByteArray) (i : Nat) (r : List UInt8) :
    ByteArray.toList.loop bytes i r = r.reverse ++ bytes.data.toList.drop i := by
  fun_induction ByteArray.toList.loop bytes i r with
  | case1 i r hi ih =>
      have hlength : i < bytes.data.toList.length := by simpa using hi
      have hget : bytes.get! i = bytes.data.toList[i] := by
        cases bytes
        exact getElem!_pos _ i hi
      rw [ih, List.drop_eq_getElem_cons hlength, hget]
      simp
  | case2 i r hi =>
      rw [List.drop_eq_nil_of_le (by simpa using hi)]
      simp

/-- The bytes of a text of one character are those of the character. -/
theorem toUTF8_singleton
    (c : Char) :
    (String.singleton c).toUTF8.toList = String.utf8EncodeChar c := by
  have hbytes : (String.singleton c).toUTF8 = (String.utf8EncodeChar c).toByteArray := by
    rw [String.toUTF8_eq_toByteArray, ← String.utf8Encode_toList, String.toList_singleton,
      List.utf8Encode, List.flatMap_singleton]
  rw [hbytes, ByteArray.toList, toList_loop]
  simp

/-! ### Single bytes -/

/-- Whether the bytes that an unfinished character still takes are none that begin one. -/
def Continues (u? : Option Unfinished) : Prop :=
  ∀ u ∈ u?, 0x80 ≤ u.low ∧ u.high ≤ 0xBF

theorem continues_none :
    Continues none :=
  nofun

/-- The mark in the place of an unfinished character, if there is one. -/
def given (u? : Option Unfinished) : List Char :=
  if u?.isSome then [replacement] else []

theorem continues_ofLead?
    (b : Nat) :
    Continues (Unfinished.ofLead? b) := by
  intro u hu
  unfold Unfinished.ofLead? at hu
  split_ifs at hu
  all_goals
    first
    | exact absurd hu (Option.not_mem_none u)
    | rw [← Option.some.inj hu]
      simp

theorem continues_beginCharacter
    (b : Nat) :
    Continues (beginCharacter b).2 := by
  unfold beginCharacter
  split_ifs
  · exact continues_none
  · split
    · next hlead =>
        rw [← hlead]
        exact continues_ofLead? b
    · exact continues_none

theorem length_beginCharacter
    (b : Nat) :
    (beginCharacter b).1.length + (given (beginCharacter b).2).length = 1 := by
  unfold beginCharacter
  split_ifs
  · rfl
  · split <;> rfl

theorem continues_readByte
    {u? : Option Unfinished}
    (h : Continues u?)
    (b : Nat) :
    Continues (readByte u? b).2 := by
  cases u? with
  | none =>
      exact continues_beginCharacter b
  | some u =>
      unfold readByte
      dsimp only
      split_ifs
      · exact continues_none
      · intro v hv
        rw [← Option.some.inj hv]
        simp
      · exact continues_beginCharacter b

/-- A byte is read as one character at most, and what is unfinished counts as one. -/
theorem length_readByte
    (u? : Option Unfinished) (b : Nat) :
    (readByte u? b).1.length + (given (readByte u? b).2).length ≤ (given u?).length + 1 := by
  have hbegin := length_beginCharacter b
  cases u? with
  | none =>
      exact Nat.le_of_eq hbegin
  | some u =>
      unfold readByte
      dsimp only
      split_ifs
      · exact Nat.le_of_ble_eq_true rfl
      · exact Nat.le_of_ble_eq_true rfl
      · simp only [List.length_cons]
        have hgiven : (given (some u)).length = 1 := rfl
        omega

/-- A byte that begins a character gives up what was left unfinished before. -/
theorem readByte_of_begins
    {u? : Option Unfinished} {b : Nat}
    (h : Continues u?)
    (hb : b < 0x80 ∨ 0xC0 ≤ b) :
    readByte u? b = (given u? ++ (beginCharacter b).1, (beginCharacter b).2) := by
  cases u? with
  | none =>
      rfl
  | some u =>
      have houtside : ¬ (u.low ≤ b ∧ b ≤ u.high) := by
        obtain ⟨hlow, hhigh⟩ := h u rfl
        omega
      simp only [readByte, if_neg houtside]
      rfl

/-! ### Characters -/

/-- The byte that begins a character of three bytes. -/
theorem ofLead?_of_three
    {v : Nat}
    (hv : 0x7FF < v ∧ v ≤ 0xFFFF)
    (hvalid : v < 0xD800 ∨ 0xDFFF < v) :
    ∃ u, Unfinished.ofLead? (v / 4096 + 0xE0) = some u ∧ u.value = v / 4096 ∧ u.missing = 2 ∧
      u.low ≤ v / 64 % 64 + 0x80 ∧ v / 64 % 64 + 0x80 ≤ u.high := by
  unfold Unfinished.ofLead?
  split_ifs
  all_goals
    first
    | omega
    | exact ⟨_, rfl, by dsimp only; omega, rfl, by dsimp only; omega, by dsimp only; omega⟩

/-- The byte that begins a character of four bytes. -/
theorem ofLead?_of_four
    {v : Nat}
    (hv : 0xFFFF < v ∧ v < 0x110000) :
    ∃ u, Unfinished.ofLead? (v / 262144 + 0xF0) = some u ∧ u.value = v / 262144 ∧
      u.missing = 3 ∧ u.low ≤ v / 4096 % 64 + 0x80 ∧ v / 4096 % 64 + 0x80 ≤ u.high := by
  unfold Unfinished.ofLead?
  split_ifs
  all_goals
    first
    | omega
    | exact ⟨_, rfl, by dsimp only; omega, rfl, by dsimp only; omega, by dsimp only; omega⟩

theorem readBytes_cons
    (u? : Option Unfinished) {b : UInt8} {n : Nat}
    (hb : b.toNat = n)
    (rest : List UInt8) :
    readBytes u? (b :: rest) = (readByte u? n).1 ++ readBytes (readByte u? n).2 rest := by
  rw [← hb]
  rfl

/-- The byte that a number is, if it is small enough for one. -/
theorem toNat_ofNat_of_lt
    {n : Nat}
    (h : n < 256) :
    (UInt8.ofNat n).toNat = n := by
  rw [UInt8.toNat_ofNat', Nat.mod_eq_of_lt h]

/-- The byte that begins a character of several. -/
theorem readBytes_cons_of_lead
    {n : Nat} {u : Unfinished}
    (hn : 0x80 ≤ n ∧ n < 256)
    (hu : Unfinished.ofLead? n = some u)
    (rest : List UInt8) :
    readBytes none (UInt8.ofNat n :: rest) = readBytes (some u) rest := by
  rw [readBytes_cons none (toNat_ofNat_of_lt hn.2)]
  simp only [readByte, beginCharacter, if_neg (Nat.not_lt.mpr hn.1), hu]
  rfl

/-- A byte that goes on with an unfinished character and does not finish it. -/
theorem readBytes_cons_of_goesOn
    {u : Unfinished} {n : Nat}
    (hn : n < 256)
    (hin : u.low ≤ n ∧ n ≤ u.high)
    (hmissing : 1 < u.missing)
    (rest : List UInt8) :
    readBytes (some u) (UInt8.ofNat n :: rest) =
      readBytes (some { value := u.value * 64 + (n - 0x80), missing := u.missing - 1 }) rest := by
  rw [readBytes_cons (some u) (toNat_ofNat_of_lt hn)]
  simp only [readByte, if_pos hin, if_neg (Nat.not_le.mpr hmissing)]
  rfl

/-- A byte that finishes an unfinished character. -/
theorem readBytes_cons_of_finishes
    {u : Unfinished} {n : Nat}
    (hn : n < 256)
    (hin : u.low ≤ n ∧ n ≤ u.high)
    (hmissing : u.missing = 1)
    (rest : List UInt8) :
    readBytes (some u) (UInt8.ofNat n :: rest) =
      Char.ofNat (u.value * 64 + (n - 0x80)) :: readBytes none rest := by
  rw [readBytes_cons (some u) (toNat_ofNat_of_lt hn)]
  simp only [readByte, if_pos hin, if_pos (Nat.le_of_eq hmissing)]
  rfl

/-- The bytes of a character are read as that character. -/
theorem readBytes_utf8EncodeChar_none
    (c : Char) (rest : List UInt8) :
    readBytes none (String.utf8EncodeChar c ++ rest) = c :: readBytes none rest := by
  obtain ⟨v, hv⟩ : ∃ v, c.toNat = v := ⟨_, rfl⟩
  have hc : Char.ofNat v = c := by rw [← hv, Char.ofNat_toNat]
  have hvalid : v < 0xD800 ∨ 0xDFFF < v ∧ v < 0x110000 := hv ▸ c.valid
  have hval : c.val.toNat = v := hv
  -- one case for each number of bytes
  unfold String.utf8EncodeChar
  simp only [hval]
  split_ifs with hone htwo hthree
  · simp only [List.cons_append, List.nil_append]
    rw [readBytes_cons none (toNat_ofNat_of_lt (by omega))]
    simp only [readByte, beginCharacter, if_pos (show v < 0x80 by omega), hc]
    rfl
  · have hlead : Unfinished.ofLead? (v / 64 % 32 + 192) = some ⟨v / 64, 1, 0x80, 0xBF⟩ := by
      simp only [Unfinished.ofLead?]
      rw [if_neg (by omega), if_pos (by omega)]
      simp only [Option.some.injEq, Unfinished.mk.injEq, and_true]
      omega
    have hall : v / 64 * 64 + (v % 64 + 128 - 0x80) = v := by omega
    simp only [List.cons_append, List.nil_append]
    rw [readBytes_cons_of_lead (by omega) hlead,
      readBytes_cons_of_finishes (by omega) (by dsimp only; omega) rfl, hall, hc]
  · obtain ⟨u, hlead, hvalue, hmissing, hin⟩ := ofLead?_of_three (v := v) (by omega) (by omega)
    have hfirst : v / 4096 % 16 + 224 = v / 4096 + 0xE0 := by omega
    have hall : (u.value * 64 + (v / 64 % 64 + 128 - 0x80)) * 64 + (v % 64 + 128 - 0x80) = v := by
      omega
    simp only [List.cons_append, List.nil_append, hfirst]
    rw [readBytes_cons_of_lead (by omega) hlead,
      readBytes_cons_of_goesOn (by omega) hin (by omega),
      readBytes_cons_of_finishes (by omega) (by dsimp only; omega) (by dsimp only; omega), hall, hc]
  · obtain ⟨u, hlead, hvalue, hmissing, hin⟩ := ofLead?_of_four (v := v) (by omega)
    have hfirst : v / 262144 % 8 + 240 = v / 262144 + 0xF0 := by omega
    have hall : ((u.value * 64 + (v / 4096 % 64 + 128 - 0x80)) * 64 +
        (v / 64 % 64 + 128 - 0x80)) * 64 + (v % 64 + 128 - 0x80) = v := by
      omega
    simp only [List.cons_append, List.nil_append, hfirst]
    rw [readBytes_cons_of_lead (by omega) hlead,
      readBytes_cons_of_goesOn (by omega) hin (by omega),
      readBytes_cons_of_goesOn (by omega) (by dsimp only; omega) (by dsimp only; omega),
      readBytes_cons_of_finishes (by omega) (by dsimp only; omega) (by dsimp only; omega), hall, hc]

/-- The first byte of a character is one that begins a character. -/
theorem utf8EncodeChar_begins
    (c : Char) :
    ∃ b rest, String.utf8EncodeChar c = b :: rest ∧ (b.toNat < 0x80 ∨ 0xC0 ≤ b.toNat) := by
  unfold String.utf8EncodeChar
  dsimp only
  split_ifs
  all_goals
    refine ⟨_, _, rfl, ?_⟩
    rw [toNat_ofNat_of_lt (by omega)]
    omega

/-- The bytes of a character are read as that character, after a mark for what was left unfinished
before them. -/
theorem readBytes_utf8EncodeChar
    {u? : Option Unfinished}
    (h : Continues u?)
    (c : Char) (rest : List UInt8) :
    readBytes u? (String.utf8EncodeChar c ++ rest) = given u? ++ c :: readBytes none rest := by
  rw [← readBytes_utf8EncodeChar_none]
  obtain ⟨b, tail, hbytes, hb⟩ := utf8EncodeChar_begins c
  rw [hbytes, List.cons_append, readBytes_cons u? rfl, readBytes_cons none rfl,
    readByte_of_begins h hb, List.append_assoc]
  rfl

/-- The bytes of a text are read as that text. -/
theorem ofBytes_flatMap_utf8EncodeChar
    (cs : List Char) :
    ofBytes (cs.flatMap String.utf8EncodeChar) = cs := by
  rw [ofBytes]
  induction cs with
  | nil =>
      rfl
  | cons c cs ih =>
      rw [List.flatMap_cons, readBytes_utf8EncodeChar_none, ih]

end Text
end TelemetryAlerts
