import TelemetryAlerts.Json.Reader

/-!
# JSON documents as bytes

The encoding of a document is told from its first bytes: a byte order mark, or the
zeros among the first four. Decoding is strict.
-/

namespace TelemetryAlerts
namespace Json

/-- The encodings in which a document may come. -/
inductive Encoding where
  | utf8
  | utf8Marked
  | utf16 (bigEndian : Bool)
  | utf16Marked
  | utf32 (bigEndian : Bool)
  | utf32Marked
deriving Repr, DecidableEq

/-- The encoding that the first bytes announce. -/
def Encoding.ofBytes (b : List UInt8) : Encoding :=
  match b with
  | 0xFF :: 0xFE :: 0 :: 0 :: _ => .utf32Marked
  | 0 :: 0 :: 0xFE :: 0xFF :: _ => .utf32Marked
  | 0xFF :: 0xFE :: _ => .utf16Marked
  | 0xFE :: 0xFF :: _ => .utf16Marked
  | 0xEF :: 0xBB :: 0xBF :: _ => .utf8Marked
  | b₀ :: b₁ :: b₂ :: b₃ :: _ =>
    if b₀ = 0 then (if b₁ = 0 then .utf32 true else .utf16 true)
    else if b₁ = 0 then (if b₂ = 0 ∧ b₃ = 0 then .utf32 false else .utf16 false)
    else .utf8
  | [b₀, b₁] => if b₀ = 0 then .utf16 true else if b₁ = 0 then .utf16 false else .utf8
  | _ => .utf8

/-- The value of a continuation byte. -/
def continuation? (b : UInt8) : Option Nat :=
  if 0x80 ≤ b ∧ b < 0xC0 then some (b.toNat - 0x80) else none

/-- The code point of a continuation-byte sequence, if it lies in a range. -/
def continued? (lead low high : Nat) (tail : List UInt8) : Option Char := do
  let parts ← tail.mapM continuation?
  let n := parts.foldl (fun n d => n * 64 + d) lead
  if low ≤ n ∧ n ≤ high then some (charOfCode n) else none

/-- Decodes UTF-8; half of a surrogate pair counts as one undefined character. -/
def decodeUtf8? : List UInt8 → Option (List Char)
  | [] => some []
  | a :: rest =>
    if a < 0x80 then (decodeUtf8? rest).map (Char.ofNat a.toNat :: ·)
    else if 0xC2 ≤ a ∧ a < 0xE0 then
      match rest with
      | b :: rest => do
        let c ← continued? (a.toNat - 0xC0) 0x80 0x7FF [b]
        (decodeUtf8? rest).map (c :: ·)
      | _ => none
    else if 0xE0 ≤ a ∧ a < 0xF0 then
      match rest with
      | b :: c :: rest => do
        let c ← continued? (a.toNat - 0xE0) 0x800 0xFFFF [b, c]
        (decodeUtf8? rest).map (c :: ·)
      | _ => none
    else if 0xF0 ≤ a ∧ a < 0xF5 then
      match rest with
      | b :: c :: d :: rest => do
        let c ← continued? (a.toNat - 0xF0) 0x10000 0x10FFFF [b, c, d]
        (decodeUtf8? rest).map (c :: ·)
      | _ => none
    else none

/-- Groups bytes into 16-bit units. -/
def units16? (bigEndian : Bool) : List UInt8 → Option (List Nat)
  | [] => some []
  | a :: b :: rest =>
    let n := if bigEndian then a.toNat * 256 + b.toNat else b.toNat * 256 + a.toNat
    (units16? bigEndian rest).map (n :: ·)
  | _ => none

/-- Joins surrogate pairs; a half at the very end ends the text too early. -/
def joinUnits? : List Nat → Option (List Char)
  | [] => some []
  | [n] => if 0xD800 ≤ n ∧ n < 0xDC00 then none else some [charOfCode n]
  | n :: m :: rest =>
    if 0xD800 ≤ n ∧ n < 0xDC00 ∧ 0xDC00 ≤ m ∧ m < 0xE000 then
      (joinUnits? rest).map (charOfCode (0x10000 + (n - 0xD800) * 0x400 + (m - 0xDC00)) :: ·)
    else (joinUnits? (m :: rest)).map (charOfCode n :: ·)

/-- Groups bytes into 32-bit units, each a code point. -/
def units32? (bigEndian : Bool) : List UInt8 → Option (List Char)
  | [] => some []
  | a :: b :: c :: d :: rest =>
    let bytes := if bigEndian then [a, b, c, d] else [d, c, b, a]
    let n := bytes.foldl (fun n x => n * 256 + x.toNat) 0
    if n ≤ 0x10FFFF then (units32? bigEndian rest).map (charOfCode n :: ·) else none
  | _ => none

/-- Decodes bytes in an encoding. -/
def Encoding.decode? (e : Encoding) (b : List UInt8) : Option (List Char) :=
  match e with
  | utf8 => decodeUtf8? b
  | utf8Marked => decodeUtf8? (b.drop 3)
  | utf16 big => (units16? big b).bind joinUnits?
  | utf16Marked => (units16? (b.head? == some 0xFE) (b.drop 2)).bind joinUnits?
  | utf32 big => units32? big b
  | utf32Marked => units32? (b.head? == some 0) (b.drop 4)

/-- The text that bytes hold. -/
def textOfBytes? (b : List UInt8) : Option String :=
  ((Encoding.ofBytes b).decode? b).map String.ofList

end Json
end TelemetryAlerts
