/-!
# Text from bytes of any kind

Reading bytes as UTF-8 when they may be anything. Whatever is no character is replaced by
one mark: each longest beginning of a character that is not completed, and each byte that
begins none.
-/

namespace TelemetryAlerts
namespace Text

/-- The mark that stands for what cannot be read. -/
def replacement : Char := Char.ofNat 0xFFFD

/-- The beginning of a character: its value so far, the bytes that it still needs, and the
range in which the next of them lies. -/
structure Unfinished where
  value : Nat
  missing : Nat
  low : Nat := 0x80
  high : Nat := 0xBF

/-- The character that a byte begins, if it begins one of several bytes. -/
def Unfinished.ofLead? (b : Nat) : Option Unfinished :=
  if b < 0xC2 then none
  else if b < 0xE0 then some { value := b - 0xC0, missing := 1 }
  else if b = 0xE0 then some { value := 0, missing := 2, low := 0xA0 }
  else if b = 0xED then some { value := 0xD, missing := 2, high := 0x9F }
  else if b < 0xF0 then some { value := b - 0xE0, missing := 2 }
  else if b = 0xF0 then some { value := 0, missing := 3, low := 0x90 }
  else if b < 0xF4 then some { value := b - 0xF0, missing := 3 }
  else if b = 0xF4 then some { value := 4, missing := 3, high := 0x8F }
  else none

/-- Reads a byte where a character begins. -/
def beginCharacter (b : Nat) : List Char × Option Unfinished :=
  if b < 0x80 then ([Char.ofNat b], none)
  else
    match Unfinished.ofLead? b with
    | some u => ([], some u)
    | none => ([replacement], none)

/-- Reads a byte: what is finished by it, and what is left unfinished. -/
def readByte (u? : Option Unfinished) (b : Nat) : List Char × Option Unfinished :=
  match u? with
  | none => beginCharacter b
  | some u =>
    if u.low ≤ b ∧ b ≤ u.high then
      let value := u.value * 64 + (b - 0x80)
      if u.missing ≤ 1 then ([Char.ofNat value], none)
      else ([], some { value := value, missing := u.missing - 1 })
    else
      let (out, next) := beginCharacter b
      (replacement :: out, next)

/-- Reads bytes after an unfinished character. -/
def readBytes (u? : Option Unfinished) : List UInt8 → List Char
  | [] => if u?.isSome then [replacement] else []
  | b :: rest =>
    let (out, next) := readByte u? b.toNat
    out ++ readBytes next rest

/-- The text of bytes, with what cannot be read replaced. -/
def ofBytes (bytes : List UInt8) : List Char :=
  readBytes none bytes

end Text
end TelemetryAlerts
