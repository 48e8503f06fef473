import TelemetryAlerts.Text.Quoted

/-!
# Bytes in texts

Bytes are written down by sixty-four characters, four for every three bytes, with padding at the
end. They are shown in quotes, byte by byte.
-/

namespace TelemetryAlerts
namespace Text

/-- The six bits that a character stands for. -/
def sextet? (c : Char) : Option Nat :=
  if 'A' ≤ c ∧ c ≤ 'Z' then some (c.toNat - 65)
  else if 'a' ≤ c ∧ c ≤ 'z' then some (c.toNat - 71)
  else if '0' ≤ c ∧ c ≤ '9' then some (c.toNat + 4)
  else if c = '+' then some 62
  else if c = '/' then some 63
  else none

/-- The bytes that characters stand for, after `place` characters of a group of four of which
`left` is still to be written and `pads` padding characters. Other characters are passed over,
and so is whatever follows the end of the padding. A group has to be complete. -/
def bytesFrom? (place left pads : Nat) : List Char → Option (List UInt8)
  | [] => if place = 0 then some [] else none
  | c :: rest =>
    if c = '=' then
      if 2 ≤ place then
        if 4 ≤ place + (pads + 1) then some [] else bytesFrom? place left (pads + 1) rest
      else bytesFrom? place left pads rest
    else
      match sextet? c with
      | none => bytesFrom? place left pads rest
      | some n =>
        match place with
        | 0 => bytesFrom? 1 n 0 rest
        | 1 => (bytesFrom? 2 (n % 16) 0 rest).map (UInt8.ofNat (left * 4 + n / 16) :: ·)
        | 2 => (bytesFrom? 3 (n % 4) 0 rest).map (UInt8.ofNat (left * 16 + n / 4) :: ·)
        | _ => (bytesFrom? 0 0 0 rest).map (UInt8.ofNat (left * 64 + n) :: ·)

/-- The bytes that a text stands for; it must be plain. -/
def bytes? (s : String) : Option (List UInt8) :=
  if s.toList.all fun c => c.toNat < 0x80 then bytesFrom? 0 0 0 s.toList else none

/-- One byte inside quotes. -/
def quotedByte (quote : Char) (b : UInt8) : List Char :=
  if b < 0x7F then quotedChar quote (Char.ofNat b.toNat) else '\\' :: 'x' :: hexPadded 2 b.toNat

/-- Bytes in quotes, with a mark in front. -/
def quotedBytes (bs : List UInt8) : List Char :=
  let quote := if bs.contains 39 && !bs.contains 34 then '"' else '\''
  'b' :: quote :: bs.flatMap (quotedByte quote) ++ [quote]

end Text
end TelemetryAlerts
