/-! # UTF-8 with replacement

Reads any byte string as text. Where the bytes are not well-formed, each maximal part that begins a
well-formed sequence without completing it, and otherwise each single byte, is shown as U+FFFD.
-/

namespace StoreGraph.Text

/-- Where the reader stands between two bytes. -/
inductive Utf8State where
  | idle
  /-- A character is under way: `missing + 1` bytes are still to come, the next of them between
      `low` and `high`, and `value` holds the bits read so far. -/
  | pending (missing : Nat) (low high : UInt8) (value : Nat)
  deriving Repr, DecidableEq

/-- The character that stands for bytes that are not well-formed. -/
def replacement : Char := Char.ofNat 0xFFFD

def beginChar (b : UInt8) : List Char × Utf8State :=
  if b < 0x80 then ([Char.ofNat b.toNat], .idle)
  else if b < 0xC2 then ([replacement], .idle)
  else if b < 0xE0 then ([], .pending 0 0x80 0xBF (b.toNat - 0xC0))
  else if b < 0xF0 then
    let low := if b = 0xE0 then 0xA0 else 0x80
    let high := if b = 0xED then 0x9F else 0xBF
    ([], .pending 1 low high (b.toNat - 0xE0))
  else if b < 0xF5 then
    let low := if b = 0xF0 then 0x90 else 0x80
    let high := if b = 0xF4 then 0x8F else 0xBF
    ([], .pending 2 low high (b.toNat - 0xF0))
  else ([replacement], .idle)

/-- Read one byte: the characters that are settled by it, and the state after it. -/
def readByte : Utf8State → UInt8 → List Char × Utf8State
  | .idle, b => beginChar b
  | .pending missing low high value, b =>
    if low ≤ b ∧ b ≤ high then
      let value := value * 64 + (b.toNat - 0x80)
      match missing with
      | 0 => ([Char.ofNat value], .idle)
      | n + 1 => ([], .pending n 0x80 0xBF value)
    else
      let (settled, next) := beginChar b
      (replacement :: settled, next)

/-- Read bytes to their end; a character left incomplete there is replaced. -/
def readBytes : Utf8State → List UInt8 → List Char
  | .idle, [] => []
  | .pending .., [] => [replacement]
  | state, b :: rest =>
    let (settled, next) := readByte state b
    settled ++ readBytes next rest

end StoreGraph.Text
