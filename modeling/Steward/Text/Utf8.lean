/-!
# Bytes as text

Tools write bytes.  `decodeLossy` reads them as UTF-8 and puts one replacement
character where a stretch of bytes cannot be read: the stretch is the longest
start of a character's encoding that stands there, or a single byte if none
does.
-/

namespace Steward.Text

/-- What a first byte promises: the value it carries, how many bytes follow, and the range of the
byte after it. -/
structure LeadByte where
  /-- The bits of the character in the first byte. -/
  bits : Nat
  /-- How many bytes are still to come. -/
  more : Nat
  low : Nat
  high : Nat

/-- Reads a first byte; none if no encoding starts with it. -/
def leadByte? (b : Nat) : Option LeadByte :=
  if b < 0x80 then some ⟨b, 0, 0x80, 0xBF⟩
  else if b < 0xC2 then none
  else if b < 0xE0 then some ⟨b - 0xC0, 1, 0x80, 0xBF⟩
  else if b = 0xE0 then some ⟨0, 2, 0xA0, 0xBF⟩
  else if b = 0xED then some ⟨0xD, 2, 0x80, 0x9F⟩
  else if b < 0xF0 then some ⟨b - 0xE0, 2, 0x80, 0xBF⟩
  else if b = 0xF0 then some ⟨0, 3, 0x90, 0xBF⟩
  else if b < 0xF4 then some ⟨b - 0xF0, 3, 0x80, 0xBF⟩
  else if b = 0xF4 then some ⟨4, 3, 0x80, 0x8F⟩
  else none

/-- The character that stands for bytes that cannot be read. -/
def replacement : Char := Char.ofNat 0xFFFD

/-- A place between two bytes while reading. -/
inductive Utf8State
  /-- Between characters. -/
  | between
  /-- Inside a character: its bits so far, bytes to come, and the range of the next. -/
  | inside (bits more low high : Nat)

/-- Reads bytes as text.  A byte that cannot continue the character in hand ends it as unreadable
and is then read as a first byte itself. -/
def decodeFrom : Utf8State → List UInt8 → List Char
  | .between, [] => []
  | .inside .., [] => [replacement]
  | .between, b :: rest => start b.toNat rest
  | .inside bits more low high, b :: rest =>
    let n := b.toNat
    if low ≤ n && n ≤ high then
      let bits := bits * 64 + (n - 0x80)
      match more with
      | 0 | 1 => Char.ofNat bits :: decodeFrom .between rest
      | more + 1 => decodeFrom (.inside bits more 0x80 0xBF) rest
    else replacement :: start n rest
where
  /-- Reads a byte as the first of a character. -/
  start (n : Nat) (rest : List UInt8) : List Char :=
    match leadByte? n with
    | none => replacement :: decodeFrom .between rest
    | some ⟨bits, 0, _, _⟩ => Char.ofNat bits :: decodeFrom .between rest
    | some ⟨bits, more + 1, low, high⟩ => decodeFrom (.inside bits (more + 1) low high) rest

/-- Bytes read as UTF-8, with replacement characters for what cannot be read. -/
def decodeLossy (bytes : ByteArray) : String :=
  String.ofList (decodeFrom .between bytes.data.toList)

end Steward.Text
