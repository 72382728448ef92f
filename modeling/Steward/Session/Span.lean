/-!
# Spans of time

A span, or an instant on a clock, is a number of nanoseconds.  The text of a
span uses the largest unit that gives a number of at least one, and drops the
zeros at the end of the fraction: `1.5µs`, `70.5ms`, `30s`.
-/

namespace Steward

namespace Nanos

def perMicro : Nat := 1000

def perMilli : Nat := 1000000

def perSecond : Nat := 1000000000

def ofSeconds (n : Nat) : Nat := n * perSecond

def ofMillis (n : Nat) : Nat := n * perMilli

/-- The last instant of a clock that counts seconds in signed words of 64 bits. -/
def lastOfClock : Nat := ofSeconds 9223372036854775808 - 1

/-- A fraction of one unit in decimal digits, a point in front, with no zeros at its end; nothing
if the fraction is zero.  `digits` is the number of decimal places the unit has. -/
def fraction (digits part : Nat) : String :=
  if part = 0 then ""
  else
    let written := Nat.toDigits 10 part
    let padded := List.replicate (digits - written.length) '0' ++ written
    String.ofList ('.' :: (padded.reverse.dropWhile (· == '0')).reverse)

/-- The text of a span. -/
def text (span : Nat) : String :=
  if perSecond ≤ span then
    toString (span / perSecond) ++ fraction 9 (span % perSecond) ++ "s"
  else if perMilli ≤ span then
    toString (span / perMilli) ++ fraction 6 (span % perMilli) ++ "ms"
  else if perMicro ≤ span then
    toString (span / perMicro) ++ fraction 3 (span % perMicro) ++ "µs"
  else toString span ++ "ns"

end Nanos

end Steward
