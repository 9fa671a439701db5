import PromptGateway.Text.Ascii

/-! # Durations

A span of time in seconds and nanoseconds, and its text in the largest unit of which it has at least
one, with as many decimals as it needs.
-/

namespace PromptGateway

/-- A span of time; the nanoseconds stay below one second. -/
structure Duration where
  seconds : Nat
  nanos : Nat := 0
  deriving DecidableEq, Repr

namespace Duration

def ofMillis (ms : Nat) : Duration := ⟨ms / 1000, ms % 1000 * 1000000⟩

def toMillis (d : Duration) : Nat := d.seconds * 1000 + d.nanos / 1000000

/-- The fraction `part / 10 ^ places` as decimals, zeros at the end left out. -/
def decimals (places part : Nat) : String :=
  let digits := (Text.padded places part).toList.reverse.dropWhile (· == '0')
  if part == 0 then "" else "." ++ String.ofList digits.reverse

/-- The amount in seconds, milliseconds, microseconds or nanoseconds. -/
def text (d : Duration) : String :=
  if 0 < d.seconds then toString d.seconds ++ decimals 9 d.nanos ++ "s"
  else if 1000000 ≤ d.nanos then
    toString (d.nanos / 1000000) ++ decimals 6 (d.nanos % 1000000) ++ "ms"
  else if 1000 ≤ d.nanos then toString (d.nanos / 1000) ++ decimals 3 (d.nanos % 1000) ++ "µs"
  else toString d.nanos ++ "ns"

end Duration

end PromptGateway
