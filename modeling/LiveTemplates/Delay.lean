import LiveTemplates.Number.Binary64

/-!
# Delays

A delay is given in milliseconds and kept as a number of seconds in double precision. What it is
reported as, and how long a timer waits for it, is computed from that number and rounded to the
nearest millisecond or microsecond. Both are what was given unless that has very many digits.

Milliseconds beyond the range of double precision make no delay.
-/

namespace LiveTemplates

/-- Why there is no delay. -/
inductive DelayError
  /-- The milliseconds are beyond the range of double precision. -/
  | tooLong
  /-- No milliseconds are given. -/
  | missing
deriving DecidableEq, Repr

/-- The lack of a delay as it is reported. -/
def DelayError.message : DelayError → String
  | .tooLong => "int too large to convert to float"
  | .missing => "unsupported operand type(s) for /: 'list' and 'float'"

/-- A delay. -/
structure Delay where
  /-- The delay as it is reported. -/
  milliseconds : Int
  /-- How long a timer waits. -/
  microseconds : Int
deriving DecidableEq, Repr

/-- A delay of some milliseconds. -/
def Delay.ofMilliseconds (ms : Int) : Except DelayError Delay :=
  let number := Binary64.ofInt ms
  if number.isFinite then
    let seconds := number.scale 1 1000
    .ok ⟨(seconds.scale 1000 1).round?.getD ms, (seconds.scale 1000000 1).round?.getD (1000 * ms)⟩
  else .error .tooLong

end LiveTemplates
