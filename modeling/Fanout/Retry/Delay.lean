import Fanout.Decimal.Binary

/-!
# Delays

Spans of time in whole seconds and nanoseconds, and how long to wait before an attempt is made
again: a base grown by a factor for every attempt made, and a bound on it. The computation is one
on doubles; its result is rounded to the nearest nanosecond from the exact value of the double.
-/
namespace Fanout

/-- A span of time, `nanos` being less than a second. -/
structure Span where
  secs : Nat
  nanos : Nat
  deriving DecidableEq

/-- What keeps a number of seconds from being a span. -/
inductive SpanError where
  | negative
  | tooBig
  deriving DecidableEq

def SpanError.message : SpanError → String
  | .negative => "cannot convert float seconds to Duration: value is negative"
  | .tooBig => "cannot convert float seconds to Duration: value is either too big or NaN"

namespace Span

def ofNanos (n : Nat) : Span := ⟨n / 1000000000, n % 1000000000⟩

def toSeconds (s : Span) : Float :=
  s.secs.toFloat + s.nanos.toFloat / 1e9

/-- The span nearest to a number of seconds, of which there are less than `2 ^ 64`. -/
def ofSeconds (x : Float) : Except SpanError Span :=
  match Decimal.Reading.ofFloat x with
  | .notANumber => .error .tooBig
  | .infinite negative => .error (if negative then .negative else .tooBig)
  | .finite b =>
    if b.negative && b.mantissa != 0 then .error .negative
    else
      let span := ofNanos (b.scaled 9)
      if span.secs < UInt64.size then .ok span else .error .tooBig

end Span

/-- `r * a ^ b` by squaring, for `b` below `2 ^ fuel`. -/
def powFrom : Nat → Float → Float → Nat → Float
  | 0, r, _, _ => r
  | fuel + 1, r, a, b =>
    let r' := if b % 2 = 1 then r * a else r
    if b / 2 = 0 then r' else powFrom fuel r' (a * a) (b / 2)

/-- A power with an exponent of 32 bits, signed. -/
def power (a : Float) (e : Int32) : Float :=
  let r := powFrom 32 1 a e.toInt.natAbs
  if e < 0 then 1 / r else r

/-- The smaller of two numbers; what is not a number does not count. -/
def lesser (a b : Float) : Float :=
  if a.isNaN then b else if b.isNaN then a else if b < a then b else a

/-- When a failed attempt is made again, and after how long. -/
structure RetryPlan where
  /-- The most attempts made, the first included. -/
  maxAttempts : UInt32
  /-- The delay before the second attempt. -/
  baseDelay : Span
  /-- What a delay grows by from one attempt to the next. -/
  factor : Float
  /-- The longest delay. -/
  maxDelay : Span

namespace RetryPlan

def default : RetryPlan := ⟨3, ⟨1, 0⟩, 2.0, ⟨30, 0⟩⟩

/-- So many attempts after the first, as far as they can be counted. -/
def withRetries (retries : UInt32) : RetryPlan :=
  { default with maxAttempts := if retries = 0xFFFFFFFF then retries else retries + 1 }

/-- One attempt only. -/
def once : RetryPlan := { default with maxAttempts := 1 }

/-- The delay after an attempt, the first having the number 0. -/
def delay (plan : RetryPlan) (attempt : UInt32) : Except SpanError Span :=
  let grown := plan.baseDelay.toSeconds * power plan.factor attempt.toInt32
  Span.ofSeconds (lesser grown plan.maxDelay.toSeconds)

end RetryPlan

end Fanout
