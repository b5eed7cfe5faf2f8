import Lamplighter.Number.Binary64

/-!
# Moments: points of time, exactly

A moment is an exact number of seconds since the clock was started.  A clock counts in
floating-point numbers, so what lies some seconds after a moment is the nearest such number to the
sum, and so is the time between two moments.
-/

namespace Lamplighter

namespace Binary64

/-- the exact value of a number, if it is finite -/
def Value.toRat? : Value → Option Rat
  | .finite negative mantissa exponent =>
    let m : Int := if negative then -(Int.ofNat mantissa) else Int.ofNat mantissa
    if 0 ≤ exponent then some ((m * Int.ofNat (pow2 exponent.toNat) : Int) : Rat)
    else some (mkRat m (pow2 (-exponent).toNat))
  | _ => none

/-- the exact value of the nearest floating-point number; a number beyond all of them stays -/
def nearestRat (q : Rat) : Rat :=
  match (ofBits (ratioBits q.num.natAbs q.den + (if q < 0 then signBit else 0))).toRat? with
  | some r => r
  | none => q

/-- the nearest floating-point number -/
def ofRat (q : Rat) : Float :=
  ofRatio (q < 0) q.num.natAbs q.den

end Binary64

/-- seconds since the clock was started -/
abbrev Moment := Rat

namespace Moment

/-- so many seconds later -/
def later (moment : Moment) (seconds : Rat) : Moment :=
  Binary64.nearestRat (moment + seconds)

/-- the seconds between two moments -/
def since (moment earlier : Moment) : Rat :=
  Binary64.nearestRat (moment - earlier)

/-- the whole seconds of a moment -/
def wholeSeconds (moment : Moment) : Int :=
  moment.floor

end Moment

/-- how long something takes -/
inductive Duration where
  | seconds (count : Rat)
  | endless
  deriving DecidableEq, Repr, Inhabited

namespace Duration

/-- the duration of a number of seconds; what is not a number takes no time -/
def ofFloat (x : Float) : Duration :=
  match Binary64.valueOf x with
  | .infinite false => .endless
  | value => .seconds (value.toRat?.getD 0)

/-- it takes no time -/
def isInstant : Duration → Bool
  | .seconds s => s ≤ 0
  | .endless => false

end Duration

end Lamplighter
