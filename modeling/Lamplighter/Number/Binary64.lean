import Lamplighter.Number.Power
import Lamplighter.Number.Rounding

/-!
# Binary64: what a floating-point number is, exactly

`valueOf` takes a number apart into an exact `± m · 2 ^ e`, an infinity or a not-a-number.
`ofRatio` goes the other way: the nearest number to a quotient, a half going to the even neighbour,
and infinity from half a unit above the largest finite number on.  The whole-number roundings are
exact, and have no result where the number is not finite.
-/

namespace Lamplighter.Binary64

/-- the least mantissa of full length -/
def leadingBit : Nat := 0x10000000000000

def signBit : Nat := 0x8000000000000000

/-- the bits of infinity -/
def infiniteBits : Nat := 0x7FF0000000000000

/-- an exact value: `finite s m e` is `m · 2 ^ e`, negative when `s` -/
inductive Value where
  | finite (negative : Bool) (mantissa : Nat) (exponent : Int)
  | infinite (negative : Bool)
  | undefined
  deriving DecidableEq, Repr

def ofBits (bits : Nat) : Value :=
  let negative := bits / signBit % 2 == 1
  let biased := bits / leadingBit % 2048
  let fraction := bits % leadingBit
  if biased = 2047 then (if fraction = 0 then .infinite negative else .undefined)
  else if biased = 0 then .finite negative fraction (-1074)
  else .finite negative (leadingBit + fraction) (Int.ofNat biased - 1075)

def valueOf (x : Float) : Value :=
  ofBits x.toBits.toNat

/-- the bits of the nearest number to `n / d`, without a sign -/
def ratioBits (n d : Nat) : Nat :=
  if n = 0 then 0
  else
    let guess : Int := Int.ofNat n.log2 - Int.ofNat d.log2 - 52
    -- the guess is the binary place of the last digit, or one place too high
    let fits := fun (e : Int) => if 0 ≤ e then leadingBit * (d * pow2 e.toNat) ≤ n
      else leadingBit * d ≤ n * pow2 (-e).toNat
    let e := max (-1074) (if fits guess then guess else guess - 1)
    let m := if 0 ≤ e then nearestNatDiv n (d * pow2 e.toNat)
      else nearestNatDiv (n * pow2 (-e).toNat) d
    let (m, e) := if m = 2 * leadingBit then (leadingBit, e + 1) else (m, e)
    if 971 < e then infiniteBits
    else if m < leadingBit then m
    else (e + 1075).toNat * leadingBit + (m - leadingBit)

def ofRatio (negative : Bool) (n d : Nat) : Float :=
  Float.ofBits (UInt64.ofNat (ratioBits n d + (if negative then signBit else 0)))

def infinity : Float :=
  Float.ofBits (UInt64.ofNat infiniteBits)

def nan : Float :=
  Float.ofBits 0x7FF8000000000000

/-- the nearest number to a whole number, unless that is infinite -/
def ofInt? (n : Int) : Option Float :=
  if ratioBits n.natAbs 1 = infiniteBits then none else some (ofRatio (n < 0) n.natAbs 1)

/-- why a number has no whole-number rounding -/
inductive NotWhole where
  | infinite
  | undefined
  deriving DecidableEq, Repr

/-- round a finite value by the given division -/
def roundWith (divide : Int → Nat → Int) (x : Float) : Except NotWhole Int :=
  match valueOf x with
  | .undefined => .error .undefined
  | .infinite _ => .error .infinite
  | .finite negative m e =>
    let m : Int := if negative then -(Int.ofNat m) else Int.ofNat m
    if 0 ≤ e then .ok (m * Int.ofNat (pow2 e.toNat)) else .ok (divide m (pow2 (-e).toNat))

def ceil (x : Float) : Except NotWhole Int :=
  roundWith ceilDiv x

def truncate (x : Float) : Except NotWhole Int :=
  roundWith truncDiv x

def nearest (x : Float) : Except NotWhole Int :=
  roundWith nearestDiv x

end Lamplighter.Binary64
