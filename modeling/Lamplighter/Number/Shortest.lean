import Lamplighter.Number.Binary64
import Lamplighter.Text.Digits

/-!
# Shortest decimals: the fewest digits that read back

The numbers that round to a given `m · 2 ^ e` form an interval, ends included when `m` is even.
For one, two, … seventeen digits the two neighbours of the value on the decimal grid are tried, and
the first grid with a neighbour inside the interval gives the digits; of two, the nearer one.

`render` writes them: positional from `0.0001` up to sixteen places before the point, with an
exponent of two digits or more elsewhere, and always with a point or an exponent.
-/

namespace Lamplighter.Shortest

open Text

/-- a decimal `digits · 10 ^ exponent` -/
structure Decimal where
  digits : Nat
  exponent : Int
  deriving DecidableEq, Repr

/-- twice the ends of the interval of `m · 2 ^ e`, in units of `2 ^ (e - 2)` -/
def interval (m : Nat) (e : Int) : Nat × Nat :=
  (if m = Binary64.leadingBit ∧ -1074 < e then 4 * m - 1 else 4 * m - 2, 4 * m + 2)

/-- compare `a · 10 ^ k` with `b · 2 ^ e` -/
def compareScaled (a : Nat) (k : Int) (b : Nat) (e : Int) : Ordering :=
  let left := a * pow10 k.toNat * pow2 (-e).toNat
  let right := b * pow2 e.toNat * pow10 (-k).toNat
  compare left right

/-- does the decimal `a · 10 ^ k` round to `m · 2 ^ e`? -/
def readsBack (m : Nat) (e : Int) (a : Nat) (k : Int) : Bool :=
  let (lo, hi) := interval m e
  let even := m % 2 == 0
  let above := match compareScaled a k lo (e - 2) with
    | .gt => true
    | .eq => even
    | .lt => false
  let below := match compareScaled a k hi (e - 2) with
    | .lt => true
    | .eq => even
    | .gt => false
  above && below

/-- the largest `a` with `a · 10 ^ k ≤ m · 2 ^ e` -/
def gridFloor (m : Nat) (e : Int) (k : Int) : Nat :=
  (m * pow2 e.toNat * pow10 (-k).toNat) / (pow10 k.toNat * pow2 (-e).toNat)

/-- is `a + 1` at least as near to the value as `a`, on the grid of step `10 ^ k`? -/
def upperNearer (m : Nat) (e : Int) (a : Nat) (k : Int) : Bool :=
  match compareScaled (2 * a + 1) k (2 * m) e with
  | .lt => true
  | .eq => a % 2 == 1
  | .gt => false

/-- the neighbours on one grid, tried -/
def onGrid (m : Nat) (e : Int) (k : Int) : Option Decimal :=
  let a := gridFloor m e k
  match readsBack m e a k, readsBack m e (a + 1) k with
  | true, true => some ⟨if upperNearer m e a k then a + 1 else a, k⟩
  | true, false => some ⟨a, k⟩
  | false, true => some ⟨a + 1, k⟩
  | false, false => none

/-- the decimal exponent of the leading digit of `m · 2 ^ e`, for a positive `m` -/
def leadingPlace (m : Nat) (e : Int) : Int :=
  let estimate : Int := (Int.ofNat m.log2 + e) * 30103 / 100000
  if compareScaled 1 (estimate + 1) m e != .gt then estimate + 1
  else if compareScaled 1 estimate m e != .gt then estimate
  else estimate - 1

/-- the first grid with a hit, the coarsest first -/
def search (m : Nat) (e : Int) : Nat → Int → Option Decimal
  | 0, _ => none
  | left + 1, k => (onGrid m e k).or (search m e left (k - 1))

/-- the shortest decimal of `m · 2 ^ e`, for a positive `m` -/
def shortest (m : Nat) (e : Int) : Decimal :=
  (search m e 18 (leadingPlace m e)).getD ⟨0, 0⟩

/-- the digits without zeros at the end, and the place of the point counted from the left -/
def layout (d : Decimal) : List Char × Int :=
  let digits := decimal d.digits
  let point := Int.ofNat digits.length + d.exponent
  ((digits.reverse.dropWhile (· == '0')).reverse, point)

/-- digits with the point at the given place from the left -/
def writePositional (digits : List Char) (point : Int) : List Char :=
  if point ≤ 0 then '0' :: '.' :: (List.replicate (-point).toNat '0' ++ digits)
  else
    let whole := digits.take point.toNat
    let rest := digits.drop point.toNat
    whole ++ List.replicate (point.toNat - whole.length) '0'
      ++ '.' :: (if rest.isEmpty then ['0'] else rest)

/-- one digit before the point, and an exponent of two digits or more -/
def writeScientific (digits : List Char) (point : Int) : List Char :=
  let power := point - 1
  let size := decimal power.natAbs
  digits.take 1 ++ (if (digits.drop 1).isEmpty then [] else '.' :: digits.drop 1)
    ++ 'e' :: (if power < 0 then '-' else '+') :: (if size.length < 2 then '0' :: size else size)

/-- the shortest text of a number; infinities and not-a-number by name -/
def renderNamed (infinite undefined : List Char) (x : Float) : List Char :=
  match Binary64.valueOf x with
  | .undefined => undefined
  | .infinite negative => if negative then '-' :: infinite else infinite
  | .finite negative m e =>
    let body :=
      if m = 0 then ['0', '.', '0']
      else
        let (digits, point) := layout (shortest m e)
        if -4 < point ∧ point ≤ 16 then writePositional digits point
        else writeScientific digits point
    if negative then '-' :: body else body

def render (x : Float) : List Char :=
  renderNamed ['i', 'n', 'f'] ['n', 'a', 'n'] x

end Lamplighter.Shortest
