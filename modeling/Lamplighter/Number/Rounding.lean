/-!
# Rounding: quotients of whole numbers

`ceilDiv`, `truncDiv` and `nearestDiv` round `n / d` for a positive `d`: up, toward zero, and to the
nearest whole number with a half going to the even neighbour.
-/

namespace Lamplighter

def ceilDiv (n : Int) (d : Nat) : Int :=
  -((-n).fdiv d)

def truncDiv (n : Int) (d : Nat) : Int :=
  n.tdiv d

def nearestDiv (n : Int) (d : Nat) : Int :=
  let q := n.fdiv d
  let r := n.fmod d
  if 2 * r < d then q
  else if 2 * r > d then q + 1
  else if q % 2 = 0 then q else q + 1

/-- the nearest whole number to a quotient of natural numbers, a half going to the even one -/
def nearestNatDiv (n d : Nat) : Nat :=
  let q := n / d
  let r := n % d
  if 2 * r < d then q
  else if 2 * r > d then q + 1
  else if q % 2 = 0 then q else q + 1

example : [-7, -5, -3, 3, 5, 7].map (nearestDiv · 2) = [-4, -2, -2, 2, 2, 4] := by decide
example : [-7, 7].map (ceilDiv · 2) = [-3, 4] := by decide

end Lamplighter
