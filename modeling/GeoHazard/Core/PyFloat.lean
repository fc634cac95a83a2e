import GeoHazard.Library.JsonText

namespace GeoHazard

structure PyFloat where
  bits : BitVec 64
  deriving DecidableEq

namespace PyFloat

def negative (x : PyFloat) : Bool := x.bits.msb

def magnitude (x : PyFloat) : Nat := x.bits.toNat % 2 ^ 63

def isnan (x : PyFloat) : Bool := decide (0x7ff0000000000000 < x.magnitude)

def isfinite (x : PyFloat) : Bool := decide (x.magnitude < 0x7ff0000000000000)

-- two floats that are not NaN compare as their sign-magnitude bit patterns do
def order (x : PyFloat) : Int := if x.negative then -x.magnitude else x.magnitude

def ge (x y : PyFloat) : Bool := !x.isnan && !y.isnan && decide (y.order ≤ x.order)

def lt (x y : PyFloat) : Bool := !x.isnan && !y.isnan && decide (x.order < y.order)

def le (x y : PyFloat) : Bool := y.ge x

-- float(n), to the nearest double with ties to even; none where Python raises OverflowError
def of_nat (n : Nat) : Option PyFloat :=
  if n = 0 then some ⟨0⟩
  else
    let e := n.log2
    let q := n >>> (e - 52)
    let r := n - (q <<< (e - 52))
    let half := 1 <<< (e - 53)
    let mantissa :=
      if e ≤ 52 then n <<< (52 - e)
      else if half < r ∨ (r = half ∧ q % 2 = 1) then q + 1 else q
    let bits := ((e + 1022) <<< 52) + mantissa
    if bits < 0x7ff0000000000000 then some ⟨BitVec.ofNat 64 bits⟩ else none

def of_int (n : Int) : Option PyFloat :=
  (of_nat n.natAbs).map (fun x => if n < 0 then ⟨x.bits ||| 0x8000000000000000⟩ else x)

end PyFloat

abbrev FiniteFloat := {x : PyFloat // x.isfinite = true}

abbrev PyJson := Json FiniteFloat

end GeoHazard
