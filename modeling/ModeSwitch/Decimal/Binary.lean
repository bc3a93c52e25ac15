/-! Binary numbers of double precision.

A finite number is a whole multiple of a power of two: the multiple has at most 53 bits, and the
power is at least the 1074th below one.  A quotient is rounded to the nearest such number; of two
that are equally near, to the one with the even multiple.
-/

namespace ModeSwitch.Decimal

/-- The number `multiple · 2 ^ power`. -/
structure Binary where
  multiple : Nat
  power : Int
  deriving DecidableEq, Repr

namespace Binary

def bits : Nat := 53

def leastPower : Int := -1074

def greatestPower : Int := 971

def zero : Binary := ⟨0, leastPower⟩

/-- The whole number nearest to a quotient; of two, the even one. -/
def roundQuotient (num den : Nat) : Nat :=
  let floor := num / den
  let twice := 2 * (num % den)
  if twice < den then floor
  else if den < twice then floor + 1
  else if floor % 2 = 0 then floor else floor + 1

/-- The quotient of a quotient and a power of two, as numerator and denominator. -/
def scale (num den : Nat) (power : Int) : Nat × Nat :=
  if 0 ≤ power then (num, den * Nat.pow 2 power.toNat)
  else (num * Nat.pow 2 (-power).toNat, den)

/-- The power that leaves a quotient at least `2 ^ 52` and less than `2 ^ 53`, or else the least
one. -/
def powerFor (num den : Nat) : Int :=
  let guess : Int := (num.log2 : Int) - den.log2 - bits
  let (scaled, by') := scale num den guess
  max leastPower (if scaled < Nat.pow 2 bits * by' then guess else guess + 1)

/-- The number nearest to a quotient, unless it is too large. -/
def nearest? (num den : Nat) : Option Binary :=
  if num = 0 then some zero
  else
    let power := powerFor num den
    let (scaled, by') := scale num den power
    let rounded := roundQuotient scaled by'
    let number : Binary :=
      if rounded = Nat.pow 2 bits then ⟨Nat.pow 2 (bits - 1), power + 1⟩ else ⟨rounded, power⟩
    if number.power ≤ greatestPower then some number else none

end Binary

end ModeSwitch.Decimal
