namespace RelayConsole

/-- A binary floating-point number of 64 bits. A finite one is a sign and a count of units of 2^-1074, of
which every such number has a whole number. -/
inductive Binary64 where
  | nan
  | infinite (negative : Bool)
  | finite (negative : Bool) (units : Nat)
  deriving DecidableEq, Repr

/-- How many units the number one has. -/
def Binary64.oneUnits : Nat :=
  Nat.pow 2 1074

/-- The first count of units that is out of range. -/
def Binary64.limit : Nat :=
  Nat.pow 2 2098

/-- The distance between neighbours at a count of units: 53 binary digits are kept. -/
def Binary64.step (units : Nat) : Nat :=
  Nat.pow 2 (units.log2 - 52)

/-- The whole number nearest to a quotient, a half going to the even neighbour. -/
def Binary64.nearest (numerator denominator : Nat) : Nat :=
  let below := numerator / denominator
  let rest := numerator % denominator
  if denominator < 2 * rest ∨ (2 * rest = denominator ∧ below % 2 = 1) then below + 1 else below

/-- The number nearest to a quotient. -/
def Binary64.ofQuotient (negative : Bool) (numerator denominator : Nat) : Binary64 :=
  let scaled := numerator * oneUnits
  let step := step (scaled / denominator)
  let units := nearest scaled (denominator * step) * step
  if limit ≤ units then .infinite negative else .finite negative units

/-- The number nearest to digits times a power of ten. Powers far out of range are not worked out. -/
def Binary64.ofDecimal (negative : Bool) (digits : Nat) (exponent : Int) : Binary64 :=
  if digits = 0 then .finite negative 0
  else if 400 < exponent then .infinite negative
  else if exponent < -(400 + digits.log2 : Int) then .finite negative 0
  else if 0 ≤ exponent then ofQuotient negative (digits * Nat.pow 10 exponent.toNat) 1
  else ofQuotient negative digits (Nat.pow 10 (-exponent).toNat)

/-- The product with a power of ten that is itself rounded first. -/
def Binary64.scaleUp (number : Binary64) (power : Nat) : Binary64 :=
  match number, ofDecimal false 1 power with
  | .finite negative units, .finite _ factor => ofQuotient negative (units * factor) (oneUnits * oneUnits)
  | .finite negative 0, _ => .finite negative 0
  | .finite negative _, _ => .infinite negative
  | number, _ => number

/-- The quotient by a power of ten that is itself rounded first. -/
def Binary64.scaleDown (number : Binary64) (power : Nat) : Binary64 :=
  match number, ofDecimal false 1 power with
  | .finite negative units, .finite _ factor => ofQuotient negative units factor
  | .finite negative _, _ => .finite negative 0
  | number, _ => number

end RelayConsole
