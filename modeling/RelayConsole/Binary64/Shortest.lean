import RelayConsole.Binary64.Basic
import RelayConsole.Text.Digits

namespace RelayConsole

/-- The numbers that round to a count of units, in quarters of a unit. The ends belong to them if the count
is an even number of steps. -/
structure Binary64.Interval where
  low : Nat
  high : Nat
  closed : Bool

/-- Below a power of two the neighbours are half as far apart. -/
def Binary64.interval (units : Nat) : Binary64.Interval :=
  let step := step units
  let below := if 1 < step ∧ units = Nat.pow 2 units.log2 then step else 2 * step
  ⟨4 * units - below, 4 * units + 2 * step, units / step % 2 = 0⟩

/-- Whether `count` spans of the size `span / scale` quarters end in the interval. -/
def Binary64.Interval.holds (interval : Binary64.Interval) (scale span count : Nat) : Bool :=
  let point := count * span
  if interval.closed then interval.low * scale ≤ point ∧ point ≤ interval.high * scale
  else interval.low * scale < point ∧ point < interval.high * scale

/-- The multiple of a power of ten that is nearest to a count of units, if one rounds to that. A tie goes
up. -/
def Binary64.onGrid? (units : Nat) (exponent : Int) : Option Nat :=
  let scale := if 0 ≤ exponent then 1 else Nat.pow 10 (-exponent).toNat
  let span := 4 * oneUnits * (if 0 ≤ exponent then Nat.pow 10 exponent.toNat else 1)
  let point := 4 * units * scale
  let below := point / span
  let interval := interval units
  let fits := fun count => 0 < count && interval.holds scale span count
  if fits below && (!fits (below + 1) || 2 * (point % span) < span) then some below
  else if fits (below + 1) then some (below + 1)
  else none

/-- The fewest digits that read back as a count of units, as a whole number and the exponent of its last
digit: the coarsest grid with a point that rounds to the count. -/
def Binary64.shortest (units : Nat) : Nat × Int :=
  ((List.range 640).findSome? fun (place : Nat) =>
    let exponent := 309 - (place : Int)
    (onGrid? units exponent).map (·, exponent)).getD (0, 0)

/-- Digits with a point at their place and no exponent. -/
def Binary64.positional (digits : Nat) (exponent : Int) : List Char :=
  let text := Digits.text 10 digits
  if 0 ≤ exponent then text ++ List.replicate exponent.toNat '0'
  else
    let places := (-exponent).toNat
    let padded := text.leftpad (places + 1) '0'
    padded.take (padded.length - places) ++ '.' :: padded.drop (padded.length - places)

/-- A number by its fewest digits, never with an exponent; a whole number has no point. -/
def Binary64.text : Binary64 → String
  | .nan => "NaN"
  | .infinite negative => if negative then "-inf" else "inf"
  | .finite negative units =>
    let number := if units = 0 then ['0'] else positional (shortest units).1 (shortest units).2
    String.ofList (if negative then '-' :: number else number)

/-- As `Binary64.text`, but a whole number has a point and a zero after it. -/
def Binary64.pointedText (number : Binary64) : String :=
  match number with
  | .finite _ _ => if number.text.contains '.' then number.text else number.text ++ ".0"
  | _ => number.text

end RelayConsole
