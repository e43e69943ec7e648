/-!
# The shortest decimal of a floating point number

A finite number is `m * 2 ^ q`. The reals that round to it form an interval around it, whose ends
belong to it when `m` is even. `shortest` takes the smallest count of digits for which one of the
number's two neighbours on the decimal grid of that many digits lies in the interval, and of two
such neighbours the nearer one.
-/

namespace PapyrusWriter

set_option autoImplicit false

/-- The number `digits * 10 ^ exponent`. -/
structure Decimal where
  digits : Nat
  exponent : Int
deriving DecidableEq

namespace Decimal

/-- A non-negative fraction. -/
structure Ratio where
  num : Nat
  den : Nat
deriving DecidableEq

namespace Ratio

/-- A power with an integer as its exponent. -/
def power (base : Nat) : Int → Ratio
  | .ofNat e => ⟨base.pow e, 1⟩
  | .negSucc e => ⟨1, base.pow (e + 1)⟩

def scale (n : Nat) (r : Ratio) : Ratio := ⟨n * r.num, r.den⟩

def le (a b : Ratio) : Bool := a.num * b.den ≤ b.num * a.den

def lt (a b : Ratio) : Bool := a.num * b.den < b.num * a.den

end Ratio

/-- A positive number `value * unit` with the bounds `low * unit` and `high * unit` of the reals
that round to it; the bounds themselves round to it when `closed`. -/
structure Rounding where
  unit : Ratio
  value : Nat
  low : Nat
  high : Nat
  closed : Bool

/-- The bit before the fraction of a number that is not close to zero, `2 ^ 52`. -/
def hiddenBit : Nat := 0x10000000000000

namespace Rounding

/-- The rounding interval of `m * 2 ^ q`. Below a power of two the grid is twice as fine. -/
def ofParts (m : Nat) (q : Int) : Rounding :=
  let finer : Bool := m == hiddenBit && -1074 < q
  { unit := Ratio.power 2 (q - 2), value := 4 * m, low := if finer then 4 * m - 1 else 4 * m - 2,
    high := 4 * m + 2, closed := m % 2 = 0 }

/-- Whether the real `r` rounds to the number. -/
def holds (x : Rounding) (r : Ratio) : Bool :=
  let low := x.unit.scale x.low
  let high := x.unit.scale x.high
  if x.closed then low.le r && r.le high else low.lt r && r.lt high

/-- The least `j` with `1 ≤ value * 10 ^ j`, searched from `j` upwards. -/
def leadingZeros (v : Ratio) : Nat → Nat → Nat
  | 0, j => j
  | fuel + 1, j => if v.den ≤ v.num * Nat.pow 10 j then j else leadingZeros v fuel (j + 1)

/-- The decimal exponent of the first digit. -/
def magnitude (x : Rounding) : Int :=
  let v := x.unit.scale x.value
  if v.den ≤ v.num then ((Nat.toDigits 10 (v.num / v.den)).length : Int) - 1
  else -(leadingZeros v 400 1 : Int)

/-- The neighbour of the number on the grid of `10 ^ k` that rounds to it, if there is one. -/
def onGrid (x : Rounding) (k : Int) : Option Decimal :=
  let v := x.unit.scale x.value
  let step := Ratio.power 10 k
  let down := v.num * step.den / (v.den * step.num)
  let lower := x.holds (step.scale down)
  let upper := x.holds (step.scale (down + 1))
  if lower && upper then
    let middle : Ratio := ⟨(2 * down + 1) * step.num, 2 * step.den⟩
    if v.lt middle || (!middle.lt v && down % 2 = 0) then some ⟨down, k⟩ else some ⟨down + 1, k⟩
  else if lower then some ⟨down, k⟩
  else if upper then some ⟨down + 1, k⟩
  else none

/-- The first hit on grids of `count` digits and more. -/
def search (x : Rounding) : Nat → Nat → Decimal
  | 0, _ => ⟨0, 0⟩
  | fuel + 1, count =>
      match x.onGrid (x.magnitude - count + 1) with
      | some d => d
      | none => search x fuel (count + 1)

end Rounding

/-- The decimal without zeros at its end, of which at most `count` are dropped. -/
def dropZeros : Nat → Decimal → Decimal
  | 0, d => d
  | count + 1, d =>
      if d.digits ≠ 0 ∧ d.digits % 10 = 0 then dropZeros count ⟨d.digits / 10, d.exponent + 1⟩ else d

/-- The shortest decimal that rounds to the absolute value of a finite number. A neighbour can be a
power of ten, which has zeros at its end. -/
def shortest (x : Float) : Decimal :=
  let bits := x.toBits.toNat
  let mantissa : Nat := bits % hiddenBit
  let exponent : Nat := bits / hiddenBit % 0x800
  if mantissa = 0 ∧ exponent = 0 then ⟨0, 0⟩
  else if exponent = 0 then dropZeros 17 ((Rounding.ofParts mantissa (-1074)).search 17 1)
  else
    dropZeros 17 ((Rounding.ofParts (hiddenBit + mantissa) ((exponent : Int) - 1075)).search 17 1)

/-- How an exponent is written. -/
structure ExponentStyle where
  /-- A positive exponent has a plus sign. -/
  plus : Bool

/-- A decimal as text: positional from `10 ^ -5` up to `10 ^ 16`, with a digit after the point, and
otherwise one digit before the point and an exponent. -/
def layout (style : ExponentStyle) (d : Decimal) : String :=
  let digits := Nat.toDigits 10 d.digits
  let point := (digits.length : Int) + d.exponent
  let zeros (n : Int) := List.replicate n.toNat '0'
  if d.digits = 0 then "0.0"
  else if 0 ≤ d.exponent ∧ point ≤ 16 then
    String.ofList (digits ++ zeros d.exponent ++ ['.', '0'])
  else if 0 < point ∧ point ≤ 16 then
    String.ofList (digits.take point.toNat ++ ['.'] ++ digits.drop point.toNat)
  else if -5 < point ∧ point ≤ 0 then
    String.ofList (['0', '.'] ++ zeros (-point) ++ digits)
  else
    let fraction := if digits.length = 1 then [] else '.' :: digits.drop 1
    let power := point - 1
    let sign := if power < 0 then "-" else if style.plus then "+" else ""
    String.ofList (digits.take 1 ++ fraction) ++ "e" ++ sign ++ toString power.natAbs

/-- A decimal as text without exponent, with a digit after the point. -/
def positional (d : Decimal) : String :=
  let digits := Nat.toDigits 10 d.digits
  let point := (digits.length : Int) + d.exponent
  let zeros (n : Int) := List.replicate n.toNat '0'
  if 0 ≤ d.exponent then String.ofList (digits ++ zeros d.exponent ++ ['.', '0'])
  else if 0 < point then
    String.ofList (digits.take point.toNat ++ ['.'] ++ digits.drop point.toNat)
  else String.ofList (['0', '.'] ++ zeros (-point) ++ digits)

/-- The sign of a number that is negative or negative zero. -/
def signText (x : Float) : String := if x.toBits.toNat < 0x8000000000000000 then "" else "-"

/-- The shortest text of a finite number. -/
def text (style : ExponentStyle) (x : Float) : String :=
  signText x ++ layout style (shortest x)

end Decimal

end PapyrusWriter
