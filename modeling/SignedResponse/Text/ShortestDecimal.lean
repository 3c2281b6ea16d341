import SignedResponse.Text.Decimal

/-!
Binary fractions of double precision in decimal, with as few digits as read back to the same
number.

The numbers that round to `m * 2 ^ q` lie between the midpoints to its two neighbours, and a
midpoint belongs to them when `m` is even. The coarsest decimal grid with a point among them gives
the digits; of two such points the nearer one is taken, and of two that are equally near the even
one.
-/

namespace SignedResponse.ShortestDecimal

structure Binary where
  mantissa : Nat
  exponent : Int
deriving DecidableEq

def hiddenBit : Nat := 4503599627370496

def Binary.ofFloat (number : Float) : Binary :=
  let bits : Nat := number.toBits.toNat
  let biased : Nat := bits / hiddenBit % 2048
  let fraction : Nat := bits % hiddenBit
  if biased = 0 then ⟨fraction, -1074⟩ else ⟨hiddenBit + fraction, (biased : Int) - 1075⟩

structure Form where
  digits : Nat
  exponent : Int
deriving DecidableEq

/-- How `number * 2 ^ (exponent - 2)` compares with points of the grid of step `10 ^ step`: the
numerator and the denominator of their quotient. -/
def onGrid (number : Nat) (exponent step : Int) : Nat × Nat :=
  (number * Nat.pow 2 (exponent - 2).toNat * Nat.pow 10 (-step).toNat,
    Nat.pow 2 (2 - exponent).toNat * Nat.pow 10 step.toNat)

def neighbours (value unit : Nat) : List Nat :=
  let floor := value / unit
  let beyond := 2 * (value % unit)
  if beyond < unit ∨ (beyond = unit ∧ floor % 2 = 0) then [floor, floor + 1] else [floor + 1, floor]

/-- The point of a grid that rounds to the number and is nearest to it, if one rounds to it. -/
def pointOf? (binary : Binary) (step : Int) : Option Nat :=
  let below := if binary.mantissa = hiddenBit ∧ -1074 < binary.exponent then 1 else 2
  let (value, unit) := onGrid (4 * binary.mantissa) binary.exponent step
  let (low, _) := onGrid (4 * binary.mantissa - below) binary.exponent step
  let (high, _) := onGrid (4 * binary.mantissa + 2) binary.exponent step
  let inside (point : Nat) : Bool :=
    if binary.mantissa % 2 = 0 then low ≤ point * unit && point * unit ≤ high
    else low < point * unit && point * unit < high
  (neighbours value unit).find? inside

example : pointOf? ⟨4503599627370499, -2⟩ (-1) = some 11258999068426248 := by decide

example : pointOf? ⟨4503599627370501, -2⟩ (-1) = some 11258999068426252 := by decide

def ofBinary (binary : Binary) : Form :=
  ((List.range 660).findSome? fun (index : Nat) =>
    let step : Int := 310 - (index : Nat)
    (pointOf? binary step).map fun digits => ⟨digits, step⟩).getD ⟨0, 0⟩

end SignedResponse.ShortestDecimal
