/-
# Shortest decimals

The fewest decimal digits that identify a double. A finite double stands for every real that
rounds to it; among the decimals in that interval the ones with the fewest digits are taken, and
of those the nearest to the double. All comparisons are exact, between naturals.
-/

namespace FlowGraph.Decimal

/-- The real `mantissa * 2 ^ exponent`; `closeBelow` marks the least mantissa of a binade, whose
neighbour below is half as far away as its neighbour above. -/
structure Dyadic where
  mantissa : Nat
  exponent : Int
  closeBelow : Bool

/-- The magnitude of a finite double, read off its bits. -/
def Dyadic.ofBits (bits : UInt64) : Dyadic :=
  let field := ((bits >>> 52) &&& 0x7FF).toNat
  let fraction := (bits &&& 0xFFFFFFFFFFFFF).toNat
  if field = 0 then ⟨fraction, -1074, false⟩
  else ⟨0x10000000000000 + fraction, (field : Int) - 1075, fraction == 0 && field > 1⟩

/-- The decimal `digits * 10 ^ exponent`. -/
structure Numeral where
  digits : Nat
  exponent : Int
  deriving DecidableEq, Repr

/-- A power with a possibly negative exponent, as the factors above and below a fraction bar. -/
def scale (base : Nat) (exponent : Int) : Nat × Nat :=
  (Nat.pow base exponent.toNat, Nat.pow base (-exponent).toNat)

/-- Compares `digits * 10 ^ power` with `units * 2 ^ exponent`. -/
def compareScaled (digits : Nat) (power : Int) (units : Nat) (exponent : Int) : Ordering :=
  let (tenUp, tenDown) := scale 10 power
  let (twoUp, twoDown) := scale 2 exponent
  compare (digits * tenUp * twoDown) (units * twoUp * tenDown)

/-- The decimal lies among the reals that round to `x`; the ends of that interval belong to it
when the mantissa is even. -/
def Dyadic.identifiedBy (x : Dyadic) (d : Numeral) : Bool :=
  let low := 4 * x.mantissa - (if x.closeBelow then 1 else 2)
  let high := 4 * x.mantissa + 2
  let closed := x.mantissa % 2 == 0
  let fromLow := compareScaled d.digits d.exponent low (x.exponent - 2)
  let fromHigh := compareScaled d.digits d.exponent high (x.exponent - 2)
  (fromLow == .gt || (closed && fromLow == .eq)) && (fromHigh == .lt || (closed && fromHigh == .eq))

/-- The greatest multiple of `10 ^ power` that is at most `x`, in units of that power. -/
def Dyadic.gridBelow (x : Dyadic) (power : Int) : Nat :=
  let (tenUp, tenDown) := scale 10 power
  let (twoUp, twoDown) := scale 2 x.exponent
  (x.mantissa * twoUp * tenDown) / (twoDown * tenUp)

/-- The least `k` with `x < 10 ^ k`: an estimate from the binary logarithm, then exact tests. -/
def Dyadic.decimalOrder (x : Dyadic) : Int :=
  let estimate := ((Nat.log2 x.mantissa : Int) + x.exponent) * 1233 / 4096 - 1
  let candidates := (List.range 5).map fun (step : Nat) => estimate + (step : Int)
  (candidates.find? fun k => compareScaled 1 k x.mantissa x.exponent == .gt).getD (estimate + 5)

/-- Of the two neighbours of `x` on the grid of `10 ^ power`, the one that identifies `x`; if both
do, the nearer, and on a tie the even one. -/
def Dyadic.onGrid? (x : Dyadic) (power : Int) : Option Numeral :=
  let below : Numeral := ⟨x.gridBelow power, power⟩
  let above : Numeral := ⟨below.digits + 1, power⟩
  match x.identifiedBy below, x.identifiedBy above with
  | true, false => some below
  | false, true => some above
  | false, false => none
  | true, true =>
    match compareScaled (2 * below.digits + 1) power (2 * x.mantissa) x.exponent with
    | .gt => some below
    | .lt => some above
    | .eq => some (if below.digits % 2 = 0 then below else above)

/-- Moves trailing zeros of the digits into the exponent, at most `budget` of them. -/
def Numeral.stripZeros : Nat → Numeral → Numeral
  | 0, d => d
  | budget + 1, d =>
    if d.digits ≠ 0 ∧ d.digits % 10 = 0 then
      stripZeros budget ⟨d.digits / 10, d.exponent + 1⟩
    else d

/-- The exact decimal value of a dyadic. -/
def Dyadic.exact (x : Dyadic) : Numeral :=
  let (twoUp, _) := scale 2 x.exponent
  let (_, fiveUp) := scale 5 x.exponent
  ⟨x.mantissa * twoUp * fiveUp, min x.exponent 0⟩

/-- The shortest decimal that identifies a positive dyadic. Seventeen digits suffice for every
double; the exact value stands in should none of them do. -/
def Dyadic.shortest (x : Dyadic) : Numeral :=
  let order := x.decimalOrder
  let found := (List.range 17).findSome? fun (extra : Nat) => x.onGrid? (order - 1 - (extra : Int))
  (found.getD x.exact).stripZeros 20

end FlowGraph.Decimal
