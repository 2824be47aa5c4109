/-
# Number texts

How numbers are written. Integers are plain digits. A double is written with the fewest digits
that identify it: positionally when its leading digit stands for `10 ^ -4` to `10 ^ 15`, always
with a point, and otherwise with a signed exponent of at least two digits.
-/

import FlowGraph.Decimal.Shortest

namespace FlowGraph.Decimal

/-- The text of an integer. -/
def intText (n : Int) : String :=
  match n with
  | .ofNat m => String.ofList (Nat.toDigits 10 m)
  | .negSucc m => String.ofList ('-' :: Nat.toDigits 10 (m + 1))

/-- The exponent part of scientific notation. -/
def exponentText (exponent : Int) : List Char :=
  let digits := Nat.toDigits 10 exponent.natAbs
  'e' :: (if exponent < 0 then '-' else '+') :: List.replicate (2 - digits.length) '0' ++ digits

/-- Lays out a positive decimal. -/
def Numeral.layout (d : Numeral) : List Char :=
  let digits := Nat.toDigits 10 d.digits
  let point : Int := (digits.length : Int) + d.exponent
  if -4 < point ∧ point ≤ 16 then
    if point ≤ 0 then '0' :: '.' :: List.replicate (-point).toNat '0' ++ digits
    else
      let whole := point.toNat
      if digits.length ≤ whole then
        digits ++ List.replicate (whole - digits.length) '0' ++ ['.', '0']
      else digits.take whole ++ '.' :: digits.drop whole
  else
    match digits with
    | [] => []
    | [lead] => lead :: exponentText (point - 1)
    | lead :: rest => lead :: '.' :: rest ++ exponentText (point - 1)

/-- The text of a double. -/
def floatText (x : Float) : String :=
  if x.isNaN then "nan"
  else
    let sign := if x.toBits >>> 63 = 1 then ['-'] else []
    let magnitude :=
      if x.isInf then ['i', 'n', 'f']
      else
        let dyadic := Dyadic.ofBits x.toBits
        if dyadic.mantissa = 0 then ['0', '.', '0'] else dyadic.shortest.layout
    String.ofList (sign ++ magnitude)

end FlowGraph.Decimal
