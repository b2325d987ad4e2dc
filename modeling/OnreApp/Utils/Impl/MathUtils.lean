import OnreApp.Basic

namespace OnreApp

open Checked

def ceilDivU128 (numerator denominator : Nat) : Option Nat :=
  if denominator = 0 then
    none
  else do
    let adjustment ← checkedSub denominator 1
    let adjusted ← checkedAdd u128Max numerator adjustment
    checkedDiv adjusted denominator

def mulDivRoundU128 (a b denom : Nat) : Option Nat := do
  let prod ← checkedMul u128Max a b
  let adj ← checkedAdd u128Max prod (denom / 2)
  checkedDiv adj denom

/--
Fixed-point exponentiation by squaring with half-up rounding at each multiply. The loop runs once
per binary digit of the exponent, which is what the fuel of `go` counts.
-/
def powFixed (base exp scale : Nat) : Option Nat :=
  go (exp.log2 + 1) scale base exp
where
  go (fuel acc base exp : Nat) : Option Nat :=
    match fuel with
    | 0 => some acc
    | fuel + 1 =>
      if exp = 0 then
        some acc
      else do
        let acc ← if exp % 2 = 1 then mulDivRoundU128 acc base scale else some acc
        let exp := exp / 2
        let base ← if 0 < exp then mulDivRoundU128 base base scale else some base
        go fuel acc base exp

end OnreApp
