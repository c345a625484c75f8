/-
RouteConvergence.Decimal.Stepwise — decimals computed in steps that are
each rounded.

The digits of a decimal are gathered into a natural number of 64 bits. It
is rounded to a binary number, which is then multiplied or divided by a
power of ten that is rounded itself. The outcome is near the decimal, but
unlike `Binary64.nearest` not always the nearest number.

* `gather` — digits as a number of 64 bits, as far as they fit.
* `scale?` — a number times a power of ten.
* `stepwise?` — a decimal in its parts.
-/
import RouteConvergence.Decimal.Binary64

namespace RouteConvergence.Decimal

namespace Binary64

/-! ## Powers of ten -/

/-- The greatest exponent of a power of ten that is a number. -/
def greatestPower : Nat := 308

/-- A number times the number nearest to a power of ten. -/
def timesPower (k : Nat) : Binary64 → Binary64
  | finite negative m q =>
    match nearest false 1 k with
    | finite _ n r =>
      let (num, den) := quotient 1 (q + r)
      ofQuotient negative (m * n * num) den
    | x => x
  | x => x

/-- A number divided by the number nearest to a power of ten. -/
def overPower (k : Nat) : Binary64 → Binary64
  | finite negative m q =>
    match nearest false 1 k with
    | finite _ n r =>
      let (num, den) := quotient 1 (q - r)
      ofQuotient negative (m * num) (n * den)
    | x => x
  | x => x

/-- A number times a power of ten, if it does not grow beyond all numbers.
A small power is reached in several steps. -/
def scale? (x : Binary64) (k : Int) : Option Binary64 :=
  if 0 ≤ k ∧ k ≤ greatestPower then
    match x.timesPower k.toNat with
    | infinite _ => none
    | y => some y
  else if x.isZero then some x
  else if 0 ≤ k then none
  else if -k ≤ greatestPower then some (x.overPower (-k).toNat)
  else scale? (x.overPower greatestPower) (k + greatestPower)
termination_by (-k).toNat
decreasing_by simp only [greatestPower] at *; omega

end Binary64

/-! ## Digits -/

/-- Further digits behind a number, as far as the outcome has 64 bits, and
the digits left over. -/
def gather (n : Nat) : List Char → Nat × List Char
  | [] => (n, [])
  | c :: cs =>
    let next := 10 * n + (c.toNat - '0'.toNat)
    if next < Nat.pow 2 64 then gather next cs else (n, c :: cs)

/-- The greatest exponent that is taken at its word. -/
def greatestWrittenExponent : Nat := Nat.pow 2 31 - 1

/-- The number for digits before and behind the point and an exponent. Of
the digits that do not fit, those before the point still count as places,
and those behind it do not. -/
def stepwise? (whole fraction : List Char) (exponent : Int) : Option Binary64 :=
  let (digits, beyond) := gather 0 whole
  let (digits, ignored) := gather digits fraction
  let places : Int := beyond.length - (fraction.length - ignored.length)
  if exponent.natAbs ≤ greatestWrittenExponent then
    (Binary64.nearest false digits 0).scale? (places + exponent)
  else if digits = 0 ∨ exponent < 0 then some (.finite false 0 0)
  else none

/-- A number with its sign turned around. -/
def Binary64.negated : Binary64 → Binary64
  | finite negative m q => finite (!negative) m q
  | infinite negative => infinite (!negative)
  | nan => nan

end RouteConvergence.Decimal
