/-
RouteConvergence.Decimal.Binary64 — binary floating-point numbers of 64
bits, exactly.

A finite number is m · 2^q with m below 2^53 and q at least −1074; zero
has a sign. `Binary64.nearest` rounds a decimal to the nearest number,
and halfway to the one with even m. `Binary64.text` writes the fewest
digits that read back as the same number, without an exponent.
-/
import RouteConvergence.Text.Decimal

namespace RouteConvergence.Decimal

/-- A binary floating-point number of 64 bits. -/
inductive Binary64
  | nan
  | infinite (negative : Bool)
  /-- The number m · 2^q. -/
  | finite (negative : Bool) (m : Nat) (q : Int)
deriving DecidableEq, Inhabited, Repr

namespace Binary64

/-! ## Rounding -/

/-- Two to the number of bits of m. -/
def mantissaLimit : Nat := Nat.pow 2 53

/-- The smallest exponent. -/
def leastExponent : Int := -1074

/-- The greatest exponent. -/
def greatestExponent : Int := 971

/-- The natural number nearest to a quotient, and the even one if two are
equally near. -/
def roundDiv (num den : Nat) : Nat :=
  let whole := num / den
  let twice := 2 * (num % den)
  if den < twice ∨ (twice = den ∧ whole % 2 = 1) then whole + 1 else whole

/-- A quotient divided by a power of two and rounded. -/
def scaled (num den : Nat) (q : Int) : Nat :=
  if 0 ≤ q then roundDiv num (den * Nat.pow 2 q.toNat)
  else roundDiv (num * Nat.pow 2 (-q).toNat) den

/-- The exponent at which a positive quotient has 53 bits, as far as
exponents go. -/
def exponentFor (num den : Nat) : Int :=
  let estimate : Int := (Nat.log2 num : Int) - (Nat.log2 den : Int) - 52
  let q := max estimate leastExponent
  if mantissaLimit ≤ scaled num den q then q + 1
  else if q = leastExponent then q
  else if scaled num den (q - 1) < mantissaLimit then q - 1 else q

/-- The number nearest to a quotient. -/
def ofQuotient (negative : Bool) (num den : Nat) : Binary64 :=
  if num = 0 then finite negative 0 0
  else
    let q := exponentFor num den
    let m := scaled num den q
    let (m, q) := if m = mantissaLimit then (m / 2, q + 1) else (m, q)
    if greatestExponent < q then infinite negative
    else if m = 0 then finite negative 0 0
    else finite negative m q

/-- The number nearest to digits · 10^k. -/
def nearest (negative : Bool) (digits : Nat) (k : Int) : Binary64 :=
  if digits = 0 then finite negative 0 0
  else
    let places : Int := (Nat.toDigits 10 digits).length + k
    if 310 < places then infinite negative
    else if places < -330 then finite negative 0 0
    else if 0 ≤ k then ofQuotient negative (digits * Nat.pow 10 k.toNat) 1
    else ofQuotient negative digits (Nat.pow 10 (-k).toNat)

/-! ## Reading -/

/-- The exponent behind a mantissa, if it is well written or missing. -/
def readExponent : List Char → Option Int
  | [] => some 0
  | c :: cs => if c = 'e' ∨ c = 'E' then Text.readInt? cs else none

/-- Reads a decimal without a sign: digits with at most one point among
them, at least one digit, and an exponent if there is one. -/
def readDecimal (negative : Bool) (cs : List Char) : Option Binary64 := do
  let (whole, rest) := cs.span Text.isDigit
  let (fraction, rest) := match rest with
    | '.' :: rest => rest.span Text.isDigit
    | rest => ([], rest)
  if whole.isEmpty && fraction.isEmpty then none
  else
    let exponent ← readExponent rest
    some (nearest negative (Text.digitsValue (whole ++ fraction)) (exponent - fraction.length))

/-- Reads a number without its sign. -/
def readUnsigned (negative : Bool) (cs : List Char) : Option Binary64 :=
  let word := String.ofList (cs.map Char.toLower)
  if word = "inf" ∨ word = "infinity" then some (infinite negative)
  else if word = "nan" then some nan
  else readDecimal negative cs

/-- Reads a number. -/
def ofText? (s : String) : Option Binary64 :=
  match s.toList with
  | '-' :: cs => readUnsigned true cs
  | '+' :: cs => readUnsigned false cs
  | cs => readUnsigned false cs

/-- Whether a number is zero of either sign. -/
def isZero : Binary64 → Bool
  | finite _ 0 _ => true
  | _ => false

/-! ## Writing -/

/-- A positive number as a quotient. -/
def quotient (m : Nat) (q : Int) : Nat × Nat :=
  if 0 ≤ q then (m * Nat.pow 2 q.toNat, 1) else (m, Nat.pow 2 (-q).toNat)

/-- The least number of places before the point, at least as many as a
quotient has when counted with a negative number for leading zeros behind
the point. -/
def placesOf (num den : Nat) : Int :=
  let digits (n : Nat) : Int := (Nat.toDigits 10 n).length
  if den ≤ num then digits (num / den)
  else
    let lead := digits (den / num)
    if num * Nat.pow 10 lead.toNat < den then -lead else 1 - lead

/-- A quotient divided by a power of ten, rounded down, and whether
something was left over. -/
def downTo (num den : Nat) (k : Int) : Nat × Nat × Nat :=
  let (num, den) :=
    if 0 ≤ k then (num, den * Nat.pow 10 k.toNat) else (num * Nat.pow 10 (-k).toNat, den)
  (num / den, num % den, den)

/-- The nearest decimal of the form digits · 10^k that reads back as a
number, if there is one next to it. -/
def decimalAt? (m : Nat) (q : Int) (k : Int) : Option Nat :=
  let (num, den) := quotient m q
  let (low, left, den) := downTo num den k
  let readsBack (digits : Nat) : Bool := nearest false digits k == finite false m q
  let near := if den < 2 * left ∨ (2 * left = den ∧ low % 2 = 1) then [low + 1, low]
    else [low, low + 1]
  near.find? readsBack

/-- The fewest digits that read back as a number, and their power of ten,
trying from a number of digits on. -/
def shortestFrom (m : Nat) (q places : Int) (tried : Nat) : Nat → Nat × Int
  | 0 => (m, 0)
  | n + 1 =>
    let k := places - (tried + 1)
    match decimalAt? m q k with
    | some digits => (digits, k)
    | none => shortestFrom m q places (tried + 1) n

/-- Digits · 10^k without an exponent. -/
def positional (digits : Nat) (k : Int) : String :=
  let cs := Nat.toDigits 10 digits
  if 0 ≤ k then String.ofList (cs ++ List.replicate k.toNat '0')
  else
    let places := (-k).toNat
    let padded := List.replicate (places + 1 - cs.length) '0' ++ cs
    let fraction := (padded.drop (padded.length - places)).reverse.dropWhile (· == '0')
    let whole := padded.take (padded.length - places)
    if fraction.isEmpty then String.ofList whole
    else String.ofList (whole ++ ['.'] ++ fraction.reverse)

/-- The written form of a number. -/
def text : Binary64 → String
  | nan => "NaN"
  | infinite negative => if negative then "-inf" else "inf"
  | finite negative m q =>
    let sign := if negative then "-" else ""
    if m = 0 then sign ++ "0"
    else
      let (num, den) := quotient m q
      let (digits, k) := shortestFrom m q (placesOf num den) 0 17
      sign ++ positional digits k

end Binary64

end RouteConvergence.Decimal
