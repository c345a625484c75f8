/-
RouteConvergence.Text.Decimal — whole numbers as decimal digits.
-/
import RouteConvergence.Text.Letter

namespace RouteConvergence.Text

/-- The digits of a natural number, without leading zeros. -/
def natText (n : Nat) : String := String.ofList (Nat.toDigits 10 n)

/-- A natural number padded with zeros to at least a number of digits. -/
def natPadded (width n : Nat) : String :=
  let digits := Nat.toDigits 10 n
  String.ofList (List.replicate (width - digits.length) '0' ++ digits)

/-- An integer: a minus sign for negative ones, then the digits. -/
def intText : Int → String
  | .ofNat n => natText n
  | .negSucc n => "-" ++ natText (n + 1)

/-- The value of a run of digits, read left to right. -/
def digitsValue (cs : List Char) : Nat :=
  cs.foldl (fun n c => 10 * n + (c.toNat - '0'.toNat)) 0

/-- The number written by one or more digits; leading zeros are allowed. -/
def readNat? (cs : List Char) : Option Nat :=
  if !cs.isEmpty && cs.all isDigit then some (digitsValue cs) else none

/-- The number written by one or more digits after an optional plus sign. -/
def readSignedNat? : List Char → Option Nat
  | '+' :: cs => readNat? cs
  | cs => readNat? cs

/-- The integer written by one or more digits after an optional sign. -/
def readInt? : List Char → Option Int
  | '-' :: cs => (readNat? cs).map fun n => -(n : Int)
  | '+' :: cs => (readNat? cs).map Int.ofNat
  | cs => (readNat? cs).map Int.ofNat

/-- The largest number of seconds a field can hold: 32 bits. -/
def maxSeconds : Nat := 4294967295

end RouteConvergence.Text
