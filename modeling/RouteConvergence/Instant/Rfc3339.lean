/-
RouteConvergence.Instant.Rfc3339 — moments as text.

Moments are written `YYYY-MM-DDThh:mm:ssZ`, with a fraction of three, six
or nine digits if there is one: the fewest that are exact. A year outside
0000 to 9999 carries a sign.

Reading is more lenient: a blank or a small `t` may stand for the `T`,
blanks may stand before numbers and signs, fields may be shorter, and any
offset of less than a day is brought to universal time. A second numbered
60 is the leap second of its minute.
-/
import RouteConvergence.Instant
import RouteConvergence.Text.Blank
import RouteConvergence.Text.Decimal

namespace RouteConvergence.Instant

/-! ## Writing -/

/-- A year: four digits, or a sign and at least four digits. -/
def yearText (year : Int) : String :=
  if 0 ≤ year ∧ year ≤ 9999 then Text.natPadded 4 year.toNat
  else (if year < 0 then "-" else "+") ++ Text.natPadded 4 year.natAbs

/-- A fraction of a second in the fewest groups of three digits. -/
def fractionText (nano : Nat) : String :=
  if nano = 0 then ""
  else if nano % 1000000 = 0 then "." ++ Text.natPadded 3 (nano / 1000000)
  else if nano % 1000 = 0 then "." ++ Text.natPadded 6 (nano / 1000)
  else "." ++ Text.natPadded 9 nano

/-- The number of nanoseconds in a second. -/
def second1 : Nat := 1000000000

/-- The written form of a moment. -/
def text (t : Instant) : String :=
  let leap := second1 ≤ t.nano
  let nano := if leap then t.nano - second1 else t.nano
  let second := t.second % 60 + if leap then 1 else 0
  yearText t.date.year ++ "-" ++ Text.natPadded 2 t.date.month ++ "-"
    ++ Text.natPadded 2 t.date.day ++ "T" ++ Text.natPadded 2 (t.second / 3600) ++ ":"
    ++ Text.natPadded 2 (t.second / 60 % 60) ++ ":" ++ Text.natPadded 2 second
    ++ fractionText nano ++ "Z"

/-! ## Reading -/

/-- One to `most` digits, and what follows. -/
def readNumber (most : Nat) (cs : List Char) : Option (Nat × List Char) :=
  let digits := (cs.take most).takeWhile Text.isDigit
  if digits.isEmpty then none
  else some (Text.digitsValue digits, cs.drop digits.length)

/-- All digits in front, at least one, and what follows. -/
def readLongNumber (cs : List Char) : Option (Nat × List Char) := readNumber cs.length cs

/-- A year with blanks in front: with a sign any number of digits, without
one at most four. -/
def readYear (cs : List Char) : Option (Int × List Char) :=
  match Text.trimLeft cs with
  | '-' :: rest => (readLongNumber rest).map fun p => (-(p.1 : Int), p.2)
  | '+' :: rest => (readLongNumber rest).map fun p => ((p.1 : Int), p.2)
  | cs => (readNumber 4 cs).map fun p => ((p.1 : Int), p.2)

/-- A number of at most two digits with blanks in front. -/
def readField (cs : List Char) : Option (Nat × List Char) := readNumber 2 (Text.trimLeft cs)

/-- What follows a character, which may have blanks in front. -/
def readMark (mark : Char) (cs : List Char) : Option (List Char) :=
  match Text.trimLeft cs with
  | c :: rest => if c = mark then some rest else none
  | [] => none

/-- Nanoseconds after a point; digits beyond the ninth do not count. -/
def readFraction : List Char → Option (Nat × List Char)
  | '.' :: cs => do
    let digits := (cs.take 9).takeWhile Text.isDigit
    if digits.isEmpty then none
    else
      some (Text.digitsValue digits * Nat.pow 10 (9 - digits.length),
        (cs.drop digits.length).dropWhile Text.isDigit)
  | cs => some (0, cs)

/-- Whether a character may stand between the hours and minutes of an
offset. -/
def isOffsetGap (c : Char) : Bool := c == ':' || Text.isBlank c

/-- The hours and minutes of an offset, in seconds. -/
def readOffsetAmount : List Char → Option (Int × List Char)
  | h1 :: h2 :: rest =>
    match rest.dropWhile isOffsetGap with
    | m1 :: m2 :: rest =>
      if [h1, h2, m2].all Text.isDigit && '0' ≤ m1 && m1 ≤ '5' then
        some (((Text.digitsValue [h1, h2] * 3600 + Text.digitsValue [m1, m2] * 60 : Nat) : Int),
          rest)
      else none
    | _ => none
  | _ => none

/-- An offset in seconds: `Z`, `UTC`, or a sign with hours and minutes. -/
def readOffset (cs : List Char) : Option (Int × List Char) :=
  if (cs.take 3).map Char.toLower = ['u', 't', 'c'] then some (0, cs.drop 3)
  else
    match cs with
    | 'Z' :: rest | 'z' :: rest => some (0, rest)
    | '+' :: rest => readOffsetAmount rest
    | '-' :: rest | '\u2212' :: rest => (readOffsetAmount rest).map fun p => (-p.1, p.2)
    | _ => none

/-- The moment that a clock shows which is ahead of universal time by some
seconds, less than a day. -/
def ofLocal (date : Date) (second nano : Nat) (offset : Int) : Instant :=
  let shifted := (second : Int) - offset
  if shifted < 0 then ⟨date.previous, (shifted + 86400).toNat, nano⟩
  else if 86400 ≤ shifted then ⟨date.next, (shifted - 86400).toNat, nano⟩
  else ⟨date, shifted.toNat, nano⟩

/-- The date in front of a text, and what follows. -/
def readDate (cs : List Char) : Option (Date × List Char) := do
  let (year, cs) ← readYear cs
  let cs ← readMark '-' cs
  let (month, cs) ← readField cs
  let cs ← readMark '-' cs
  let (day, cs) ← readField cs
  return (⟨year, month, day⟩, cs)

/-- The time of day in front of a text as a second and nanoseconds, and
what follows. -/
def readTime (cs : List Char) : Option ((Nat × Nat) × List Char) := do
  let (hour, cs) ← readField cs
  let cs ← readMark ':' cs
  let (minute, cs) ← readField cs
  let cs ← readMark ':' cs
  let (second, cs) ← readField cs
  let (nano, cs) ← readFraction cs
  if hour ≤ 23 ∧ minute ≤ 59 ∧ second ≤ 60 then
    let leap := second = 60
    return ((hour * 3600 + minute * 60 + (if leap then 59 else second),
      nano + if leap then second1 else 0), cs)
  else none

/-- What follows the character between date and time. -/
def readSeparator : List Char → Option (List Char)
  | 't' :: rest | 'T' :: rest | ' ' :: rest => some rest
  | _ => none

/-- The moment a text is a form of. -/
def ofText? (s : String) : Option Instant := do
  let (date, cs) ← readDate s.toList
  let cs ← readSeparator cs
  let ((second, nano), cs) ← readTime cs
  let (offset, cs) ← readOffset (Text.trimLeft cs)
  let t := ofLocal date second nano offset
  if date.isValid ∧ offset.natAbs < 86400 ∧ t.date.isValid ∧ (Text.trimLeft cs).isEmpty then
    some t
  else none

end RouteConvergence.Instant
