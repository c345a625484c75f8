/-
RouteConvergence.Toml.Scalar — the words of TOML documents.

* `readKeys` — a dotted key: bare words or quoted texts with dots between.
* `readQuoted?` — the four kinds of text.
* `word?` — what stands without quotation marks: truth values, numbers,
  and dates, which are kept as texts in one written form.

Numbers come out in the spelling that every format shares: without
underscores, and whole ones in base ten.
-/
import RouteConvergence.Data.Tree
import RouteConvergence.Instant
import RouteConvergence.Json.Reader
import RouteConvergence.Text.Pieces

namespace RouteConvergence.Toml

open Data (Tree)

/-! ## Blanks -/

/-- A blank within a line. -/
def isGap (c : Char) : Bool := c == ' ' || c == '\t'

/-- Characters without blanks in front. -/
def skipGap (cs : List Char) : List Char := cs.dropWhile isGap

/-- A character a comment or a text may hold. -/
def isTextChar (c : Char) : Bool := c == '\t' || (' ' ≤ c && c != '\x7f')

/-- A line break, if one is in front, and what follows. -/
def readBreak? : List Char → Option (List Char × List Char)
  | '\n' :: rest => some (['\n'], rest)
  | '\r' :: '\n' :: rest => some (['\r', '\n'], rest)
  | _ => none

/-- What follows a line break, if one is in front. -/
def dropBreak? (cs : List Char) : Option (List Char) := (readBreak? cs).map (·.2)

/-- Characters without the blanks and line breaks in front. -/
def skipSpace : List Char → List Char
  | [] => []
  | '\r' :: '\n' :: rest => skipSpace rest
  | c :: rest => if isGap c || c == '\n' then skipSpace rest else c :: rest

/-! ## Texts -/

/-- The character of a number in so many hexadecimal digits, and what
follows. -/
def readHex (digits : Nat) (cs : List Char) : Option (Char × List Char) := do
  let n ← (cs.take digits).foldlM (fun n c => (Json.hexValue c).map (16 * n + ·)) 0
  if cs.length < digits ∨ (0xD800 ≤ n ∧ n ≤ 0xDFFF) ∨ 0x10FFFF < n then none
  else some (Char.ofNat n, cs.drop digits)

/-- The character that an escape stands for, from behind its backslash on,
and what follows. -/
def readEscape : List Char → Option (Char × List Char)
  | 'b' :: rest => some ('\x08', rest)
  | 't' :: rest => some ('\t', rest)
  | 'n' :: rest => some ('\n', rest)
  | 'f' :: rest => some ('\x0c', rest)
  | 'r' :: rest => some ('\r', rest)
  | 'e' :: rest => some ('\x1b', rest)
  | '"' :: rest => some ('"', rest)
  | '\\' :: rest => some ('\\', rest)
  | 'x' :: rest => readHex 2 rest
  | 'u' :: rest => readHex 4 rest
  | 'U' :: rest => readHex 8 rest
  | _ => none

/-- Puts characters in front of a text that was read. -/
def withChars (cs : List Char) (r : List Char × List Char) : List Char × List Char :=
  (cs ++ r.1, r.2)

/-- The text on one line up to its mark. Escapes count if `escapes` says
so. The number bounds the steps. -/
def readLine (mark : Char) (escapes : Bool) : Nat → List Char → Option (List Char × List Char)
  | 0, _ => none
  | _ + 1, [] => none
  | n + 1, c :: rest =>
    if c = mark then some ([], rest)
    else if c = '\\' ∧ escapes then do
      let (d, rest) ← readEscape rest
      return withChars [d] (← readLine mark escapes n rest)
    else if isTextChar c then (readLine mark escapes n rest).map (withChars [c])
    else none

/-- The text over several lines up to three marks; up to two more may stand
before them. A break is kept as it is written, and a backslash at the end of
a line swallows blanks and breaks. The number bounds the steps. -/
def readLines (mark : Char) (escapes : Bool) :
    Nat → List Char → Option (List Char × List Char)
  | 0, _ => none
  | _ + 1, [] => none
  | n + 1, c :: rest =>
    let marks := (rest.takeWhile (· == mark)).length + 1
    if c = mark ∧ 3 ≤ marks then
      let kept := min marks 5 - 3
      some (List.replicate kept mark, rest.drop (kept + 2))
    else if c = '\\' ∧ escapes then
      if (dropBreak? (skipGap rest)).isSome then readLines mark escapes n (skipSpace rest)
      else do
        let (d, rest) ← readEscape rest
        return withChars [d] (← readLines mark escapes n rest)
    else
      match readBreak? (c :: rest) with
      | some (lineBreak, rest) => (readLines mark escapes n rest).map (withChars lineBreak)
      | none =>
        if isTextChar c then (readLines mark escapes n rest).map (withChars [c]) else none

/-- A text in quotation marks, if one is in front: on one line, or with
`several` also over several lines. -/
def readQuoted? (several : Bool) (cs : List Char) : Option (String × List Char) :=
  let read (mark : Char) (escapes : Bool) (rest : List Char) :=
    if several && [mark, mark].isPrefixOf rest then
      let body := rest.drop 2
      readLines mark escapes (body.length + 1) ((dropBreak? body).getD body)
    else readLine mark escapes (rest.length + 1) rest
  let text := match cs with
    | '"' :: rest => read '"' true rest
    | '\'' :: rest => read '\'' false rest
    | _ => none
  text.map fun r => (String.ofList r.1, r.2)

/-! ## Keys -/

/-- A character of a key without quotation marks. -/
def isBareChar (c : Char) : Bool :=
  ('a' ≤ c && c ≤ 'z') || ('A' ≤ c && c ≤ 'Z') || Text.isDigit c || c == '_' || c == '-'

/-- One key. -/
def readKey (cs : List Char) : Option (String × List Char) :=
  match cs.span isBareChar with
  | ([], _) => readQuoted? false cs
  | (word, rest) => some (String.ofList word, rest)

/-- The greatest number of keys in a dotted key, and of lists and tables in
braces that lie in one another. -/
def greatestDepth : Nat := 80

/-- Keys with dots between them, and what follows behind blanks. The number
bounds them. -/
def readKeysUpTo : Nat → List Char → Option (List String × List Char)
  | 0, _ => none
  | n + 1, cs => do
    let (key, rest) ← readKey (skipGap cs)
    match skipGap rest with
    | '.' :: rest =>
      let (keys, rest) ← readKeysUpTo n rest
      return (key :: keys, rest)
    | rest => return ([key], rest)

/-- A dotted key, and what follows behind blanks. -/
def readKeys (cs : List Char) : Option (List String × List Char) :=
  readKeysUpTo greatestDepth cs

/-! ## Numbers -/

/-- Digits without the underscores between them. -/
def ungrouped? (isDigit : Char → Bool) (cs : List Char) : Option (List Char) :=
  let groups := Text.splitChars '_' cs
  if groups.all fun g => !g.isEmpty && g.all isDigit then some groups.flatten else none

/-- Digits of base ten without leading zeros. -/
def wholeDigits? (cs : List Char) : Option (List Char) :=
  match ungrouped? Text.isDigit cs with
  | some ('0' :: _ :: _) => none
  | digits => digits

/-- The value of digits in a base. -/
def inBase? (base : Nat) (cs : List Char) : Option Nat := do
  let digits ← ungrouped? (fun c => (Json.hexValue c).any (· < base)) cs
  digits.foldlM (fun n c => (Json.hexValue c).map (base * n + ·)) 0

/-- A sign, if one is in front, and the rest. -/
def signed : List Char → List Char × List Char
  | '+' :: rest => ([], rest)
  | '-' :: rest => (['-'], rest)
  | rest => ([], rest)

/-- A whole number of 64 bits. -/
def whole? (cs : List Char) : Option Int :=
  let n? := match cs with
    | '0' :: 'x' :: digits => (inBase? 16 digits).map Int.ofNat
    | '0' :: 'o' :: digits => (inBase? 8 digits).map Int.ofNat
    | '0' :: 'b' :: digits => (inBase? 2 digits).map Int.ofNat
    | cs =>
      let (sign, digits) := signed cs
      (wholeDigits? digits).bind fun digits => Text.readInt? (sign ++ digits)
  n?.filter fun n => -(Int.pow 2 63) ≤ n && n < Int.pow 2 63

/-- The exponent of a number behind its letter, without underscores. -/
def exponent? (cs : List Char) : Option (List Char) :=
  let (sign, digits) := signed cs
  (ungrouped? Text.isDigit digits).map (sign ++ ·)

/-- The literal of a number with a fraction or an exponent, without
underscores. -/
def decimal? (cs : List Char) : Option (List Char) := do
  let (sign, cs) := signed cs
  if String.ofList cs ∈ ["inf", "nan"] then return sign ++ cs
  let (mantissa, rest) := cs.span fun c => c != 'e' && c != 'E'
  let exponent ← match rest with
    | [] => some []
    | _ :: rest => (exponent? rest).map ('e' :: ·)
  match Text.splitFirst '.' mantissa with
  | some (whole, fraction) =>
    return sign ++ (← wholeDigits? whole) ++ ['.'] ++ (← ungrouped? Text.isDigit fraction)
      ++ exponent
  | none => if exponent.isEmpty then none else return sign ++ (← wholeDigits? mantissa) ++ exponent

/-! ## Dates -/

/-- A number of so many digits, and what follows. -/
def readCount (digits : Nat) (cs : List Char) : Option (Nat × List Char) :=
  if digits ≤ cs.length && (cs.take digits).all Text.isDigit then
    some (Text.digitsValue (cs.take digits), cs.drop digits)
  else none

/-- What follows a character. -/
def readMark (mark : Char) : List Char → Option (List Char)
  | c :: rest => if c = mark then some rest else none
  | [] => none

/-- A date in its written form, and what follows. -/
def readDate (cs : List Char) : Option (List Char × List Char) := do
  let (year, rest) ← readCount 4 cs
  let (month, rest) ← readCount 2 (← readMark '-' rest)
  let (day, rest) ← readCount 2 (← readMark '-' rest)
  if Date.isValid ⟨year, month, day⟩ then some (cs.take 10, rest) else none

/-- A fraction of a second in its written form: nine digits count, and
zeros at the end do not, but for a zero that stands alone. -/
def readFraction : List Char → Option (List Char × List Char)
  | '.' :: cs =>
    let (digits, rest) := cs.span Text.isDigit
    let kept := ((digits.take 9).reverse.dropWhile (· == '0')).reverse
    if digits.isEmpty then none
    else some ('.' :: (if kept.isEmpty then ['0'] else kept), rest)
  | cs => some ([], cs)

/-- Seconds in their written form, if there are any, and what follows. -/
def readSeconds : List Char → Option (List Char × List Char)
  | ':' :: cs => do
    let (second, rest) ← readCount 2 cs
    let (fraction, rest) ← readFraction rest
    if second ≤ 60 then some (':' :: cs.take 2 ++ fraction, rest) else none
  | cs => some ([], cs)

/-- A time of day in its written form, and what follows. -/
def readTime (cs : List Char) : Option (List Char × List Char) := do
  let (hour, rest) ← readCount 2 cs
  let (minute, rest) ← readCount 2 (← readMark ':' rest)
  let (seconds, rest) ← readSeconds rest
  if hour ≤ 23 ∧ minute ≤ 59 then some (cs.take 5 ++ seconds, rest) else none

/-- The written form of an offset that is all there is. -/
def zone? : List Char → Option (List Char)
  | [] => some []
  | ['Z'] | ['z'] => some ['Z']
  | sign :: cs => do
    let (hour, rest) ← readCount 2 cs
    let (minute, rest) ← readCount 2 (← readMark ':' rest)
    if !rest.isEmpty || 23 < hour || 59 < minute then none
    else if sign = '+' ∨ (sign = '-' ∧ hour + minute = 0) then some ('+' :: cs)
    else if sign = '-' then some ('-' :: cs)
    else none

/-- The written form of a date, a time of day, or both. -/
def moment? (cs : List Char) : Option (List Char) :=
  match readDate cs with
  | some (date, []) => some date
  | some (date, c :: rest) => do
    let (time, rest) ← readTime rest
    let zone ← zone? rest
    if c = 'T' ∨ c = 't' ∨ c = ' ' then some (date ++ ['T'] ++ time ++ zone) else none
  | none => do
    let (time, rest) ← readTime cs
    if rest.isEmpty then some time else none

/-! ## Words -/

/-- A character of a word without quotation marks. -/
def isWordChar (c : Char) : Bool :=
  isBareChar c || c == '+' || c == '.' || c == ':'

/-- A word without quotation marks, and what follows. A blank may stand
between a date and its time. -/
def spanWord (cs : List Char) : List Char × List Char :=
  let (word, rest) := cs.span isWordChar
  match rest with
  | ' ' :: c :: more =>
    if (readDate word).any (fun d => d.2.isEmpty) && Text.isDigit c then
      let (time, rest) := (c :: more).span isWordChar
      (word ++ ' ' :: time, rest)
    else (word, rest)
  | _ => (word, rest)

/-- What a word stands for. -/
def word? (cs : List Char) : Option Tree :=
  if cs = "true".toList then some (.bool true)
  else if cs = "false".toList then some (.bool false)
  else
    match whole? cs with
    | some n => some (.number (Text.intText n))
    | none =>
      match decimal? cs with
      | some literal => some (.number (String.ofList literal))
      | none => (moment? cs).map fun text => .text (some (String.ofList text))

end RouteConvergence.Toml
