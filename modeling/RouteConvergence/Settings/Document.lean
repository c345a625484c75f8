/-
RouteConvergence.Settings.Document — settings files as layers.

A settings file is a document in one of three formats, and its outermost
value is a table. What values stand for differs by format:

* in TOML a number is taken exactly, and no key repeats;
* in YAML a scalar without quotation marks may be a number or truth value,
  also as a key, and keys differ if they stand for different values;
* in JSON a decimal is taken in rounded steps, and a key that repeats
  replaces its value.
-/
import RouteConvergence.Data.Slots
import RouteConvergence.Decimal.Stepwise
import RouteConvergence.Settings.Layer
import RouteConvergence.Toml.Reader
import RouteConvergence.Yaml.Reader

namespace RouteConvergence

open Data (Tree)
open Decimal (Binary64)

/-- A format of settings files. -/
inductive LayerFormat
  | toml
  | yaml
  | json
deriving DecidableEq, Repr

/-- The format by the ending of a file's name. -/
def LayerFormat.ofExtension? : String → Option LayerFormat
  | "toml" => some .toml
  | "yaml" | "yml" => some .yaml
  | "json" => some .json
  | _ => none

namespace LayerValue

/-! ## Numbers -/

/-- A decimal that is infinite only by name. -/
def ofDecimal? (literal : String) : Option LayerValue :=
  match Binary64.ofText? literal with
  | some (.infinite negative) =>
    if literal.toList.any Text.isDigit then none else some (decimal (.infinite negative))
  | x => x.map decimal

/-- The value of a number taken exactly. A whole number has 64 bits; any
other is a decimal. -/
def ofNumber? (literal : String) : Option LayerValue :=
  match (Text.readInt? literal.toList).filter fitsWord with
  | some n => some (whole n)
  | none => ofDecimal? literal

/-- Whether an integer fits into 64 bits with or without a sign. -/
def fitsEitherWord (n : Int) : Bool := fitsWord n || (0 ≤ n && n < Int.pow 2 64)

/-- The value of a positive number of the JSON format taken in steps. -/
def stepwise? (cs : List Char) : Option Binary64 := do
  let (mantissa, exponent) := cs.span fun c => c != 'e' && c != 'E'
  let (digits, fraction) := mantissa.span (· != '.')
  let exponent ← match exponent with
    | [] => some 0
    | _ :: signed => Text.readInt? signed
  Decimal.stepwise? digits (fraction.drop 1) exponent

/-- The value of a number of the JSON format. A whole number has 64 bits
with or without a sign, and is not minus zero; any other is a decimal. -/
def ofJsonNumber? (literal : String) : Option LayerValue :=
  match (Text.readInt? literal.toList).filter fitsEitherWord with
  | some n => some (if literal = "-0" then decimal (.finite true 0 0) else whole n)
  | none =>
    match literal.toList with
    | '-' :: cs => (stepwise? cs).map fun x => decimal x.negated
    | cs => (stepwise? cs).map decimal

/-! ## Trees -/

mutual

/-- The value a tree stands for, with a reading of its numbers; `repeats`
says whether a key may be given again, which replaces its value. -/
def ofTree? (number? : String → Option LayerValue) (repeats : Bool) : Tree → Option LayerValue
  | .null => some null
  | .bool b => some (bool b)
  | .number literal => number? literal
  | .text s => s.map text
  | .plain s => some (text s)
  | .list _ items => (ofItems? number? repeats items).map list
  | .record fields => (ofFields? number? repeats [] fields).map table

/-- The values of items in order. -/
def ofItems? (number? : String → Option LayerValue) (repeats : Bool) :
    List Tree → Option (List LayerValue)
  | [] => some []
  | t :: rest => do
    return (← ofTree? number? repeats t) :: (← ofItems? number? repeats rest)

/-- The fields of a table after those before. -/
def ofFields? (number? : String → Option LayerValue) (repeats : Bool)
    (before : List (String × LayerValue)) :
    List (Option String × Tree) → Option (List (String × LayerValue))
  | [] => some before
  | (none, _) :: _ => none
  | (some key, t) :: rest => do
    let value ← ofTree? number? repeats t
    if !repeats && (before.lookup key).isSome then none
    else ofFields? number? repeats (modifyField key (fun _ => value) before) rest

end

end LayerValue

/-! ## Scalars without quotation marks -/

/-- What a scalar stands for. -/
inductive ScalarSense
  | null
  | bool (value : Bool)
  | whole (value : Int)
  /-- A number that is not whole, as it is spelled. -/
  | real (literal : String)
  | text (value : String)
deriving DecidableEq, Repr

namespace ScalarSense

/-- A whole number of 64 bits in a base, with a sign if it has one. -/
def inBase? (base : Nat) (cs : List Char) : Option Int :=
  let n? := match cs with
    | '-' :: digits => (Data.readInBase? base digits).map fun n => -(n : Int)
    | '+' :: digits => (Data.readInBase? base digits).map Int.ofNat
    | digits => (Data.readInBase? base digits).map Int.ofNat
  n?.filter fitsWord

/-- The whole number that a scalar without quotation marks spells in base
sixteen, eight or ten. -/
def wholeOf? (cs : List Char) : Option Int :=
  let marked := match cs with
    | '0' :: 'x' :: digits => inBase? 16 digits
    | '0' :: 'o' :: digits => inBase? 8 digits
    | '+' :: digits => inBase? 10 digits
    | _ => none
  marked.or (inBase? 10 cs)

/-- The names of numbers that are not finite. -/
def boundlessWords : List String :=
  [".inf", ".Inf", ".INF", "+.inf", "+.Inf", "+.INF", "-.inf", "-.Inf", "-.INF",
   ".nan", ".NaN", ".NAN"]

/-- What a scalar without quotation marks stands for. -/
def ofPlain (s : String) : ScalarSense :=
  if s ∈ ["", "~", "null"] then null
  else if s ∈ ["true", "True", "TRUE"] then bool true
  else if s ∈ ["false", "False", "FALSE"] then bool false
  else
    match wholeOf? s.toList with
    | some n => whole n
    | none =>
      if s ∈ boundlessWords
          || (s.toList.any Text.isDigit && (Binary64.ofText? s).isSome) then real s
      else text s

/-- What a node stands for, if it is a scalar. -/
def ofNode? : Yaml.Node → Option ScalarSense
  | .plain s => some (ofPlain s)
  | .quoted s => some (text s)
  | _ => none

/-- What stands for itself as a key; null does not. -/
def key? : ScalarSense → Option String
  | null => none
  | bool b => some (if b then "true" else "false")
  | whole n => some (Text.intText n)
  | real s | text s => some s

/-- The value a scalar stands for. A number that is only named has none. -/
def value? : ScalarSense → Option LayerValue
  | null => some .null
  | bool b => some (.bool b)
  | whole n => some (.whole n)
  | real s => (Binary64.ofText? s).map .decimal
  | text s => some (.text s)

end ScalarSense

namespace LayerValue

mutual

/-- The value a node stands for. -/
def ofNode? : Yaml.Node → Option LayerValue
  | .plain s => (ScalarSense.ofPlain s).value?
  | .quoted s => some (text s)
  | .list items => (ofNodeItems? items).map list
  | .map fields => (ofNodeFields? [] [] fields).map table

/-- The values of items in order. -/
def ofNodeItems? : List Yaml.Node → Option (List LayerValue)
  | [] => some []
  | node :: rest => do return (← ofNode? node) :: (← ofNodeItems? rest)

/-- The fields of a table after those before, whose keys are known. No two
keys stand for the same value; of two that are only written the same, the
later one replaces the value. -/
def ofNodeFields? (keys : List ScalarSense) (before : List (String × LayerValue)) :
    List (Yaml.Node × Yaml.Node) → Option (List (String × LayerValue))
  | [] => some before
  | (node, t) :: rest => do
    let sense ← ScalarSense.ofNode? node
    let key ← sense.key?
    let value ← ofNode? t
    if keys.contains sense then none
    else ofNodeFields? (sense :: keys) (modifyField key (fun _ => value) before) rest

end

end LayerValue

/-! ## Depth -/

mutual

/-- How many lists and records lie in one another. -/
def depthOf : Tree → Nat
  | .list _ items => depthOfItems items + 1
  | .record fields => depthOfFields fields + 1
  | _ => 0

/-- The greatest depth among items. -/
def depthOfItems : List Tree → Nat
  | [] => 0
  | t :: rest => max (depthOf t) (depthOfItems rest)

/-- The greatest depth among fields. -/
def depthOfFields : List (Option String × Tree) → Nat
  | [] => 0
  | (_, t) :: rest => max (depthOf t) (depthOfFields rest)

end

/-- The depth from which on a JSON document is not read as settings. -/
def depthLimit : Nat := 128

/-! ## Files -/

/-- The value of a document in a format. -/
def LayerFormat.value? : LayerFormat → String → Option LayerValue
  | .toml, text => (Toml.read? text).bind (LayerValue.ofTree? LayerValue.ofNumber? false)
  | .yaml, text =>
    (Yaml.nodeOf? .newer text).bind fun
      | some node => LayerValue.ofNode? node
      | none => some (.table [])
  | .json, text =>
    ((Json.read? text).filter fun t => depthOf t < depthLimit).bind
      (LayerValue.ofTree? LayerValue.ofJsonNumber? true)

/-- A text behind a byte order mark, if there is one. -/
def withoutMark (text : String) : String := (Text.dropStart? "\ufeff" text).getD text

/-- The layer of a file in a format: a table. -/
def LayerFormat.layer? (format : LayerFormat) (contents : String) :
    Option (List (String × LayerValue)) :=
  match format.value? (withoutMark contents) with
  | some (.table fields) => some fields
  | _ => none

end RouteConvergence
