/-
RouteConvergence.Settings.Layer — settings as they are given, layer over
layer.

A layer is a table of named values that nobody has asked for a type yet.
One layer is laid over another key by key: tables are merged, and
anything else replaces what was there.

* `LayerValue` — the values of a layer.
* `LayerValue.overlay` — one value laid over another.
* `LayerPath` — the place in nested tables and lists that a dotted key
  names, such as `tls.enabled` or `origins[0].host`.
* `LayerPath.assign` — a value laid over what stands at a place.
-/
import RouteConvergence.Decimal.Binary64

namespace RouteConvergence

open Decimal (Binary64)

/-- Whether an integer fits into 64 bits. -/
def fitsWord (n : Int) : Bool := -(Int.pow 2 63) ≤ n && n < Int.pow 2 63

/-- A value of a layer. -/
inductive LayerValue
  | null
  | bool (value : Bool)
  | whole (value : Int)
  | decimal (value : Binary64)
  | text (value : String)
  | list (items : List LayerValue)
  | table (fields : List (String × LayerValue))
deriving Inhabited

namespace LayerValue

/-! ## Tables -/

/-- The value under a key; null where there is none. -/
def field (fields : List (String × LayerValue)) (key : String) : LayerValue :=
  (fields.lookup key).getD .null

/-- The fields with the value under one key changed. -/
def modifyField (key : String) (change : LayerValue → LayerValue) :
    List (String × LayerValue) → List (String × LayerValue)
  | [] => [(key, change .null)]
  | (k, v) :: rest =>
    if k = key then (k, change v) :: rest else (k, v) :: modifyField key change rest

/-- The fields of a table; nothing else has any. -/
def fields : LayerValue → List (String × LayerValue)
  | table fields => fields
  | _ => []

/-- The items of a list; nothing else has any. -/
def items : LayerValue → List LayerValue
  | list items => items
  | _ => []

mutual

/-- A value laid over another. -/
def overlay : LayerValue → LayerValue → LayerValue
  | table above, below => table (overlayFields above below.fields)
  | value, _ => value

/-- Fields laid over those of a table one after the other. -/
def overlayFields :
    List (String × LayerValue) → List (String × LayerValue) → List (String × LayerValue)
  | [], below => below
  | (key, value) :: rest, below => overlayFields rest (modifyField key (overlay value) below)

end

/-! ## Lists -/

/-- The items with one of them changed. A list too short is filled up with
nulls behind. -/
def modifyItem (change : LayerValue → LayerValue) :
    Nat → List LayerValue → List LayerValue
  | 0, [] => [change .null]
  | 0, v :: rest => change v :: rest
  | n + 1, [] => .null :: modifyItem change n []
  | n + 1, v :: rest => v :: modifyItem change n rest

/-- The items with one of them changed; a negative index counts from the
end. A list too short for it is filled up with nulls in front. -/
def modifyIndex (index : Int) (change : LayerValue → LayerValue) (items : List LayerValue) :
    List LayerValue :=
  match index with
  | .ofNat n => modifyItem change n items
  | .negSucc n =>
    if n < items.length then modifyItem change (items.length - (n + 1)) items
    else modifyItem change 0 (List.replicate (n + 1 - items.length) .null ++ items)

end LayerValue

/-! ## Places -/

/-- One step into a value. -/
inductive LayerStep
  | field (key : String)
  | index (position : Int)
deriving DecidableEq, Repr

/-- A place in a layer: a key and steps further inside. -/
structure LayerPath where
  key : String
  steps : List LayerStep
deriving DecidableEq, Repr

namespace LayerPath

/-- A character of a key in a dotted key. -/
def isKeyChar (c : Char) : Bool :=
  ('a' ≤ c && c ≤ 'z') || ('A' ≤ c && c ≤ 'Z') || Text.isDigit c || c == '_' || c == '-'

/-- A key and what follows. -/
def readKey (cs : List Char) : Option (String × List Char) :=
  match cs.span isKeyChar with
  | ([], _) => none
  | (key, rest) => some (String.ofList key, rest)

/-- Characters without the blanks of a line in front. -/
def skipGap (cs : List Char) : List Char := cs.dropWhile fun c => c == ' ' || c == '\t'

/-- An index up to its bracket, with blanks around it, and what follows. It
has at most 64 bits. -/
def readIndex (cs : List Char) : Option (Int × List Char) :=
  let (digits, rest) := (skipGap cs).span fun c => c == '-' || Text.isDigit c
  match skipGap rest with
  | ']' :: rest => ((Text.readInt? digits).filter fitsWord).map fun n => (n, rest)
  | _ => none

/-- Steps up to the end. The number bounds them. -/
def readSteps : Nat → List Char → Option (List LayerStep)
  | _, [] => some []
  | n + 1, '.' :: cs => do
    let (key, rest) ← readKey cs
    return .field key :: (← readSteps n rest)
  | n + 1, '[' :: cs => do
    let (position, rest) ← readIndex cs
    return .index position :: (← readSteps n rest)
  | _, _ => none

/-- The place a dotted key names. -/
def ofText? (text : String) : Option LayerPath := do
  let (key, rest) ← readKey text.toList
  return ⟨key, ← readSteps rest.length rest⟩

/-- The place a key names: where it is no dotted key, the key itself. -/
def ofKey (text : String) : LayerPath := (ofText? text).getD ⟨text, []⟩

/-- A value with what stands some steps inside changed. Tables and lists
are made on the way. -/
def modifyInside (change : LayerValue → LayerValue) :
    List LayerStep → LayerValue → LayerValue
  | [], v => change v
  | .field key :: steps, v =>
    .table (LayerValue.modifyField key (modifyInside change steps) v.fields)
  | .index position :: steps, v =>
    .list (LayerValue.modifyIndex position (modifyInside change steps) v.items)

/-- A value laid over what stands at a place. -/
def assign (place : LayerPath) (value : LayerValue) (layer : List (String × LayerValue)) :
    List (String × LayerValue) :=
  LayerValue.modifyField place.key (modifyInside value.overlay place.steps) layer

end LayerPath

/-- The settings given so far, with further ones laid over them. The keys
of a layer may be dotted. -/
def layOver (above below : List (String × LayerValue)) : List (String × LayerValue) :=
  above.foldl (fun layer f => (LayerPath.ofKey f.1).assign f.2 layer) below

end RouteConvergence
