/-
RouteConvergence.Data.Slots — reading trees as values.

A reader of a type takes a tree to a value or refuses it. Records are
read through slots: `Tree.slots` finds the tree of every field, whether
the fields are named or given by position, and refuses repeated fields
and, where a record is closed, unknown ones. What a missing field means
is said by the reader of that field:

* `Slot.required` — the field has to be there.
* `Slot.optional` — a missing field is none, but a list that is too short
  is refused.
* `Slot.optionalOrAbsent` — a missing field is none.
* `Slot.orElse` — a missing field has a default, which null has not.
-/
import RouteConvergence.Data.Tree
import RouteConvergence.SortedSet
import RouteConvergence.SortedMap
import RouteConvergence.Text.Decimal
import RouteConvergence.Text.Pieces

namespace RouteConvergence.Data

/-! ## Scalars -/

/-- Whether a scalar without quotation marks stands for nothing. -/
def plainIsNull (s : String) : Bool :=
  s == "" || s == "~" || s == "null" || s == "Null" || s == "NULL"

/-- The truth value of a scalar without quotation marks. -/
def plainBool? (s : String) : Option Bool :=
  if s == "true" || s == "True" || s == "TRUE" then some true
  else if s == "false" || s == "False" || s == "FALSE" then some false
  else none

/-- The value of digits in a base up to sixteen. -/
def readInBase? (base : Nat) (cs : List Char) : Option Nat :=
  if cs.isEmpty then none
  else
    cs.foldl (fun acc c => do
      let n ← acc
      let d ← if Text.isDigit c then some (c.toNat - '0'.toNat)
        else if 'a' ≤ c ∧ c ≤ 'f' then some (c.toNat - 'a'.toNat + 10)
        else if 'A' ≤ c ∧ c ≤ 'F' then some (c.toNat - 'A'.toNat + 10)
        else none
      if d < base then some (n * base + d) else none) (some 0)

/-- The number a scalar without quotation marks spells: in base sixteen,
eight or two after its mark, or else in base ten without leading zeros; a
plus sign may lead. -/
def plainNat? (s : String) : Option Nat :=
  let unsigned (cs : List Char) : Option Nat :=
    match cs with
    | '0' :: 'x' :: digits => readInBase? 16 digits
    | '0' :: 'o' :: digits => readInBase? 8 digits
    | '0' :: 'b' :: digits => readInBase? 2 digits
    | '0' :: _ :: _ => none
    | digits => Text.readNat? digits
  match s.toList with
  | '+' :: digits => unsigned digits
  | digits => unsigned digits

/-- The number a literal spells in digits alone. -/
def literalNat? (literal : String) : Option Nat := Text.readNat? literal.toList

namespace Tree

/-- Reads a text. -/
def asText : Tree → Option String
  | text value => value
  | plain s => some s
  | _ => none

/-- Reads a truth value. -/
def asBool : Tree → Option Bool
  | bool b => some b
  | plain s => plainBool? s
  | _ => none

/-- Reads a number of at most 32 bits. -/
def asSeconds (t : Tree) : Option Nat :=
  let n? := match t with
    | number literal => literalNat? literal
    | plain s => plainNat? s
    | _ => none
  n?.filter (· ≤ Text.maxSeconds)

/-- Reads null as none and anything else by a reader. -/
def asOption {α : Type} (read : Tree → Option α) : Tree → Option (Option α)
  | null => some none
  | plain s => if plainIsNull s then some none else (read (plain s)).map some
  | t => (read t).map some

/-- Reads a word that names one of some values, or a record whose one field
is such a word and holds null. -/
def asWord {α : Type} (all : List α) (word : α → String) : Tree → Option α
  | text (some s) => all.find? fun a => word a == s
  | plain s => all.find? fun a => word a == s
  | record [(some s, null)] => all.find? fun a => word a == s
  | _ => none

/-! ## Lists and maps -/

/-- Reads a list item by item. Nothing at all is an empty list. -/
def asList {α : Type} (read : Tree → Option α) : Tree → Option (List α)
  | list _ items => items.mapM read
  | plain "" => some []
  | _ => none

/-- Reads a list as a set. -/
def asSet {α : Type} [Ord α] [Std.TransOrd α] (read : Tree → Option α) (t : Tree) :
    Option (SortedSet α) :=
  (t.asList read).map .ofList

/-- Reads a field of a map. -/
def asPair {κ ν : Type} (readKey : String → Option κ) (read : Tree → Option ν)
    (field : Option String × Tree) : Option (κ × ν) := do
  return (← readKey (← field.1), ← read field.2)

/-- Reads a record as a map; of fields with one key the last stays. -/
def asMap {κ ν : Type} [Ord κ] [Std.TransOrd κ] (readKey : String → Option κ)
    (read : Tree → Option ν) : Tree → Option (SortedMap κ ν)
  | record fields => (fields.mapM (asPair readKey read)).map .ofList
  | plain "" => some .empty
  | _ => none

/-- Reads a record as a map from texts to texts. -/
def asTextMap (t : Tree) : Option (SortedMap String String) := t.asMap some asText

end Tree

/-! ## Records -/

/-- What a record gives for one field. -/
inductive Slot
  | given (t : Tree)
  /-- The field is not among the named ones. -/
  | absent
  /-- The list that stands for the record ends before the field. -/
  | cutOff

/-- What a record gives for its fields. -/
abbrev Slots := String → Slot

/-- The slot of a field among named ones. -/
def Slot.ofNamed (fields : List (Option String × Tree)) (name : String) : Slot :=
  match fields.find? fun f => f.1 == some name with
  | some f => .given f.2
  | none => .absent

/-- The slot of a field in a list. -/
def Slot.ofListed (names : List String) (items : List Tree) (name : String) : Slot :=
  match items[names.idxOf name]? with
  | some t => .given t
  | none => .cutOff

/-- Whether named fields may stand for a record: all can be read, none of
its own is repeated, and if it is closed there are no others. -/
def fieldsFit (names : List String) (closed : Bool) (fields : List (Option String × Tree)) :
    Bool :=
  fields.all (fun f => match f.1 with
    | some name => !closed || names.contains name
    | none => false)
    && names.all fun name => (fields.filter fun f => f.1 == some name).length ≤ 1

/-- What a tree gives for the fields of a record. -/
def Tree.slots (names : List String) (closed : Bool) : Tree → Option Slots
  | record fields => if fieldsFit names closed fields then some (Slot.ofNamed fields) else none
  | list true items =>
    if items.length ≤ names.length then some (Slot.ofListed names items) else none
  | plain "" => some fun _ => .absent
  | _ => none

namespace Slot

/-- A field that has to be there. -/
def required {α : Type} (read : Tree → Option α) : Slot → Option α
  | given t => read t
  | absent | cutOff => none

/-- A field that may be null or not named. -/
def optional {α : Type} (read : Tree → Option α) : Slot → Option (Option α)
  | given t => t.asOption read
  | absent => some none
  | cutOff => none

/-- A field that may be null or missing. -/
def optionalOrAbsent {α : Type} (read : Tree → Option α) : Slot → Option (Option α)
  | given t => t.asOption read
  | absent | cutOff => some none

/-- A field that may be missing and then has a default. -/
def orElse {α : Type} (fallback : α) (read : Tree → Option α) : Slot → Option α
  | given t => read t
  | absent | cutOff => some fallback

end Slot

end RouteConvergence.Data
