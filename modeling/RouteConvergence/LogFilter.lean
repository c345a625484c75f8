/-
RouteConvergence.LogFilter — which texts say what is logged.

A filter is a list of directives with commas between them. A directive is
a level, a target, a span in brackets, or a target with a span, and may
set a level behind an equals sign. A span may have a field in braces, and
the field a value, which is a literal or a regular expression. Empty
directives do not count. Whether a text is a filter is all that is asked
here.

* `Reading` — what part of a directive is being read.
* `Objection` — why a text is no filter.
* `judgeDirective` — judges a text between commas.
* `judge` — judges a whole text.

Blanks around a directive are passed over when its parts are told apart,
but the parts are then cut out of the text with its blanks, behind the same
number of bytes. So a directive with blanks around it sets no level that is
one, and behind wide blanks a cut may fall inside a character.
-/
import RouteConvergence.Decimal.Binary64
import RouteConvergence.Failure
import RouteConvergence.Settings.Environment
import RouteConvergence.Text.Bytes
import RouteConvergence.Text.RegularSyntax

namespace RouteConvergence

namespace LogFilter

/-! ## Levels and fields -/

/-- The names of the levels. -/
def levelNames : List String := ["error", "warn", "info", "debug", "trace", "off"]

/-- Whether a text is a level: nothing, a name in any case, or a number up
to five. -/
def isLevel (cs : List Char) : Bool :=
  cs.isEmpty || (Text.readSignedNat? cs).any (· ≤ 5)
    || levelNames.any (Text.sameIgnoringCase (String.ofList cs))

/-- Whether a text is the value of a field: a truth value, a number or a
regular expression. -/
def isFieldValue (cs : List Char) : Bool :=
  (Decimal.Binary64.ofText? (String.ofList cs)).isSome || Text.RegularSyntax.isExpression cs

/-- Whether a text is a field: a name with anything behind a second equals
sign, and a value behind the first, if there is one. -/
def isField (cs : List Char) : Bool :=
  !cs.isEmpty &&
    match Text.splitChars '=' cs with
    | _ :: value :: _ => isFieldValue value
    | _ => true

/-! ## Directives -/

/-- Whether a target may begin with a character: a letter or number, or one
of three marks. -/
def mayBegin (c : Char) : Bool :=
  Text.isAlphanumeric c || c == '-' || c == ':' || c == '_'

/-- What part of a directive is being read. Places are counted in bytes. -/
inductive Reading
  | nothing
  | word
  /-- The name of a span that began at a place. -/
  | span (start : Nat)
  /-- A field that began at a place. -/
  | field (start : Nat)
  | fieldEnd
  | spanEnd
  /-- A level that began at a place. -/
  | level (start : Nat)
deriving DecidableEq, Repr

/-- Why a text is no filter. -/
inductive Objection
  | malformed
  /-- A part cannot be cut out of it: a character lies across an end. -/
  | uncuttable
deriving DecidableEq, Repr

/-- The result for a part that was cut out, if it could be. -/
def withPart {α : Type} (part : Option (List Char)) (judge : List Char → Except Objection α) :
    Except Objection α :=
  match part with
  | some cs => judge cs
  | none => .error .uncuttable

/-- The result if something holds of a part. -/
def accept {α : Type} (holds : Bool) (result : α) : Except Objection α :=
  if holds then .ok result else .error .malformed

/-- What is being read after one more character, which stands at a place of
a text. -/
def Reading.after (text : List Char) (place : Nat) (c : Char) :
    Reading → Except Objection Reading
  | nothing => accept (c == '[' || mayBegin c) (if c = '[' then span (place + 1) else word)
  | word =>
    if c = '=' ∨ c = '[' then
      withPart (Text.firstBytes place text) fun _ =>
        .ok (if c = '=' then level (place + 1) else span (place + 1))
    else .ok word
  | span start =>
    if c = ']' ∨ c = '\x7b' then
      withPart (Text.bytesBetween start place text) fun _ =>
        .ok (if c = ']' then spanEnd else field (place + 1))
    else .ok (span start)
  | field start =>
    if c = '\x7d' then
      withPart (Text.bytesBetween start place text) fun cs => accept (isField cs) fieldEnd
    else .ok (field start)
  | fieldEnd => accept (c == ']') spanEnd
  | spanEnd => accept (c == '=') (level (place + 1))
  | level start => .ok (level start)

/-- What is being read after characters from a place of a text on. -/
def Reading.through (text : List Char) :
    Nat → Reading → List Char → Except Objection Reading
  | _, reading, [] => .ok reading
  | place, reading, c :: rest =>
    (reading.after text place c).bind fun next =>
      through text (place + c.utf8Size) next rest

/-- Judges a text that ends with what is being read. -/
def Reading.close (text : List Char) : Reading → Except Objection Unit
  | word | spanEnd => .ok ()
  | level start => withPart (Text.behindBytes start text) fun cs => accept (isLevel cs) ()
  | _ => .error .malformed

/-- Judges a text between commas. -/
def judgeDirective (cs : List Char) : Except Objection Unit :=
  (Reading.through cs 0 .nothing (Text.trimChars cs)).bind (Reading.close cs)

/-! ## Filters -/

/-- Judges a text: the first directive that is none decides. -/
def judge (s : String) : Except Objection Unit :=
  ((Text.splitChars ',' s.toList).filter (!·.isEmpty)).forM judgeDirective

/-- What is to be said against a log level. A filter in the variable for
all programs takes the place of any level, and a malformed text there gives
way to the level. -/
def objection? (environment : Environment) (level : String) : Option Objection :=
  match (environment.lookup sharedLogLevelVariable).map judge with
  | some (.ok _) => none
  | some (.error .uncuttable) => some .uncuttable
  | _ =>
    match judge level with
    | .ok _ => none
    | .error objection => some objection

end LogFilter

end RouteConvergence
