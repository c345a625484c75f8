/-
RouteConvergence.Status.Table — status records as a table.

The table has one line for its heading, one rule, and one line for each
record. Columns are padded by characters, but a text too long for its
column is cut by bytes of its UTF-8 form; a cut that would fall inside a
character cannot be made, and then there is no table.
-/
import RouteConvergence.Status
import RouteConvergence.Text.Bytes
import RouteConvergence.Text.Decimal
import RouteConvergence.Text.Pieces

namespace RouteConvergence

/-! ## Columns -/

/-- A text followed by blanks up to a number of characters. -/
def Text.padRight (width : Nat) (s : String) : String :=
  s ++ String.ofList (List.replicate (width - s.length) ' ')

/-- A text in at most so many bytes: a longer one ends in three dots. -/
def Text.truncate (most : Nat) (s : String) : Option String :=
  if s.utf8ByteSize ≤ most then some s
  else (firstBytes (most - 3) s.toList).map fun cs => String.ofList cs ++ "..."

namespace StatusTable

/-- The width of the column of groups. -/
def groupWidth : Nat := 20

/-- The width of the column of addresses. -/
def addressWidth : Nat := 36

/-- One line of the table. -/
def line (group distribution address synced aliases : String) : String :=
  Text.padRight groupWidth group ++ " " ++ Text.padRight 16 distribution ++ " "
    ++ Text.padRight addressWidth address ++ " " ++ Text.padRight 8 synced ++ " "
    ++ Text.padRight 6 aliases ++ "\n"

/-- The heading. -/
def heading : String := line "Group" "Distribution" "Address" "Synced" "Aliases"

/-- The rule below the heading. -/
def rule : String := String.ofList (List.replicate 90 '-') ++ "\n"

/-- How many routes of a record are in sync, and of how many. -/
def syncedText (s : StatusRecord) : String :=
  Text.natText (s.synced.values.filter id).length ++ "/" ++ Text.natText s.synced.size

/-- The line of one record. -/
def row (s : StatusRecord) : Option String := do
  let group ← Text.truncate groupWidth s.group
  let address ← Text.truncate addressWidth (s.address.getD "-")
  return line group (s.distributionId.getD "-") address (syncedText s)
    (Text.natText s.aliases.size)

/-- The table of some records, if every text can be cut to its column. -/
def render (records : List StatusRecord) : Option String := do
  let rows ← records.mapM row
  return heading ++ rule ++ String.join rows

end StatusTable

end RouteConvergence
