/-
RouteConvergence.Alias.Protocol — converging names, entry by entry.

Each entry of an alias set is planned from the records at its name and
submitted as one batch. Entries fail independently of each other, and a
report says which succeeded and what went wrong with the others.
-/
import RouteConvergence.Alias.Plan
import RouteConvergence.Program

namespace RouteConvergence

/-- What became of the entries of an alias set. -/
structure AliasReport where
  /-- The names whose entries succeeded, in order. -/
  succeeded : List String
  /-- The failures of the others, in order. -/
  failures : List Failure
deriving Inhabited

namespace AliasReport

/-- The report on no entries. -/
def empty : AliasReport := ⟨[], []⟩

def isSuccess (r : AliasReport) : Bool := r.failures.isEmpty

/-- The report with one more entry in front. -/
def withEntry (r : AliasReport) (domain : String) : Outcome Unit → AliasReport
  | .ok _ => { r with succeeded := domain :: r.succeeded }
  | .error failure => { r with failures := failure :: r.failures }

end AliasReport

namespace AliasProtocol

/-- Submits a batch unless it is empty. -/
def submit (batch : Batch) : Program (Outcome Unit) :=
  if batch.isEmpty then pure (.ok ()) else .call (.applyBatch batch)

/-- Makes one entry point at a target. -/
def upsertEntry (token target : String) (entry : AliasEntry) : Program (Outcome Unit) := do
  match ← Program.call (.listRecords entry.domain) with
  | .error failure => pure (.error failure)
  | .ok records =>
    match planUpsert records target entry token with
    | .error cause => pure (.error (.conflict cause))
    | .ok batch => submit batch

/-- Releases one entry. A name that is not ours counts as released. -/
def deleteEntry (token : String) (entry : AliasEntry) : Program (Outcome Unit) := do
  match ← Program.call (.listRecords entry.domain) with
  | .error failure => pure (.error failure)
  | .ok records =>
    match planDelete records entry token with
    | .release batch => submit batch
    | .notOwned _ => pure (.ok ())

/-- Converges entries in order and reports on all of them. -/
def converge (one : AliasEntry → Program (Outcome Unit)) : List AliasEntry → Program AliasReport
  | [] => pure .empty
  | entry :: rest => do
    let result ← one entry
    let report ← converge one rest
    return report.withEntry entry.domain result

/-- Makes every name of a set point at its target. -/
def upsert (token : String) (aliases : AliasSet) : Program AliasReport :=
  converge (upsertEntry token aliases.target) aliases.entries

/-- Releases every name of a set. -/
def delete (token : String) (aliases : AliasSet) : Program AliasReport :=
  converge (deleteEntry token) aliases.entries

end AliasProtocol

end RouteConvergence
