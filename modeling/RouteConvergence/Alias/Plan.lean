/-
RouteConvergence.Alias.Plan — claiming and releasing one name.

Whoever manages the address records of a name says so in a text record at
the name, which holds one token per owner. A name is ours to change if
its text record holds our token, or if it holds no record at all; of a
text record only our own token is ever added or removed.

* `Claim.of` — whose a name is, read off its records.
* `planUpsert` — the changes that make a name point somewhere.
* `planDelete` — the changes that release it.
-/
import RouteConvergence.Alias.Entry
import RouteConvergence.Failure

namespace RouteConvergence

/-! ## Whose a name is -/

/-- The first text record among some records. -/
def findText (records : List RecordSet) : Option RecordSet :=
  records.find? (·.type == .txt)

/-- The address records among some records. -/
def addressRecords (records : List RecordSet) : List RecordSet :=
  records.filter (·.type.isAddress)

/-- Whose a name is. -/
inductive Claim
  /-- Nobody's: there is neither a text record nor an address record. -/
  | free
  /-- Ours, by this text record. -/
  | ours (text : RecordSet)
  /-- Not ours, for this reason. -/
  | foreign (cause : Conflict)
deriving DecidableEq

/-- Reads off the records at a name whose it is. -/
def Claim.of (records : List RecordSet) (domain token : String) : Claim :=
  match findText records with
  | some text =>
    if token ∈ text.values then .ours text else .foreign (.ownedElsewhere domain text.values)
  | none =>
    if (addressRecords records).isEmpty then .free else .foreign (.unclaimedRecords domain)

/-! ## Claiming -/

/-- The tokens of a text record with ours among them. -/
def addToken (token : String) (values : List String) : List String :=
  if token ∈ values then values else values ++ [token]

/-- The changes that make an entry point at a target, given the values of
the text record at its name. Address types that are no longer wanted are
removed. -/
def claimBatch (records : List RecordSet) (target : String) (entry : AliasEntry) (token : String)
    (values : List String) : Batch :=
  (entry.types.toList.map fun type => Change.upsert (.aliasTo entry.domain type target))
    ++ ((addressRecords records).filter fun r => !entry.types.contains r.type).map Change.delete
    ++ [Change.upsert (.txt entry.domain (addToken token values))]

/-- The changes that make an entry point at a target, or whose the name
is. -/
def planUpsert (records : List RecordSet) (target : String) (entry : AliasEntry)
    (token : String) : Except Conflict Batch :=
  match Claim.of records entry.domain token with
  | .foreign cause => .error cause
  | .free => .ok (claimBatch records target entry token [])
  | .ours text => .ok (claimBatch records target entry token text.values)

/-! ## Releasing -/

/-- What a release comes to. -/
inductive DeletePlan
  /-- These changes, possibly none, release the name. -/
  | release (batch : Batch)
  /-- The name is not ours; it is left as it is. -/
  | notOwned (cause : Conflict)
deriving DecidableEq

/-- The change that takes our token out of a text record. -/
def withdrawToken (domain token : String) (text : RecordSet) : Change :=
  match text.values.filter (· != token) with
  | [] => .delete text
  | others => .upsert (.txt domain others)

/-- The changes that release an entry. -/
def planDelete (records : List RecordSet) (entry : AliasEntry) (token : String) : DeletePlan :=
  match Claim.of records entry.domain token with
  | .foreign cause => .notOwned cause
  | .free => .release []
  | .ours text =>
    .release
      (((addressRecords records).filter fun r => entry.types.contains r.type).map Change.delete
        ++ [withdrawToken entry.domain token text])

end RouteConvergence
