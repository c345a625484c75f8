/-
RouteConvergence.Codec.Status — status records and events as documents.
-/
import RouteConvergence.Codec.Distribution
import RouteConvergence.Event
import RouteConvergence.Status

namespace RouteConvergence

open Data (Tree Document)

/-! ## Status records -/

namespace StatusRecord

def fieldNames : List String :=
  ["group", "distribution_id", "arn", "address", "descriptors", "aliases",
   "last_reconciled_at"]

def document (s : StatusRecord) : Document :=
  .record [
    ("group", .text s.group),
    ("distribution_id", .optionalText s.distributionId),
    ("arn", .optionalText s.arn),
    ("address", .optionalText s.address),
    ("descriptors", .record (s.synced.entries.map fun e => (e.1.text, .bool e.2))),
    ("aliases", .texts s.aliases.toList),
    ("last_reconciled_at", Instant.optionalDocument s.lastReconciled)]

def ofTree? (t : Tree) : Option StatusRecord := do
  let slot ← t.slots fieldNames false
  return {
    group := ← (slot "group").required Tree.asText
    distributionId := ← (slot "distribution_id").optional Tree.asText
    arn := ← (slot "arn").optional Tree.asText
    address := ← (slot "address").optional Tree.asText
    synced := ← (slot "descriptors").orElse .empty (Tree.asMap Reference.ofText? Tree.asBool)
    aliases := ← (slot "aliases").orElse .empty (Tree.asSet Tree.asText)
    lastReconciled := ← (slot "last_reconciled_at").optional Instant.ofTree? }

end StatusRecord

/-! ## Events -/

namespace EventTarget

def document : EventTarget → Document
  | .route reference => .variant "Descriptor" reference.document
  | .status group => .variant "Status" (.text group)

def ofTree? : Tree → Option EventTarget
  | .record [(some "Descriptor", t)] => (Reference.ofTree? t).map .route
  | .record [(some "Status", t)] => t.asText.map .status
  | _ => none

end EventTarget

namespace Event

def fieldNames : List String := ["target", "kind", "reason", "message"]

def document (e : Event) : Document :=
  .record [
    ("target", e.target.document),
    ("kind", .text e.kind.word),
    ("reason", .text e.reason),
    ("message", .text e.message)]

def ofTree? (t : Tree) : Option Event := do
  let slot ← t.slots fieldNames false
  return {
    target := ← (slot "target").required EventTarget.ofTree?
    kind := ← (slot "kind").required (Tree.asWord EventKind.all EventKind.word)
    reason := ← (slot "reason").required Tree.asText
    message := ← (slot "message").required Tree.asText }

end Event

end RouteConvergence
