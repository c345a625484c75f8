/-
RouteConvergence.Codec.Dns — record sets, changes and aliases as
documents.
-/
import RouteConvergence.Alias.Entry
import RouteConvergence.Data.Slots

namespace RouteConvergence

open Data (Tree Document)

def RecordType.ofTree? : Tree → Option RecordType := Tree.asWord all word

namespace RecordSet

def fieldNames : List String := ["name", "record_type", "alias_target", "values"]

def document (r : RecordSet) : Document :=
  .record [
    ("name", .text r.name),
    ("record_type", .text r.type.word),
    ("alias_target", .optionalText r.target),
    ("values", .texts r.values)]

def ofTree? (t : Tree) : Option RecordSet := do
  let slot ← t.slots fieldNames false
  return {
    name := ← (slot "name").required Tree.asText
    type := ← (slot "record_type").required RecordType.ofTree?
    target := ← (slot "alias_target").optional Tree.asText
    values := ← (slot "values").required (Tree.asList Tree.asText) }

end RecordSet

namespace ChangeAction

def word : ChangeAction → String
  | .upsert => "Upsert"
  | .delete => "Delete"

def all : List ChangeAction := [.upsert, .delete]

end ChangeAction

namespace Change

def fieldNames : List String := ["action", "record"]

def document (c : Change) : Document :=
  .record [("action", .text c.action.word), ("record", c.record.document)]

def ofTree? (t : Tree) : Option Change := do
  let slot ← t.slots fieldNames false
  return {
    action := ← (slot "action").required (Tree.asWord ChangeAction.all ChangeAction.word)
    record := ← (slot "record").required RecordSet.ofTree? }

end Change

namespace Batch

def document (b : Batch) : Document := .list (b.map Change.document)

def ofTree? : Tree → Option Batch := Tree.asList Change.ofTree?

end Batch

namespace AliasEntry

def fieldNames : List String := ["domain", "record_types"]

def document (e : AliasEntry) : Document :=
  .record [
    ("domain", .text e.domain),
    ("record_types", .list (e.types.toList.map fun type => .text type.word))]

def ofTree? (t : Tree) : Option AliasEntry := do
  let slot ← t.slots fieldNames false
  return {
    domain := ← (slot "domain").required Tree.asText
    types := ← (slot "record_types").required (Tree.asSet RecordType.ofTree?) }

end AliasEntry

namespace AliasSet

def fieldNames : List String := ["target", "entries"]

def document (s : AliasSet) : Document :=
  .record [("target", .text s.target), ("entries", .list (s.entries.map AliasEntry.document))]

def ofTree? (t : Tree) : Option AliasSet := do
  let slot ← t.slots fieldNames false
  return {
    target := ← (slot "target").required Tree.asText
    entries := ← (slot "entries").required (Tree.asList AliasEntry.ofTree?) }

end AliasSet

end RouteConvergence
