/-
RouteConvergence.Source.RouteFile — files of routes in both forms.

A file lists manifests and annotated objects. All are brought to the
normal form, manifests first, and no two may have the same reference. A
file whose name ends in `.json` is read as JSON, any other as YAML.
-/
import RouteConvergence.Source.Annotated
import RouteConvergence.Yaml.Reader

namespace RouteConvergence

open Data (Tree Document)

/-- The routes of a file. -/
structure RouteFile where
  routes : List Manifest
  annotatedRoutes : List AnnotatedRoute
deriving DecidableEq, Inhabited

namespace RouteFile

/-! ## Normal form -/

/-- The first descriptor whose reference is among those seen before. -/
def repeated? (seen : List Reference) : List Descriptor → Option Reference
  | [] => none
  | d :: rest =>
    if d.reference ∈ seen then some d.reference else repeated? (d.reference :: seen) rest

theorem repeated?_eq_none_iff {seen : List Reference} {ds : List Descriptor} :
    repeated? seen ds = none ↔ (ds.map (·.reference)).Nodup ∧ ∀ d ∈ ds, d.reference ∉ seen := by
  induction ds generalizing seen with
  | nil => simp [repeated?]
  | cons d rest ih =>
    rw [repeated?, List.map_cons, List.nodup_cons, List.forall_mem_cons]
    split
    · next hseen => simp [hseen]
    · next hnew =>
      rw [ih]
      simp only [List.mem_cons, not_or, List.mem_map, not_exists, not_and]
      constructor
      · rintro ⟨honce, hrest⟩
        exact ⟨⟨fun e he => (hrest e he).1, honce⟩, hnew, fun e he => (hrest e he).2⟩
      · rintro ⟨⟨hfirst, honce⟩, -, hrest⟩
        exact ⟨honce, fun e he => ⟨hfirst e he, hrest e he⟩⟩

/-- The descriptors of a file in order. -/
def descriptors (f : RouteFile) : Outcome (List Descriptor) := do
  let annotated ← f.annotatedRoutes.mapM AnnotatedRoute.normalize
  let all := f.routes.map Manifest.normalize ++ annotated
  match repeated? [] all with
  | some route => .error (.refused (.routeRepeated route))
  | none => return all

theorem descriptors_eq_ok {f : RouteFile} {ds : List Descriptor} (h : f.descriptors = .ok ds) :
    ∃ annotated, f.annotatedRoutes.mapM AnnotatedRoute.normalize = .ok annotated ∧
      repeated? [] ds = none ∧ f.routes.map Manifest.normalize ++ annotated = ds := by
  obtain ⟨annotated, hannotated, h⟩ := Outcome.bind_eq_ok.1 h
  dsimp only at h
  split at h
  · cases h
  · rename_i hnone
    obtain rfl : f.routes.map Manifest.normalize ++ annotated = ds := Except.ok.inj h
    exact ⟨annotated, hannotated, hnone, rfl⟩

/-! ## Documents -/

def fieldNames : List String := ["routes", "annotatedRoutes"]

def document (f : RouteFile) : Document :=
  .record [
    ("routes", .list (f.routes.map Manifest.document)),
    ("annotatedRoutes", .list (f.annotatedRoutes.map AnnotatedRoute.document))]

/-- Reads a file; it has no fields beyond its own. -/
def ofTree? (t : Tree) : Option RouteFile := do
  let slot ← t.slots fieldNames true
  return {
    routes := ← (slot "routes").orElse [] (Tree.asList Manifest.ofTree?)
    annotatedRoutes := ← (slot "annotatedRoutes").orElse [] (Tree.asList AnnotatedRoute.ofTree?) }

/-- The format of a document as a tree. -/
def treeOf? : DocumentFormat → String → Option Tree
  | .json, text => Json.read? text
  | .yaml, text => Yaml.read? text

/-- Reads a document in a format. -/
def ofText (format : DocumentFormat) (text : String) : Outcome RouteFile :=
  match (treeOf? format text).bind ofTree? with
  | some f => .ok f
  | none => .error (.document format)

/-! ## Files -/

/-- What follows the last dot of a file's name, if something stands before
it. -/
def extension? (path : String) : Option String :=
  let name := match Text.splitLast ['/'] path.toList with
    | some (_, name) => name
    | none => path.toList
  match Text.splitLast ['.'] name with
  | some ([], _) => none
  | some (_, ext) => some (String.ofList ext)
  | none => none

/-- The format of a file. -/
def formatOf (path : String) : DocumentFormat :=
  if extension? path = some "json" then .json else .yaml

/-- Reads a file with the given contents, if it could be read. -/
def load (path : String) : Option String → Outcome RouteFile
  | none => .error (.file (.routes path))
  | some contents => ofText (formatOf path) contents

end RouteFile

end RouteConvergence
