/-
RouteConvergence.Yaml.Node — nodes of documents.

A node is a scalar, a list or a mapping, and any node can be a key.

* `Node.ofTokens?` — the node at the beginning of tokens.
* `Node.ofDocument?` — the only node of a whole document, if there is a
  document at all.

A mapping in brackets may have keys without values, and a list in brackets
single fields without braces around them. The newer edition also has
values without keys.
-/
import RouteConvergence.Yaml.Token

namespace RouteConvergence.Yaml

/-- A node of a document. -/
inductive Node
  /-- A scalar without quotation marks. -/
  | plain (text : String)
  /-- A scalar in quotation marks. -/
  | quoted (text : String)
  | list (items : List Node)
  | map (fields : List (Node × Node))
deriving Inhabited

namespace Node

/-- The node where there is nothing. -/
def absent : Node := plain ""

/-- Whether one of some tokens comes next. -/
def comes (ts : List Token) (tokens : List Token) : Bool :=
  tokens.head?.any fun t => ts.contains t

mutual

/-- The node at the beginning of tokens, and the tokens behind it. An
indented collection may stand there if `block` says so, and a list at the
indentation of its key if `bare` says so. The number bounds the steps. -/
def ofTokens? (e : Edition) (block bare : Bool) : Nat → List Token → Option (Node × List Token)
  | 0, _ => none
  | n + 1, tokens =>
    match tokens with
    | .plain s :: rest => some (plain s, rest)
    | .quoted s :: rest => some (quoted s, rest)
    | .listOpen :: rest => (flowItems? e true n rest).map fun r => (list r.1, r.2)
    | .mapOpen :: rest => (flowFields? e true n rest).map fun r => (map r.1, r.2)
    | .itemsStart :: rest =>
      if block then (blockItems? e n rest).map fun r => (list r.1, r.2) else none
    | .fieldsStart :: rest =>
      if block then (blockFields? e n rest).map fun r => (map r.1, r.2) else none
    | .item :: _ => if bare then (bareItems? e n tokens).map fun r => (list r.1, r.2) else none
    | _ => none

/-- A node, or nothing before one of some tokens. -/
def orAbsent? (e : Edition) (block bare : Bool) (before : List Token) :
    Nat → List Token → Option (Node × List Token)
  | 0, _ => none
  | n + 1, tokens =>
    if comes before tokens then some (absent, tokens) else ofTokens? e block bare n tokens

/-- The items of an indented list. -/
def blockItems? (e : Edition) : Nat → List Token → Option (List Node × List Token)
  | 0, _ => none
  | n + 1, tokens =>
    match tokens with
    | .blockEnd :: rest => some ([], rest)
    | .item :: rest => do
      let (node, rest) ← orAbsent? e true false [.item, .blockEnd] n rest
      let (nodes, rest) ← blockItems? e n rest
      return (node :: nodes, rest)
    | _ => none

/-- The items of a list at the indentation of its key. -/
def bareItems? (e : Edition) : Nat → List Token → Option (List Node × List Token)
  | 0, _ => none
  | n + 1, tokens =>
    match tokens with
    | .item :: rest => do
      let (node, rest) ← orAbsent? e true false [.item, .key, .value, .blockEnd] n rest
      let (nodes, rest) ← bareItems? e n rest
      return (node :: nodes, rest)
    | _ => some ([], tokens)

/-- The value behind a key of an indented mapping; there may be none. -/
def blockValue? (e : Edition) : Nat → List Token → Option (Node × List Token)
  | 0, _ => none
  | n + 1, tokens =>
    match tokens with
    | .value :: rest => orAbsent? e true true [.key, .value, .blockEnd] n rest
    | _ => some (absent, tokens)

/-- The fields of an indented mapping. -/
def blockFields? (e : Edition) : Nat → List Token → Option (List (Node × Node) × List Token)
  | 0, _ => none
  | n + 1, tokens => do
    match tokens with
    | .blockEnd :: rest => return ([], rest)
    | _ =>
      let (key, rest) ← match tokens with
        | .key :: rest => orAbsent? e true true [.key, .value, .blockEnd] n rest
        | .value :: _ => if e = .newer then some (absent, tokens) else none
        | _ => none
      let (value, rest) ← blockValue? e n rest
      let (fields, rest) ← blockFields? e n rest
      return ((key, value) :: fields, rest)

/-- The value behind a key in brackets, before a comma or the bracket that
closes them; there may be none. -/
def flowValue? (e : Edition) (close : Token) : Nat → List Token → Option (Node × List Token)
  | 0, _ => none
  | n + 1, tokens =>
    match tokens with
    | .value :: rest => orAbsent? e false false [.comma, close] n rest
    | _ => some (absent, tokens)

/-- A field without braces in a list in brackets. Where there is no key,
the token behind its mark does not count. -/
def flowPair? (e : Edition) : Nat → List Token → Option (Node × List Token)
  | 0, _ => none
  | n + 1, tokens => do
    let (key, rest) ←
      if comes [.value, .comma, .listClose] tokens then some (absent, tokens.drop 1)
      else ofTokens? e false false n tokens
    let (value, rest) ← flowValue? e .listClose n rest
    return (map [(key, value)], rest)

/-- The items of a list in brackets. -/
def flowItems? (e : Edition) (first : Bool) : Nat → List Token → Option (List Node × List Token)
  | 0, _ => none
  | n + 1, tokens => do
    match tokens with
    | .listClose :: rest => return ([], rest)
    | _ =>
      let tokens ← if first then some tokens else
        match tokens with
        | .comma :: rest => some rest
        | _ => none
      match tokens with
      | .listClose :: rest => return ([], rest)
      | .key :: rest =>
        let (node, rest) ← flowPair? e n rest
        let (nodes, rest) ← flowItems? e false n rest
        return (node :: nodes, rest)
      | _ =>
        let (node, rest) ← ofTokens? e false false n tokens
        let (nodes, rest) ← flowItems? e false n rest
        return (node :: nodes, rest)

/-- A field of a mapping in braces. -/
def flowField? (e : Edition) : Nat → List Token → Option ((Node × Node) × List Token)
  | 0, _ => none
  | n + 1, tokens => do
    match tokens with
    | .key :: rest =>
      let (key, rest) ← orAbsent? e false false [.value, .comma, .mapClose] n rest
      let (value, rest) ← flowValue? e .mapClose n rest
      return ((key, value), rest)
    | .value :: _ =>
      if e = .newer then
        let (value, rest) ← flowValue? e .mapClose n tokens
        return ((absent, value), rest)
      else none
    | _ =>
      let (key, rest) ← ofTokens? e false false n tokens
      return ((key, absent), rest)

/-- The fields of a mapping in braces. -/
def flowFields? (e : Edition) (first : Bool) :
    Nat → List Token → Option (List (Node × Node) × List Token)
  | 0, _ => none
  | n + 1, tokens => do
    match tokens with
    | .mapClose :: rest => return ([], rest)
    | _ =>
      let tokens ← if first then some tokens else
        match tokens with
        | .comma :: rest => some rest
        | _ => none
      match tokens with
      | .mapClose :: rest => return ([], rest)
      | _ =>
        let (field, rest) ← flowField? e n tokens
        let (fields, rest) ← flowFields? e false n rest
        return (field :: fields, rest)

end

/-! ## Documents -/

/-- The node of a document from the tokens behind its beginning on. -/
def ofContent? (e : Edition) (tokens : List Token) : Option (Node × List Token) :=
  if tokens.isEmpty || comes [.documentStart, .documentEnd] tokens then some (absent, tokens)
  else ofTokens? e true false (4 * tokens.length + 4) tokens

/-- The tokens behind ends of documents. -/
def pastEnds (tokens : List Token) : List Token := tokens.dropWhile (· == .documentEnd)

/-- The node of the only document among tokens; none where there is no
document. -/
def ofDocument? (e : Edition) (tokens : List Token) : Option (Option Node) := do
  match if e = .newer then pastEnds tokens else tokens with
  | [] => return none
  | t :: rest =>
    let (node, behind) ← match t with
      | .documentStart => ofContent? e rest
      | _ => ofTokens? e true false (4 * rest.length + 8) (t :: rest)
    if (pastEnds behind).isEmpty then return some node else none

end Node

end RouteConvergence.Yaml
