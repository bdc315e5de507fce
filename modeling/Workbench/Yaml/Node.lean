import Workbench.Yaml.Token

/-!
# Nodes of a YAML document

The tree that the tokens of a document describe.
-/

namespace Workbench.Yaml

open Text

/-- The tree of a document. -/
inductive Node where
  | scalar (tag : Option String) (implicit : Bool) (text : String) (start : Mark)
  | seq (tag : Option String) (items : List Node) (start : Mark)
  | map (tag : Option String) (entries : List (Node × Node)) (start : Mark)
deriving Inhabited

def Node.start : Node → Mark
  | .scalar _ _ _ m => m
  | .seq _ _ m => m
  | .map _ _ m => m

def Node.kindName : Node → String
  | .scalar _ _ _ _ => "scalar"
  | .seq _ _ _ => "sequence"
  | .map _ _ _ => "mapping"

def standardHandles : List (String × String) := [("!", "!"), ("!!", "tag:yaml.org,2002:")]

/-- What is still to be composed. -/
structure Composer where
  tokens : List Token
  failure : Option Error
  anchors : List (String × Mark × Option Node) := []
  handles : List (String × String) := standardHandles

abbrev Compose := StateT Composer (Except Error)

def nextToken : Compose Token := do
  let s ← get
  match s.tokens, s.failure with
  | t :: _, _ => return t
  | [], some e => throw e
  | [], none => return ⟨.streamEnd, ⟨0, 0, 0⟩, ⟨0, 0, 0⟩⟩

def takeToken : Compose Token := do
  let t ← nextToken
  modify fun s => { s with tokens := s.tokens.drop 1 }
  return t

def refuse {α : Type} (stage : YamlStage) (context : Option (String × Option Mark))
    (problem : String) (mark : Mark) : Compose α := throw ⟨stage, context, problem, some mark⟩

def emptyScalar (m : Mark) : Node := .scalar none true "" m

/-- The anchor and the tag of a node. -/
structure Properties where
  anchor : Option String := none
  tag : Option (Option String × String) := none
  start : Option Mark := none
  tagMark : Option Mark := none

/-- Reads the anchor and the tag before a node, in either order, each at most once. -/
def readProperties : (fuel : Nat) → Properties → Compose Properties
  | 0, p => return p
  | fuel + 1, p => do
    let t ← nextToken
    match t.kind with
    | .anchor name =>
      if p.anchor.isSome then return p
      discard takeToken
      readProperties fuel { p with anchor := some name, start := some (p.start.getD t.start) }
    | .tag handle suffix =>
      if p.tag.isSome then return p
      discard takeToken
      readProperties fuel { p with
        tag := some (handle, suffix)
        start := some (p.start.getD t.start)
        tagMark := some t.start }
    | _ => return p

def expandTag (p : Properties) : Compose (Option String) := do
  match p.tag with
  | none => return none
  | some (none, suffix) => return some suffix
  | some (some handle, suffix) =>
    match (← get).handles.lookup handle with
    | some full => return some (full ++ suffix)
    | none =>
      refuse .parser (some ("while parsing a node", p.start))
        s!"found undefined tag handle {quoted handle}" (p.tagMark.getD default)

def resolveAlias (name : String) (mark : Mark) : Compose Node := do
  match (← get).anchors.lookup name with
  | none => refuse .composer none s!"found undefined alias {quoted name}" mark
  | some (start, none) => refuse .constructor none "found unconstructable recursive node" start
  | some (_, some n) => return n

def openAnchor (anchor : Option String) (start : Mark) : Compose Unit := do
  match anchor with
  | none => return
  | some name =>
    match (← get).anchors.lookup name with
    | some (first, _) =>
      refuse .composer
        (some (s!"found duplicate anchor {quoted name}; first occurrence", some first))
        "second occurrence" start
    | none => modify fun s => { s with anchors := (name, start, none) :: s.anchors }

def closeAnchor (anchor : Option String) (n : Node) : Compose Node := do
  match anchor with
  | none => return n
  | some name =>
    modify fun s => { s with anchors := (name, n.start, some n) :: s.anchors.filter (·.1 != name) }
    return n

def openTag (tag : Option String) : Option String := if tag == some "!" then none else tag

/-- Where a node stands. -/
inductive Place where
  | block
  | blockOrIndentless
  | flow
deriving DecidableEq, Repr

mutual

def composeNode : (fuel : Nat) → Place → Compose Node
  | 0, _ => return emptyScalar default
  | fuel + 1, place => do
    let t ← nextToken
    match t.kind with
    | .alias name =>
      discard takeToken
      resolveAlias name t.start
    | _ =>
      let p ← readProperties 3 {}
      let tag ← expandTag p
      let t ← nextToken
      let start := p.start.getD t.start
      let bare := tag.isNone || tag == some "!"
      match t.kind with
      | .scalar text style =>
        discard takeToken
        let implicit := (style == .plain && tag.isNone) || tag == some "!"
        openAnchor p.anchor start
        closeAnchor p.anchor (.scalar (if bare then none else tag) implicit text start)
      | .flowSequenceStart =>
        openAnchor p.anchor start
        discard takeToken
        closeAnchor p.anchor (.seq (openTag tag) (← composeFlowItems fuel t.start true []) start)
      | .flowMappingStart =>
        openAnchor p.anchor start
        discard takeToken
        closeAnchor p.anchor (.map (openTag tag) (← composeFlowEntries fuel t.start true []) start)
      | kind =>
        if kind == .blockEntry && place == .blockOrIndentless then
          openAnchor p.anchor start
          closeAnchor p.anchor (.seq (openTag tag) (← composeIndentless fuel []) start)
        else if kind == .blockSequenceStart && place != .flow then
          openAnchor p.anchor start
          discard takeToken
          closeAnchor p.anchor (.seq (openTag tag) (← composeBlockItems fuel t.start []) start)
        else if kind == .blockMappingStart && place != .flow then
          openAnchor p.anchor start
          discard takeToken
          closeAnchor p.anchor (.map (openTag tag) (← composeBlockEntries fuel t.start []) start)
        else if p.start.isSome then
          openAnchor p.anchor start
          closeAnchor p.anchor (.scalar (if bare then none else tag) bare "" start)
        else
          refuse .parser
            (some ("while parsing a " ++ (if place == .flow then "flow" else "block") ++
              " node", some start))
            s!"expected the node content, but found {quoted kind.id}" t.start

def composeBlockItems : (fuel : Nat) → (start : Mark) → (acc : List Node) → Compose (List Node)
  | 0, _, acc => return acc
  | fuel + 1, start, acc => do
    let t ← takeToken
    match t.kind with
    | .blockEntry =>
      let n ← nextToken
      if n.kind == .blockEntry || n.kind == .blockEnd then
        composeBlockItems fuel start (acc ++ [emptyScalar t.stop])
      else
        let item ← composeNode fuel .block
        composeBlockItems fuel start (acc ++ [item])
    | .blockEnd => return acc
    | k =>
      refuse .parser (some ("while parsing a block collection", some start))
        s!"expected <block end>, but found {quoted k.id}" t.start

def composeIndentless : (fuel : Nat) → (acc : List Node) → Compose (List Node)
  | 0, acc => return acc
  | fuel + 1, acc => do
    let t ← nextToken
    if t.kind != .blockEntry then return acc
    discard takeToken
    let n ← nextToken
    if n.kind == .blockEntry || n.kind == .key || n.kind == .value || n.kind == .blockEnd then
      composeIndentless fuel (acc ++ [emptyScalar t.stop])
    else
      let item ← composeNode fuel .block
      composeIndentless fuel (acc ++ [item])

def composeBlockEntries :
    (fuel : Nat) → (start : Mark) → (acc : List (Node × Node)) → Compose (List (Node × Node))
  | 0, _, acc => return acc
  | fuel + 1, start, acc => do
    let t ← takeToken
    match t.kind with
    | .key =>
      let n ← nextToken
      let key ← if n.kind == .key || n.kind == .value || n.kind == .blockEnd then
        pure (emptyScalar t.stop)
        else composeNode fuel .blockOrIndentless
      let value ← composeBlockValue fuel
      composeBlockEntries fuel start (acc ++ [(key, value)])
    | .blockEnd => return acc
    | k =>
      refuse .parser (some ("while parsing a block mapping", some start))
        s!"expected <block end>, but found {quoted k.id}" t.start

def composeBlockValue : (fuel : Nat) → Compose Node
  | 0 => return emptyScalar default
  | fuel + 1 => do
    let t ← nextToken
    if t.kind != .value then return emptyScalar t.start
    discard takeToken
    let n ← nextToken
    if n.kind == .key || n.kind == .value || n.kind == .blockEnd then return emptyScalar t.stop
    composeNode fuel .blockOrIndentless

def composeFlowItems :
    (fuel : Nat) → (start : Mark) → (first : Bool) → (acc : List Node) → Compose (List Node)
  | 0, _, _, acc => return acc
  | fuel + 1, start, first, acc => do
    let t ← nextToken
    if t.kind == .flowSequenceEnd then
      discard takeToken
      return acc
    if !first then
      if t.kind != .flowEntry then
        refuse .parser (some ("while parsing a flow sequence", some start))
          s!"expected ',' or ']', but got {quoted t.kind.id}" t.start
      discard takeToken
    let t ← nextToken
    if t.kind == .key then
      discard takeToken
      let n ← nextToken
      let key ← if n.kind == .value || n.kind == .flowEntry || n.kind == .flowSequenceEnd then
          pure (emptyScalar t.stop)
        else composeNode fuel .flow
      let value ← composeFlowValue fuel .flowSequenceEnd
      composeFlowItems fuel start false (acc ++ [.map none [(key, value)] t.start])
    else if t.kind == .flowSequenceEnd then
      discard takeToken
      return acc
    else
      let item ← composeNode fuel .flow
      composeFlowItems fuel start false (acc ++ [item])

def composeFlowEntries :
    (fuel : Nat) → (start : Mark) → (first : Bool) → (acc : List (Node × Node)) →
    Compose (List (Node × Node))
  | 0, _, _, acc => return acc
  | fuel + 1, start, first, acc => do
    let t ← nextToken
    if t.kind == .flowMappingEnd then
      discard takeToken
      return acc
    if !first then
      if t.kind != .flowEntry then
        refuse .parser (some ("while parsing a flow mapping", some start))
          s!"expected ',' or '\x7d', but got {quoted t.kind.id}" t.start
      discard takeToken
    let t ← nextToken
    if t.kind == .key then
      discard takeToken
      let n ← nextToken
      let key ← if n.kind == .value || n.kind == .flowEntry || n.kind == .flowMappingEnd then
          pure (emptyScalar t.stop)
        else composeNode fuel .flow
      let value ← composeFlowValue fuel .flowMappingEnd
      composeFlowEntries fuel start false (acc ++ [(key, value)])
    else if t.kind == .flowMappingEnd then
      discard takeToken
      return acc
    else
      let key ← composeNode fuel .flow
      let n ← nextToken
      composeFlowEntries fuel start false (acc ++ [(key, emptyScalar n.start)])

def composeFlowValue : (fuel : Nat) → (close : Kind) → Compose Node
  | 0, _ => return emptyScalar default
  | fuel + 1, close => do
    let t ← nextToken
    if t.kind != .value then return emptyScalar t.start
    discard takeToken
    let n ← nextToken
    if n.kind == .flowEntry || n.kind == close then return emptyScalar t.stop
    composeNode fuel .flow

end

def skipDocumentEnds : (fuel : Nat) → Compose Unit
  | 0 => return
  | fuel + 1 => do
    if (← nextToken).kind == .documentEnd then
      discard takeToken
      skipDocumentEnds fuel

/-- Takes the directives before a document, which may define handles of tags; `known` are the
handles defined so far and `version` tells whether the version was given. -/
def readDirectives :
    (fuel : Nat) → (version : Bool) → (known : List (String × String)) → Compose Unit
  | 0, _, _ => return
  | fuel + 1, version, known => do
    let t ← nextToken
    match t.kind with
    | .directive d =>
      discard takeToken
      match d with
      | .version major _ =>
        if version then refuse .parser none "found duplicate YAML directive" t.start
        if major != 1 then
          refuse .parser none "found incompatible YAML document (version 1.* is required)" t.start
        readDirectives fuel true known
      | .handle name address =>
        if (known.lookup name).isSome then
          refuse .parser none s!"duplicate tag handle {quoted name}" t.start
        readDirectives fuel version ((name, address) :: known)
      | .other _ => readDirectives fuel version known
    | _ => modify fun s => { s with handles := known ++ standardHandles }

def composeContent (fuel : Nat) : Compose Node := do
  let t ← nextToken
  match t.kind with
  | .directive _ => return emptyScalar t.start
  | .documentStart => return emptyScalar t.start
  | .documentEnd => return emptyScalar t.start
  | .streamEnd => return emptyScalar t.start
  | _ => composeNode fuel .block

def composeExplicit (fuel : Nat) : Compose (Option (Mark × Node)) := do
  skipDocumentEnds fuel
  let t ← nextToken
  if t.kind == .streamEnd then return none
  readDirectives fuel false []
  let s ← nextToken
  if s.kind != .documentStart then
    refuse .parser none s!"expected '<document start>', but found {quoted s.kind.id}" s.start
  discard takeToken
  return some (t.start, ← composeContent fuel)

def composeSingle (fuel : Nat) : Compose (Option Node) := do
  discard takeToken
  let t ← nextToken
  let implicit := match t.kind with
    | .directive _ => false
    | .documentStart => false
    | .streamEnd => false
    | _ => true
  let doc ← if implicit then do pure (some (t.start, ← composeNode fuel .block))
    else composeExplicit fuel
  match doc with
  | none => return none
  | some (_, node) =>
    skipDocumentEnds 1
    modify fun s => { s with anchors := [] }
    skipDocumentEnds fuel
    let t ← nextToken
    if t.kind == .streamEnd then return some node
    readDirectives fuel false []
    let s ← nextToken
    if s.kind != .documentStart then
      refuse .parser none s!"expected '<document start>', but found {quoted s.kind.id}" s.start
    refuse .composer (some ("expected a single document in the stream", some node.start))
      "but found another document" t.start

def compose (text : Chars) : Except Error (Option Node) :=
  let (tokens, failure) := scan text
  ((composeSingle (2 * tokens.length + 4)).run { tokens := tokens, failure := failure }).map (·.1)

end Workbench.Yaml
