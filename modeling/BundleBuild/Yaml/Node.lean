/-
Nodes of YAML documents: scalars, sequences and mappings with their tags. A node is known by its
number in the document, and an alias is the number of the node it stands for, so a collection may
hold itself. `Document.ofTokens` reads the one document of a text.
-/
import BundleBuild.Entries
import BundleBuild.Yaml.Tag
import BundleBuild.Yaml.Tokens

namespace BundleBuild.Yaml

/-- The number of a node in its document. -/
abbrev NodeId := Nat

abbrev NodeEntries := List (NodeId × NodeId)

inductive Content where
  | scalar (text : Points)
  | seq (items : List NodeId)
  | map (entries : NodeEntries)

structure Node where
  tag : Tag
  content : Content

instance : Inhabited Node := ⟨⟨.null, .scalar []⟩⟩

/-- The nodes of a document, by number. -/
abbrev Nodes := Array Node

/-- What the reader carries along: the nodes read so far, the anchors seen and the tag handles
declared. -/
structure Context where
  nodes : Nodes := #[]
  anchors : Entries NodeId := []
  handles : Entries String := []

namespace Context

/-- Adds a node; its number is that of the nodes before it. -/
def add (ctx : Context) (node : Node) : NodeId × Context :=
  (ctx.nodes.size, { ctx with nodes := ctx.nodes.push node })

/-- Adds the node of a value that is left out. -/
def addAbsent (ctx : Context) : NodeId × Context :=
  ctx.add ⟨.null, .scalar []⟩

/-- Gives a node its content. -/
def fill (ctx : Context) (id : NodeId) (content : Content) : Context :=
  { ctx with nodes := ctx.nodes.modify id fun node => { node with content := content } }

def bind (ctx : Context) (anchor : Option String) (id : NodeId) : Context :=
  match anchor with
  | some a => { ctx with anchors := ctx.anchors.put a id }
  | none => ctx

end Context

/-- What was read, what is carried along, and the tokens behind it. -/
structure Parsed (α : Type) where
  value : α
  context : Context
  rest : List Token

/-- The error where a token does not fit. -/
def unexpected {α : Type} : List Token → Except DocumentError α
  | .failure e :: _ => .error e
  | _ => malformed

/-- A value that is left out here. -/
def absentHere (ctx : Context) (rest : List Token) : Except DocumentError (Parsed NodeId) :=
  let (id, ctx) := ctx.addAbsent
  .ok ⟨id, ctx, rest⟩

/-- The anchor and the tag in front of a node. -/
structure Properties where
  anchor : Option String := none
  tag : Option TagText := none

def readProperties : List Token → Except DocumentError (Properties × List Token)
  | .anchor a :: .tag t :: rest => .ok (⟨some a, some t⟩, rest)
  | .tag t :: .anchor a :: rest => .ok (⟨some a, some t⟩, rest)
  | .anchor _ :: .failure e :: _ => .error e
  | .tag _ :: .failure e :: _ => .error e
  | .anchor a :: rest => .ok (⟨some a, none⟩, rest)
  | .tag t :: rest => .ok (⟨none, some t⟩, rest)
  | ts => .ok ({}, ts)

/-- The full name of a tag; nothing where none is given or only an exclamation mark. -/
def fullTag (ctx : Context) : Option TagText → Except DocumentError (Option String)
  | none => .ok none
  | some ⟨none, suffix⟩ => .ok (some suffix)
  | some ⟨some handle, suffix⟩ =>
    match ctx.handles.get? handle with
    | some start => .ok (some (start ++ suffix))
    | none => malformed

/-- The tag of a node whose tag is given by `name`, or by `look` when it is left open. -/
def settleTag (name : Option String) (look : Tag) : Tag :=
  match name with
  | none => look
  | some "!" => look
  | some n => Tag.ofName n

/-- The tag of a scalar by the look of its text; what is no text proper looks like nothing. -/
def lookOf (text : Points) : Tag :=
  match text.text? with
  | some s => Tag.ofLook s
  | none => .str

/-- The tag of a scalar: quoted ones are texts unless a mark leaves them open. -/
def scalarTag (name : Option String) (plain : Bool) (text : Points) : Tag :=
  match name with
  | none => if plain then lookOf text else .str
  | some "!" => lookOf text
  | some n => Tag.ofName n

/-- An anchor may be given once. -/
def checkAnchor (ctx : Context) : Option String → Except DocumentError Unit
  | some a => if ctx.anchors.names.contains a then malformed else .ok ()
  | none => .ok ()

/-- Where a node stands: in brackets, in a block, or where a sequence need not be indented. -/
inductive Place where
  | flow
  | block
  | loose
  deriving DecidableEq, Repr

/-- Adds a scalar under its anchor. -/
def addScalar (props : Properties) (tag : Tag) (text : Points) (ctx : Context)
    (rest : List Token) : Except DocumentError (Parsed NodeId) := do
  checkAnchor ctx props.anchor
  let (id, ctx) := ctx.add ⟨tag, .scalar text⟩
  return ⟨id, ctx.bind props.anchor id, rest⟩

/-- A node with properties may be empty; without any, something has to stand there. -/
def emptyOr (props : Properties) (name : Option String) (ctx : Context) (rest : List Token) :
    Except DocumentError (Parsed NodeId) :=
  match rest with
  | .failure e :: _ => .error e
  | _ =>
    if props.anchor.isNone && props.tag.isNone then malformed
    else addScalar props (scalarTag name true []) [] ctx rest

/-- Adds a collection under its anchor, which its content may already refer to. -/
def addCollection (props : Properties) (tag : Tag) (ctx : Context)
    (parse : Context → Except DocumentError (Parsed Content)) :
    Except DocumentError (Parsed NodeId) := do
  checkAnchor ctx props.anchor
  let (id, ctx) := ctx.add ⟨tag, .scalar []⟩
  let p ← parse (ctx.bind props.anchor id)
  return ⟨id, p.context.fill id p.value, p.rest⟩

def Parsed.map {α β : Type} (f : α → β) (p : Parsed α) : Parsed β :=
  ⟨f p.value, p.context, p.rest⟩

mutual

/-- A node with its properties. -/
def parseNode : Nat → Place → Context → List Token → Except DocumentError (Parsed NodeId)
  | 0, _, _, _ => malformed
  | _ + 1, _, ctx, .alias name :: rest =>
    match ctx.anchors.get? name with
    | some id => .ok ⟨id, ctx, rest⟩
    | none => malformed
  | fuel + 1, place, ctx, ts => do
    let (props, rest) ← readProperties ts
    let name ← fullTag ctx props.tag
    let seq (parse : Context → Except DocumentError (Parsed (List NodeId))) :=
      addCollection props (settleTag name .seq) ctx fun ctx => (parse ctx).map (·.map .seq)
    let map (parse : Context → Except DocumentError (Parsed NodeEntries)) :=
      addCollection props (settleTag name .map) ctx fun ctx => (parse ctx).map (·.map .map)
    match rest with
    | .blockEntry :: _ =>
      if place = .loose then seq fun ctx => parseLoose fuel ctx rest
      else emptyOr props name ctx rest
    | .scalar text plain :: rest' => addScalar props (scalarTag name plain text) text ctx rest'
    | .flowSequenceStart :: rest' => seq fun ctx => parseFlowSeq fuel true ctx rest'
    | .flowMappingStart :: rest' => map fun ctx => parseFlowMap fuel true ctx rest'
    | .blockSequenceStart :: rest' =>
      if place = .flow then emptyOr props name ctx rest
      else seq fun ctx => parseBlockSeq fuel ctx rest'
    | .blockMappingStart :: rest' =>
      if place = .flow then emptyOr props name ctx rest
      else map fun ctx => parseBlockMap fuel ctx rest'
    | _ => emptyOr props name ctx rest

/-- The entries of an indented sequence. -/
def parseBlockSeq : Nat → Context → List Token → Except DocumentError (Parsed (List NodeId))
  | 0, _, _ => malformed
  | fuel + 1, ctx, .blockEntry :: rest => do
    let p ← match rest with
      | .blockEntry :: _ => absentHere ctx rest
      | .blockEnd :: _ => absentHere ctx rest
      | _ => parseNode fuel .block ctx rest
    let q ← parseBlockSeq fuel p.context p.rest
    return { q with value := p.value :: q.value }
  | _ + 1, ctx, .blockEnd :: rest => .ok ⟨[], ctx, rest⟩
  | _ + 1, _, ts => unexpected ts

/-- The entries of a sequence that is not indented itself. -/
def parseLoose : Nat → Context → List Token → Except DocumentError (Parsed (List NodeId))
  | 0, _, _ => malformed
  | fuel + 1, ctx, .blockEntry :: rest => do
    let p ← match rest with
      | .blockEntry :: _ => absentHere ctx rest
      | .key :: _ => absentHere ctx rest
      | .value :: _ => absentHere ctx rest
      | .blockEnd :: _ => absentHere ctx rest
      | _ => parseNode fuel .block ctx rest
    let q ← parseLoose fuel p.context p.rest
    return { q with value := p.value :: q.value }
  | _ + 1, ctx, ts => .ok ⟨[], ctx, ts⟩

/-- A key or a value of an indented mapping, which may be left out. -/
def parseBlockPart : Nat → Context → List Token → Except DocumentError (Parsed NodeId)
  | 0, _, _ => malformed
  | fuel + 1, ctx, ts =>
    match ts with
    | .key :: _ => absentHere ctx ts
    | .value :: _ => absentHere ctx ts
    | .blockEnd :: _ => absentHere ctx ts
    | _ => parseNode fuel .loose ctx ts

/-- The entries of an indented mapping. -/
def parseBlockMap : Nat → Context → List Token → Except DocumentError (Parsed NodeEntries)
  | 0, _, _ => malformed
  | fuel + 1, ctx, .key :: rest => do
    let k ← parseBlockPart fuel ctx rest
    let v ← match k.rest with
      | .value :: rest' => parseBlockPart fuel k.context rest'
      | _ => absentHere k.context k.rest
    let q ← parseBlockMap fuel v.context v.rest
    return { q with value := (k.value, v.value) :: q.value }
  | _ + 1, ctx, .blockEnd :: rest => .ok ⟨[], ctx, rest⟩
  | _ + 1, _, ts => unexpected ts

/-- A part of an entry in brackets, left out before a comma, a colon or a closing bracket. -/
def parseFlowPart : Nat → Bool → Context → List Token → Except DocumentError (Parsed NodeId)
  | 0, _, _, _ => malformed
  | fuel + 1, isKey, ctx, ts =>
    match ts with
    | .value :: _ => if isKey then absentHere ctx ts else parseNode fuel .flow ctx ts
    | .flowEntry :: _ => absentHere ctx ts
    | .flowSequenceEnd :: _ => absentHere ctx ts
    | .flowMappingEnd :: _ => absentHere ctx ts
    | _ => parseNode fuel .flow ctx ts

/-- A key in brackets and the value behind its colon. -/
def parseFlowPair : Nat → Context → List Token →
    Except DocumentError (Parsed (NodeId × NodeId))
  | 0, _, _ => malformed
  | fuel + 1, ctx, ts => do
    let k ← parseFlowPart fuel true ctx ts
    let v ← match k.rest with
      | .value :: rest => parseFlowPart fuel false k.context rest
      | _ => absentHere k.context k.rest
    return ⟨(k.value, v.value), v.context, v.rest⟩

/-- The entries of a sequence in brackets. -/
def parseFlowSeq : Nat → Bool → Context → List Token →
    Except DocumentError (Parsed (List NodeId))
  | 0, _, _, _ => malformed
  | _ + 1, _, ctx, .flowSequenceEnd :: rest => .ok ⟨[], ctx, rest⟩
  | fuel + 1, first, ctx, ts => do
    let ts ← match first, ts with
      | true, _ => pure ts
      | false, .flowEntry :: rest => pure rest
      | false, _ => unexpected ts
    match ts with
    | .flowSequenceEnd :: rest => return ⟨[], ctx, rest⟩
    | .key :: rest =>
      let p ← addCollection {} .map ctx fun ctx =>
        (parseFlowPair fuel ctx rest).map (·.map fun entry => .map [entry])
      let q ← parseFlowSeq fuel false p.context p.rest
      return { q with value := p.value :: q.value }
    | _ =>
      let p ← parseNode fuel .flow ctx ts
      let q ← parseFlowSeq fuel false p.context p.rest
      return { q with value := p.value :: q.value }

/-- The entries of a mapping in brackets. -/
def parseFlowMap : Nat → Bool → Context → List Token →
    Except DocumentError (Parsed NodeEntries)
  | 0, _, _, _ => malformed
  | _ + 1, _, ctx, .flowMappingEnd :: rest => .ok ⟨[], ctx, rest⟩
  | fuel + 1, first, ctx, ts => do
    let ts ← match first, ts with
      | true, _ => pure ts
      | false, .flowEntry :: rest => pure rest
      | false, _ => unexpected ts
    match ts with
    | .flowMappingEnd :: rest => return ⟨[], ctx, rest⟩
    | .key :: rest =>
      let p ← parseFlowPair fuel ctx rest
      let q ← parseFlowMap fuel false p.context p.rest
      return { q with value := p.value :: q.value }
    | _ =>
      let p ← parseNode fuel .flow ctx ts
      let v ← absentHere p.context p.rest
      let q ← parseFlowMap fuel false v.context v.rest
      return { q with value := (p.value, v.value) :: q.value }

end

/-! ## Documents -/

/-- The nodes of a document and which of them is the top one. -/
structure Document where
  nodes : Nodes
  top : NodeId

def defaultHandles : Entries String :=
  [("!", "!"), ("!!", standardStart)]

/-- The directives of a document: at most one version, which starts with one, and at most one
meaning for a handle. -/
def readDirectives (versioned : Bool) (declared : Entries String) :
    List Token → Except DocumentError (Entries String × List Token)
  | .directive d :: rest =>
    match d with
    | .version major _ =>
      if versioned || major ≠ 1 then malformed else readDirectives true declared rest
    | .tag handle start =>
      if declared.names.contains handle then malformed
      else readDirectives versioned (declared ++ [(handle, start)]) rest
    | .other => readDirectives versioned declared rest
  | ts => .ok (declared, ts)

def withDefaults (declared : Entries String) : Entries String :=
  declared ++ defaultHandles.filter fun (h, _) => !declared.names.contains h

/-- The node of an explicit document, behind its start. -/
def parseContent (handles : Entries String) (ts : List Token) :
    Except DocumentError (Parsed NodeId) :=
  let ctx : Context := { handles := handles }
  match ts with
  | .directive _ :: _ => absentHere ctx ts
  | .documentStart :: _ => absentHere ctx ts
  | .documentEnd :: _ => absentHere ctx ts
  | .streamEnd :: _ => absentHere ctx ts
  | _ => parseNode (4 * ts.length + 8) .block ctx ts

def isDocumentEnd : Token → Bool
  | .documentEnd => true
  | _ => false

/-- Nothing but document ends may follow the one document. -/
def checkEnd (ts : List Token) : Except DocumentError Unit :=
  match ts.dropWhile isDocumentEnd with
  | .streamEnd :: _ => .ok ()
  | rest => do
    let (_, rest) ← readDirectives false [] rest
    unexpected rest

def Document.ofParsed (p : Parsed NodeId) : Except DocumentError Document := do
  checkEnd p.rest
  return ⟨p.context.nodes, p.value⟩

def parseExplicit (ts : List Token) : Except DocumentError Document := do
  let (declared, rest) ← readDirectives false [] ts
  match rest with
  | .documentStart :: rest' => parseContent (withDefaults declared) rest' >>= Document.ofParsed
  | _ => unexpected rest

/-- The only document of a text; nothing when there is none. -/
def Document.ofTokens (ts : List Token) : Except DocumentError (Option Document) :=
  match ts with
  | .streamEnd :: _ => .ok none
  | .directive _ :: _ => (parseExplicit ts).map some
  | .documentStart :: _ => (parseExplicit ts).map some
  | _ => do
    let p ← parseNode (4 * ts.length + 8) .block { handles := defaultHandles } ts
    let d ← Document.ofParsed p
    return some d

end BundleBuild.Yaml
