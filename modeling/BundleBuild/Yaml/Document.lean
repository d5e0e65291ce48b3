/-
From YAML text to data. Collections are made empty first and filled afterwards, in the order they
were met, so the first error is that of the collection nearest to the top. One node makes one
object, however often it is referred to; data are read off the objects in the end.
-/
import BundleBuild.Yaml.Merge
import BundleBuild.Yaml.Value

namespace BundleBuild.Yaml

/-- A scalar, or a reference to an object. -/
inductive Value where
  | scalar (d : Datum)
  | object (number : Nat)

/-- A collection whose parts may be objects. -/
inductive Object where
  | list (items : List Value)
  | pairs (items : List (Value × Value))
  | map (entries : List (Datum × Value))
  | set (items : List Datum)

/-- The collections tags ask for. -/
inductive Shape where
  | list
  | pairs
  | map
  | set
  deriving DecidableEq, Repr

def Shape.ofTag? : Tag → Option Shape
  | .seq => some .list
  | .omap => some .pairs
  | .pairs => some .pairs
  | .map => some .map
  | .set => some .set
  | _ => none

def Shape.empty : Shape → Object
  | .list => .list []
  | .pairs => .pairs []
  | .map => .map []
  | .set => .set []

/-- What has been made so far. -/
structure Workshop where
  nodes : Nodes
  /-- What each node made already stands for. -/
  made : List (NodeId × Value) := []
  objects : Array Object := #[]
  /-- The objects not yet filled: their shape, number and node. -/
  waiting : List (Shape × Nat × NodeId) := []

abbrev Making := StateT Workshop (Except DocumentError)

def fail {α : Type} (e : DocumentError) : Making α :=
  fun _ => .error e

/-- The text of a node where a scalar is wanted: a mapping stands for what is under its equals
sign. -/
def scalarText (nodes : Nodes) : Nat → NodeId → Except DocumentError Points
  | 0, _ => valueless "RecursionError" "maximum recursion depth exceeded"
  | fuel + 1, id =>
    match (nodes.get id).content with
    | .scalar text => .ok text
    | .seq _ => malformed
    | .map entries =>
      match entries.find? fun (key, _) => nodes.tagOf key = .value with
      | some (_, value) => scalarText nodes fuel value
      | none => malformed

/-- The value of a node where a scalar is wanted. A moment is read off the node itself, which has
to be a scalar then. -/
def scalarDatum (nodes : Nodes) (id : NodeId) : Except DocumentError Datum := do
  let node := nodes.get id
  let text ← scalarText nodes (nodes.size + 1) id
  match node.tag, node.content with
  | .timestamp, .map _ =>
    valueless "TypeError" "expected string or bytes-like object, got 'list'"
  | tag, _ => scalarValue tag text

/-- Whether a tag is that of a scalar. -/
def isScalarTag : Tag → Bool
  | .null | .bool | .int | .float | .binary | .timestamp | .str => true
  | _ => false

/-- What a node stands for. A collection is made empty and waits to be filled. -/
def make (id : NodeId) : Making Value := do
  let w ← get
  match w.made.find? fun (i, _) => i = id with
  | some (_, v) => return v
  | none =>
    let tag := w.nodes.tagOf id
    match Shape.ofTag? tag with
    | some shape =>
      let number := w.objects.size
      set { w with
        made := (id, .object number) :: w.made
        objects := w.objects.push shape.empty
        waiting := w.waiting ++ [(shape, number, id)] }
      return .object number
    | none =>
      if isScalarTag tag then
        match scalarDatum w.nodes id with
        | .ok d =>
          set { w with made := (id, .scalar d) :: w.made }
          return .scalar d
        | .error e => fail e
      else fail .malformed

/-- What a key stands for, which has to be a scalar. -/
def makeKey (id : NodeId) : Making Datum := do
  match ← make id with
  | .scalar d => return d
  | .object _ => fail .malformed

/-- The entries of a mapping; of two with the same key the last counts, in the place of the
first. -/
def makeEntries : NodeEntries → List (Datum × Value) → Making (List (Datum × Value))
  | [], entries => return entries
  | (k, v) :: rest, entries => do
    let key ← makeKey k
    let value ← make v
    makeEntries rest (Datum.putKey key value entries)

/-- A mapping with its merges carried out. -/
def makeMapping (id : NodeId) : Making (List (Datum × Value)) := do
  let w ← get
  match (w.nodes.get id).content with
  | .map _ =>
    match w.nodes.merge id with
    | .ok nodes =>
      set { w with nodes := nodes }
      makeEntries (nodes.entriesOf id) []
    | .error e => fail e
  | _ => fail .malformed

def itemsOf (id : NodeId) : Making (List NodeId) := do
  let w ← get
  match (w.nodes.get id).content with
  | .seq items => return items
  | _ => fail .malformed

/-- A mapping of one entry, as a pair. -/
def makePair (id : NodeId) : Making (Value × Value) := do
  let w ← get
  match (w.nodes.get id).content with
  | .map [(k, v)] =>
    let key ← make k
    let value ← make v
    return (key, value)
  | _ => fail .malformed

/-- The object of a shape that a node asks for. -/
def fillShape (id : NodeId) : Shape → Making Object
  | .list => do
    let items ← itemsOf id
    return .list (← items.mapM make)
  | .pairs => do
    let items ← itemsOf id
    return .pairs (← items.mapM makePair)
  | .map => do
    let entries ← makeMapping id
    return .map entries
  | .set => do
    let entries ← makeMapping id
    return .set (entries.map (·.1))

/-- Fills the objects that wait, the first ones first. No node makes more than one, so their
number bounds the rounds. -/
def fillAll : Nat → Making Unit
  | 0 => return ()
  | fuel + 1 => do
    let w ← get
    match w.waiting with
    | [] => return ()
    | (shape, number, id) :: rest =>
      set { w with waiting := rest }
      let object ← fillShape id shape
      modify fun w => { w with objects := w.objects.setIfInBounds number object }
      fillAll fuel

/-! ## Data -/

/-- The datum of a value, given those of the objects. -/
def Value.datum (objects : Array Datum) : Value → Datum
  | .scalar d => d
  | .object i => objects[i]?.getD .null

/-- The datum of an object, given those of the objects in it. -/
def Object.datum (objects : Array Datum) : Object → Datum
  | .list items => .list (items.map (Value.datum objects))
  | .pairs items => .list (items.map fun (k, v) =>
      .tuple [k.datum objects, v.datum objects])
  | .map entries => .map (entries.map fun (k, v) => (k, v.datum objects))
  | .set items => .set items

/-- The data of the objects, seen to a depth. An object that holds itself goes on to that depth
and no further; one that does not is complete when the depth is the number of objects. -/
def dataOf (objects : Array Object) : Nat → Array Datum
  | 0 => objects.map fun _ => .null
  | depth + 1 =>
    let inner := dataOf objects depth
    objects.map (Object.datum inner)

/-- How much deeper than its objects a document that holds itself is seen; no record looks as far
as that. -/
def extraDepth : Nat := 8

def Document.datum (d : Document) : Except DocumentError Datum := do
  let start : Workshop := { nodes := d.nodes }
  let (top, w) ← (do
    let top ← make d.top
    fillAll (d.nodes.size + 1)
    return top : Making Value) start
  return top.datum (dataOf w.objects (w.objects.size + extraDepth))

/-- The datum of a text; an empty document is null. -/
def readDocument (s : String) : Except DocumentError Datum := do
  match ← Document.ofTokens (tokensOf s) with
  | none => return .null
  | some d => d.datum

end BundleBuild.Yaml
