/-
Merging: a mapping with a merge key takes the entries of other mappings in front of its own. The
merge key is gone before the mappings it names are merged themselves, so mappings may merge each
other in a circle.
-/
import BundleBuild.Yaml.Node

namespace BundleBuild.Yaml

namespace Nodes

def get (nodes : Nodes) (id : NodeId) : Node :=
  nodes[id]?.getD default

def tagOf (nodes : Nodes) (id : NodeId) : Tag :=
  (nodes.get id).tag

/-- The entries of a mapping; none of a node that is no mapping. -/
def entriesOf (nodes : Nodes) (id : NodeId) : NodeEntries :=
  match (nodes.get id).content with
  | .map entries => entries
  | _ => []

def setEntries (nodes : Nodes) (id : NodeId) (entries : NodeEntries) : Nodes :=
  nodes.modify id fun node => { node with content := .map entries }

/-- A key with an equals sign is a text from now on. -/
def settleKey (nodes : Nodes) (key : NodeId) : Nodes :=
  if nodes.tagOf key = .value then nodes.modify key fun node => { node with tag := .str } else nodes

/-- How many entries all mappings have together. -/
def entryCount (nodes : Nodes) : Nat :=
  nodes.foldl (fun n node => match node.content with
    | .map entries => n + entries.length
    | _ => n) 0

end Nodes

/-- Merges the given mappings one after another, and the entries of all, the last ones first. -/
def mergeEach (merge : NodeId → Nodes → Except DocumentError Nodes) :
    List NodeId → Nodes → Except DocumentError (NodeEntries × Nodes)
  | [], nodes => .ok ([], nodes)
  | id :: rest, nodes =>
    match (nodes.get id).content with
    | .map _ => do
      let nodes ← merge id nodes
      let own := nodes.entriesOf id
      let (others, nodes) ← mergeEach merge rest nodes
      return (others ++ own, nodes)
    | _ => malformed

/-- Carries out the merges of a mapping; `taken` are the entries taken so far. Every round removes
one merge key, so `fuel` need not exceed the number of entries by more than one. -/
def mergeFrom : Nat → NodeEntries → NodeId → Nodes → Except DocumentError Nodes
  | 0, _, _, _ => malformed
  | fuel + 1, taken, id, nodes =>
    let entries := nodes.entriesOf id
    match entries.findIdx? fun (key, _) => nodes.tagOf key = .merge with
    | none =>
      let nodes := entries.foldl (fun nodes (key, _) => nodes.settleKey key) nodes
      .ok (if taken.isEmpty then nodes else nodes.setEntries id (taken ++ entries))
    | some i => do
      let source := (entries[i]?.map (·.2)).getD id
      let nodes := nodes.setEntries id (entries.eraseIdx i)
      let (more, nodes) ← match (nodes.get source).content with
        | .map _ => mergeEach (mergeFrom fuel []) [source] nodes
        | .seq items => mergeEach (mergeFrom fuel []) items nodes
        | .scalar _ => malformed
      mergeFrom fuel (taken ++ more) id nodes

/-- The nodes with the merges of a mapping carried out. -/
def Nodes.merge (nodes : Nodes) (id : NodeId) : Except DocumentError Nodes :=
  mergeFrom (nodes.entryCount + 2) [] id nodes

end BundleBuild.Yaml
