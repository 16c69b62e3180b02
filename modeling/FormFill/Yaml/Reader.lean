import FormFill.Datum
import FormFill.Yaml.Binary
import FormFill.Yaml.Node.Reader
import FormFill.Yaml.Token.Reader

/-!
# Reading configuration documents

A document denotes a datum. Its nodes are looked at level by level, and the first one that denotes
nothing decides the fault. Keys that merge other mappings are resolved first: what they bring comes
before the entries of the mapping itself, so that these prevail.
-/

namespace FormFill.Yaml

namespace Graph

/-- The text of a node that has to be a scalar. A mapping stands for the value of its default key. Default
keys that lead through more nodes than there are lead on without end. -/
def scalarText (graph : Graph) : (fuel : Nat) → (id : Nat) → Except Fault Text
  | 0, _ => .error .endlessText
  | fuel + 1, id =>
    match graph.contentOf id with
    | .scalar text => .ok text
    | .mapping entries =>
      match entries.find? fun entry => graph.tagOf entry.1 == .defaultKey with
      | some (_, value) => graph.scalarText fuel value
      | none => .error .malformed
    | .sequence _ => .error .malformed

/-- The truth value that a word denotes. -/
def bool? (text : Text) : Option Bool :=
  match String.ofList (Text.lowered text) with
  | "yes" | "true" | "on" => some true
  | "no" | "false" | "off" => some false
  | _ => none

/-- The moment that a text denotes. -/
def moment (text : Text) : Except Fault Moment :=
  match Moment.read? (Tag.withoutLineFeed text) with
  | none => .error .notAMoment
  | some (moment, _) =>
    match moment.fault? with
    | some fault => .error (.impossibleMoment fault)
    | none => .ok moment

/-- The datum of a node with the tag of a scalar. -/
def scalarDatum (graph : Graph) (id : Nat) : Except Fault Datum := do
  let scalar := graph.scalarText (graph.size + 1) id
  match graph.tagOf id with
  | .null => do
    let _ ← scalar
    pure .null
  | .bool => do
    let text ← scalar
    match bool? text with
    | some value => pure (.bool value)
    | none => throw (.notABool (Text.lowered text))
  | .integer => do pure (.integer (← Number.integer (← scalar)))
  | .real => do pure (.real (← Number.real (← scalar)))
  | .binary => do
    match Binary.read? (← scalar) with
    | some bytes => pure (.bytes bytes)
    | none => throw .malformed
  | .moment => do
    let text ← scalar
    if let .mapping _ := graph.contentOf id then throw .notAText
    pure (.moment (← moment text))
  | .text => do pure (.text (← scalar))
  | _ => throw .malformed

/-! ## Merging -/

/-- The entries of a mapping from a position on, up to its next merging key. -/
def entriesToMerge (graph : Graph) (id position : Nat) : List (Nat × Nat) :=
  ((graph.entriesOf id).drop position).takeWhile fun entry => graph.tagOf entry.1 != .merge

/-- Passes over entries without merging keys. Default keys among theirs are texts from then on. -/
def passOver (graph : Graph) (entries : List (Nat × Nat)) : Graph :=
  entries.foldl (fun graph entry =>
    if graph.tagOf entry.1 == .defaultKey then graph.retag entry.1 .text else graph) graph

mutual

/-- Resolves the merging keys of a mapping from an entry on; `merged` holds the entries that they have
brought so far. Each step takes a merging key out for good, or goes on to an item of its value. -/
def mergeFrom : (fuel : Nat) → (id position : Nat) → (merged : List (Nat × Nat)) → Graph →
    Except Fault Graph
  | 0, _, _, _, graph => .ok graph
  | fuel + 1, id, position, merged, graph =>
    let entries := graph.entriesOf id
    let passed := graph.entriesToMerge id position
    let graph := graph.passOver passed
    let position := position + passed.length
    match entries[position]? with
    | none => .ok (graph.fill id (.mapping (merged ++ entries)))
    | some (_, value) => do
      let graph := graph.fill id (.mapping (entries.eraseIdx position))
      let (brought, graph) ← match graph.contentOf value with
        | .mapping _ => do
          let graph ← mergeFrom fuel value 0 [] graph
          pure (graph.entriesOf value, graph)
        | .sequence items => mergeAll fuel items [] graph
        | .scalar _ => throw .malformed
      mergeFrom fuel id position (merged ++ brought) graph

/-- Resolves the merging keys of several mappings; the entries of the last one come first. -/
def mergeAll : (fuel : Nat) → (items : List Nat) → (brought : List (Nat × Nat)) → Graph →
    Except Fault (List (Nat × Nat) × Graph)
  | 0, _, brought, graph => .ok (brought, graph)
  | _, [], brought, graph => .ok (brought, graph)
  | fuel + 1, item :: rest, brought, graph =>
    match graph.contentOf item with
    | .mapping _ => do
      let graph ← mergeFrom fuel item 0 [] graph
      mergeAll fuel rest (graph.entriesOf item ++ brought) graph
    | _ => .error .malformed

end

/-- The number of entries and items in a graph. -/
def weight (graph : Graph) : Nat :=
  graph.foldl (fun sum node => sum + match node.content with
    | .scalar _ => 1
    | .sequence items => items.length + 1
    | .mapping entries => entries.length + 1) 0

/-- Resolves the merging keys of a mapping. There are no more merging keys than the graph has entries, and no
value has more items than the graph. -/
def merge (graph : Graph) (id : Nat) : Except Fault Graph :=
  mergeFrom ((graph.weight + 1) * (graph.weight + 1)) id 0 [] graph

/-! ## Checking level by level -/

/-- The nodes whose turn has come or will come. -/
structure Visit where
  graph : Graph
  seen : List Nat := []
  /-- The collections that wait for their turn, from the end. -/
  waiting : List Nat := []

/-- Comes to a node: a scalar has to denote a datum, and a collection waits for its turn. -/
def reach (visit : Visit) (id : Nat) : Except Fault Visit :=
  if visit.seen.contains id then .ok visit
  else if (visit.graph.tagOf id).isCollection then
    .ok { visit with seen := id :: visit.seen, waiting := id :: visit.waiting }
  else do
    let _ ← visit.graph.scalarDatum id
    pure { visit with seen := id :: visit.seen }

/-- Comes to the key and the value of each entry. A collection is no key. -/
def reachEntries (entries : List (Nat × Nat)) (visit : Visit) : Except Fault Visit :=
  entries.foldlM (fun visit entry => do
    let visit ← reach visit entry.1
    if (visit.graph.tagOf entry.1).isCollection then throw .malformed
    reach visit entry.2) visit

/-- The single entry of an item of an ordered mapping. -/
def singleEntry (graph : Graph) (item : Nat) : Except Fault (Nat × Nat) :=
  match graph.contentOf item with
  | .mapping [entry] => .ok entry
  | _ => .error .malformed

/-- Comes to the members of a collection. -/
def expand (visit : Visit) (id : Nat) : Except Fault Visit :=
  match visit.graph.tagOf id, visit.graph.contentOf id with
  | .sequence, .sequence items => items.foldlM reach visit
  | .orderedMap, .sequence items | .pairs, .sequence items =>
    items.foldlM (fun visit item => do
      let (key, value) ← singleEntry visit.graph item
      let visit ← reach visit key
      reach visit value) visit
  | .mapping, .mapping _ | .set, .mapping _ => do
    let graph ← visit.graph.merge id
    reachEntries (graph.entriesOf id) { visit with graph }
  | _, _ => .error .malformed

/-- Expands the collections of one level. -/
def expandLevel (level : List Nat) (visit : Visit) : Except Fault Visit :=
  level.foldlM expand visit

/-- Expands the collections level by level; there are at most as many levels as nodes. -/
def expandAll : (fuel : Nat) → Visit → Except Fault Visit
  | 0, visit => .ok visit
  | fuel + 1, visit =>
    match visit.waiting with
    | [] => .ok visit
    | level => do expandAll fuel (← expandLevel level.reverse { visit with waiting := [] })

/-! ## The datum of a node -/

/-- A key: its node and its datum. -/
abbrev Key := Nat × Datum

/-- Whether a node denotes the one value that is not a number and that equals itself. -/
def isOwnNotANumber (graph : Graph) (id : Nat) : Bool :=
  graph.tagOf id == .real &&
    match graph.scalarText (graph.size + 1) id with
    | .ok text => Number.isNotANumber text
    | .error _ => false

/-- Whether two keys are the same. A value that is not a number is the same key only if it comes from the
same node or is the one that equals itself. -/
def isSameKey (graph : Graph) (a b : Key) : Bool :=
  a.1 == b.1 || a.2.sameKey b.2 || (graph.isOwnNotANumber a.1 && graph.isOwnNotANumber b.1)

/-- Sets an entry; a key that is present keeps its place. -/
def setEntry (graph : Graph) (key : Key) (value : Datum) : List (Key × Datum) → List (Key × Datum)
  | [] => [(key, value)]
  | (other, old) :: rest =>
    if graph.isSameKey other key then (other, value) :: rest
    else (other, old) :: graph.setEntry key value rest

/-- The datum of a node as far down as the given depth; collections below it are shown as empty. -/
def datum (graph : Graph) : (depth : Nat) → (id : Nat) → Except Fault Datum
  | depth, id =>
    match graph.tagOf id, graph.contentOf id, depth with
    | .sequence, .sequence items, depth + 1 => do pure (.list (← items.mapM (graph.datum depth)))
    | .orderedMap, .sequence items, _ | .pairs, .sequence items, _ =>
      .ok (.list (items.map fun _ => .list []))
    | .set, .mapping entries, depth + 1 => do
      let keys ← entries.mapM fun entry => do pure (entry.1, ← graph.datum depth entry.1)
      let kept := keys.foldl (fun kept key => graph.setEntry key .null kept) []
      pure (.list (kept.map (·.1.2)))
    | .mapping, .mapping entries, depth + 1 => do
      let data ← entries.mapM fun entry => do
        pure ((entry.1, ← graph.datum depth entry.1), (← graph.datum depth entry.2))
      let kept := data.foldl (fun kept entry => graph.setEntry entry.1 entry.2 kept) []
      pure (.mapping (kept.map fun entry => (entry.1.2, entry.2)))
    | tag, _, _ => if tag.isCollection then .ok (.list []) else graph.scalarDatum id

end Graph

/-- The depth to which the data of a configuration are looked at. -/
def datumDepth : Nat := 3

/-- Reads the datum that a text denotes; an empty text denotes none. -/
def read (text : Text) : Except Fault Datum := do
  match ← Document.ofTokens (Token.all text) with
  | none => pure .null
  | some document =>
    let start ← Graph.reach { graph := document.graph } document.root
    let visit ← Graph.expandAll (document.graph.size + 1) start
    visit.graph.datum datumDepth document.root

end FormFill.Yaml
