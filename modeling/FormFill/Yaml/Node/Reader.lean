import FormFill.Table
import FormFill.Yaml.Node
import FormFill.Yaml.Token

/-!
# Reading nodes

The tokens of a document make up its nodes. A node with an anchor can be repeated from its beginning
on; an anchor must not be set twice. Where a node may be missing, an empty scalar takes its place.
-/

namespace FormFill.Yaml

/-- The tokens that are left. -/
abbrev Rest := List Token

/-- The fault of a place where the next token does not fit. -/
def unexpected : Rest → Fault
  | .fault fault :: _ => fault
  | _ => .malformed

/-- What has been read so far: the nodes, the numbers of those with an anchor, and what the handles of
tags stand for. -/
structure Draft where
  graph : Graph := #[]
  anchors : Table Nat := []
  handles : Table Text := []

/-- The result of reading a node: its number, the draft and the tokens left. -/
abbrev Reading := Except Fault (Nat × Draft × Rest)

namespace Draft

/-- The handles that need no directive. -/
def standardHandles : Table Text := [(['!'], ['!']), (['!', '!'], Tag.standard)]

/-- Adds a node, under an anchor if there is one. -/
def add (draft : Draft) (anchor : Option Text) (node : Node) : Except Fault (Nat × Draft) :=
  let id := draft.graph.size
  let added := { draft with graph := draft.graph.push node }
  match anchor with
  | none => .ok (id, added)
  | some name =>
    if (draft.anchors.get? name).isSome then .error .malformed
    else .ok (id, { added with anchors := added.anchors.set name id })

/-- Adds a node without an anchor. -/
def addPlain (draft : Draft) (node : Node) : Nat × Draft :=
  (draft.graph.size, { draft with graph := draft.graph.push node })

/-- Adds the empty scalar that takes the place of a missing node. -/
def addMissing (draft : Draft) : Nat × Draft :=
  draft.addPlain ⟨Tag.ofPlain [], .scalar []⟩

/-- Gives a node its content. -/
def fill (draft : Draft) (id : Nat) (content : Content) : Draft :=
  { draft with graph := draft.graph.fill id content }

/-- The text of a written tag. -/
def tagText (draft : Draft) (tag : WrittenTag) : Except Fault Text :=
  match tag.handle with
  | none => .ok tag.suffix
  | some handle =>
    match draft.handles.get? handle with
    | some beginning => .ok (beginning ++ tag.suffix)
    | none => .error .malformed

end Draft

/-- The anchor and the tag in front of a node. -/
structure Properties where
  anchor : Option Text := none
  tag : Option Text := none

namespace Properties

/-- Reads the anchor and the tag in front of a node, in either order. -/
def read (draft : Draft) : Rest → Except Fault (Properties × Rest)
  | .anchor name :: .tag tag :: rest => do pure (⟨some name, some (← draft.tagText tag)⟩, rest)
  | .tag tag :: .anchor name :: rest => do pure (⟨some name, some (← draft.tagText tag)⟩, rest)
  | .tag _ :: .fault fault :: _ => .error fault
  | .anchor name :: rest => .ok (⟨some name, none⟩, rest)
  | .tag tag :: rest => do pure (⟨none, some (← draft.tagText tag)⟩, rest)
  | rest => .ok ({}, rest)

/-- The tag of a collection, which is that of its shape unless another is written. -/
def collectionTag (properties : Properties) (shape : Tag) : Tag :=
  match properties.tag with
  | none | some ['!'] => shape
  | some text => Tag.ofText text

/-- The tag of a scalar. The tag `!` asks for the tag of the look even of a scalar in quotes. -/
def scalarTag (properties : Properties) (text : Text) (plain : Bool) : Tag :=
  match properties.tag with
  | none => if plain then Tag.ofPlain text else .text
  | some ['!'] => Tag.ofPlain text
  | some tag => Tag.ofText tag

end Properties

/-- Whether the next token is one of those after which a node is missing. -/
def missesNode (ends : List Token) (rest : Rest) : Bool := rest.head?.any ends.contains

/-- The tokens that end an item of a block sequence. -/
def itemEnds : List Token := [.blockEntry, .blockEnd]

/-- The tokens that end an item of a block sequence without an indentation of its own. -/
def looseItemEnds : List Token := [.blockEntry, .key, .value, .blockEnd]

/-- The tokens that end a part of a block mapping. -/
def entryEnds : List Token := [.key, .value, .blockEnd]

mutual

/-- Reads a node. Inside block collections block collections are allowed, and in some places the items
of a sequence may stand without an indentation of their own. -/
def readNode : (fuel : Nat) → (block loose : Bool) → Draft → Rest → Reading
  | 0, _, _, _, rest => .error (unexpected rest)
  | fuel + 1, block, loose, draft, rest =>
    match rest with
    | .alias name :: rest =>
      match draft.anchors.get? name with
      | some id => .ok (id, draft, rest)
      | none => .error .malformed
    | rest => do
      let (properties, rest) ← Properties.read draft rest
      match rest with
      | .scalar text plain :: rest =>
        let (id, draft) ← draft.add properties.anchor
          ⟨properties.scalarTag text plain, .scalar text⟩
        pure (id, draft, rest)
      | .flowSequenceStart :: rest =>
        let (id, draft) ← draft.add properties.anchor
          ⟨properties.collectionTag .sequence, .sequence []⟩
        flowItems fuel id true [] draft rest
      | .flowMappingStart :: rest =>
        let (id, draft) ← draft.add properties.anchor
          ⟨properties.collectionTag .mapping, .mapping []⟩
        flowEntries fuel id true [] draft rest
      | .blockEntry :: _ =>
        if loose then
          let (id, draft) ← draft.add properties.anchor
            ⟨properties.collectionTag .sequence, .sequence []⟩
          looseItems fuel id [] draft rest
        else absentNode properties draft rest
      | .blockSequenceStart :: inside =>
        if block then
          let (id, draft) ← draft.add properties.anchor
            ⟨properties.collectionTag .sequence, .sequence []⟩
          blockItems fuel id [] draft inside
        else absentNode properties draft rest
      | .blockMappingStart :: inside =>
        if block then
          let (id, draft) ← draft.add properties.anchor
            ⟨properties.collectionTag .mapping, .mapping []⟩
          blockEntries fuel id [] draft inside
        else absentNode properties draft rest
      | rest => absentNode properties draft rest

/-- The node of properties that nothing follows: an empty scalar, if there are any. -/
def absentNode (properties : Properties) (draft : Draft) (rest : Rest) : Reading := do
  if let .fault fault :: _ := rest then throw fault
  if properties.anchor.isNone && properties.tag.isNone then throw .malformed
  let (id, draft) ← draft.add properties.anchor ⟨properties.scalarTag [] true, .scalar []⟩
  pure (id, draft, rest)

/-- Reads a node, unless it is missing. -/
def readOptional : (fuel : Nat) → (block loose : Bool) → (ends : List Token) → Draft → Rest → Reading
  | 0, _, _, _, _, rest => .error (unexpected rest)
  | fuel + 1, block, loose, ends, draft, rest =>
    if missesNode ends rest then
      let (id, draft) := draft.addMissing
      .ok (id, draft, rest)
    else readNode fuel block loose draft rest

/-- Reads the value after a key, if there is one. -/
def readValue : (fuel : Nat) → (block : Bool) → (ends : List Token) → Draft → Rest → Reading
  | 0, _, _, _, rest => .error (unexpected rest)
  | fuel + 1, block, ends, draft, rest =>
    match rest with
    | .value :: rest => readOptional fuel block block ends draft rest
    | rest =>
      let (id, draft) := draft.addMissing
      .ok (id, draft, rest)

/-- Reads the items of a block sequence; `done` holds those read so far, from the end. -/
def blockItems : (fuel : Nat) → (id : Nat) → (done : List Nat) → Draft → Rest → Reading
  | 0, _, _, _, rest => .error (unexpected rest)
  | fuel + 1, id, done, draft, rest =>
    match rest with
    | .blockEntry :: rest => do
      let (item, draft, rest) ← readOptional fuel true false itemEnds draft rest
      blockItems fuel id (item :: done) draft rest
    | .blockEnd :: rest => .ok (id, draft.fill id (.sequence done.reverse), rest)
    | rest => .error (unexpected rest)

/-- Reads the items of a sequence without an indentation of its own. -/
def looseItems : (fuel : Nat) → (id : Nat) → (done : List Nat) → Draft → Rest → Reading
  | 0, _, _, _, rest => .error (unexpected rest)
  | fuel + 1, id, done, draft, rest =>
    match rest with
    | .blockEntry :: rest => do
      let (item, draft, rest) ← readOptional fuel true false looseItemEnds draft rest
      looseItems fuel id (item :: done) draft rest
    | rest => .ok (id, draft.fill id (.sequence done.reverse), rest)

/-- Reads the entries of a block mapping. -/
def blockEntries : (fuel : Nat) → (id : Nat) → (done : List (Nat × Nat)) → Draft → Rest → Reading
  | 0, _, _, _, rest => .error (unexpected rest)
  | fuel + 1, id, done, draft, rest =>
    match rest with
    | .key :: rest => do
      let (key, draft, rest) ← readOptional fuel true true entryEnds draft rest
      let (value, draft, rest) ← readValue fuel true entryEnds draft rest
      blockEntries fuel id ((key, value) :: done) draft rest
    | .blockEnd :: rest => .ok (id, draft.fill id (.mapping done.reverse), rest)
    | rest => .error (unexpected rest)

/-- Reads the items of a flow sequence. An item may be a single entry of a mapping. -/
def flowItems : (fuel : Nat) → (id : Nat) → (first : Bool) → (done : List Nat) → Draft → Rest → Reading
  | 0, _, _, _, _, rest => .error (unexpected rest)
  | fuel + 1, id, first, done, draft, rest =>
    match rest with
    | .flowSequenceEnd :: rest => .ok (id, draft.fill id (.sequence done.reverse), rest)
    | rest => do
      let rest ← match first, rest with
        | true, rest => pure rest
        | false, .flowEntry :: rest => pure rest
        | false, rest => throw (unexpected rest)
      match rest with
      | .key :: rest =>
        let (pair, draft) := draft.addPlain ⟨.mapping, .mapping []⟩
        let (key, draft, rest) ←
          readOptional fuel false false [.value, .flowEntry, .flowSequenceEnd] draft rest
        let (value, draft, rest) ←
          readValue fuel false [.flowEntry, .flowSequenceEnd] draft rest
        flowItems fuel id false (pair :: done) (draft.fill pair (.mapping [(key, value)])) rest
      | .flowSequenceEnd :: rest =>
        pure (id, draft.fill id (.sequence done.reverse), rest)
      | rest =>
        let (item, draft, rest) ← readNode fuel false false draft rest
        flowItems fuel id false (item :: done) draft rest

/-- Reads the entries of a flow mapping. An entry may be a key alone. -/
def flowEntries : (fuel : Nat) → (id : Nat) → (first : Bool) → (done : List (Nat × Nat)) → Draft →
    Rest → Reading
  | 0, _, _, _, _, rest => .error (unexpected rest)
  | fuel + 1, id, first, done, draft, rest =>
    match rest with
    | .flowMappingEnd :: rest => .ok (id, draft.fill id (.mapping done.reverse), rest)
    | rest => do
      let rest ← match first, rest with
        | true, rest => pure rest
        | false, .flowEntry :: rest => pure rest
        | false, rest => throw (unexpected rest)
      match rest with
      | .key :: rest =>
        let (key, draft, rest) ←
          readOptional fuel false false [.value, .flowEntry, .flowMappingEnd] draft rest
        let (value, draft, rest) ←
          readValue fuel false [.flowEntry, .flowMappingEnd] draft rest
        flowEntries fuel id false ((key, value) :: done) draft rest
      | .flowMappingEnd :: rest =>
        pure (id, draft.fill id (.mapping done.reverse), rest)
      | rest =>
        let (key, draft, rest) ← readNode fuel false false draft rest
        let (value, draft) := draft.addMissing
        flowEntries fuel id false ((key, value) :: done) draft rest

end

namespace Document

/-- Reads the directives in front of a document; `version` says whether one gave the version. -/
def directives (version : Bool) (handles : Table Text) : Rest → Except Fault (Table Text × Rest)
  | .directive (.version major) :: rest =>
    if version || major != 1 then .error .malformed else directives true handles rest
  | .directive (.handle handle beginning) :: rest =>
    if (handles.get? handle).isSome then .error .malformed
    else directives version (handles.set handle beginning) rest
  | .directive .other :: rest => directives version handles rest
  | rest => .ok (handles ++ Draft.standardHandles, rest)

/-- Whether a document has no node in front of these tokens. -/
def isEmptyBefore : Rest → Bool
  | .directive _ :: _ | .documentStart :: _ | .documentEnd :: _ | .streamEnd :: _ => true
  | _ => false

/-- The document of a node, if nothing follows it. A further document is one too many as soon as its
beginning is read. -/
def finish (root : Nat) (draft : Draft) (rest : Rest) : Except Fault Document := do
  match rest.dropWhile (· == .documentEnd) with
  | .streamEnd :: _ => pure ⟨draft.graph, root⟩
  | rest =>
    let (_, rest) ← directives false [] rest
    throw (unexpected rest)

/-- Reads the document that a text consists of, if there is one. -/
def ofTokens (tokens : List Token) : Except Fault (Option Document) :=
  let fuel := 4 * tokens.length + 8
  match tokens with
  | .streamEnd :: _ => .ok none
  | .directive _ :: _ | .documentStart :: _ => do
    let (handles, rest) ← directives false [] tokens
    match rest with
    | .documentStart :: rest =>
      let draft : Draft := { handles }
      if isEmptyBefore rest then
        let (id, draft) := draft.addMissing
        pure (some (← finish id draft rest))
      else
        let (id, draft, rest) ← readNode fuel true false draft rest
        pure (some (← finish id draft rest))
    | rest => throw (unexpected rest)
  | tokens => do
    let (id, draft, rest) ← readNode fuel true false { handles := Draft.standardHandles } tokens
    pure (some (← finish id draft rest))

end Document

end FormFill.Yaml
