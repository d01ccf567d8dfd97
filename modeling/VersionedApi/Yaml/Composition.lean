import VersionedApi.Yaml.Node

/-!
# Putting nodes together

The grammar of YAML on tokens: documents with their directives, block and flow
collections, and single nodes with an anchor and a tag.
-/

namespace VersionedApi.Yaml

open VersionedApi.Source

/-- The tokens that are left, and what has been agreed on in the document so far. -/
structure Feed where
  tokens : List Token
  /-- The fault behind the last token. -/
  fault : Option Fault
  /-- The numbers of the anchors; a name that is used again gets a further number. -/
  anchors : List (String × Nat)
  /-- What the handles of tags stand for. -/
  handles : List (String × TagText)

/-- Something put together, and what is left unless a fault came in between. -/
structure Composed (α : Type) where
  value : α
  rest : Option Feed

namespace Feed

/-- The tokens have come to an end that no document has. -/
def exhausted : Fault :=
  .unreadable "EOF while parsing a value"

def peek (feed : Feed) : Except Fault Token :=
  match feed.tokens with
  | token :: _ => .ok token
  | [] => .error (feed.fault.getD exhausted)

def skip (feed : Feed) : Feed :=
  { feed with tokens := feed.tokens.drop 1 }

def unexpected (problem activity : String) : Fault :=
  .unreadable (problem ++ ", " ++ activity)

/-! ## Properties -/

/-- What a tag stands for once its handle is replaced. -/
def resolveTag (feed : Feed) (handle : String) (suffix : TagText) : Except Fault TagText :=
  if handle.isEmpty then .ok suffix
  else
    match feed.handles.lookup handle with
    | some full => .ok (full ++ suffix)
    | none => .error (unexpected "found undefined tag handle" "while parsing a node")

structure Written where
  anchor : Option String
  tag : Option (String × TagText)

/-- The anchor and the tag before a node, in either order. -/
def properties (feed : Feed) : Except Fault (Written × Feed) := do
  match ← feed.peek with
  | .anchor name =>
    let feed := feed.skip
    match ← feed.peek with
    | .tag handle suffix => return (⟨some name, some (handle, suffix)⟩, feed.skip)
    | _ => return (⟨some name, none⟩, feed)
  | .tag handle suffix =>
    let feed := feed.skip
    match ← feed.peek with
    | .anchor name => return (⟨some name, some (handle, suffix)⟩, feed.skip)
    | _ => return (⟨none, some (handle, suffix)⟩, feed)
  | _ => return (⟨none, none⟩, feed)

/-- Number the anchor of a node that begins here. -/
def register (feed : Feed) (tag : Option TagText) : Option String → Properties × Feed
  | none => (⟨tag, none⟩, feed)
  | some name =>
    let number := feed.anchors.length
    let others := feed.anchors.filter (·.1 ≠ name)
    (⟨tag, some number⟩, { feed with anchors := (name, number) :: others })

end Feed

mutual

/-- A node.  `fuel` bounds the number of steps, of which each token takes at most four. -/
def composeNode (fuel : Nat) (inBlock indentless : Bool) (feed : Feed) : Composed Node :=
  match fuel with
  | 0 => ⟨.cut Feed.exhausted, none⟩
  | fuel + 1 =>
    match feed.peek with
    | .error fault => ⟨.cut fault, none⟩
    | .ok (.aliasOf name) =>
      match feed.anchors.lookup name with
      | none => ⟨.cut (.unreadable "unknown anchor"), none⟩
      | some number => ⟨.aliasOf number, some feed.skip⟩
    | .ok _ =>
      match feed.properties with
      | .error fault => ⟨.cut fault, none⟩
      | .ok (written, feed) =>
        match feed.peek, written.tag.mapM fun (handle, suffix) => feed.resolveTag handle suffix with
        | .error fault, _ => ⟨.cut fault, none⟩
        | .ok _, .error fault => ⟨.cut fault, none⟩
        | .ok token, .ok tag => composeContent fuel inBlock indentless written tag token feed

def composeContent (fuel : Nat) (inBlock indentless : Bool) (written : Feed.Written)
    (tag : Option TagText) (token : Token) (feed : Feed) : Composed Node :=
  match fuel with
  | 0 => ⟨.cut Feed.exhausted, none⟩
  | fuel + 1 =>
    let sequence (feed : Feed) (compose : Feed → Composed (List Node × Option Fault)) :=
      let (properties, feed) := feed.register tag written.anchor
      let items := compose feed
      (⟨.sequence properties items.value.1 items.value.2, items.rest⟩ : Composed Node)
    let mapping (feed : Feed) (compose : Feed → Composed (List (Node × Node) × Option Fault)) :=
      let (properties, feed) := feed.register tag written.anchor
      let entries := compose feed
      (⟨.mapping properties entries.value.1 entries.value.2, entries.rest⟩ : Composed Node)
    let scalar (feed : Feed) (text : String) (style : ScalarStyle) : Composed Node :=
      let (properties, feed) := feed.register tag written.anchor
      ⟨.scalar properties text style, some feed⟩
    match token, inBlock with
    | .blockEntry, inBlock =>
      if indentless then sequence feed (composeIndentless fuel)
      else if written.anchor.isSome || tag.isSome then scalar feed "" .plain
      else ⟨.cut (missingContent inBlock), none⟩
    | .scalar text style, _ => scalar feed.skip text style
    | .flowSequenceStart, _ => sequence feed.skip (composeFlowItems fuel true)
    | .flowMappingStart, _ => mapping feed.skip (composeFlowEntries fuel true)
    | .blockSequenceStart, true => sequence feed.skip (composeBlockItems fuel)
    | .blockMappingStart, true => mapping feed.skip (composeBlockEntries fuel)
    | _, inBlock =>
      if written.anchor.isSome || tag.isSome then scalar feed "" .plain
      else ⟨.cut (missingContent inBlock), none⟩
where
  /-- The fault where a node should be. -/
  missingContent (inBlock : Bool) : Fault :=
    Feed.unexpected "did not find expected node content"
      (if inBlock then "while parsing a block node" else "while parsing a flow node")

def composeBlockItems (fuel : Nat) (feed : Feed) : Composed (List Node × Option Fault) :=
  match fuel with
  | 0 => ⟨([], some Feed.exhausted), none⟩
  | fuel + 1 =>
    match feed.peek with
    | .error fault => ⟨([], some fault), none⟩
    | .ok .blockEnd => ⟨([], none), some feed.skip⟩
    | .ok .blockEntry =>
      let item := composeUnless fuel true false [.blockEntry, .blockEnd] feed.skip
      match item.rest with
      | none => ⟨([item.value], none), none⟩
      | some feed =>
        let others := composeBlockItems fuel feed
        ⟨(item.value :: others.value.1, others.value.2), others.rest⟩
    | .ok _ =>
      ⟨([], some (Feed.unexpected "did not find expected '-' indicator"
        "while parsing a block collection")), none⟩

/-- The items of a block sequence that is the value of a mapping and not indented further. -/
def composeIndentless (fuel : Nat) (feed : Feed) : Composed (List Node × Option Fault) :=
  match fuel with
  | 0 => ⟨([], some Feed.exhausted), none⟩
  | fuel + 1 =>
    match feed.peek with
    | .error fault => ⟨([], some fault), none⟩
    | .ok .blockEntry =>
      let item := composeUnless fuel true false [.blockEntry, .key, .value, .blockEnd] feed.skip
      match item.rest with
      | none => ⟨([item.value], none), none⟩
      | some feed =>
        let others := composeIndentless fuel feed
        ⟨(item.value :: others.value.1, others.value.2), others.rest⟩
    | .ok _ => ⟨([], none), some feed⟩

def composeBlockEntries (fuel : Nat) (feed : Feed) :
    Composed (List (Node × Node) × Option Fault) :=
  match fuel with
  | 0 => ⟨([], some Feed.exhausted), none⟩
  | fuel + 1 =>
    match feed.peek with
    | .error fault => ⟨([], some fault), none⟩
    | .ok .blockEnd => ⟨([], none), some feed.skip⟩
    | .ok .key =>
      let key := composeUnless fuel true true [.key, .value, .blockEnd] feed.skip
      match key.rest with
      | none => ⟨([(key.value, .cut Feed.exhausted)], none), none⟩
      | some feed =>
        let value := composeValue fuel true [.key, .value, .blockEnd] feed
        match value.rest with
        | none => ⟨([(key.value, value.value)], none), none⟩
        | some feed =>
          let others := composeBlockEntries fuel feed
          ⟨((key.value, value.value) :: others.value.1, others.value.2), others.rest⟩
    | .ok _ =>
      ⟨([], some (Feed.unexpected "did not find expected key" "while parsing a block mapping")),
        none⟩

def composeFlowItems (fuel : Nat) (first : Bool) (feed : Feed) :
    Composed (List Node × Option Fault) :=
  match fuel with
  | 0 => ⟨([], some Feed.exhausted), none⟩
  | fuel + 1 =>
    match feed.peek with
    | .error fault => ⟨([], some fault), none⟩
    | .ok .flowSequenceEnd => ⟨([], none), some feed.skip⟩
    | .ok token =>
      if !first && token != .flowEntry then
        ⟨([], some (Feed.unexpected "did not find expected ',' or ']'"
          "while parsing a flow sequence")), none⟩
      else
        let feed := if first then feed else feed.skip
        match feed.peek with
        | .error fault => ⟨([], some fault), none⟩
        | .ok .flowSequenceEnd => ⟨([], none), some feed.skip⟩
        | .ok token =>
          let item :=
            if token = .key then composePair fuel feed.skip
            else composeNode fuel false false feed
          match item.rest with
          | none => ⟨([item.value], none), none⟩
          | some feed =>
            let others := composeFlowItems fuel false feed
            ⟨(item.value :: others.value.1, others.value.2), others.rest⟩

/--
A mapping of one entry that an item of a flow sequence consists of.  Where its
key is not written, the token in its place is passed over.
-/
def composePair (fuel : Nat) (feed : Feed) : Composed Node :=
  match fuel with
  | 0 => ⟨.cut Feed.exhausted, none⟩
  | fuel + 1 =>
    let pair (entries : List (Node × Node)) (ending : Option Fault) : Node :=
      .mapping ⟨none, none⟩ entries ending
    match feed.peek with
    | .error fault => ⟨pair [] (some fault), none⟩
    | .ok token =>
      let key : Composed Node :=
        if token ∈ [Token.value, .flowEntry, .flowSequenceEnd] then ⟨.empty, some feed.skip⟩
        else composeNode fuel false false feed
      match key.rest with
      | none => ⟨pair [(key.value, .cut Feed.exhausted)] none, none⟩
      | some feed =>
        let value := composeValue fuel false [.flowEntry, .flowSequenceEnd] feed
        match value.rest with
        | none => ⟨pair [(key.value, value.value)] none, none⟩
        | some feed =>
          match feed.peek with
          | .error fault => ⟨pair [(key.value, value.value)] (some fault), none⟩
          | .ok _ => ⟨pair [(key.value, value.value)] none, some feed⟩

def composeFlowEntries (fuel : Nat) (first : Bool) (feed : Feed) :
    Composed (List (Node × Node) × Option Fault) :=
  match fuel with
  | 0 => ⟨([], some Feed.exhausted), none⟩
  | fuel + 1 =>
    match feed.peek with
    | .error fault => ⟨([], some fault), none⟩
    | .ok .flowMappingEnd => ⟨([], none), some feed.skip⟩
    | .ok token =>
      if !first && token != .flowEntry then
        ⟨([], some (Feed.unexpected "did not find expected ',' or '\x7d'"
          "while parsing a flow mapping")), none⟩
      else
        let feed := if first then feed else feed.skip
        match feed.peek with
        | .error fault => ⟨([], some fault), none⟩
        | .ok .flowMappingEnd => ⟨([], none), some feed.skip⟩
        | .ok token =>
          let marked := token == .key
          let entry := composeFlowEntry fuel marked (if marked then feed.skip else feed)
          match entry.rest with
          | none => ⟨([entry.value], none), none⟩
          | some feed =>
            let others := composeFlowEntries fuel false feed
            ⟨(entry.value :: others.value.1, others.value.2), others.rest⟩

/-- An entry of a flow mapping; a node that is not marked as a key has no value. -/
def composeFlowEntry (fuel : Nat) (marked : Bool) (feed : Feed) : Composed (Node × Node) :=
  match fuel with
  | 0 => ⟨(.cut Feed.exhausted, .cut Feed.exhausted), none⟩
  | fuel + 1 =>
    let key :=
      if marked then composeUnless fuel false false [.value, .flowEntry, .flowMappingEnd] feed
      else composeNode fuel false false feed
    match key.rest with
    | none => ⟨(key.value, .cut Feed.exhausted), none⟩
    | some feed =>
      if marked then
        let value := composeValue fuel false [.flowEntry, .flowMappingEnd] feed
        ⟨(key.value, value.value), value.rest⟩
      else
        match feed.peek with
        | .error fault => ⟨(key.value, .cut fault), none⟩
        | .ok _ => ⟨(key.value, .empty), some feed⟩

/-- A node, or an empty one if the next token shows that none is written. -/
def composeUnless (fuel : Nat) (inBlock indentless : Bool) (ends : List Token) (feed : Feed) :
    Composed Node :=
  match fuel with
  | 0 => ⟨.cut Feed.exhausted, none⟩
  | fuel + 1 =>
    match feed.peek with
    | .error fault => ⟨.cut fault, none⟩
    | .ok token =>
      if token ∈ ends then ⟨.empty, some feed⟩ else composeNode fuel inBlock indentless feed

/-- The value behind a key: empty unless it is marked and written. -/
def composeValue (fuel : Nat) (inBlock : Bool) (ends : List Token) (feed : Feed) : Composed Node :=
  match fuel with
  | 0 => ⟨.cut Feed.exhausted, none⟩
  | fuel + 1 =>
    match feed.peek with
    | .error fault => ⟨.cut fault, none⟩
    | .ok .value => composeUnless fuel inBlock inBlock ends feed.skip
    | .ok _ => ⟨.empty, some feed⟩

end

/-! ## Documents -/

def standardHandles : List (String × TagText) :=
  [("!", TagText.ofString "!"), ("!!", TagText.ofString "tag:yaml.org,2002:")]

def readDirectives (versioned : Bool) : List Token → Feed → Except Fault Feed
  | .versionDirective major minor :: rest, feed =>
    if versioned then .error (.unreadable "found duplicate %YAML directive")
    else if major ≠ 1 ∨ (minor ≠ 1 ∧ minor ≠ 2) then
      .error (.unreadable "found incompatible YAML document")
    else readDirectives true rest feed
  | .tagDirective handle full :: rest, feed =>
    if (feed.handles.lookup handle).isSome then
      .error (.unreadable "found duplicate %TAG directive")
    else readDirectives versioned rest { feed with handles := feed.handles ++ [(handle, full)] }
  | tokens, feed => .ok { feed with tokens }

/-- A text as its first document, and the fault of what stands behind it. -/
structure Whole where
  root : Node
  trailing : Option Fault

/-- What follows a document: nothing but its end and the end of the text. -/
def trailingFault (feed : Feed) : Option Fault :=
  match feed.peek with
  | .error fault => some fault
  | .ok _ =>
    match { feed with tokens := feed.tokens.dropWhile (· == Token.documentEnd) }.peek with
    | .ok .streamEnd => none
    | _ => some (.unreadable
        "deserializing from YAML containing more than one document is not supported")

def composeRoot (feed : Feed) : Whole :=
  let composed := composeNode (4 * feed.tokens.length + 8) true false feed
  ⟨composed.value, composed.rest.bind trailingFault⟩

/-- A document that begins with directives or a mark. -/
def composeMarked (feed : Feed) : Whole :=
  match readDirectives false feed.tokens { feed with handles := [] } with
  | .error fault => ⟨.cut fault, none⟩
  | .ok feed =>
    let feed := { feed with handles := feed.handles ++ standardHandles }
    match feed.peek with
    | .error fault => ⟨.cut fault, none⟩
    | .ok .documentStart =>
      let feed := feed.skip
      match feed.peek with
      | .error fault => ⟨.cut fault, none⟩
      | .ok token =>
        if token.endsDocument then ⟨.empty, trailingFault feed⟩ else composeRoot feed
    | .ok _ => ⟨.cut (.unreadable "did not find expected <document start>"), none⟩

def Whole.ofText (text : String) : Whole :=
  let (tokens, fault) := tokensOf text
  let feed : Feed := ⟨tokens, fault, [], standardHandles⟩
  match feed.peek with
  | .error fault => ⟨.cut fault, none⟩
  | .ok .streamEnd => ⟨.empty, none⟩
  | .ok token =>
    if token.isDirective || token == .documentStart then composeMarked feed else composeRoot feed

end VersionedApi.Yaml
