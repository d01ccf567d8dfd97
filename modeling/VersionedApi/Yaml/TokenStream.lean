import VersionedApi.Yaml.Properties
import VersionedApi.Yaml.Scalars

/-!
# The tokens of a text

A text is turned into tokens one by one.  Where a token could be the key of a
mapping it is held back until that is decided, because the key and perhaps the
start of a mapping are marked in front of it.  A fault ends the tokens; those
that are still held back at that point are lost.
-/

namespace VersionedApi.Yaml

open VersionedApi.Source

/-- A token that may turn out to be a key once a colon follows it. -/
structure PossibleKey where
  /-- It stands where nothing but a key can stand. -/
  isRequired : Bool
  /-- Its number among all tokens. -/
  number : Nat
  line : Nat
  column : Nat
  index : Nat
  deriving Repr

structure TokenStream where
  cursor : Cursor
  /-- The tokens that are found but not delivered. -/
  queue : List Token
  /-- How many tokens were delivered. -/
  delivered : Nat
  /-- The column of the innermost block, -1 outside of all blocks. -/
  indent : Int
  /-- The columns of the blocks around it. -/
  outerIndents : List Int
  /-- The possible key at this level of brackets. -/
  possibleKey : Option PossibleKey
  /-- The possible keys at the outer levels, innermost first. -/
  outerKeys : List (Option PossibleKey)
  /-- Whether a key may start at the cursor. -/
  keyAllowed : Bool
  /-- Whether the end of the text has been turned into tokens. -/
  ended : Bool

namespace TokenStream

def ofText (text : String) : TokenStream :=
  ⟨Cursor.ofText text, [], 0, -1, [], none, [], true, false⟩

def inFlow (stream : TokenStream) : Bool :=
  !stream.outerKeys.isEmpty

def enqueue (stream : TokenStream) (token : Token) : TokenStream :=
  { stream with queue := stream.queue ++ [token] }

/-- Put a token before the one with a number. -/
def insert (stream : TokenStream) (number : Nat) (token : Token) : TokenStream :=
  { stream with queue := stream.queue.insertIdx (number - stream.delivered) token }

def advance (stream : TokenStream) (count : Nat) : TokenStream :=
  { stream with cursor := stream.cursor.advance count }

def scan {α : Type} (stream : TokenStream) (scanning : Scan α) : Except Fault (α × TokenStream) :=
  (scanning stream.cursor).map fun (result, cursor) => (result, { stream with cursor })

/-! ## Possible keys -/

/-- A key that is required did not get its colon. -/
def missingColon : Fault :=
  .unreadable "could not find expected ':', while scanning a simple key"

/-- A key has to fit on its line and into 1024 octets. -/
def isStale (stream : TokenStream) (key : PossibleKey) : Bool :=
  key.line < stream.cursor.line || key.index + 1024 < stream.cursor.index

def refresh (stream : TokenStream) : Option PossibleKey → Except Fault (Option PossibleKey)
  | none => .ok none
  | some key =>
    if stream.isStale key then
      if key.isRequired then .error missingColon else .ok none
    else .ok (some key)

/-- The possible keys at all levels, innermost first. -/
def keys (stream : TokenStream) : List (Option PossibleKey) :=
  stream.possibleKey :: stream.outerKeys

/-- Drop all possible keys that are stale; mostly there are none. -/
def dropStale (stream : TokenStream) : Except Fault TokenStream := do
  if stream.keys.any fun key => key.any stream.isStale then
    let outerKeys ← stream.outerKeys.reverse.mapM stream.refresh
    let possibleKey ← stream.refresh stream.possibleKey
    return { stream with possibleKey, outerKeys := outerKeys.reverse }
  else return stream

/-- The possible key at this level can no longer be one. -/
def removeKey (stream : TokenStream) : Except Fault TokenStream :=
  match stream.possibleKey with
  | some key =>
    if key.isRequired then .error missingColon else .ok { stream with possibleKey := none }
  | none => .ok stream

/-- The next token may be a key. -/
def saveKey (stream : TokenStream) : Except Fault TokenStream := do
  if stream.keyAllowed then
    let stream ← stream.removeKey
    let key : PossibleKey :=
      { isRequired := !stream.inFlow && stream.indent == stream.cursor.column
        number := stream.delivered + stream.queue.length
        line := stream.cursor.line
        column := stream.cursor.column
        index := stream.cursor.index }
    return { stream with possibleKey := some key }
  else return stream

/-! ## Indentation -/

/-- Open a block at a column that lies further in; its start goes before a token, or last. -/
def rollIndent (stream : TokenStream) (column : Nat) (number : Option Nat) (start : Token) :
    TokenStream :=
  if !stream.inFlow && stream.indent < column then
    let opened :=
      { stream with
        indent := column
        outerIndents := stream.indent :: stream.outerIndents }
    match number with
    | none => opened.enqueue start
    | some number => opened.insert number start
  else stream

/-- Close blocks from the innermost on as long as they lie further in than a column. -/
def closeBlocks (column : Int) : List Int → TokenStream → TokenStream
  | [], stream => stream
  | outer :: rest, stream =>
    if column < stream.indent then
      closeBlocks column rest
        { stream.enqueue .blockEnd with indent := outer, outerIndents := rest }
    else stream

def unrollIndent (stream : TokenStream) (column : Int) : TokenStream :=
  if stream.inFlow then stream else closeBlocks column stream.outerIndents stream

/-! ## Between tokens -/

/-- Go on to the next token; `fuel` bounds the number of lines. -/
def skipToToken : Nat → TokenStream → TokenStream
  | 0, stream => stream
  | fuel + 1, stream =>
    let cursor := stream.cursor
    let cursor :=
      if cursor.column = 0 ∧ cursor.next?.any isByteOrderMark then cursor.advance 1 else cursor
    let isBlank (c : Char) : Bool :=
      c == ' ' || ((stream.inFlow || !stream.keyAllowed) && c == '\t')
    let cursor := cursor.advance (cursor.ahead.takeWhile isBlank).length
    let cursor :=
      if cursor.next? = some '#' then
        cursor.advance (cursor.ahead.takeWhile fun c => !isBreak c).length
      else cursor
    if cursor.next?.any isBreak then
      skipToToken fuel
        { stream with
          cursor := cursor.breakLine
          keyAllowed := stream.keyAllowed || !stream.inFlow }
    else { stream with cursor }

/-! ## Single tokens -/

def fetchEnd (stream : TokenStream) : Except Fault TokenStream := do
  let stream := { stream with cursor := stream.cursor.leaveLine }
  let stream ← (stream.unrollIndent (-1)).removeKey
  return { stream.enqueue .streamEnd with keyAllowed := false, ended := true }

def fetchDirective (stream : TokenStream) : Except Fault TokenStream := do
  let stream ← (stream.unrollIndent (-1)).removeKey
  let (token, stream) ← stream.scan Scan.directive
  return { stream.enqueue token with keyAllowed := false }

def fetchDocumentMark (stream : TokenStream) (token : Token) : Except Fault TokenStream := do
  let stream ← (stream.unrollIndent (-1)).removeKey
  return { (stream.advance 3).enqueue token with keyAllowed := false }

def fetchFlowStart (stream : TokenStream) (token : Token) : Except Fault TokenStream := do
  let stream ← stream.saveKey
  return { (stream.advance 1).enqueue token with
    possibleKey := none
    outerKeys := stream.possibleKey :: stream.outerKeys
    keyAllowed := true }

/-- A closing bracket, which may be one too many. -/
def fetchFlowEnd (stream : TokenStream) (token : Token) : Except Fault TokenStream := do
  let stream ← stream.removeKey
  let stream := { (stream.advance 1).enqueue token with keyAllowed := false }
  match stream.outerKeys with
  | [] => return stream
  | key :: rest => return { stream with possibleKey := key, outerKeys := rest }

def fetchFlowEntry (stream : TokenStream) : Except Fault TokenStream := do
  let stream ← stream.removeKey
  return { (stream.advance 1).enqueue .flowEntry with keyAllowed := true }

/-- A fault in the place of an indicator that only the start of a line allows. -/
def notAllowed (what : String) : Fault :=
  .unreadable (what ++ " are not allowed in this context")

def fetchBlockEntry (stream : TokenStream) : Except Fault TokenStream := do
  if !stream.inFlow && !stream.keyAllowed then
    throw (notAllowed "block sequence entries")
  let stream ← (stream.rollIndent stream.cursor.column none .blockSequenceStart).removeKey
  return { (stream.advance 1).enqueue .blockEntry with keyAllowed := true }

def fetchKey (stream : TokenStream) : Except Fault TokenStream := do
  if !stream.inFlow && !stream.keyAllowed then
    throw (notAllowed "mapping keys")
  let stream ← (stream.rollIndent stream.cursor.column none .blockMappingStart).removeKey
  return { (stream.advance 1).enqueue .key with keyAllowed := !stream.inFlow }

/-- The colon of a value.  If there is a possible key, it is one. -/
def fetchValue (stream : TokenStream) : Except Fault TokenStream := do
  match stream.possibleKey with
  | some key =>
    let stream := stream.insert key.number .key
    let stream := stream.rollIndent key.column (some key.number) .blockMappingStart
    return { (stream.advance 1).enqueue .value with possibleKey := none, keyAllowed := false }
  | none =>
    if !stream.inFlow && !stream.keyAllowed then
      throw (notAllowed "mapping values")
    let stream := stream.rollIndent stream.cursor.column none .blockMappingStart
    return { (stream.advance 1).enqueue .value with keyAllowed := !stream.inFlow }

/-- A token that may be a key or belong to one. -/
def fetchKeyPart (stream : TokenStream) (scanning : Scan Token) : Except Fault TokenStream := do
  let stream ← stream.saveKey
  let (token, stream) ← stream.scan scanning
  return { stream.enqueue token with keyAllowed := false }

def fetchBlockScalar (stream : TokenStream) (literal : Bool) : Except Fault TokenStream := do
  let stream ← stream.removeKey
  let (token, stream) ← stream.scan (Scan.blockScalar literal stream.indent)
  return { stream.enqueue token with keyAllowed := true }

def fetchPlainScalar (stream : TokenStream) : Except Fault TokenStream := do
  let stream ← stream.saveKey
  let scanning := Scan.plainScalar stream.inFlow (stream.indent + 1).toNat
  let ((token, broken), stream) ← stream.scan scanning
  return { stream.enqueue token with keyAllowed := broken }

def startsPlain (inFlow : Bool) (c : Char) (following : Option Char) : Bool :=
  if c == '-' then !following.any isSpace
  else if c == '?' || c == ':' then !inFlow && !isBlankOrEnd following
  else !isSpace c && !isBreak c && !startsOtherThanPlain c

def fetch (stream : TokenStream) : Except Fault TokenStream := do
  let stream ← (skipToToken (stream.cursor.ahead.length + 1) stream).dropStale
  let stream := stream.unrollIndent stream.cursor.column
  let cursor := stream.cursor
  let following := cursor.at? 1
  match cursor.next? with
  | none => stream.fetchEnd
  | some c =>
    if cursor.column = 0 ∧ c = '%' then stream.fetchDirective
    else if cursor.atDocumentMark '-' then stream.fetchDocumentMark .documentStart
    else if cursor.atDocumentMark '.' then stream.fetchDocumentMark .documentEnd
    else if c = '[' then stream.fetchFlowStart .flowSequenceStart
    else if c = '{' then stream.fetchFlowStart .flowMappingStart
    else if c = ']' then stream.fetchFlowEnd .flowSequenceEnd
    else if c = '}' then stream.fetchFlowEnd .flowMappingEnd
    else if c = ',' then stream.fetchFlowEntry
    else if c = '-' ∧ isBlankOrEnd following then stream.fetchBlockEntry
    else if c = '?' ∧ (stream.inFlow || isBlankOrEnd following) then stream.fetchKey
    else if c = ':' ∧ (stream.inFlow || isBlankOrEnd following) then stream.fetchValue
    else if c = '*' then
      stream.fetchKeyPart (Token.aliasOf <$> Scan.anchorName "while scanning an alias")
    else if c = '&' then
      stream.fetchKeyPart (Token.anchor <$> Scan.anchorName "while scanning an anchor")
    else if c = '!' then stream.fetchKeyPart (Scan.tag stream.inFlow)
    else if c = '|' ∧ !stream.inFlow then stream.fetchBlockScalar true
    else if c = '>' ∧ !stream.inFlow then stream.fetchBlockScalar false
    else if c = '\'' then stream.fetchKeyPart (Scan.quotedScalar true)
    else if c = '"' then stream.fetchKeyPart (Scan.quotedScalar false)
    else if startsPlain stream.inFlow c following then stream.fetchPlainScalar
    else
      throw (.unreadable ("found character that cannot start any token, " ++
        "while scanning for the next token"))

/-! ## All tokens -/

def isHeldBack (stream : TokenStream) : Bool :=
  stream.queue.isEmpty ||
    stream.keys.any fun key => key.any fun key => key.number == stream.delivered

/-- The tokens of a stream and the fault that ends them; `fuel` bounds the number of steps. -/
def tokens : Nat → TokenStream → List Token × Option Fault
  | 0, _ => ([], none)
  | fuel + 1, stream =>
    let refreshed := if stream.queue.isEmpty then .ok stream else stream.dropStale
    match refreshed with
    | .error fault => ([], some fault)
    | .ok stream =>
      if stream.isHeldBack then
        if stream.ended then ([], none)
        else
          match stream.fetch with
          | .error fault => ([], some fault)
          | .ok stream => tokens fuel stream
      else
        match stream.queue with
        | [] => ([], none)
        | token :: rest =>
          let others := tokens fuel { stream with queue := rest, delivered := stream.delivered + 1 }
          (token :: others.1, others.2)

end TokenStream

/-- The octet of a text at which its first inadmissible character starts. -/
def inadmissibleAt? : Nat → List Char → Option Nat
  | _, [] => none
  | octet, c :: rest =>
    if isAdmissible c then inadmissibleAt? (octet + c.utf8Size) rest else some octet

def tokensOf (text : String) : List Token × Option Fault :=
  match inadmissibleAt? 0 text.toList with
  | some octet =>
    ([], some (.unreadable ("control characters are not allowed" ++
      (if octet = 0 then "" else " at position " ++ toString octet))))
  | none => TokenStream.tokens (16 * text.length + 16) (.ofText text)

end VersionedApi.Yaml
