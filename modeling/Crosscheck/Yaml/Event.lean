import Crosscheck.Yaml.Token

/-! # Events

The tokens of a text as a flat account of its documents: where nodes begin and end. Values that are
left out appear as empty plain scalars.
-/

namespace Crosscheck.Yaml

/-- What may stand before a node. -/
structure Properties where
  anchor : Option String := none
  tag : Option String := none
  deriving DecidableEq, Repr

inductive EventKind where
  | streamEnd
  | documentStart
  | documentEnd
  | alias (name : String)
  | scalar (properties : Properties) (text : String) (style : Style)
  | sequenceStart (properties : Properties)
  | sequenceEnd
  | mappingStart (properties : Properties)
  | mappingEnd
  deriving DecidableEq, Repr

structure Event where
  kind : EventKind
  mark : Mark

/-- What is expected next. -/
inductive Expect where
  | streamStart
  /-- A document; the first one may start without a mark. -/
  | document (first : Bool)
  | documentContent
  | documentEnd
  | blockNode
  | blockSequenceEntry (first : Bool)
  | indentlessEntry
  | blockMappingKey (first : Bool)
  | blockMappingValue
  | flowSequenceEntry (first : Bool)
  | pairKey
  | pairValue
  | pairEnd
  | flowMappingKey (first : Bool)
  | flowMappingValue
  | flowMappingNoValue
  | nothing
  deriving DecidableEq

structure Reader where
  tokens : Tokens
  expect : Expect := .streamStart
  /-- What is expected after the nodes that are open. -/
  outer : List Expect := []
  /-- Tag handles and what they stand for. -/
  handles : List (String × String) := []

namespace Reader

def ofText (text : List Char) : Reader :=
  { tokens := Tokens.ofText text }

/-- The next token. -/
def head? (r : Reader) : Option (Token × Reader) :=
  r.tokens.head?.map fun (token, tokens) => (token, { r with tokens := tokens })

def skip (r : Reader) : Reader :=
  { r with tokens := r.tokens.next }

/-- Goes on with what is expected around the node that ends here. -/
def leave (r : Reader) : Reader :=
  { r with expect := r.outer.headD .nothing, outer := r.outer.tail }

def enter (r : Reader) (after : Expect) : Reader :=
  { r with outer := after :: r.outer }

def emptyScalar (r : Reader) (mark : Mark) : Option (Event × Reader) :=
  some (⟨.scalar {} "" .plain, mark⟩, r)

/-! ## Documents -/

/-- The handles that are always known. -/
def defaultHandles : List (String × String) :=
  [("!", "!"), ("!!", "tag:yaml.org,2002:")]

/-- Reads directives. A version other than 1.1 and 1.2, or a directive given twice, is refused. -/
def readDirectives : Nat → Bool → List (String × String) → Reader → Option Reader
  | 0, _, _, _ => none
  | fuel + 1, versionSeen, handles, r =>
    match r.head? with
    | none => none
    | some (token, r) =>
      match token.kind with
      | .directive (.version major minor) =>
        if versionSeen || major ≠ 1 || (minor ≠ 1 && minor ≠ 2) then none
        else readDirectives fuel true handles r.skip
      | .directive (.tag handle start) =>
        if handles.any (·.1 == handle) then none
        else readDirectives fuel versionSeen (handles ++ [(handle, start)]) r.skip
      | _ => some { r with handles := handles ++ defaultHandles }

/-- Steps over marks that end a document. -/
def skipDocumentEnds : Nat → Reader → Option Reader
  | 0, r => some r
  | fuel + 1, r =>
    match r.head? with
    | none => none
    | some (token, r) => if token.kind = .documentEnd then skipDocumentEnds fuel r.skip else some r

def readDocument (first : Bool) (r : Reader) : Option (Event × Reader) := do
  let fuel := r.tokens.bound
  let r ← if first then some r else skipDocumentEnds fuel r
  let (token, r) ← r.head?
  match token.kind with
  | .streamEnd => return (⟨.streamEnd, token.start⟩, { r.skip with expect := .nothing })
  | .directive _ | .documentStart =>
    let r ← readDirectives fuel false [] r
    let (start, r) ← r.head?
    if start.kind ≠ .documentStart then none
    return (⟨.documentStart, token.start⟩,
      { r.skip.enter .documentEnd with expect := .documentContent })
  | _ =>
    if first then
      return (⟨.documentStart, token.start⟩,
        { r.enter .documentEnd with expect := .blockNode, handles := defaultHandles })
    else none

def readDocumentEnd (r : Reader) : Option (Event × Reader) := do
  let (token, r) ← r.head?
  let r := { r with expect := .document false, handles := [] }
  return (⟨.documentEnd, token.start⟩, if token.kind = .documentEnd then r.skip else r)

/-! ## Nodes -/

/-- The full name of a tag. -/
def resolveTag (r : Reader) (handle suffix : String) : Option String :=
  if handle.isEmpty then some suffix
  else (r.handles.lookup handle).map (· ++ suffix)

/-- The anchor and the tag of a node, in either order, and the mark of the first of them. -/
def readProperties (r : Reader) : Option (Properties × Option Mark × Reader) := do
  let (token, r) ← r.head?
  match token.kind with
  | .anchor name =>
    let (second, r) ← r.skip.head?
    match second.kind with
    | .tag handle suffix =>
      let tag ← r.resolveTag handle suffix
      return ({ anchor := some name, tag := some tag }, some token.start, r.skip)
    | _ => return ({ anchor := some name }, some token.start, r)
  | .tag handle suffix =>
    let (second, r) ← r.skip.head?
    match second.kind with
    | .anchor name =>
      let r := r.skip
      let (_, r) ← r.head?
      let tag ← r.resolveTag handle suffix
      return ({ anchor := some name, tag := some tag }, some token.start, r)
    | _ =>
      let tag ← r.resolveTag handle suffix
      return ({ tag := some tag }, some token.start, r)
  | _ => return ({}, none, r)

/-- A node. Block collections are only taken in a block context, and a sequence at the indentation
of its mapping only as the value of a key. -/
def readNode (block indentless : Bool) (r : Reader) : Option (Event × Reader) := do
  let (token, r) ← r.head?
  match token.kind with
  | .alias name => return (⟨.alias name, token.start⟩, r.skip.leave)
  | _ =>
    let (properties, before, r) ← r.readProperties
    let (token, r) ← r.head?
    let mark := before.getD token.start
    match token.kind with
    | .blockEntry =>
      if indentless then
        return (⟨.sequenceStart properties, mark⟩, { r with expect := .indentlessEntry })
      else if before.isSome then return (⟨.scalar properties "" .plain, mark⟩, r.leave)
      else none
    | .scalar text style =>
      let properties :=
        if properties.tag = some "!" then { properties with tag := none } else properties
      return (⟨.scalar properties text style, mark⟩, r.skip.leave)
    | .flowSequenceStart =>
      return (⟨.sequenceStart properties, mark⟩, { r with expect := .flowSequenceEntry true })
    | .flowMappingStart =>
      return (⟨.mappingStart properties, mark⟩, { r with expect := .flowMappingKey true })
    | .blockSequenceStart =>
      if block then
        return (⟨.sequenceStart properties, mark⟩, { r with expect := .blockSequenceEntry true })
      else if before.isSome then return (⟨.scalar properties "" .plain, mark⟩, r.leave)
      else none
    | .blockMappingStart =>
      if block then
        return (⟨.mappingStart properties, mark⟩, { r with expect := .blockMappingKey true })
      else if before.isSome then return (⟨.scalar properties "" .plain, mark⟩, r.leave)
      else none
    | _ =>
      if before.isSome then return (⟨.scalar properties "" .plain, mark⟩, r.leave) else none

/-! ## Collections -/

/-- A node, or an empty scalar at the mark if one of the given tokens comes instead. -/
def readValueUnless (r : Reader) (stop : TokenKind → Bool) (mark : Mark) (after : Expect)
    (block indentless : Bool) : Option (Event × Reader) := do
  let (token, r) ← r.head?
  if stop token.kind then emptyScalar { r with expect := after } mark
  else readNode block indentless (r.enter after)

def readBlockSequenceEntry (first : Bool) (r : Reader) : Option (Event × Reader) := do
  let r ← if first then r.head?.map (·.2.skip) else some r
  let (token, r) ← r.head?
  match token.kind with
  | .blockEntry =>
    r.skip.readValueUnless (fun k => k = .blockEntry || k = .blockEnd) token.stop
      (.blockSequenceEntry false) true false
  | .blockEnd => return (⟨.sequenceEnd, token.start⟩, r.skip.leave)
  | _ => none

def readIndentlessEntry (r : Reader) : Option (Event × Reader) := do
  let (token, r) ← r.head?
  match token.kind with
  | .blockEntry =>
    r.skip.readValueUnless
      (fun k => k = .blockEntry || k = .key || k = .value || k = .blockEnd) token.stop
      .indentlessEntry true false
  | _ => return (⟨.sequenceEnd, token.start⟩, r.leave)

def readBlockMappingKey (first : Bool) (r : Reader) : Option (Event × Reader) := do
  let r ← if first then r.head?.map (·.2.skip) else some r
  let (token, r) ← r.head?
  match token.kind with
  | .key =>
    r.skip.readValueUnless (fun k => k = .key || k = .value || k = .blockEnd) token.stop
      .blockMappingValue true true
  | .blockEnd => return (⟨.mappingEnd, token.start⟩, r.skip.leave)
  | _ => none

def readBlockMappingValue (r : Reader) : Option (Event × Reader) := do
  let (token, r) ← r.head?
  match token.kind with
  | .value =>
    r.skip.readValueUnless (fun k => k = .key || k = .value || k = .blockEnd) token.stop
      (.blockMappingKey false) true true
  | _ => emptyScalar { r with expect := .blockMappingKey false } token.start

/-- Steps over the comma between two entries of a flow collection. -/
def readFlowComma (first : Bool) (close : TokenKind) (r : Reader) : Option (Token × Reader) := do
  let r ← if first then r.head?.map (·.2.skip) else some r
  let (token, r) ← r.head?
  if token.kind = close || first then return (token, r)
  else if token.kind = .flowEntry then r.skip.head?
  else none

def readFlowSequenceEntry (first : Bool) (r : Reader) : Option (Event × Reader) := do
  let (token, r) ← r.readFlowComma first .flowSequenceEnd
  match token.kind with
  | .flowSequenceEnd => return (⟨.sequenceEnd, token.start⟩, r.skip.leave)
  | .key => return (⟨.mappingStart {}, token.start⟩, { r.skip with expect := .pairKey })
  | _ => readNode false false (r.enter (.flowSequenceEntry false))

def readPairKey (r : Reader) : Option (Event × Reader) := do
  let (token, r) ← r.head?
  if token.kind = .value || token.kind = .flowEntry || token.kind = .flowSequenceEnd then
    emptyScalar { r.skip with expect := .pairValue } token.stop
  else readNode false false (r.enter .pairValue)

def readPairValue (r : Reader) : Option (Event × Reader) := do
  let (token, r) ← r.head?
  if token.kind = .value then
    let (token, r) ← r.skip.head?
    r.readValueUnless (fun k => k = .flowEntry || k = .flowSequenceEnd) token.start .pairEnd
      false false
  else emptyScalar { r with expect := .pairEnd } token.start

def readPairEnd (r : Reader) : Option (Event × Reader) := do
  let (token, r) ← r.head?
  return (⟨.mappingEnd, token.start⟩, { r with expect := .flowSequenceEntry false })

def readFlowMappingKey (first : Bool) (r : Reader) : Option (Event × Reader) := do
  let (token, r) ← r.readFlowComma first .flowMappingEnd
  match token.kind with
  | .flowMappingEnd => return (⟨.mappingEnd, token.start⟩, r.skip.leave)
  | .key =>
    let (token, r) ← r.skip.head?
    r.readValueUnless (fun k => k = .value || k = .flowEntry || k = .flowMappingEnd) token.start
      .flowMappingValue false false
  | _ => readNode false false (r.enter .flowMappingNoValue)

def readFlowMappingValue (r : Reader) : Option (Event × Reader) := do
  let (token, r) ← r.head?
  if token.kind = .value then
    let (token, r) ← r.skip.head?
    r.readValueUnless (fun k => k = .flowEntry || k = .flowMappingEnd) token.start
      (.flowMappingKey false) false false
  else emptyScalar { r with expect := .flowMappingKey false } token.start

/-! ## The stream -/

/-- The next event. -/
def next (r : Reader) : Option (Event × Reader) :=
  match r.expect with
  | .streamStart => r.head?.bind fun (_, r) => readDocument true r.skip
  | .document first => readDocument first r
  | .documentContent => do
    let (token, r) ← r.head?
    match token.kind with
    | .directive _ | .documentStart | .documentEnd | .streamEnd => emptyScalar r.leave token.start
    | _ => readNode true false r
  | .documentEnd => readDocumentEnd r
  | .blockNode => readNode true false r
  | .blockSequenceEntry first => readBlockSequenceEntry first r
  | .indentlessEntry => readIndentlessEntry r
  | .blockMappingKey first => readBlockMappingKey first r
  | .blockMappingValue => readBlockMappingValue r
  | .flowSequenceEntry first => readFlowSequenceEntry first r
  | .pairKey => readPairKey r
  | .pairValue => readPairValue r
  | .pairEnd => readPairEnd r
  | .flowMappingKey first => readFlowMappingKey first r
  | .flowMappingValue => readFlowMappingValue r
  | .flowMappingNoValue => do
    let (token, r) ← r.head?
    emptyScalar { r with expect := .flowMappingKey false } token.start
  | .nothing => none

/-- Events up to the end of the text or the first place where it is malformed. Those before are
given last first. -/
def run : Nat → List Event → Reader → List Event
  | 0, before, _ => before.reverse
  | fuel + 1, before, r =>
    match r.next with
    | none => before.reverse
    | some (event, r) =>
      if event.kind = .streamEnd then (event :: before).reverse else run fuel (event :: before) r

end Reader

/-- The events of a text. The last one is the end of the stream unless the text is malformed. -/
def events (text : List Char) : List Event :=
  (Reader.ofText text).run (8 * text.length + 16) []

end Crosscheck.Yaml
