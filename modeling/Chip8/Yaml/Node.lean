import Chip8.Yaml.Kind
import Chip8.Yaml.Layout

/-!
# Nodes

A document in YAML is a tree of nodes: scalars, lists and mappings, each with a tag or without.  A
node that is referred to by its name stands in every place where this is done.  Only inside of
itself it cannot, so there just a reference to it stays.

The tokens are read from the front by recursive descent.  Nothing is asked for before it is needed,
since whatever is wrong further behind counts only if it is met.
-/

namespace Chip8.Yaml

/-- A node of a document. -/
inductive Node where
  /-- A scalar: its tag, and whether its kind is to be found out by its form; its text, and its
  place. -/
  | scalar (tag : Option String) (points : CodePoints) (place : Text.Mark)
  /-- A list. -/
  | sequence (tag : String) (items : List Node) (place : Text.Mark)
  /-- A mapping. -/
  | mapping (tag : String) (fields : List (Node × Node)) (place : Text.Mark)
  /-- The list or mapping around this place that has the given place. -/
  | around (isMapping : Bool) (place : Text.Mark)

namespace Node

/-- Where a node begins. -/
def place : Node → Text.Mark
  | scalar _ _ place | sequence _ _ place | mapping _ _ place | around _ place => place

/-- What the shape of a node is called. -/
def shape : Node → String
  | scalar _ _ _ => "scalar"
  | sequence _ _ _ | around false _ => "sequence"
  | mapping _ _ _ | around true _ => "mapping"

/-- The node where nothing is written. -/
def empty (place : Text.Mark) : Node := scalar none [] place

end Node

/-- What has been read of a document. -/
structure Progress where
  /-- The tokens that are left. -/
  feed : Feed
  /-- What the handles of tags stand for. -/
  handles : List (String × String)
  /-- The nodes that have names. -/
  anchors : List (String × Node)

/-- A reader of tokens. -/
abbrev Reading := StateT Progress (Except Flaw)

namespace Reading

/-- Refuses the text. -/
def mistake {α : Type} (stage : Stage) (activity : Option (Activity × Option Text.Mark))
    (problem : Problem) (place : Text.Mark) : Reading α :=
  throw (.mistake ⟨stage, activity, problem, place⟩)

/-- The next token. -/
def peek : Reading Token := do
  let feed := (← get).feed
  match feed.tokens, feed.flaw with
  | t :: _, _ => pure t
  | [], some flaw => throw flaw
  | [], none => pure ⟨.textEnd, Text.Mark.first, Text.Mark.first⟩

/-- Takes the next token. -/
def take : Reading Token := do
  let t ← peek
  modify fun p => { p with feed := { p.feed with tokens := p.feed.tokens.drop 1 } }
  pure t

/-- Whether the next token is of a kind. -/
def follows (isKind : TokenKind → Bool) : Reading Bool := do pure (isKind (← peek).kind)

/-- The place of the next token. -/
def here : Reading Text.Mark := do pure (← peek).start

end Reading

namespace TokenKind

/-- Whether a token is the mark of an entry. -/
def isEntry : TokenKind → Bool
  | entry => true
  | _ => false

/-- Whether a token is a comma. -/
def isComma : TokenKind → Bool
  | comma => true
  | _ => false

/-- Whether a token is the mark of a key. -/
def isKey : TokenKind → Bool
  | key => true
  | _ => false

/-- Whether a token is the mark of a value. -/
def isValue : TokenKind → Bool
  | value => true
  | _ => false

/-- Whether a token ends a block. -/
def isBlockEnd : TokenKind → Bool
  | blockEnd => true
  | _ => false

/-- Whether a token is a closing bracket. -/
def isCloseBracket : TokenKind → Bool
  | closeBracket => true
  | _ => false

/-- Whether a token is a closing brace. -/
def isCloseBrace : TokenKind → Bool
  | closeBrace => true
  | _ => false

/-- Whether a token is the mark behind a document. -/
def isDocumentEnd : TokenKind → Bool
  | documentEnd => true
  | _ => false

/-- Whether a token is in front of a document, and not in it. -/
def isOutside : TokenKind → Bool
  | directive _ | documentStart | textEnd => true
  | _ => false

end TokenKind

/-! ### Properties -/

/-- The name and the tag of a node, and where they begin. -/
structure Properties where
  /-- The name. -/
  anchor : Option String
  /-- The tag. -/
  tag : Option TagName
  /-- Where the tag is. -/
  tagPlace : Option Text.Mark
  /-- Where the first of them begins. -/
  start : Option Text.Mark

namespace Reading

/-- Takes the name and the tag of a node, one of each at most, in either order. -/
def takeProperties : Reading Properties := do
  let first ← peek
  match first.kind with
  | .anchor name => do
    let _ ← take
    let second ← peek
    match second.kind with
    | .tag tag => do
      let _ ← take
      pure ⟨some name, some tag, some second.start, some first.start⟩
    | _ => pure ⟨some name, none, none, some first.start⟩
  | .tag tag => do
    let _ ← take
    match (← peek).kind with
    | .anchor name => do
      let _ ← take
      pure ⟨some name, some tag, some first.start, some first.start⟩
    | _ => pure ⟨none, some tag, some first.start, some first.start⟩
  | _ => pure ⟨none, none, none, none⟩

/-- The tag that the properties tell; the mark of a tag alone is one without an address. -/
def wholeTag (p : Properties) : Reading (Option String) := do
  match p.tag, p.tagPlace with
  | some tag, some place =>
    match tag.handle with
    | none => pure (some tag.suffix)
    | some handle =>
      match (← get).handles.lookup handle with
      | some address => pure (some (address ++ tag.suffix))
      | none =>
        mistake .parsing (some (.node, p.start)) (.unknownHandle handle) place
  | _, _ => pure none

/-- Refuses a name that another node has. -/
def checkAnchor (anchor : Option String) (place : Text.Mark) : Reading Unit := do
  match anchor with
  | some name =>
    match (← get).anchors.lookup name with
    | some node =>
      mistake .composing (some (.firstAnchor name, some node.place)) .secondAnchor place
    | none => pure ()
  | none => pure ()

/-- Gives a node its name. -/
def name (anchor : Option String) (node : Node) : Reading Unit :=
  match anchor with
  | some name => modify fun p => { p with anchors := (name, node) :: p.anchors }
  | none => pure ()

/-- Reads a node, unless what stands at its end follows: then nothing is written at a place. -/
def orEmpty (isEnd : TokenKind → Bool) (place : Text.Mark) (read : Reading Node) :
    Reading Node := do
  if ← follows isEnd then pure (.empty place) else read

/-- Reads the value of a key, if its mark follows. -/
def valueUnless (isEnd : TokenKind → Bool) (read : Reading Node) : Reading Node := do
  if ← follows TokenKind.isValue then
    let mark ← take
    orEmpty isEnd mark.stop read
  else pure (.empty (← here))

/-- Goes on behind an entry in brackets: takes the comma, unless it is the first entry. -/
def takeComma (first : Bool) (activity : Activity) (start : Text.Mark) (wanted : String) :
    Reading Unit := do
  if first then pure ()
  else if ← follows TokenKind.isComma then
    let _ ← take
  else
    let t ← peek
    mistake .parsing (some (activity, some start)) (.expectedNext wanted t.kind.name) t.start

/-! ### Nodes -/

/-- Whether a token ends a key or value in a block. -/
def endsBlockPart (k : TokenKind) : Bool := k.isKey || k.isValue || k.isBlockEnd

/-- Whether a token ends a key or value in brackets. -/
def endsSequencePart (k : TokenKind) : Bool := k.isComma || k.isCloseBracket

/-- Whether a token ends a key or value in braces. -/
def endsMappingPart (k : TokenKind) : Bool := k.isComma || k.isCloseBrace

mutual

/-- Reads a node, in a block or in brackets.  In the place of a key or value, the entries of a list
may stand without a block of their own. -/
def readNode (block bare : Bool) : (fuel : Nat) → Reading Node
  | 0 => do mistake .parsing none .unexpectedEnd (← here)
  | fuel + 1 => do
    let t ← peek
    match t.kind with
    | .reference name =>
      let _ ← take
      match (← get).anchors.lookup name with
      | some node => pure node
      | none => mistake .composing none (.unknownReference name) t.start
    | _ =>
      let p ← takeProperties
      let tag ← wholeTag p
      let t ← peek
      let start := p.start.getD t.start
      let collection (kind : String) : String :=
        match tag with
        | some "!" | none => coreTag kind
        | some tag => tag
      let sequence (read : Reading (List Node)) : Reading Node := do
        checkAnchor p.anchor start
        name p.anchor (.around false start)
        let items ← read
        let node := Node.sequence (collection "seq") items start
        name p.anchor node
        pure node
      let mapping (read : Reading (List (Node × Node))) : Reading Node := do
        checkAnchor p.anchor start
        name p.anchor (.around true start)
        let fields ← read
        let node := Node.mapping (collection "map") fields start
        name p.anchor node
        pure node
      let scalar (ps : CodePoints) (plain : Bool) : Reading Node := do
        checkAnchor p.anchor start
        let tag := match tag with
          | some "!" => none
          | none => if plain then none else some (coreTag "str")
          | some tag => some tag
        let node := Node.scalar tag ps start
        name p.anchor node
        pure node
      match t.kind, block with
      | .scalar ps plain, _ => do
        let _ ← take
        scalar ps plain
      | .openBracket, _ => do
        sequence (do
          let opening ← take
          readFlowSequence opening.start true fuel)
      | .openBrace, _ => do
        mapping (do
          let opening ← take
          readFlowMapping opening.start true fuel)
      | .blockSequence, true => do
        sequence (do
          let opening ← take
          readBlockSequence opening.start fuel)
      | .blockMapping, true => do
        mapping (do
          let opening ← take
          readBlockMapping opening.start fuel)
      | kind, _ =>
        if bare && kind.isEntry then sequence (readBareEntries fuel)
        else if p.start.isSome then scalar [] true
        else
          mistake .parsing (some (if block then .blockNode else .flowNode, some start))
            (.expectedToken "the node content" kind.name) t.start

/-- Reads the entries of a list up to the end of its block. -/
def readBlockSequence (start : Text.Mark) : (fuel : Nat) → Reading (List Node)
  | 0 => pure []
  | fuel + 1 => do
    let t ← peek
    match t.kind with
    | .entry =>
      let mark ← take
      let item ← orEmpty (fun k => k.isEntry || k.isBlockEnd) mark.stop (readNode true false fuel)
      let items ← readBlockSequence start fuel
      pure (item :: items)
    | .blockEnd =>
      let _ ← take
      pure []
    | kind =>
      mistake .parsing (some (.blockSequence, some start))
        (.expectedToken "<block end>" kind.name) t.start

/-- Reads the entries of a list that has no block of its own. -/
def readBareEntries : (fuel : Nat) → Reading (List Node)
  | 0 => pure []
  | fuel + 1 => do
    if ← follows TokenKind.isEntry then
      let mark ← take
      let item ← orEmpty (fun k => k.isEntry || endsBlockPart k) mark.stop
        (readNode true false fuel)
      let items ← readBareEntries fuel
      pure (item :: items)
    else pure []

/-- Reads the keys and values of a mapping up to the end of its block. -/
def readBlockMapping (start : Text.Mark) : (fuel : Nat) → Reading (List (Node × Node))
  | 0 => pure []
  | fuel + 1 => do
    let t ← peek
    match t.kind with
    | .key =>
      let mark ← take
      let key ← orEmpty endsBlockPart mark.stop (readNode true true fuel)
      let value ← valueUnless endsBlockPart (readNode true true fuel)
      let fields ← readBlockMapping start fuel
      pure ((key, value) :: fields)
    | .blockEnd =>
      let _ ← take
      pure []
    | kind =>
      mistake .parsing (some (.blockMapping, some start))
        (.expectedToken "<block end>" kind.name) t.start

/-- Reads the entries of a list up to its closing bracket.  An entry that is announced as a key is a
mapping of one key. -/
def readFlowSequence (start : Text.Mark) (first : Bool) : (fuel : Nat) → Reading (List Node)
  | 0 => pure []
  | fuel + 1 => do
    if ← follows TokenKind.isCloseBracket then
      let _ ← take
      pure []
    else
      takeComma first .flowSequence start "',' or ']'"
      let t ← peek
      match t.kind with
      | .key =>
        let mark ← take
        let key ← orEmpty (fun k => k.isValue || endsSequencePart k) mark.stop
          (readNode false false fuel)
        let value ← valueUnless endsSequencePart (readNode false false fuel)
        let items ← readFlowSequence start false fuel
        pure (.mapping (coreTag "map") [(key, value)] mark.start :: items)
      | .closeBracket =>
        let _ ← take
        pure []
      | _ =>
        let item ← readNode false false fuel
        let items ← readFlowSequence start false fuel
        pure (item :: items)

/-- Reads the keys and values of a mapping up to its closing brace.  A key that is not announced has
no value. -/
def readFlowMapping (start : Text.Mark) (first : Bool) :
    (fuel : Nat) → Reading (List (Node × Node))
  | 0 => pure []
  | fuel + 1 => do
    if ← follows TokenKind.isCloseBrace then
      let _ ← take
      pure []
    else
      takeComma first .flowMapping start "',' or '\x7d'"
      let t ← peek
      match t.kind with
      | .key =>
        let mark ← take
        let key ← orEmpty (fun k => k.isValue || endsMappingPart k) mark.stop
          (readNode false false fuel)
        let value ← valueUnless endsMappingPart (readNode false false fuel)
        let fields ← readFlowMapping start false fuel
        pure ((key, value) :: fields)
      | .closeBrace =>
        let _ ← take
        pure []
      | _ =>
        let key ← readNode false false fuel
        let value := Node.empty (← here)
        let fields ← readFlowMapping start false fuel
        pure ((key, value) :: fields)

end

/-! ### Documents -/

/-- The handles that need not be told. -/
def knownHandles : List (String × String) := [("!", "!"), ("!!", coreTag "")]

/-- Takes the directives in front of a document.  The handles told so far are given, and whether the
version is told. -/
def takeDirectives (versionTold : Bool) :
    (fuel : Nat) → List (String × String) → Reading (List (String × String))
  | 0, handles => pure handles
  | fuel + 1, handles => do
    let t ← peek
    match t.kind with
    | .directive (.version major) =>
      let _ ← take
      if versionTold then mistake .parsing none .secondVersion t.start
      else if major ≠ 1 then mistake .parsing none .strangeVersion t.start
      else takeDirectives true fuel handles
    | .directive (.handle name address) =>
      let _ ← take
      if (handles.lookup name).isSome then
        mistake .parsing none (.secondHandle name) t.start
      else takeDirectives versionTold fuel (handles ++ [(name, address)])
    | .directive .other =>
      let _ ← take
      takeDirectives versionTold fuel handles
    | _ => pure handles

/-- Takes the marks behind documents. -/
def takeDocumentEnds : (fuel : Nat) → Reading Unit
  | 0 => pure ()
  | fuel + 1 => do
    if ← follows TokenKind.isDocumentEnd then
      let _ ← take
      takeDocumentEnds fuel

/-- Takes what stands in front of a document whose start is marked, and gives its place; `none` at
the end of the text. -/
def takeDocumentStart (fuel : Nat) : Reading (Option Text.Mark) := do
  takeDocumentEnds fuel
  let t ← peek
  match t.kind with
  | .textEnd => pure none
  | _ =>
    let handles ← takeDirectives false fuel []
    modify fun p => { p with handles := handles ++ knownHandles }
    let mark ← peek
    match mark.kind with
    | .documentStart =>
      let _ ← take
      pure (some t.start)
    | kind =>
      mistake .parsing none (.expectedToken "'<document start>'" kind.name) mark.start

/-- Reads the first document; `none` if there is none. -/
def readDocument (fuel : Nat) : Reading (Option Node) := do
  if ← follows TokenKind.isOutside then
    match ← takeDocumentStart fuel with
    | none => pure none
    | some _ =>
      some <$> orEmpty (fun k => k.isOutside || k.isDocumentEnd) (← here)
        (readNode true false fuel)
  else some <$> readNode true false fuel

/-- Reads the only document of a text; `none` if there is none. -/
def readOnlyDocument (fuel : Nat) : Reading (Option Node) := do
  match ← readDocument fuel with
  | none => pure none
  | some node =>
    match ← takeDocumentStart fuel with
    | none => pure (some node)
    | some place =>
      mistake .composing (some (.onlyDocument, some node.place)) .secondDocument place

end Reading

namespace Node

/-- The node that a text in YAML holds; `none` if it holds none. -/
def ofText? (cs : List Char) : Except Flaw (Option Node) :=
  let feed := Feed.ofText cs
  let progress : Progress := ⟨feed, Reading.knownHandles, []⟩
  (Reading.readOnlyDocument (3 * feed.tokens.length + 8)).run' progress

end Node

end Chip8.Yaml
