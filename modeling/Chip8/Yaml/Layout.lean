import Chip8.Yaml.Token
import Chip8.Yaml.Word

/-!
# From characters to tokens

Tokens are taken off the front of a text one by one.  What opens and closes a block depends on the
column, and a key is known as one only when its colon is met: until then its place is kept in mind,
and the tokens from there on wait.  The colon of such a key has to stand in the same line and near
enough.

A mistake is not found before somebody asks for the token behind which it is met; the tokens in
front of it are known.
-/

namespace Chip8.Yaml

/-- A place where a key may have begun. -/
structure PossibleKey where
  /-- The number of the token that begins there. -/
  number : Nat
  /-- Whether nothing but a key may begin there. -/
  required : Bool
  /-- How many characters stand in front of it. -/
  index : Nat
  /-- Where it is. -/
  mark : Text.Mark

/-- A text of which some tokens have been taken. -/
structure Layout where
  /-- The place in the text. -/
  cursor : Cursor
  /-- How many tokens have been given away. -/
  given : Nat
  /-- The tokens that wait, oldest first. -/
  waiting : List Token
  /-- Whether a key may begin here. -/
  keyAllowed : Bool
  /-- The columns of the blocks around the place, innermost first. -/
  blocks : List Nat
  /-- Where a key may have begun, in each of the brackets around the place, innermost first, and
  last outside of them. -/
  keys : List (Option PossibleKey)
  /-- Whether the end of the text has been met. -/
  done : Bool

namespace Layout

/-- A text of which nothing has been taken. -/
def start (cs : List Char) : Layout := ⟨.start cs, 0, [], true, [], [none], false⟩

/-- Whether the place is inside brackets. -/
def inFlow (s : Layout) : Bool := 1 < s.keys.length

/-- The column of the innermost block; zero outside of blocks. -/
def indentation (s : Layout) : Nat := s.blocks.headD 0

/-- The next character. -/
def peek (s : Layout) : Option Char := s.cursor.peek

/-- How many tokens have been taken. -/
def count (s : Layout) : Nat := s.given + s.waiting.length

/-- A mistake at the place. -/
def mistake {α : Type} (s : Layout) (problem : Problem) : Except Flaw α :=
  throw (.mistake ⟨.scanning, none, problem, s.cursor.mark⟩)

/-- Adds a token that goes up to a cursor. -/
def push (s : Layout) (kind : TokenKind) (behind : Cursor) : Layout :=
  { s with cursor := behind, waiting := s.waiting ++ [⟨kind, s.cursor.mark, behind.mark⟩] }

/-- Adds a token that is not written. -/
def pushUnwritten (s : Layout) (kind : TokenKind) : Layout := s.push kind s.cursor

/-! ### Possible keys -/

/-- What is found out about a key that turns out to be none. -/
def refuse (s : Layout) (key : PossibleKey) : Except Flaw Unit :=
  if key.required then scanMistake .simpleKey key.mark s.cursor .colonMissing else pure ()

/-- How many characters may stand between the start of a key and its colon. -/
def keyReach : Nat := 1024

/-- Gives up the keys whose colon is out of reach. -/
def dropFarKeys (s : Layout) : Except Flaw Layout := do
  let keys ← s.keys.mapM fun key? =>
    match key? with
    | some key =>
      if key.mark.line ≠ s.cursor.mark.line || keyReach < s.cursor.index - key.index then do
        s.refuse key
        pure none
      else pure (some key)
    | none => pure none
  pure { s with keys }

/-- The keys with another innermost one. -/
def setKey (s : Layout) (key? : Option PossibleKey) : Layout :=
  { s with keys := key? :: s.keys.drop 1 }

/-- Gives up the innermost key. -/
def dropKey (s : Layout) : Except Flaw Layout :=
  match s.keys with
  | some key :: _ => do
    s.refuse key
    pure (s.setKey none)
  | _ => pure s

/-- Keeps in mind that a key may begin here. -/
def markKey (s : Layout) : Except Flaw Layout := do
  if s.keyAllowed then
    let required := !s.inFlow && s.indentation = s.cursor.column
    let s ← s.dropKey
    pure (s.setKey (some ⟨s.count, required, s.cursor.index, s.cursor.mark⟩))
  else pure s

/-! ### Blocks -/

/-- Ends the blocks that lie deeper than a column. -/
def endBlocks (column : Nat) (s : Layout) : Layout :=
  let ending := s.blocks.takeWhile (column < ·)
  ending.foldl (fun s _ => { s.pushUnwritten .blockEnd with blocks := s.blocks.drop 1 }) s

/-- Begins a block at the place if it lies deeper than the innermost one. -/
def beginBlock (kind : TokenKind) (s : Layout) : Layout :=
  if s.indentation < s.cursor.column then
    { s.pushUnwritten kind with blocks := s.cursor.column :: s.blocks }
  else s

/-! ### Tokens -/

/-- The place of the next token, and whether the end of a line is in front of it. -/
def skipToToken : (fuel : Nat) → Cursor → Cursor × Bool
  | 0, c => (c, false)
  | fuel + 1, c =>
    match c.skipSpaces.skipRemark.takeBreak with
    | ([], c) => (c, false)
    | (_, c) => ((skipToToken fuel c).1, true)

/-- Goes to the next token. -/
def approach (s : Layout) : Except Flaw Layout := do
  let (cursor, broken) := skipToToken s.cursor.fuel s.cursor
  let s ← { s with cursor, keyAllowed := s.keyAllowed || (broken && !s.inFlow) }.dropFarKeys
  pure (if s.inFlow then s else s.endBlocks s.cursor.column)

/-- Leaves all blocks, behind which no key is allowed. -/
def leaveBlocks (s : Layout) : Except Flaw Layout := do
  let s ← (if s.inFlow then s else s.endBlocks 0).dropKey
  pure { s with keyAllowed := false }

/-- Takes a mark of three characters around documents. -/
def takeDocumentMark (s : Layout) (kind : TokenKind) : Except Flaw Layout := do
  let s ← s.leaveBlocks
  pure (s.push kind (s.cursor.skip 3))

/-- Takes an opening bracket or brace. -/
def takeOpening (s : Layout) (kind : TokenKind) : Except Flaw Layout := do
  let s ← s.markKey
  pure ({ s with keys := none :: s.keys, keyAllowed := true }.push kind s.cursor.next)

/-- Takes a closing bracket or brace. -/
def takeClosing (s : Layout) (kind : TokenKind) : Except Flaw Layout := do
  let s ← s.dropKey
  pure ({ s with keys := s.keys.drop 1, keyAllowed := false }.push kind s.cursor.next)

/-- Takes a comma. -/
def takeComma (s : Layout) : Except Flaw Layout := do
  let s ← { s with keyAllowed := true }.dropKey
  pure (s.push .comma s.cursor.next)

/-- Begins a block for an entry, a key or a value where one is allowed. -/
def enterBlock (kind : TokenKind) (problem : Problem) (s : Layout) : Except Flaw Layout :=
  if s.inFlow then pure s
  else if s.keyAllowed then pure (s.beginBlock kind)
  else s.mistake problem

/-- Takes the mark of an entry of a list. -/
def takeEntry (s : Layout) : Except Flaw Layout := do
  let s ← s.enterBlock .blockSequence .entryNotAllowed
  let s ← { s with keyAllowed := true }.dropKey
  pure (s.push .entry s.cursor.next)

/-- Takes the mark of a key. -/
def takeKey (s : Layout) : Except Flaw Layout := do
  let s ← s.enterBlock .blockMapping .keyNotAllowed
  let s ← { s with keyAllowed := !s.inFlow }.dropKey
  pure (s.push .key s.cursor.next)

/-- Announces a key that began earlier: in front of the token that began it. -/
def announce (s : Layout) (key : PossibleKey) : Layout :=
  let insert (kind : TokenKind) (tokens : List Token) : List Token :=
    tokens.insertIdx (key.number - s.given) ⟨kind, key.mark, key.mark⟩
  let s := { s.setKey none with waiting := insert .key s.waiting, keyAllowed := false }
  if !s.inFlow && s.indentation < key.mark.column then
    { s with waiting := insert .blockMapping s.waiting, blocks := key.mark.column :: s.blocks }
  else s

/-- Takes the mark of a value. -/
def takeValue (s : Layout) : Except Flaw Layout := do
  let s ← match s.keys with
    | some key :: _ => pure (s.announce key)
    | _ => do
      let s ← s.enterBlock .blockMapping .valueNotAllowed
      { s with keyAllowed := !s.inFlow }.dropKey
  pure (s.push .value s.cursor.next)

/-- Takes a token that may begin a key. -/
def takeContent (s : Layout) (take : Cursor → Except Flaw (TokenKind × Cursor)) :
    Except Flaw Layout := do
  let s ← s.markKey
  let (kind, behind) ← take s.cursor
  pure ({ s with keyAllowed := false }.push kind behind)

/-- Takes a text in a block. -/
def takeBlockText (s : Layout) (folds : Bool) : Except Flaw Layout := do
  let s ← { s with keyAllowed := true }.dropKey
  let (cs, behind) ← takeBlock folds s.indentation s.cursor
  pure (s.push (.scalar (cs.map Char.toNat) false) behind)

/-- Takes a text without quotes.  A key may begin behind it if it ends in another line. -/
def takePlain (s : Layout) : Except Flaw Layout := do
  let s ← s.markKey
  let word := takeWord s.inFlow s.indentation s.cursor
  pure ({ s with keyAllowed := word.broken }.push
    (.scalar (word.text.map Char.toNat) true) word.behind)

/-- Takes the next token that means something by itself, and what its place opens and closes. -/
def take (s : Layout) : Except Flaw Layout := do
  let s ← s.approach
  let follows := s.cursor.next.peek
  let marks := s.inFlow || isBlankOrEnd follows
  let separates := s.cursor.column = 1 && atSeparator s.cursor.rest
  match s.peek with
  | none =>
    let s ← s.leaveBlocks
    pure { s.pushUnwritten .textEnd with done := true }
  | some ch =>
    if ch = '%' && s.cursor.column = 1 then
      let s ← s.leaveBlocks
      let (directive, behind) ← takeDirective s.cursor
      pure (s.push (.directive directive) behind)
    else if ch = '-' && separates then s.takeDocumentMark .documentStart
    else if ch = '.' && separates then s.takeDocumentMark .documentEnd
    else if ch = '[' then s.takeOpening .openBracket
    else if ch = '\x7b' then s.takeOpening .openBrace
    else if ch = ']' then s.takeClosing .closeBracket
    else if ch = '\x7d' then s.takeClosing .closeBrace
    else if ch = ',' then s.takeComma
    else if ch = '-' && isBlankOrEnd follows then s.takeEntry
    else if ch = '?' && marks then s.takeKey
    else if ch = ':' && marks then s.takeValue
    else if ch = '*' then
      s.takeContent fun c => do
        let (name, c) ← takeAnchor .reference c
        pure (.reference name, c)
    else if ch = '&' then
      s.takeContent fun c => do
        let (name, c) ← takeAnchor .anchor c
        pure (.anchor name, c)
    else if ch = '!' then
      s.takeContent fun c => do
        let (tag, c) ← takeTag c
        pure (.tag tag, c)
    else if ch = '|' && !s.inFlow then s.takeBlockText false
    else if ch = '>' && !s.inFlow then s.takeBlockText true
    else if ch = '\'' || ch = '"' then
      s.takeContent fun c => do
        let (ps, c) ← takeQuoted ch c
        pure (.scalar ps false, c)
    else if startsWord s.inFlow s.cursor.rest then s.takePlain
    else
      throw (.mistake
        ⟨.scanning, some (.nextToken, none), .strangeStart ch, s.cursor.mark⟩)

/-- Takes tokens until one waits that is known not to begin a key, or the text has ended. -/
def reach : (fuel : Nat) → Layout → Except Flaw Layout
  | 0, s => pure s
  | fuel + 1, s => do
    if s.done then pure s
    else if s.waiting.isEmpty then reach fuel (← s.take)
    else
      let s ← s.dropFarKeys
      if s.keys.any (·.any (·.number = s.given)) then reach fuel (← s.take) else pure s

end Layout

/-- The tokens of a text, and what is wrong behind them; nothing if they go up to the end. -/
structure Feed where
  /-- The tokens. -/
  tokens : List Token
  /-- What is found out when somebody asks for another one. -/
  flaw : Option Flaw

namespace Feed

/-- The tokens that are still to be given away. -/
def ofLayout : (fuel : Nat) → Layout → Feed
  | 0, _ => ⟨[], none⟩
  | fuel + 1, s =>
    match s.reach (s.cursor.fuel + 1) with
    | .error flaw => ⟨[], some flaw⟩
    | .ok s =>
      match s.waiting with
      | [] => ⟨[], none⟩
      | t :: waiting =>
        let more := ofLayout fuel { s with given := s.given + 1, waiting }
        { more with tokens := t :: more.tokens }

/-- The tokens of a text. -/
def ofText (cs : List Char) : Feed := ofLayout (4 * cs.length + 8) (.start cs)

end Feed

end Chip8.Yaml
