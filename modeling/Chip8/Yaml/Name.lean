import Chip8.Yaml.Block

/-!
# Names, tags and directives

A node may be given a name, by which it is referred to elsewhere, and a tag, which tells what kind
of value it is.  A tag is an address, of which the front may be written as a handle; directives in
front of a document tell the handles.  Addresses hold bytes in hexadecimal behind percent signs.
-/

namespace Chip8.Yaml

/-- Whether a character may be part of a name. -/
def isNameChar (ch : Char) : Bool := ch.isAlphanum || ch = '-' || ch = '_'

/-- Whether a character may be part of an address. -/
def isAddressChar (ch : Char) : Bool :=
  ch.isAlphanum || "-;/?:@&=+$,_.!~*'()[]%".toList.contains ch

/-- Takes a name off the front. -/
def takeName (activity : Activity) (start : Text.Mark) (c : Cursor) :
    Except Flaw (String × Cursor) :=
  match c.takeWhile isNameChar with
  | ([], c) => unexpected activity start c "alphabetic or numeric character"
  | (cs, c) => pure (String.ofList cs, c)

/-- Takes the mark of a name and the name off the front. -/
def takeAnchor (activity : Activity) (c : Cursor) : Except Flaw (String × Cursor) := do
  let start := c.mark
  let (name, c) ← takeName activity start c.next
  if isBlankOrEnd c.peek || c.peek.any "?:,]\x7d%@`".toList.contains then pure (name, c)
  else unexpected activity start c "alphabetic or numeric character"

/-! ### Addresses -/

/-- Takes bytes behind percent signs off the front. -/
def takeBytes (activity : Activity) (start : Text.Mark) :
    (fuel : Nat) → Cursor → Except Flaw (List UInt8 × Cursor)
  | 0, c => pure ([], c)
  | fuel + 1, c =>
    if c.peek = some '%' then do
      let (n, c) ←
        takeHex activity start 2 "URI escape sequence of 2 hexadecimal numbers" c.next
      let (more, c) ← takeBytes activity start fuel c
      pure (UInt8.ofNat n :: more, c)
    else pure ([], c)

/-- Takes the characters of an address off the front. -/
def takeAddressFrom (activity : Activity) (start : Text.Mark) :
    (fuel : Nat) → Cursor → Except Flaw (List Char × Cursor)
  | 0, c => pure ([], c)
  | fuel + 1, c =>
    match c.peek with
    | some '%' => do
      let (data, behind) ← takeBytes activity start c.fuel c
      match Text.decodeWhole data with
      | .error cause => scanMistake activity start c (.undecodable cause)
      | .ok cs =>
        let (more, c) ← takeAddressFrom activity start fuel behind
        pure (cs ++ more, c)
    | some ch =>
      if isAddressChar ch then do
        let (more, c) ← takeAddressFrom activity start fuel c.next
        pure (ch :: more, c)
      else pure ([], c)
    | none => pure ([], c)

/-- Takes an address off the front, for the sake of a tag or a directive. -/
def takeAddress (activity whole : Activity) (start : Text.Mark) (c : Cursor) :
    Except Flaw (String × Cursor) :=
  if c.peek.any isAddressChar then do
    let (cs, c) ← takeAddressFrom activity start c.fuel c
    pure (String.ofList cs, c)
  else unexpected whole start c "URI"

/-- Takes a handle off the front: an exclamation mark, a name and another mark, or the first mark
alone if a space follows. -/
def takeHandle (activity : Activity) (start : Text.Mark) (c : Cursor) :
    Except Flaw (String × Cursor) :=
  if c.peek ≠ some '!' then unexpected activity start c "'!'"
  else if c.next.peek = some ' ' then pure ("!", c.next)
  else
    let (name, c) := c.next.takeWhile isNameChar
    if c.peek = some '!' then pure (String.ofList ('!' :: name ++ ['!']), c.next)
    else unexpected activity start c "'!'"

/-! ### Tags -/

/-- A tag as it is written. -/
structure TagName where
  /-- The handle, if it has one. -/
  handle : Option String
  /-- What stands behind the handle. -/
  suffix : String

/-- Takes a tag off the front. -/
def takeTag (c : Cursor) : Except Flaw (TagName × Cursor) := do
  let start := c.mark
  let inside := c.next
  let (tag, c) ←
    if inside.peek = some '<' then do
      let (suffix, c) ← takeAddress .tag .tagAddress start inside.next
      if c.peek ≠ some '>' then unexpected .tagAddress start c "'>'"
      else pure (⟨none, suffix⟩, c.next)
    else if isBlankOrEnd inside.peek then pure (⟨none, "!"⟩, inside)
    else do
      let written := (inside.takeWhile fun ch => !isSpaceOrEnd (some ch)).1
      let (handle, c) ←
        if written.contains '!' then takeHandle .tag start c else pure ("!", inside)
      let (suffix, c) ← takeAddress .tag .tagAddress start c
      pure (⟨some handle, suffix⟩, c)
  if isSpaceOrEnd c.peek then pure (tag, c) else unexpected .tag start c "' '"

/-! ### Directives -/

/-- What is told in front of a document. -/
inductive Directive where
  /-- The version, of which only the first number counts. -/
  | version (major : Nat)
  /-- What a handle stands for. -/
  | handle (name address : String)
  /-- Anything else. -/
  | other

/-- Takes a number in decimal off the front. -/
def takeNumber (start : Text.Mark) (c : Cursor) : Except Flaw (Nat × Cursor) :=
  match c.takeWhile Char.isDigit with
  | ([], c) => unexpected .directive start c "a digit"
  | (ds, c) => pure (Numeral.ofDigits 10 (ds.map fun d => d.toNat - 48), c)

/-- Takes a version off the front. -/
def takeVersion (start : Text.Mark) (c : Cursor) : Except Flaw (Directive × Cursor) := do
  let (major, c) ← takeNumber start c.skipSpaces
  if c.peek ≠ some '.' then unexpected .directive start c "a digit or '.'"
  else
    let (_, c) ← takeNumber start c.next
    if isSpaceOrEnd c.peek then pure (.version major, c)
    else unexpected .directive start c "a digit or ' '"

/-- Takes a handle and what it stands for off the front. -/
def takeHandleMeaning (start : Text.Mark) (c : Cursor) : Except Flaw (Directive × Cursor) := do
  let (name, c) ← takeHandle .directive start c.skipSpaces
  if c.peek ≠ some ' ' then unexpected .directive start c "' '"
  else
    let (address, c) ← takeAddress .directive .directiveAddress start c.skipSpaces
    if isSpaceOrEnd c.peek then pure (.handle name address, c)
    else unexpected .directive start c "' '"

/-- Takes a directive and the end of its line off the front. -/
def takeDirective (c : Cursor) : Except Flaw (Directive × Cursor) := do
  let start := c.mark
  let (name, c) ← takeName .directive start c.next
  if !isSpaceOrEnd c.peek then
    unexpected .directive start c "alphabetic or numeric character"
  else
    let (directive, c) ← match name with
      | "YAML" => takeVersion start c
      | "TAG" => takeHandleMeaning start c
      | _ => pure (.other, (c.takeWhile fun ch => !Text.isBreak ch).2)
    pure (directive, ← skipLine .directive start c)

end Chip8.Yaml
