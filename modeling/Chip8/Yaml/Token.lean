import Chip8.Yaml.Name

/-!
# Tokens

A token is the smallest part of a text that means something.  Those that open and close blocks are
not written: the indentation of the lines stands for them.
-/

namespace Chip8.Yaml

/-- What a token is. -/
inductive TokenKind where
  /-- The end of the text. -/
  | textEnd
  /-- A directive. -/
  | directive (d : Directive)
  /-- The mark in front of a document. -/
  | documentStart
  /-- The mark behind a document. -/
  | documentEnd
  /-- A list in a block begins. -/
  | blockSequence
  /-- A mapping in a block begins. -/
  | blockMapping
  /-- A block ends. -/
  | blockEnd
  /-- An opening bracket. -/
  | openBracket
  /-- A closing bracket. -/
  | closeBracket
  /-- An opening brace. -/
  | openBrace
  /-- A closing brace. -/
  | closeBrace
  /-- The mark of an entry of a list in a block. -/
  | entry
  /-- A comma. -/
  | comma
  /-- The mark of a key, which may not be written. -/
  | key
  /-- The mark of a value. -/
  | value
  /-- A name that is referred to. -/
  | reference (name : String)
  /-- A name that is given. -/
  | anchor (name : String)
  /-- A tag. -/
  | tag (name : TagName)
  /-- A text, and whether it stands without quotes. -/
  | scalar (points : CodePoints) (plain : Bool)

namespace TokenKind

/-- What a token is called. -/
def name : TokenKind → String
  | textEnd => "<stream end>"
  | directive _ => "<directive>"
  | documentStart => "<document start>"
  | documentEnd => "<document end>"
  | blockSequence => "<block sequence start>"
  | blockMapping => "<block mapping start>"
  | blockEnd => "<block end>"
  | openBracket => "["
  | closeBracket => "]"
  | openBrace => "\x7b"
  | closeBrace => "\x7d"
  | entry => "-"
  | comma => ","
  | key => "?"
  | value => ":"
  | reference _ => "<alias>"
  | anchor _ => "<anchor>"
  | tag _ => "<tag>"
  | scalar _ _ => "<scalar>"

end TokenKind

/-- A token and its place. -/
structure Token where
  /-- What it is. -/
  kind : TokenKind
  /-- Where it begins. -/
  start : Text.Mark
  /-- Where it ends. -/
  stop : Text.Mark

end Chip8.Yaml
