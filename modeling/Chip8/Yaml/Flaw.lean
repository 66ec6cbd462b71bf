import Chip8.Number.Numeral
import Chip8.Settings.Stamp
import Chip8.Text.Base64
import Chip8.Text.Mark
import Chip8.Text.Utf8

/-!
# What is wrong with a text in YAML

A text goes through four stages before it is a value, and each of them has mistakes of its own: the
scanning of tokens, the parsing of their order, the composing of nodes with their names, and the
constructing of values.  A mistake is told with the place where it was met, and often with what was
being read and where that began.

Besides, a scalar may have been given a kind that its text does not have, or a number for a
character that there is not.
-/

namespace Chip8.Yaml

/-- A stage of reading. -/
inductive Stage where
  /-- Tokens are made of characters. -/
  | scanning
  /-- Tokens are put in order. -/
  | parsing
  /-- Nodes are named and found by their names. -/
  | composing
  /-- Values are made of nodes. -/
  | constructing
deriving DecidableEq, Repr

/-- What was being read when a mistake was met. -/
inductive Activity where
  /-- A key that is not announced. -/
  | simpleKey
  /-- Whatever comes next. -/
  | nextToken
  /-- A directive. -/
  | directive
  /-- The address in a directive. -/
  | directiveAddress
  /-- A name that is referred to. -/
  | reference
  /-- A name that is given. -/
  | anchor
  /-- A tag. -/
  | tag
  /-- The address in a tag. -/
  | tagAddress
  /-- A text in a block. -/
  | blockText
  /-- An escape in double quotes. -/
  | doubleQuoted
  /-- A text in quotes. -/
  | quoted
  /-- The properties of a node. -/
  | node
  /-- A node in a block. -/
  | blockNode
  /-- A node inside brackets. -/
  | flowNode
  /-- A list in a block. -/
  | blockSequence
  /-- A mapping in a block. -/
  | blockMapping
  /-- A list in brackets. -/
  | flowSequence
  /-- A mapping in braces. -/
  | flowMapping
  /-- The only document there may be. -/
  | onlyDocument
  /-- The node that had a name first. -/
  | firstAnchor (name : String)
  /-- The value of a mapping. -/
  | mapping
  /-- The value of a mapping whose order counts. -/
  | orderedMapping
  /-- The value of a list of pairs. -/
  | pairs
deriving DecidableEq, Repr

/-- What is said about what was being read. -/
def Activity.message : Activity → String
  | simpleKey => "while scanning a simple key"
  | nextToken => "while scanning for the next token"
  | directive => "while scanning a directive"
  | directiveAddress => "while parsing a directive"
  | reference => "while scanning an alias"
  | anchor => "while scanning an anchor"
  | tag => "while scanning a tag"
  | tagAddress => "while parsing a tag"
  | blockText => "while scanning a block scalar"
  | doubleQuoted => "while scanning a double-quoted scalar"
  | quoted => "while scanning a quoted scalar"
  | node => "while parsing a node"
  | blockNode => "while parsing a block node"
  | flowNode => "while parsing a flow node"
  | blockSequence => "while parsing a block collection"
  | blockMapping => "while parsing a block mapping"
  | flowSequence => "while parsing a flow sequence"
  | flowMapping => "while parsing a flow mapping"
  | onlyDocument => "expected a single document in the stream"
  | firstAnchor name => "found duplicate anchor " ++ Text.quoted name ++ "; first occurrence"
  | mapping => "while constructing a mapping"
  | orderedMapping => "while constructing an ordered map"
  | pairs => "while constructing pairs"

/-- What is wrong at a place of a text. -/
inductive Problem where
  /-- A key has no colon. -/
  | colonMissing
  /-- Nothing starts with a character. -/
  | strangeStart (c : Char)
  /-- An entry of a list is not allowed. -/
  | entryNotAllowed
  /-- A key is not allowed. -/
  | keyNotAllowed
  /-- A value is not allowed. -/
  | valueNotAllowed
  /-- One thing was expected and a character found, or the end if `none`. -/
  | expected (wanted : String) (found : Option Char)
  /-- A block is said to be indented by nothing. -/
  | zeroIndentation
  /-- A backslash stands in front of a character that it gives no meaning. -/
  | unknownEscape (found : Option Char)
  /-- The text ends. -/
  | unexpectedEnd
  /-- A document ends. -/
  | unexpectedSeparator
  /-- Escaped bytes are no text. -/
  | undecodable (cause : Text.DecodingError)
  /-- One thing was expected and a token found. -/
  | expectedToken (wanted found : String)
  /-- One of the tokens that go on with a collection was expected and another one found. -/
  | expectedNext (wanted found : String)
  /-- The version is told twice. -/
  | secondVersion
  /-- The version is none that is known. -/
  | strangeVersion
  /-- The handle of tags is told twice. -/
  | secondHandle (handle : String)
  /-- The handle of a tag is not told. -/
  | unknownHandle (handle : String)
  /-- A second document follows. -/
  | secondDocument
  /-- Nothing has a name that is referred to. -/
  | unknownReference (name : String)
  /-- A name is given again. -/
  | secondAnchor
  /-- No values have a tag. -/
  | unknownTag (tag : String)
  /-- One shape of a node was expected and another one found. -/
  | expectedShape (wanted found : String)
  /-- A value can be no key. -/
  | strangeKey
  /-- A text in base 64 has other characters, of which the first and their number are told. -/
  | notAscii (place count : Nat) (point : Nat)
  /-- A text in base 64 does not end as it should. -/
  | incompleteBase64 (cause : Text.Base64Error)
deriving DecidableEq, Repr

/-- A character that was found, in quotes; the end stands for zero. -/
def quotedFound (found : Option Char) : String :=
  Text.quotedPoints [(found.map Char.toNat).getD 0]

/-- What is said about what is wrong. -/
def Problem.message : Problem → String
  | colonMissing => "could not find expected ':'"
  | strangeStart c => "found character " ++ quotedFound (some c) ++ " that cannot start any token"
  | entryNotAllowed => "sequence entries are not allowed here"
  | keyNotAllowed => "mapping keys are not allowed here"
  | valueNotAllowed => "mapping values are not allowed here"
  | expected wanted found => "expected " ++ wanted ++ ", but found " ++ quotedFound found
  | zeroIndentation => "expected indentation indicator in the range 1-9, but found 0"
  | unknownEscape found => "found unknown escape character " ++ quotedFound found
  | unexpectedEnd => "found unexpected end of stream"
  | unexpectedSeparator => "found unexpected document separator"
  | undecodable cause => cause.message
  | expectedToken wanted found => "expected " ++ wanted ++ ", but found " ++ Text.quoted found
  | expectedNext wanted found => "expected " ++ wanted ++ ", but got " ++ Text.quoted found
  | secondVersion => "found duplicate YAML directive"
  | strangeVersion => "found incompatible YAML document (version 1.* is required)"
  | secondHandle handle => "duplicate tag handle " ++ Text.quoted handle
  | unknownHandle handle => "found undefined tag handle " ++ Text.quoted handle
  | secondDocument => "but found another document"
  | unknownReference name => "found undefined alias " ++ Text.quoted name
  | secondAnchor => "second occurrence"
  | unknownTag tag => "could not determine a constructor for the tag " ++ Text.quoted tag
  | expectedShape wanted found => "expected " ++ wanted ++ ", but found " ++ found
  | strangeKey => "found unhashable key"
  | notAscii place count point =>
    let found :=
      if count = 1 then
        "character '" ++ String.ofList (Text.escapedPoint point) ++ "' in position " ++
          toString place
      else "characters in position " ++ toString place ++ "-" ++ toString (place + count - 1)
    "failed to convert base64 data into ascii: 'ascii' codec can't encode " ++ found ++
      ": ordinal not in range(128)"
  | incompleteBase64 cause => "failed to decode base64 data: " ++ cause.message

/-- A mistake in a text. -/
structure Mistake where
  /-- The stage that met it. -/
  stage : Stage
  /-- What was being read, and where that began if this is told. -/
  activity : Option (Activity × Option Text.Mark)
  /-- What is wrong. -/
  problem : Problem
  /-- Where it is wrong. -/
  place : Text.Mark
deriving DecidableEq, Repr

/-- What is said about a mistake in the file of the given name.  Where reading began is left out if
it is where the mistake is. -/
def Mistake.message (m : Mistake) (name : String) : String :=
  let start : Option Text.Mark := (m.activity.bind Prod.snd).filter (· ≠ m.place)
  String.intercalate "\n" <|
    (m.activity.map fun a => a.1.message).toList ++ (start.map (·.text name)).toList ++
      [m.problem.message, m.place.text name]

/-- Why the text of a scalar stands for no value. -/
inductive ScalarError where
  /-- It is no integer. -/
  | integer (cause : Numeral.IntegerError)
  /-- It is no double; the text is told in quotes. -/
  | real (quoted : String)
  /-- It has no digits, and not even a sign. -/
  | noNumber
  /-- It has more places in sixties than a double could tell. -/
  | beyondDouble
  /-- It is no truth value; the text is told in quotes. -/
  | truth (quoted : String)
  /-- It has not the form of a day or time. -/
  | noStamp
  /-- It has the form of a day or time but is none. -/
  | stamp (cause : StampError)
  /-- A character is given by a number beyond those of characters. -/
  | noCharacter
  /-- A character is given by a number beyond all that are counted with. -/
  | farCharacter
deriving DecidableEq, Repr

/-- What is said about a scalar that stands for no value. -/
def ScalarError.message : ScalarError → String
  | integer cause => cause.message
  | real quoted => "could not convert string to float: " ++ quoted
  | noNumber => "string index out of range"
  | beyondDouble => "int too large to convert to float"
  | truth quoted => quoted
  | noStamp => "'NoneType' object has no attribute 'groupdict'"
  | stamp cause => cause.message
  | noCharacter => "chr() arg not in range(0x110000)"
  | farCharacter => "Python int too large to convert to C int"

/-- Whether a scalar is taken for a bad value rather than for a defect. -/
def ScalarError.isExpected : ScalarError → Bool
  | integer _ | real _ | stamp _ | noCharacter => true
  | _ => false

/-- Why a text in YAML is no document. -/
inductive Flaw where
  /-- There is a mistake in it. -/
  | mistake (cause : Mistake)
  /-- A scalar stands for no value. -/
  | scalar (cause : ScalarError)
deriving DecidableEq, Repr

end Chip8.Yaml
