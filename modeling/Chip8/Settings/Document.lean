import Chip8.Number.Numeral
import Chip8.Number.Quantity
import Chip8.Settings.Stamp
import Chip8.Text.Lowercase
import Chip8.Text.Quoted

/-!
# Documents

A settings document is a tree of values: nothing, truth values, numbers, days and times, texts,
bytes, lists, sets, and mappings that keep the order of their keys.  A text in which a half of a
pair stands by itself is no row of characters, so it is kept as its code points.  A list or mapping
may lie inside of itself; there just a sign of it stands.  Messages about a document quote values of
it in the notation written here.
-/

namespace Chip8

/-- A value in a document. -/
inductive Document where
  /-- Nothing. -/
  | null
  /-- A truth value. -/
  | bool (b : Bool)
  /-- An integer. -/
  | int (n : Int)
  /-- A double. -/
  | real (x : Float)
  /-- A day or a time. -/
  | stamp (s : Stamp)
  /-- A text. -/
  | text (s : String)
  /-- A text in which halves of pairs stand by themselves. -/
  | loose (points : CodePoints)
  /-- Bytes. -/
  | bytes (data : List UInt8)
  /-- A list. -/
  | list (items : List Document)
  /-- A key and a value that stand in a list together. -/
  | pair (key value : Document)
  /-- A set, in the order of its values, which differ. -/
  | set (items : List Document)
  /-- A mapping, in the order of its keys, which differ. -/
  | mapping (fields : List (Document × Document))
  /-- The list or mapping around this place. -/
  | around (isMapping : Bool)
deriving Inhabited

/-- Why a value cannot be written in a message. -/
inductive Unwritten where
  /-- Too many values lie inside each other. -/
  | nested
  /-- An integer has too many digits. -/
  | long
deriving DecidableEq, Repr

/-- What is said about a value that cannot be written. -/
def Unwritten.message : Unwritten → String
  | nested => "maximum recursion depth exceeded while getting the repr of an object"
  | long =>
    "Exceeds the limit (" ++ toString Numeral.digitLimit ++ " digits) for integer string conversion;"
      ++ " use sys.set_int_max_str_digits() to increase the limit"

namespace Document

/-- The name of a value's type. -/
def typeName : Document → String
  | null => "NoneType"
  | bool _ => "bool"
  | int _ => "int"
  | real _ => "float"
  | stamp s => s.typeName
  | text _ => "str"
  | loose _ => "str"
  | bytes _ => "bytes"
  | list _ | around false => "list"
  | pair _ _ => "tuple"
  | set _ => "set"
  | mapping _ | around true => "dict"

/-- The name of a value's type with the family it belongs to, if it has one. -/
def className : Document → String
  | stamp s => s.className
  | d => d.typeName

mutual

/-- A value as it is quoted inside another one. -/
def quoted : Document → String
  | null => "None"
  | bool b => if b then "True" else "False"
  | int n => toString n
  | real x => Decimal.shortest x
  | stamp s => s.quoted
  | text s => Text.quoted s
  | loose ps => Text.quotedPoints ps
  | bytes data => Text.quotedBytes data
  | list items => "[" ++ String.intercalate ", " (quotedItems items) ++ "]"
  | pair key value => "(" ++ quoted key ++ ", " ++ quoted value ++ ")"
  | set [] => "set()"
  | set items => "\x7b" ++ String.intercalate ", " (quotedItems items) ++ "\x7d"
  | around false => "[...]"
  | around true => "\x7b...\x7d"
  | mapping fields => "\x7b" ++ String.intercalate ", " (quotedFields fields) ++ "\x7d"

/-- The values of a list as they are quoted. -/
def quotedItems : List Document → List String
  | [] => []
  | d :: ds => quoted d :: quotedItems ds

/-- The keys and values of a mapping as they are quoted. -/
def quotedFields : List (Document × Document) → List String
  | [] => []
  | (key, d) :: rest => (quoted key ++ ": " ++ quoted d) :: quotedFields rest

end

/-- A value as it is written in a message: a text, a day or a time as it stands, anything else as
it is quoted. -/
def shown : Document → String
  | stamp s => s.shown
  | text s => s
  | loose ps => Text.ofPoints ps
  | d => d.quoted

/-- A value as it is written in a message, in lower case. -/
def lowered : Document → String
  | loose ps => Text.ofPoints (Text.lowercasePoints ps)
  | d => Text.lowercase d.shown

mutual

/-- What is met first that keeps a value from being quoted, if it may go down so many levels.  The
values of a set lie in a list of their own. -/
def obstacle? : (levels : Nat) → Document → Option Unwritten
  | 0, _ => some .nested
  | _ + 1, int n => if n.natAbs < 10 ^ Numeral.digitLimit then none else some .long
  | levels + 1, stamp s => if s.levels ≤ levels then none else some .nested
  | levels + 1, list items => itemsObstacle? levels items
  | levels + 1, pair key value => (obstacle? levels key).or (obstacle? levels value)
  | levels + 1, set items => itemsObstacle? (levels - 1) items
  | levels + 1, mapping fields => fieldsObstacle? levels fields
  | _ + 1, _ => none

/-- The same of the values of a list. -/
def itemsObstacle? (levels : Nat) : List Document → Option Unwritten
  | [] => none
  | d :: ds => (obstacle? levels d).or (itemsObstacle? levels ds)

/-- The same of the keys and values of a mapping. -/
def fieldsObstacle? (levels : Nat) : List (Document × Document) → Option Unwritten
  | [] => none
  | (key, d) :: rest =>
    ((obstacle? levels key).or (obstacle? levels d)).or (fieldsObstacle? levels rest)

end

/-- What keeps a value from being written by itself, if so many levels of values may lie inside it.
A day or a time is then not quoted. -/
def unwritten? (room : Nat) : Document → Option Unwritten
  | stamp _ => none
  | d => d.obstacle? (room + 1)

/-- Whether a value counts as true: everything but nothing, false, zero, and what is empty. -/
def isTruthy : Document → Bool
  | null => false
  | bool b => b
  | int n => n != 0
  | real x => !(x == 0)
  | stamp _ => true
  | text s => s != ""
  | loose ps => !ps.isEmpty
  | bytes data => !data.isEmpty
  | list items => !items.isEmpty
  | set items => !items.isEmpty
  | mapping fields => !fields.isEmpty
  | pair _ _ | around _ => true

/-- The text of code points. -/
def ofPoints (ps : CodePoints) : Document :=
  if ps.any Text.isHalf then loose ps else text (String.ofList (ps.map Char.ofNat))

/-- The number that a value stands for in arithmetic, in which truth values are zero and one. -/
def quantity? : Document → Option Quantity
  | .int n => some (.whole n)
  | .bool b => some (.whole (if b then 1 else 0))
  | .real x => some (.real x)
  | _ => none

/-- Whether two keys are the same.  Numbers of different types may be. -/
def sameKey (a b : Document) : Bool :=
  match a.quantity?, b.quantity? with
  | some m, some n => (m.le n && n.le m) || (m.isNaN && n.isNaN)
  | none, none =>
    match a, b with
    | null, null => true
    | stamp s, stamp t => s == t
    | text s, text t => s == t
    | loose ps, loose qs => ps == qs
    | bytes d, bytes e => d == e
    | _, _ => false
  | _, _ => false

/-- Whether a value can be a key. -/
def isKey : Document → Bool
  | list _ | set _ | mapping _ | around _ => false
  | _ => true

/-- The fields with another value of a key, behind the others if the key is new. -/
def put (fields : List (Document × Document)) (field : Document × Document) :
    List (Document × Document) :=
  if fields.any fun p => sameKey p.1 field.1 then
    fields.map fun p => if sameKey p.1 field.1 then (p.1, field.2) else p
  else fields ++ [field]

/-- The mapping of keys and values, of which the last value of a key counts. -/
def ofFields (fields : List (Document × Document)) : Document := mapping (fields.foldl put [])

/-- The set of values. -/
def ofItems (items : List Document) : Document :=
  set ((items.foldl (fun fields d => put fields (d, null)) []).map Prod.fst)

/-- The value of a key. -/
def field? (fields : List (Document × Document)) (key : String) : Option Document :=
  (fields.find? fun p => sameKey p.1 (text key)).map Prod.snd

end Document

end Chip8
