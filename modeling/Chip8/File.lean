import Chip8.Text.Encoding

/-!
# Files and their names

A name is followed part by part, from the place where the program runs or, if it starts with a
slash, from the root.  A single dot stays where it is and two dots go up.  A file ends the walk: any
part behind it, even an empty one, asks for a directory that is not there.  A name that leads to a
directory leads to nothing that could be read.

The files of the place where the program runs are given; elsewhere there are no files, only the
usual directories at the root.
-/

namespace Chip8

/-- Why a file cannot be read. -/
inductive FileError where
  /-- There is no file of that name. -/
  | missing (name : CodePoints)
  /-- The name belongs to a directory. -/
  | directory (name : CodePoints)
  /-- A file stands in the name where a directory should. -/
  | notDirectory (name : CodePoints)
  /-- The name or a part of it is too long. -/
  | nameTooLong (name : CodePoints)
  /-- The name has the character zero in it, which no name has. -/
  | zeroInName
  /-- The name cannot be written as bytes. -/
  | unencodable (cause : Text.EncodingError)
deriving DecidableEq, Repr

namespace FileError

/-- What is said about a file that cannot be read. -/
def message : FileError → String
  | missing name => "[Errno 2] No such file or directory: " ++ Text.quotedPoints name
  | directory name => "[Errno 21] Is a directory: " ++ Text.quotedPoints name
  | notDirectory name => "[Errno 20] Not a directory: " ++ Text.quotedPoints name
  | nameTooLong name => "[Errno 36] File name too long: " ++ Text.quotedPoints name
  | zeroInName => "embedded null byte"
  | unencodable cause => cause.message

/-- Whether no file could ever have the name. -/
def isNoName : FileError → Bool
  | zeroInName | unencodable _ => true
  | _ => false

end FileError

namespace FileName

/-- The greatest number of bytes of a part of a name. -/
def partLimit : Nat := 255

/-- The greatest number of bytes of a name. -/
def limit : Nat := 4095

/-- The number of bytes of a name or a part of one. -/
def byteCount (ps : CodePoints) : Nat :=
  ps.foldl (fun count p => count + Text.byteCount p) 0

/-- The code point between two parts of a name. -/
def slash : Nat := '/'.toNat

/-- The parts of a name. -/
def split : CodePoints → List CodePoints
  | [] => [[]]
  | n :: rest =>
    if n = slash then [] :: split rest
    else
      match split rest with
      | part :: parts => (n :: part) :: parts
      | [] => [[n]]

/-- Whether a part of a name stays where it is. -/
def isHere (part : CodePoints) : Bool := part = [] || part = Text.points "."

/-- Whether a part of a name goes up. -/
def isUp (part : CodePoints) : Bool := part = Text.points ".."

/-- The usual directories at the root. -/
def rootDirectories : List CodePoints :=
  ["bin", "dev", "etc", "home", "lib", "proc", "sys", "tmp", "usr", "var"].map Text.points

/-- A directory. -/
inductive Place where
  /-- Where the program runs. -/
  | home
  /-- The root. -/
  | root
  /-- Any other one. -/
  | elsewhere
deriving DecidableEq, Repr

/-- The directory above. -/
def Place.up : Place → Place
  | root => root
  | _ => elsewhere

/-- Follows the parts of a name from a directory on. -/
def follow {α : Type} (files : CodePoints → Option α) (name : CodePoints) :
    Place → List CodePoints → Except FileError α
  | _, [] => throw (.directory name)
  | place, part :: rest =>
    if isHere part then follow files name place rest
    else if isUp part then follow files name place.up rest
    else if partLimit < byteCount part then throw (.nameTooLong name)
    else
      match place with
      | .home =>
        match files part with
        | some content => if rest = [] then pure content else throw (.notDirectory name)
        | none => throw (.missing name)
      | .root =>
        if part ∈ rootDirectories then follow files name .elsewhere rest
        else throw (.missing name)
      | .elsewhere => throw (.missing name)

/-- Refuses what is no name, and gives the directory from which a name is followed and its parts. -/
def parts (name : CodePoints) : Except FileError (Place × List CodePoints) :=
  match Text.encodingError? Text.isRefusedInName name with
  | some cause => throw (.unencodable cause)
  | none =>
    if name.contains 0 then throw .zeroInName
    else if name = [] then throw (.missing name)
    else if limit < byteCount name then throw (.nameTooLong name)
    else pure (if name.head? = some slash then .root else .home, split name)

/-- Finds a file among the given ones. -/
def find {α : Type} (files : CodePoints → Option α) (name : CodePoints) : Except FileError α := do
  let (place, parts) ← parts name
  follow files name place parts

/-- Follows the parts of the name of a file that is to be written.  The last part may be anything,
but a slash behind it asks for a directory, which is found out before the part is looked at. -/
def followNew (name : CodePoints) : Place → List CodePoints → Except FileError Unit
  | _, [] => throw (.directory name)
  | place, part :: rest =>
    if isHere part then followNew name place rest
    else if isUp part then followNew name place.up rest
    else if rest ≠ [] ∧ rest.all (· = []) then throw (.directory name)
    else if partLimit < byteCount part then throw (.nameTooLong name)
    else if rest = [] then pure ()
    else if place = .root ∧ part ∈ rootDirectories then followNew name .elsewhere rest
    else throw (.missing name)

/-- Whether a file can be written under a name, where nothing has been written yet. -/
def checkNew (name : CodePoints) : Except FileError Unit := do
  let (place, parts) ← parts name
  followNew name place parts

end FileName

/-- The error for a name that belongs to no file. -/
def FileError.ofAbsent (name : CodePoints) : FileError :=
  match FileName.find (fun _ => (none : Option Unit)) name with
  | .error cause => cause
  | .ok _ => .missing name

end Chip8
