import Chip8.Yaml.Node
import Chip8.Yaml.Scalar

/-!
# Values of nodes

A node stands for a value by its tag, which is that of its shape if it has none.  Mappings that are
merged into another one come in front of its own keys.

Values are made level by level: those of a level are looked at from left to right before any that
lies deeper.  So of several flaws the first of those that lie least deep counts.  Whether a list or
mapping can be made is looked at with what lies in it.
-/

namespace Chip8.Yaml

/-- A mistake that is met when values are made. -/
def valueMistake (activity : Option (Activity × Text.Mark)) (problem : Problem)
    (place : Text.Mark) : Flaw :=
  .mistake ⟨.constructing, activity.map fun a => (a.1, some a.2), problem, place⟩

namespace Node

/-- The tag of a node, found out by its form if it has none. -/
def tag : Node → String
  | scalar (some tag) _ _ => tag
  | scalar none ps _ => (Kind.ofPoints ps).tag
  | sequence tag _ _ | mapping tag _ _ => tag
  | around false _ => coreTag "seq"
  | around true _ => coreTag "map"

/-- A node that stands for a text. -/
def asText : Node → Node
  | scalar _ ps place => scalar (some Kind.text.tag) ps place
  | sequence _ items place => sequence Kind.text.tag items place
  | mapping _ fields place => mapping Kind.text.tag fields place
  | node => node

/-! ### Merging -/

/-- The keys of a mapping and their values without what is merged. -/
def ownFields (fields : List (Node × Node)) : List (Node × Node) :=
  (fields.filter fun f => f.1.tag ≠ Kind.merge.tag).map fun f =>
    if f.1.tag = Kind.value.tag then (f.1.asText, f.2) else f

mutual

/-- What is merged into the mapping at a place. -/
def mergedFields (place : Text.Mark) : List (Node × Node) → Except Flaw (List (Node × Node))
  | [] => pure []
  | (key, value) :: rest => do
    let merged ← if key.tag = Kind.merge.tag then sources place value else pure []
    pure (merged ++ (← mergedFields place rest))

/-- What a node gives to the mapping at a place: the keys of a mapping, or those of several
mappings, the last one first. -/
def sources (place : Text.Mark) : Node → Except Flaw (List (Node × Node))
  | .mapping _ fields start => do pure ((← mergedFields start fields) ++ ownFields fields)
  | .sequence _ items _ => sourcesOfItems place items
  | .around _ _ => pure []
  | .scalar _ _ start =>
    throw (valueMistake (some (.mapping, place))
      (.expectedShape "a mapping or list of mappings for merging" "scalar") start)

/-- What several mappings give, the last one first. -/
def sourcesOfItems (place : Text.Mark) : List Node → Except Flaw (List (Node × Node))
  | [] => pure []
  | item :: rest => do
    let first ← match item with
      | .mapping _ fields start => do pure ((← mergedFields start fields) ++ ownFields fields)
      | .around true _ => pure []
      | node =>
        throw (valueMistake (some (.mapping, place))
          (.expectedShape "a mapping for merging" node.shape) node.place)
    pure ((← sourcesOfItems place rest) ++ first)

end

/-- All keys of the mapping at a place and their values. -/
def allFields (place : Text.Mark) (fields : List (Node × Node)) :
    Except Flaw (List (Node × Node)) := do
  pure ((← mergedFields place fields) ++ ownFields fields)

/-! ### Values -/

/-- A value that has been made, and the flaws that were met, each with its depth. -/
structure Made where
  /-- The value; nothing in the place of what could not be made. -/
  value : Document
  /-- The flaws. -/
  flaws : List (Nat × Flaw)

/-- A flaw in the place of a value. -/
def flawed (depth : Nat) (flaw : Flaw) : Made := ⟨.null, [(depth, flaw)]⟩

/-- A flaw inside of a list or mapping, which is found out with what lies in it. -/
def flawedInside (value : Document) (depth : Nat) (flaw : Flaw) : Made :=
  ⟨value, [(depth + 1, flaw)]⟩

/-- The text of a node that has to be a scalar.  A mapping may stand for one of its values. -/
def scalarText : (fuel : Nat) → Node → Except Flaw CodePoints
  | _, scalar _ ps _ => pure ps
  | fuel + 1, mapping _ fields place =>
    match fields.find? fun f => f.1.tag = Kind.value.tag with
    | some (_, value) => scalarText fuel value
    | none => throw (valueMistake none (.expectedShape "a scalar node" "mapping") place)
  | _, node => throw (valueMistake none (.expectedShape "a scalar node" node.shape) node.place)

/-- Values made one after another. -/
def together (makes : List Made) : List Document × List (Nat × Flaw) :=
  (makes.map Made.value, makes.flatMap Made.flaws)

/-- A key that has been made, in the mapping at a place; some values can be none. -/
def checkKey (depth : Nat) (start place : Text.Mark) (key : Made) : Made :=
  if key.value.isKey then key
  else
    let flaw := valueMistake (some (.mapping, start)) .strangeKey place
    { key with flaws := key.flaws ++ [(depth, flaw)] }

/-- A mapping of keys and values, or the set of its keys, made at a depth. -/
def makeMapping (isSet : Bool) (depth : Nat) (start : Text.Mark) (make : Node → Made)
    (fields : List (Node × Node)) : Made :=
  match allFields start fields with
  | .error flaw => flawedInside (if isSet then .set [] else .mapping []) depth flaw
  | .ok fields =>
    let made := fields.map fun f => (checkKey (depth + 1) start f.1.place (make f.1), make f.2)
    let flaws := made.flatMap fun f => f.1.flaws ++ f.2.flaws
    if isSet then ⟨.ofItems (made.map fun f => f.1.value), flaws⟩
    else ⟨.ofFields (made.map fun f => (f.1.value, f.2.value)), flaws⟩

/-- A list of pairs, each of them given as a mapping of one key. -/
def makePairs (activity : Activity) (depth : Nat) (start : Text.Mark) (make : Node → Made)
    (items : List Node) : Made :=
  let makePair (item : Node) : Made :=
    let refuse (wanted found : String) : Made :=
      flawedInside .null depth
        (valueMistake (some (activity, start)) (.expectedShape wanted found) item.place)
    match item with
    | mapping _ [(key, value)] _ =>
      let key := make key
      let value := make value
      ⟨.pair key.value value.value, key.flaws ++ value.flaws⟩
    | mapping _ fields _ =>
      refuse "a single mapping item" (toString fields.length ++ " items")
    | node => refuse "a mapping of length 1" node.shape
  let (values, flaws) := together (items.map makePair)
  ⟨.list values, flaws⟩

/-- Makes the value of a node at a depth. -/
def make : (fuel depth : Nat) → Node → Made
  | 0, _, _ => ⟨.null, []⟩
  | fuel + 1, depth, node =>
    let inner := make fuel (depth + 1)
    let refuse (value : Document) (activity : Option (Activity × Text.Mark)) (wanted : String) :
        Made :=
      flawedInside value depth
        (valueMistake activity (.expectedShape wanted node.shape) node.place)
    let pairs (activity : Activity) : Made :=
      match node with
      | sequence _ items start => makePairs activity depth start inner items
      | node => refuse (.list []) (some (activity, node.place)) "a sequence"
    let mapped (isSet : Bool) : Made :=
      match node with
      | mapping _ fields start => makeMapping isSet depth start inner fields
      | _ => refuse (if isSet then .set [] else .mapping []) none "a mapping node"
    match node with
    | around isMapping _ => ⟨.around isMapping, []⟩
    | node =>
      match Kind.ofTag? node.tag with
      | some kind =>
        match scalarText fuel node >>= Scalar.read kind node.place with
        | .ok d => ⟨d, []⟩
        | .error flaw => flawed depth flaw
      | none =>
        if node.tag = coreTag "seq" then
          match node with
          | sequence _ items _ =>
            let (values, flaws) := together (items.map inner)
            ⟨.list values, flaws⟩
          | _ => refuse (.list []) none "a sequence node"
        else if node.tag = coreTag "map" then mapped false
        else if node.tag = coreTag "set" then mapped true
        else if node.tag = coreTag "omap" then pairs .orderedMapping
        else if node.tag = coreTag "pairs" then pairs .pairs
        else flawed depth (valueMistake none (.unknownTag node.tag) node.place)

/-- The flaw that counts: the first of those that lie least deep. -/
def leastDeep : List (Nat × Flaw) → Option Flaw
  | [] => none
  | found :: more =>
    some (more.foldl (fun best next => if next.1 < best.1 then next else best) found).2

end Node

/-- The document that a text in YAML holds. -/
def read (cs : List Char) : Except Flaw Document := do
  match ← Node.ofText? cs with
  | none => pure .null
  | some node =>
    let made := node.make (4 * cs.length + 8) 0
    match Node.leastDeep made.flaws with
    | some flaw => throw flaw
    | none => pure made.value

end Chip8.Yaml
