import Chip8.Keypad.Wait

/-!
# Keypad steps and scripts

What can be asked of a keypad step by step.  For the waits among these steps batches of steps lie
ready: whenever a wait lets the world act, the steps of the next batch are performed.  They may be
any steps, so a batch can lay further batches ready, behind those that are there, and a wait can lie
inside a wait.  What no wait needs stays.

A wait inside a wait ends the waiting for both: keys that go down afterwards are not remembered.
-/

namespace Chip8

/-- A step on a keypad on which actions of type `α` can be performed. -/
inductive KeypadOp (α : Type) where
  /-- Something is done to it. -/
  | act (action : α)
  /-- Is the key with the given number down? -/
  | isDown (number : Int)
  /-- Is any key down? -/
  | anyDown
  /-- Are waits interrupted? -/
  | interrupted
  /-- Which keys are down? -/
  | held
  /-- Waits for a key, with a time limit or without. -/
  | wait (timed : Bool)
  /-- Lays batches of steps ready for waits. -/
  | script (batches : List (List (KeypadOp α)))

/-- The answer to a step on a keypad whose actions answer with a `β`. -/
inductive KeypadReply (β : Type) where
  /-- Done. -/
  | done
  /-- What an action answers. -/
  | acted (reply : β)
  /-- Yes or no. -/
  | truth (b : Bool)
  /-- Keys. -/
  | keys (numbers : List Nat)
  /-- A key, or none. -/
  | key (key : Option Key)
deriving DecidableEq, Repr

/-- Something with a keypad, and the batches of steps that lie ready for waits. -/
structure Scripted (σ α : Type) where
  /-- The thing. -/
  thing : σ
  /-- The batches, those that come first in front. -/
  batches : List (List (KeypadOp α))

instance {σ α : Type} [HasKeypad σ] : HasKeypad (Scripted σ α) :=
  ⟨fun s => HasKeypad.keypad s.thing, fun s k => { s with thing := HasKeypad.withKeypad s.thing k }⟩

namespace KeypadOp

variable {α : Type}

mutual

/-- The number of steps and batches that a step consists of. -/
def weight : KeypadOp α → Nat
  | script batches => weightOfBatches batches + 1
  | _ => 1

/-- The number of steps and batches that some batches consist of. -/
def weightOfBatches : List (List (KeypadOp α)) → Nat
  | [] => 0
  | batch :: rest => weightOfBatch batch + weightOfBatches rest + 1

/-- The number of steps and batches that a batch consists of. -/
def weightOfBatch : List (KeypadOp α) → Nat
  | [] => 0
  | op :: rest => weight op + weightOfBatch rest

end

end KeypadOp

namespace Scripted

variable {σ α ρ : Type}

/-- Performs steps in order, up to the first that fails. -/
def performAll (perform : KeypadOp α → Scripted σ α → Except Failure ρ × Scripted σ α) :
    List (KeypadOp α) → Scripted σ α → Except Failure Unit × Scripted σ α
  | [], s => (.ok (), s)
  | op :: rest, s =>
    match perform op s with
    | (.ok _, s) => performAll perform rest s
    | (.error e, s) => (.error e, s)

/-- Performs the next batch, if one is left. -/
def performNext (perform : KeypadOp α → Scripted σ α → Except Failure ρ × Scripted σ α)
    (s : Scripted σ α) : Option (Except Failure Unit × Scripted σ α) :=
  match s.batches with
  | [] => none
  | batch :: rest => some (performAll perform batch { s with batches := rest })

/-- How often a wait can let the world act at most. -/
def rounds (s : Scripted σ α) : Nat := KeypadOp.weightOfBatches s.batches

end Scripted

namespace KeypadOp

variable {σ α β : Type} [HasKeypad σ]

/-- Performs a step, with at most `depth` waits inside each other. -/
def performWithin (act : α → σ → Except Failure β × σ) :
    (depth : Nat) → KeypadOp α → Scripted σ α →
      Except Failure (KeypadReply β) × Scripted σ α
  | 0, _, s => (.ok .done, s)
  | depth + 1, op, s =>
    let keypad := HasKeypad.keypad s
    let next := Scripted.performNext (performWithin act depth)
    match op with
    | .act action =>
      let (result, thing) := act action s.thing
      (result.map .acted, { s with thing })
    | .isDown number => (.ok (.truth (keypad.isDown number)), s)
    | .anyDown => (.ok (.truth keypad.anyDown), s)
    | .interrupted => (.ok (.truth keypad.interrupted), s)
    | .held => (.ok (.keys keypad.held), s)
    | .wait false =>
      let (result, s) := Keypad.wait next s.rounds s
      (result.map fun key => .key (some key), s)
    | .wait true =>
      let (result, s) := Keypad.waitBriefly next s.rounds s
      (result.map .key, s)
    | .script more => (.ok .done, { s with batches := s.batches ++ more })

/-- Performs a step. -/
def perform (act : α → σ → Except Failure β × σ) (op : KeypadOp α) (s : Scripted σ α) :
    Except Failure (KeypadReply β) × Scripted σ α :=
  performWithin act (op.weight + s.rounds + 1) op s

end KeypadOp

namespace Scripted

variable {σ α β : Type} [HasKeypad σ]

/-- Waits for a key without a time limit. -/
def waitForKey (act : α → σ → Except Failure β × σ) (s : Scripted σ α) :
    Except Failure Key × Scripted σ α :=
  Keypad.wait (performNext (KeypadOp.performWithin act (s.rounds + 1))) s.rounds s

end Scripted

end Chip8
