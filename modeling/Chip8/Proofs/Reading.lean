import Chip8.Keypad.Terminal
import Chip8.Proofs.Keypress
import Mathlib.Logic.Relation
import Mathlib.Order.WellFounded

/-!
# The reading loop takes in all of its input

The reading loop reads chunks until a read gives nothing.  How much one read gives is not up to the
loop: it may be any number of the bytes that are there, but one at least and `chunkSize` at most.
`Round` is one round of the loop with the cut left open, so that what is shown of its runs holds
however the input is cut; the loop that always reads as much as it can makes one of these runs.

`Takes` says where a run stands: what was read and what is left make up the input, the events are
those of the chunks that were read, one after another, and the keypad is the one to which the same
characters and checks lead by themselves.  A round keeps it, and leaves fewer bytes or is the last.

The main result is `Terminal.readLoop_takes_all`.
-/

namespace Chip8

/-- The character that was typed, if the event is not a look for expired keys. -/
def ReadEvent.char? : ReadEvent → Option Char
  | typed char _ _ => some char
  | expired _ => none

/-- The characters of the ASCII bytes among some bytes. -/
def typedChars (data : List UInt8) : List Char :=
  (data.filter (· < 128)).map fun b => Char.ofNat b.toNat

lemma typedChars_append (front back : List UInt8) :
    typedChars (front ++ back) = typedChars front ++ typedChars back := by
  simp [typedChars]

/-- What is to be told of chunks: the characters of each, and after each that expired keys were
looked for. -/
def tellings (chunks : List (List UInt8)) : List (Option Char) :=
  chunks.flatMap fun chunk => (typedChars chunk).map some ++ [none]

/-- The characters that are told of are those of all the chunks, however they were cut. -/
lemma filterMap_tellings (chunks : List (List UInt8)) :
    (tellings chunks).filterMap id = typedChars chunks.flatten := by
  induction chunks with
  | nil => rfl
  | cons chunk rest ih =>
    rw [List.flatten_cons, typedChars_append, ← ih]
    simp [tellings]

namespace TypedKeypad

variable {κ τ : Type} [Clock κ τ]

/-- What typing characters one after another leads to. -/
def typeAll (t : TypedKeypad κ τ) (chars : List Char) : TypedKeypad κ τ :=
  chars.foldl (fun t c => (t.feed c.toString).2) t

lemma asciiChars_eq (data : List UInt8) : asciiChars data = typedChars data := by
  induction data with
  | nil => rfl
  | cons b rest ih =>
    by_cases hb : b < 128 <;> simp_all [asciiChars, typedChars]

lemma feedAll_events (chars : List Char) (t : TypedKeypad κ τ) :
    (feedAll chars t).1.map ReadEvent.char? = chars.map some := by
  induction chars generalizing t with
  | nil => rfl
  | cons c rest ih => simp [feedAll, ReadEvent.char?, ih]

lemma feedAll_keys (chars : List Char) (t : TypedKeypad κ τ) :
    (feedAll chars t).2 = t.typeAll chars := by
  induction chars generalizing t with
  | nil => rfl
  | cons c rest ih => simp [feedAll, typeAll, ih]

variable [Sub τ] [LE τ] [DecidableLE τ]

/-- What a chunk leads to: its characters are typed, and then expired keys are released, once. -/
def takeIn (t : TypedKeypad κ τ) (chunk : List UInt8) : TypedKeypad κ τ :=
  (t.typeAll (typedChars chunk)).releaseExpired

lemma readChunk_keys (chunk : List UInt8) (t : TypedKeypad κ τ) :
    (readChunk chunk t).2 = t.takeIn chunk := by
  simp [readChunk, takeIn, feedAll_keys, asciiChars_eq]

lemma readChunk_events (chunk : List UInt8) (t : TypedKeypad κ τ) :
    (readChunk chunk t).1.map ReadEvent.char? = (typedChars chunk).map some ++ [none] := by
  simp [readChunk, feedAll_events, asciiChars_eq, ReadEvent.char?]

end TypedKeypad

open TypedKeypad

/-- How far a reading loop has come. -/
structure Reading (κ τ : Type) where
  /-- The bytes that are left of the input. -/
  rest : List UInt8
  /-- What was read, chunk by chunk. -/
  chunks : List (List UInt8)
  /-- The keypad. -/
  keys : TypedKeypad κ τ
  /-- What has happened. -/
  events : List ReadEvent
  /-- Whether the loop is over. -/
  isOver : Bool

namespace Reading

variable {κ τ : Type} [Clock κ τ] [Sub τ] [LE τ] [DecidableLE τ]

/-- The loop before its first round. -/
def atStart (data : List UInt8) (keys : TypedKeypad κ τ) : Reading κ τ :=
  ⟨data, [], keys, [], false⟩

/-- One round of the loop.  While bytes are left, a read gives some of them; when none is left, it
gives none, and the loop is over. -/
inductive Round : Reading κ τ → Reading κ τ → Prop where
  | chunk {chunk rest : List UInt8} {chunks : List (List UInt8)} {keys : TypedKeypad κ τ}
      {events : List ReadEvent} (some_read : chunk ≠ []) (length_le : chunk.length ≤ chunkSize) :
      Round ⟨chunk ++ rest, chunks, keys, events, false⟩
        ⟨rest, chunks ++ [chunk], (readChunk chunk keys).2, events ++ (readChunk chunk keys).1,
          false⟩
  | finish {chunks : List (List UInt8)} {keys : TypedKeypad κ τ} {events : List ReadEvent} :
      Round ⟨[], chunks, keys, events, false⟩ ⟨[], chunks, keys.releaseAll, events, true⟩

/-- What rounds lead to. -/
abbrev Reaches : Reading κ τ → Reading κ τ → Prop := Relation.ReflTransGen Round

/-! ### The loop comes to its end -/

/-- How many rounds a loop can have before it at most. -/
def ahead (r : Reading κ τ) : ℕ := r.rest.length + if r.isOver then 0 else 1

lemma Round.ahead_lt {r r' : Reading κ τ} (h : Round r r') : r'.ahead < r.ahead := by
  cases h with
  | chunk some_read _ =>
    have := List.length_pos_iff.2 some_read
    simp [ahead]
    omega
  | finish => simp [ahead]

/-- No run of rounds is endless. -/
lemma wellFounded_round : WellFounded fun r' r : Reading κ τ => Round r r' :=
  Subrelation.wf Round.ahead_lt (measure ahead).wf

/-- Only a loop that is over cannot go on. -/
lemma exists_round {r : Reading κ τ} (h : r.isOver = false) : ∃ r', Round r r' := by
  obtain ⟨rest, chunks, keys, events, isOver⟩ := r
  obtain rfl : isOver = false := h
  cases rest with
  | nil => exact ⟨_, .finish⟩
  | cons b rest => exact ⟨_, .chunk (List.cons_ne_nil b []) (by simp [chunkSize])⟩

/-! ### What a loop has taken in -/

/-- A loop on some input that began with the given keys has taken in what it has read. -/
structure Takes (data : List UInt8) (keys : TypedKeypad κ τ) (r : Reading κ τ) : Prop where
  data_eq : r.chunks.flatten ++ r.rest = data
  sizes : ∀ chunk ∈ r.chunks, chunk ≠ [] ∧ chunk.length ≤ chunkSize
  events_eq : r.events.map ReadEvent.char? = tellings r.chunks
  keys_eq : r.keys =
    if r.isOver then (r.chunks.foldl takeIn keys).releaseAll else r.chunks.foldl takeIn keys
  rest_eq : r.isOver = true → r.rest = []

namespace Takes

variable {data : List UInt8} {keys : TypedKeypad κ τ} {r r' : Reading κ τ}

lemma atStart (data : List UInt8) (keys : TypedKeypad κ τ) :
    Takes data keys (atStart data keys) where
  data_eq := rfl
  sizes := by simp [Reading.atStart]
  events_eq := rfl
  keys_eq := rfl
  rest_eq := nofun

lemma round (h : Takes data keys r) (hround : Round r r') : Takes data keys r' := by
  cases hround with
  | @chunk chunk rest chunks held events some_read length_le =>
    have hevents : events.map ReadEvent.char? = tellings chunks := h.events_eq
    have hkeys : held = chunks.foldl takeIn keys := h.keys_eq
    refine ⟨?_, ?_, ?_, ?_, nofun⟩
    · simpa using h.data_eq
    · intro c hc
      rcases List.mem_append.1 hc with hc | hc
      · exact h.sizes c hc
      · rw [List.mem_singleton.1 hc]
        exact ⟨some_read, length_le⟩
    · rw [List.map_append, hevents, readChunk_events]
      simp [tellings]
    · simp [readChunk_keys, hkeys]
  | @finish chunks held events =>
    have hkeys : held = chunks.foldl takeIn keys := h.keys_eq
    exact ⟨h.data_eq, h.sizes, h.events_eq, congrArg TypedKeypad.releaseAll hkeys, fun _ => rfl⟩

lemma reaches (h : Takes data keys r) (hrun : Reaches r r') : Takes data keys r' := by
  induction hrun with
  | refl => exact h
  | tail _ hround ih => exact ih.round hround

end Takes

/-! ### The loop that reads as much as it can -/

lemma reaches_readAvailable (data : List UInt8) (keys : TypedKeypad κ τ)
    (chunks : List (List UInt8)) (events : List ReadEvent) :
    ∃ chunks', Reaches ⟨data, chunks, keys, events, false⟩
      ⟨[], chunks', (readAvailable data keys).2, events ++ (readAvailable data keys).1, false⟩ := by
  fun_induction readAvailable data keys generalizing chunks events with
  | case1 keys =>
    refine ⟨chunks, ?_⟩
    rw [List.append_nil]
  | case2 data keys hne events₁ keys₁ hchunk events₂ keys₂ hmore ih =>
    have htake : data.take chunkSize ≠ [] := by simp [chunkSize, hne]
    have hround : Round ⟨data.take chunkSize ++ data.drop chunkSize, chunks, keys, events, false⟩
        ⟨data.drop chunkSize, chunks ++ [data.take chunkSize], (readChunk _ keys).2,
          events ++ (readChunk _ keys).1, false⟩ := .chunk htake (List.length_take_le _ _)
    rw [List.take_append_drop, hchunk] at hround
    obtain ⟨chunks', hrest⟩ := ih (chunks ++ [data.take chunkSize]) (events ++ events₁)
    rw [hmore, List.append_assoc] at hrest
    exact ⟨chunks', .head hround hrest⟩

lemma reaches_readToEnd (data : List UInt8) (keys : TypedKeypad κ τ) :
    ∃ chunks, Reaches (atStart data keys)
      ⟨[], chunks, (readToEnd data keys).2, (readToEnd data keys).1, true⟩ := by
  obtain ⟨chunks, hrun⟩ := reaches_readAvailable data keys [] []
  exact ⟨chunks, hrun.tail .finish⟩

end Reading

namespace Terminal

variable {κ τ : Type} [Clock κ τ] [Sub τ] [LE τ] [DecidableLE τ]

open Reading

/-- **The reading loop takes in all of its input.**  Let the reading loop of a terminal run on an
input that holds some bytes and then ends, and let it not have been asked to stop.  What it does is
one of the runs of rounds from the start.  However the input is cut into chunks, no run of rounds is
endless, and only one that is over cannot go on.  In a run that is over the chunks that were read
make up the input; what was typed are the characters of its ASCII bytes, each once and in order;
after the characters of each chunk expired keys were looked for once, and not again behind the last
chunk; the keypad is the one to which this leads, but with all keys released; so no key is down,
whatever was held before, and no press time is left. -/
theorem readLoop_takes_all (t : Terminal κ τ) (h : t.stopRequested = false) (data : List UInt8) :
    (∃ chunks, Reaches (atStart data t.keys)
      ⟨[], chunks, (t.readLoop data).2.keys, (t.readLoop data).1, true⟩) ∧
    Acc (fun r' r => Round r r') (atStart data t.keys) ∧
    (∀ r, Reaches (atStart data t.keys) r → r.isOver = false → ∃ r', Round r r') ∧
    ∀ r, Reaches (atStart data t.keys) r → r.isOver = true →
      r.chunks.flatten = data ∧
      (∀ chunk ∈ r.chunks, chunk ≠ [] ∧ chunk.length ≤ chunkSize) ∧
      r.events.filterMap ReadEvent.char? = typedChars data ∧
      r.events.map ReadEvent.char? =
        r.chunks.flatMap (fun chunk => (typedChars chunk).map some ++ [none]) ∧
      r.keys = (r.chunks.foldl takeIn t.keys).releaseAll ∧
      (∀ key : Key, r.keys.keypad.isDown key.val = false) ∧ r.keys.pressedAt = [] := by
  refine ⟨?_, wellFounded_round.apply _, fun r _ => exists_round, ?_⟩
  · have hloop : t.readLoop data =
        ((t.keys.readToEnd data).1, { t with keys := (t.keys.readToEnd data).2 }) := by
      simp [readLoop, h]
    rw [hloop]
    exact reaches_readToEnd data t.keys
  · intro r hrun hover
    have htakes := (Takes.atStart data t.keys).reaches hrun
    have hdata : r.chunks.flatten = data := by
      simpa [htakes.rest_eq hover] using htakes.data_eq
    have hkeys : r.keys = (r.chunks.foldl takeIn t.keys).releaseAll := by
      rw [htakes.keys_eq, if_pos hover]
    refine ⟨hdata, htakes.sizes, ?_, htakes.events_eq, hkeys, ?_, ?_⟩
    · rw [← hdata, ← filterMap_tellings, ← htakes.events_eq, List.filterMap_map, Function.id_comp]
    · intro key
      rw [hkeys]
      exact Keypad.isDown_releaseAll _ key
    · rw [hkeys]
      rfl

/-- A first chunk without a character is not the end, and a key that was held before is released. -/
theorem readLoop_takes_all_pastOthers :
    let t : Terminal (SteadyClock ℤ) ℤ :=
      { keys := ⟨Keypad.initial.press 0x5, 3, ⟨0, 1⟩, [(0x5, 0)]⟩, isTerminal := true }
    let data := List.replicate 32 0xFF ++ [0x71]
    t.stopRequested = false ∧
      (t.readLoop data).1.filterMap ReadEvent.char? = ['q'] ∧
      t.keys.keypad.held = [0x5] ∧
      (∀ key : Key, (t.readLoop data).2.keys.keypad.isDown key.val = false) ∧
      (t.readLoop data).2.keys.pressedAt = [] := by
  intro t data
  obtain ⟨⟨chunks, hrun⟩, -, -, hall⟩ := readLoop_takes_all t rfl data
  obtain ⟨-, -, htyped, -, -, hup, hnone⟩ := hall _ hrun rfl
  exact ⟨rfl, htyped.trans (by decide), by decide, hup, hnone⟩

end Terminal

end Chip8
