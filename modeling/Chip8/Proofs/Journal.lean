import Chip8.Proofs.Requests

/-!
# What the journal tells

A storage answers what a memory answers, and writes down every byte that it reads or writes.  Its
journal is faithful: it has the bytes of all requests that were not refused and of no others, in
order, and each entry has the byte that was found at the time.  So the journal can be made once more
on the memory as it was in the beginning, and taken back from the memory as it is.

Each request is checked as a whole before anything is noted, so what one request adds to the journal
is a function of the request and the memory, `Request.entries`.  These entries find their bytes in
the memory before the request and make of it the memory behind it.  The main result,
`journal_faithful`, follows by induction on the requests.
-/

namespace Chip8

/-- What a storage is asked for. -/
inductive StorageRequest where
  /-- For what a memory is asked for, which is noted. -/
  | noted (r : Request)
  /-- To look at a byte, which is not. -/
  | peek (address : ℤ)

/-- Where the byte of an entry is, and the byte that was written there if one was. -/
def Access.outline : Access → ℤ × Option UInt8
  | read address _ => (address, none)
  | write address data _ => (address, some data)

/-- The bytes of an access one after another, each with what was written there. -/
def Request.outline (r : Request) : List (ℤ × Option UInt8) :=
  (List.range r.count).map fun k : ℕ => (r.address + k, r.data[k]?)

/-- The bytes that a request finds in a memory. -/
def Request.present (m : Memory) (r : Request) : List UInt8 :=
  (List.range' r.address.toNat r.count).map m.byteAt

/-- What a request adds to the journal of a memory. -/
def Request.entries (m : Memory) (r : Request) : List Access :=
  match r with
  | readByte _ | readWord _ | readBytes _ _ => Storage.readEntries r.address (r.present m)
  | writeByte _ _ | writeBytes _ _ => Storage.writeEntries r.address r.data (r.present m)

namespace StorageRequest

/-- How a storage refuses a request, if it does.  It always looks at the place first. -/
def refusal? (size : ℕ) : StorageRequest → Option Failure
  | noted r => (r.outside? size).or r.misfit?
  | peek address => (Request.readByte address).outside? size

/-- The answer to a request that is not refused, if the memory has these bytes. -/
def answer (cell : ℕ → UInt8) : StorageRequest → Answer
  | noted r => r.answer cell
  | peek address => (Request.readByte address).answer cell

/-- The bytes that are noted. -/
def outline : StorageRequest → List (ℤ × Option UInt8)
  | noted r => r.outline
  | peek _ => []

/-- The bytes that are noted of all requests but those that a memory of some size refuses. -/
def outlineAll (size : ℕ) (history : List StorageRequest) : List (ℤ × Option UInt8) :=
  (history.filter fun q => (q.refusal? size).isNone).flatMap outline

end StorageRequest

namespace Storage

/-- The answer to a request, and the storage then. -/
def serve (s : Storage) : StorageRequest → Except Failure (Answer × Storage)
  | .noted (.readByte address) => do
    let (b, s') ← s.readByte address
    pure (.number b.toNat, s')
  | .noted (.readWord address) => do
    let (w, s') ← s.readWord address
    pure (.number w.value, s')
  | .noted (.readBytes address count) => do
    let (data, s') ← s.readBytes address count
    pure (.bytes data, s')
  | .noted (.writeByte address value) => do
    let s' ← s.writeByte address value
    pure (.done, s')
  | .noted (.writeBytes address values) => do
    let s' ← s.writeValues address values
    pure (.done, s')
  | .peek address => do
    let b ← s.peek address
    pure (.number b.toNat, s)

/-- The storage once it was asked for something that it did not refuse. -/
def noting (s : Storage) : StorageRequest → Storage
  | .noted r => ⟨s.memory.overwrite r.address.toNat r.data, s.journal ++ r.entries s.memory⟩
  | .peek _ => s

/-- The storage once it has been asked. -/
def ask (s : Storage) (q : StorageRequest) : Storage :=
  match s.serve q with
  | .ok (_, s') => s'
  | .error _ => s

/-- The storage once it has been asked for all this. -/
def after (s : Storage) (history : List StorageRequest) : Storage := history.foldl ask s

lemma after_concat (s : Storage) (history : List StorageRequest) (q : StorageRequest) :
    s.after (history ++ [q]) = (s.after history).ask q := List.foldl_append

end Storage

lemma StorageRequest.outlineAll_concat (size : ℕ) (history : List StorageRequest)
    (q : StorageRequest) :
    outlineAll size (history ++ [q]) =
      if q.refusal? size = none then outlineAll size history ++ q.outline
      else outlineAll size history := by
  unfold outlineAll
  rw [List.filter_append, List.flatMap_append]
  by_cases h : q.refusal? size = none
  · rw [if_pos h, List.filter_cons_of_pos (by rw [h]; rfl)]
    exact congrArg _ (List.append_nil _)
  · rw [if_neg h, List.filter_cons_of_neg (by simpa using h)]
    exact List.append_nil _

/-! ### The entries of a request -/

lemma map_outline_readEntries (address : ℤ) (data : List UInt8) :
    (Storage.readEntries address data).map Access.outline =
      (List.range data.length).map fun k : ℕ => (address + k, none) := by
  induction data generalizing address with
  | nil => rfl
  | cons b data ih =>
    have hshift : ∀ k : ℕ, address + 1 + k = address + (k + 1 : ℕ) := by omega
    simp [Storage.readEntries, Access.outline, ih, List.range_succ_eq_map, hshift]

lemma map_outline_writeEntries (address : ℤ) {data previous : List UInt8}
    (h : data.length = previous.length) :
    (Storage.writeEntries address data previous).map Access.outline =
      (List.range data.length).map fun k : ℕ => (address + k, data[k]?) := by
  induction data generalizing address previous with
  | nil => rfl
  | cons b data ih =>
    cases previous with
    | nil => exact absurd h nofun
    | cons p previous =>
      have hshift : ∀ k : ℕ, address + 1 + k = address + (k + 1 : ℕ) := by omega
      simp [Storage.writeEntries, Access.outline, ih _ (Nat.succ.inj h), List.range_succ_eq_map,
        hshift]

namespace Request

variable (m : Memory) (r : Request)

lemma length_present : (r.present m).length = r.count := by simp [present]

/-- A request reads all its bytes, or it writes them all. -/
lemma entries_cases :
    (r.data = [] ∧ r.entries m = Storage.readEntries r.address (r.present m)) ∨
      r.data.length = r.count ∧
        r.entries m = Storage.writeEntries r.address r.data (r.present m) := by
  cases r with
  | readByte | readWord | readBytes => exact .inl ⟨rfl, rfl⟩
  | writeByte => exact .inr ⟨rfl, rfl⟩
  | writeBytes => exact .inr ⟨List.length_map _, rfl⟩

lemma map_outline_entries : (r.entries m).map Access.outline = r.outline := by
  unfold outline
  rcases r.entries_cases m with ⟨hdata, hentries⟩ | ⟨hlength, hentries⟩
  · rw [hentries, map_outline_readEntries, length_present, hdata]
    rfl
  · rw [hentries, map_outline_writeEntries _ (hlength.trans (r.length_present m).symm), hlength]

variable {m r}

/-- The entries of a request make of the memory what the request does. -/
lemma replay_entries (h : m.Covers r.address r.count) :
    m.replay (r.entries m) = m.overwrite r.address.toNat r.data := by
  rcases r.entries_cases m with ⟨hdata, hentries⟩ | ⟨hlength, hentries⟩
  · rw [hentries, Memory.replay_readEntries, hdata]
    rfl
  · have hprevious := hlength.trans (r.length_present m).symm
    rw [hentries, ← m.replay_writeEntries _ hprevious, Int.toNat_of_nonneg h.1]

lemma findsAll_entries (h : m.Covers r.address r.count) : m.FindsAll (r.entries m) := by
  obtain ⟨hfrom, hend⟩ := h
  have hroom : r.address.toNat + r.count ≤ m.size := by omega
  rcases r.entries_cases m with ⟨-, hentries⟩ | ⟨hlength, hentries⟩
  · have hfinds := m.findsAll_readEntries hroom
    rw [Int.toNat_of_nonneg hfrom] at hfinds
    rw [hentries]
    exact hfinds
  · have hfinds := m.findsAll_writeEntries (hlength ▸ hroom)
    rw [Int.toNat_of_nonneg hfrom, hlength] at hfinds
    rw [hentries]
    exact hfinds

end Request

namespace Storage

variable (s : Storage) (address : ℤ)

/-- A byte that is written is noted as it is in the memory then. -/
lemma noteWrite_byte (hc : s.memory.Covers address 1) (b : UInt8) :
    let memory := s.memory.overwrite address.toNat [b]
    s.noteWrite address [b] = record { s with memory }
      [.write address (memory.byteAt address.toNat) (s.memory.byteAt address.toNat)] := by
  intro memory
  have hprevious : s.memory.slice address.toNat (address + [b].length) =
      [s.memory.byteAt address.toNat] := @Memory.slice_of_covers s.memory address 1 hc
  have hcell : address.toNat < s.memory.size := by
    have := hc.1
    have := hc.2
    omega
  rw [noteWrite, hprevious, s.memory.byteAt_overwrite_self hcell]
  rfl

lemma writeByte_eq (value : ℤ) :
    s.writeByte address value =
      if s.memory.Covers address 1 then
        if 0 ≤ value ∧ value ≤ 0xFF then .ok (s.noteWrite address [UInt8.ofNat value.toNat])
        else .error (.misuse (.cellOutOfRange value))
      else .error (s.memory.uncovered address 1) := by
  unfold writeByte
  rw [Memory.readByte_eq, Memory.writeByte_eq]
  by_cases hc : s.memory.Covers address 1
  · rw [if_pos hc, if_pos hc, if_pos hc, s.noteWrite_byte address hc]
    by_cases hv : 0 ≤ value ∧ value ≤ 0xFF
    · rw [if_pos hv, if_pos hv]
      rfl
    · rw [if_neg hv, if_neg hv]
      rfl
  · rw [if_neg hc, if_neg hc, if_neg hc]
    rfl

/-- What was written is noted with the bytes that were there. -/
lemma noteWrite_data {r : Request} (hc : s.memory.Covers r.address r.count)
    (hlength : r.data.length = r.count)
    (hentries : r.entries s.memory = writeEntries r.address r.data (r.present s.memory)) :
    s.noteWrite r.address r.data = s.noting (.noted r) := by
  have hpresent := s.memory.slice_of_covers hc
  rw [← hlength] at hpresent
  rw [noteWrite, hpresent, noting, hentries, Request.present, hlength]
  rfl

/-- A request that is noted is refused for its place, then for its numbers, or else the storage
answers from its bytes and notes all of them. -/
lemma serve_noted (r : Request) :
    s.serve (.noted r) =
      if s.memory.Covers r.address r.count then
        match r.misfit? with
        | some e => .error e
        | none => .ok (r.answer s.memory.byteAt, s.noting (.noted r))
      else .error (s.memory.uncovered r.address r.count) := by
  cases r with
  | readByte address =>
    show (s.readByte address >>= _) = if s.memory.Covers address 1 then _ else _
    rw [readByte_eq]
    split <;> rfl
  | readWord address =>
    show (s.readWord address >>= _) = if s.memory.Covers address 2 then _ else _
    rw [readWord_eq]
    dsimp only
    rw [Word.high_ofBytes, Word.low_ofBytes]
    split <;> rfl
  | readBytes address count =>
    show (s.readBytes address count >>= _) = if s.memory.Covers address count then _ else _
    rw [readBytes_eq]
    split
    · rename_i hc
      dsimp only
      rw [s.memory.slice_of_covers hc]
      rfl
    · rfl
  | writeByte address value =>
    show (s.writeByte address value >>= _) = if s.memory.Covers address 1 then _ else _
    rw [writeByte_eq]
    split
    · rename_i hc
      have hnoted := s.noteWrite_data (r := .writeByte address value) hc rfl rfl
      rw [← hnoted, Request.misfit?]
      -- one bound excludes 256, the other one includes 255
      by_cases hv : 0 ≤ value ∧ value < 256
      · rw [if_pos hv, if_pos (by omega)]
        rfl
      · rw [if_neg hv, if_neg (by omega)]
        rfl
    · rfl
  | writeBytes address values =>
    show (s.writeValues address values >>= _) =
      if s.memory.Covers address values.length then _ else _
    rw [writeValues_eq]
    split
    · rename_i hc
      have hnoted := s.noteWrite_data (r := .writeBytes address values) hc (List.length_map _) rfl
      rw [← hnoted, Request.misfit?]
      by_cases hv : ∀ v ∈ values, 0 ≤ v ∧ v < 256
      · rw [if_pos hv, if_pos hv]
        rfl
      · rw [if_neg hv, if_neg hv]
        rfl
    · rfl

/-- A request is refused, or the storage answers from its bytes and notes what it notes. -/
lemma serve_eq (q : StorageRequest) :
    s.serve q =
      match q.refusal? s.memory.size with
      | some e => .error e
      | none => .ok (q.answer s.memory.byteAt, s.noting q) := by
  cases q with
  | noted r =>
    have hrefusal : (StorageRequest.noted r).refusal? s.memory.size =
        (if s.memory.Covers r.address r.count then none
          else some (s.memory.uncovered r.address r.count)).or r.misfit? := rfl
    rw [serve_noted, hrefusal]
    by_cases hc : s.memory.Covers r.address r.count
    · rw [if_pos hc, if_pos hc]
      rfl
    · rw [if_neg hc, if_neg hc]
      rfl
  | peek address =>
    have hrefusal : (StorageRequest.peek address).refusal? s.memory.size =
        if s.memory.Covers address 1 then none else some (s.memory.uncovered address 1) := rfl
    show (s.memory.readByte address >>= _) = _
    rw [Memory.readByte_eq, hrefusal]
    split <;> rfl

/-- What the journal has after requests to a storage that began with a memory and nothing noted. -/
structure Faithful (memory : Memory) (history : List StorageRequest) (s : Storage) : Prop where
  size_eq : s.memory.size = memory.size
  /-- The bytes of the requests that were not refused are noted, in order. -/
  outline_eq : s.journal.map Access.outline =
    StorageRequest.outlineAll memory.size history
  /-- Each entry has the byte that was found. -/
  findsAll : memory.FindsAll s.journal
  /-- Made once more, the writes lead to what there is now. -/
  replay_eq : memory.replay s.journal = s.memory

namespace Faithful

variable {s : Storage} {memory : Memory} {history : List StorageRequest} {q : StorageRequest}

lemma noting (h : s.Faithful memory history) (hq : q.refusal? memory.size = none) :
    (s.noting q).Faithful memory (history ++ [q]) := by
  cases q with
  | noted r =>
    have hc : s.memory.Covers r.address r.count :=
      Request.inside_of_outside (h.size_eq ▸ (Option.or_eq_none_iff.1 hq).1)
    refine ⟨(Memory.size_overwrite _ _ _).trans h.size_eq, ?_, ?_, ?_⟩
    · rw [StorageRequest.outlineAll_concat, if_pos hq, ← h.outline_eq]
      exact List.map_append.trans (congrArg _ (r.map_outline_entries s.memory))
    · refine memory.findsAll_append_iff.2 ⟨h.findsAll, ?_⟩
      rw [h.replay_eq]
      exact Request.findsAll_entries hc
    · refine (memory.replay_append _ _).trans ?_
      rw [h.replay_eq]
      exact Request.replay_entries hc
  | peek address =>
    refine ⟨h.size_eq, ?_, h.findsAll, h.replay_eq⟩
    rw [StorageRequest.outlineAll_concat, if_pos hq]
    exact h.outline_eq.trans (List.append_nil _).symm

lemma ask (h : s.Faithful memory history) (q : StorageRequest) :
    (s.ask q).Faithful memory (history ++ [q]) := by
  unfold Storage.ask
  rw [s.serve_eq q, h.size_eq]
  rcases hq : q.refusal? memory.size with _ | e
  · exact h.noting hq
  · refine ⟨h.size_eq, ?_, h.findsAll, h.replay_eq⟩
    rw [StorageRequest.outlineAll_concat, if_neg (by rw [hq]; nofun)]
    exact h.outline_eq

lemma after (memory : Memory) (history : List StorageRequest) :
    ((Storage.mk memory []).after history).Faithful memory history := by
  induction history using List.reverseRecOn with
  | nil => exact ⟨rfl, rfl, memory.findsAll_nil, rfl⟩
  | append_singleton history q ih =>
    rw [after_concat]
    exact ih.ask q

end Faithful

/-- **The journal is faithful.**  Begin with any memory and nothing noted, and ask for anything any
number of times.  A request that is refused changes neither the memory nor the journal, and a look
at a byte does not either.  The journal that is taken in the end has every byte that was read or
written by the requests that were not refused, in order, and no other.  Made once more from the
memory as it was, each of its reads finds the byte that it has, and each of its writes the byte that
it says was there before; in the end this leads to the memory as it is.  Taken back in reverse
order, its writes lead from there to the memory as it was. -/
theorem journal_faithful (memory : Memory) (history : List StorageRequest) (q : StorageRequest) :
    let s := (Storage.mk memory []).after history
    let s' := (Storage.mk memory []).after (history ++ [q])
    let journal := s.takeJournal.1
    (match q.refusal? memory.size with
      | some e => s.serve q = .error e ∧ s' = s
      | none => s.serve q = .ok (q.answer s.memory.byteAt, s')) ∧
      (∀ address, q = .peek address → s' = s) ∧
      journal.map Access.outline = StorageRequest.outlineAll memory.size history ∧
      memory.FindsAll journal ∧ memory.replay journal = s.memory ∧
      s.memory.unwind journal = memory := by
  intro s s' journal
  have hs : s.Faithful memory history := .after memory history
  have hserve := s.serve_eq q
  rw [hs.size_eq] at hserve
  have hlast : s' = s.ask q := after_concat _ history q
  have hexplains := hs.findsAll.explains
  rw [hs.replay_eq] at hexplains
  refine ⟨?_, ?_, hs.outline_eq, hs.findsAll, hs.replay_eq, hexplains.unwind_eq⟩
  · rw [hlast, ask, hserve]
    rcases q.refusal? memory.size with _ | e
    · rfl
    · exact ⟨rfl, rfl⟩
  · rintro address rfl
    rw [hlast, ask, hserve]
    rcases (StorageRequest.peek address).refusal? memory.size with _ | e <;> rfl

/-- For one, a byte is written and looked at, two would have to lie behind the end, and the word of
both bytes is read. -/
example :
    ((Storage.mk .initial []).after [.noted (.writeByte 0x200 5), .peek 0x200,
      .noted (.writeBytes 0xFFF [6, 7]), .noted (.readWord 0x200)]).journal =
      [.write 0x200 5 0, .read 0x200 5, .read 0x201 0] := by
  decide +kernel

end Storage

end Chip8
