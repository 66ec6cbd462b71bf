import Chip8.Proofs.Consecutive
import Chip8.Proofs.Effect
import Chip8.Proofs.History
import Chip8.Proofs.Replay

/-!
# What a trace tells of the memory

The snapshot of a step has all bytes that the step read or wrote: the two of the instruction first,
and then those that the instruction transfers, which `transfers` reads off the registers and the
memory before the step.  The journal is emptied when a step begins and taken when it ends, so what
an earlier step left in it, for one that failed, is in no snapshot.

The main result, `trace_complete`, follows the memory through a run: the writes of its snapshots
lead from the memory before the run to the memory after it, and taken back they lead to where it
began.
-/

namespace Chip8

/-- The four hexadecimal digits of a word are those of its bytes. -/
lemma Word.digits_ofBytes (high low : UInt8) :
    (ofBytes high low).digits =
      String.ofList (Hex.upper 2 high.toNat ++ Hex.upper 2 low.toNat) := by
  have hlow := low.toNat_lt
  have hhead : (256 * high.toNat + low.toNat) / 16 / 16 = high.toNat := by omega
  have hnibble : (256 * high.toNat + low.toNat) / 16 % 16 = low.toNat / 16 % 16 := by omega
  have hlast : (256 * high.toNat + low.toNat) % 16 = low.toNat % 16 := by omega
  simp [digits, ofBytes, Hex.upper, hhead, hnibble, hlast]

/-- Storage after accesses that were noted in the journal and that the notes explain. -/
structure Storage.Notes (s : Storage) (entries : List Access) (s' : Storage) : Prop where
  journal_eq : s'.journal = s.journal ++ entries
  explains : Memory.Explains entries s.memory s'.memory

namespace Storage

variable (s : Storage) (address : ℤ) (data : List UInt8)

lemma notes_nil : s.Notes [] s := ⟨(List.append_nil s.journal).symm, .nil s.memory⟩

lemma notes_noteRead : s.Notes (readEntries address data) (s.noteRead address data) :=
  ⟨rfl, .readEntries address data s.memory⟩

lemma notes_noteWrite (h : s.memory.Covers address data.length) :
    s.Notes (writeEntries address data
      (s.memory.slice address.toNat (address + data.length))) (s.noteWrite address data) := by
  obtain ⟨a, rfl⟩ := Int.eq_ofNat_of_zero_le h.1
  have hend : a + data.length ≤ s.memory.size := by
    have := h.2
    omega
  exact ⟨rfl, .writeEntries hend⟩

end Storage

namespace Machine

/-- The entries of the bytes that an instruction transfers: of those that it reads, or of those that
it writes over the ones that were there. -/
def transfers (r : Registers) (memory : Memory) (w : Word) (op : Opcode) : List Access :=
  let present (count : ℕ) : List UInt8 := memory.slice r.i.toNat (r.i + count)
  let stores (values : List ℕ) : List Access :=
    Storage.writeEntries r.i (values.map UInt8.ofNat) (present values.length)
  match op with
  | .drw => Storage.readEntries r.i (present w.n)
  | .ldVxMem => Storage.readEntries r.i (present (w.x + 1))
  | .ldB => stores (decimalDigits (r.get w.x))
  | .ldMemVx => stores (r.v.take (w.x + 1))
  | _ => []

/-! ### Instructions -/

variable {m m' : Machine} {w : Word} {op : Opcode} {flow : Flow}

/-- An instruction that transfers nothing leaves memory and journal as they are. -/
lemma Effect.storage_eq {o : Outcome Flow} (h : Effect m w op o) (ht : transfer? w op = none) :
    o.2.storage = m.storage := by
  cases h with
  | draw | loadFrom => exact absurd ht nofun
  | store hop =>
    simp only [List.mem_cons, List.not_mem_nil, or_false] at hop
    rcases hop with rfl | rfl <;> exact absurd ht nofun
  | _ => rfl

lemma drawSprite_notes {x y rows : ℕ} (h : m.drawSprite x y rows = (.ok flow, m')) :
    m.storage.Notes (Storage.readEntries m.registers.i
      (m.storage.memory.slice m.registers.i.toNat (m.registers.i + rows))) m'.storage := by
  unfold drawSprite at h
  rw [Storage.readBytes_eq] at h
  by_cases hc : m.storage.memory.Covers m.registers.i rows
  · rw [if_pos hc] at h
    obtain ⟨-, rfl⟩ := Prod.mk.inj h
    exact m.storage.notes_noteRead _ _
  · rw [if_neg hc] at h
    exact absurd h nofun

lemma loadFromI_notes {x : ℕ} (h : m.loadFromI x = (.ok flow, m')) :
    m.storage.Notes (Storage.readEntries m.registers.i
      (m.storage.memory.slice m.registers.i.toNat (m.registers.i + (x + 1 : ℕ)))) m'.storage := by
  unfold loadFromI at h
  rw [Storage.readBytes_eq] at h
  by_cases hc : m.storage.memory.Covers m.registers.i ((x : ℤ) + 1)
  · rw [if_pos hc] at h
    obtain ⟨-, rfl⟩ := Prod.mk.inj h
    exact m.storage.notes_noteRead _ _
  · rw [if_neg hc] at h
    exact absurd h nofun

lemma storeAtI_notes {values : List ℕ} (h : m.storeAtI values = (.ok flow, m')) :
    m.storage.Notes (Storage.writeEntries m.registers.i (values.map UInt8.ofNat)
      (m.storage.memory.slice m.registers.i.toNat (m.registers.i + values.length)))
      m'.storage := by
  unfold storeAtI at h
  dsimp only at h
  rcases hb : Memory.toBytes (values.map Int.ofNat) with e | data
  · rw [hb] at h
    exact absurd h nofun
  · obtain rfl := Memory.toBytes_ok hb
    rw [hb] at h
    dsimp only [bind, Except.bind] at h
    rw [Storage.writeBytes_eq] at h
    by_cases hc : m.storage.memory.Covers m.registers.i (values.map UInt8.ofNat).length
    · rw [if_pos hc] at h
      obtain ⟨-, rfl⟩ := Prod.mk.inj h
      have hnotes := m.storage.notes_noteWrite m.registers.i _ hc
      rw [List.length_map] at hnotes
      exact hnotes
    · rw [if_neg hc] at h
      exact absurd h nofun

/-- An instruction that is executed notes what it transfers, and nothing else. -/
lemma execute_notes (h : m.execute w op = (.ok flow, m')) :
    m.storage.Notes (transfers m.registers m.storage.memory w op) m'.storage := by
  have hother : transfer? w op = none → m.storage.Notes [] m'.storage := by
    intro ht
    have hs := (execute_effect m w op).storage_eq ht
    rw [h] at hs
    rw [hs]
    exact m.storage.notes_nil
  cases op with
  | drw => exact drawSprite_notes h
  | ldVxMem => exact loadFromI_notes h
  | ldB => exact storeAtI_notes h
  | ldMemVx => exact storeAtI_notes h
  | _ => exact hother rfl

end Machine

/-! ### Steps -/

/-- What a snapshot tells of a step from one machine to another. -/
structure Snapshot.Traces (s : Snapshot) (m m' : Machine) : Prop where
  /-- The step was made where the snapshot says. -/
  address_eq : s.address = m.registers.pc
  /-- The two bytes of the instruction, those that the memory had there and those that the snapshot
  shows, were read first, and nothing but the transfer of the instruction came behind them. -/
  accesses_eq : m.storage.memory.Covers m.registers.pc 2 ∧
    ∃ (high low : UInt8) (op : Opcode),
      high = m.storage.memory.byteAt m.registers.pc.toNat ∧
      low = m.storage.memory.byteAt (m.registers.pc.toNat + 1) ∧
      s.operation = (Word.ofBytes high low).operationAs op ∧
      s.operation.digits = String.ofList (Hex.upper 2 high.toNat ++ Hex.upper 2 low.toNat) ∧
      s.accesses = .read m.registers.pc high :: .read (m.registers.pc + 1) low ::
        Machine.transfers m.registers m.storage.memory (Word.ofBytes high low) op
  /-- The writes lead from the memory before the step to the memory after it, and back. -/
  explains : Memory.Explains s.accesses m.storage.memory m'.storage.memory
  /-- A byte that was not written is as it was. -/
  unwritten : ∀ address : ℕ, (∀ data previous, .write address data previous ∉ s.accesses) →
    m'.storage.memory.byteAt address = m.storage.memory.byteAt address
  /-- Nothing is left for the snapshot of a later step. -/
  journal_eq : m'.storage.journal = []

namespace Machine

variable {m m' : Machine}

/-- What is concluded from an executed instruction: the journal goes into the snapshot. -/
lemma conclude_journal (m : Machine) (address : ℤ) (w : Word) (op : Opcode) (flow : Flow) :
    (m.conclude address w op flow).1.address = address ∧
      (m.conclude address w op flow).1.operation = w.operationAs op ∧
      (m.conclude address w op flow).1.accesses = m.storage.journal ∧
      (m.conclude address w op flow).2.storage = ⟨m.storage.memory, []⟩ := by
  cases flow <;> exact ⟨rfl, rfl, rfl, rfl⟩

/-- The snapshot of a step traces it. -/
lemma step_traces {s : Snapshot} (h : m.step = (.ok s, m')) : s.Traces m m' := by
  have hs := step_ending m
  rw [h] at hs
  generalize ho : ((.ok s, m') : Outcome Snapshot) = o at hs
  cases hs with
  | unfetched | failed => exact absurd ho nofun
  | @done w op storage flow m₁ hf he =>
    obtain ⟨hc, hw, -, rfl⟩ := fetch_ok hf
    obtain ⟨hs, rfl⟩ := Prod.mk.inj ho
    obtain rfl := Except.ok.inj hs
    obtain ⟨haddress, hoperation, haccesses, hstorage⟩ :=
      m₁.conclude_journal m.registers.pc w op flow
    -- The journal was empty before the fetch, so the fetch and the transfer are all that is in it.
    have hnotes := execute_notes he
    have hjournal := haccesses.trans hnotes.journal_eq
    have hexplains : Memory.Explains (m₁.conclude m.registers.pc w op flow).1.accesses
        m.storage.memory (m₁.conclude m.registers.pc w op flow).2.storage.memory := by
      rw [hjournal, hstorage]
      exact .read _ _ (.read _ _ hnotes.explains)
    have hread := hoperation.trans (congrArg (Word.operationAs · op) hw)
    have hdigits := (congrArg Operation.digits hread).trans (Word.digits_ofBytes _ _)
    have htransfer := congrArg (transfers m.registers m.storage.memory · op) hw
    refine ⟨haddress, ⟨hc, _, _, op, rfl, rfl, hread, hdigits, ?_⟩, hexplains, ?_, ?_⟩
    · exact hjournal.trans (congrArg (Storage.readEntries _ _ ++ ·) htransfer)
    · intro address hunwritten
      rw [← hexplains.replay_eq]
      exact Memory.byteAt_replay _ hunwritten
    · rw [hstorage]

/-- The snapshots of steps explain together what became of the memory. -/
lemma explains_of_consecutive {snapshots : List Snapshot} (h : Consecutive step m snapshots m') :
    Memory.Explains (snapshots.flatMap Snapshot.accesses) m.storage.memory m'.storage.memory := by
  induction h with
  | nil m => exact .nil _
  | cons hs _ ih =>
    rw [List.flatMap_cons]
    exact (step_traces hs).explains.append ih

/-- **A trace is complete.**  Let steps succeed one after another, from any machine, whatever
earlier steps have left in its journal.  Every snapshot of the run traces the step that left it: it
has the address of the instruction, then its two bytes as they were read there, then what the
instruction transferred and nothing else, and no byte of the memory changed that it does not say
was written.  Made once more in order, the writes of all snapshots lead from the memory before the
run to the memory after it; taken back in reverse order, they lead from the memory after the run to
the memory before it. -/
theorem trace_complete {snapshots : List Snapshot} (h : Consecutive step m snapshots m') :
    (∀ earlier s later, snapshots = earlier ++ s :: later → ∃ m₁ m₂,
      Consecutive step m earlier m₁ ∧ m₁.step = (.ok s, m₂) ∧ Consecutive step m₂ later m' ∧
        s.Traces m₁ m₂) ∧
      m.storage.memory.replay (snapshots.flatMap Snapshot.accesses) = m'.storage.memory ∧
      m'.storage.memory.unwind (snapshots.flatMap Snapshot.accesses) = m.storage.memory := by
  have hexplains := explains_of_consecutive h
  refine ⟨?_, hexplains.replay_eq, hexplains.unwind_eq⟩
  rintro earlier s later rfl
  obtain ⟨m₁, m₂, hearlier, hs, hlater⟩ := h.split
  exact ⟨m₁, m₂, hearlier, hs, hlater, step_traces hs⟩

/-- A machine whose program writes over itself, and whose journal has an entry of an earlier step:
it stores the digits of 216 from its second byte on, where the next instruction lies, and then a
register over the first of them. -/
def rewriting : Machine :=
  { holding [0xF0, 0x33, 0x00, 0x00, 0xF0, 0x55] with
    storage := ⟨.holding [0xF0, 0x33, 0x00, 0x00, 0xF0, 0x55], [.read 0x205 0x55]⟩
    registers :=
      { Registers.initial 0x200 (.whole 1) with v := 216 :: List.replicate 15 0, i := 0x201 } }

theorem trace_complete_rewriting :
    let snapshots := Consecutive.answers step 3 rewriting
    let journal := snapshots.flatMap Snapshot.accesses
    journal =
      [.read 0x200 0xF0, .read 0x201 0x33,
        .write 0x201 2 0x33, .write 0x202 1 0, .write 0x203 6 0,
        .read 0x202 1, .read 0x203 6,
        .read 0x204 0xF0, .read 0x205 0x55, .write 0x201 216 2] ∧
      ∃ m', Consecutive step rewriting snapshots m' ∧
        rewriting.storage.memory.replay journal = m'.storage.memory ∧
        m'.storage.memory.unwind journal = rewriting.storage.memory := by
  intro snapshots journal
  have hlength : (Consecutive.answers step 3 rewriting).length = 3 := by decide +kernel
  obtain ⟨m', hrun⟩ := Consecutive.of_length_answers hlength
  exact ⟨by decide +kernel, m', hrun, (trace_complete hrun).2⟩

end Machine

end Chip8
