import Chip8.Proofs.Faulting
import Chip8.Proofs.Trace

/-!
# The footprint of an instruction

An instruction leaves most of the machine as it was.  What it may change is told by its opcode and
its fields alone: `writtenRegisters` names the registers of a byte, `writtenBytes` counts the bytes
from the address register on, and all else that may change belongs to a few opcodes each.
`Machine.Footprint` says that nothing outside has changed.

The opcode is that of `Word.opcode?`, so it is the footprint of a drawing that a word `8xyD` leaves.
The main result is `step_footprint`.
-/

namespace Chip8

/-- The registers of a byte that an instruction may change. -/
def writtenRegisters (w : Word) : Opcode → List ℕ
  | .ldImm | .addImm | .ld | .or | .and | .xor | .rnd | .ldVxDt | .ldVxK => [w.x]
  | .add | .sub | .shr | .subn | .shl => [w.x, flagRegister]
  | .drw => [flagRegister]
  | .ldVxMem => List.range (w.x + 1)
  | _ => []

/-- The number of bytes from the address register on that an instruction may change. -/
def writtenBytes (w : Word) : Opcode → ℕ
  | .ldB => 3
  | .ldMemVx => w.x + 1
  | _ => 0

/-- The registers are as they were, but for what the instruction may change and for the address of
the next one. -/
structure Registers.Footprint (w : Word) (op : Opcode) (r r' : Registers) : Prop where
  length_eq : r'.v.length = r.v.length
  file : ∀ k ∉ writtenRegisters w op, r'.v[k]? = r.v[k]?
  i : op ∉ [.ldI, .addI, .ldF] → r'.i = r.i
  sp : op ∉ [.call, .ret] → r'.sp = r.sp
  stack : ∀ k : ℕ, ¬ (op = .call ∧ r.sp = k) → r'.stack[k]? = r.stack[k]?
  dt : op ≠ .ldDtVx → r'.dt = r.dt
  st : op ≠ .ldStVx → r'.st = r.st

/-- The machine is as it was, but for what the instruction may change, the address of the next one
and the number of those executed, the journal and the log. -/
structure Machine.Footprint (w : Word) (op : Opcode) (m m' : Machine) : Prop where
  registers : m.registers.Footprint w op m'.registers
  size : m'.storage.memory.size = m.storage.memory.size
  memory : ∀ a : ℕ, ¬ (m.registers.i ≤ a ∧ a < m.registers.i + writtenBytes w op) →
    m'.storage.memory.byteAt a = m.storage.memory.byteAt a
  screen : op ∉ [.cls, .drw] → m'.screen = m.screen
  random : op ≠ .rnd → m'.random = m.random
  keypad : op ≠ .ldVxK → m'.keypad = m.keypad ∧ m'.visits = m.visits
  tone : m'.tone = m.tone
  policy : m'.policy = m.policy
  origin : m'.origin = m.origin
  timerInterval : m'.timerInterval = m.timerInterval
  paused : m'.paused = m.paused

/-! ### Entries of the journal -/

namespace Storage

lemma notMem_readEntries {address : ℤ} {data : List UInt8} {a : ℤ} {b p : UInt8} :
    .write a b p ∉ readEntries address data := by
  induction data generalizing address with
  | nil => simp [readEntries]
  | cons c data ih => simp [readEntries, ih]

/-- The bytes of a stretch that is written lie in it. -/
lemma bounds_of_mem_writeEntries {address : ℤ} {data previous : List UInt8} {a : ℤ}
    {b p : UInt8} (h : .write a b p ∈ writeEntries address data previous) :
    address ≤ a ∧ a < address + data.length := by
  induction data generalizing address previous with
  | nil => simp [writeEntries] at h
  | cons c data ih =>
    cases previous with
    | nil => simp [writeEntries] at h
    | cons q previous =>
      rw [List.length_cons]
      rcases List.mem_cons.1 h with heq | hrest
      · obtain ⟨rfl, -, -⟩ := Access.write.inj heq
        omega
      · have hbounds := ih hrest
        omega

end Storage

/-! ### Registers -/

namespace Registers.Footprint

variable {w : Word} {op : Opcode} {r r' : Registers}

lemma refl (w : Word) (op : Opcode) (r : Registers) : r.Footprint w op r where
  length_eq := rfl
  file _ _ := rfl
  i _ := rfl
  sp _ := rfl
  stack _ _ := rfl
  dt _ := rfl
  st _ := rfl

/-- The address of the next instruction is no part of the footprint. -/
lemma withPc (h : r.Footprint w op r') (pc : ℤ) : r.Footprint w op { r' with pc } := { h with }

lemma set {x : ℕ} (hx : x ∈ writtenRegisters w op) (r : Registers) (value : ℕ) :
    r.Footprint w op (r.set x value) :=
  { refl w op r with
    length_eq := List.length_set
    file := fun k hk => List.getElem?_set_ne fun (heq : x = k) => hk (heq ▸ hx) }

/-- Arithmetic with flags. -/
lemma store (hop : writtenRegisters w op = [w.x, flagRegister]) (r : Registers) (flag result : ℕ) :
    r.Footprint w op { r with v := Arithmetic.store r.v w.x flag result } := by
  refine { refl w op r with length_eq := ?_, file := fun k hk => ?_ }
  · simp [Arithmetic.store]
  · rw [hop] at hk
    obtain ⟨hx, hflag⟩ : k ≠ w.x ∧ k ≠ 15 := by simpa [flagRegister] using hk
    dsimp only [Arithmetic.store]
    rw [List.getElem?_set_ne hx.symm, List.getElem?_set_ne hflag.symm]

/-- Loading bytes over the first registers. -/
lemma loadFrom (hr : IsRegisterFile r.v) {data : List UInt8} (hd : data.length = w.x + 1) :
    r.Footprint w .ldVxMem { r with v := data.map UInt8.toNat ++ r.v.drop data.length } := by
  have hx := w.x_lt
  have hlength := hr.length_eq
  refine { refl w .ldVxMem r with length_eq := ?_, file := fun k hk => ?_ }
  · simp [hd, hlength, registerCount]
    omega
  · have hbehind : w.x + 1 ≤ k := by simpa [writtenRegisters] using hk
    have hk' : (data.map UInt8.toNat).length ≤ k := by
      rw [List.length_map, hd]
      exact hbehind
    dsimp only
    rw [List.getElem?_append_right hk', List.getElem?_drop, List.length_map, hd]
    congr 1
    omega

/-- Executed twice, a word leaves the footprint that it leaves once, unless it is a call. -/
lemma trans {r'' : Registers} (h : r.Footprint w op r') (h' : r'.Footprint w op r'')
    (hop : op ≠ .call) : r.Footprint w op r'' where
  length_eq := h'.length_eq.trans h.length_eq
  file k hk := (h'.file k hk).trans (h.file k hk)
  i hi := (h'.i hi).trans (h.i hi)
  sp hsp := (h'.sp hsp).trans (h.sp hsp)
  stack k hk := (h'.stack k fun hcall => hop hcall.1).trans (h.stack k hk)
  dt hdt := (h'.dt hdt).trans (h.dt hdt)
  st hst := (h'.st hst).trans (h.st hst)

end Registers.Footprint

namespace Machine

variable {m m' : Machine} {w : Word} {op : Opcode} {flow : Flow}

/-- What an instruction does to the registers, unless it computes with flags. -/
lemma Effect.registers_footprint {o : Outcome Flow} (he : Effect m w op o)
    (hm : m.registers.WellFormed) (hop : op ∉ [.add, .sub, .shr, .subn, .shl])
    (ho : o.1 = .ok flow) : m.registers.Footprint w op o.2.registers := by
  cases he with
  | nothing | clear | ignored | noSkip | store => exact .refl w _ m.registers
  | refused | noKey | uncovered | misused => exact absurd ho nofun
  | returned => exact { Registers.Footprint.refl w .ret m.registers with sp := by simp }
  | called hr hs =>
    obtain ⟨k, hk, -, hset⟩ := hm.exists_push hr (Registers.after m.registers.pc)
    obtain rfl := Option.some.inj (hs.symm.trans hset)
    refine { Registers.Footprint.refl w .call m.registers with
      sp := by simp
      stack := fun j hj => List.getElem?_set_ne ?_ }
    rintro rfl
    exact hj ⟨rfl, hk⟩
  | jump | skip => exact (Registers.Footprint.refl w _ m.registers).withPc _
  | @load _ value hload _ =>
    refine .set ?_ m.registers value
    simp only [List.mem_cons, List.not_mem_nil, or_false] at hload
    rcases hload with rfl | rfl | rfl | rfl | rfl | rfl | rfl <;> simp [writtenRegisters]
  | compute hcompute => exact absurd hcompute hop
  | setI hi => exact { Registers.Footprint.refl w _ m.registers with i := fun hne => absurd hi hne }
  | randomize | key => exact .set (by simp [writtenRegisters]) m.registers _
  | assignDt => exact { Registers.Footprint.refl w .ldDtVx m.registers with dt := by simp }
  | assignSt => exact { Registers.Footprint.refl w .ldStVx m.registers with st := by simp }
  | draw => exact .set (by simp [writtenRegisters]) m.registers _
  | loadFrom hd => exact .loadFrom hm.file hd

lemma execute_registers_footprint (hm : m.registers.WellFormed)
    (h : m.execute w op = (.ok flow, m')) : m.registers.Footprint w op m'.registers := by
  by_cases hop : op ∈ [.add, .sub, .shr, .subn, .shl]
  · -- the form of the outcome does not tell which registers these change, but their equations do
    simp only [List.mem_cons, List.not_mem_nil, or_false] at hop
    obtain rfl : (m.execute w op).2 = m' := congrArg (fun o : Outcome Flow => o.2) h
    rcases hop with rfl | rfl | rfl | rfl | rfl <;> exact .store rfl m.registers _ _
  · have hregisters := (execute_effect m w op).registers_footprint hm hop (congrArg Prod.fst h)
    rwa [h] at hregisters

/-! ### Memory -/

/-- What an instruction writes lies in the stretch that it may change. -/
lemma bounds_of_mem_transfers {r : Registers} {memory : Memory} {a : ℤ} {b p : UInt8}
    (h : .write a b p ∈ transfers r memory w op) : r.i ≤ a ∧ a < r.i + writtenBytes w op := by
  cases op with
  | drw | ldVxMem => exact absurd h Storage.notMem_readEntries
  | ldB => exact Storage.bounds_of_mem_writeEntries h
  | ldMemVx =>
    obtain ⟨hfrom, hto⟩ := Storage.bounds_of_mem_writeEntries h
    simp only [List.length_map, List.length_take] at hto
    refine ⟨hfrom, ?_⟩
    simp only [writtenBytes]
    omega
  | _ => exact absurd h List.not_mem_nil

lemma execute_byteAt (h : m.execute w op = (.ok flow, m')) {a : ℕ}
    (ha : ¬ (m.registers.i ≤ a ∧ a < m.registers.i + writtenBytes w op)) :
    m'.storage.memory.byteAt a = m.storage.memory.byteAt a := by
  rw [← (execute_notes h).explains.replay_eq]
  exact Memory.byteAt_replay _ fun b p hmem => ha (bounds_of_mem_transfers hmem)

/-! ### What else there is -/

section Else

variable {o : Outcome Flow} (he : Effect m w op o)
include he

lemma Effect.size_eq : o.2.storage.memory.size = m.storage.memory.size := by
  cases he with
  | store => exact Memory.size_overwrite _ _ _
  | _ => rfl

lemma Effect.screen_eq (hop : op ∉ [.cls, .drw]) : o.2.screen = m.screen := by
  cases he with
  | clear | draw => simp at hop
  | _ => rfl

lemma Effect.random_eq (hop : op ≠ .rnd) : o.2.random = m.random := by
  cases he with
  | randomize => exact absurd rfl hop
  | _ => rfl

lemma Effect.keypad_eq (hop : op ≠ .ldVxK) :
    o.2.keypad = m.keypad ∧ o.2.visits = m.visits := by
  cases he with
  | key | noKey => exact absurd rfl hop
  | _ => exact ⟨rfl, rfl⟩

/-- No instruction changes the settings, the tone or the count. -/
lemma Effect.settled : o.2.tone = m.tone ∧ o.2.policy = m.policy ∧ o.2.origin = m.origin ∧
    o.2.timerInterval = m.timerInterval ∧ o.2.paused = m.paused ∧ o.2.cycles = m.cycles := by
  cases he <;> exact ⟨rfl, rfl, rfl, rfl, rfl, rfl⟩

end Else

/-! ### Steps -/

lemma execute_footprint (hm : m.registers.WellFormed) (h : m.execute w op = (.ok flow, m')) :
    Footprint w op m m' ∧ m'.cycles = m.cycles := by
  have he := execute_effect m w op
  rw [h] at he
  obtain ⟨htone, hpolicy, horigin, hinterval, hpaused, hcycles⟩ := he.settled
  exact ⟨⟨execute_registers_footprint hm h, he.size_eq, fun _ => execute_byteAt h, he.screen_eq,
    he.random_eq, he.keypad_eq, htone, hpolicy, horigin, hinterval, hpaused⟩, hcycles⟩

lemma Footprint.conclude (h : Footprint w op m m') (address : ℤ) (flow : Flow) :
    Footprint w op m (m'.conclude address w op flow).2 := by
  cases flow with
  | next => exact { h with registers := h.registers.withPc _ }
  | jumped => exact { h with }

/-- The journal of the machine before is no part of the footprint. -/
lemma Footprint.ofStorage {storage : Storage} (h : Footprint w op { m with storage } m')
    (hs : storage.memory = m.storage.memory) : Footprint w op m m' :=
  { h with
    size := h.size.trans (congrArg Memory.size hs)
    memory := fun a ha => (h.memory a ha).trans (congrArg (Memory.byteAt · a) hs) }

/-- An instruction that writes no bytes leaves the memory as it is. -/
lemma Footprint.memory_eq (h : Footprint w op m m') (hop : writtenBytes w op = 0) :
    m'.storage.memory = m.storage.memory :=
  Memory.eq_of_byteAt h.size fun a _ => h.memory a (by omega)

lemma Footprint.trans {m'' : Machine} (h : Footprint w op m m') (h' : Footprint w op m' m'')
    (hop : op ∉ [.call, .ldI, .addI, .ldF]) : Footprint w op m m'' := by
  simp only [List.mem_cons, List.not_mem_nil, or_false, not_or] at hop
  have hi : m'.registers.i = m.registers.i := h.registers.i (by simp [hop])
  exact {
    registers := h.registers.trans h'.registers hop.1
    size := h'.size.trans h.size
    memory := fun a ha => (h'.memory a (hi.symm ▸ ha)).trans (h.memory a ha)
    screen := fun hs => (h'.screen hs).trans (h.screen hs)
    random := fun hr => (h'.random hr).trans (h.random hr)
    keypad := fun hk =>
      ⟨(h'.keypad hk).1.trans (h.keypad hk).1, (h'.keypad hk).2.trans (h.keypad hk).2⟩
    tone := h'.tone.trans h.tone
    policy := h'.policy.trans h.policy
    origin := h'.origin.trans h.origin
    timerInterval := h'.timerInterval.trans h.timerInterval
    paused := h'.paused.trans h.paused }

/-- **Each instruction touches only its footprint.**  A step that succeeds, on any machine that can
be reached, has executed the word at the address of the next instruction; it counts one
instruction more, and nothing has changed outside the footprint of that word. -/
theorem step_footprint (hm : m.Reachable) {s : Snapshot} (hs : m.step = (.ok s, m')) :
    ∃ w op, m.NextWord w ∧ w.opcode? = some op ∧ s.operation = w.operationAs op ∧
      Footprint w op m m' ∧ m'.cycles = m.cycles + 1 := by
  obtain ⟨w, op, storage, flow, m₁, hw, hop, hoperation, hstorage, he, rfl⟩ := step_executed hs
  obtain ⟨hfootprint, hcycles⟩ :=
    execute_footprint (m := { m with storage }) hm.wellFormed.registers he
  refine ⟨w, op, hw, hop, hoperation, (hfootprint.ofStorage hstorage).conclude _ flow, ?_⟩
  cases flow <;> exact congrArg (· + 1) hcycles

/-- For one, a word of family `8` that ends with `A` sets the address register, and no other. -/
theorem step_footprint_settingAddress :
    let m := holding [0x80, 0x1A]
    m.Reachable ∧ ∃ s m', m.step = (.ok s, m') ∧ m'.registers.i = 0x01A ∧
      Footprint ⟨0x801A, by decide⟩ .ldI m m' ∧ m'.cycles = 1 := by
  intro m
  have hnone : ∀ e ∈ ([] : List Event), e.Allowed := by simp
  have hreachable : m.Reachable := holding_reachable _ _ hnone
  obtain ⟨hword, hok, hi⟩ :
      Word.ofBytes (m.storage.memory.byteAt 0x200) (m.storage.memory.byteAt 0x201) =
        ⟨0x801A, by decide⟩ ∧
      m.step.1.toBool = true ∧ m.step.2.registers.i = 0x01A := by
    decide +kernel
  rcases hs : m.step with ⟨e | s, m'⟩
  · rw [hs] at hok
    exact absurd hok nofun
  · rw [hs] at hi
    obtain ⟨w, op, hw, hop, -, hfootprint, hcycles⟩ := step_footprint hreachable hs
    obtain rfl : w = ⟨0x801A, by decide⟩ := hw.word_eq.trans hword
    obtain rfl : op = .ldI := (Option.some.inj hop).symm
    exact ⟨hreachable, s, m', rfl, hi, hfootprint, hcycles⟩

end Machine

end Chip8
