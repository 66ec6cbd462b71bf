import Chip8.Proofs.Effect

/-!
# Machines that run alike

What an instruction does depends on the core of the machine, which is all that a program works on,
and on what the instruction takes in from beside the core: which keys are down, the answer of a key
wait, a random byte, the value of the delay timer, and the stack policy if the stack has something
against the instruction.  `Machine.intake` says what it is for each opcode.

So two machines with the same core that take in the same go on alike.  Which relation between them
is kept depends on what else they have in common.  But there are only few ways in which an
instruction can change a machine, and a relation that is kept by all of them is a `Likeness`: it is
carried from handler to handler, and from there to the step.
-/

namespace Chip8

/-- The snapshot without the values of the timers. -/
def Snapshot.untimed (s : Snapshot) : Snapshot :=
  { s with registers := { s.registers with dt := 0, st := 0 } }

lemma Snapshot.eq_of_untimed_eq {s s' : Snapshot} (h : s.untimed = s'.untimed)
    (hregisters : s.registers = s'.registers) : s = s' := by
  obtain ⟨registers, operation, cycle, address, accesses⟩ := s
  obtain rfl : registers = s'.registers := hregisters
  obtain ⟨-, rfl, rfl, rfl, rfl⟩ := Snapshot.mk.inj h
  rfl

/-- The same failure twice, or two snapshots that differ in the values of the timers only. -/
inductive SameButTimers : Except Failure Snapshot → Except Failure Snapshot → Prop where
  | failure (e : Failure) : SameButTimers (.error e) (.error e)
  | snapshot {s s' : Snapshot} (h : s.untimed = s'.untimed) : SameButTimers (.ok s) (.ok s')

namespace Machine

/-- What a program works on. -/
structure Core where
  /-- The sixteen registers of a byte. -/
  v : List ℕ
  /-- The address register. -/
  i : ℤ
  /-- The address of the next instruction. -/
  pc : ℤ
  /-- The number of return addresses on the stack. -/
  sp : ℤ
  /-- The places of the stack. -/
  stack : List ℤ
  /-- The memory and its journal. -/
  storage : Storage
  /-- The screen. -/
  screen : Screen
  /-- The number of instructions executed. -/
  cycles : ℕ

/-- The core of a machine. -/
def core (m : Machine) : Core where
  v := m.registers.v
  i := m.registers.i
  pc := m.registers.pc
  sp := m.registers.sp
  stack := m.registers.stack
  storage := m.storage
  screen := m.screen
  cycles := m.cycles

/-- The machine with another core. -/
def withCore (m : Machine) (c : Core) : Machine :=
  { m with
    registers := { m.registers with v := c.v, i := c.i, pc := c.pc, sp := c.sp, stack := c.stack }
    storage := c.storage
    screen := c.screen
    cycles := c.cycles }

/-- A wait for a key: its answer, and what it leaves. -/
def keyWait (m : Machine) : Except Failure Key × Scripted Keypad KeyAction :=
  Scripted.waitForKey KeyAction.perform ⟨m.keypad, m.visits⟩

/-- The machine after a wait for a key. -/
def waited (m : Machine) : Machine :=
  { m with keypad := m.keyWait.2.thing, visits := m.keyWait.2.batches }

/-- The machine after a random byte was drawn. -/
def drawn (m : Machine) : Machine := { m with random := m.random.draw.2 }

/-- What an instruction takes in from beside the core. -/
inductive Intake where
  /-- Nothing. -/
  | nothing
  /-- What becomes of a call or a return that the stack does not allow. -/
  | policy (policy : StackPolicy)
  /-- Which keys are down. -/
  | keys (down : Vector Bool 16)
  /-- What a key wait answers. -/
  | key (answer : Except Failure Key)
  /-- A random byte. -/
  | random (value : ℕ)
  /-- The value of the delay timer. -/
  | delay (value : ℕ)

/-- What an instruction of a given kind takes in. -/
def intake (m : Machine) (op : Opcode) : Intake :=
  match op with
  | .ret | .call => if m.refusal? op = none then .nothing else .policy m.policy
  | .skp | .sknp => .keys m.keypad.down
  | .ldVxK => .key m.keyWait.1
  | .rnd => .random m.random.draw.1
  | .ldVxDt => .delay m.registers.dt.value
  | _ => .nothing

lemma intake_withStorage (m : Machine) (storage : Storage) (op : Opcode) :
    intake { m with storage } op = m.intake op := by
  cases op <;> rfl

/-- The machine will execute this word next, as an instruction of this kind. -/
def AboutTo (m : Machine) (w : Word) (op : Opcode) : Prop := m.fetch.1 = .ok (w, op)

lemma AboutTo.opcode?_eq {m : Machine} {w : Word} {op : Opcode} (h : m.AboutTo w op) :
    w.opcode? = some op := by
  obtain ⟨-, -, hop, -⟩ := fetch_ok (Prod.ext h rfl)
  exact hop

lemma fetch_clearJournal (m : Machine) : m.clearJournal.fetch.1 = m.fetch.1 := by
  unfold fetch
  dsimp only [clearJournal, Storage.takeJournal]
  rw [Storage.readWord_eq, Storage.readWord_eq]
  by_cases hc : m.storage.memory.Covers m.registers.pc 2
  · rw [if_pos hc, if_pos hc]
    dsimp only
    split <;> rfl
  · rw [if_neg hc, if_neg hc]

/-- Without the values of the timers, a snapshot is taken from the core. -/
lemma conclude_untimed (m : Machine) (address : ℤ) (w : Word) (op : Opcode) (flow : Flow) :
    (m.conclude address w op flow).1.untimed =
      let c := (m.conclude address w op flow).2.core
      { registers := ⟨c.v, c.i, c.pc, c.sp, 0, 0⟩
        operation := w.operationAs op
        cycle := c.cycles
        address
        accesses := m.core.storage.journal } := by
  cases flow <;> rfl

/-- The registers in the snapshot of a step are those of the machine afterwards. -/
lemma step_registers {m m' : Machine} {s : Snapshot} (h : m.step = (.ok s, m')) :
    s.registers = m'.view := by
  obtain ⟨w, op, storage, flow, m₁, -, -, rfl, rfl⟩ := step_ok h
  rfl

/-- A relation between machines of one core that is kept by all that an instruction can do. -/
structure Likeness (R : Machine → Machine → Prop) : Prop where
  core_eq : ∀ {m m'}, R m m' → m.core = m'.core
  withCore : ∀ {m m'} (c : Core), R m m' → R (m.withCore c) (m'.withCore c)
  logLine : ∀ {m m'} (level : LogLevel) (message : String),
    R m m' → R (m.logLine level message) (m'.logLine level message)
  drawn : ∀ {m m'}, R m m' → R m.drawn m'.drawn
  waited : ∀ {m m'}, R m m' → R m.waited m'.waited
  assignDt : ∀ {m m'} (value : ℤ), R m m' →
    R (m.mapRegisters fun r => { r with dt := r.dt.assign value })
      (m'.mapRegisters fun r => { r with dt := r.dt.assign value })
  assignSt : ∀ {m m'} (value : ℤ), R m m' →
    R (m.mapRegisters fun r => { r with st := r.st.assign value })
      (m'.mapRegisters fun r => { r with st := r.st.assign value })

/-- Two outcomes with one result, and with machines in a relation. -/
structure Alike {α : Type} (R : Machine → Machine → Prop) (o o' : Outcome α) : Prop where
  result : o.1 = o'.1
  machine : R o.2 o'.2

lemma Alike.next {R : Machine → Machine → Prop} {m m' : Machine} (h : R m m') :
    Alike R m.next m'.next := ⟨rfl, h⟩

namespace Likeness

variable {R : Machine → Machine → Prop} (hR : Likeness R) {m m' : Machine} (h : R m m')
include hR h

/-! ### The core -/

/-- What is made of the core alone keeps a likeness. -/
lemma mapCore (f : Core → Core) : R (m.withCore (f m.core)) (m'.withCore (f m'.core)) := by
  rw [← hR.core_eq h]
  exact hR.withCore _ h

lemma v_eq : m.registers.v = m'.registers.v := congrArg Core.v (hR.core_eq h)

lemma i_eq : m.registers.i = m'.registers.i := congrArg Core.i (hR.core_eq h)

lemma pc_eq : m.registers.pc = m'.registers.pc := congrArg Core.pc (hR.core_eq h)

lemma sp_eq : m.registers.sp = m'.registers.sp := congrArg Core.sp (hR.core_eq h)

lemma stack_eq : m.registers.stack = m'.registers.stack := congrArg Core.stack (hR.core_eq h)

lemma storage_eq : m.storage = m'.storage := congrArg Core.storage (hR.core_eq h)

lemma screen_eq : m.screen = m'.screen := congrArg Core.screen (hR.core_eq h)

lemma reg_eq (x : ℕ) : m.reg x = m'.reg x := congrArg (fun v => v.getD x 0) (hR.v_eq h)

lemma withStorage (storage : Storage) : R { m with storage } { m' with storage } :=
  hR.mapCore h fun c => { c with storage }

/-! ### Handlers -/

lemma jump (target : ℤ) : Alike R (m.jump target) (m'.jump target) :=
  ⟨rfl, hR.mapCore h fun c => { c with pc := target }⟩

lemma skipIf (condition : Bool) : Alike R (m.skipIf condition) (m'.skipIf condition) := by
  cases condition with
  | false => exact .next h
  | true => exact .next (hR.mapCore h fun c => { c with pc := Registers.after c.pc })

lemma compute (f : List ℕ → List ℕ) : Alike R (m.compute f) (m'.compute f) :=
  .next (hR.mapCore h fun c => { c with v := f c.v })

lemma load (x value : ℕ) : Alike R (m.load x value) (m'.load x value) :=
  hR.compute h (·.set x value)

lemma setI (i : ℤ) : Alike R (m.setI i) (m'.setI i) := .next (hR.mapCore h fun c => { c with i })

lemma jumpNoting (name : String) (target : ℤ) :
    Alike R (m.jumpNoting name target) (m'.jumpNoting name target) := by
  unfold Machine.jumpNoting
  rw [hR.pc_eq h]
  dsimp only
  split
  · exact hR.jump (hR.logLine _ _ h) target
  · exact hR.jump h target

lemma stackFault (hpolicy : m.policy = m'.policy) (fault : Fault) (warning : String) :
    Alike R (m.stackFault fault warning) (m'.stackFault fault warning) := by
  unfold Machine.stackFault
  rw [← hpolicy, hR.pc_eq h]
  cases m.policy with
  | strict => exact ⟨rfl, h⟩
  | ignore => exact .next (hR.logLine _ _ h)

lemma refusal?_eq (op : Opcode) : m.refusal? op = m'.refusal? op := by
  unfold refusal?
  rw [hR.sp_eq h, hR.pc_eq h]

/-- What the stack has against an instruction is the same for both, and if it has something, the
policy is taken in. -/
lemma policy_eq {op : Opcode} (hop : op ∈ [.ret, .call]) (hrefused : m.refusal? op ≠ none)
    (hin : m.intake op = m'.intake op) : m.policy = m'.policy := by
  have hrefused' : m'.refusal? op ≠ none := hR.refusal?_eq h op ▸ hrefused
  simp only [List.mem_cons, List.not_mem_nil, or_false] at hop
  rcases hop with rfl | rfl
  all_goals
    simp only [intake, if_neg hrefused, if_neg hrefused'] at hin
    exact Intake.policy.inj hin

lemma ret (hin : m.intake .ret = m'.intake .ret) : Alike R m.ret m'.ret := by
  unfold Machine.ret
  dsimp only
  rw [← hR.sp_eq h, ← hR.stack_eq h, ← hR.pc_eq h]
  split
  · -- the only place where a return asks for the policy
    rename_i hsp
    have hrefused : m.refusal? .ret ≠ none := by
      simp [refusal?, hsp]
    exact hR.stackFault h (hR.policy_eq h (by decide) hrefused hin) _ _
  · have hpopped : R (m.mapRegisters fun r => { r with sp := r.sp - 1 })
        (m'.mapRegisters fun r => { r with sp := r.sp - 1 }) :=
      hR.mapCore h fun c => { c with sp := c.sp - 1 }
    split
    · exact hR.jump hpopped _
    · exact ⟨rfl, hpopped⟩

lemma call (hin : m.intake .call = m'.intake .call) (target : ℤ) :
    Alike R (m.call target) (m'.call target) := by
  unfold Machine.call
  dsimp only
  rw [← hR.sp_eq h, ← hR.stack_eq h, ← hR.pc_eq h]
  split
  · rename_i hsp
    have hrefused : m.refusal? .call ≠ none := by
      simp [refusal?, hsp]
    exact hR.stackFault h (hR.policy_eq h (by decide) hrefused hin) _ _
  · split
    · rename_i stack _
      exact hR.jump (hR.mapCore h fun c => { c with stack, sp := c.sp + 1 }) target
    · exact ⟨rfl, h⟩

lemma drawSprite (x y rows : ℕ) : Alike R (m.drawSprite x y rows) (m'.drawSprite x y rows) := by
  unfold Machine.drawSprite
  rw [← hR.storage_eq h, ← hR.i_eq h, ← hR.screen_eq h, ← hR.reg_eq h x, ← hR.reg_eq h y]
  split
  · exact ⟨rfl, h⟩
  · rename_i sprite storage _
    exact hR.load (hR.mapCore h fun c =>
      { c with storage, screen := (m.screen.draw (m.reg x) (m.reg y) sprite).1 }) _ _

lemma randomize (hin : m.intake .rnd = m'.intake .rnd) (x mask : ℕ) :
    Alike R (m.randomize x mask) (m'.randomize x mask) := by
  have hvalue : m.random.draw.1 = m'.random.draw.1 := Intake.random.inj hin
  unfold Machine.randomize
  dsimp only
  rw [← hvalue]
  exact hR.load (hR.drawn h) x _

lemma waitForKey (hin : m.intake .ldVxK = m'.intake .ldVxK) (x : ℕ) :
    Alike R (m.waitForKey x) (m'.waitForKey x) := by
  have hanswer : m.keyWait.1 = m'.keyWait.1 := Intake.key.inj hin
  have hwaited := hR.waited h
  unfold Machine.waitForKey
  unfold Machine.waited at hwaited
  unfold keyWait at hanswer hwaited
  rcases hw : Scripted.waitForKey KeyAction.perform ⟨m.keypad, m.visits⟩ with ⟨answer, s⟩
  rcases hw' : Scripted.waitForKey KeyAction.perform ⟨m'.keypad, m'.visits⟩ with ⟨answer', s'⟩
  rw [hw, hw'] at hanswer hwaited
  obtain rfl : answer = answer' := hanswer
  cases answer with
  | ok key => exact hR.load hwaited x key.val
  | error e => exact ⟨rfl, hwaited⟩

lemma storeAtI (values : List ℕ) : Alike R (m.storeAtI values) (m'.storeAtI values) := by
  unfold Machine.storeAtI
  rw [← hR.storage_eq h, ← hR.i_eq h]
  dsimp only
  split
  · exact ⟨rfl, h⟩
  · exact .next (hR.withStorage h _)

lemma loadFromI (x : ℕ) : Alike R (m.loadFromI x) (m'.loadFromI x) := by
  unfold Machine.loadFromI
  rw [← hR.storage_eq h, ← hR.i_eq h]
  split
  · exact ⟨rfl, h⟩
  · exact hR.compute (hR.withStorage h _) _

/-- **Two machines that are alike execute an instruction alike** if it takes in the same. -/
theorem execute (w : Word) {op : Opcode} (hin : m.intake op = m'.intake op) :
    Alike R (m.execute w op) (m'.execute w op) := by
  -- both machines have the same operands, so a handler is called with the same arguments for both
  unfold Machine.execute
  rw [← hR.reg_eq h w.x, ← hR.reg_eq h w.y]
  cases op with
  | sys => exact .next h
  | cls => exact .next (hR.mapCore h fun c => { c with screen := c.screen.clear })
  | ret => exact hR.ret h hin
  | call => exact hR.call h hin _
  | jp => exact hR.jumpNoting h "JP" _
  | jpV0 =>
    rw [← hR.reg_eq h 0]
    exact hR.jumpNoting h "JP V0" _
  | seImm | sneImm | se | sne => exact hR.skipIf h _
  | skp | sknp =>
    have hkeys : m.keypad.down = m'.keypad.down := Intake.keys.inj hin
    unfold Keypad.isDown
    rw [← hkeys]
    exact hR.skipIf h _
  | ldImm | addImm | ld | or | and | xor => exact hR.load h _ _
  | add | sub | shr | subn | shl => exact hR.compute h _
  | ldI | ldF => exact hR.setI h _
  | addI =>
    rw [← hR.i_eq h]
    exact hR.setI h _
  | rnd => exact hR.randomize h hin _ _
  | drw => exact hR.drawSprite h _ _ _
  | ldVxDt =>
    have hdelay : m.registers.dt.value = m'.registers.dt.value := Intake.delay.inj hin
    rw [← hdelay]
    exact hR.load h _ _
  | ldVxK => exact hR.waitForKey h hin _
  | ldDtVx => exact .next (hR.assignDt _ h)
  | ldStVx => exact .next (hR.assignSt _ h)
  | ldB => exact hR.storeAtI h _
  | ldMemVx =>
    rw [← hR.v_eq h]
    exact hR.storeAtI h _
  | ldVxMem => exact hR.loadFromI h _

/-! ### Steps -/

lemma fetch_eq : m.fetch = m'.fetch := by
  unfold fetch
  rw [hR.pc_eq h, hR.storage_eq h]

lemma conclude (address : ℤ) (w : Word) (op : Opcode) (flow : Flow) :
    (m.conclude address w op flow).1.untimed = (m'.conclude address w op flow).1.untimed ∧
      R (m.conclude address w op flow).2 (m'.conclude address w op flow).2 := by
  have hafter : R (m.conclude address w op flow).2 (m'.conclude address w op flow).2 := by
    cases flow with
    | next =>
      exact hR.mapCore h fun c =>
        { c with
          pc := Registers.after c.pc, storage := c.storage.takeJournal.2, cycles := c.cycles + 1 }
    | jumped =>
      exact hR.mapCore h fun c =>
        { c with storage := c.storage.takeJournal.2, cycles := c.cycles + 1 }
  refine ⟨?_, hafter⟩
  rw [conclude_untimed, conclude_untimed, hR.core_eq hafter, hR.core_eq h]

/-- **Two machines that are alike make a step alike** if the instruction takes in the same. -/
theorem step (hin : ∀ w op, m.AboutTo w op → m.intake op = m'.intake op) :
    SameButTimers m.step.1 m'.step.1 ∧ R m.step.2 m'.step.2 := by
  have hcleared : R m.clearJournal m'.clearJournal :=
    hR.mapCore h fun c => { c with storage := c.storage.takeJournal.2 }
  have hfetch : m.clearJournal.fetch = m'.clearJournal.fetch := hR.fetch_eq hcleared
  rcases hf : m.clearJournal.fetch with ⟨e | ⟨w, op⟩, storage⟩
  · rw [step_of_unfetched hf, step_of_unfetched (hfetch.symm.trans hf)]
    exact ⟨.failure e, hR.withStorage h storage⟩
  · have habout : m.AboutTo w op := by
      rw [AboutTo, ← fetch_clearJournal, hf]
    -- the fetch has only added to the journal, and nothing is taken in from there
    have hin' : intake { m with storage } op = intake { m' with storage } op := by
      rw [intake_withStorage, intake_withStorage]
      exact hin w op habout
    have he := hR.execute (hR.withStorage h storage) w hin'
    rcases ho : { m with storage }.execute w op with ⟨r, n⟩
    rcases ho' : { m' with storage }.execute w op with ⟨r', n'⟩
    rw [ho, ho'] at he
    obtain rfl : r = r' := he.result
    cases r with
    | error e =>
      rw [step_of_failed hf ho, step_of_failed (hfetch.symm.trans hf) ho']
      exact ⟨.failure e, he.machine⟩
    | ok flow =>
      obtain ⟨hsnapshot, hafter⟩ := hR.conclude he.machine m.registers.pc w op flow
      rw [step_of_done hf ho, step_of_done (hfetch.symm.trans hf) ho', ← hR.pc_eq h]
      exact ⟨.snapshot hsnapshot, hafter⟩

/-- If the timers show the same afterwards, the results of the step are the same. -/
lemma step_result (hin : ∀ w op, m.AboutTo w op → m.intake op = m'.intake op)
    (hview : m.step.2.view = m'.step.2.view) : m.step.1 = m'.step.1 := by
  have hresult := (hR.step h hin).1
  rcases hm : m.step with ⟨r, n⟩
  rcases hm' : m'.step with ⟨r', n'⟩
  rw [hm, hm'] at hresult hview
  cases hresult with
  | failure e => rfl
  | snapshot huntimed =>
    have hregisters := ((step_registers hm).trans hview).trans (step_registers hm').symm
    exact congrArg Except.ok (Snapshot.eq_of_untimed_eq huntimed hregisters)

end Likeness

end Machine

end Chip8
