import Chip8.Proofs.Effect
import Chip8.Proofs.History
import Chip8.Proofs.KeyWait
import Chip8.Proofs.Surface

/-!
# The states that a machine reaches

A machine is well formed if its registers, its screen and what lies ready for its key waits are, and
if its memory has a given size.  Every instruction, every step and every other event keeps it so.
A machine that is well formed looks up neither a register nor a place of the stack nor a pixel that
is not there, and its steps fail by faults only.
-/

namespace Chip8

namespace Machine

/-- The state has the widths that it should have, and the memory has `size` bytes. -/
structure WellFormed (size : ℕ) (m : Machine) : Prop where
  registers : m.registers.WellFormed
  memory : m.storage.memory.size = size
  surface : m.screen.surface.WellFormed
  visits : ValidBatches m.visits
  origin : IsAddress m.origin

/-- Every failure is a fault, and the machine is well formed in any case. -/
structure Keeps {α : Type} (size : ℕ) (o : Outcome α) : Prop where
  faultsOnly : FaultsOnly o.1
  wellFormed : o.2.WellFormed size

variable {size : ℕ} {m : Machine}

namespace WellFormed

lemma withRegisters (h : m.WellFormed size) {r : Registers} (hr : r.WellFormed) :
    WellFormed size { m with registers := r } := { h with registers := hr }

lemma withStorage (h : m.WellFormed size) {storage : Storage}
    (hs : storage.memory.size = size) : WellFormed size { m with storage } :=
  { h with memory := hs }

lemma withScreen (h : m.WellFormed size) {screen : Screen} (hs : screen.surface.WellFormed) :
    WellFormed size { m with screen } := { h with surface := hs }

lemma withKeypad (h : m.WellFormed size) (keypad : Keypad)
    {visits : List (List (KeypadOp KeyAction))} (hv : ValidBatches visits) :
    WellFormed size { m with visits, keypad } := { h with visits := hv }

lemma withRandom (h : m.WellFormed size) (random : RandomSource) :
    WellFormed size { m with random } :=
  ⟨h.registers, h.memory, h.surface, h.visits, h.origin⟩

lemma withLog (h : m.WellFormed size) (log : Array LogLine) : WellFormed size { m with log } :=
  ⟨h.registers, h.memory, h.surface, h.visits, h.origin⟩

/-! ### Instructions -/

lemma next (h : m.WellFormed size) : Keeps size m.next := ⟨.ok _, h⟩

lemma jump (h : m.WellFormed size) {target : ℤ} (ht : IsAddress target) :
    Keeps size (m.jump target) := ⟨.ok _, h.withRegisters (h.registers.withPc ht)⟩

lemma load (h : m.WellFormed size) (x : ℕ) {value : ℕ} (hv : value < 256) :
    Keeps size (m.load x value) := (h.withRegisters (h.registers.set x hv)).next

lemma compute (h : m.WellFormed size) {f : List ℕ → List ℕ}
    (hf : IsRegisterFile (f m.registers.v)) : Keeps size (m.compute f) :=
  (h.withRegisters (h.registers.withFile hf)).next

end WellFormed

/-- Every instruction keeps a machine well formed and fails by faults only. -/
lemma Effect.keeps {w : Word} {op : Opcode} {o : Outcome Flow} (he : Effect m w op o)
    (h : m.WellFormed size) : Keeps size o := by
  cases he with
  | nothing | noSkip => exact h.next
  | clear => exact (h.withScreen h.surface.clear).next
  | refused | uncovered => exact ⟨.fault _, h⟩
  | ignored _ _ warning => exact (h.withLog _).next
  | returned hr ht =>
    obtain ⟨target, htop, haddress⟩ := h.registers.exists_top hr
    obtain rfl := Option.some.inj (ht.symm.trans htop)
    exact (h.withRegisters (h.registers.pop hr)).jump haddress
  | called hr hs =>
    obtain ⟨k, -, -, hset⟩ := h.registers.exists_push hr (Registers.after m.registers.pc)
    obtain rfl := Option.some.inj (hs.symm.trans hset)
    exact (h.withRegisters (h.registers.push hr k (isAddress_after _))).jump (isAddress_nnn w)
  | jump _ ht log => exact (h.withLog log).jump ht
  | skip => exact (h.withRegisters h.registers.skip).next
  | load _ hv => exact h.load _ (hv h.registers)
  | compute _ hf => exact h.compute (hf _ h.registers.file)
  | setI _ hi => exact (h.withRegisters (h.registers.withI hi)).next
  | randomize hr =>
    have hvalue := m.random.draw_lt
    rw [hr] at hvalue
    exact (h.withRandom _).load _ (Nat.lt_of_le_of_lt Nat.and_le_left hvalue)
  | assignDt => exact (h.withRegisters (h.registers.withDt (Timer.assign_value_lt _ _))).next
  | assignSt => exact (h.withRegisters (h.registers.withSt (Timer.assign_value_lt _ _))).next
  | key hk =>
    have hwait := Scripted.waitForKey_ready (s := ⟨m.keypad, m.visits⟩) h.visits
    rw [hk] at hwait
    exact (h.withKeypad _ hwait.2).load _ (by omega)
  | noKey hk =>
    have hwait := Scripted.waitForKey_ready (s := ⟨m.keypad, m.visits⟩) h.visits
    rw [hk] at hwait
    exact ⟨hwait.1.error, h.withKeypad _ hwait.2⟩
  | @draw sprite screen collided hd =>
    have hscreen := Screen.draw_wellFormed h.surface (m.reg w.x) (m.reg w.y) sprite
    rw [hd] at hscreen
    have hread : WellFormed size { m with storage := m.storage.noteRead m.registers.i sprite } :=
      h.withStorage h.memory
    exact (hread.withScreen hscreen).load _ (by split <;> decide)
  | store _ data =>
    have hsize : (m.storage.noteWrite m.registers.i data).memory.size = size := by
      simpa using h.memory
    exact (h.withStorage hsize).next
  | @loadFrom data hd =>
    have hx := w.x_lt
    have hcount : data.length ≤ registerCount := by
      rw [hd, registerCount]
      omega
    have hread : WellFormed size { m with storage := m.storage.noteRead m.registers.i data } :=
      h.withStorage h.memory
    exact hread.compute (h.registers.file.loadBytes hcount)
  | misused _ hm => exact absurd h.registers hm

/-! ### Steps -/

lemma fetch_faultsOnly (m : Machine) : FaultsOnly m.fetch.1 := by
  unfold fetch
  dsimp only
  rw [Storage.readWord_eq]
  by_cases hc : m.storage.memory.Covers m.registers.pc 2
  · rw [if_pos hc]
    dsimp only
    split
    · exact .ok _
    · exact .fault _
  · rw [if_neg hc]
    exact .fault _

lemma WellFormed.fetched (h : m.WellFormed size) {r : Except Failure (Word × Opcode)}
    {storage : Storage} (hf : m.clearJournal.fetch = (r, storage)) :
    WellFormed size { m with storage } :=
  h.withStorage ((congrArg Memory.size (fetch_storage_memory hf)).trans h.memory)

lemma WellFormed.conclude (h : m.WellFormed size) (address : ℤ) (w : Word) (op : Opcode)
    (flow : Flow) : (m.conclude address w op flow).2.WellFormed size := by
  cases flow with
  | next => exact ⟨h.registers.skip, h.memory, h.surface, h.visits, h.origin⟩
  | jumped => exact ⟨h.registers, h.memory, h.surface, h.visits, h.origin⟩

/-- Every ending of a step keeps a machine well formed and is no failure but a fault. -/
lemma Ending.keeps {o : Outcome Snapshot} (he : Ending m o) (h : m.WellFormed size) :
    Keeps size o := by
  cases he with
  | unfetched hf =>
    have hfault := fetch_faultsOnly m.clearJournal
    rw [hf] at hfault
    exact ⟨hfault.error, h.fetched hf⟩
  | @failed w op _ _ _ hf he =>
    have hk := (execute_effect _ w op).keeps (h.fetched hf)
    rw [he] at hk
    exact ⟨hk.faultsOnly.error, hk.wellFormed⟩
  | @done w op _ _ _ hf he =>
    have hk := (execute_effect _ w op).keeps (h.fetched hf)
    rw [he] at hk
    exact ⟨.ok _, hk.wellFormed.conclude m.registers.pc w op _⟩

/-- A step keeps a machine well formed and fails by faults only. -/
lemma WellFormed.step (h : m.WellFormed size) : Keeps size m.step := (step_ending m).keeps h

/-! ### Histories -/

/-- An event that keeps machines well formed: a program is loaded at an address, and what is done to
the keypad is about keys that it has. -/
def Event.Allowed : Event → Prop
  | .load address _ => IsAddress address
  | .keypad op => op.Valid
  | .step | .passDelay _ | .passSound _ | .resetProcessor | .reset => True

namespace WellFormed

lemma passDelay (h : m.WellFormed size) (elapsed : Quantity) :
    (m.passDelay elapsed).WellFormed size :=
  h.withRegisters (h.registers.withDt (Timer.update_value_lt _ _ _ h.registers.dt_lt))

lemma passSound (h : m.WellFormed size) (elapsed : Quantity) :
    (m.passSound elapsed).WellFormed size :=
  ⟨h.registers.withSt (Timer.update_value_lt _ _ _ h.registers.st_lt), h.memory, h.surface,
    h.visits, h.origin⟩

lemma resetProcessor (h : m.WellFormed size) : m.resetProcessor.WellFormed size :=
  ⟨Registers.initial_wellFormed h.origin _, h.memory, h.surface, h.visits, h.origin⟩

lemma reset (h : m.WellFormed size) : m.reset.WellFormed size :=
  h.resetProcessor.withScreen h.surface.clear

lemma loadBytes (h : m.WellFormed size) {address : ℤ} (ha : IsAddress address)
    {program : List UInt8} {n : ℕ} {m' : Machine} (hl : m.loadBytes address program = .ok (n, m')) :
    m'.WellFormed size := by
  obtain ⟨-, -, rfl⟩ := loadBytes_ok hl
  have hm : WellFormed size { m with storage :=
      { m.storage with memory := m.storage.memory.overwrite address.toNat program } } :=
    h.withStorage (by simpa using h.memory)
  exact hm.withRegisters (hm.registers.withPc ha)

lemma undergo (h : m.WellFormed size) {e : Event} (he : e.Allowed) :
    (m.undergo e).WellFormed size := by
  cases e with
  | step => exact h.step.wellFormed
  | passDelay elapsed => exact h.passDelay elapsed
  | passSound elapsed => exact h.passSound elapsed
  | resetProcessor => exact h.resetProcessor
  | reset => exact h.reset
  | load address program =>
    unfold Machine.undergo
    dsimp only
    split
    · rename_i hl
      exact h.loadBytes he hl
    · exact h
  | keypad op => exact h.withKeypad _ (Scripted.perform_ready he h.visits)

lemma after (h : m.WellFormed size) {history : List Event} (hh : ∀ e ∈ history, e.Allowed) :
    (m.after history).WellFormed size :=
  after_induction (P := WellFormed size) (fun _ _ he h => undergo h he) h hh

end WellFormed

/-- The machines that can be reached: they started at an address of sixteen bits, on a screen that
is a grid, and nothing but events that keep machines well formed has happened since. -/
inductive Reachable : Machine → Prop where
  | intro {storage : Storage} {screen : Screen} {keypad : Keypad} {random : RandomSource}
      {policy : StackPolicy} {origin : ℤ} {interval : Quantity} {history : List Event}
      (ho : IsAddress origin) (hs : screen.surface.WellFormed) (hh : ∀ e ∈ history, e.Allowed) :
      Reachable
        ((Machine.initial storage screen keypad random policy origin interval).after history)

lemma Reachable.wellFormed (h : m.Reachable) : m.WellFormed m.storage.memory.size := by
  cases h with
  | @intro storage screen keypad random policy origin interval history ho hs hh =>
    have hinitial : (Machine.initial storage screen keypad random policy origin
        interval).WellFormed storage.memory.size :=
      ⟨Registers.initial_wellFormed ho interval, rfl, hs, validBatches_nil, ho⟩
    have hm := hinitial.after hh
    exact ⟨hm.registers, rfl, hm.surface, hm.visits, hm.origin⟩

lemma surface_holding_wellFormed (program : List UInt8) (interval : Quantity) :
    (holding program interval).screen.surface.WellFormed :=
  @Surface.create_wellFormed 64 32 _ rfl

lemma holding_reachable (program : List UInt8) (interval : Quantity) {history : List Event}
    (hh : ∀ e ∈ history, e.Allowed) : ((holding program interval).after history).Reachable :=
  .intro ⟨by decide, by decide⟩ (surface_holding_wellFormed program interval) hh

/-- What a machine looks up is there: registers, places of the stack and pixels. -/
structure LooksInside (m : Machine) : Prop where
  registers : ∀ w : Word, w.x < m.registers.v.length ∧ w.y < m.registers.v.length
  flag : flagRegister < m.registers.v.length
  top : m.registers.sp ≠ 0 → 0 ≤ m.registers.sp - 1 ∧ m.registers.sp - 1 < m.registers.stack.length
  room : ¬ stackDepth ≤ m.registers.sp →
    0 ≤ m.registers.sp ∧ m.registers.sp < m.registers.stack.length
  pixels : ∀ (x y : ℤ) (sprite : List UInt8),
    ∀ p ∈ Surface.hits m.screen.surface.width m.screen.surface.height x y sprite,
      ∃ row, m.screen.surface.rows[p.2]? = some row ∧ p.1 < row.size

lemma WellFormed.looksInside (h : m.WellFormed size) : m.LooksInside where
  registers w := by
    rw [h.registers.file.length_eq]
    exact ⟨w.x_lt, w.y_lt⟩
  flag := by
    rw [h.registers.file.length_eq]
    decide
  top _ := by
    have h0 := h.registers.sp_nonneg
    have h16 := h.registers.sp_le
    rw [h.registers.stack_length]
    omega
  room _ := by
    have h0 := h.registers.sp_nonneg
    rw [h.registers.stack_length]
    omega
  pixels x y sprite p hp := by
    obtain ⟨hx, hy⟩ := Surface.hits_lt h.surface.width_pos h.surface.height_pos x y sprite p hp
    rw [← h.surface.height_eq] at hy
    refine ⟨_, Array.getElem?_eq_getElem hy, ?_⟩
    rwa [h.surface.width_eq _ (Array.getElem_mem hy)]

/-- **Every machine that can be reached is well formed.**  Let a machine start at an address of
sixteen bits, on a screen that is a grid.  After any steps, whether they fail or not, any time that
passes for either timer, any resets, programs loaded at addresses of sixteen bits and keys pressed
or released, in any order, there are sixteen registers of a byte, a stack of sixteen addresses with
a pointer between zero and sixteen, two addresses, two timers of a byte and as many bytes of memory
as there were.  So the machine never looks up what is not there, and its next step can fail by a
fault only. -/
theorem reachable_wellFormed {storage : Storage} {screen : Screen} {keypad : Keypad}
    {random : RandomSource} {policy : StackPolicy} {origin : ℤ} {interval : Quantity}
    (ho : IsAddress origin) (hs : screen.surface.WellFormed) {history : List Event}
    (hh : ∀ e ∈ history, e.Allowed) :
    let m := (Machine.initial storage screen keypad random policy origin interval).after history
    m.WellFormed storage.memory.size ∧ (∀ b ∈ m.storage.memory.cells, b.toNat < 256) ∧
      m.LooksInside ∧ FaultsOnly m.step.1 := by
  intro m
  have hinitial : (Machine.initial storage screen keypad random policy origin interval).WellFormed
      storage.memory.size :=
    ⟨Registers.initial_wellFormed ho interval, rfl, hs, validBatches_nil, ho⟩
  have hm : m.WellFormed storage.memory.size := hinitial.after hh
  exact ⟨hm, fun b _ => b.toNat_lt, hm.looksInside, hm.step.faultsOnly⟩

/-- For one, a key goes down and time passes between an instruction and the fault of the next. -/
theorem wellFormed_after_fault :
    let m := (holding [0x60, 0xFF, 0xFF, 0xFF]).after
      [.step, .keypad (.act (.press 3)), .passDelay (.whole 1), .step]
    m.reg 0 = 255 ∧ m.WellFormed 0x1000 ∧ m.LooksInside ∧ FaultsOnly m.step.1 := by
  have hkey : (KeypadOp.act (KeyAction.press 3)).Valid := .act ⟨by decide, by decide⟩
  have hall : ∀ e ∈ [.step, .keypad (.act (.press 3)), .passDelay (.whole 1), .step],
      Event.Allowed e := by
    simp [Event.Allowed, hkey]
  have ho : IsAddress 0x200 := ⟨by decide, by decide⟩
  obtain ⟨hm, -, hlooks, hstep⟩ := @reachable_wellFormed ⟨.holding [0x60, 0xFF, 0xFF, 0xFF], []⟩
    _ .initial (.listed [] 0) .strict _ (.whole 1) ho (surface_holding_wellFormed [] (.whole 1)) _
    hall
  rw [Memory.size_holding] at hm
  exact ⟨by decide +kernel, hm, hlooks, hstep⟩

end Machine

end Chip8
