import Chip8.Proofs.Faulting
import Chip8.Proofs.Keypress

/-!
# Where execution goes on

The address of the next instruction is settled in two places.  Jumps, calls and returns set it, and
an instruction that passes over the next one moves it by two; if execution is to go on behind the
instruction, the end of the step moves it by two more.  `Machine.GoesOn` says where this leads,
by opcode and by the machine before the step.

The main result is `step_goesOn`.
-/

namespace Chip8

/-- The opcodes of the instructions that may set the address of the next one. -/
def Opcode.jumps : List Opcode := [.jp, .jpV0, .call, .ret]

/-- The opcodes of the instructions that may pass over the next one. -/
def Opcode.skips : List Opcode := [.seImm, .sneImm, .se, .sne, .skp, .sknp]

namespace Machine

/-- The key with the given number is down. -/
def Holds (m : Machine) (number : ℕ) : Prop :=
  ∃ key : Key, (key : ℕ) = number ∧ m.keypad.down.get key = true

/-- The instruction sets the address of the next one. -/
def Jumps (m : Machine) : Opcode → Prop
  | .jp | .jpV0 => True
  | .call => m.registers.sp < stackDepth
  | .ret => 0 < m.registers.sp
  | _ => False

/-- The instruction passes over the next one. -/
def Skips (m : Machine) (w : Word) : Opcode → Prop
  | .seImm => m.reg w.x = w.kk
  | .sneImm => m.reg w.x ≠ w.kk
  | .se => m.reg w.x = m.reg w.y
  | .sne => m.reg w.x ≠ m.reg w.y
  | .skp => m.Holds (m.reg w.x)
  | .sknp => ¬ m.Holds (m.reg w.x)
  | _ => False

/-- Where execution goes on behind a word, by its opcode. -/
inductive GoesOn (m : Machine) (w : Word) : Opcode → ℤ → Prop where
  | jump : GoesOn m w .jp w.nnn
  | jumpBy : GoesOn m w .jpV0 ((w.nnn + m.reg 0) % 65536)
  | call (h : m.registers.sp < stackDepth) : GoesOn m w .call w.nnn
  | ret {target : ℤ} (h : 0 < m.registers.sp)
      (ht : m.registers.stack[(m.registers.sp - 1).toNat]? = some target) :
      GoesOn m w .ret target
  | skip {op : Opcode} (h : m.Skips w op) : GoesOn m w op ((m.registers.pc + 4) % 65536)
  | next {op : Opcode} (hj : ¬ m.Jumps op) (hs : ¬ m.Skips w op) :
      GoesOn m w op ((m.registers.pc + 2) % 65536)

section Guards

variable {m : Machine} {w : Word} {op : Opcode}

lemma Jumps.mem (h : m.Jumps op) : op ∈ Opcode.jumps := by
  cases op with
  | jp | jpV0 | call | ret => decide
  | _ => exact h.elim

lemma Skips.mem (h : m.Skips w op) : op ∈ Opcode.skips := by
  cases op with
  | seImm | sneImm | se | sne | skp | sknp => decide
  | _ => exact h.elim

lemma not_jumps_of_mem_skips (h : op ∈ Opcode.skips) : ¬ m.Jumps op := by
  intro hj
  have hjumps := hj.mem
  revert h hjumps
  cases op <;> decide

lemma not_jumps_of_refusal {c : Fault} (h : m.refusal? op = some c) : ¬ m.Jumps op := by
  intro hj
  cases op with
  | ret =>
    have hpos : 0 < m.registers.sp := hj
    rw [refusal?, if_neg (by omega)] at h
    simp at h
  | call =>
    have hroom : m.registers.sp < stackDepth := hj
    rw [refusal?, if_neg (by omega)] at h
    simp at h
  | _ => simp [refusal?] at h

/-- Execution goes on at one address only. -/
lemma GoesOn.unique {a b : ℤ} (ha : m.GoesOn w op a) (hb : m.GoesOn w op b) : a = b := by
  cases ha <;> cases hb <;> simp_all [Jumps, Skips]

/-- An instruction that does not jump leaves no machine where it is. -/
lemma GoesOn.ne_of_not_jumps {pc : ℤ} (h : m.GoesOn w op pc) (hj : ¬ m.Jumps op) :
    pc ≠ m.registers.pc := by
  cases h with
  | jump | jumpBy => exact absurd trivial hj
  | call h => exact absurd h hj
  | ret h => exact absurd h hj
  | skip | next => omega

end Guards

/-! ### Instructions -/

variable {m m' : Machine} {w : Word} {op : Opcode} {flow : Flow}

lemma isDown_iff_holds (number : ℕ) : m.keypad.isDown number = true ↔ m.Holds number := by
  constructor
  · intro h
    by_cases hlt : number < 16
    · have hkey := m.keypad.isDown_val ⟨number, hlt⟩
      exact ⟨⟨number, hlt⟩, rfl, hkey.symm.trans h⟩
    · rw [Keypad.isDown, dif_neg (by omega)] at h
      simp at h
  · rintro ⟨key, rfl, hdown⟩
    exact (m.keypad.isDown_val key).trans hdown

/-- The address of the next instruction when an executed one has been concluded. -/
def concludedPc (m : Machine) : Flow → ℤ
  | .next => Registers.after m.registers.pc
  | .jumped => m.registers.pc

lemma conclude_pc (m : Machine) (address : ℤ) (w : Word) (op : Opcode) (flow : Flow) :
    (m.conclude address w op flow).2.registers.pc = m.concludedPc flow := by
  cases flow <;> rfl

/-- Execution goes on two further on from an instruction that neither jumps nor skips. -/
lemma Effect.goesOn_next {o : Outcome Flow} (he : Effect m w op o) (hj : op ∉ Opcode.jumps)
    (hs : op ∉ Opcode.skips) (ho : o.1 = .ok flow) :
    m.GoesOn w op (o.2.concludedPc flow) := by
  have hnext : m.GoesOn w op ((m.registers.pc + 2) % 65536) :=
    .next (fun h => hj h.mem) fun h => hs h.mem
  cases he with
  | refused | uncovered | noKey | misused => exact absurd ho nofun
  | returned | called => exact absurd (by decide) hj
  | jump hop =>
    have hjumps : op ∈ Opcode.jumps := List.mem_append_left [Opcode.call, Opcode.ret] hop
    exact absurd hjumps hj
  | skip hop | noSkip hop => exact absurd hop hs
  | _ =>
    obtain rfl := Except.ok.inj ho
    exact hnext

/-- Whether an instruction skips depends on its condition. -/
lemma goesOn_of_skipIf {condition : Bool} (hop : op ∈ Opcode.skips)
    (hiff : condition = true ↔ m.Skips w op) (h : m.skipIf condition = (.ok flow, m')) :
    m.GoesOn w op (m'.concludedPc flow) := by
  obtain ⟨hflow, rfl⟩ := Prod.mk.inj h
  obtain rfl := Except.ok.inj hflow
  by_cases hc : condition = true
  · have hpc : Registers.after (Registers.after m.registers.pc) =
        (m.registers.pc + 4) % 65536 := by
      simp only [Registers.after]
      omega
    rw [if_pos hc, concludedPc, mapRegisters, Registers.skip, hpc]
    exact .skip (hiff.1 hc)
  · rw [if_neg hc]
    exact .next (not_jumps_of_mem_skips hop) fun hs => hc (hiff.2 hs)

lemma goesOn_of_jumpNoting {name : String} {target : ℤ} (ht : m.GoesOn w op target)
    (h : m.jumpNoting name target = (.ok flow, m')) : m.GoesOn w op (m'.concludedPc flow) := by
  obtain ⟨hflow, rfl⟩ := Prod.mk.inj h
  obtain rfl := Except.ok.inj hflow
  exact ht

lemma Effect.goesOn_ret {o : Outcome Flow} (he : Effect m w .ret o)
    (hm : m.registers.WellFormed) (ho : o.1 = .ok flow) :
    m.GoesOn w .ret (o.2.concludedPc flow) := by
  have h0 := hm.sp_nonneg
  cases he with
  | returned hsp ht =>
    obtain rfl := Except.ok.inj ho
    obtain ⟨k, hk⟩ := Int.eq_ofNat_of_zero_le (show 0 ≤ m.registers.sp - 1 by omega)
    have hlt : k < m.registers.stack.length := by
      have hle := hm.sp_le
      have hlength := hm.stack_length
      omega
    rw [eitherEnd?, hk, place?_natCast hlt] at ht
    exact .ret (by omega) (by rw [hk]; exact ht)
  | ignored hr =>
    obtain rfl := Except.ok.inj ho
    exact .next (not_jumps_of_refusal hr) id
  | refused => simp at ho
  | jump hop | skip hop | noSkip hop | load hop | compute hop | setI hop | uncovered hop
    | store hop => exact absurd hop (by decide)
  | misused _ hm' => exact absurd hm hm'

lemma Effect.goesOn_call {o : Outcome Flow} (he : Effect m w .call o)
    (hm : m.registers.WellFormed) (ho : o.1 = .ok flow) :
    m.GoesOn w .call (o.2.concludedPc flow) := by
  cases he with
  | called hsp =>
    obtain rfl := Except.ok.inj ho
    exact .call hsp
  | ignored hr =>
    obtain rfl := Except.ok.inj ho
    exact .next (not_jumps_of_refusal hr) id
  | refused => simp at ho
  | jump hop | skip hop | noSkip hop | load hop | compute hop | setI hop | uncovered hop
    | store hop => exact absurd hop (by decide)
  | misused _ hm' => exact absurd hm hm'

/-- Where execution goes on behind an instruction that was executed. -/
lemma execute_goesOn (hm : m.registers.WellFormed) (h : m.execute w op = (.ok flow, m')) :
    m.GoesOn w op (m'.concludedPc flow) := by
  have he := execute_effect m w op
  rw [h] at he
  cases op with
  | jp => exact goesOn_of_jumpNoting .jump h
  | jpV0 =>
    have ht : m.GoesOn w .jpV0 (((w.nnn + m.reg 0 : ℕ) % 65536 : ℕ) : ℤ) := by
      push_cast
      exact .jumpBy
    exact goesOn_of_jumpNoting ht h
  | call => exact he.goesOn_call hm rfl
  | ret => exact he.goesOn_ret hm rfl
  | seImm =>
    exact goesOn_of_skipIf (by decide) (decide_eq_true_iff (p := m.reg w.x = w.kk)) h
  | sneImm =>
    exact goesOn_of_skipIf (by decide) (decide_eq_true_iff (p := m.reg w.x ≠ w.kk)) h
  | se =>
    exact goesOn_of_skipIf (by decide) (decide_eq_true_iff (p := m.reg w.x = m.reg w.y)) h
  | sne =>
    exact goesOn_of_skipIf (by decide) (decide_eq_true_iff (p := m.reg w.x ≠ m.reg w.y)) h
  | skp => exact goesOn_of_skipIf (by decide) (isDown_iff_holds _) h
  | sknp =>
    refine goesOn_of_skipIf (by decide) ?_ h
    rw [Bool.not_eq_true', ← Bool.not_eq_true, isDown_iff_holds]
    rfl
  | _ => exact he.goesOn_next (by decide) (by decide) rfl

/-! ### Steps -/

/-- The journal has no say in where execution goes on. -/
lemma GoesOn.ofStorage {storage : Storage} {pc : ℤ} (h : GoesOn { m with storage } w op pc) :
    m.GoesOn w op pc := by
  cases h with
  | jump => exact .jump
  | jumpBy => exact .jumpBy
  | call h => exact .call h
  | ret h ht => exact .ret h ht
  | skip h => exact .skip (by cases op <;> exact h)
  | next hj hs =>
    exact .next (fun h => hj (by cases op <;> exact h)) fun h => hs (by cases op <;> exact h)

/-- **Where execution goes on after a step.**  A step that succeeds, on any machine that can be
reached, has executed the word at the address of the next instruction.  Execution goes on where its
opcode says, seen from the machine before the step, and nowhere else; and behind anything but a jump
that is not the same address again. -/
theorem step_goesOn (hm : m.Reachable) {s : Snapshot} (hs : m.step = (.ok s, m')) :
    ∃ w op, m.NextWord w ∧ w.opcode? = some op ∧ s.operation = w.operationAs op ∧
      (∀ pc, m.GoesOn w op pc ↔ m'.registers.pc = pc) ∧
        (¬ m.Jumps op → m'.registers.pc ≠ m.registers.pc) := by
  obtain ⟨w, op, storage, flow, m₁, hw, hop, hoperation, -, he, rfl⟩ := step_executed hs
  have hgoes := (execute_goesOn (m := { m with storage }) hm.wellFormed.registers he).ofStorage
  rw [conclude_pc]
  refine ⟨w, op, hw, hop, hoperation, fun pc => ⟨hgoes.unique, ?_⟩, hgoes.ne_of_not_jumps⟩
  rintro rfl
  exact hgoes

/-- For one, a word of family `8` that ends with `F` passes over the next while a key is up. -/
theorem step_goesOn_skipping :
    let m := holding [0x80, 0x1F]
    m.Reachable ∧ m.Skips ⟨0x801F, by decide⟩ .sknp ∧
      ∃ s m', m.step = (.ok s, m') ∧ m'.registers.pc = 0x204 := by
  intro m
  have hnone : ∀ e ∈ ([] : List Event), e.Allowed := by simp
  have hreachable : m.Reachable := holding_reachable _ _ hnone
  have hskips : m.Skips ⟨0x801F, by decide⟩ .sknp := by
    rintro ⟨key, -, hdown⟩
    revert hdown key
    decide
  obtain ⟨hword, hok⟩ :
      Word.ofBytes (m.storage.memory.byteAt 0x200) (m.storage.memory.byteAt 0x201) =
        ⟨0x801F, by decide⟩ ∧ m.step.1.toBool = true := by
    decide +kernel
  rcases hs : m.step with ⟨e | s, m'⟩
  · rw [hs] at hok
    exact absurd hok nofun
  · obtain ⟨w, op, hw, hop, -, hgoes, -⟩ := step_goesOn hreachable hs
    obtain rfl : w = ⟨0x801F, by decide⟩ := hw.word_eq.trans hword
    obtain rfl : op = .sknp := (Option.some.inj hop).symm
    exact ⟨hreachable, hskips, s, m', rfl, (hgoes _).1 (.skip hskips)⟩

end Machine

end Chip8
