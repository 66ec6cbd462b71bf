import Chip8.Proofs.Registers
import Chip8.Proofs.Storage
import Mathlib.Data.Nat.Bitwise

/-!
# What an instruction and a step can do

The outcome of an instruction has one of some twenty forms, each of which `Effect m w op o` shows
for the opcodes that have it: the guard under which it is taken, what is known about the values that
it stores, and the machine that it leaves.  A fact about all instructions is then shown form by
form, without opening any of them.

A step has three endings, which `Ending m o` lists: no instruction could be fetched, the instruction
failed, or the instruction was executed and the step concluded.
-/

namespace Chip8

namespace Machine

/-- What the stack has against an instruction. -/
def refusal? (m : Machine) : Opcode → Option Fault
  | .ret => if m.registers.sp = 0 then some (.stackUnderflow m.registers.pc) else none
  | .call =>
    if stackDepth ≤ m.registers.sp then some (.stackOverflow m.registers.pc stackDepth) else none
  | _ => none

/-- How many bytes an instruction transfers from or to the address register on, if it does. -/
def transfer? (w : Word) : Opcode → Option ℕ
  | .drw => some w.n
  | .ldB => some 3
  | .ldMemVx | .ldVxMem => some (w.x + 1)
  | _ => none

/-- The forms of the outcomes of instructions, by opcode. -/
inductive Effect (m : Machine) (w : Word) : Opcode → Outcome Flow → Prop where
  | nothing : Effect m w .sys m.next
  | clear : Effect m w .cls { m with screen := m.screen.clear }.next
  | refused {op : Opcode} {c : Fault} (hr : m.refusal? op = some c) (hp : m.policy = .strict) :
      Effect m w op (.error (.fault c), m)
  | ignored {op : Opcode} {c : Fault} (hr : m.refusal? op = some c) (hp : m.policy = .ignore)
      (warning : String) : Effect m w op (m.logLine .warning warning).next
  | returned {target : ℤ} (hr : m.registers.sp ≠ 0)
      (ht : eitherEnd? m.registers.stack (m.registers.sp - 1) = some target) :
      Effect m w .ret ((m.mapRegisters fun r => { r with sp := r.sp - 1 }).jump target)
  | called {stack : List ℤ} (hr : m.registers.sp < stackDepth)
      (hs : setEitherEnd? m.registers.stack m.registers.sp (Registers.after m.registers.pc) =
        some stack) :
      Effect m w .call ((m.mapRegisters fun r => { r with stack, sp := r.sp + 1 }).jump w.nnn)
  | jump {op : Opcode} {target : ℤ} (hop : op ∈ [.jp, .jpV0]) (ht : IsAddress target)
      (log : Array LogLine) : Effect m w op ({ m with log }.jump target)
  | skip {op : Opcode} (hop : op ∈ [.seImm, .sneImm, .se, .sne, .skp, .sknp]) :
      Effect m w op (m.mapRegisters Registers.skip).next
  | noSkip {op : Opcode} (hop : op ∈ [.seImm, .sneImm, .se, .sne, .skp, .sknp]) :
      Effect m w op m.next
  | load {op : Opcode} {value : ℕ} (hop : op ∈ [.ldImm, .addImm, .ld, .or, .and, .xor, .ldVxDt])
      (hv : m.registers.WellFormed → value < 256) : Effect m w op (m.load w.x value)
  | compute {op : Opcode} {f : List ℕ → List ℕ} (hop : op ∈ [.add, .sub, .shr, .subn, .shl])
      (hf : ∀ v, IsRegisterFile v → IsRegisterFile (f v)) : Effect m w op (m.compute f)
  | setI {op : Opcode} {i : ℤ} (hop : op ∈ [.ldI, .addI, .ldF]) (hi : IsAddress i) :
      Effect m w op (m.setI i)
  | randomize {value : ℕ} {random : RandomSource} (hr : m.random.draw = (value, random)) :
      Effect m w .rnd ({ m with random }.load w.x (value &&& w.kk))
  | assignDt : Effect m w .ldDtVx
      (m.mapRegisters fun r => { r with dt := r.dt.assign (m.reg w.x) }).next
  | assignSt : Effect m w .ldStVx
      (m.mapRegisters fun r => { r with st := r.st.assign (m.reg w.x) }).next
  | key {key : Key} {keypad : Keypad} {visits : List (List (KeypadOp KeyAction))}
      (hk : Scripted.waitForKey KeyAction.perform ⟨m.keypad, m.visits⟩ =
        (.ok key, ⟨keypad, visits⟩)) :
      Effect m w .ldVxK ({ m with visits, keypad }.load w.x key.val)
  | noKey {e : Failure} {keypad : Keypad} {visits : List (List (KeypadOp KeyAction))}
      (hk : Scripted.waitForKey KeyAction.perform ⟨m.keypad, m.visits⟩ =
        (.error e, ⟨keypad, visits⟩)) :
      Effect m w .ldVxK (.error e, { m with visits, keypad })
  | uncovered {op : Opcode} {count : ℕ} (hop : op ∈ [.drw, .ldB, .ldMemVx, .ldVxMem])
      (ht : m.registers.WellFormed → transfer? w op = some count)
      (hc : ¬ m.storage.memory.Covers m.registers.i count) :
      Effect m w op (.error (m.storage.memory.uncovered m.registers.i count), m)
  | draw {sprite : List UInt8} {screen : Screen} {collided : Bool}
      (hd : m.screen.draw (m.reg w.x) (m.reg w.y) sprite = (screen, collided)) :
      Effect m w .drw
        ({ m with storage := m.storage.noteRead m.registers.i sprite, screen }.load flagRegister
          (if collided then 1 else 0))
  | store {op : Opcode} (hop : op ∈ [.ldB, .ldMemVx]) (data : List UInt8) :
      Effect m w op { m with storage := m.storage.noteWrite m.registers.i data }.next
  | loadFrom {data : List UInt8} (hd : data.length = w.x + 1) :
      Effect m w .ldVxMem
        ({ m with storage := m.storage.noteRead m.registers.i data }.compute fun v =>
          data.map UInt8.toNat ++ v.drop data.length)
  | misused {op : Opcode} (hop : op ∈ [.ret, .call, .ldB, .ldMemVx])
      (hm : ¬ m.registers.WellFormed) (cause : Misuse) (sp : ℤ) :
      Effect m w op (.error (.misuse cause), m.mapRegisters fun r => { r with sp })

/-! ### Instructions -/

variable (m : Machine) (w : Word)

lemma ret_effect : Effect m w .ret m.ret := by
  unfold ret
  dsimp only
  by_cases hsp : m.registers.sp = 0
  · have hr : m.refusal? .ret = some (.stackUnderflow m.registers.pc) := if_pos hsp
    rw [if_pos hsp, stackFault]
    cases hp : m.policy with
    | strict => exact .refused hr hp
    | ignore => exact .ignored hr hp _
  · rw [if_neg hsp]
    rcases ht : eitherEnd? m.registers.stack (m.registers.sp - 1) with _ | target
    · have hm : ¬ m.registers.WellFormed := fun h => by
        obtain ⟨a, ha, -⟩ := h.exists_top hsp
        exact absurd (ht.symm.trans ha) nofun
      exact .misused (by decide) hm _ _
    · exact .returned hsp ht

lemma call_effect : Effect m w .call (m.call w.nnn) := by
  unfold call
  dsimp only
  by_cases hsp : (stackDepth : ℤ) ≤ m.registers.sp
  · have hr : m.refusal? .call = some (.stackOverflow m.registers.pc stackDepth) := if_pos hsp
    rw [if_pos hsp, stackFault]
    cases hp : m.policy with
    | strict => exact .refused hr hp
    | ignore => exact .ignored hr hp _
  · rw [if_neg hsp]
    have hroom : m.registers.sp < stackDepth := by omega
    rcases hs : setEitherEnd? m.registers.stack m.registers.sp
      (Registers.after m.registers.pc) with _ | stack
    · have hm : ¬ m.registers.WellFormed := fun h => by
        obtain ⟨k, -, -, hk⟩ := h.exists_push hroom (Registers.after m.registers.pc)
        exact absurd (hs.symm.trans hk) nofun
      exact .misused (by decide) hm _ m.registers.sp
    · exact .called hroom hs

variable {op : Opcode}

lemma jumpNoting_effect (hop : op ∈ [.jp, .jpV0]) (name : String) {target : ℤ}
    (ht : IsAddress target) : Effect m w op (m.jumpNoting name target) := by
  unfold jumpNoting
  dsimp only
  split
  · exact .jump hop ht _
  · exact .jump hop ht m.log

lemma skipIf_effect (hop : op ∈ [.seImm, .sneImm, .se, .sne, .skp, .sknp]) (condition : Bool) :
    Effect m w op (m.skipIf condition) := by
  unfold skipIf
  split
  · exact .skip hop
  · exact .noSkip hop

lemma waitForKey_effect : Effect m w .ldVxK (m.waitForKey w.x) := by
  unfold waitForKey
  rcases hk : Scripted.waitForKey KeyAction.perform ⟨m.keypad, m.visits⟩ with
    ⟨e | key, keypad, visits⟩
  · exact .noKey hk
  · exact .key hk

lemma drawSprite_effect : Effect m w .drw (m.drawSprite w.x w.y w.n) := by
  unfold drawSprite
  rw [Storage.readBytes_eq]
  by_cases hc : m.storage.memory.Covers m.registers.i w.n
  · rw [if_pos hc]
    exact .draw rfl
  · rw [if_neg hc]
    exact .uncovered (by decide) (fun _ => rfl) hc

/-- Storing numbers that are bytes in a well-formed machine. -/
lemma storeAtI_effect (hop : op ∈ [.ldB, .ldMemVx]) {values : List ℕ}
    (hv : m.registers.WellFormed →
      (∀ b ∈ values, b < 256) ∧ transfer? w op = some values.length) :
    Effect m w op (m.storeAtI values) := by
  unfold storeAtI
  dsimp only
  rcases hb : Memory.toBytes (values.map Int.ofNat) with e | data
  · have hm : ¬ m.registers.WellFormed := fun h =>
      absurd (hb.symm.trans (Memory.toBytes_of_lt (hv h).1)) nofun
    obtain rfl := Memory.toBytes_error hb
    exact .misused (List.mem_append_right [.ret, .call] hop) hm _ m.registers.sp
  · dsimp only [bind, Except.bind]
    rw [Storage.writeBytes_eq]
    by_cases hc : m.storage.memory.Covers m.registers.i data.length
    · rw [if_pos hc]
      exact .store hop data
    · rw [if_neg hc]
      have hop' : op ∈ [.drw, .ldB, .ldMemVx, .ldVxMem] :=
        List.mem_cons_of_mem _ (List.mem_append.2 (.inl hop))
      refine .uncovered hop' (fun h => ?_) hc
      have hdata := Except.ok.inj (hb.symm.trans (Memory.toBytes_of_lt (hv h).1))
      rw [hdata, List.length_map]
      exact (hv h).2

lemma loadFromI_effect : Effect m w .ldVxMem (m.loadFromI w.x) := by
  unfold loadFromI
  rw [Storage.readBytes_eq]
  by_cases hc : m.storage.memory.Covers m.registers.i ((w.x : ℤ) + 1)
  · rw [if_pos hc]
    obtain ⟨a, ha⟩ := Int.eq_ofNat_of_zero_le hc.1
    have hend := hc.2
    rw [ha] at hend
    have hlen : (m.storage.memory.slice a ((a : ℤ) + (w.x + 1 : ℕ))).length = w.x + 1 :=
      Memory.length_slice _ (by omega)
    refine .loadFrom ?_
    rw [ha]
    exact hlen
  · rw [if_neg hc]
    exact .uncovered (by decide) (fun _ => rfl) hc

lemma decimalDigits_lt {n : ℕ} (h : n < 256) : ∀ b ∈ decimalDigits n, b < 256 := by
  intro b hb
  simp only [decimalDigits, List.mem_cons, List.not_mem_nil, or_false] at hb
  omega

/-- **Every instruction has an outcome of the forms that its opcode announces.** -/
theorem execute_effect (op : Opcode) : Effect m w op (m.execute w op) := by
  have hx : m.registers.WellFormed → m.reg w.x < 256 := fun h => h.get_lt w.x
  have hy : m.registers.WellFormed → m.reg w.y < 256 := fun h => h.get_lt w.y
  cases op with
  | sys => exact .nothing
  | cls => exact .clear
  | ret => exact ret_effect m w
  | jp => exact jumpNoting_effect m w (by decide) "JP" (isAddress_nnn w)
  | call => exact call_effect m w
  | seImm => exact skipIf_effect m w (by decide) _
  | sneImm => exact skipIf_effect m w (by decide) _
  | se => exact skipIf_effect m w (by decide) _
  | ldImm => exact .load (by decide) fun _ => w.kk_lt
  | addImm => exact .load (by decide) fun _ => Nat.mod_lt _ (by decide)
  | ld => exact .load (by decide) hy
  | or => exact .load (by decide) fun h => Nat.or_lt_two_pow (n := 8) (hx h) (hy h)
  | and => exact .load (by decide) fun h => Nat.lt_of_le_of_lt Nat.and_le_left (hx h)
  | xor => exact .load (by decide) fun h => Nat.xor_lt_two_pow (n := 8) (hx h) (hy h)
  | add => exact .compute (by decide) fun _ hv => hv.add w.x w.y
  | sub => exact .compute (by decide) fun _ hv => hv.sub w.x w.y
  | shr => exact .compute (by decide) fun _ hv => hv.shiftRight w.x
  | subn => exact .compute (by decide) fun _ hv => hv.subFrom w.x w.y
  | shl => exact .compute (by decide) fun _ hv => hv.shiftLeft w.x
  | sne => exact skipIf_effect m w (by decide) _
  | ldI => exact .setI (by decide) (isAddress_nnn w)
  | jpV0 =>
    exact jumpNoting_effect m w (by decide) "JP V0" (isAddress_natCast (Nat.mod_lt _ (by decide)))
  | rnd => exact .randomize rfl
  | drw => exact drawSprite_effect m w
  | skp => exact skipIf_effect m w (by decide) _
  | sknp => exact skipIf_effect m w (by decide) _
  | ldVxDt => exact .load (by decide) fun h => h.dt_lt
  | ldVxK => exact waitForKey_effect m w
  | ldDtVx => exact .assignDt
  | ldStVx => exact .assignSt
  | addI => exact .setI (by decide) (isAddress_emod _)
  | ldF => exact .setI (by decide) (isAddress_glyph _)
  | ldB =>
    show Effect m w .ldB (m.storeAtI (decimalDigits (m.reg w.x)))
    exact storeAtI_effect m w (by decide) fun h => ⟨decimalDigits_lt (hx h), rfl⟩
  | ldMemVx =>
    refine storeAtI_effect m w (by decide) fun h =>
      ⟨fun b hb => h.file.lt b (List.mem_of_mem_take hb), ?_⟩
    have hx16 := w.x_lt
    rw [List.length_take, h.file.length_eq, registerCount, Nat.min_eq_left (by omega)]
    rfl
  | ldVxMem => exact loadFromI_effect m w

/-! ### Steps -/

/-- The machine with an empty journal. -/
def clearJournal (m : Machine) : Machine := { m with storage := m.storage.takeJournal.2 }

lemma fetch_memory (m : Machine) : m.fetch.2.memory = m.storage.memory := by
  unfold fetch
  dsimp only
  rw [Storage.readWord_eq]
  split
  · rfl
  · rename_i w storage hw
    split at hw
    · obtain ⟨-, rfl⟩ := Prod.mk.inj (Except.ok.inj hw)
      split <;> rfl
    · exact absurd hw nofun

lemma fetch_storage_memory {m : Machine} {r : Except Failure (Word × Opcode)} {storage : Storage}
    (h : m.clearJournal.fetch = (r, storage)) : storage.memory = m.storage.memory := by
  have hm := fetch_memory m.clearJournal
  rw [h] at hm
  exact hm

/-- An instruction that is fetched is the word at the address of the next instruction, and the two
bytes of it are noted. -/
lemma fetch_ok {m : Machine} {w : Word} {op : Opcode} {storage : Storage}
    (h : m.fetch = (.ok (w, op), storage)) :
    let pc := m.registers.pc
    let high := m.storage.memory.byteAt pc.toNat
    let low := m.storage.memory.byteAt (pc.toNat + 1)
    m.storage.memory.Covers pc 2 ∧ w = Word.ofBytes high low ∧ w.opcode? = some op ∧
      storage = m.storage.noteRead pc [high, low] := by
  unfold fetch at h
  dsimp only at h
  rw [Storage.readWord_eq] at h
  by_cases hc : m.storage.memory.Covers m.registers.pc 2
  · rw [if_pos hc] at h
    dsimp only at h
    split at h
    · rename_i op' hop
      obtain ⟨hw, rfl⟩ := Prod.mk.inj h
      obtain ⟨rfl, rfl⟩ := Prod.mk.inj (Except.ok.inj hw)
      rw [Word.high_ofBytes, Word.low_ofBytes]
      exact ⟨hc, rfl, hop, rfl⟩
    · exact absurd h nofun
  · rw [if_neg hc] at h
    exact absurd h nofun

/-- A step without an instruction. -/
lemma step_of_unfetched {m : Machine} {e : Failure} {storage : Storage}
    (hf : m.clearJournal.fetch = (.error e, storage)) :
    m.step = (.error e, { m with storage }) := by
  unfold step
  simp only [clearJournal] at hf
  simp only [hf]

/-- A step whose instruction fails. -/
lemma step_of_failed {m m' : Machine} {w : Word} {op : Opcode} {storage : Storage} {e : Failure}
    (hf : m.clearJournal.fetch = (.ok (w, op), storage))
    (he : { m with storage }.execute w op = (.error e, m')) : m.step = (.error e, m') := by
  unfold step
  simp only [clearJournal] at hf
  simp only [hf, he]

/-- A step whose instruction is executed. -/
lemma step_of_done {m m' : Machine} {w : Word} {op : Opcode} {storage : Storage} {flow : Flow}
    (hf : m.clearJournal.fetch = (.ok (w, op), storage))
    (he : { m with storage }.execute w op = (.ok flow, m')) :
    m.step = (.ok (m'.conclude m.registers.pc w op flow).1,
      (m'.conclude m.registers.pc w op flow).2) := by
  unfold step
  simp only [clearJournal] at hf
  simp only [hf, he]

/-- The endings of a step. -/
inductive Ending (m : Machine) : Outcome Snapshot → Prop where
  /-- There is no instruction. -/
  | unfetched {e : Failure} {storage : Storage}
      (hf : m.clearJournal.fetch = (.error e, storage)) : Ending m (.error e, { m with storage })
  /-- The instruction failed. -/
  | failed {w : Word} {op : Opcode} {storage : Storage} {e : Failure} {m' : Machine}
      (hf : m.clearJournal.fetch = (.ok (w, op), storage))
      (he : { m with storage }.execute w op = (.error e, m')) : Ending m (.error e, m')
  /-- The instruction was executed. -/
  | done {w : Word} {op : Opcode} {storage : Storage} {flow : Flow} {m' : Machine}
      (hf : m.clearJournal.fetch = (.ok (w, op), storage))
      (he : { m with storage }.execute w op = (.ok flow, m')) :
      Ending m (.ok (m'.conclude m.registers.pc w op flow).1,
        (m'.conclude m.registers.pc w op flow).2)

/-- **Every step has one of the three endings.** -/
theorem step_ending (m : Machine) : Ending m m.step := by
  rcases hf : m.clearJournal.fetch with ⟨e | ⟨w, op⟩, storage⟩
  · rw [step_of_unfetched hf]
    exact .unfetched hf
  · rcases he : { m with storage }.execute w op with ⟨e | flow, m'⟩
    · rw [step_of_failed hf he]
      exact .failed hf he
    · rw [step_of_done hf he]
      exact .done hf he

/-- What has happened in a step that succeeded. -/
lemma step_ok {m m' : Machine} {s : Snapshot} (h : m.step = (.ok s, m')) :
    ∃ w op storage flow m₁, m.clearJournal.fetch = (.ok (w, op), storage) ∧
      { m with storage }.execute w op = (.ok flow, m₁) ∧
        s = (m₁.conclude m.registers.pc w op flow).1 ∧
        m' = (m₁.conclude m.registers.pc w op flow).2 := by
  have hs := step_ending m
  rw [h] at hs
  generalize ho : ((.ok s, m') : Outcome Snapshot) = o at hs
  cases hs with
  | unfetched | failed => exact absurd ho nofun
  | done hf he =>
    obtain ⟨hs, hm⟩ := Prod.mk.inj ho
    exact ⟨_, _, _, _, _, hf, he, Except.ok.inj hs, hm⟩

end Machine

end Chip8
