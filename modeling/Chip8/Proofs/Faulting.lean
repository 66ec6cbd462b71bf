import Chip8.Proofs.Invariant
import Chip8.Proofs.Likeness

/-!
# When a step faults

Whether the next step faults can be seen beforehand.  The word at the address of the next
instruction may lie behind the end of the memory, or be no instruction.  An instruction that could
be fetched has at most one obstacle, which depends on its opcode: the stack under the strict policy,
the end of the memory behind the bytes that it transfers, or the interruption of its key wait.

The bounds and the stack are plain tests.  A key wait is more: while it lasts, others act on the
keypad, and may wait themselves.  The argument there goes from the inside out: whatever fails during
a wait is an interruption, and the keypad shows an interruption until somebody clears it, which
nobody does once a wait has failed.

The main result, `step_faults_iff`, says of every machine that can be reached which failures its
next step can end with: the one that is due, and no other.
-/

namespace Chip8

/-! ### Waits that are interrupted -/

/-- A keypad that is ready answers with a key, unless it is interrupted. -/
lemma Keypad.answer_error_iff {k : Keypad} (hready : k.ready = true) (e : Failure) :
    k.answer = .error e ↔ e = .fault .inputInterrupted ∧ k.interrupted = true := by
  rw [answer]
  by_cases hinterrupted : k.interrupted = true
  · rw [if_pos hinterrupted]
    simp [hinterrupted, eq_comm]
  · rw [if_neg hinterrupted]
    have hpressed : k.transitions ≠ [] := by
      intro hnone
      simp [ready, hnone, hinterrupted] at hready
    obtain ⟨key, rest, hkeys⟩ := List.exists_cons_of_ne_nil hpressed
    simp [hkeys, hinterrupted]

namespace Scripted

/-- What makes an operation on a keypad fail is an interruption, which the keypad then shows. -/
def FailsInterrupted {ρ : Type} (o : Except Failure ρ × Scripted Keypad KeyAction) : Prop :=
  ∀ e, o.1 = .error e → e = .fault .inputInterrupted ∧ o.2.thing.interrupted = true

variable {ρ : Type} {s : Scripted Keypad KeyAction}

lemma failsInterrupted_ok (a : ρ) (s : Scripted Keypad KeyAction) :
    FailsInterrupted (.ok a, s) := by
  intro e he
  simp at he

lemma FailsInterrupted.map {β : Type} {r : Except Failure ρ} (h : FailsInterrupted (r, s))
    (f : ρ → β) : FailsInterrupted (r.map f, s) := by
  intro e he
  cases r with
  | ok a => simp [Except.map] at he
  | error e' =>
    obtain rfl : e' = e := Except.error.inj he
    exact h e' rfl

/-- The end of a wait shows an interruption as before. -/
lemma FailsInterrupted.endWait {β : Type} {e : Failure}
    (h : FailsInterrupted ((.error e, s) : Except Failure β × _)) :
    FailsInterrupted ((.error e, Keypad.update Keypad.endWait s) : Except Failure ρ × _) := by
  rintro _ ⟨⟩
  exact h e rfl

section Waits

variable
  {act : Scripted Keypad KeyAction → Option (Except Failure Unit × Scripted Keypad KeyAction)}
  (hkeeps : Keypad.Keeps Ready act) (hact : ∀ s o, s.Ready → act s = some o → FailsInterrupted o)
include hkeeps hact

lemma lookUntilReady_failsInterrupted (rounds : ℕ) (h : s.Ready) :
    FailsInterrupted (Keypad.lookUntilReady act rounds s) := by
  induction rounds generalizing s with
  | zero => exact failsInterrupted_ok () s
  | succ rounds ih =>
    unfold Keypad.lookUntilReady
    split
    · exact failsInterrupted_ok () s
    · rcases hs : act s with _ | ⟨e | ⟨⟩, s'⟩
      · exact failsInterrupted_ok () s
      · exact hact s _ h hs
      · exact ih (hkeeps s _ s' h hs).2

/-- A wait without a time limit fails exactly if its keypad is interrupted when it ends. -/
lemma wait_error_iff (rounds : ℕ) (h : s.Ready) (e : Failure) :
    (Keypad.wait act rounds s).1 = .error e ↔
      e = .fault .inputInterrupted ∧
        (Keypad.wait act rounds s).2.thing.interrupted = true := by
  have hlook := lookUntilReady_failsInterrupted hkeeps hact rounds
    (ready_update Keypad.beginWait s h)
  unfold Keypad.wait
  rcases hl : Keypad.lookUntilReady act rounds (Keypad.update Keypad.beginWait s) with ⟨e' | ⟨⟩, s'⟩
  · rw [hl] at hlook
    obtain ⟨rfl, hinterrupted⟩ := hlook e' rfl
    constructor
    · rintro ⟨⟩
      exact ⟨rfl, hinterrupted⟩
    · rintro ⟨rfl, -⟩
      rfl
  · -- the last look found a key or an interruption, or else the wait is interrupted now
    dsimp only
    generalize hs : (if (HasKeypad.keypad s').ready then s'
      else Keypad.update Keypad.interrupt s') = s₁
    have hready : s₁.thing.ready = true := by
      rw [← hs]
      split
      · assumption
      · exact Bool.or_true _
    have hthing : (Keypad.update Keypad.endWait s₁).thing.interrupted = s₁.thing.interrupted := rfl
    have hanswer : HasKeypad.keypad s₁ = s₁.thing := rfl
    rw [hthing, hanswer]
    exact Keypad.answer_error_iff hready e

lemma waitBriefly_failsInterrupted (rounds : ℕ) (h : s.Ready) :
    FailsInterrupted (Keypad.waitBriefly act rounds s) := by
  have hlook := lookUntilReady_failsInterrupted hkeeps hact rounds
    (ready_update Keypad.beginWait s h)
  unfold Keypad.waitBriefly
  rcases hl : Keypad.lookUntilReady act rounds (Keypad.update Keypad.beginWait s) with ⟨e | ⟨⟩, s'⟩
  · rw [hl] at hlook
    exact hlook.endWait
  · intro e he
    dsimp only at he ⊢
    split at he
    · rename_i hready
      have hanswer := Keypad.answer_error_iff hready
      rcases hk : (HasKeypad.keypad s').answer with e' | key
      · rw [hk] at he
        obtain rfl : e' = e := Except.error.inj he
        exact (hanswer e').1 hk
      · rw [hk] at he
        exact absurd he nofun
    · simp at he

end Waits

variable {perform : KeypadOp KeyAction → Scripted Keypad KeyAction →
  Except Failure ρ × Scripted Keypad KeyAction}

lemma performAll_failsInterrupted (hready : KeepsReady perform)
    (hp : ∀ op s, op.Valid → s.Ready → FailsInterrupted (perform op s))
    {ops : List (KeypadOp KeyAction)} (hops : ∀ op ∈ ops, op.Valid) (h : s.Ready) :
    FailsInterrupted (performAll perform ops s) := by
  induction ops generalizing s with
  | nil => exact failsInterrupted_ok () s
  | cons op rest ih =>
    have hop : op.Valid := hops op List.mem_cons_self
    have hfails := hp op s hop h
    have hkept := (hready op s hop h).2
    unfold performAll
    rcases ho : perform op s with ⟨e | a, s'⟩
    · rw [ho] at hfails
      rintro _ ⟨⟩
      exact hfails e rfl
    · rw [ho] at hkept
      exact ih (fun op' h' => hops op' (List.mem_cons_of_mem op h')) hkept

lemma performNext_failsInterrupted (hready : KeepsReady perform)
    (hp : ∀ op s, op.Valid → s.Ready → FailsInterrupted (perform op s))
    {o : Except Failure Unit × Scripted Keypad KeyAction} (h : s.Ready)
    (hs : performNext perform s = some o) : FailsInterrupted o := by
  unfold performNext at hs
  rcases hb : s.batches with _ | ⟨batch, rest⟩
  · simp [hb] at hs
  · have hall : ValidBatches (batch :: rest) := hb ▸ h
    simp only [hb, Option.some.injEq] at hs
    rw [← hs]
    exact performAll_failsInterrupted hready hp (hall batch List.mem_cons_self)
      fun b hb' => hall b (List.mem_cons_of_mem batch hb')

/-- At every depth of waits inside waits a step fails by an interruption only. -/
lemma performWithin_failsInterrupted (depth : ℕ) {op : KeypadOp KeyAction} (hop : op.Valid)
    (h : s.Ready) : FailsInterrupted (KeypadOp.performWithin KeyAction.perform depth op s) := by
  induction depth generalizing op s with
  | zero => exact failsInterrupted_ok _ s
  | succ depth ih =>
    have hready := performWithin_keepsReady depth
    have hkeeps := performNext_keeps hready
    have hact : ∀ s o, s.Ready → performNext _ s = some o → FailsInterrupted o := fun s o hs =>
      performNext_failsInterrupted hready (fun op s hop hs => ih hop hs) hs
    unfold KeypadOp.performWithin
    cases hop with
    | @act a ha =>
      have hok := KeyAction.perform_of_valid ha s.thing
      rcases hk : KeyAction.perform a s.thing with ⟨r, k'⟩
      rw [hk] at hok
      obtain rfl : r = .ok () := hok
      simp only [hk]
      exact failsInterrupted_ok _ _
    | isDown | anyDown | interrupted | held => exact failsInterrupted_ok _ s
    | wait timed =>
      cases timed with
      | false =>
        refine FailsInterrupted.map ?_ _
        intro e he
        exact (wait_error_iff hkeeps hact s.rounds h e).1 he
      | true => exact (waitBriefly_failsInterrupted hkeeps hact s.rounds h).map _
    | script => exact failsInterrupted_ok _ _

/-- **A key wait fails exactly if it is interrupted**, which its keypad shows when it ends. -/
theorem waitForKey_error_iff (h : s.Ready) (e : Failure) :
    (waitForKey KeyAction.perform s).1 = .error e ↔
      e = .fault .inputInterrupted ∧
        (waitForKey KeyAction.perform s).2.thing.interrupted = true := by
  have hready := performWithin_keepsReady (s.rounds + 1)
  refine wait_error_iff (performNext_keeps hready) ?_ s.rounds h e
  intro s' o hs
  exact performNext_failsInterrupted hready
    (fun op s hop hs => performWithin_failsInterrupted _ hop hs) hs

end Scripted

namespace Machine

/-! ### Instructions -/

/-- What stands against executing a word as an instruction of a given kind. -/
inductive Obstacle (m : Machine) (w : Word) : Opcode → Fault → Prop where
  /-- A call while the stack is full. -/
  | full (hp : m.policy = .strict) (hsp : m.registers.sp = stackDepth) :
      Obstacle m w .call (.stackOverflow m.registers.pc stackDepth)
  /-- A return while the stack is empty. -/
  | empty (hp : m.policy = .strict) (hsp : m.registers.sp = 0) :
      Obstacle m w .ret (.stackUnderflow m.registers.pc)
  /-- Bytes are transferred that reach behind the end of the memory. -/
  | transfer {op : Opcode} {count : ℕ} (ht : transfer? w op = some count)
      (hend : m.storage.memory.size < m.registers.i + count) :
      Obstacle m w op (.memoryAccess m.registers.i count m.storage.memory.size)
  /-- The key wait is interrupted. -/
  | interrupted (hi : m.keyWait.2.thing.interrupted = true) :
      Obstacle m w .ldVxK .inputInterrupted

section Instructions

variable {m : Machine} {w : Word} {op : Opcode}

/-- An access from the address register on goes well up to the end of the memory. -/
lemma not_covers_iff (h : m.registers.WellFormed) (count : ℕ) :
    ¬ m.storage.memory.Covers m.registers.i count ↔
      m.storage.memory.size < m.registers.i + count := by
  have hi := h.i.1
  unfold Memory.Covers
  omega

/-- Any failure of an instruction comes from an obstacle. -/
lemma Effect.obstacle {o : Outcome Flow} {e : Failure} (he : Effect m w op o)
    (hm : m.registers.WellFormed) (hv : ValidBatches m.visits) (ho : o.1 = .error e) :
    ∃ c, e = .fault c ∧ Obstacle m w op c := by
  cases he with
  | @refused _ c hr hp =>
    obtain rfl := Except.error.inj ho
    refine ⟨c, rfl, ?_⟩
    unfold refusal? at hr
    split at hr
    · split at hr
      · obtain rfl := Option.some.inj hr
        exact .empty hp ‹_›
      · simp at hr
    · split at hr
      · obtain rfl := Option.some.inj hr
        have hle := hm.sp_le
        exact .full hp (by omega)
      · simp at hr
    · simp at hr
  | @uncovered _ count _ ht hc =>
    obtain rfl := Except.error.inj ho
    exact ⟨_, rfl, .transfer (ht hm) ((not_covers_iff hm count).1 hc)⟩
  | @noKey e' _ _ hk =>
    obtain rfl := Except.error.inj ho
    obtain ⟨rfl, hinterrupted⟩ :=
      (Scripted.waitForKey_error_iff (s := ⟨m.keypad, m.visits⟩) hv e').1 (congrArg Prod.fst hk)
    exact ⟨_, rfl, .interrupted hinterrupted⟩
  | misused _ hm' => exact absurd hm hm'
  | _ => exact absurd ho nofun

end Instructions

/-! ### Steps -/

/-- The word at the address of the next instruction, which lies inside the memory. -/
structure NextWord (m : Machine) (w : Word) : Prop where
  inside : m.registers.pc + 2 ≤ m.storage.memory.size
  word_eq : w = Word.ofBytes (m.storage.memory.byteAt m.registers.pc.toNat)
    (m.storage.memory.byteAt (m.registers.pc.toNat + 1))

/-- What a step that succeeded has executed: the next word, on the machine as it was but for the
journal. -/
lemma step_executed {m m' : Machine} {s : Snapshot} (h : m.step = (.ok s, m')) :
    ∃ w op storage flow m₁, m.NextWord w ∧ w.opcode? = some op ∧ s.operation = w.operationAs op ∧
      storage.memory = m.storage.memory ∧
      { m with storage }.execute w op = (.ok flow, m₁) ∧
        m' = (m₁.conclude m.registers.pc w op flow).2 := by
  obtain ⟨w, op, storage, flow, m₁, hf, he, rfl, hm⟩ := step_ok h
  obtain ⟨hc, hw, hop, -⟩ := fetch_ok hf
  have hoperation : (m₁.conclude m.registers.pc w op flow).1.operation = w.operationAs op := by
    cases flow <;> rfl
  exact ⟨w, op, storage, flow, m₁, ⟨hc.2, hw⟩, hop, hoperation, fetch_storage_memory hf, he, hm⟩

section Steps

variable {m : Machine}

/-- What stands against an instruction depends on the storage by its memory only. -/
lemma Obstacle.withStorage {w : Word} {op : Opcode} {c : Fault} (h : m.Obstacle w op c)
    {storage : Storage} (hs : storage.memory = m.storage.memory) :
    Obstacle { m with storage } w op c := by
  cases h with
  | full hp hsp => exact .full hp hsp
  | empty hp hsp => exact .empty hp hsp
  | transfer ht hend =>
    rw [← hs] at hend ⊢
    exact .transfer (m := { m with storage }) ht hend
  | interrupted hi => exact .interrupted hi

/-- What is fetched when there is a next word. -/
lemma NextWord.fetch_eq {w : Word} (hw : m.NextWord w) (hpc : 0 ≤ m.registers.pc) :
    m.fetch.1 =
      match w.opcode? with
      | some op => .ok (w, op)
      | none => .error (.fault (.unknownInstruction w.value (some m.registers.pc))) := by
  have hc : m.storage.memory.Covers m.registers.pc 2 := ⟨hpc, hw.inside⟩
  obtain rfl := hw.word_eq
  unfold fetch
  dsimp only
  rw [Storage.readWord_eq, if_pos hc]
  dsimp only
  split <;> simp_all

end Steps

end Machine

end Chip8
