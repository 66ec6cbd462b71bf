import Chip8.Proofs.History
import Chip8.Proofs.Likeness

/-!
# The two stack policies

A policy says what becomes of a call while the stack is full and of a return while it is empty.  The
machine asks for it there and nowhere else.  So a strict machine and a lenient one that start alike
run alike, whatever happens to both, until the stack has an objection against the next instruction.
Then the strict one faults, and the lenient one passes over the instruction.

To differ in the policy only is a likeness, and an instruction takes the policy in only if the stack
has an objection.  What is left is that no event but a step asks for the policy at all.
-/

namespace Chip8

namespace Machine

/-- The machine under another policy. -/
def withPolicy (m : Machine) (policy : StackPolicy) : Machine := { m with policy }

lemma likeness_withPolicy (policy : StackPolicy) :
    Likeness fun m m' => m' = m.withPolicy policy where
  core_eq := by
    rintro m _ rfl
    rfl
  withCore := by
    rintro m _ c rfl
    rfl
  logLine := by
    rintro m _ level message rfl
    rfl
  drawn := by
    rintro m _ rfl
    rfl
  waited := by
    rintro m _ rfl
    rfl
  assignDt := by
    rintro m _ value rfl
    rfl
  assignSt := by
    rintro m _ value rfl
    rfl

/-- The stack has an objection against the next instruction: the fault that it is, and the warning
that is given if the instruction is passed over. -/
inductive Objection (m : Machine) : Fault → String → Prop where
  /-- A call while the stack is full. -/
  | full {w : Word} (hnext : m.AboutTo w .call) (hsp : stackDepth ≤ m.registers.sp) :
      Objection m (.stackOverflow m.registers.pc stackDepth)
        ("CALL with full stack at " ++ Hex.address 6 m.registers.pc ++ " ignored")
  /-- A return while the stack is empty. -/
  | empty {w : Word} (hnext : m.AboutTo w .ret) (hsp : m.registers.sp = 0) :
      Objection m (.stackUnderflow m.registers.pc)
        ("RET with empty stack at " ++ Hex.address 6 m.registers.pc ++ " ignored")

/-- Whether the stack objects to the next instruction. -/
def Objects (m : Machine) : Prop := ∃ c warning, m.Objection c warning

/-- An objection is known from the next instruction and the stack pointer. -/
lemma objects_iff (m : Machine) :
    m.Objects ↔ ∃ w op, m.AboutTo w op ∧
      (op = .call ∧ stackDepth ≤ m.registers.sp ∨ op = .ret ∧ m.registers.sp = 0) := by
  constructor
  · rintro ⟨c, warning, hc⟩
    cases hc with
    | full hnext hsp => exact ⟨_, _, hnext, .inl ⟨rfl, hsp⟩⟩
    | empty hnext hsp => exact ⟨_, _, hnext, .inr ⟨rfl, hsp⟩⟩
  · rintro ⟨w, op, hnext, ⟨rfl, hsp⟩ | ⟨rfl, hsp⟩⟩
    · exact ⟨_, _, .full hnext hsp⟩
    · exact ⟨_, _, .empty hnext hsp⟩

instance (m : Machine) : Decidable m.Objects :=
  match h : m.fetch.1 with
  | .ok (_, op) =>
    decidable_of_iff
      (op = .call ∧ stackDepth ≤ m.registers.sp ∨ op = .ret ∧ m.registers.sp = 0)
      (by simp [objects_iff, AboutTo, h])
  | .error _ => isFalse (by simp [objects_iff, AboutTo, h])

/-- Without an objection the policy is not taken in. -/
lemma intake_withPolicy {m : Machine} (h : ¬ m.Objects) (policy : StackPolicy) {w : Word}
    {op : Opcode} (hnext : m.AboutTo w op) : m.intake op = (m.withPolicy policy).intake op := by
  cases op with
  | ret =>
    have hsp : ¬ m.registers.sp = 0 := fun hsp => h ⟨_, _, .empty hnext hsp⟩
    simp [intake, refusal?, withPolicy, hsp]
  | call =>
    have hsp : ¬ (stackDepth : ℤ) ≤ m.registers.sp := fun hsp => h ⟨_, _, .full hnext hsp⟩
    simp [intake, refusal?, withPolicy, hsp]
  | _ => rfl

/-! ### Steps -/

/-- Without an objection a step is the same under every policy. -/
lemma step_withPolicy {m : Machine} (h : ¬ m.Objects) (policy : StackPolicy) :
    (m.withPolicy policy).step = (m.step.1, m.step.2.withPolicy policy) := by
  have hin : ∀ w op, m.AboutTo w op → m.intake op = (m.withPolicy policy).intake op :=
    fun w op hnext => intake_withPolicy h policy hnext
  have hafter : (m.withPolicy policy).step.2 = m.step.2.withPolicy policy :=
    ((likeness_withPolicy policy).step rfl hin).2
  have hview : m.step.2.view = (m.withPolicy policy).step.2.view := by
    rw [hafter]
    rfl
  exact Prod.ext ((likeness_withPolicy policy).step_result rfl hin hview).symm hafter

namespace Objection

variable {m : Machine} {c : Fault} {warning : String} (h : m.Objection c warning)
include h

/-- What becomes of an instruction that the stack objects to. -/
lemma execute : ∃ w op, m.AboutTo w op ∧ ∀ storage, Machine.execute { m with storage } w op =
    match m.policy with
    | .strict => (.error (.fault c), { m with storage })
    | .ignore => (.ok .next, logLine { m with storage } .warning warning) := by
  cases h with
  | @full w hnext hsp =>
    refine ⟨w, .call, hnext, fun storage => (if_pos hsp).trans ?_⟩
    unfold stackFault
    cases m.policy with
    | strict => rfl
    | ignore => rfl
  | @empty w hnext hsp =>
    refine ⟨w, .ret, hnext, fun storage => (if_pos hsp).trans ?_⟩
    unfold stackFault
    cases m.policy with
    | strict => rfl
    | ignore => rfl

lemma fetched : ∃ w op storage, m.clearJournal.fetch = (.ok (w, op), storage) ∧
    Machine.execute { m with storage } w op =
      match m.policy with
      | .strict => (.error (.fault c), { m with storage })
      | .ignore => (.ok .next, logLine { m with storage } .warning warning) := by
  obtain ⟨w, op, hnext, he⟩ := h.execute
  rcases hf : m.clearJournal.fetch with ⟨r, storage⟩
  obtain rfl : r = .ok (w, op) := by
    rw [← hnext, ← fetch_clearJournal, hf]
  exact ⟨w, op, storage, rfl, he storage⟩

/-- A strict machine meets the objection as a fault, and nothing but the fetch is noted. -/
lemma step_strict (hpolicy : m.policy = .strict) : ∃ journal,
    m.step = (.error (.fault c), { m with storage := ⟨m.storage.memory, journal⟩ }) := by
  obtain ⟨w, op, storage, hf, he⟩ := h.fetched
  refine ⟨storage.journal, ?_⟩
  rw [← fetch_storage_memory hf]
  refine step_of_failed hf ?_
  rw [he, hpolicy]

/-- A lenient machine warns and goes on behind the instruction. -/
lemma step_lenient (hpolicy : m.policy = .ignore) : ∃ s,
    m.step = (.ok s, { m with
      registers := { m.registers with pc := (m.registers.pc + 2) % 65536 }
      storage := ⟨m.storage.memory, []⟩
      cycles := m.cycles + 1
      log := m.log.push ⟨.warning, warning⟩ }) := by
  obtain ⟨w, op, storage, hf, he⟩ := h.fetched
  have hdone : Machine.execute { m with storage } w op =
      (.ok .next, logLine { m with storage } .warning warning) := by
    rw [he, hpolicy]
  have hstep := step_of_done hf hdone
  rw [← fetch_storage_memory hf]
  exact ⟨_, hstep⟩

end Objection

/-! ### Histories -/

lemma loadBytes_withPolicy (m : Machine) (policy : StackPolicy) (address : ℤ)
    (program : List UInt8) :
    (m.withPolicy policy).loadBytes address program =
      (m.loadBytes address program).map fun p => (p.1, p.2.withPolicy policy) := by
  unfold loadBytes
  dsimp only [withPolicy, bind, Except.bind, pure, Except.pure]
  split
  · rfl
  · split
    · rfl
    · cases m.storage.memory.writeBytes address program <;> rfl

/-- What an event gives if it is a step. -/
def answers (m : Machine) : Event → List (Except Failure Snapshot)
  | .step => [m.step.1]
  | _ => []

/-- What the steps of a history give. -/
def outcomes (m : Machine) : List Event → List (Except Failure Snapshot)
  | [] => []
  | e :: rest => m.answers e ++ (m.undergo e).outcomes rest

/-- The event is a step that meets an objection of the stack. -/
def Contests (m : Machine) : Event → Prop
  | .step => m.Objects
  | _ => False

instance (m : Machine) (e : Event) : Decidable (m.Contests e) :=
  match e with
  | .step => inferInstanceAs (Decidable m.Objects)
  | .passDelay _ | .passSound _ | .resetProcessor | .reset | .load _ _ | .keypad _ => isFalse id

/-- No step of a history meets an objection of the stack. -/
def Permitted (m : Machine) : List Event → Prop
  | [] => True
  | e :: rest => ¬ m.Contests e ∧ (m.undergo e).Permitted rest

instance Permitted.decidable (m : Machine) :
    (history : List Event) → Decidable (m.Permitted history)
  | [] => isTrue trivial
  | e :: rest =>
    have := Permitted.decidable (m.undergo e) rest
    inferInstanceAs (Decidable (¬ m.Contests e ∧ (m.undergo e).Permitted rest))

/-- An event is the same under every policy, unless it is a step that meets an objection. -/
lemma event_withPolicy {m : Machine} {e : Event} (h : ¬ m.Contests e)
    (policy : StackPolicy) :
    (m.withPolicy policy).answers e = m.answers e ∧
      (m.withPolicy policy).undergo e = (m.undergo e).withPolicy policy := by
  cases e with
  | step =>
    have hstep := step_withPolicy h policy
    refine ⟨?_, congrArg Prod.snd hstep⟩
    simp only [answers, hstep]
  | load address program =>
    refine ⟨rfl, ?_⟩
    simp only [undergo, loadBytes_withPolicy]
    rcases m.loadBytes address program with e | ⟨n, m'⟩
    · rfl
    · rfl
  | _ => exact ⟨rfl, rfl⟩

/-- A permitted history is the same under every policy. -/
lemma history_withPolicy {m : Machine} {history : List Event} (h : m.Permitted history)
    (policy : StackPolicy) :
    (m.withPolicy policy).outcomes history = m.outcomes history ∧
      (m.withPolicy policy).after history = (m.after history).withPolicy policy := by
  induction history generalizing m with
  | nil => exact ⟨rfl, rfl⟩
  | cons e rest ih =>
    obtain ⟨hevent, hrest⟩ := h
    obtain ⟨hanswers, hundergo⟩ := event_withPolicy hevent policy
    obtain ⟨houtcomes, hafter⟩ := ih hrest
    constructor
    · show (m.withPolicy policy).answers e ++ ((m.withPolicy policy).undergo e).outcomes rest = _
      rw [hanswers, hundergo, houtcomes]
      rfl
    · show ((m.withPolicy policy).undergo e).after rest = _
      rw [hundergo, hafter]
      rfl

/-- **The policies part at the first objection.**  A strict and a lenient machine that start alike
have the same snapshots and failures, and are the same but for the policy, after every history in
which the stack has objected to no step.  If it objects to the next step, the strict machine
faults and is as it was, and the lenient one warns and has the address of the next instruction moved
on by two. -/
theorem policies_part_at_objection (m : Machine) {history : List Event}
    (h : (m.withPolicy .strict).Permitted history) :
    let strict := (m.withPolicy .strict).after history
    let lenient := (m.withPolicy .ignore).after history
    (m.withPolicy .strict).outcomes history = (m.withPolicy .ignore).outcomes history ∧
      lenient = strict.withPolicy .ignore ∧
      ∀ c warning, strict.Objection c warning →
        (∃ journal, strict.step =
          (.error (.fault c), { strict with storage := ⟨strict.storage.memory, journal⟩ })) ∧
        ∃ s, lenient.step = (.ok s, { lenient with
          registers := { lenient.registers with pc := (lenient.registers.pc + 2) % 65536 }
          storage := ⟨lenient.storage.memory, []⟩
          cycles := lenient.cycles + 1
          log := lenient.log.push ⟨.warning, warning⟩ }) := by
  intro strict lenient
  obtain ⟨houtcomes, hlenient⟩ : (m.withPolicy .ignore).outcomes history = _ ∧
      lenient = strict.withPolicy .ignore := history_withPolicy h .ignore
  -- to give a strict machine the strict policy changes nothing, so its policy is still that one
  have hstrict : strict = strict.withPolicy .strict := (history_withPolicy h .strict).2
  refine ⟨houtcomes.symm, hlenient, fun c warning hc => ⟨?_, ?_⟩⟩
  · exact hc.step_strict (congrArg policy hstrict)
  · -- an objection is read off the registers and the memory, which are the same
    have hc' : lenient.Objection c warning := by
      rw [hlenient]
      cases hc with
      | full hnext hsp => exact .full hnext hsp
      | empty hnext hsp => exact .empty hnext hsp
    exact hc'.step_lenient (congrArg policy hlenient)

/-- A machine whose program calls itself again and again. -/
def recursing : Machine := holding [0x22, 0x00]

/-- Sixteen calls are met by no objection, and fill the stack. -/
lemma recursing_calls :
    let calls := List.replicate 16 .step
    (recursing.withPolicy .strict).Permitted calls ∧
      ((recursing.withPolicy .strict).after calls).registers.pc = 0x200 ∧
      stackDepth ≤ ((recursing.withPolicy .strict).after calls).registers.sp ∧
      ((recursing.withPolicy .strict).after calls).fetch.1 =
        .ok (⟨0x2200, by decide⟩, .call) := by
  decide +kernel

theorem policies_part_at_objection_recursing :
    let calls := List.replicate 16 .step
    (recursing.withPolicy .strict).Permitted calls ∧
      ((recursing.withPolicy .strict).after calls).step.1 =
        .error (.fault (.stackOverflow 0x200 16)) ∧
      ((recursing.withPolicy .ignore).after (calls ++ [.step])).registers.pc = 0x202 := by
  have hcalls := recursing_calls
  -- which calls these are need not be known any more
  obtain ⟨calls, heq⟩ : ∃ calls, calls = List.replicate 16 Event.step := ⟨_, rfl⟩
  rw [← heq] at hcalls ⊢
  obtain ⟨hpermitted, hpc, hsp, hnext⟩ := hcalls
  obtain ⟨-, hlenient, hpart⟩ := policies_part_at_objection recursing hpermitted
  obtain ⟨⟨journal, hstrict⟩, s, hignored⟩ := hpart _ _ (.full hnext hsp)
  refine ⟨hpermitted, ?_, ?_⟩
  · rw [hstrict, hpc]
    rfl
  · have hafter : ((recursing.withPolicy .ignore).after (calls ++ [.step])) =
        ((recursing.withPolicy .ignore).after calls).step.2 := List.foldl_append
    have hpc' : ((recursing.withPolicy .ignore).after calls).registers.pc = 0x200 := by
      rw [hlenient]
      exact hpc
    rw [hafter, hignored]
    simp only [hpc']
    rfl

end Machine

end Chip8
