import Chip8.Proofs.Atomicity
import Chip8.Proofs.Invariant
import Mathlib.Data.List.Infix

/-!
# Calls and their returns

The places of the stack below the stack pointer are a stack in the plain sense: an executed call
puts one address on top, unless sixteen are there, an executed return takes the top away and goes
there, and nothing else but a reset touches it.  `Machine.stackAlong` follows such a stack beside a
machine.

While the stack pointer stays above the number of addresses that were there before a call, all of
them and the one that the call has put on top stay where they are.  So the return that takes this
one away goes behind the call.  This is the main result, `returns_behind_call`.
-/

namespace Chip8

/-- What an executed instruction makes of a stack of return addresses. -/
def Snapshot.stackAfter (s : Snapshot) (stack : List ℤ) : List ℤ :=
  match s.operation.opcode with
  | some .call => if stack.length < stackDepth then stack ++ [Registers.after s.address] else stack
  | some .ret => stack.dropLast
  | _ => stack

/-- The addresses below the top stay if no more are left afterwards than they are. -/
lemma Snapshot.prefix_stackAfter {base stack : List ℤ} (s : Snapshot) (h : base <+: stack)
    (hlen : base.length ≤ (s.stackAfter stack).length) : base <+: s.stackAfter stack := by
  unfold stackAfter at hlen ⊢
  split at hlen
  · split
    · exact h.trans (List.prefix_append _ _)
    · exact h
  · exact List.prefix_of_prefix_length_le h (List.dropLast_prefix stack) hlen
  · exact h

/-! ### The stack in the registers -/

namespace Registers.WellFormed

variable {r : Registers}

lemma returnAddresses_eq (h : r.WellFormed) : r.returnAddresses = r.stack.take r.sp.toNat :=
  if_neg (by have := h.sp_nonneg; omega)

lemma length_returnAddresses (h : r.WellFormed) : (r.returnAddresses.length : ℤ) = r.sp := by
  have h0 := h.sp_nonneg
  have h16 := h.sp_le
  have hlen := h.stack_length
  rw [h.returnAddresses_eq, List.length_take]
  omega

lemma returnAddresses_push (h : r.WellFormed) {stack : List ℤ} {a : ℤ} (hroom : r.sp < stackDepth)
    (hs : setEitherEnd? r.stack r.sp a = some stack) :
    returnAddresses { r with stack, sp := r.sp + 1 } = r.returnAddresses ++ [a] := by
  obtain ⟨k, hk, hlt, hset⟩ := h.exists_push hroom a
  obtain rfl := Option.some.inj (hs.symm.trans hset)
  rw [h.returnAddresses_eq, returnAddresses, if_neg (by simp only; omega)]
  simp only [hk, Int.toNat_natCast_add_one, Int.toNat_natCast]
  rw [List.take_add_one, List.take_set_of_le (Nat.le_refl k)]
  simp [hlt]

lemma returnAddresses_pop (h : r.WellFormed) {a : ℤ} (hsp : r.sp ≠ 0)
    (ht : eitherEnd? r.stack (r.sp - 1) = some a) :
    r.returnAddresses = returnAddresses { r with sp := r.sp - 1 } ++ [a] := by
  obtain ⟨k, hk⟩ := Int.eq_ofNat_of_zero_le (show 0 ≤ r.sp - 1 by have := h.sp_nonneg; omega)
  have hlt : k < r.stack.length := by
    have h16 := h.sp_le
    have hlen := h.stack_length
    omega
  rw [eitherEnd?, hk, place?_natCast hlt] at ht
  have htop : r.stack[k]? = some a := ht
  have hdepth : r.sp.toNat = k + 1 := by omega
  have hbelow : (r.sp - 1).toNat = k := by omega
  rw [h.returnAddresses_eq, returnAddresses, if_neg (by simp only; omega)]
  dsimp only
  rw [hdepth, hbelow, List.take_add_one, htop]
  rfl

end Registers.WellFormed

/-! ### Instructions -/

namespace Machine

/-- The return addresses on the stack. -/
def stack (m : Machine) : List ℤ := m.registers.returnAddresses

variable {m m' : Machine} {w : Word} {op : Opcode} {o : Outcome Flow}

/-- As many return addresses are on the stack as the stack pointer says. -/
lemma length_stack (hm : m.registers.WellFormed) : (m.stack.length : ℤ) = m.registers.sp :=
  hm.length_returnAddresses

/-- Only calls and returns touch the stack. -/
lemma Effect.stack_eq (he : Effect m w op o) (hm : m.registers.WellFormed) (hcall : op ≠ .call)
    (hret : op ≠ .ret) : o.2.stack = m.stack := by
  cases he with
  | returned => exact absurd rfl hret
  | called => exact absurd rfl hcall
  | misused _ hm' => exact absurd hm hm'
  | _ => rfl

lemma Effect.stack_call (he : Effect m w .call o) (hm : m.registers.WellFormed) {flow : Flow}
    (ho : o.1 = .ok flow) :
    o.2.stack = if m.stack.length < stackDepth then m.stack ++ [Registers.after m.registers.pc]
      else m.stack := by
  have hlen := length_stack hm
  cases he with
  | called hroom hs =>
    rw [if_pos (by omega)]
    exact hm.returnAddresses_push hroom hs
  | ignored hr =>
    have hfull : (stackDepth : ℤ) ≤ m.registers.sp := by
      by_contra hroom
      exact absurd ((if_neg hroom).symm.trans hr) nofun
    rw [if_neg (by omega)]
    rfl
  | refused => exact absurd ho nofun
  | jump hop | skip hop | noSkip hop | load hop | compute hop | setI hop | uncovered hop
    | store hop => exact absurd hop (by decide)
  | misused _ hm' => exact absurd hm hm'

lemma Effect.stack_ret (he : Effect m w .ret o) (hm : m.registers.WellFormed) {flow : Flow}
    (ho : o.1 = .ok flow) :
    o.2.stack = m.stack.dropLast ∧
      (m.stack ≠ [] → flow = .jumped ∧ m.stack = o.2.stack ++ [o.2.registers.pc]) := by
  have hlen := length_stack hm
  cases he with
  | @returned target hsp ht =>
    have hpop := hm.returnAddresses_pop hsp ht
    refine ⟨?_, fun _ => ⟨(Except.ok.inj ho).symm, hpop⟩⟩
    rw [stack, stack, hpop, List.dropLast_concat]
    rfl
  | ignored hr =>
    have hempty : m.registers.sp = 0 := by
      by_contra hsp
      exact absurd ((if_neg hsp).symm.trans hr) nofun
    have hnil : m.stack = [] := List.eq_nil_of_length_eq_zero (by omega)
    refine ⟨?_, fun h => absurd hnil h⟩
    rw [hnil]
    exact hnil
  | refused => exact absurd ho nofun
  | jump hop | skip hop | noSkip hop | load hop | compute hop | setI hop | uncovered hop
    | store hop => exact absurd hop (by decide)
  | misused _ hm' => exact absurd hm hm'

/-! ### Steps -/

lemma conclude_stack (m : Machine) (address : ℤ) (w : Word) (op : Opcode) (flow : Flow) :
    (m.conclude address w op flow).2.stack = m.stack := by
  cases flow <;> rfl

variable {size : ℕ} {s : Snapshot}

/-- A step that succeeds does to the stack what its snapshot says. -/
lemma step_stack (hm : m.WellFormed size) (h : m.step = (.ok s, m')) :
    m'.stack = s.stackAfter m.stack := by
  obtain ⟨w, op, storage, flow, m₁, hf, he, rfl, rfl⟩ := step_ok h
  have heffect := execute_effect { m with storage } w op
  rw [he] at heffect
  rw [conclude_stack]
  have hop : (m₁.conclude m.registers.pc w op flow).1.operation.opcode = some op := by
    cases flow <;> rfl
  have haddress : (m₁.conclude m.registers.pc w op flow).1.address = m.registers.pc := by
    cases flow <;> rfl
  unfold Snapshot.stackAfter
  rw [hop, haddress]
  cases op with
  | call => exact heffect.stack_call hm.registers rfl
  | ret => exact (heffect.stack_ret hm.registers rfl).1
  | _ => exact heffect.stack_eq hm.registers nofun nofun

/-- A call that is executed with room on the stack puts the address behind it on top. -/
lemma step_call (hm : m.WellFormed size) (h : m.step = (.ok s, m'))
    (hop : s.operation.opcode = some .call) (hroom : m.registers.sp < stackDepth) :
    m'.stack = m.stack ++ [Registers.after m.registers.pc] := by
  have hstack := step_stack hm h
  obtain ⟨w, op, storage, flow, m₁, -, -, rfl, rfl⟩ := step_ok h
  have haddress : (m₁.conclude m.registers.pc w op flow).1.address = m.registers.pc := by
    cases flow <;> rfl
  have hlen := length_stack hm.registers
  rw [hstack, Snapshot.stackAfter, hop, haddress]
  exact if_pos (by omega)

/-- A return that is executed while the stack is not empty goes to the top of it. -/
lemma step_ret (hm : m.WellFormed size) (h : m.step = (.ok s, m'))
    (hop : s.operation.opcode = some .ret) (hne : m.stack ≠ []) :
    m.stack = m'.stack ++ [m'.registers.pc] := by
  obtain ⟨w, op, storage, flow, m₁, hf, he, rfl, rfl⟩ := step_ok h
  obtain rfl : op = .ret := by cases flow <;> exact Option.some.inj hop
  have heffect := execute_effect { m with storage } w .ret
  rw [he] at heffect
  obtain ⟨rfl, htop⟩ := (heffect.stack_ret hm.registers rfl).2 hne
  exact htop

/-- A step that fails leaves the stack as it is. -/
lemma step_stack_of_error (hm : m.WellFormed size) {e : Failure} (h : m.step = (.error e, m')) :
    m'.stack = m.stack := by
  have hfaults := hm.step.faultsOnly
  rw [h] at hfaults
  obtain ⟨c, rfl⟩ := hfaults e rfl
  exact congrArg Registers.returnAddresses (step_unharmed h).registers

/-! ### Histories -/

/-- What an event makes of a stack of return addresses beside the machine that it happens to. -/
def stackAfter (m : Machine) (stack : List ℤ) : Event → List ℤ
  | .step =>
    match m.step.1 with
    | .ok s => s.stackAfter stack
    | .error _ => stack
  | .resetProcessor | .reset => []
  | .passDelay _ | .passSound _ | .load _ _ | .keypad _ => stack

/-- What a history makes of a stack of return addresses beside the machine that it happens to. -/
def stackAlong (m : Machine) (stack : List ℤ) : List Event → List ℤ
  | [] => stack
  | e :: rest => (m.undergo e).stackAlong (m.stackAfter stack e) rest

lemma undergo_stack (hm : m.WellFormed size) (e : Event) :
    (m.undergo e).stack = m.stackAfter m.stack e := by
  cases e with
  | step =>
    unfold undergo stackAfter
    dsimp only
    rcases hs : m.step with ⟨_ | s, m'⟩
    · exact step_stack_of_error hm hs
    · exact step_stack hm hs
  | load address program =>
    unfold undergo stackAfter
    dsimp only
    split
    · rename_i hl
      obtain ⟨-, -, rfl⟩ := loadBytes_ok hl
      rfl
    · rfl
  | passDelay | passSound | resetProcessor | reset | keypad => rfl

/-- The stack goes along with every history. -/
lemma after_stack (hm : m.WellFormed size) {history : List Event}
    (hh : ∀ e ∈ history, e.Allowed) : (m.after history).stack = m.stackAlong m.stack history := by
  induction history generalizing m with
  | nil => rfl
  | cons e rest ih =>
    have hrest := ih (hm.undergo (hh e List.mem_cons_self)) fun e' he' =>
      hh e' (List.mem_cons_of_mem e he')
    rw [undergo_stack hm e] at hrest
    exact hrest

/-- The addresses below the top stay in an event after which no fewer are there. -/
lemma prefix_undergo_stack (hm : m.WellFormed size) {base : List ℤ} (h : base <+: m.stack)
    {e : Event} (hlen : base.length ≤ (m.undergo e).stack.length) :
    base <+: (m.undergo e).stack := by
  rw [undergo_stack hm e] at hlen ⊢
  cases e with
  | step =>
    unfold stackAfter at hlen ⊢
    dsimp only at hlen ⊢
    rcases hs : m.step.1 with _ | s
    · exact h
    · rw [hs] at hlen
      exact s.prefix_stackAfter h hlen
  | resetProcessor | reset =>
    obtain rfl := List.eq_nil_of_length_eq_zero (Nat.le_zero.1 hlen)
    exact List.nil_prefix
  | passDelay | passSound | load | keypad => exact h

/-- The addresses below the top stay throughout a history in which never fewer are there. -/
lemma prefix_after_stack (hm : m.WellFormed size) {base : List ℤ} (h : base <+: m.stack)
    {history : List Event} (hh : ∀ e ∈ history, e.Allowed)
    (hlen : ∀ earlier, earlier <+: history → base.length ≤ (m.after earlier).stack.length) :
    base <+: (m.after history).stack := by
  induction history generalizing m with
  | nil => exact h
  | cons e rest ih =>
    have he := hlen [e] (List.cons_prefix_cons.2 ⟨rfl, List.nil_prefix⟩)
    exact ih (hm.undergo (hh e List.mem_cons_self)) (prefix_undergo_stack hm h he)
      (fun e' he' => hh e' (List.mem_cons_of_mem e he'))
      fun earlier hearlier => hlen (e :: earlier) (List.cons_prefix_cons.2 ⟨rfl, hearlier⟩)

/-! ### Subroutines -/

/-- A call is executed, something happens while the stack pointer stays above where it was, and at
last a return is executed with the stack pointer one above where it was. -/
structure Subroutine (m : Machine) (meanwhile : List Event) (m' : Machine) : Prop where
  called : ∃ s, m.step.1 = .ok s ∧ s.operation.opcode = some .call
  room : m.registers.sp < stackDepth
  inside : ∀ earlier, earlier <+: meanwhile →
    m.registers.sp < (m.step.2.after earlier).registers.sp
  back : (m.step.2.after meanwhile).registers.sp = m.registers.sp + 1
  returned : ∃ s, (m.step.2.after meanwhile).step = (.ok s, m') ∧ s.operation.opcode = some .ret

namespace Subroutine

variable {meanwhile : List Event} (h : Subroutine m meanwhile m') (hm : m.WellFormed size)
  (hh : ∀ e ∈ meanwhile, e.Allowed)
include h hm

/-- The call puts the address behind it on the stack. -/
lemma stack_called : m.step.2.stack = m.stack ++ [Registers.after m.registers.pc] := by
  obtain ⟨s, hs, hop⟩ := h.called
  exact step_call hm (Prod.ext hs rfl) hop h.room

include hh

/-- What is on the stack after the call is all that the return finds there. -/
lemma stack_back :
    (m.step.2.after meanwhile).stack = m.stack ++ [Registers.after m.registers.pc] := by
  have hstep := hm.step.wellFormed
  have hinside : ∀ earlier, earlier <+: meanwhile → (m.step.2.after earlier).registers.WellFormed :=
    fun earlier he => (hstep.after fun e hmem => hh e (he.mem hmem)).registers
  have hlen := length_stack hm.registers
  have hlenBack := length_stack (hinside meanwhile List.prefix_rfl)
  have hcalled : m.step.2.stack.length = m.stack.length + 1 := by
    rw [h.stack_called hm, List.length_append, List.length_singleton]
  have hbase : m.step.2.stack <+: (m.step.2.after meanwhile).stack := by
    refine prefix_after_stack hstep List.prefix_rfl hh fun earlier he => ?_
    have hlenInside := length_stack (hinside earlier he)
    have habove := h.inside earlier he
    omega
  -- of two stacks of one height, the one that begins the other is the other
  have hback := h.back
  rw [← h.stack_called hm]
  refine (hbase.eq_of_length ?_).symm
  omega

/-- The return goes behind the call, and the stack is as it was. -/
lemma stack_returned :
    m'.WellFormed size ∧ m'.stack = m.stack ∧
      m'.registers.pc = Registers.after m.registers.pc := by
  obtain ⟨s, hs, hop⟩ := h.returned
  have hback := h.stack_back hm hh
  have hwf := hm.step.wellFormed.after hh
  have hne : (m.step.2.after meanwhile).stack ≠ [] := by simp [hback]
  have htop := step_ret hwf hs hop hne
  rw [hback] at htop
  obtain ⟨hstack, hpc⟩ := List.append_inj' htop rfl
  have hkeeps := hwf.step.wellFormed
  rw [hs] at hkeeps
  exact ⟨hkeeps, hstack.symm, (List.cons.inj hpc).1.symm⟩

end Subroutine

/-- **A return goes behind its call.**  Let a machine be reached.  After whatever happens to it, the
return addresses are those of a plain stack on which an executed call puts the address behind it,
unless sixteen are there, from which an executed return takes the top, and which nothing else
touches, a reset apart; the stack pointer is their number.  And if a call is executed with room on
the stack, then the return that finds the stack pointer one above where it was, it having stayed
above that place meanwhile, goes to the address behind the call and leaves the stack pointer and
all places below it as they were before the call. -/
theorem returns_behind_call (hm : m.Reachable) :
    (∀ history : List Event, (∀ e ∈ history, e.Allowed) →
      (m.after history).stack = m.stackAlong m.stack history ∧
        ((m.after history).stack.length : ℤ) = (m.after history).registers.sp ∧
        (m.after history).stack.length ≤ stackDepth) ∧
    ∀ {meanwhile : List Event} {m' : Machine}, (∀ e ∈ meanwhile, e.Allowed) →
      Subroutine m meanwhile m' →
        m'.registers.pc = (m.registers.pc + 2) % 65536 ∧
          m'.registers.sp = m.registers.sp ∧
          m'.registers.stack.take m.registers.sp.toNat =
            m.registers.stack.take m.registers.sp.toNat := by
  have hwf := hm.wellFormed
  refine ⟨fun history hh => ?_, @fun meanwhile m' hh hsub => ?_⟩
  · have hregisters := (hwf.after hh).registers
    have hlen := length_stack hregisters
    have h16 := hregisters.sp_le
    exact ⟨after_stack hwf hh, hlen, by omega⟩
  · obtain ⟨hreturned, hstack, hpc⟩ := hsub.stack_returned hwf hh
    have hsp : m'.registers.sp = m.registers.sp := by
      rw [← length_stack hreturned.registers, hstack, length_stack hwf.registers]
    refine ⟨hpc, hsp, ?_⟩
    rw [stack, stack, hreturned.registers.returnAddresses_eq, hwf.registers.returnAddresses_eq,
      hsp] at hstack
    exact hstack

/-- A machine whose program calls a subroutine that calls another one. -/
def nesting : Machine := holding [0x22, 0x04, 0x00, 0x00, 0x22, 0x08, 0x00, 0xEE, 0x00, 0xEE]

lemma exists_ok_of_opcode {r : Except Failure Snapshot} {op : Opcode}
    (h : r.toOption.bind (·.operation.opcode) = some op) :
    ∃ s, r = .ok s ∧ s.operation.opcode = some op := by
  cases r with
  | error e => exact absurd h nofun
  | ok s => exact ⟨s, rfl, h⟩

theorem returns_behind_call_nesting :
    nesting.Reachable ∧ (nesting.after [.step, .step]).stack = [0x202, 0x206] ∧
      nesting.stackAlong [] [.step, .step] = [0x202, 0x206] ∧
      ∃ m', Subroutine nesting [.step, .passDelay (.whole 1), .step] m' ∧
        m'.registers.pc = 0x202 ∧ m'.registers.sp = 0 := by
  have hnone : ∀ e ∈ ([] : List Event), e.Allowed := nofun
  have hm : nesting.Reachable := holding_reachable _ _ hnone
  obtain ⟨hcall, hinside, hback, hret, htwo⟩ :
      nesting.step.1.toOption.bind (·.operation.opcode) = some .call ∧
      (∀ earlier ∈ [.step, .passDelay (.whole 1), .step].inits,
        nesting.registers.sp < (nesting.step.2.after earlier).registers.sp) ∧
      (nesting.step.2.after [.step, .passDelay (.whole 1), .step]).registers.sp =
        nesting.registers.sp + 1 ∧
      (nesting.step.2.after [.step, .passDelay (.whole 1), .step]).step.1.toOption.bind
        (·.operation.opcode) = some .ret ∧
      (nesting.after [.step, .step]).stack = [0x202, 0x206] := by
    decide +kernel
  obtain ⟨s, hs, hret⟩ := exists_ok_of_opcode hret
  have hsub : Subroutine nesting [.step, .passDelay (.whole 1), .step]
      (nesting.step.2.after [.step, .passDelay (.whole 1), .step]).step.2 :=
    { called := exists_ok_of_opcode hcall
      room := by decide
      inside := fun earlier he => hinside earlier ((List.mem_inits _ _).2 he)
      back := hback
      returned := ⟨s, by rw [← hs], hret⟩ }
  obtain ⟨hstack, hreturn⟩ := returns_behind_call hm
  obtain ⟨hpc, hsp, -⟩ := hreturn (by simp [Event.Allowed]) hsub
  exact ⟨hm, htwo, (hstack [.step, .step] (by simp [Event.Allowed])).1.symm.trans htwo, _, hsub,
    hpc, hsp⟩

end Machine

end Chip8
