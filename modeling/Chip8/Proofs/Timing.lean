import Chip8.Proofs.Cycle
import Chip8.Proofs.History
import Chip8.Proofs.Likeness

/-!
# What the clock can reach

The clock decides how long a cycle waits and how much time the timers get, and nothing else.  The
timers are beside the core of a machine, and of all instructions only `Fx07` takes one of them in.
So two paced machines whose cores are the same, and which are told the same from outside, go through
the same instructions cycle by cycle, however long their cycles last, up to the first `Fx07`.

A cycle is cut in two for this: executing an instruction and ending the frame, which is the same for
machines that are alike, and waiting, settling and telling, which leave the core as it is.
-/

namespace Chip8

/-! ### The instruction that reads the delay timer -/

namespace Word

/-- The word reads the delay timer. -/
def ReadsDelay (w : Word) : Prop := w.family = 0xF ∧ w.kk = 0x07

lemma registerOpcode_ne_ldVxDt (n : ℕ) : registerOpcode n ≠ .ldVxDt := by
  unfold registerOpcode
  split <;> nofun

lemma eq_of_extraOpcode?_ldVxDt {kk : ℕ} (h : extraOpcode? kk = some .ldVxDt) : kk = 0x07 := by
  unfold extraOpcode? at h
  split at h
  · rfl
  all_goals exact absurd h nofun

lemma readsDelay_of_opcode? {w : Word} (h : w.opcode? = some .ldVxDt) : w.ReadsDelay := by
  have hfamily := w.family_lt
  have hregister := registerOpcode_ne_ldVxDt w.n
  have hextra : extraOpcode? w.kk = some .ldVxDt → w.kk = 0x07 := eq_of_extraOpcode?_ldVxDt
  unfold opcode? at h
  unfold ReadsDelay
  grind

end Word

namespace Machine

/-! ### Steps -/

/-- What of a machine no clock has a part in: its core and its stack policy. -/
def timeless (m : Machine) : Core × StackPolicy := (m.core, m.policy)

lemma likeness_timeless : Likeness fun m m' => m.timeless = m'.timeless where
  core_eq h := congrArg Prod.fst h
  withCore c h := congrArg (fun p => (c, p.2)) h
  logLine _ _ h := h
  drawn h := h
  waited h := h
  assignDt _ h := h
  assignSt _ h := h

/-- The machines are told the same from outside if they execute their next instruction: which keys
are down, how a key wait ends and which random byte is drawn. -/
structure ToldAlike (m m' : Machine) : Prop where
  keys : m.keypad.down = m'.keypad.down
  wait : ∀ w, m.AboutTo w .ldVxK → m.keyWait.1 = m'.keyWait.1
  random : ∀ w, m.AboutTo w .rnd → m.random.draw.1 = m'.random.draw.1

variable {m m' : Machine}

/-- Every instruction but `Fx07` takes in the same. -/
lemma ToldAlike.intake_eq (h : m.ToldAlike m') (htimeless : m.timeless = m'.timeless) {w : Word}
    {op : Opcode} (hnext : m.AboutTo w op) (hdelay : ¬ w.ReadsDelay) :
    m.intake op = m'.intake op := by
  have hpolicy : m.policy = m'.policy := congrArg Prod.snd htimeless
  have hrefusal := likeness_timeless.refusal?_eq htimeless op
  cases op with
  | ret | call => simp only [intake, hrefusal, hpolicy]
  | skp | sknp => exact congrArg Intake.keys h.keys
  | ldVxK => exact congrArg Intake.key (h.wait w hnext)
  | rnd => exact congrArg Intake.random (h.random w hnext)
  | ldVxDt => exact absurd (Word.readsDelay_of_opcode? hnext.opcode?_eq) hdelay
  | _ => rfl

/-- A step and the end of its frame. -/
def shownStep (m : Machine) : Outcome Snapshot :=
  match m.step with
  | (.error e, m') => (.error e, m')
  | (.ok snapshot, m') => (.ok snapshot, { m' with screen := m'.screen.finishFrame })

lemma shownStep_alike (htimeless : m.timeless = m'.timeless) (htold : m.ToldAlike m')
    (hdelay : ∀ w op, m.AboutTo w op → ¬ w.ReadsDelay) :
    SameButTimers m.shownStep.1 m'.shownStep.1 ∧
      m.shownStep.2.timeless = m'.shownStep.2.timeless := by
  obtain ⟨hresult, hafter⟩ := likeness_timeless.step htimeless fun w op hnext =>
    htold.intake_eq htimeless hnext (hdelay w op hnext)
  unfold shownStep
  rcases hm : m.step with ⟨r, n⟩
  rcases hm' : m'.step with ⟨r', n'⟩
  rw [hm, hm'] at hresult hafter
  cases hresult with
  | failure e => exact ⟨.failure e, hafter⟩
  | snapshot h =>
    exact ⟨.snapshot h,
      likeness_timeless.mapCore hafter fun c => { c with screen := c.screen.finishFrame }⟩

end Machine

/-! ### Cycles -/

/-- A result that is no fault. -/
def NoFault {α : Type} (r : Except Halt α) : Prop := ∀ c, r ≠ .error (.failure (.fault c))

namespace NoFault

variable {α β : Type}

lemma ok (a : α) : NoFault (.ok a) := nofun

lemma unfinished : NoFault (.error .unfinished : Except Halt α) := nofun

lemma unfit (cause : Unfit) : NoFault (.error (.unfit cause) : Except Halt α) := nofun

/-- What is no fault as one result is none as another. -/
lemma error {e : Halt} (h : NoFault (.error e : Except Halt α)) :
    NoFault (.error e : Except Halt β) :=
  fun c hc => h c (congrArg Except.error (Except.error.inj hc))

lemma map {r : Except Halt α} (h : NoFault r) (f : α → β) : NoFault (r.map f) := by
  cases r with
  | error e => exact h.error
  | ok a => exact .ok _

end NoFault

/-- Surroundings in which nothing stands against executing an instruction, and which touch only
what is beside a program and do not end a cycle by a fault. -/
structure Surroundings.Aloof {ε : Type} (env : Surroundings ε) : Prop where
  obstacle : ∀ s, env.obstacle s = none
  sleep : ∀ seconds s, (env.sleep seconds s).2.1.machine.timeless = s.1.machine.timeless
  onCycle : ∀ snapshot s, (env.onCycle snapshot s).2.1.machine.timeless = s.1.machine.timeless
  sleep_noFault : ∀ seconds s, NoFault (env.sleep seconds s).1
  onCycle_noFault : ∀ snapshot s, NoFault (env.onCycle snapshot s).1

namespace Rig

lemma work_eq (rig : Rig) :
    rig.work = (rig.machine.shownStep.1, { rig with machine := rig.machine.shownStep.2 }) := by
  unfold work Machine.shownStep
  rcases rig.machine.step with ⟨_ | _, m'⟩
  · rfl
  · rfl

variable {ε : Type} {env : Surroundings ε}

lemma pass_noFault (hsleep : ∀ seconds s, NoFault (env.sleep seconds s).1) (target : Float)
    (now : ℤ) (s : Rig × ε) : NoFault (pass env target now s).1 := by
  unfold pass
  split
  · exact .ok ()
  · split
    · exact .unfit _
    · exact hsleep _ _

variable [Clock ε ℤ]

/-- What a cycle attempts is a shown step. -/
lemma shownStep_of_attempt (henv : env.Aloof) {s : Rig × ε} {r : Except Failure Snapshot}
    {rig : Rig} (ha : attempt env (begin s).2 = (r, rig)) :
    s.1.machine.shownStep = (r, rig.machine) := by
  simp only [attempt, henv.obstacle, work_eq, begin_machine] at ha
  obtain ⟨rfl, rfl⟩ := Prod.mk.inj ha
  rfl

lemma waitUntil_noFault (hsleep : ∀ seconds s, NoFault (env.sleep seconds s).1) (target : Float)
    (patience : ℕ) (s : Rig × ε) : NoFault (waitUntil env target patience s).1 := by
  induction patience generalizing s with
  | zero => exact .unfinished
  | succ patience ih =>
    obtain ⟨rig, world⟩ := s
    unfold waitUntil
    dsimp only
    split
    · have hpass := pass_noFault hsleep target (Clock.read world).1 (rig, (Clock.read world).2)
      rcases hp : pass env target (Clock.read world).1 (rig, (Clock.read world).2) with ⟨_ | _, s'⟩
      · rw [hp] at hpass
        exact hpass.error
      · exact ih s'
    · exact .ok _

lemma await_noFault (hsleep : ∀ seconds s, NoFault (env.sleep seconds s).1) (patience : ℕ)
    (start : ℤ) (s : Rig × ε) : NoFault (await env patience start s).1 := by
  unfold await
  split
  · exact .unfit _
  · exact waitUntil_noFault hsleep _ _ _

/-- Waiting leaves what no clock has a part in as it is. -/
lemma await_timeless (henv : env.Aloof) (patience : ℕ) (start : ℤ) (s : Rig × ε) :
    (await env patience start s).2.1.machine.timeless = s.1.machine.timeless :=
  await_keeps (fun s => s.1.machine.timeless) (fun _ _ => rfl) henv.sleep patience start s

/-- A cycle does what a shown step does, as far as a program can tell. -/
structure Shows (o : Outcome Snapshot) (r : Except Halt Snapshot × Rig × ε) : Prop where
  timeless : r.2.1.machine.timeless = o.2.timeless
  snapshot : ∀ a, r.1 = .ok a → o.1 = .ok a
  fault : ∀ c, r.1 = .error (.failure (.fault c)) ↔ o.1 = .error (.fault c)

omit [Clock ε ℤ] in
/-- Once an instruction is executed, a cycle can end in any way but by a fault. -/
lemma shows_of_executed {snapshot : Snapshot} {m : Machine} {r : Except Halt Snapshot × Rig × ε}
    (htimeless : r.2.1.machine.timeless = m.timeless) (hsnapshot : ∀ a, r.1 = .ok a → a = snapshot)
    (hnoFault : NoFault r.1) : Shows (.ok snapshot, m) r where
  timeless := htimeless
  snapshot a ha := congrArg Except.ok (hsnapshot a ha).symm
  fault c := ⟨fun h => absurd h (hnoFault c), nofun⟩

omit [Clock ε ℤ] in
lemma finishCycle_shows (henv : env.Aloof) {snapshot : Snapshot} {m : Machine} {s : Rig × ε}
    (h : s.1.machine.timeless = m.timeless) (start finish : ℤ) :
    Shows (.ok snapshot, m) (finishCycle env snapshot start finish s) := by
  obtain ⟨rig, world⟩ := s
  by_cases hcan : rig.machine.canTick (.whole (finish - start))
  · have htold := henv.onCycle snapshot (rig.settle start finish, world)
    have hnoFault := henv.onCycle_noFault snapshot (rig.settle start finish, world)
    have hfinish : finishCycle env snapshot start finish (rig, world) =
        ((env.onCycle snapshot (rig.settle start finish, world)).1.map fun _ => snapshot,
          (env.onCycle snapshot (rig.settle start finish, world)).2) := if_pos hcan
    rw [hfinish]
    refine shows_of_executed (htold.trans h) (fun a ha => ?_) (hnoFault.map _)
    generalize (env.onCycle snapshot (rig.settle start finish, world)).1 = told at ha
    cases told with
    | error e => exact absurd ha nofun
    | ok _ => exact (Except.ok.inj ha).symm
  · have hfinish : finishCycle env snapshot start finish (rig, world) =
        (.error (.unfit .beyondDouble), rig, world) := if_neg hcan
    rw [hfinish]
    exact shows_of_executed h (fun a ha => absurd ha nofun) (.unfit _)

/-- What a program can tell of a cycle is a step and the end of its frame. -/
lemma cycle_shows (henv : env.Aloof) (patience : ℕ) (s : Rig × ε) :
    Shows s.1.machine.shownStep (cycle env patience s) := by
  have hc := cycle_ending env patience s
  generalize cycle env patience s = r at hc ⊢
  cases hc with
  | failed ha =>
    rw [shownStep_of_attempt henv ha]
    exact ⟨rfl, fun a ha => absurd ha nofun, fun c => by simp⟩
  | @stranded snapshot rig halt s' ha hw =>
    -- the instruction was executed, and waiting has not undone it
    have hkept := await_timeless henv patience (begin s).1 (rig, (begin s).2.2)
    have hnoFault := await_noFault henv.sleep_noFault patience (begin s).1 (rig, (begin s).2.2)
    rw [hw] at hkept hnoFault
    rw [shownStep_of_attempt henv ha]
    exact shows_of_executed hkept (fun a ha => absurd ha nofun) hnoFault.error
  | @reached snapshot rig finish s' ha hw =>
    have hkept := await_timeless henv patience (begin s).1 (rig, (begin s).2.2)
    rw [hw] at hkept
    rw [shownStep_of_attempt henv ha]
    exact finishCycle_shows henv hkept _ _

/-- Cycles that follow one another.  Between two of them anything may be done to the keypad, the
pace and the timers. -/
structure Execution (env : Surroundings ε) (patience n : ℕ) (s : ℕ → Rig × ε) : Prop where
  finished : ∀ j < n, ∃ snapshot, (cycle env patience (s j)).1 = .ok snapshot
  follows : ∀ j < n,
    (s (j + 1)).1.machine.timeless = (cycle env patience (s j)).2.1.machine.timeless

lemma exists_of_isSome {r : Except Halt Snapshot} (h : r.toOption.isSome) :
    ∃ snapshot, r = .ok snapshot := by
  cases r with
  | error e => exact absurd h nofun
  | ok snapshot => exact ⟨snapshot, rfl⟩

/-- Cycles between which nothing is done. -/
def cyclesFrom (env : Surroundings ε) (patience : ℕ) (s : Rig × ε) : ℕ → Rig × ε
  | 0 => s
  | j + 1 => (cycle env patience (cyclesFrom env patience s j)).2

lemma execution_cyclesFrom {patience n : ℕ} {s : Rig × ε}
    (h : ∀ j < n, ∃ snapshot, (cycle env patience (cyclesFrom env patience s j)).1 = .ok snapshot) :
    Execution env patience n (cyclesFrom env patience s) := ⟨h, fun _ _ => rfl⟩

/-! ### Two executions -/

/-- Two cycles that a program cannot tell apart: it finds and leaves the same, the snapshots differ
in the timers only, and the cycles meet the same fault if they meet one. -/
structure Indistinct {ε ε' : Type} (s : Rig × ε) (s' : Rig × ε')
    (r : Except Halt Snapshot × Rig × ε) (r' : Except Halt Snapshot × Rig × ε') : Prop where
  before : s.1.machine.timeless = s'.1.machine.timeless
  after : r.2.1.machine.timeless = r'.2.1.machine.timeless
  snapshot : ∀ a a', r.1 = .ok a → r'.1 = .ok a' → a.untimed = a'.untimed
  fault : ∀ c, r.1 = .error (.failure (.fault c)) ↔ r'.1 = .error (.failure (.fault c))

variable {ε' : Type} [Clock ε' ℤ] {env' : Surroundings ε'}

/-- Unless the delay timer is read, cycles that start alike and are told the same cannot be told
apart. -/
lemma indistinct_cycle (henv : env.Aloof) (henv' : env'.Aloof) (patience patience' : ℕ)
    {s : Rig × ε} {s' : Rig × ε'} (htimeless : s.1.machine.timeless = s'.1.machine.timeless)
    (htold : s.1.machine.ToldAlike s'.1.machine)
    (hdelay : ∀ w op, s.1.machine.AboutTo w op → ¬ w.ReadsDelay) :
    Indistinct s s' (cycle env patience s) (cycle env' patience' s') := by
  obtain ⟨hresult, hafter⟩ := Machine.shownStep_alike htimeless htold hdelay
  have hc := cycle_shows henv patience s
  have hc' := cycle_shows henv' patience' s'
  refine ⟨htimeless, ?_, fun a a' ha ha' => ?_, fun c => ?_⟩
  · rw [hc.timeless, hafter, hc'.timeless]
  · rw [hc.snapshot a ha, hc'.snapshot a' ha'] at hresult
    cases hresult with
    | snapshot h => exact h
  · rw [hc.fault, hc'.fault]
    generalize s.1.machine.shownStep.1 = r at hresult
    generalize s'.1.machine.shownStep.1 = r' at hresult
    cases hresult with
    | failure e => exact Iff.rfl
    | snapshot h => exact ⟨nofun, nofun⟩

/-- **The clock reaches a program through `Fx07` only.**  Take two paced machines that start alike
but for their timers, each with a clock, a pace and timer intervals of its own, and let them be told
the same from outside in every cycle: which keys are down, how key waits end and which random bytes
are drawn.  As long as neither is about to execute `Fx07`, they have the same registers, stack,
memory and screen before and after every cycle, their snapshots differ in the values of the timers
only, and if one of them faults, so does the other in the same cycle. -/
theorem executions_indistinct (henv : env.Aloof) (henv' : env'.Aloof) {patience patience' n : ℕ}
    {s : ℕ → Rig × ε} {s' : ℕ → Rig × ε'} (h : Execution env patience n s)
    (h' : Execution env' patience' n s')
    (hstart : (s 0).1.machine.timeless = (s' 0).1.machine.timeless)
    (htold : ∀ j ≤ n, (s j).1.machine.ToldAlike (s' j).1.machine)
    (hdelay : ∀ j ≤ n, ∀ w op, (s j).1.machine.AboutTo w op → ¬ w.ReadsDelay) :
    ∀ j ≤ n, Indistinct (s j) (s' j) (cycle env patience (s j)) (cycle env' patience' (s' j)) := by
  -- a cycle starts as the one before it has ended, and there the two were the same
  intro j hj
  induction j with
  | zero => exact indistinct_cycle henv henv' _ _ hstart (htold 0 hj) (hdelay 0 hj)
  | succ j ih =>
    have hcycle := ih (Nat.le_of_succ_le hj)
    have hnext : (s (j + 1)).1.machine.timeless = (s' (j + 1)).1.machine.timeless := by
      rw [h.follows j hj, hcycle.after, h'.follows j hj]
    exact indistinct_cycle henv henv' _ _ hnext (htold _ hj) (hdelay _ hj)

end Rig

lemma Surroundings.still_aloof (ε : Type) : (still ε).Aloof :=
  ⟨fun _ => rfl, fun _ _ => rfl, fun _ _ => rfl, fun _ _ => nofun, fun _ _ => nofun⟩

/-- A machine that starts its delay timer and then counts, with timers of the given interval. -/
def Machine.delaying (interval : Quantity) : Machine :=
  .holding [0x60, 0x05, 0xF0, 0x15, 0x71, 0x03, 0x00, 0x00] interval

namespace Rig

theorem executions_indistinct_delaying :
    let s := cyclesFrom (.still (SteadyClock ℤ)) 8 (⟨.delaying (.whole 1), .brisk⟩, ⟨0, 1⟩)
    let s' := cyclesFrom (.still (SteadyClock ℤ)) 8
      (⟨.delaying (.whole 100), { Pace.brisk with target := 20 }⟩, ⟨7, 30⟩)
    (s 3).1.machine.registers.v = (s' 3).1.machine.registers.v ∧
      (s 3).1.machine.registers.dt.value = 3 ∧ (s' 3).1.machine.registers.dt.value = 5 := by
  intro s s'
  -- the words are the program of the first machine: none of them reads the delay timer
  obtain ⟨hfinished, hkeys, hwords, hvalues⟩ :
      (∀ j < 2, (cycle (.still _) 8 (s j)).1.toOption.isSome ∧
        (cycle (.still _) 8 (s' j)).1.toOption.isSome) ∧
      (∀ j < 3, (s j).1.machine.keypad.down = (s' j).1.machine.keypad.down) ∧
      (∀ j < 3, ((s j).1.machine.fetch.1.toOption.map fun p => (p.1.value, p.2)) ∈
        [some (0x6005, .ldImm), some (0xF015, .ldDtVx), some (0x7103, .addImm)]) ∧
      (s 3).1.machine.registers.dt.value = 3 ∧ (s' 3).1.machine.registers.dt.value = 5 := by
    decide +kernel
  have hnext : ∀ j ≤ 2, ∀ w op, (s j).1.machine.AboutTo w op →
      (w.value, op) ∈ [(0x6005, .ldImm), (0xF015, .ldDtVx), (0x7103, .addImm)] := by
    intro j hj w op h
    have hword := hwords j (by omega)
    rw [h] at hword
    simpa [Except.toOption] using hword
  have htold : ∀ j ≤ 2, (s j).1.machine.ToldAlike (s' j).1.machine := by
    intro j hj
    refine ⟨hkeys j (by omega), fun w h => ?_, fun w h => ?_⟩
    · simpa using hnext j hj w _ h
    · simpa using hnext j hj w _ h
  have hdelay : ∀ j ≤ 2, ∀ w op, (s j).1.machine.AboutTo w op → ¬ w.ReadsDelay := by
    rintro j hj w op h ⟨hfamily, hkk⟩
    have hword := hnext j hj w op h
    unfold Word.family at hfamily
    unfold Word.kk at hkk
    simp only [List.mem_cons, Prod.mk.injEq, List.not_mem_nil, or_false] at hword
    omega
  have hexecution : Execution (.still _) 8 2 s :=
    execution_cyclesFrom fun j hj => exists_of_isSome (hfinished j hj).1
  have hexecution' : Execution (.still _) 8 2 s' :=
    execution_cyclesFrom fun j hj => exists_of_isSome (hfinished j hj).2
  have hlast := executions_indistinct (Surroundings.still_aloof _) (Surroundings.still_aloof _)
    hexecution hexecution' rfl htold hdelay 2 (Nat.le_refl 2)
  have hthird : s 3 = (cycle (.still _) 8 (s 2)).2 := rfl
  have hthird' : s' 3 = (cycle (.still _) 8 (s' 2)).2 := rfl
  have hv : (s 3).1.machine.registers.v = (s' 3).1.machine.registers.v := by
    rw [hthird, hthird']
    exact Machine.likeness_timeless.v_eq hlast.after
  exact ⟨hv, hvalues⟩

end Rig

end Chip8
