import Chip8.Proofs.Atomicity
import Chip8.Proofs.FirstHit
import Chip8.Proofs.Footprint
import Chip8.Proofs.Seen
import Chip8.Proofs.Timing
import Mathlib.Data.List.Chain
import Mathlib.Data.List.DropRight

/-!
# The tail of a trace

A debugger keeps the last of the cycles that it is told of.  What it could know is written into a
ledger of marks: a cycle that was completed, a reset, and a gap where the machine was moved by
something else or a cycle was cut off by its surroundings.  A cycle that faults leaves no mark,
since a fault changes nothing.

Two invariants are carried along the ledger, by one cycle (`Stepped`), by the rounds of a run and by
every call.  `Records` says what the debugger keeps of it, and `Chained` that each cycle starts
where the one before it has ended.  That a debugger with another limit sees the same is a case of a
world seen through a map: the map takes limit and history away.

The main result is `Debugger.history_is_tail`.
-/

namespace Chip8

/-- Where a machine is, and how many instructions it has executed. -/
def Machine.place (m : Machine) : ℤ × ℕ := (m.registers.pc, m.cycles)

/-- The second cycle starts where the first has ended, and is the next one. -/
def Snapshot.Precedes (a b : Snapshot) : Prop := b.address = a.registers.pc ∧ b.cycle = a.cycle + 1

namespace Debugger

variable {ε : Type}

/-- What a debugger keeps of the cycles. -/
def memory (d : Debugger) : ℕ × List Snapshot × Option Snapshot := (d.limit, d.history, d.last)

/-- Where the machine is, and what its debugger keeps. -/
def tracked (s : Rig × Debugger × ε) : (ℤ × ℕ) × ℕ × List Snapshot × Option Snapshot :=
  (s.1.machine.place, s.2.1.memory)

/-- The debugger without what it keeps of more than one cycle. -/
def slim (p : Debugger × ε) : Debugger × ε := ({ p.1 with limit := 0, history := [] }, p.2)

end Debugger

/-- Surroundings that do not move the machine, do not touch what its debugger keeps and take no
notice of its limit and its history; telling a cycle does not fail, and sleep is never ended by a
fault. -/
structure Surroundings.Discreet {ε : Type} [Clock ε ℤ] (env : Surroundings (Debugger × ε)) :
    Prop where
  sleep : ∀ seconds s, Debugger.tracked (env.sleep seconds s).2 = Debugger.tracked s
  onCycle : ∀ snapshot s, Debugger.tracked (env.onCycle snapshot s).2 = Debugger.tracked s
  heard : ∀ snapshot s, (env.onCycle snapshot s).1 = .ok ()
  sleep_noFault : ∀ seconds s, NoFault (env.sleep seconds s).1
  unnoticed : env.SeenAs env Debugger.slim

lemma Surroundings.still_discreet (ε : Type) [Clock ε ℤ] : (still (Debugger × ε)).Discreet where
  sleep _ _ := rfl
  onCycle _ _ := rfl
  heard _ _ := rfl
  sleep_noFault _ _ := .ok ()
  unnoticed := ⟨fun _ => rfl, fun _ => rfl, fun _ _ => rfl, fun _ _ => rfl⟩

/-! ### One instruction -/

/-- A snapshot tells where the step started and where it ended. -/
lemma Machine.step_place {m m' : Machine} {s : Snapshot} (h : m.step = (.ok s, m')) :
    (s.address, s.cycle) = (m.place.1, m.place.2 + 1) ∧ m'.place = (s.registers.pc, s.cycle) := by
  obtain ⟨w, op, storage, flow, m₁, -, he, rfl, rfl⟩ := step_ok h
  have heffect := execute_effect { m with storage } w op
  rw [he] at heffect
  obtain ⟨-, -, -, -, -, hcycles⟩ := heffect.settled
  have hcycle : (m₁.conclude m.registers.pc w op flow).1.cycle = m₁.cycles + 1 := by
    cases flow <;> rfl
  refine ⟨?_, ?_⟩
  · rw [hcycle, hcycles]
    cases flow <;> rfl
  · cases flow <;> rfl

namespace Rig

variable {ε : Type} {env : Surroundings ε} {s : Rig × ε} {rig : Rig}

lemma attempt_place {snapshot : Snapshot} (h : attempt env s = (.ok snapshot, rig)) :
    (snapshot.address, snapshot.cycle) = (s.1.machine.place.1, s.1.machine.place.2 + 1) ∧
      rig.machine.place = (snapshot.registers.pc, snapshot.cycle) := by
  rcases ho : env.obstacle s with _ | cause
  · rcases hs : s.1.machine.step with ⟨e | told, m⟩
    · simp only [attempt, work, ho, hs] at h
      cases h
    · simp only [attempt, work, ho, hs] at h
      obtain ⟨htold, rfl⟩ := Prod.mk.inj h
      obtain rfl := Except.ok.inj htold
      obtain ⟨hstart, hend⟩ := Machine.step_place hs
      -- that the frame is finished does not move the machine
      exact ⟨hstart, hend⟩
  · simp only [attempt, ho] at h
    cases h

lemma attempt_place_of_fault {c : Fault} (h : attempt env s = (.error (.fault c), rig)) :
    rig.machine.place = s.1.machine.place := by
  rcases ho : env.obstacle s with _ | cause
  · rcases hs : s.1.machine.step with ⟨e | told, m⟩
    · simp only [attempt, work, ho, hs] at h
      obtain ⟨he, rfl⟩ := Prod.mk.inj h
      obtain rfl := Except.error.inj he
      have hunharmed := Machine.step_unharmed hs
      exact Prod.ext (congrArg Registers.pc hunharmed.registers) hunharmed.cycles
    · simp only [attempt, work, ho, hs] at h
      cases h
  · simp only [attempt, ho] at h
    obtain ⟨-, rfl⟩ := Prod.mk.inj h
    rfl

end Rig

namespace Debugger

variable {ε : Type} [Clock ε ℤ] {env : Surroundings (Debugger × ε)} {patience : ℕ}

/-! ### One cycle -/

lemma noted_memory (d : Debugger) (snapshot : Snapshot) :
    (d.noted snapshot).memory =
      (d.limit, remember d.limit d.history snapshot, some snapshot) := rfl

/-- What a cycle under a debugger does to what is tracked. -/
inductive Stepped (s : Rig × Debugger × ε) :
    Except Halt Snapshot × Rig × Debugger × ε → Prop where
  /-- The cycle was completed. -/
  | completed {snapshot : Snapshot} {s' : Rig × Debugger × ε}
      (hstart : (snapshot.address, snapshot.cycle) =
        (s.1.machine.place.1, s.1.machine.place.2 + 1))
      (hend : s'.1.machine.place = (snapshot.registers.pc, snapshot.cycle))
      (hmemory : s'.2.1.memory = (s.2.1.noted snapshot).memory) : Stepped s (.ok snapshot, s')
  /-- The instruction faulted. -/
  | faulted {c : Fault} {s' : Rig × Debugger × ε} (h : tracked s' = tracked s) :
      Stepped s (.error (.failure (.fault c)), s')
  /-- The cycle failed for another reason. -/
  | broken {e : Halt} {s' : Rig × Debugger × ε}
      (hnoFault : NoFault (.error e : Except Halt Snapshot))
      (hmemory : s'.2.1.memory = s.2.1.memory) : Stepped s (.error e, s')

omit [Clock ε ℤ] in
/-- A failure for a reason that may be a fault. -/
lemma Stepped.of_failure {e : Failure} {s s' : Rig × Debugger × ε}
    (hmemory : s'.2.1.memory = s.2.1.memory)
    (hfault : ∀ c, e = .fault c → s'.1.machine.place = s.1.machine.place) :
    Stepped s (.error (.failure e), s') := by
  cases e with
  | fault c => exact .faulted (Prod.ext (hfault c rfl) hmemory)
  | _ => exact .broken nofun hmemory

omit [Clock ε ℤ] in
/-- A debugger that listens takes note and moves nothing. -/
lemma tracked_observe (snapshot : Snapshot) (rig : Rig) (d : Debugger) :
    (d.observe snapshot rig).1.machine.place = rig.machine.place ∧
      (d.observe snapshot rig).2.memory = (d.noted snapshot).memory := by
  refine ⟨?_, congrArg memory (observe_debugger snapshot rig d)⟩
  unfold observe
  dsimp only
  split <;> rfl

omit [Clock ε ℤ] in
lemma timed_place (s : Rig × Debugger × ε) : (timed s).1.machine.place = s.1.machine.place := by
  unfold timed
  dsimp only
  split <;> rfl

omit [Clock ε ℤ] in
lemma noted_memory_congr {d d' : Debugger} (h : d.memory = d'.memory) (snapshot : Snapshot) :
    (d.noted snapshot).memory = (d'.noted snapshot).memory := by
  obtain ⟨hlimit, hrest⟩ := Prod.mk.inj h
  obtain ⟨hhistory, -⟩ := Prod.mk.inj hrest
  rw [noted_memory, noted_memory, hlimit, hhistory]

/-- The end of a cycle whose instruction was executed. -/
lemma finishCycle_stepped (henv : env.Discreet) {snapshot : Snapshot} {start finish : ℤ}
    {s s' : Rig × Debugger × ε}
    (hstart : (snapshot.address, snapshot.cycle) =
      (s.1.machine.place.1, s.1.machine.place.2 + 1))
    (hend : s'.1.machine.place = (snapshot.registers.pc, snapshot.cycle))
    (hmemory : s'.2.1.memory = s.2.1.memory) :
    Stepped s (Rig.finishCycle (watching env) snapshot start finish s') := by
  obtain ⟨rig, d, world⟩ := s'
  by_cases hcan : rig.machine.canTick (.whole (finish - start)) = true
  · obtain ⟨hplace, hnoted⟩ := tracked_observe snapshot (rig.settle start finish) d
    let told := d.observe snapshot (rig.settle start finish)
    have htracked := henv.onCycle snapshot (told.1, told.2, world)
    have hfinish : Rig.finishCycle (watching env) snapshot start finish (rig, d, world) =
        ((env.onCycle snapshot (told.1, told.2, world)).1.map fun _ => snapshot,
          (env.onCycle snapshot (told.1, told.2, world)).2) := if_pos hcan
    rw [hfinish, henv.heard]
    refine .completed hstart ?_ ?_
    · exact (congrArg Prod.fst htracked).trans (hplace.trans hend)
    · exact (congrArg Prod.snd htracked).trans
        (hnoted.trans (noted_memory_congr hmemory snapshot))
  · have hfinish : Rig.finishCycle (watching env) snapshot start finish (rig, d, world) =
        (.error (.unfit .beyondDouble), rig, d, world) := if_neg hcan
    rw [hfinish]
    exact .broken (.unfit _) hmemory

/-- Every cycle under a debugger is completed, faults or fails for another reason. -/
lemma step_stepped (henv : env.Discreet) (patience : ℕ) (s : Rig × Debugger × ε) :
    Stepped s (step (watching env) patience s) := by
  have hbegun : (Rig.begin (timed s)).2.1.machine.place = s.1.machine.place :=
    (congrArg Machine.place (Rig.begin_machine (timed s))).trans (timed_place s)
  have hdebugger : (Rig.begin (timed s)).2.2.1 = s.2.1 := Rig.begin_debugger (timed s)
  -- to wait moves nothing that is tracked, and no fault ends a wait
  have hsleep : ∀ seconds s, tracked ((watching env).sleep seconds s).2 = tracked s := henv.sleep
  have hawait := Rig.await_keeps tracked (fun _ _ => rfl) hsleep patience (Rig.begin (timed s)).1
  have hnone : ∀ seconds s, NoFault ((watching env).sleep seconds s).1 := henv.sleep_noFault
  have hnoFault := Rig.await_noFault hnone patience (Rig.begin (timed s)).1
  have hending := Rig.cycle_ending (watching env) patience (timed s)
  have hstep : step (watching env) patience s = Rig.cycle (watching env) patience (timed s) := rfl
  rw [hstep]
  generalize Rig.cycle (watching env) patience (timed s) = o at hending ⊢
  cases hending with
  | failed ha =>
    refine .of_failure (congrArg memory hdebugger) ?_
    rintro c rfl
    exact (Rig.attempt_place_of_fault ha).trans hbegun
  | @stranded snapshot rig halt s' ha hw =>
    have hawait := hawait (rig, (Rig.begin (timed s)).2.2)
    have hnoFault := hnoFault (rig, (Rig.begin (timed s)).2.2)
    rw [hw] at hawait hnoFault
    exact .broken hnoFault.error ((congrArg Prod.snd hawait).trans (congrArg memory hdebugger))
  | @reached snapshot rig finish s' ha hw =>
    have hawait := hawait (rig, (Rig.begin (timed s)).2.2)
    rw [hw] at hawait
    obtain ⟨hstart, hend⟩ := Rig.attempt_place ha
    rw [hbegun] at hstart
    exact finishCycle_stepped henv hstart ((congrArg Prod.fst hawait).trans hend)
      ((congrArg Prod.snd hawait).trans (congrArg memory hdebugger))

/-! ### Marks -/

/-- An entry of the ledger. -/
inductive Mark where
  /-- A cycle was completed. -/
  | cycle (snapshot : Snapshot)
  /-- The debugger was reset. -/
  | reset
  /-- The machine may go on somewhere else. -/
  | gap
deriving DecidableEq, Repr

/-- The cycle that a mark stands for, if it does. -/
def Mark.snapshot? : Mark → Option Snapshot
  | cycle snapshot => some snapshot
  | reset | gap => none

/-- What stands behind the last reset. -/
def sinceReset (marks : List Mark) : List Mark := marks.rtakeWhile (· ≠ .reset)

/-- The cycles completed since the last reset. -/
def completed (marks : List Mark) : List Snapshot := (sinceReset marks).filterMap Mark.snapshot?

/-- The debugger keeps the last of the cycles, as many as its limit says, and the very last. -/
structure Records (limit : ℕ) (marks : List Mark) (d : Debugger) : Prop where
  limit_eq : d.limit = limit
  history_eq : d.history = (completed marks).rtake limit
  last_eq : d.last = (completed marks).getLast?

/-- Marks of which every cycle starts where the one before it has ended, unless there is a gap.
They lead from the first of the two places to the other. -/
inductive Chained : ℤ × ℕ → List Mark → ℤ × ℕ → Prop where
  | nil (place : ℤ × ℕ) : Chained place [] place
  | cycle {place place' : ℤ × ℕ} {snapshot : Snapshot} {rest : List Mark}
      (hstart : (snapshot.address, snapshot.cycle) = (place.1, place.2 + 1))
      (h : Chained (snapshot.registers.pc, snapshot.cycle) rest place') :
      Chained place (.cycle snapshot :: rest) place'
  | reset {place place' : ℤ × ℕ} {rest : List Mark} (h : Chained place rest place') :
      Chained place (.reset :: rest) place'
  | gap {place mid place' : ℤ × ℕ} {rest : List Mark} (h : Chained mid rest place') :
      Chained place (.gap :: rest) place'

lemma completed_cycle (marks : List Mark) (snapshot : Snapshot) :
    completed (marks ++ [.cycle snapshot]) = completed marks ++ [snapshot] := by
  have hcycle : decide (Mark.cycle snapshot ≠ .reset) = true := decide_eq_true nofun
  unfold completed sinceReset
  rw [List.rtakeWhile_concat_pos (· ≠ .reset) marks _ hcycle, List.filterMap_append]
  rfl

lemma completed_reset (marks : List Mark) : completed (marks ++ [.reset]) = [] := by
  unfold completed sinceReset
  rw [List.rtakeWhile_concat_neg _ _ _ (by decide)]
  rfl

lemma completed_gap (marks : List Mark) : completed (marks ++ [.gap]) = completed marks := by
  unfold completed sinceReset
  rw [List.rtakeWhile_concat_pos _ _ _ (by decide), List.filterMap_append]
  exact List.append_nil _

/-- Of the last so many, and one more, the last so many are the last so many of all. -/
lemma remember_rtake (limit : ℕ) (all : List Snapshot) (snapshot : Snapshot) :
    remember limit (all.rtake limit) snapshot = (all ++ [snapshot]).rtake limit := by
  cases limit with
  | zero => simp [remember, List.rtake]
  | succ limit =>
    have hremember : remember (limit + 1) (all.rtake (limit + 1)) snapshot =
        (all.rtake (limit + 1) ++ [snapshot]).rtake (limit + 1) := rfl
    have htwice : (all.rtake (limit + 1)).rtake limit = all.rtake limit := by
      simp only [List.rtake_eq_reverse_take_reverse, List.reverse_reverse, List.take_take,
        Nat.min_eq_left (Nat.le_succ limit)]
    rw [hremember, List.rtake_concat_succ, List.rtake_concat_succ, htwice]

namespace Records

variable {limit : ℕ} {marks : List Mark} {d d' : Debugger}

/-- What the debugger keeps decides what it records. -/
lemma congr (h : Records limit marks d) (hmemory : d'.memory = d.memory) :
    Records limit marks d' := by
  obtain ⟨hlimit, hrest⟩ := Prod.mk.inj hmemory
  obtain ⟨hhistory, hlast⟩ := Prod.mk.inj hrest
  exact ⟨hlimit.trans h.limit_eq, hhistory.trans h.history_eq, hlast.trans h.last_eq⟩

lemma cycle (h : Records limit marks d) (snapshot : Snapshot) :
    Records limit (marks ++ [.cycle snapshot]) (d.noted snapshot) where
  limit_eq := h.limit_eq
  history_eq := by
    rw [completed_cycle, ← remember_rtake, ← h.history_eq, ← h.limit_eq]
    rfl
  last_eq := by
    rw [completed_cycle, List.getLast?_concat]
    rfl

lemma reset (h : Records limit marks d) (m : Machine) :
    Records limit (marks ++ [.reset]) (d.reset m) where
  limit_eq := h.limit_eq
  history_eq := by
    rw [completed_reset, List.rtake_nil]
    rfl
  last_eq := by
    rw [completed_reset]
    rfl

lemma gap (h : Records limit marks d) : Records limit (marks ++ [.gap]) d := by
  refine ⟨h.limit_eq, ?_, ?_⟩
  · rw [completed_gap]
    exact h.history_eq
  · rw [completed_gap]
    exact h.last_eq

end Records

namespace Chained

variable {place place' : ℤ × ℕ}

lemma append_iff {first second : List Mark} :
    Chained place (first ++ second) place' ↔
      ∃ mid, Chained place first mid ∧ Chained mid second place' := by
  induction first generalizing place with
  | nil =>
    constructor
    · exact fun h => ⟨place, .nil place, h⟩
    · rintro ⟨mid, hfirst, hsecond⟩
      cases hfirst
      exact hsecond
  | cons mark rest ih =>
    constructor
    · intro h
      cases h with
      | cycle hstart h =>
        obtain ⟨mid, hrest, hsecond⟩ := ih.1 h
        exact ⟨mid, .cycle hstart hrest, hsecond⟩
      | reset h =>
        obtain ⟨mid, hrest, hsecond⟩ := ih.1 h
        exact ⟨mid, .reset hrest, hsecond⟩
      | gap h =>
        obtain ⟨mid, hrest, hsecond⟩ := ih.1 h
        exact ⟨mid, .gap hrest, hsecond⟩
    · rintro ⟨mid, hfirst, hsecond⟩
      cases hfirst with
      | cycle hstart h => exact .cycle hstart (ih.2 ⟨mid, h, hsecond⟩)
      | reset h => exact .reset (ih.2 ⟨mid, h, hsecond⟩)
      | gap h => exact .gap (ih.2 ⟨mid, h, hsecond⟩)

/-- Two cycles with nothing between them follow each other. -/
lemma precedes {earlier later : List Mark} {a b : Snapshot}
    (h : Chained place (earlier ++ .cycle a :: .cycle b :: later) place') : a.Precedes b := by
  obtain ⟨mid, -, hcycles⟩ := append_iff.1 h
  cases hcycles with
  | cycle _ hnext =>
    cases hnext with
    | cycle hstart _ => exact Prod.mk.inj hstart

/-- Without a gap and a reset, the cycles follow each other from the first place on. -/
lemma isChain {marks : List Mark} (h : Chained place marks place') (hgap : .gap ∉ marks)
    (hreset : .reset ∉ marks) :
    (marks.filterMap Mark.snapshot?).IsChain Snapshot.Precedes ∧
      ∀ first ∈ (marks.filterMap Mark.snapshot?).head?,
        (first.address, first.cycle) = (place.1, place.2 + 1) := by
  induction h with
  | nil place => exact ⟨.nil, fun first hfirst => absurd hfirst (Option.not_mem_none first)⟩
  | @cycle place place' snapshot rest hstart _ ih =>
    obtain ⟨hchain, hfirst⟩ :=
      ih (List.not_mem_of_not_mem_cons hgap) (List.not_mem_of_not_mem_cons hreset)
    have hcycles : (Mark.cycle snapshot :: rest).filterMap Mark.snapshot? =
        snapshot :: rest.filterMap Mark.snapshot? := rfl
    rw [hcycles]
    refine ⟨List.isChain_cons.2 ⟨fun b hb => Prod.mk.inj (hfirst b hb), hchain⟩, ?_⟩
    rintro first ⟨⟩
    exact hstart
  | reset => exact absurd List.mem_cons_self hreset
  | gap => exact absurd List.mem_cons_self hgap

/-- Without a gap since the last reset, the cycles since then follow each other. -/
lemma isChain_completed {marks : List Mark} (h : Chained place marks place')
    (hgap : .gap ∉ sinceReset marks) : (completed marks).IsChain Snapshot.Precedes := by
  -- what stands behind the last reset leads on from wherever the marks before it have led
  obtain ⟨earlier, hsince⟩ : sinceReset marks <:+ marks := List.rtakeWhile_suffix _ _
  rw [← hsince] at h
  obtain ⟨mid, -, hchained⟩ := append_iff.1 h
  have hreset : .reset ∉ sinceReset marks := by
    intro hmem
    have hother := List.mem_rtakeWhile_imp hmem
    exact absurd hother (by decide)
  exact (hchained.isChain hgap hreset).1

end Chained

/-! ### Calls -/

/-- The mark that a cycle with this result leaves; a fault leaves none. -/
def marksOf : Except Halt Snapshot → List Mark
  | .ok snapshot => [.cycle snapshot]
  | .error (.failure (.fault _)) => []
  | .error _ => [.gap]

/-- The marks of a step. -/
def stepMarks (env : Surroundings (Debugger × ε)) (patience : ℕ) (s : Rig × Debugger × ε) :
    List Mark :=
  marksOf (step (watching env) patience s).1

/-- The marks of the rounds of a run. -/
def roundMarks (env : Surroundings (Debugger × ε)) (patience : ℕ) (limit : Option ℤ) :
    (rounds executed : ℕ) → Rig × Debugger × ε → List Mark
  | 0, _, _ => []
  | rounds + 1, executed, s =>
    if !s.2.1.running || Rig.limitReached limit executed then []
    else
      stepMarks env patience s ++ match step (watching env) patience s with
        | (.error _, _) => []
        | (.ok _, s) =>
          if s.2.1.hit.isSome || s.1.isPaused then []
          else roundMarks env patience limit rounds (executed + 1) s

/-- The marks lead from one state to another: each cycle starts where the one before it has ended,
and whatever the debugger has recorded, it records them behind it. -/
structure Leads (s : Rig × Debugger × ε) (marks : List Mark) (s' : Rig × Debugger × ε) : Prop where
  chained : Chained s.1.machine.place marks s'.1.machine.place
  records : ∀ limit earlier, Records limit earlier s.2.1 → Records limit (earlier ++ marks) s'.2.1

namespace Leads

variable {s s₁ s₂ s₃ : Rig × Debugger × ε}

omit [Clock ε ℤ] in
lemma of_tracked (h : tracked s₂ = tracked s₁) : Leads s₁ [] s₂ := by
  obtain ⟨hplace, hmemory⟩ := Prod.mk.inj h
  refine ⟨hplace ▸ .nil _, fun limit earlier hrecords => ?_⟩
  rw [List.append_nil]
  exact hrecords.congr hmemory

omit [Clock ε ℤ] in
lemma append {first second : List Mark} (hfirst : Leads s₁ first s₂)
    (hsecond : Leads s₂ second s₃) : Leads s₁ (first ++ second) s₃ where
  chained := Chained.append_iff.2 ⟨_, hfirst.chained, hsecond.chained⟩
  records limit earlier hrecords := by
    rw [← List.append_assoc]
    exact hsecond.records limit _ (hfirst.records limit earlier hrecords)

omit [Clock ε ℤ] in
lemma gap (h : s₂.2.1.memory = s₁.2.1.memory) : Leads s₁ [.gap] s₂ :=
  ⟨.gap (.nil _), fun _ _ hrecords => hrecords.gap.congr h⟩

omit [Clock ε ℤ] in
lemma of_stepped {o : Except Halt Snapshot × Rig × Debugger × ε} (h : Stepped s o) :
    Leads s (marksOf o.1) o.2 := by
  cases h with
  | @completed snapshot s' hstart hend hmemory =>
    exact ⟨.cycle hstart (hend ▸ .nil _), fun _ _ hrecords =>
      (hrecords.cycle snapshot).congr hmemory⟩
  | faulted h => exact .of_tracked h
  | @broken e s' hnoFault hmemory =>
    have hmarks : marksOf (.error e) = [.gap] := by
      cases e with
      | unfinished => rfl
      | failure cause =>
        cases cause with
        | fault c => exact absurd rfl (hnoFault c)
        | _ => rfl
    rw [hmarks]
    exact .gap hmemory

lemma step (henv : env.Discreet) (patience : ℕ) (s : Rig × Debugger × ε) :
    Leads s (stepMarks env patience s) (Debugger.step (watching env) patience s).2 :=
  .of_stepped (step_stepped henv patience s)

lemma runFrom (henv : env.Discreet) (patience : ℕ) (limit : Option ℤ) (rounds executed : ℕ)
    (s : Rig × Debugger × ε) :
    Leads s (roundMarks env patience limit rounds executed s)
      (Debugger.runFrom (watching env) patience limit rounds executed s).2 := by
  induction rounds generalizing executed s with
  | zero => exact .of_tracked rfl
  | succ rounds ih =>
    obtain ⟨rig, d, world⟩ := s
    have hstep := step henv patience (rig, d, world)
    unfold roundMarks Debugger.runFrom
    dsimp only
    split
    · exact .of_tracked rfl
    · refine .append hstep ?_
      rcases Debugger.step (watching env) patience (rig, d, world) with ⟨e | _, rig', d', world'⟩
      · exact .of_tracked rfl
      · dsimp only
        split
        · exact .of_tracked rfl
        · exact ih (executed + 1) (rig', d', world')

lemma run (henv : env.Discreet) (patience rounds : ℕ) (limit : Option ℤ)
    (s : Rig × Debugger × ε) :
    Leads s (roundMarks env patience limit rounds 0 (started s))
      (Debugger.run (watching env) patience rounds limit s).2 := by
  have hstarted : tracked (started s) = tracked s := by
    unfold started tracked
    dsimp only
    split <;> rfl
  have hrounds := runFrom henv patience limit rounds 0 (started s)
  rcases hend : Debugger.runFrom (watching env) patience limit rounds 0 (started s) with
    ⟨result, s'⟩
  rw [hend] at hrounds
  rw [run_eq_of_runFrom hend]
  have hstopped : Leads s' [] (s'.1, s'.2.1.stop, s'.2.2) := of_tracked rfl
  have hmarks := ((of_tracked hstarted).append hrounds).append hstopped
  rw [List.nil_append, List.append_nil] at hmarks
  exact hmarks

end Leads

/-! ### Without limit and history -/

omit [Clock ε ℤ] in
lemma observe_slim (snapshot : Snapshot) (rig : Rig) (d : Debugger) (world : ε) :
    (slim (d, world)).1.observe snapshot rig =
      (d.observe snapshot rig).map id fun d => (slim (d, world)).1 := by
  have hmatch : (slim (d, world)).1.match? snapshot = d.match? snapshot := rfl
  unfold observe
  rw [hmatch]
  cases d.match? snapshot with
  | none => rfl
  | some b => rfl

lemma watching_unnoticed (h : env.SeenAs env slim) :
    (watching env).SeenAs (watching env) slim where
  read := h.read
  obstacle := h.obstacle
  sleep := h.sleep
  onCycle snapshot s := by
    obtain ⟨rig, d, world⟩ := s
    have htold := h.onCycle snapshot
      ((d.observe snapshot rig).1, (d.observe snapshot rig).2, world)
    have hobserve := observe_slim snapshot rig d world
    unfold watching Rig.seen slim at *
    dsimp only at *
    rw [hobserve]
    exact htold

section Slim

variable (h : env.SeenAs env slim)
include h

lemma step_slim (patience : ℕ) (s : Rig × Debugger × ε) :
    step (watching env) patience (Rig.seen slim s) =
      (step (watching env) patience s).map id (Rig.seen slim) :=
  Rig.cycle_seen (watching_unnoticed h) patience (timed s)

lemma stepMarks_slim (patience : ℕ) (s : Rig × Debugger × ε) :
    stepMarks env patience (Rig.seen slim s) = stepMarks env patience s := by
  unfold stepMarks
  rw [step_slim h]
  rfl

lemma runFrom_slim (patience : ℕ) (limit : Option ℤ) (rounds executed : ℕ)
    (s : Rig × Debugger × ε) :
    runFrom (watching env) patience limit rounds executed (Rig.seen slim s) =
      (runFrom (watching env) patience limit rounds executed s).map id (Rig.seen slim) := by
  induction rounds generalizing executed s with
  | zero => rfl
  | succ rounds ih =>
    obtain ⟨rig, d, world⟩ := s
    have hstep := step_slim h patience (rig, d, world)
    unfold Rig.seen slim at hstep ih ⊢
    dsimp only at hstep ih ⊢
    rw [runFrom, runFrom, hstep]
    split
    · rfl
    · rcases step (watching env) patience (rig, d, world) with ⟨e | _, rig', d', world'⟩
      · rfl
      · dsimp only [Prod.map, id_eq]
        split
        · rfl
        · exact ih (executed + 1) (rig', d', world')

lemma roundMarks_slim (patience : ℕ) (limit : Option ℤ) (rounds executed : ℕ)
    (s : Rig × Debugger × ε) :
    roundMarks env patience limit rounds executed (Rig.seen slim s) =
      roundMarks env patience limit rounds executed s := by
  induction rounds generalizing executed s with
  | zero => rfl
  | succ rounds ih =>
    obtain ⟨rig, d, world⟩ := s
    have hrunning : (Rig.seen slim (rig, d, world)).2.1.running = d.running := rfl
    rw [roundMarks, roundMarks, stepMarks_slim h, step_slim h, hrunning]
    rcases step (watching env) patience (rig, d, world) with ⟨e | _, s'⟩
    · rfl
    · have hopen : ((Rig.seen slim s').2.1.hit.isSome || (Rig.seen slim s').1.isPaused) =
          (s'.2.1.hit.isSome || s'.1.isPaused) := rfl
      dsimp only [Prod.map, id_eq]
      rw [hopen, ih]

lemma run_slim (patience rounds : ℕ) (limit : Option ℤ) (s : Rig × Debugger × ε) :
    run (watching env) patience rounds limit (Rig.seen slim s) =
      (run (watching env) patience rounds limit s).map id (Rig.seen slim) := by
  have hrounds := runFrom_slim h patience limit rounds 0 (started s)
  have hstarted : started (Rig.seen slim s) = Rig.seen slim (started s) := rfl
  rcases hend : runFrom (watching env) patience limit rounds 0 (started s) with ⟨result, s'⟩
  rw [hend, ← hstarted] at hrounds
  rw [run_eq_of_runFrom hend, run_eq_of_runFrom hrounds]
  rfl

end Slim

end Debugger

open Debugger (Mark Leads Records Chained)

/-- A call on a debugger, or something that is done beside it. -/
inductive Call (ε : Type) where
  /-- One cycle is made. -/
  | step (patience : ℕ)
  /-- A run is made. -/
  | run (patience rounds : ℕ) (limit : Option ℤ)
  /-- The debugger is reset. -/
  | reset
  /-- The breakpoints are edited. -/
  | edit (breakpoints : List Breakpoint)
  /-- Anything is done to the machine, its pace and its world, such as to reset the machine, to load
  a program or to hold it still. -/
  | other (act : Rig × ε → Rig × ε)

namespace Call

variable {ε : Type} [Clock ε ℤ] (env : Surroundings (Debugger × ε))

/-- What a call leads to. -/
def perform : Call ε → Rig × Debugger × ε → Rig × Debugger × ε
  | step patience, s => (Debugger.step (Debugger.watching env) patience s).2
  | run patience rounds limit, s =>
    (Debugger.run (Debugger.watching env) patience rounds limit s).2
  | reset, s => (s.1, s.2.1.reset s.1.machine, s.2.2)
  | edit breakpoints, s => (s.1, { s.2.1 with breakpoints }, s.2.2)
  | other act, s => ((act (s.1, s.2.2)).1, s.2.1, (act (s.1, s.2.2)).2)

/-- The marks that a call leaves. -/
def marks : Call ε → Rig × Debugger × ε → List Mark
  | step patience, s => Debugger.stepMarks env patience s
  | run patience rounds limit, s =>
    Debugger.roundMarks env patience limit rounds 0 (Debugger.started s)
  | reset, _ => [.reset]
  | edit _, _ => []
  | other act, s =>
    if (act (s.1, s.2.2)).1.machine.place = s.1.machine.place then [] else [.gap]

/-- What calls lead to, one after another. -/
def performAll : List (Call ε) → Rig × Debugger × ε → Rig × Debugger × ε
  | [], s => s
  | call :: rest, s => performAll rest (call.perform env s)

/-- The marks that calls leave, one after another. -/
def ledger : List (Call ε) → Rig × Debugger × ε → List Mark
  | [], _ => []
  | call :: rest, s => call.marks env s ++ ledger rest (call.perform env s)

variable {env}

lemma marks_lead (henv : env.Discreet) (call : Call ε) (s : Rig × Debugger × ε) :
    Leads s (call.marks env s) (call.perform env s) := by
  cases call with
  | step patience => exact .step henv patience s
  | run patience rounds limit => exact .run henv patience rounds limit s
  | reset => exact ⟨.reset (.nil _), fun _ _ h => h.reset s.1.machine⟩
  | edit breakpoints => exact .of_tracked rfl
  | other act =>
    unfold marks
    dsimp only
    split
    · exact .of_tracked (Prod.ext ‹_› rfl)
    · exact .gap rfl

lemma ledger_leads (henv : env.Discreet) (calls : List (Call ε)) (s : Rig × Debugger × ε) :
    Leads s (ledger env calls s) (performAll env calls s) := by
  induction calls generalizing s with
  | nil => exact .of_tracked rfl
  | cons call rest ih => exact (marks_lead henv call s).append (ih (call.perform env s))

/-- A call does the same to a debugger with another limit and another history. -/
lemma perform_slim (h : env.SeenAs env Debugger.slim) (call : Call ε) (s : Rig × Debugger × ε) :
    call.perform env (Rig.seen Debugger.slim s) = Rig.seen Debugger.slim (call.perform env s) ∧
      call.marks env (Rig.seen Debugger.slim s) = call.marks env s := by
  cases call with
  | step patience =>
    exact ⟨congrArg Prod.snd (Debugger.step_slim h patience s),
      Debugger.stepMarks_slim h patience s⟩
  | run patience rounds limit =>
    exact ⟨congrArg Prod.snd (Debugger.run_slim h patience rounds limit s),
      Debugger.roundMarks_slim h patience limit rounds 0 (Debugger.started s)⟩
  | reset | edit | other => exact ⟨rfl, rfl⟩

lemma performAll_slim (h : env.SeenAs env Debugger.slim) (calls : List (Call ε))
    (s : Rig × Debugger × ε) :
    performAll env calls (Rig.seen Debugger.slim s) =
        Rig.seen Debugger.slim (performAll env calls s) ∧
      ledger env calls (Rig.seen Debugger.slim s) = ledger env calls s := by
  induction calls generalizing s with
  | nil => exact ⟨rfl, rfl⟩
  | cons call rest ih =>
    obtain ⟨hperform, hmarks⟩ := perform_slim h call s
    obtain ⟨hrest, hledger⟩ := ih (call.perform env s)
    rw [performAll, performAll, ledger, ledger, hperform, hmarks, hrest, hledger]
    exact ⟨rfl, rfl⟩

end Call

namespace Debugger

variable {ε : Type} [Clock ε ℤ] {env : Surroundings (Debugger × ε)}

omit [Clock ε ℤ] in
lemma create_slim {m : Machine} {keep keep' : ℤ} {d d' : Debugger} (h : create m keep = .ok d)
    (h' : create m keep' = .ok d') (world : ε) : slim (d', world) = slim (d, world) := by
  rw [create_ok h, create_ok h']
  rfl

/-- **The history is the tail of the trace.**  Let a debugger be made with any limit, in
surroundings that do not move the machine, that leave alone what the debugger keeps and take no
notice of it.  Let it make steps and runs and be reset in any order, whatever ends them, and let
anything be done to the machine and to the breakpoints in between.  Then the history is the end of
the list of the cycles that were completed since the last reset, all of them or as many as the limit
says; the last snapshot is the very last of these cycles, and there is none if there was no cycle.
With another limit the cycles would have been the same, and the last snapshot too.  Two cycles that
were completed with nothing between them but faults follow each other: the second lies where the
first has led, and is counted next.  So if since the last reset nothing else moved the machine and
no cycle was cut off, any two neighbours in the history do. -/
theorem history_is_tail (henv : env.Discreet) (calls : List (Call ε)) {m : Machine} {keep : ℤ}
    {d : Debugger} (hcreate : create m keep = .ok d) (rig : Rig) (world : ε) :
    let marks := Call.ledger env calls (rig, d, world)
    let after := (Call.performAll env calls (rig, d, world)).2.1
    (after.history <:+ completed marks ∧
        after.history.length = min keep.toNat (completed marks).length) ∧
      after.last = (completed marks).getLast? ∧
      (∀ keep' d', create m keep' = .ok d' →
        Call.ledger env calls (rig, d', world) = marks ∧
          (Call.performAll env calls (rig, d', world)).2.1.last = after.last) ∧
      (∀ earlier a b later, marks = earlier ++ .cycle a :: .cycle b :: later → a.Precedes b) ∧
      (.gap ∉ sinceReset marks → after.history.IsChain Snapshot.Precedes) := by
  intro marks after
  have hleads := Call.ledger_leads henv calls (rig, d, world)
  have hfirst : Records keep.toNat [] d := by
    rw [create_ok hcreate]
    exact ⟨rfl, (List.rtake_nil _).symm, rfl⟩
  have hrecords : Records keep.toNat marks after := hleads.records _ _ hfirst
  have hsuffix : after.history <:+ completed marks :=
    hrecords.history_eq ▸ List.drop_suffix _ _
  refine ⟨⟨hsuffix, ?_⟩, hrecords.last_eq, ?_, ?_, ?_⟩
  · rw [hrecords.history_eq, List.rtake, List.length_drop]
    omega
  · intro keep' d' hcreate'
    -- without limit and history, the two debuggers are one
    have hslim : Rig.seen slim (rig, d', world) = Rig.seen slim (rig, d, world) :=
      congrArg (rig, ·) (create_slim hcreate hcreate' world)
    obtain ⟨hperform, hledger⟩ := Call.performAll_slim henv.unnoticed calls (rig, d, world)
    obtain ⟨hperform', hledger'⟩ := Call.performAll_slim henv.unnoticed calls (rig, d', world)
    rw [hslim] at hperform' hledger'
    exact ⟨hledger'.symm.trans hledger,
      congrArg (fun s => s.2.1.last) (hperform'.symm.trans hperform)⟩
  · rintro earlier a b later hmarks
    have hchained : Chained rig.machine.place marks _ := hleads.chained
    rw [hmarks] at hchained
    exact hchained.precedes
  · exact fun hgap => (hleads.chained.isChain_completed hgap).suffix hsuffix

theorem history_is_tail_counting :
    let calls : List (Call (SteadyClock ℤ)) :=
      [.step 8, .reset, .edit countingBreakpoints, .run 8 9 none, .edit [], .run 8 9 (some 2)]
    let rig : Rig := ⟨.counting, .brisk⟩
    let d : Debugger := ⟨[], false, Machine.counting.view, none, none, 2, []⟩
    let world : SteadyClock ℤ := ⟨0, 1⟩
    let after := (Call.performAll (.still _) calls (rig, d, world)).2.1
    let cycles := completed (Call.ledger (.still _) calls (rig, d, world))
    cycles.map (·.cycle) = [2, 3, 4] ∧ after.history.map (·.cycle) = [3, 4] ∧
      after.history <:+ cycles ∧ after.last = cycles.getLast? ∧
      after.history.IsChain Snapshot.Precedes := by
  intro calls rig d world after cycles
  have hcreate : create .counting 2 = .ok d := rfl
  obtain ⟨⟨hsuffix, -⟩, hlast, -, -, hchain⟩ :=
    history_is_tail (Surroundings.still_discreet _) calls hcreate rig world
  obtain ⟨hcycles, hhistory, hgap⟩ : cycles.map (·.cycle) = [2, 3, 4] ∧
      after.history.map (·.cycle) = [3, 4] ∧
      .gap ∉ sinceReset (Call.ledger (.still _) calls (rig, d, world)) := by
    decide +kernel
  exact ⟨hcycles, hhistory, hsuffix, hlast, hchain hgap⟩

end Debugger

end Chip8
