import Chip8.Proofs.Breakpoints
import Chip8.Proofs.Consecutive
import Chip8.Proofs.Silence

/-!
# Where a run under a debugger stops

A cycle under a debugger holds the machine still exactly if a breakpoint matches it, provided that
whatever else surrounds the machine leaves the debugger alone and neither holds the machine still
nor lets it go on.  So between two cycles of a run nothing has been hit, the machine is not held
still, and the debugger remembers the registers of the last cycle: `Watches` says this, and a cycle
that no breakpoint matches keeps it.

The main result, `run_stops_at_first_hit`, counts the cycles of a run by it.
-/

namespace Chip8

/-- No instruction holds the machine still or lets it go on. -/
lemma Machine.Effect.paused {m : Machine} {w : Word} {op : Opcode} {o : Outcome Flow}
    (h : Effect m w op o) : o.2.paused = m.paused := by
  cases h <;> rfl

lemma Machine.Ending.paused {m : Machine} {o : Outcome Snapshot} (h : Ending m o) :
    o.2.paused = m.paused := by
  cases h with
  | unfetched => rfl
  | @failed w op storage _ _ hf he =>
    have hexecute := (execute_effect { m with storage } w op).paused
    rw [he] at hexecute
    exact hexecute
  | @done w op storage flow _ hf he =>
    have hexecute := (execute_effect { m with storage } w op).paused
    rw [he] at hexecute
    cases flow <;> exact hexecute

lemma Rig.work_isPaused (rig : Rig) : rig.work.2.isPaused = rig.isPaused := by
  have hstep := (Machine.step_ending rig.machine).paused
  unfold work
  rcases hs : rig.machine.step with ⟨_ | _, m⟩
  · rw [hs] at hstep
    exact hstep
  · rw [hs] at hstep
    exact hstep

lemma Rig.attempt_isPaused {ε : Type} (env : Surroundings ε) (s : Rig × ε) :
    (attempt env s).2.isPaused = s.1.isPaused := by
  unfold attempt
  rcases env.obstacle s with _ | cause
  · exact work_isPaused s.1
  · rfl

namespace Debugger

variable {ε : Type}

/-- What a run under a debugger looks at between two cycles. -/
def looksAt (s : Rig × Debugger × ε) : Bool × Debugger := (s.1.isPaused, s.2.1)

end Debugger

/-- Surroundings that leave a debugger alone, and neither hold the machine still nor let it go on.
-/
structure Surroundings.Apart {ε : Type} (env : Surroundings (Debugger × ε)) : Prop where
  sleep : ∀ seconds s, Debugger.looksAt (env.sleep seconds s).2 = Debugger.looksAt s
  onCycle : ∀ snapshot s, Debugger.looksAt (env.onCycle snapshot s).2 = Debugger.looksAt s

namespace Debugger

variable {ε : Type} [Clock ε Int] {env : Surroundings (Debugger × ε)} {patience : ℕ}
  {s s' : Rig × Debugger × ε} {snapshot : Snapshot}

lemma looksAt_begin (s : Rig × Debugger × ε) : looksAt (Rig.begin (timed s)).2 = looksAt s := by
  have hpaused := congrArg Machine.paused (Rig.begin_machine (timed s))
  have htimed : (timed s).1.isPaused = s.1.isPaused := by
    unfold timed
    dsimp only
    split <;> rfl
  exact Prod.ext (hpaused.trans htimed) (Rig.begin_debugger (timed s))

omit [Clock ε Int] in
/-- A cycle that is told is noted, and held still if a breakpoint matches it. -/
lemma looksAt_finishCycle (hq : env.Apart) {told : Snapshot} {start finish : ℤ}
    (h : Rig.finishCycle (watching env) told start finish s = (.ok snapshot, s')) :
    looksAt s' = ((s.2.1.match? snapshot).isSome || s.1.isPaused, s.2.1.noted snapshot) := by
  obtain ⟨rig, d, world⟩ := s
  unfold Rig.finishCycle at h
  dsimp only at h
  split at h
  · obtain ⟨htold, rfl⟩ := Prod.mk.inj h
    have hsnapshot : told = snapshot := by
      rcases hon : ((watching env).onCycle told (rig.settle start finish, d, world)).1 with _ | _
      · rw [hon] at htold
        exact absurd htold nofun
      · rw [hon] at htold
        exact Except.ok.inj htold
    subst hsnapshot
    -- The debugger is told first, and whoever is told after it changes nothing that it looks at.
    refine (hq.onCycle told _).trans ?_
    exact Prod.ext (observe_isPaused told (rig.settle start finish) d)
      (observe_debugger told (rig.settle start finish) d)
  · exact absurd h nofun

lemma step_ok (hq : env.Apart) (h : step (watching env) patience s = (.ok snapshot, s')) :
    looksAt s' = ((s.2.1.match? snapshot).isSome || s.1.isPaused, s.2.1.noted snapshot) := by
  have hc := Rig.cycle_ending (watching env) patience (timed s)
  have hcycle : Rig.cycle (watching env) patience (timed s) = (.ok snapshot, s') := h
  rw [hcycle] at hc
  generalize ho : ((.ok snapshot, s') : Except Halt Snapshot × _) = o at hc
  cases hc with
  | failed | stranded => exact absurd ho nofun
  | @reached told rig finish s'' ha hw =>
    have hattempt := Rig.attempt_isPaused (watching env) (Rig.begin (timed s)).2
    have hsleep : ∀ seconds s, looksAt ((watching env).sleep seconds s).2 = looksAt s := hq.sleep
    have hawait := Rig.await_keeps looksAt (fun _ _ => rfl) hsleep patience
      (Rig.begin (timed s)).1 (rig, (Rig.begin (timed s)).2.2)
    rw [ha] at hattempt
    rw [hw] at hawait
    have hlook : looksAt s'' = looksAt s := calc
      looksAt s'' = looksAt (rig, (Rig.begin (timed s)).2.2) := hawait
      _ = looksAt (Rig.begin (timed s)).2 := Prod.ext hattempt rfl
      _ = looksAt s := looksAt_begin s
    obtain ⟨hpaused, hdebugger⟩ := Prod.mk.inj hlook
    rw [looksAt_finishCycle hq ho.symm, hpaused, hdebugger]

/-! ### Between two cycles -/

/-- The registers after the last of some cycles, or the ones before them. -/
def lastRegisters (before : RegisterView) (earlier : List Snapshot) : RegisterView :=
  (earlier.map Snapshot.registers).getLast?.getD before

omit [Clock ε Int] in
lemma lastRegisters_cons (before : RegisterView) (s : Snapshot) (rest : List Snapshot) :
    lastRegisters before (s :: rest) = lastRegisters s.registers rest := by
  unfold lastRegisters
  rw [List.map_cons, List.getLast?_cons]
  rfl

/-- No breakpoint matches any of some cycles, each of them compared with the one before it. -/
def Unmatched (breakpoints : List Breakpoint) (before : RegisterView)
    (snapshots : List Snapshot) : Prop :=
  ∀ earlier s later, snapshots = earlier ++ s :: later →
    NoMatch breakpoints (lastRegisters before earlier) s

section Unmatched

variable {breakpoints : List Breakpoint} {before : RegisterView}

lemma unmatched_nil : Unmatched breakpoints before [] := by
  intro earlier s later h
  exact absurd h.symm (List.append_ne_nil_of_right_ne_nil earlier (List.cons_ne_nil s later))

lemma unmatched_cons_iff {s : Snapshot} {rest : List Snapshot} :
    Unmatched breakpoints before (s :: rest) ↔
      NoMatch breakpoints before s ∧ Unmatched breakpoints s.registers rest := by
  constructor
  · intro h
    refine ⟨h [] s rest rfl, ?_⟩
    rintro earlier s' later rfl
    rw [← lastRegisters_cons before]
    exact h (s :: earlier) s' later rfl
  · rintro ⟨hfirst, hrest⟩ earlier s' later h
    rcases earlier with _ | ⟨e, earlier⟩
    · obtain ⟨rfl, -⟩ := List.cons.inj h
      exact hfirst
    · obtain ⟨rfl, hlater⟩ := List.cons.inj h
      rw [lastRegisters_cons]
      exact hrest earlier s' later hlater

instance decidableUnmatched (breakpoints : List Breakpoint) :
    ∀ before snapshots, Decidable (Unmatched breakpoints before snapshots)
  | _, [] => isTrue unmatched_nil
  | _, s :: rest =>
    have := decidableUnmatched breakpoints s.registers rest
    decidable_of_iff _ unmatched_cons_iff.symm

end Unmatched

/-- Between two cycles of a run that has hit nothing.  The debugger has these breakpoints, and these
are the registers of the last cycle. -/
structure Watches (breakpoints : List Breakpoint) (before : RegisterView)
    (s : Rig × Debugger × ε) : Prop where
  running : s.2.1.running = true
  unpaused : s.1.isPaused = false
  hit_eq : s.2.1.hit = none
  breakpoints_eq : s.2.1.breakpoints = breakpoints
  previous_eq : s.2.1.previous = before

namespace Watches

variable {breakpoints : List Breakpoint} {before : RegisterView}

lemma step_noMatch (hw : Watches breakpoints before s) (hq : env.Apart)
    (h : step (watching env) patience s = (.ok snapshot, s'))
    (hno : NoMatch breakpoints before snapshot) :
    Watches breakpoints snapshot.registers s' := by
  obtain ⟨hpaused, hdebugger⟩ := Prod.mk.inj (step_ok hq h)
  rw [← hw.breakpoints_eq, ← hw.previous_eq, ← match?_eq_none_iff] at hno
  rw [hno, hw.unpaused] at hpaused
  refine ⟨?_, hpaused, ?_, ?_, ?_⟩
  · rw [hdebugger]
    exact hw.running
  · rw [hdebugger, noted, hno]
    exact hw.hit_eq
  · rw [hdebugger]
    exact hw.breakpoints_eq
  · rw [hdebugger]
    rfl

lemma step_match (hw : Watches breakpoints before s) (hq : env.Apart)
    (h : step (watching env) patience s = (.ok snapshot, s')) {b : Breakpoint}
    (hb : FirstMatch breakpoints before snapshot b) :
    s'.2.1.hit = some (b, snapshot) ∧ s'.1.isPaused = true := by
  obtain ⟨hpaused, hdebugger⟩ := Prod.mk.inj (step_ok hq h)
  rw [← hw.breakpoints_eq, ← hw.previous_eq, ← match?_eq_some_iff] at hb
  rw [hb] at hpaused
  refine ⟨?_, hpaused⟩
  rw [hdebugger, noted, hb]
  rfl

/-! ### Rounds -/

variable {limit : Option ℤ} {executed : ℕ}

/-- A round makes a cycle, and is the last one if that hits or the machine is held still. -/
lemma runFrom_succ (hw : Watches breakpoints before s) (hlimit : ∀ n ∈ limit, (executed : ℤ) < n)
    (h : step (watching env) patience s = (.ok snapshot, s')) (rounds : ℕ) :
    runFrom (watching env) patience limit (rounds + 1) executed s =
      if s'.2.1.hit.isSome || s'.1.isPaused then (.ok (), s')
      else runFrom (watching env) patience limit rounds (executed + 1) s' := by
  have hgoes : ¬ (!s.2.1.running || Rig.limitReached limit executed) = true := by
    rw [hw.running]
    unfold Rig.limitReached
    cases limit with
    | none => exact Bool.false_ne_true
    | some n =>
      have hn := hlimit n rfl
      simpa using hn
  obtain ⟨rig, d, world⟩ := s
  obtain ⟨rig', d', world'⟩ := s'
  rw [runFrom, if_neg hgoes, h]

/-- Cycles that no breakpoint matches are made one after another. -/
lemma runFrom_unmatched (hq : env.Apart) {snapshots : List Snapshot}
    (hrun : Consecutive (step (watching env) patience) s snapshots s')
    (hw : Watches breakpoints before s) (hno : Unmatched breakpoints before snapshots)
    (hlimit : ∀ n ∈ limit, (executed : ℤ) + snapshots.length ≤ n) (rounds : ℕ) :
    Watches breakpoints (lastRegisters before snapshots) s' ∧
      runFrom (watching env) patience limit (rounds + snapshots.length) executed s =
        runFrom (watching env) patience limit rounds (executed + snapshots.length) s' := by
  induction hrun generalizing before executed with
  | nil s => exact ⟨hw, rfl⟩
  | @cons s mid s' snapshot rest h _ ih =>
    obtain ⟨hfirst, hrest⟩ := unmatched_cons_iff.1 hno
    have hmid := hw.step_noMatch hq h hfirst
    have hlt : ∀ n ∈ limit, (executed : ℤ) < n := fun n hn => by
      have := hlimit n hn
      rw [List.length_cons] at this
      omega
    have hle : ∀ n ∈ limit, ((executed + 1 : ℕ) : ℤ) + rest.length ≤ n := fun n hn => by
      have := hlimit n hn
      rw [List.length_cons] at this
      omega
    obtain ⟨hlast, hrounds⟩ := ih hmid hrest hle
    have hopen : ¬ (mid.2.1.hit.isSome || mid.1.isPaused) = true := by
      rw [hmid.hit_eq, hmid.unpaused]
      exact Bool.false_ne_true
    rw [lastRegisters_cons, List.length_cons, ← Nat.add_assoc, hw.runFrom_succ hlt h,
      if_neg hopen, hrounds, Nat.add_right_comm executed]
    exact ⟨hlast, rfl⟩

/-- The first cycle that a breakpoint matches is the last one that is made. -/
lemma runFrom_match (hq : env.Apart) {earlier : List Snapshot} {last : Snapshot} {b : Breakpoint}
    (hrun : Consecutive (step (watching env) patience) s (earlier ++ [last]) s')
    (hw : Watches breakpoints before s) (hno : Unmatched breakpoints before earlier)
    (hb : FirstMatch breakpoints (lastRegisters before earlier) last b)
    (hlimit : ∀ n ∈ limit, (executed : ℤ) + earlier.length < n) (rounds : ℕ) :
    s'.2.1.hit = some (b, last) ∧ s'.1.isPaused = true ∧
      runFrom (watching env) patience limit (rounds + 1 + earlier.length) executed s =
        (.ok (), s') := by
  obtain ⟨mid, s'', hearlier, hlast, hnil⟩ := hrun.split
  cases hnil
  have hlt : ∀ n ∈ limit, ((executed + earlier.length : ℕ) : ℤ) < n := fun n hn => by
    have := hlimit n hn
    omega
  -- One round is kept back for the cycle that is matched.
  obtain ⟨hmid, hrounds⟩ :=
    runFrom_unmatched hq hearlier hw hno (fun n hn => Int.le_of_lt (hlimit n hn)) (rounds + 1)
  obtain ⟨hhit, hpaused⟩ := hmid.step_match hq hlast hb
  have hround := hmid.runFrom_succ hlt hlast rounds
  rw [hhit, Option.isSome_some, Bool.true_or, if_pos rfl] at hround
  exact ⟨hhit, hpaused, hrounds.trans hround⟩

end Watches

omit [Clock ε Int] in
lemma watches_started (s : Rig × Debugger × ε) :
    Watches s.2.1.breakpoints s.2.1.previous (started s) := by
  refine ⟨rfl, ?_, rfl, rfl, rfl⟩
  unfold started
  dsimp only
  split
  · rfl
  · exact Bool.eq_false_iff.2 ‹_›

/-- A round makes no cycle once the limit is reached. -/
lemma runFrom_limit {executed : ℕ} (env : Surroundings (Debugger × ε)) (rounds : ℕ)
    (s : Rig × Debugger × ε) :
    runFrom env patience (some (executed : ℤ)) (rounds + 1) executed s = (.ok (), s) := by
  have hreached : Rig.limitReached (some (executed : ℤ)) executed = true :=
    decide_eq_true (Int.le_refl _)
  rw [runFrom, hreached, Bool.or_true, if_pos rfl]

/-- What a run gives once its rounds are over. -/
lemma run_eq_of_runFrom {limit : Option ℤ} {rounds : ℕ} {result : Except Halt Unit}
    (h : runFrom env patience limit rounds 0 (started s) = (result, s')) :
    run env patience rounds limit s =
      (result.map fun _ => s'.2.1.hit.map Prod.fst, s'.1, s'.2.1.stop, s'.2.2) := by
  obtain ⟨rig, d, world⟩ := s
  unfold started at h
  dsimp only at h
  unfold run
  dsimp only
  rw [h]
  rfl

/-- **A run under a debugger stops at the first hit.**  Let a debugger be made for a machine, and
have any history and any breakpoints.  Let nothing else that surrounds the machine hold it still,
let it go on or meddle with the debugger, and let the next cycles succeed one after another; let
the limit, if there is one, allow for them.  If some breakpoint matches the last of these cycles
and none matches an earlier one, then the run makes exactly these cycles and gives the first
breakpoint that matches; the machine is held still, and the hit is that breakpoint and that cycle.
If no breakpoint matches any of them and the limit is their number, then the run makes exactly
these cycles and gives no breakpoint; the machine is not held still, and there is no hit.  If the
limit is not reached, or there is none, then the run goes on behind them. -/
theorem run_stops_at_first_hit (hq : env.Apart) (patience rounds : ℕ) (limit : Option ℤ)
    {m : Machine} {keep : ℤ} {created : Debugger} (hcreate : create m keep = .ok created)
    (history : List Event) (breakpoints : List Breakpoint) (rig : Rig) (world : ε)
    {snapshots : List Snapshot} {s' : Rig × Debugger × ε} :
    let before := remembered m.view history
    let s := (rig, { created.after history with breakpoints }, world)
    Consecutive (step (watching env) patience) (started s) snapshots s' →
    (∀ n ∈ limit, (snapshots.length : ℤ) ≤ n) →
      (∀ earlier last, snapshots = earlier ++ [last] → Unmatched breakpoints before earlier →
        ¬ NoMatch breakpoints (lastRegisters before earlier) last → snapshots.length ≤ rounds →
          ∃ b, FirstMatch breakpoints (lastRegisters before earlier) last b ∧
            run (watching env) patience rounds limit s =
              (.ok (some b), s'.1, s'.2.1.stop, s'.2.2) ∧
            s'.1.isPaused = true ∧ s'.2.1.hit = some (b, last)) ∧
      (Unmatched breakpoints before snapshots →
        (limit = some (snapshots.length : ℤ) → snapshots.length < rounds →
          run (watching env) patience rounds limit s = (.ok none, s'.1, s'.2.1.stop, s'.2.2) ∧
            s'.1.isPaused = false ∧ s'.2.1.hit = none) ∧
        (rounds = snapshots.length →
          run (watching env) patience rounds limit s =
            (.error .unfinished, s'.1, s'.2.1.stop, s'.2.2))) := by
  intro before s hrun hlimit
  have hbefore : s.2.1.previous = before :=
    (after_previous created history).trans (by rw [create_previous hcreate])
  have hstart : Watches breakpoints before (started s) := hbefore ▸ watches_started s
  constructor
  · rintro earlier last rfl hno hmatch hrounds
    obtain ⟨b, hb⟩ := exists_firstMatch hmatch
    rw [List.length_append, List.length_singleton] at hrounds hlimit
    obtain ⟨extra, rfl⟩ := Nat.exists_eq_add_of_le hrounds
    have hlt : ∀ n ∈ limit, ((0 : ℕ) : ℤ) + earlier.length < n := fun n hn => by
      have := hlimit n hn
      omega
    obtain ⟨hhit, hpaused, hend⟩ := hstart.runFrom_match hq hrun hno hb hlt extra
    have hrounds : earlier.length + 1 + extra = extra + 1 + earlier.length := by omega
    rw [hrounds, run_eq_of_runFrom hend, hhit]
    exact ⟨b, hb, rfl, hpaused, rfl⟩
  · intro hno
    have hle : ∀ n ∈ limit, ((0 : ℕ) : ℤ) + snapshots.length ≤ n := fun n hn => by
      have := hlimit n hn
      omega
    have hcycles := hstart.runFrom_unmatched hq hrun hno hle
    constructor
    · rintro rfl hrounds
      obtain ⟨extra, rfl⟩ := Nat.exists_eq_add_of_lt hrounds
      obtain ⟨hlast, hend⟩ := hcycles (extra + 1)
      rw [Nat.zero_add, runFrom_limit] at hend
      have hrounds : snapshots.length + extra + 1 = extra + 1 + snapshots.length := by omega
      rw [hrounds, run_eq_of_runFrom hend, hlast.hit_eq]
      exact ⟨rfl, hlast.unpaused, rfl⟩
    · rintro rfl
      obtain ⟨hlast, hend⟩ := hcycles 0
      rw [Nat.zero_add] at hend
      exact run_eq_of_runFrom hend

end Debugger

lemma Surroundings.still_apart (ε : Type) : (still (Debugger × ε)).Apart :=
  ⟨fun _ _ => rfl, fun _ _ => rfl⟩

/-- A machine whose first register is five and counts up: it is set to five once, and then one is
added again and again. -/
def Machine.counting : Machine :=
  { Machine.holding [0x60, 0x05, 0x70, 0x01, 0x12, 0x02] with
    registers := { Registers.initial 0x200 (.whole 1) with v := 5 :: List.replicate 15 0 } }

namespace Debugger

/-- A breakpoint at a change of the first register. -/
def atChange : Breakpoint := { kind := .registerChange, register := some "V0" }

/-- Breakpoints of which the first does not count, and the second cycle of `counting` matches the
last two. -/
def countingBreakpoints : List Breakpoint :=
  [{ kind := .pcMatch, value := some 0x202, enabled := false },
    { kind := .registerValue, register := some "V0", value := some 7 },
    atChange,
    { kind := .memoryRead, address := some 0x202 }]

theorem run_stops_at_first_hit_counting :
    let s : Rig × Debugger × SteadyClock ℤ := (⟨.counting, .brisk⟩,
      { (fresh .counting).after [.start, .stop, .reset .counting] with
        breakpoints := countingBreakpoints }, ⟨0, 1⟩)
    let cycles := Consecutive.answers (step (watching (.still _)) 8) 2 (started s)
    cycles.map (·.registers.v.head?) = [some 5, some 6] ∧
      ∃ last s', cycles.getLast? = some last ∧
        Consecutive (step (watching (.still _)) 8) (started s) cycles s' ∧
        run (watching (.still _)) 8 5 (some 4) s =
          (.ok (some atChange), s'.1, s'.2.1.stop, s'.2.2) ∧
        s'.1.isPaused = true ∧ s'.2.1.hit = some (atChange, last) := by
  intro s cycles
  obtain ⟨hlength, hregisters, hsome, hearlier, hfound⟩ :
      cycles.length = 2 ∧ cycles.map (·.registers.v.head?) = [some 5, some 6] ∧
      cycles.getLast?.isSome = true ∧
      Unmatched countingBreakpoints Machine.counting.view cycles.dropLast ∧
      ∀ last ∈ cycles.getLast?,
        (countingBreakpoints.find? fun b =>
          b.hits (lastRegisters Machine.counting.view cycles.dropLast) last) = some atChange := by
    decide +kernel
  obtain ⟨last, hlast⟩ := Option.isSome_iff_exists.1 hsome
  have hcut : cycles = cycles.dropLast ++ [last] := by
    obtain ⟨earlier, hcut⟩ := List.getLast?_eq_some_iff.1 hlast
    rw [hcut, List.dropLast_concat]
  have hmatch :
      ¬ NoMatch countingBreakpoints (lastRegisters Machine.counting.view cycles.dropLast) last :=
    fun h => absurd ((hfound last hlast).symm.trans (find?_eq_none_iff.2 h)) nofun
  have hlimit : ∀ n ∈ some (4 : ℤ), (cycles.length : ℤ) ≤ n := by
    rintro n ⟨⟩
    rw [hlength]
    decide
  obtain ⟨s', hrun⟩ := Consecutive.of_length_answers hlength
  obtain ⟨b, hb, hanswer, hpaused, hhit⟩ :=
    (run_stops_at_first_hit (Surroundings.still_apart _) 8 5 (some 4)
      (rfl : create .counting 8 = .ok (fresh .counting)) [.start, .stop, .reset .counting]
      countingBreakpoints ⟨.counting, .brisk⟩ (⟨0, 1⟩ : SteadyClock ℤ) hrun hlimit).1
      cycles.dropLast last hcut hearlier hmatch (by rw [hlength]; decide)
  have hchange : b = atChange :=
    Option.some.inj ((find?_eq_some_iff.2 hb).symm.trans (hfound last hlast))
  subst hchange
  exact ⟨hregisters, last, s', hlast, hrun, hanswer, hpaused, hhit⟩

end Debugger

end Chip8
