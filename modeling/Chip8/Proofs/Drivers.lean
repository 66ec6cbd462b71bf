import Chip8.Proofs.Breakpoints
import Chip8.Proofs.FirstHit
import Chip8.Proofs.Hushed

/-!
# Two ways to drive a machine

A machine at a pace is driven by a run of its own or by a run of a debugger.  Each of the two marks
that it goes on, looks at marks of its own to see whether it should end, and clears them when it
begins: a run of the machine whether it was asked to stop, a run of a debugger what it has hit.  A
run of the machine sleeps while the machine is held still, and ends the tone.

If the debugger has no breakpoints, nobody holds the machine still.  Then both make the same cycles.
The argument goes round by round: the states of the two runs are the same but for logs, tones and
marks (`SameButMarks`), a cycle looks at none of these, and it leaves the marks as they stand.
-/

namespace Chip8

/-- The pace without the marks of a run. -/
def Pace.unmarked (p : Pace) : Pace := { p with running := false, stopRequested := false }

namespace Debugger

/-- The debugger without the marks of a run. -/
def unmarked (d : Debugger) : Debugger := { d with running := false, hit := none }

variable {ε : Type}

/-- Machines at a pace, each with its debugger and its world, that are the same but for logs, tones
and the marks of runs. -/
structure SameButMarks (s s' : Rig × Debugger × ε) : Prop where
  machine : s.1.machine.hushed = s'.1.machine.hushed
  pace : s.1.pace.unmarked = s'.1.pace.unmarked
  debugger : s.2.1.unmarked = s'.2.1.unmarked
  world : s.2.2 = s'.2.2

/-- Two results that are the same, and states that are the same but for logs, tones and marks. -/
structure EndAlike {α : Type} (r r' : Except Halt α × Rig × Debugger × ε) : Prop where
  result : r.1 = r'.1
  state : SameButMarks r.2 r'.2

/-- The marks of both kinds of run: whether one goes on, whether the machine's was asked to stop,
and what the debugger's has hit. -/
def marks (s : Rig × Debugger × ε) : Bool × Bool × Bool × Option (Breakpoint × Snapshot) :=
  (s.1.pace.running, s.1.pace.stopRequested, s.2.1.running, s.2.1.hit)

/-- What has to stay as it is for a run to go on: the marks, whether the machine is held still, and
the breakpoints. -/
def standing (s : Rig × Debugger × ε) :
    (Bool × Bool × Bool × Option (Breakpoint × Snapshot)) × Bool × List Breakpoint :=
  (marks s, s.1.isPaused, s.2.1.breakpoints)

end Debugger

open Debugger (SameButMarks EndAlike)

/-- Surroundings that take no notice of logs, tones and the marks of runs. -/
structure Surroundings.Impartial {ε : Type} (env : Surroundings (Debugger × ε)) : Prop where
  obstacle : ∀ {s s'}, SameButMarks s s' → env.obstacle s = env.obstacle s'
  sleep : ∀ seconds {s s'}, SameButMarks s s' →
    EndAlike (env.sleep seconds s) (env.sleep seconds s')
  onCycle : ∀ snapshot {s s'}, SameButMarks s s' →
    EndAlike (env.onCycle snapshot s) (env.onCycle snapshot s')

/-- Surroundings that set no marks, add no breakpoints and neither hold the machine still nor let it
go on. -/
structure Surroundings.Restful {ε : Type} (env : Surroundings (Debugger × ε)) : Prop where
  sleep : ∀ seconds s, Debugger.standing (env.sleep seconds s).2 = Debugger.standing s
  onCycle : ∀ snapshot s, Debugger.standing (env.onCycle snapshot s).2 = Debugger.standing s

lemma Surroundings.still_impartial (ε : Type) : (still (Debugger × ε)).Impartial where
  obstacle _ := rfl
  sleep _ _ _ h := ⟨rfl, h⟩
  onCycle _ _ _ h := ⟨rfl, h⟩

lemma Surroundings.still_restful (ε : Type) : (still (Debugger × ε)).Restful :=
  ⟨fun _ _ => rfl, fun _ _ => rfl⟩

namespace Rig

/-- The end of a run is for the log and the tone only, as far as the machine goes. -/
lemma finishRun_hushed (result : Except Halt ℕ) (rig : Rig) :
    (finishRun result rig).machine.hushed = rig.machine.hushed := by
  unfold finishRun
  dsimp only
  split <;> rfl

end Rig

namespace Debugger

variable {ε : Type} {env : Surroundings (Debugger × ε)} {s s' : Rig × Debugger × ε}

/-! ### Cycles of machines that are the same but for the marks -/

namespace SameButMarks

variable (h : SameButMarks s s')
include h

lemma base_eq : s.1.pace.base = s'.1.pace.base :=
  show s.1.pace.unmarked.base = s'.1.pace.unmarked.base from congrArg Pace.base h.pace

lemma target_eq : s.1.pace.target = s'.1.pace.target :=
  show s.1.pace.unmarked.target = s'.1.pace.unmarked.target from congrArg Pace.target h.pace

lemma busyWait_eq : s.1.pace.busyWait = s'.1.pace.busyWait :=
  show s.1.pace.unmarked.busyWait = s'.1.pace.unmarked.busyWait from congrArg Pace.busyWait h.pace

lemma registers_eq : s.1.machine.registers = s'.1.machine.registers :=
  show s.1.machine.hushed.registers = s'.1.machine.hushed.registers from
    congrArg Machine.registers h.machine

lemma match?_eq (snapshot : Snapshot) : s.2.1.match? snapshot = s'.2.1.match? snapshot :=
  show s.2.1.unmarked.match? snapshot = s'.2.1.unmarked.match? snapshot from
    congrArg (·.match? snapshot) h.debugger

lemma work : s.1.work.1 = s'.1.work.1 ∧
    SameButMarks (s.1.work.2, s.2) (s'.1.work.2, s'.2) := by
  obtain ⟨hresult, hafter⟩ := Machine.step_of_hushed_eq h.machine
  unfold Rig.work
  rcases hs : s.1.machine.step with ⟨r, m⟩
  rcases hs' : s'.1.machine.step with ⟨r', m'⟩
  rw [hs, hs'] at hresult hafter
  obtain rfl : r = r' := hresult
  cases r with
  | error e => exact ⟨rfl, hafter, h.pace, h.debugger, h.world⟩
  | ok snapshot =>
    have hshown := congrArg (fun m : Machine => { m with screen := m.screen.finishFrame }) hafter
    exact ⟨rfl, hshown, h.pace, h.debugger, h.world⟩

lemma attempt (he : env.Impartial) : (Rig.attempt env s).1 = (Rig.attempt env s').1 ∧
    SameButMarks ((Rig.attempt env s).2, s.2) ((Rig.attempt env s').2, s'.2) := by
  unfold Rig.attempt
  rw [he.obstacle h]
  cases env.obstacle s' with
  | some cause => exact ⟨rfl, h⟩
  | none => exact h.work

lemma pass (he : env.Impartial) (target : Float) (now : ℤ) :
    EndAlike (Rig.pass env target now s) (Rig.pass env target now s') := by
  unfold Rig.pass
  rw [h.busyWait_eq]
  split
  · exact ⟨rfl, h⟩
  · split
    · exact ⟨rfl, h⟩
    · exact he.sleep _ h

variable [Clock ε Int]

lemma read : (Clock.read s.2).1 = (Clock.read s'.2).1 ∧
    SameButMarks (s.1, (Clock.read s.2).2) (s'.1, (Clock.read s'.2).2) := by
  obtain ⟨rig, d, world⟩ := s
  obtain ⟨rig', d', world'⟩ := s'
  obtain rfl : world = world' := h.world
  exact ⟨rfl, h.machine, h.pace, h.debugger, rfl⟩

lemma begin : (Rig.begin s).1 = (Rig.begin s').1 ∧
    SameButMarks (Rig.begin s).2 (Rig.begin s').2 := by
  obtain ⟨hread, hworld⟩ := h.read
  have hbase := h.base_eq
  obtain ⟨rig, rest⟩ := s
  obtain ⟨rig', rest'⟩ := s'
  unfold Rig.begin
  dsimp only at hread hworld hbase ⊢
  rw [← hbase]
  cases rig.pace.base with
  | some start => exact ⟨rfl, h⟩
  | none =>
    have hpace := congrArg (fun p : Pace => { p with base := some (Clock.read rest).1 }) hworld.pace
    rw [← hread]
    exact ⟨rfl, hworld.machine, hpace, hworld.debugger, hworld.world⟩

lemma waitUntil (he : env.Impartial) (target : Float) (patience : ℕ) :
    EndAlike (Rig.waitUntil env target patience s) (Rig.waitUntil env target patience s') := by
  induction patience generalizing s s' with
  | zero => exact ⟨rfl, h⟩
  | succ patience ih =>
    obtain ⟨hread, hworld⟩ := h.read
    obtain ⟨rig, rest⟩ := s
    obtain ⟨rig', rest'⟩ := s'
    unfold Rig.waitUntil
    dsimp only at hread hworld ⊢
    rw [← hread]
    split
    · have hpass := hworld.pass he target (Clock.read rest).1
      rcases hp : Rig.pass env target (Clock.read rest).1 (rig, (Clock.read rest).2) with ⟨r, t⟩
      rcases hp' : Rig.pass env target (Clock.read rest).1 (rig', (Clock.read rest').2) with
        ⟨r', t'⟩
      rw [hp, hp'] at hpass
      obtain rfl : r = r' := hpass.result
      cases r with
      | error e => exact ⟨rfl, hpass.state⟩
      | ok _ => exact ih hpass.state
    · exact ⟨rfl, hworld⟩

lemma await (he : env.Impartial) (patience : ℕ) (start : ℤ) :
    EndAlike (Rig.await env patience start s) (Rig.await env patience start s') := by
  unfold Rig.await
  rw [h.target_eq]
  split
  · exact ⟨rfl, h⟩
  · exact h.waitUntil he _ _

omit [Clock ε Int] in
lemma settle (start finish : ℤ) :
    SameButMarks (s.1.settle start finish, s.2) (s'.1.settle start finish, s'.2) where
  machine := Machine.tick_of_hushed_eq h.machine _
  pace := congrArg (fun p : Pace => { p with base := some finish, cycles := p.cycles + 1 }) h.pace
  debugger := h.debugger
  world := h.world

omit [Clock ε Int] in
lemma finishCycle (he : env.Impartial) (snapshot : Snapshot) (start finish : ℤ) :
    EndAlike (Rig.finishCycle env snapshot start finish s)
      (Rig.finishCycle env snapshot start finish s') := by
  have htold := he.onCycle snapshot (h.settle start finish)
  have hcan : s.1.machine.canTick (.whole (finish - start)) =
      s'.1.machine.canTick (.whole (finish - start)) := by
    unfold Machine.canTick
    rw [h.registers_eq]
  unfold Rig.finishCycle
  dsimp only
  rw [hcan]
  split
  · exact ⟨congrArg (Except.map fun _ => snapshot) htold.result, htold.state⟩
  · exact ⟨rfl, h⟩

/-- Cycles of machines that are the same but for the marks end alike. -/
lemma cycle (he : env.Impartial) (patience : ℕ) :
    EndAlike (Rig.cycle env patience s) (Rig.cycle env patience s') := by
  obtain ⟨hstart, hbegun⟩ := h.begin
  obtain ⟨hresult, hattempted⟩ := hbegun.attempt he
  unfold Rig.cycle
  dsimp only
  rw [← hstart]
  rcases ha : Rig.attempt env (Rig.begin s).2 with ⟨r, rig⟩
  rcases ha' : Rig.attempt env (Rig.begin s').2 with ⟨r', rig'⟩
  rw [ha, ha'] at hresult hattempted
  obtain rfl : r = r' := hresult
  cases r with
  | error e => exact ⟨rfl, hattempted⟩
  | ok snapshot =>
    have hwaited := hattempted.await he patience (Rig.begin s).1
    dsimp only at hwaited ⊢
    rcases hw : Rig.await env patience (Rig.begin s).1 (rig, (Rig.begin s).2.2) with ⟨r, t⟩
    rcases hw' : Rig.await env patience (Rig.begin s).1 (rig', (Rig.begin s').2.2) with ⟨r', t'⟩
    rw [hw, hw'] at hwaited
    obtain rfl : r = r' := hwaited.result
    cases r with
    | error e => exact ⟨rfl, hwaited.state⟩
    | ok finish => exact hwaited.state.finishCycle he snapshot _ finish

omit [Clock ε Int] in
/-- A debugger takes note of the same cycle in the same way. -/
lemma observe (snapshot : Snapshot) :
    SameButMarks ((s.2.1.observe snapshot s.1).1, (s.2.1.observe snapshot s.1).2, s.2.2)
      ((s'.2.1.observe snapshot s'.1).1, (s'.2.1.observe snapshot s'.1).2, s'.2.2) := by
  have hnoted := congrArg (fun d : Debugger => { d with
    last := some snapshot, history := remember d.limit d.history snapshot
    previous := snapshot.registers }) h.debugger
  unfold Debugger.observe
  rw [h.match?_eq]
  dsimp only
  cases s'.2.1.match? snapshot with
  | none => exact ⟨h.machine, h.pace, hnoted, h.world⟩
  | some b =>
    have hpaused := congrArg (fun m : Machine => { m with paused := true }) h.machine
    exact ⟨hpaused, h.pace, hnoted, h.world⟩

end SameButMarks

lemma watching_impartial (he : env.Impartial) : (watching env).Impartial where
  obstacle h := he.obstacle h
  sleep seconds _ _ h := he.sleep seconds h
  onCycle snapshot _ _ h := he.onCycle snapshot (h.observe snapshot)

/-! ### Cycles and the marks -/

/-- A debugger without breakpoints takes note of a cycle and does nothing else. -/
lemma observe_of_free {d : Debugger} (hfree : d.breakpoints = []) (snapshot : Snapshot)
    (rig : Rig) :
    d.observe snapshot rig = (rig, { d with
      last := some snapshot, history := remember d.limit d.history snapshot
      previous := snapshot.registers }) := by
  have hnone : d.match? snapshot = none := by
    rw [match?_eq_none_iff, hfree]
    exact fun b hb => absurd hb List.not_mem_nil
  unfold observe
  rw [hnone]

lemma free_of_standing_eq (h : standing s' = standing s) (hfree : s.2.1.breakpoints = []) :
    s'.2.1.breakpoints = [] :=
  (congrArg (fun p => p.2.2) h).trans hfree

section Standing

variable (hr : env.Restful) (hfree : s.2.1.breakpoints = [])
include hr hfree

/-- Without breakpoints, to tell a debugger of a cycle leaves the marks as they stand. -/
lemma watching_standing (snapshot : Snapshot) :
    standing ((watching env).onCycle snapshot s).2 = standing s := by
  obtain ⟨rig, d, world⟩ := s
  have hobserve := observe_of_free hfree snapshot rig
  have htold := hr.onCycle snapshot
    ((d.observe snapshot rig).1, (d.observe snapshot rig).2, world)
  refine htold.trans ?_
  rw [hobserve]
  rfl

lemma finishCycle_standing (snapshot : Snapshot) (start finish : ℤ) :
    standing (Rig.finishCycle (watching env) snapshot start finish s).2 = standing s := by
  obtain ⟨rig, d, world⟩ := s
  unfold Rig.finishCycle
  dsimp only
  split
  · have hsettled : (rig.settle start finish, d, world).2.1.breakpoints = [] := hfree
    exact watching_standing hr hsettled snapshot
  · rfl

variable [Clock ε Int]

/-- A cycle leaves the marks as they stand. -/
lemma cycle_standing (patience : ℕ) :
    standing (Rig.cycle (watching env) patience s).2 = standing s := by
  have hbegin : standing (Rig.begin s).2 = standing s := by
    obtain ⟨rig, d, world⟩ := s
    unfold Rig.begin
    dsimp only
    split <;> rfl
  have hattempt : ∀ {r rig}, Rig.attempt (watching env) (Rig.begin s).2 = (r, rig) →
      standing (rig, (Rig.begin s).2.2) = standing s := by
    intro r rig ha
    have hpaused := Rig.attempt_isPaused (watching env) (Rig.begin s).2
    have hpace := Rig.attempt_pace (watching env) (Rig.begin s).2
    rw [ha] at hpaused hpace
    rw [← hbegin]
    unfold standing marks
    dsimp only at hpaused hpace ⊢
    rw [hpaused, hpace]
  have hawait : ∀ {r : Except Halt ℤ} {rig s'},
      Rig.await (watching env) patience (Rig.begin s).1 (rig, (Rig.begin s).2.2) = (r, s') →
      standing s' = standing (rig, (Rig.begin s).2.2) := by
    intro r rig s' hw
    have hsleep : ∀ seconds s, standing ((watching env).sleep seconds s).2 = standing s := hr.sleep
    have hkept := Rig.await_keeps standing (fun _ _ => rfl) hsleep patience
      (Rig.begin s).1 (rig, (Rig.begin s).2.2)
    rw [hw] at hkept
    exact hkept
  have hc := Rig.cycle_ending (watching env) patience s
  generalize Rig.cycle (watching env) patience s = o at hc ⊢
  cases hc with
  | failed ha => exact hattempt ha
  | stranded ha hw => exact (hawait hw).trans (hattempt ha)
  | reached ha hw =>
    have hkept := (hawait hw).trans (hattempt ha)
    exact (finishCycle_standing hr (free_of_standing_eq hkept hfree) _ _ _).trans hkept

end Standing

/-! ### Rounds -/

/-- In a run of a debugger a cycle starts as it is. -/
lemma timed_of_running (h : s.2.1.running = true) : timed s = s := by
  unfold timed
  rw [if_pos h]

/-- Two runs between two cycles, one of the machine and one of the debugger: the states are the same
but for the marks, and neither run has a reason to end. -/
structure Abreast (s s' : Rig × Debugger × ε) : Prop where
  same : SameButMarks s s'
  free : s.2.1.breakpoints = []
  unpaused : s.1.isPaused = false
  goesOn : s.1.pace.stopRequested = false
  running : s'.2.1.running = true
  unhit : s'.2.1.hit = none

namespace Abreast

variable (h : Abreast s s')
include h

lemma free' : s'.2.1.breakpoints = [] :=
  (congrArg Debugger.breakpoints h.same.debugger.symm).trans h.free

lemma unpaused' : s'.1.isPaused = false :=
  (congrArg Machine.paused h.same.machine.symm).trans h.unpaused

/-- Cycles that leave the marks as they stand leave the runs abreast. -/
lemma next {t t' : Rig × Debugger × ε} (hsame : SameButMarks t t') (ht : standing t = standing s)
    (ht' : standing t' = standing s') : Abreast t t' where
  same := hsame
  free := free_of_standing_eq ht h.free
  unpaused := (congrArg (fun p => p.2.1) ht).trans h.unpaused
  goesOn := (congrArg (fun p => p.1.2.1) ht).trans h.goesOn
  running := (congrArg (fun p => p.1.2.2.1) ht').trans h.running
  unhit := (congrArg (fun p => p.1.2.2.2) ht').trans h.unhit

end Abreast

/-- The end of a run of the machine and the end of a run of the debugger, begun in these states. -/
structure EndAbreast (s s' : Rig × Debugger × ε) (r : Except Halt ℕ × Rig × Debugger × ε)
    (r' : Except Halt Unit × Rig × Debugger × ε) : Prop where
  result : r'.1 = r.1.map fun _ => ()
  same : SameButMarks r.2 r'.2
  standing_eq : standing r.2 = standing s
  standing_eq' : standing r'.2 = standing s'

variable [Clock ε Int]

/-- Rounds of the two runs are made in step. -/
lemma Abreast.runFrom (h : Abreast s s') (he : env.Impartial) (hr : env.Restful) (patience : ℕ)
    (limit : Option ℤ) (rounds executed : ℕ) :
    EndAbreast s s' (Rig.runFrom (watching env) patience limit rounds executed s)
      (Debugger.runFrom (watching env) patience limit rounds executed s') := by
  induction rounds generalizing executed s s' with
  | zero => exact ⟨rfl, h.same, rfl, rfl⟩
  | succ rounds ih =>
    have hcycle := h.same.cycle (watching_impartial he) patience
    have hkept := cycle_standing hr h.free patience
    have hkept' := cycle_standing hr h.free' patience
    have hstep : step (watching env) patience s' = Rig.cycle (watching env) patience s' :=
      congrArg (Rig.cycle (watching env) patience) (timed_of_running h.running)
    have hgoes := h.goesOn
    have hunpaused := h.unpaused
    have hrunning := h.running
    obtain ⟨rig, d, world⟩ := s
    obtain ⟨rig', d', world'⟩ := s'
    rw [Rig.runFrom, Debugger.runFrom, hgoes, hrunning, hunpaused, Bool.not_true, Bool.false_or,
      if_neg Bool.false_ne_true]
    by_cases hlimit : Rig.limitReached limit executed = true
    · rw [if_pos hlimit, if_pos hlimit]
      exact ⟨rfl, h.same, rfl, rfl⟩
    · rw [if_neg hlimit, if_neg hlimit, hstep]
      rcases hc : Rig.cycle (watching env) patience (rig, d, world) with ⟨r, t⟩
      rcases hc' : Rig.cycle (watching env) patience (rig', d', world') with ⟨r', t'⟩
      rw [hc] at hcycle hkept
      rw [hc'] at hcycle hkept'
      obtain rfl : r = r' := hcycle.result
      cases r with
      | error e => exact ⟨rfl, hcycle.state, hkept, hkept'⟩
      | ok snapshot =>
        have hnext := h.next hcycle.state hkept hkept'
        have hopen : ¬ (t'.2.1.hit.isSome || t'.1.isPaused) = true := by
          rw [hnext.unhit, hnext.unpaused']
          exact Bool.false_ne_true
        obtain ⟨hresult, hsame, hstands, hstands'⟩ := ih hnext (executed + 1)
        dsimp only
        rw [if_neg hopen]
        exact ⟨hresult, hsame, hstands.trans hkept, hstands'.trans hkept'⟩

omit [Clock ε Int] in
/-- Runs that begin with the machine not held still and the debugger without breakpoints begin
abreast. -/
lemma abreast_started (hunpaused : s.1.isPaused = false) (hfree : s.2.1.breakpoints = []) :
    Abreast (Rig.begun s) (started s) where
  same := by
    unfold started
    rw [if_neg (Bool.eq_false_iff.1 hunpaused)]
    exact ⟨rfl, rfl, rfl, rfl⟩
  free := hfree
  unpaused := hunpaused
  goesOn := rfl
  running := rfl
  unhit := rfl

/-- **Two ways to drive a machine, one outcome.**  Let a machine not be held still, and its debugger
have no breakpoints.  Let whatever else surrounds them take no notice of logs, tones and marks, and
set none.  Then a run of the machine and a run of the debugger with the same limit fail alike or
succeed alike, and what they leave is the same, the world with its clock included, but for log, tone
and marks.  Each run clears the marks of its own, of which the last hit is one, and leaves those of
the other as they were. -/
theorem runs_alike (he : env.Impartial) (hr : env.Restful) (patience rounds : ℕ)
    (limit : Option ℤ) (hunpaused : s.1.isPaused = false) (hfree : s.2.1.breakpoints = []) :
    let r := Rig.run (watching env) patience rounds limit s
    let r' := run (watching env) patience rounds limit s
    r'.1 = r.1.map (fun _ => none) ∧ SameButMarks r.2 r'.2 ∧
      marks r.2 = (false, false, s.2.1.running, s.2.1.hit) ∧
      marks r'.2 = (s.1.pace.running, s.1.pace.stopRequested, false, none) := by
  intro r r'
  have hend := (abreast_started hunpaused hfree).runFrom he hr patience limit rounds 0
  rcases hrun : Rig.runFrom (watching env) patience limit rounds 0 (Rig.begun s) with ⟨result, t⟩
  rcases hrun' : runFrom (watching env) patience limit rounds 0 (started s) with ⟨result', t'⟩
  rw [hrun, hrun'] at hend
  obtain ⟨hresult, hsame, hstands, hstands'⟩ := hend
  have hr : r = (result, Rig.finishRun result t.1, t.2) := Rig.run_eq_of_runFrom hrun
  have hr' : r' = (result'.map fun _ => t'.2.1.hit.map Prod.fst, t'.1, t'.2.1.stop, t'.2.2) :=
    run_eq_of_runFrom hrun'
  have hmachine := Rig.finishRun_hushed result t.1
  have hpace := Rig.finishRun_pace result t.1
  have hunhit : t'.2.1.hit = none := congrArg (fun p => p.1.2.2.2) hstands'
  have hstarted : marks (started s) = (s.1.pace.running, s.1.pace.stopRequested, true, none) := by
    unfold started
    rw [if_neg (Bool.eq_false_iff.1 hunpaused)]
    rfl
  rw [hr, hr']
  refine ⟨?_, ⟨?_, ?_, ?_, ?_⟩, ?_, ?_⟩
  · obtain rfl : result' = result.map fun _ => () := hresult
    rw [hunhit]
    cases result with
    | error e => rfl
    | ok n => rfl
  · exact hmachine.trans hsame.machine
  · show (Rig.finishRun result t.1).pace.unmarked = _
    rw [hpace]
    exact hsame.pace
  · exact hsame.debugger
  · exact hsame.world
  · have hmarks : marks t = (true, false, s.2.1.running, s.2.1.hit) := congrArg Prod.fst hstands
    show ((Rig.finishRun result t.1).pace.running, (Rig.finishRun result t.1).pace.stopRequested,
      t.2.1.running, t.2.1.hit) = _
    rw [hpace]
    exact congrArg (false, ·.2) hmarks
  · have hmarks : marks t' = _ := (congrArg Prod.fst hstands').trans hstarted
    exact congrArg (fun p => (p.1, p.2.1, false, p.2.2.2)) hmarks

theorem runs_alike_counting :
    let s : Rig × Debugger × SteadyClock ℤ := (⟨.counting, .brisk⟩, fresh .counting, ⟨0, 1⟩)
    let r := Rig.run (watching (.still _)) 8 5 (some 3) s
    let r' := run (watching (.still _)) 8 5 (some 3) s
    r.1 = .ok 3 ∧ r'.1 = .ok none ∧ SameButMarks r.2 r'.2 ∧
      marks r.2 = (false, false, false, none) ∧ marks r'.2 = (false, false, false, none) := by
  intro s r r'
  have hunpaused : s.1.isPaused = false := rfl
  have hfree : s.2.1.breakpoints = [] := rfl
  have hthree : r.1 = .ok 3 := by decide +kernel
  obtain ⟨hresult, hsame, hmarks, hmarks'⟩ :=
    runs_alike (Surroundings.still_impartial _) (Surroundings.still_restful _) 8 5 (some 3)
      hunpaused hfree
  exact ⟨hthree, hresult.trans (congrArg _ hthree), hsame, hmarks, hmarks'⟩

/-- A breakpoint was hit, it is removed, and the machine goes on: a run of the machine keeps what it
hit, a run of the debugger does not. -/
theorem runs_alike_but_hit :
    let hit := run (watching (.still (Debugger × SteadyClock ℤ))) 8 5 (some 4) (⟨.counting, .brisk⟩,
      (fresh .counting).addBreakpoint atChange, ⟨0, 1⟩)
    let s := (hit.2.1.resume, hit.2.2.1.removeBreakpoint atChange, hit.2.2.2)
    s.1.isPaused = false ∧ s.2.1.breakpoints = [] ∧
      (Rig.run (watching (.still _)) 8 5 (some 1) s).1 = .ok 1 ∧
      (Rig.run (watching (.still _)) 8 5 (some 1) s).2.2.1.hit.map Prod.fst = some atChange ∧
      (run (watching (.still _)) 8 5 (some 1) s).2.2.1.hit = none := by
  decide +kernel

end Debugger

end Chip8
