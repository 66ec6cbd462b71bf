import Chip8.Proofs.Silence
import Mathlib.Algebra.Ring.Int.Defs

/-!
# Where the time goes

Both timers get the time of every cycle that lasts its interval, from the moment at which the cycle
before it ended.  A cycle that fails takes no time: the next one is measured from where it was
measured from.  To let the machine go on, to discard the clock, to begin a run and to make a single
step under a debugger forgets the last moment, and then the next cycle is measured from its own
first reading of the clock.

Every driver of a machine is read as a sequence of such entries, attempts at a cycle and discards
(`Entry`).  `Kept` says that each attempt is measured from where the one before it has left off; all
that is done to a machine keeps it, and the sum of the times between two discards telescopes.
-/

namespace Chip8

/-- What is given time: the two timers, and the tone that one of them drives. -/
def Machine.clockwork (m : Machine) : Timer × Timer × Tone :=
  (m.registers.dt, m.registers.st, m.tone)

namespace Rig

variable {ε : Type}

/-- What time is measured from, and what it is given to. -/
def timekeeping (s : Rig × ε) : Option ℤ × Timer × Timer × Tone :=
  (s.1.pace.base, s.1.machine.clockwork)

end Rig

/-- Surroundings that leave the timers alone, and the time from which a cycle is measured. -/
structure Surroundings.Timely {ε : Type} (env : Surroundings ε) : Prop where
  sleep : ∀ seconds s, Rig.timekeeping (env.sleep seconds s).2 = Rig.timekeeping s
  onCycle : ∀ snapshot s, Rig.timekeeping (env.onCycle snapshot s).2 = Rig.timekeeping s

lemma Surroundings.still_timely (ε : Type) : (still ε).Timely := ⟨fun _ _ => rfl, fun _ _ => rfl⟩

/-- A debugger that listens may hold the machine still, and this leaves its time alone. -/
lemma Surroundings.Timely.watching {ε : Type} {env : Surroundings (Debugger × ε)}
    (henv : env.Timely) : (Debugger.watching env).Timely where
  sleep := henv.sleep
  onCycle snapshot s := by
    obtain ⟨rig, d, world⟩ := s
    have hobserve : (d.observe snapshot rig).1.pace = rig.pace ∧
        (d.observe snapshot rig).1.machine.clockwork = rig.machine.clockwork := by
      unfold Debugger.observe
      dsimp only
      split <;> exact ⟨rfl, rfl⟩
    exact (henv.onCycle _ _).trans (Prod.ext (congrArg Pace.base hobserve.1) hobserve.2)

namespace Rig

variable {ε : Type} [Clock ε Int] {env : Surroundings ε} {patience : ℕ} {s s' : Rig × ε}

/-! ### Waiting -/

/-- The clock is read until it has reached a time: some readings in vain, after each of which time
may pass in sleep, and the first that is not before the time. -/
inductive Waited (env : Surroundings ε) (target : Float) :
    Rig × ε → List ℤ → ℤ → Rig × ε → Prop where
  | reached {rig : Rig} {world : ε}
      (h : ¬ Quantity.whole (Clock.read world).1 < Quantity.real target) :
      Waited env target (rig, world) [] (Clock.read world).1 (rig, (Clock.read world).2)
  | vain {rig : Rig} {world : ε} {early : List ℤ} {finish : ℤ} {mid s' : Rig × ε}
      (h : Quantity.whole (Clock.read world).1 < Quantity.real target)
      (hpass : pass env target (Clock.read world).1 (rig, (Clock.read world).2) = (.ok (), mid))
      (hrest : Waited env target mid early finish s') :
      Waited env target (rig, world) ((Clock.read world).1 :: early) finish s'

/-- A wait succeeds exactly if the clock reaches the time before it was read in vain too often. -/
lemma waitUntil_ok_iff {target : Float} {finish : ℤ} :
    waitUntil env target patience s = (.ok finish, s') ↔
      ∃ early, early.length < patience ∧ Waited env target s early finish s' := by
  induction patience generalizing s with
  | zero =>
    constructor
    · exact fun h => absurd h nofun
    · rintro ⟨early, hlength, -⟩
      exact absurd hlength (Nat.not_lt_zero _)
  | succ patience ih =>
    obtain ⟨rig, world⟩ := s
    by_cases hearly : Quantity.whole (Clock.read world).1 < Quantity.real target
    · rcases hpass : pass env target (Clock.read world).1 (rig, (Clock.read world).2) with
        ⟨e | ⟨⟩, mid⟩
      · have hwait : waitUntil env target (patience + 1) (rig, world) = (.error e, mid) := by
          simp only [waitUntil, if_pos hearly, hpass]
        rw [hwait]
        constructor
        · exact fun h => absurd h nofun
        · rintro ⟨early, -, hw⟩
          cases hw with
          | reached h => exact absurd hearly h
          | vain _ hpass' _ => exact absurd (hpass.symm.trans hpass') nofun
      · have hwait : waitUntil env target (patience + 1) (rig, world) =
            waitUntil env target patience mid := by
          simp only [waitUntil, if_pos hearly, hpass]
        rw [hwait, ih]
        constructor
        · rintro ⟨early, hlength, hw⟩
          exact ⟨_ :: early, Nat.succ_lt_succ hlength, .vain hearly hpass hw⟩
        · rintro ⟨early, hlength, hw⟩
          cases hw with
          | reached h => exact absurd hearly h
          | vain _ hpass' hrest =>
            obtain ⟨-, rfl⟩ := Prod.mk.inj (hpass.symm.trans hpass')
            exact ⟨_, Nat.lt_of_succ_lt_succ hlength, hrest⟩
    · have hwait : waitUntil env target (patience + 1) (rig, world) =
          (.ok (Clock.read world).1, rig, (Clock.read world).2) := by
        simp only [waitUntil, if_neg hearly]
      rw [hwait]
      constructor
      · intro h
        obtain ⟨rfl, rfl⟩ : (Clock.read world).1 = finish ∧ (rig, (Clock.read world).2) = s' := by
          simpa using h
        exact ⟨[], Nat.succ_pos _, .reached hearly⟩
      · rintro ⟨early, -, hw⟩
        cases hw with
        | reached => rfl
        | vain h _ _ => exact absurd h hearly

/-! ### One cycle -/

/-- An attempt at a cycle, as far as time is concerned. -/
structure Attempt where
  /-- The time from which it is measured; `none` if its first reading decides. -/
  base : Option ℤ
  /-- What the clock shows next when it begins. -/
  now : ℤ
  /-- When it ended, if it lasted its interval and the timers got their time. -/
  finish : Option ℤ
deriving DecidableEq, Repr

namespace Attempt

/-- Where an attempt starts. -/
def start (a : Attempt) : ℤ := a.base.getD a.now

/-- The time from which the next attempt is measured. -/
def leaves (a : Attempt) : ℤ := a.finish.getD a.start

/-- The time that each of the timers gets. -/
def given (a : Attempt) : ℤ := a.leaves - a.start

/-- The machine once the timers got their time, the delay timer first. -/
def credit (a : Attempt) (m : Machine) : Machine :=
  if a.finish.isSome then (m.passDelay (.whole a.given)).passSound (.whole a.given) else m

end Attempt

/-- When a cycle ends, if it lasts its interval and the timers can take the time. -/
def finish? (env : Surroundings ε) (patience : ℕ) (s : Rig × ε) : Option ℤ :=
  let (start, begun) := begin s
  match Rig.attempt env begun with
  | (.error _, _) => none
  | (.ok _, rig) =>
    match await env patience start (rig, begun.2) with
    | (.error _, _) => none
    | (.ok finish, s') =>
      if s'.1.machine.canTick (.whole (finish - start)) then some finish else none

/-- The attempt that a cycle is. -/
def attempted (env : Surroundings ε) (patience : ℕ) (s : Rig × ε) : Attempt where
  base := s.1.pace.base
  now := (Clock.read s.2).1
  finish := finish? env patience s

/-- A cycle gives the timers the time of an attempt, and leaves off where the attempt does. -/
structure CycleTimed (env : Surroundings ε) (patience : ℕ) (s : Rig × ε) (a : Attempt) : Prop where
  /-- The next cycle is measured from where this one leaves off. -/
  base_eq : (cycle env patience s).2.1.pace.base = some a.leaves
  /-- After the instruction the timers get the time of the attempt, once, and no other time. -/
  clockwork_eq : (cycle env patience s).2.1.machine.clockwork =
    (a.credit (Rig.attempt env (begin s).2).2.machine).clockwork
  /-- A cycle that succeeds lasts its interval. -/
  finished : ∀ snapshot, (cycle env patience s).1 = .ok snapshot → a.finish.isSome
  /-- It lasts its interval if the instruction is executed, and the clock reaches the end of the
  interval before it was read in vain too often; its end is the reading that reaches it. -/
  finish_eq_iff : ∀ finish, a.finish = some finish ↔
    ∃ snapshot rig early s', Rig.attempt env (begin s).2 = (.ok snapshot, rig) ∧
      (Quantity.whole a.start).isBeyondDouble = false ∧ early.length < patience ∧
      Waited env (Binary64.ofInt a.start + s.1.pace.target) (rig, (begin s).2.2) early finish s' ∧
      s'.1.machine.canTick (.whole (finish - a.start)) = true

lemma begin_start (env : Surroundings ε) (patience : ℕ) (s : Rig × ε) :
    (begin s).1 = (attempted env patience s).start := by
  obtain ⟨rig, world⟩ := s
  unfold begin attempted Attempt.start
  dsimp only
  rcases rig.pace.base with _ | start <;> rfl

lemma begin_pace (s : Rig × ε) :
    (begin s).2.1.pace = { s.1.pace with base := some (begin s).1 } := by
  obtain ⟨⟨m, target, pollInterval, busyWait, running, stopRequested, base, cycles⟩, world⟩ := s
  cases base <;> rfl

/-- What becomes of a cycle after its instruction was executed. -/
lemma await_ok_iff {start finish : ℤ} :
    await env patience start s = (.ok finish, s') ↔
      (Quantity.whole start).isBeyondDouble = false ∧ ∃ early, early.length < patience ∧
        Waited env (Binary64.ofInt start + s.1.pace.target) s early finish s' := by
  unfold await
  by_cases hbeyond : (Quantity.whole start).isBeyondDouble = true
  · rw [if_pos hbeyond]
    constructor
    · exact fun h => absurd h nofun
    · exact fun h => absurd (hbeyond.symm.trans h.1) nofun
  · rw [if_neg hbeyond, waitUntil_ok_iff]
    exact (and_iff_right (Bool.eq_false_iff.2 hbeyond)).symm

lemma finish?_eq_some_iff {finish : ℤ} :
    finish? env patience s = some finish ↔
      ∃ snapshot rig s', Rig.attempt env (begin s).2 = (.ok snapshot, rig) ∧
        await env patience (begin s).1 (rig, (begin s).2.2) = (.ok finish, s') ∧
        s'.1.machine.canTick (.whole (finish - (begin s).1)) = true := by
  unfold finish?
  dsimp only
  constructor
  · intro h
    split at h
    · exact absurd h nofun
    · rename_i snapshot rig ha
      split at h
      · exact absurd h nofun
      · rename_i hw
        split at h
        · rename_i hcan
          obtain rfl := Option.some.inj h
          exact ⟨_, _, _, ha, hw, hcan⟩
        · exact absurd h nofun
  · rintro ⟨snapshot, rig, s', ha, hw, hcan⟩
    rw [ha]
    dsimp only
    rw [hw]
    exact if_pos hcan

/-- The pace once an instruction was attempted. -/
lemma pace_of_attempt (patience : ℕ) {r : Except Failure Snapshot} {rig : Rig}
    (ha : Rig.attempt env (begin s).2 = (r, rig)) :
    rig.pace = { s.1.pace with base := some (attempted env patience s).start } := by
  have hpace := attempt_pace env (begin s).2
  rw [ha, begin_pace, begin_start env patience] at hpace
  exact hpace

lemma attempted_finish_iff {finish : ℤ} :
    (attempted env patience s).finish = some finish ↔
    ∃ snapshot rig early s', Rig.attempt env (begin s).2 = (.ok snapshot, rig) ∧
      (Quantity.whole (attempted env patience s).start).isBeyondDouble = false ∧
      early.length < patience ∧
      Waited env (Binary64.ofInt (attempted env patience s).start + s.1.pace.target)
        (rig, (begin s).2.2) early finish s' ∧
      s'.1.machine.canTick (.whole (finish - (attempted env patience s).start)) = true := by
  refine finish?_eq_some_iff.trans ?_
  rw [begin_start env patience]
  simp only [await_ok_iff]
  constructor
  · rintro ⟨snapshot, rig, s', ha, ⟨hbeyond, early, hlength, hw⟩, hcan⟩
    rw [pace_of_attempt patience ha] at hw
    exact ⟨snapshot, rig, early, s', ha, hbeyond, hlength, hw, hcan⟩
  · rintro ⟨snapshot, rig, early, s', ha, hbeyond, hlength, hw, hcan⟩
    refine ⟨snapshot, rig, s', ha, ⟨hbeyond, early, hlength, ?_⟩, hcan⟩
    rw [pace_of_attempt patience ha]
    exact hw

/-- The timers go on from what they are, whatever else there is of the machine. -/
lemma clockwork_tick {m m' : Machine} (h : m.clockwork = m'.clockwork) (elapsed : Quantity) :
    (m.tick elapsed).clockwork = (m'.tick elapsed).clockwork := by
  have htick : ∀ m : Machine, (m.tick elapsed).clockwork =
      ((m.clockwork.1.update ⟨[], []⟩ elapsed ()).1,
        m.clockwork.2.1.update Tone.listeners elapsed m.clockwork.2.2) := fun _ => rfl
  rw [htick, htick, h]

/-- A cycle that does not last its interval leaves the timers as its instruction left them. -/
lemma cycleTimed_short (hnone : finish? env patience s = none)
    (hkept : timekeeping (cycle env patience s).2 =
      (some (attempted env patience s).start, (Rig.attempt env (begin s).2).2.machine.clockwork))
    (hfails : ∀ snapshot, (cycle env patience s).1 ≠ .ok snapshot) :
    CycleTimed env patience s (attempted env patience s) := by
  have hfinish : (attempted env patience s).finish = none := hnone
  obtain ⟨hbase, hclockwork⟩ := Prod.mk.inj hkept
  refine ⟨?_, ?_, fun snapshot h => absurd h (hfails snapshot), fun _ => attempted_finish_iff⟩
  · rw [hbase, Attempt.leaves, hfinish]
    rfl
  · rw [hclockwork, Attempt.credit, hfinish]
    rfl

/-- A cycle that lasts its interval gives the timers the time since its start. -/
lemma cycleTimed_full {finish : ℤ} (hsome : finish? env patience s = some finish)
    (hkept : timekeeping (cycle env patience s).2 = (some finish,
      ((Rig.attempt env (begin s).2).2.machine.tick (.whole (finish - (begin s).1))).clockwork)) :
    CycleTimed env patience s (attempted env patience s) := by
  have hfinish : (attempted env patience s).finish = some finish := hsome
  obtain ⟨hbase, hclockwork⟩ := Prod.mk.inj hkept
  refine ⟨?_, ?_, fun _ _ => Option.isSome_iff_exists.2 ⟨_, hfinish⟩, fun _ => attempted_finish_iff⟩
  · rw [hbase, Attempt.leaves, hfinish]
    rfl
  · rw [hclockwork, begin_start env patience, Attempt.credit, Attempt.given, Attempt.leaves,
      hfinish]
    rfl

/-- **A cycle gives its time once.** -/
lemma cycle_timed (henv : env.Timely) (patience : ℕ) (s : Rig × ε) :
    CycleTimed env patience s (attempted env patience s) := by
  have hattempt : ∀ {r rig}, Rig.attempt env (begin s).2 = (r, rig) →
      rig.pace.base = some (attempted env patience s).start :=
    fun hr => congrArg Pace.base (pace_of_attempt patience hr)
  have hwaited : ∀ {r : Except Halt ℤ} {rig s'},
      await env patience (begin s).1 (rig, (begin s).2.2) = (r, s') →
      timekeeping s' = (rig.pace.base, rig.machine.clockwork) := by
    intro r rig s' hw
    have hkept := await_keeps timekeeping (fun _ _ => rfl) henv.sleep patience (begin s).1
      (rig, (begin s).2.2)
    rw [hw] at hkept
    exact hkept
  have hc := cycle_ending env patience s
  generalize ho : cycle env patience s = o at hc
  cases hc with
  | @failed e rig ha =>
    have hnone : finish? env patience s = none := by
      simp only [finish?, ha]
    refine cycleTimed_short hnone ?_ ?_
    · rw [ho, ha]
      exact Prod.ext (hattempt ha) rfl
    · rw [ho]
      exact fun _ => nofun
  | @stranded snapshot rig halt s' ha hw =>
    have hnone : finish? env patience s = none := by
      simp only [finish?, ha, hw]
    refine cycleTimed_short hnone ?_ ?_
    · rw [ho, hwaited hw, ha, hattempt ha]
    · rw [ho]
      exact fun _ => nofun
  | @reached snapshot rig finish s' ha hw =>
    obtain ⟨hbase, hclockwork⟩ := Prod.mk.inj (hwaited hw)
    obtain ⟨waited, world⟩ := s'
    by_cases hcan : waited.machine.canTick (.whole (finish - (begin s).1)) = true
    · have hsome : finish? env patience s = some finish := by
        simp only [finish?, ha, hw, if_pos hcan]
      have htold := henv.onCycle snapshot (waited.settle (begin s).1 finish, world)
      refine cycleTimed_full hsome ?_
      have hcycle : (cycle env patience s).2 =
          (env.onCycle snapshot (waited.settle (begin s).1 finish, world)).2 := by
        rw [ho, finishCycle, if_pos hcan]
      rw [hcycle, htold, ha]
      exact Prod.ext rfl (clockwork_tick hclockwork _)
    · have hnone : finish? env patience s = none := by
        simp only [finish?, ha, hw, if_neg hcan]
      have hcycle : cycle env patience s = (.error (.unfit .beyondDouble), waited, world) := by
        rw [ho, finishCycle, if_neg hcan]
      refine cycleTimed_short hnone ?_ ?_
      · rw [hcycle, ha, ← hattempt ha]
        exact hwaited hw
      · rw [hcycle]
        exact fun _ => nofun

/-! ### Many cycles -/

/-- What happens to the time from which the next cycle is measured. -/
inductive Entry where
  /-- It is forgotten. -/
  | discard
  /-- A cycle is attempted. -/
  | attempt (a : Attempt)
deriving DecidableEq, Repr

/-- Entries of which every attempt is measured from where the one before it has left off, unless
that was discarded.  They begin with the first of the two times and end with the other. -/
inductive Kept : Option ℤ → List Entry → Option ℤ → Prop where
  | nil (base : Option ℤ) : Kept base [] base
  | discard {base base' : Option ℤ} {rest : List Entry} (h : Kept none rest base') :
      Kept base (.discard :: rest) base'
  | attempt {a : Attempt} {base' : Option ℤ} {rest : List Entry}
      (h : Kept (some a.leaves) rest base') : Kept a.base (.attempt a :: rest) base'

namespace Kept

variable {base base' : Option ℤ}

lemma append_iff {first second : List Entry} :
    Kept base (first ++ second) base' ↔ ∃ mid, Kept base first mid ∧ Kept mid second base' := by
  induction first generalizing base with
  | nil =>
    constructor
    · exact fun h => ⟨base, .nil base, h⟩
    · rintro ⟨mid, hfirst, hsecond⟩
      cases hfirst
      exact hsecond
  | cons e rest ih =>
    constructor
    · intro h
      cases h with
      | discard h =>
        obtain ⟨mid, hrest, hsecond⟩ := ih.1 h
        exact ⟨mid, .discard hrest, hsecond⟩
      | attempt h =>
        obtain ⟨mid, hrest, hsecond⟩ := ih.1 h
        exact ⟨mid, .attempt hrest, hsecond⟩
    · rintro ⟨mid, hfirst, hsecond⟩
      cases hfirst with
      | discard h => exact .discard (ih.2 ⟨mid, h, hsecond⟩)
      | attempt h => exact .attempt (ih.2 ⟨mid, h, hsecond⟩)

lemma append {mid : Option ℤ} {first second : List Entry} (hfirst : Kept base first mid)
    (hsecond : Kept mid second base') : Kept base (first ++ second) base' :=
  append_iff.2 ⟨mid, hfirst, hsecond⟩

lemma attempt_iff {a : Attempt} {rest : List Entry} :
    Kept base (.attempt a :: rest) base' ↔ a.base = base ∧ Kept (some a.leaves) rest base' := by
  constructor
  · intro h
    cases h with
    | attempt h => exact ⟨rfl, h⟩
  · rintro ⟨rfl, h⟩
    exact .attempt h

/-- Where an attempt starts depends on whether the time before it was discarded. -/
lemma start_eq {n : ℕ} {b : Attempt} {later : List Entry}
    (h : Kept base (List.replicate n .discard ++ .attempt b :: later) base') :
    b.start = if n = 0 then base.getD b.now else b.now := by
  induction n generalizing base with
  | zero =>
    cases h
    rfl
  | succ n ih =>
    cases h with
    | discard h =>
      rw [if_neg (Nat.succ_ne_zero n), ih h]
      split <;> rfl

/-- While nothing is discarded, the times that are given add up. -/
lemma sum_given {start : ℤ} {attempts : List Attempt}
    (h : Kept (some start) (attempts.map .attempt) base') :
    start + (attempts.map Attempt.given).sum =
      (attempts.filterMap Attempt.finish).getLast?.getD start := by
  induction attempts generalizing start with
  | nil => simp
  | cons a rest ih =>
    obtain ⟨hbase, hrest⟩ := attempt_iff.1 h
    have hstart : a.start = start := by
      rw [Attempt.start, hbase]
      rfl
    have hleaves : a.leaves = a.finish.getD start := by
      rw [Attempt.leaves, hstart]
    have hsum := ih hrest
    calc start + ((a :: rest).map Attempt.given).sum
        = a.leaves + (rest.map Attempt.given).sum := by
          rw [List.map_cons, List.sum_cons, Attempt.given, hstart]
          omega
      _ = (rest.filterMap Attempt.finish).getLast?.getD a.leaves := hsum
      _ = ((a :: rest).filterMap Attempt.finish).getLast?.getD start := by
          rcases hfinish : a.finish with _ | finish
          · rw [List.filterMap_cons_none hfinish, hleaves, hfinish]
            rfl
          · rw [List.filterMap_cons_some hfinish, List.getLast?_cons, hleaves, hfinish]
            rfl

/-- The times given over a stretch without a discard add up to the last end, less the first start.
-/
lemma sum_stretch {first : Attempt} {rest : List Attempt}
    (h : Kept base ((first :: rest).map .attempt) base') :
    ((first :: rest).map Attempt.given).sum =
      ((first :: rest).filterMap Attempt.finish).getLast?.getD first.start - first.start := by
  -- where the first attempt starts decides, not why it starts there
  have hfirst : Kept (some first.start)
      (({ first with base := some first.start } :: rest).map .attempt) base' :=
    attempt_iff.2 ⟨rfl, (attempt_iff.1 h).2⟩
  have hsum := sum_given hfirst
  exact eq_sub_of_add_eq' hsum

end Kept

lemma cycle_kept (henv : env.Timely) (patience : ℕ) (s : Rig × ε) :
    Kept s.1.pace.base [.attempt (attempted env patience s)]
      (cycle env patience s).2.1.pace.base := by
  rw [(cycle_timed henv patience s).base_eq]
  exact Kept.attempt_iff.2 ⟨rfl, .nil _⟩

/-- The entries of the rounds of a run. -/
def roundEntries (env : Surroundings ε) (patience : ℕ) (limit : Option ℤ) :
    (rounds executed : ℕ) → Rig × ε → List Entry
  | 0, _, _ => []
  | rounds + 1, executed, s =>
    if s.1.pace.stopRequested || limitReached limit executed then []
    else if s.1.isPaused then
      .discard :: match nap env s with
        | (.ok _, s) => roundEntries env patience limit rounds executed s
        | (.error _, _) => []
    else
      .attempt (attempted env patience s) :: match cycle env patience s with
        | (.ok _, s) => roundEntries env patience limit rounds (executed + 1) s
        | (.error _, _) => []

omit [Clock ε Int] in
lemma nap_base (henv : env.Timely) (s : Rig × ε) : (nap env s).2.1.pace.base = none := by
  unfold nap
  split
  · exact congrArg Prod.fst (henv.sleep _ _)
  · rfl

lemma runFrom_kept (henv : env.Timely) (patience : ℕ) (limit : Option ℤ) (rounds executed : ℕ)
    (s : Rig × ε) :
    Kept s.1.pace.base (roundEntries env patience limit rounds executed s)
      (runFrom env patience limit rounds executed s).2.1.pace.base := by
  induction rounds generalizing executed s with
  | zero => exact .nil _
  | succ rounds ih =>
    obtain ⟨rig, world⟩ := s
    have hnap := nap_base henv (rig, world)
    unfold roundEntries runFrom
    dsimp only
    split
    · exact .nil _
    · split
      · refine .discard ?_
        rw [← hnap]
        rcases nap env (rig, world) with ⟨e | _, s'⟩
        · exact .nil _
        · exact ih _ _
      · refine Kept.attempt_iff.2 ⟨rfl, ?_⟩
        rw [← (cycle_timed henv patience (rig, world)).base_eq]
        rcases cycle env patience (rig, world) with ⟨e | _, s'⟩
        · exact .nil _
        · exact ih _ _

/-- A run discards the time first. -/
lemma run_kept (henv : env.Timely) (patience rounds : ℕ) (limit : Option ℤ) (s : Rig × ε) :
    Kept s.1.pace.base
      (.discard :: roundEntries env patience limit rounds 0 (begun s))
      (run env patience rounds limit s).2.1.pace.base := by
  have hrounds := runFrom_kept henv patience limit rounds 0 (begun s)
  rcases hend : runFrom env patience limit rounds 0 (begun s) with ⟨result, s'⟩
  rw [hend] at hrounds
  rw [run_eq_of_runFrom hend, finishRun_pace]
  exact .discard hrounds

end Rig

open Rig (Attempt Entry Kept)

namespace Debugger

variable {ε : Type} [Clock ε Int] {env : Surroundings (Debugger × ε)}

/-- The entries of a step under the debugger. -/
def stepEntries (env : Surroundings (Debugger × ε)) (patience : ℕ) (s : Rig × Debugger × ε) :
    List Entry :=
  (if s.2.1.running then [] else [.discard]) ++ [.attempt (Rig.attempted env patience (timed s))]

lemma step_kept (henv : env.Timely) (patience : ℕ) (s : Rig × Debugger × ε) :
    Kept s.1.pace.base (stepEntries env patience s) (step env patience s).2.1.pace.base := by
  have hcycle := Rig.cycle_kept henv patience (timed s)
  refine .append ?_ hcycle
  unfold timed
  by_cases hrunning : s.2.1.running = true
  · rw [if_pos hrunning, if_pos hrunning]
    exact .nil _
  · rw [if_neg hrunning, if_neg hrunning]
    exact .discard (.nil _)

/-- The entries of the rounds of a run under the debugger. -/
def roundEntries (env : Surroundings (Debugger × ε)) (patience : ℕ) (limit : Option ℤ) :
    (rounds executed : ℕ) → Rig × Debugger × ε → List Entry
  | 0, _, _ => []
  | rounds + 1, executed, s =>
    if !s.2.1.running || Rig.limitReached limit executed then []
    else
      stepEntries env patience s ++ match step env patience s with
        | (.error _, _) => []
        | (.ok _, s) =>
          if s.2.1.hit.isSome || s.1.isPaused then []
          else roundEntries env patience limit rounds (executed + 1) s

lemma runFrom_kept (henv : env.Timely) (patience : ℕ) (limit : Option ℤ) (rounds executed : ℕ)
    (s : Rig × Debugger × ε) :
    Kept s.1.pace.base (roundEntries env patience limit rounds executed s)
      (runFrom env patience limit rounds executed s).2.1.pace.base := by
  induction rounds generalizing executed s with
  | zero => exact .nil _
  | succ rounds ih =>
    obtain ⟨rig, d, world⟩ := s
    have hstep := step_kept henv patience (rig, d, world)
    unfold roundEntries runFrom
    dsimp only
    split
    · exact .nil _
    · refine .append hstep ?_
      rcases step env patience (rig, d, world) with ⟨e | _, rig', d', world'⟩
      · exact .nil _
      · dsimp only
        split
        · exact .nil _
        · exact ih (executed + 1) (rig', d', world')

/-- A run under the debugger discards the time first. -/
lemma run_kept (henv : env.Timely) (patience rounds : ℕ) (limit : Option ℤ)
    (s : Rig × Debugger × ε) :
    Kept s.1.pace.base (.discard :: roundEntries env patience limit rounds 0 (started s))
      (run env patience rounds limit s).2.1.pace.base := by
  have hrounds := runFrom_kept henv patience limit rounds 0 (started s)
  exact .discard hrounds

end Debugger

/-! ### All that is done to a machine -/

/-- What is done to a machine at a pace that has a debugger. -/
inductive Deed (ε : Type) where
  /-- It makes a cycle. -/
  | cycle (patience : ℕ)
  /-- It makes a step under the debugger. -/
  | step (patience : ℕ)
  /-- It has a run. -/
  | run (patience rounds : ℕ) (limit : Option ℤ)
  /-- It has a run under the debugger. -/
  | watchedRun (patience rounds : ℕ) (limit : Option ℤ)
  /-- Its clock is discarded. -/
  | resetClock
  /-- It may go on. -/
  | resume
  /-- Anything else is done that has nothing to do with its clock, such as to hold it still, to load
  a program or to press a key. -/
  | other (act : Rig × Debugger × ε → Rig × Debugger × ε)
      (base_eq : ∀ s, (act s).1.pace.base = s.1.pace.base)

namespace Deed

variable {ε : Type} [Clock ε Int] (env : Surroundings (Debugger × ε))

/-- What a deed leads to. -/
def perform : Deed ε → Rig × Debugger × ε → Rig × Debugger × ε
  | cycle patience, s => (Rig.cycle env patience s).2
  | step patience, s => (Debugger.step env patience s).2
  | run patience rounds limit, s => (Rig.run env patience rounds limit s).2
  | watchedRun patience rounds limit, s => (Debugger.run env patience rounds limit s).2
  | resetClock, s => (s.1.resetClock, s.2)
  | resume, s => (s.1.resume, s.2)
  | other act _, s => act s

/-- What a deed does to the time from which the next cycle is measured. -/
def entries : Deed ε → Rig × Debugger × ε → List Entry
  | cycle patience, s => [.attempt (Rig.attempted env patience s)]
  | step patience, s => Debugger.stepEntries env patience s
  | run patience rounds limit, s =>
    .discard :: Rig.roundEntries env patience limit rounds 0 (Rig.begun s)
  | watchedRun patience rounds limit, s =>
    .discard :: Debugger.roundEntries env patience limit rounds 0 (Debugger.started s)
  | resetClock, _ => [.discard]
  | resume, _ => [.discard]
  | other _ _, _ => []

/-- What deeds do to that time, one after another. -/
def ledger : List (Deed ε) → Rig × Debugger × ε → List Entry
  | [], _ => []
  | deed :: rest, s => deed.entries env s ++ ledger rest (deed.perform env s)

variable {env}

/-- Every deed keeps the time. -/
lemma entries_kept (henv : env.Timely) (deed : Deed ε) (s : Rig × Debugger × ε) :
    Kept s.1.pace.base (deed.entries env s) (deed.perform env s).1.pace.base := by
  cases deed with
  | cycle patience => exact Rig.cycle_kept henv patience s
  | step patience => exact Debugger.step_kept henv patience s
  | run patience rounds limit => exact Rig.run_kept henv patience rounds limit s
  | watchedRun patience rounds limit => exact Debugger.run_kept henv patience rounds limit s
  | resetClock => exact .discard (.nil _)
  | resume => exact .discard (.nil _)
  | other act base_eq =>
    unfold perform
    rw [base_eq]
    exact .nil _

lemma ledger_kept (henv : env.Timely) (deeds : List (Deed ε)) (s : Rig × Debugger × ε) :
    ∃ base, Kept s.1.pace.base (ledger env deeds s) base := by
  induction deeds generalizing s with
  | nil => exact ⟨_, .nil _⟩
  | cons deed rest ih =>
    obtain ⟨base, hrest⟩ := ih (deed.perform env s)
    exact ⟨base, (entries_kept henv deed s).append hrest⟩

/-- **No time is lost, and none is counted twice.**  Let the surroundings leave the timers and the
clock of the machine alone, and let anything be done to it: cycles that succeed or fail, steps and
runs, under a debugger or not, its clock discarded, and the machine held still and let go on.  Every
cycle that lasts its interval gives the delay timer and then the sound timer, once and after its
instruction, the time from its start to its end, which is the first reading that has reached the end
of the interval; no other cycle gives them any.  A cycle starts where the one before it has ended,
or where that one started if it failed; but if a discard came between them, or if nothing came
before, it starts at its own first reading.  So over a stretch without a discard the times that are
given add up to the last end, less the first start. -/
theorem time_adds_up (henv : env.Timely) (deeds : List (Deed ε)) (s : Rig × Debugger × ε) :
    (∀ patience t, Rig.CycleTimed env patience t (Rig.attempted env patience t)) ∧
    (∀ n b later, ledger env deeds s = List.replicate n .discard ++ .attempt b :: later →
      b.start = if n = 0 then s.1.pace.base.getD b.now else b.now) ∧
    (∀ earlier a n b later, ledger env deeds s =
        earlier ++ .attempt a :: (List.replicate n .discard ++ .attempt b :: later) →
      b.start = if n = 0 then a.finish.getD a.start else b.now) ∧
    ∀ earlier first rest later, ledger env deeds s =
        earlier ++ (first :: rest).map .attempt ++ later →
      ((first :: rest).map Attempt.given).sum =
        ((first :: rest).filterMap Attempt.finish).getLast?.getD first.start - first.start := by
  obtain ⟨base, hkept⟩ := ledger_kept henv deeds s
  refine ⟨Rig.cycle_timed henv, fun n b later h => ?_, fun earlier a n b later h => ?_,
    fun earlier first rest later h => ?_⟩
  · rw [h] at hkept
    exact hkept.start_eq
  · rw [h] at hkept
    obtain ⟨_, -, ha⟩ := Kept.append_iff.1 hkept
    obtain ⟨-, hb⟩ := Kept.attempt_iff.1 ha
    exact hb.start_eq
  · rw [h] at hkept
    obtain ⟨_, hfirst, -⟩ := Kept.append_iff.1 hkept
    obtain ⟨_, -, hstretch⟩ := Kept.append_iff.1 hfirst
    exact hstretch.sum_stretch

end Deed

/-- A machine that stores a number and then faults, while its sound timer counts. -/
def Machine.faulting : Machine :=
  { Machine.holding [0x60, 0x05, 0xFF, 0xFF] (.whole 3) with
    registers := { Registers.initial 0x200 (.whole 3) with st := ⟨.whole 3, .whole 3, 5⟩ } }

theorem Deed.time_adds_up_faulting :
    let s : Rig × Debugger × SteadyClock ℤ := (⟨.faulting, .brisk⟩, .fresh .faulting, ⟨0, 2⟩)
    let again : Deed (SteadyClock ℤ) :=
      .other (fun s => (s.1.mapMachine (·.setPc 0x200), s.2)) fun _ => rfl
    let entries := ledger (Debugger.watching (.still _))
      [.cycle 8, .cycle 8, again, .cycle 8, .resume, .step 8] s
    let stretch : List Attempt := [⟨none, 2, some 6⟩, ⟨some 6, 8, none⟩, ⟨some 6, 8, some 10⟩]
    entries = stretch.map .attempt ++ [.discard, .discard, .attempt ⟨none, 12, none⟩] ∧
      (stretch.map Attempt.given).sum = 10 - 2 := by
  intro s again entries stretch
  have hentries :
      entries = stretch.map .attempt ++ [.discard, .discard, .attempt ⟨none, 12, none⟩] := by
    decide +kernel
  obtain ⟨-, -, -, hsum⟩ := time_adds_up (Surroundings.still_timely _).watching
    [.cycle 8, .cycle 8, again, .cycle 8, .resume, .step 8] s
  exact ⟨hentries, hsum [] _ _ _ hentries⟩

end Chip8
