import Chip8.Proofs.FirstHit
import Chip8.Proofs.Seen
import Mathlib.Data.ENat.Lattice
import Mathlib.Tactic.IntervalCases

/-!
# How long a run lasts

A run ends for three reasons: somebody has requested a stop, the limit is reached, or a cycle fails.
It looks for the first two before every cycle, so it lasts for as many cycles as come before the
first moment at which one of them is there.  `FirstAt` says of a row of successes when something
holds for the first time, and two such moments are joined by their minimum.  `RunEnding` lists how a
run that was asked for so many cycles can end, and the rounds follow the list.

What is told meanwhile is found out by somebody who writes it down (`Surroundings.noting`).  The
surroundings do not notice, so the run is the same, and in the end the list holds the cycles.

The main result is `Rig.run_as_long_as_asked`.
-/

namespace Chip8

/-! ### The first time -/

namespace Consecutive

variable {σ σ' α η : Type} {act : σ → Except η α × σ} {s s' : σ} {answers : List α}

/-- Where successes lead is known from their number. -/
lemma end_eq (h : Consecutive act s answers s') :
    s' = (fun s => (act s).2)^[answers.length] s := by
  induction h with
  | nil s => rfl
  | cons hact _ ih => rw [ih, List.length_cons, Function.iterate_succ_apply, hact]

/-- Successes are successes in what is seen of the states. -/
lemma map {act' : σ' → Except η α × σ'} (f : σ → σ')
    (hact : ∀ s, act' (f s) = (act s).map id f) (h : Consecutive act s answers s') :
    Consecutive act' (f s) answers (f s') := by
  induction h with
  | nil s => exact .nil (f s)
  | cons ha _ ih => exact .cons (by rw [hact, ha]; rfl) ih

/-- As long as steps succeed, `p` holds for the first time after `k` of them; `p` knows how many
have been made, and sees where they have led. -/
def FirstAt (act : σ → Except η α × σ) (p : ℕ → σ → Prop) (s : σ) (k : ℕ∞) : Prop :=
  ∀ answers s', Consecutive act s answers s' →
    ((answers.length : ℕ∞) < k → ¬ p answers.length s') ∧
      ((answers.length : ℕ∞) = k → p answers.length s')

/-- There is always a first time, if only after infinitely many. -/
lemma exists_firstAt (act : σ → Except η α × σ) (p : ℕ → σ → Prop) (s : σ) :
    ∃ k, FirstAt act p s k := by
  classical
  -- where steps lead is defined for every number of them, whether they succeed or not
  by_cases hever : ∃ n, p n ((fun s => (act s).2)^[n] s)
  · refine ⟨Nat.find hever, fun answers s' h => ?_⟩
    rw [h.end_eq]
    constructor
    · exact fun hlt => Nat.find_min hever (Nat.cast_lt.1 hlt)
    · intro heq
      rw [Nat.cast_inj.1 heq]
      exact Nat.find_spec hever
  · refine ⟨⊤, fun answers s' h => ?_⟩
    rw [h.end_eq]
    exact ⟨fun _ hp => hever ⟨_, hp⟩, fun htop => absurd htop (ENat.natCast_ne_top _)⟩

namespace FirstAt

variable {p q : ℕ → σ → Prop} {k l : ℕ∞}

lemma at_start (h : FirstAt act p s k) : p 0 s ↔ k = 0 := by
  obtain ⟨hbefore, hat⟩ := h [] s (.nil s)
  constructor
  · exact fun hp => by_contra fun hk => hbefore (pos_iff_ne_zero.2 hk) hp
  · exact fun hk => hat hk.symm

/-- One of two things holds for the first time when the earlier one does. -/
lemma or (hp : FirstAt act p s k) (hq : FirstAt act q s l) :
    FirstAt act (fun n s => p n s ∨ q n s) s (min k l) := by
  intro answers s' h
  obtain ⟨hpBefore, hpAt⟩ := hp answers s' h
  obtain ⟨hqBefore, hqAt⟩ := hq answers s' h
  constructor
  · intro hlt
    obtain ⟨hk, hl⟩ := lt_min_iff.1 hlt
    exact not_or.2 ⟨hpBefore hk, hqBefore hl⟩
  · intro heq
    rcases min_choice k l with hmin | hmin
    · exact .inl (hpAt (heq.trans hmin))
    · exact .inr (hqAt (heq.trans hmin))

/-- Behind one step, the first time is one step nearer. -/
lemma tail {a : α} (h : FirstAt act p s (k + 1)) (hact : act s = (.ok a, s')) :
    FirstAt act (fun n => p (n + 1)) s' k := by
  intro answers s'' hrest
  obtain ⟨hbefore, hat⟩ := h (a :: answers) s'' (.cons hact hrest)
  rw [List.length_cons, Nat.cast_succ] at hbefore hat
  constructor
  · exact fun hlt => hbefore ((ENat.add_lt_add_iff_right ENat.one_ne_top).2 hlt)
  · exact fun heq => hat (congrArg (· + 1) heq)

/-- What is seen of the states holds for the first time when it does of the states. -/
lemma comap {act' : σ' → Except η α × σ'} {p : ℕ → σ' → Prop} (f : σ → σ')
    (hact : ∀ s, act' (f s) = (act s).map id f) (h : FirstAt act' p (f s) k) :
    FirstAt act (fun n s => p n (f s)) s k :=
  fun answers s' hsteps => h answers (f s') (hsteps.map f hact)

end FirstAt

end Consecutive

open Consecutive (FirstAt)

/-! ### Whoever writes down what is told -/

/-- A world in which the cycles that are told are written down. -/
structure Noted (ε : Type) where
  /-- The cycles, in the order in which they were told. -/
  told : List Snapshot
  /-- The world without them. -/
  world : ε

section Noted

variable {ε : Type}

instance [Clock ε ℤ] : Clock (Noted ε) ℤ where
  read noted :=
    let (now, world) := Clock.read noted.world
    (now, { noted with world })

/-- The same surroundings, and every cycle that is told is written down. -/
def Surroundings.noting (env : Surroundings ε) : Surroundings (Noted ε) where
  obstacle s := env.obstacle (Rig.seen Noted.world s)
  sleep seconds s :=
    (env.sleep seconds (Rig.seen Noted.world s)).map id fun s' =>
      (s'.1, { s.2 with world := s'.2 })
  onCycle snapshot s :=
    (env.onCycle snapshot (Rig.seen Noted.world s)).map id fun s' =>
      (s'.1, { told := s.2.told ++ [snapshot], world := s'.2 })

variable [Clock ε ℤ]

lemma Surroundings.noting_seenAs (env : Surroundings ε) : env.noting.SeenAs env Noted.world where
  read _ := rfl
  obstacle _ := rfl
  sleep _ _ := rfl
  onCycle _ _ := rfl

end Noted

namespace Rig

variable {ε : Type}

/-- From one state to another, nobody has paused the machine and no cycle was counted. -/
structure GoesOn (s s' : Rig × ε) : Prop where
  unpaused : s.1.isPaused = false → s'.1.isPaused = false
  cycles : s'.1.pace.cycles = s.1.pace.cycles

lemma GoesOn.refl (s : Rig × ε) : GoesOn s s := ⟨id, rfl⟩

end Rig

/-- Surroundings that never pause a machine that is not paused and leave the count of the cycles
alone, and in which telling a cycle never fails. -/
structure Surroundings.Forbearing {ε : Type} (env : Surroundings ε) : Prop where
  sleep : ∀ seconds s, Rig.GoesOn s (env.sleep seconds s).2
  onCycle : ∀ snapshot s, Rig.GoesOn s (env.onCycle snapshot s).2
  heard : ∀ snapshot s, (env.onCycle snapshot s).1 = .ok ()

namespace Rig

variable {ε : Type} [Clock ε ℤ] {env : Surroundings ε} {patience : ℕ} {limit : Option ℤ}

/-! ### One cycle -/

/-- What leads from one state to another, if the machine is not paused: a cycle that succeeds is
counted and written down, and nothing else is. -/
structure Recorded (snapshot : Option Snapshot) (s s' : Rig × Noted ε) : Prop where
  unpaused : s.1.isPaused = false → s'.1.isPaused = false
  cycles : s'.1.pace.cycles = s.1.pace.cycles + snapshot.toList.length
  told : s'.2.told = s.2.told ++ snapshot.toList

namespace Recorded

variable {s s₁ s₂ s₃ : Rig × Noted ε}

omit [Clock ε ℤ] in
lemma of_goesOn (h : GoesOn s₁ s₂) (htold : s₂.2.told = s₁.2.told) : Recorded none s₁ s₂ :=
  ⟨h.unpaused, h.cycles, htold.trans (List.append_nil _).symm⟩

omit [Clock ε ℤ] in
lemma refl (s : Rig × Noted ε) : Recorded none s s := of_goesOn (.refl s) rfl

omit [Clock ε ℤ] in
lemma trans {snapshot : Option Snapshot} (h : Recorded none s₁ s₂)
    (h' : Recorded snapshot s₂ s₃) : Recorded snapshot s₁ s₃ where
  unpaused := h'.unpaused ∘ h.unpaused
  cycles := h'.cycles.trans (congrArg (· + _) h.cycles)
  told := h'.told.trans (congrArg (· ++ _) (h.told.trans (List.append_nil _)))

lemma begin (s : Rig × Noted ε) : Recorded none s (Rig.begin s).2 := by
  have hpaused := congrArg Machine.paused (begin_machine s)
  have htold : (Rig.begin s).2.2.told = s.2.told := by
    unfold Rig.begin
    dsimp only
    split <;> rfl
  exact of_goesOn ⟨fun h => hpaused.trans h, begin_cycles s⟩ htold

omit [Clock ε ℤ] in
lemma attempt (env : Surroundings (Noted ε)) (s : Rig × Noted ε) :
    Recorded none s ((Rig.attempt env s).2, s.2) :=
  of_goesOn ⟨fun h => (attempt_isPaused env s).trans h,
    congrArg Pace.cycles (attempt_pace env s)⟩ rfl

omit [Clock ε ℤ] in
lemma sleep (henv : env.Forbearing) (seconds : Float) (s : Rig × Noted ε) :
    Recorded none s (env.noting.sleep seconds s).2 :=
  have hslept := henv.sleep seconds (seen Noted.world s)
  of_goesOn ⟨hslept.unpaused, hslept.cycles⟩ rfl

lemma cycle (henv : env.Forbearing) (patience : ℕ) (s : Rig × Noted ε) :
    Recorded (Rig.cycle env.noting patience s).1.toOption s
      (Rig.cycle env.noting patience s).2 := by
  have htelling := cycle_telling refl trans (fun _ _ => of_goesOn ⟨id, rfl⟩ rfl) begin
    (attempt env.noting) (sleep henv) patience s
  generalize Rig.cycle env.noting patience s = o at htelling ⊢
  cases htelling with
  | untold h => exact h
  | @told snapshot start finish s' h =>
    have htold := henv.onCycle snapshot (s'.1.settle start finish, s'.2.world)
    have hheard : (env.noting.onCycle snapshot (s'.1.settle start finish, s'.2)).1 = .ok () :=
      henv.heard snapshot _
    rw [Prod.map_fst, hheard]
    exact h.trans ⟨htold.unpaused, htold.cycles, rfl⟩

/-- The cycles that succeed one after another are counted and written down in their order. -/
lemma cycles_told (henv : env.Forbearing) {completed : List Snapshot} {s s' : Rig × Noted ε}
    (h : Consecutive (Rig.cycle env.noting patience) s completed s') :
    s'.1.pace.cycles = s.1.pace.cycles + completed.length ∧
      s'.2.told = s.2.told ++ completed := by
  induction h with
  | nil s => exact ⟨rfl, (List.append_nil _).symm⟩
  | @cons s mid s' snapshot rest hcycle _ ih =>
    have hrecorded := cycle henv patience s
    rw [hcycle] at hrecorded
    refine ⟨?_, ?_⟩
    · rw [ih.1, hrecorded.cycles, List.length_cons, Nat.add_assoc, Nat.add_comm rest.length]
      rfl
    · rw [ih.2, hrecorded.told, List.append_assoc]
      rfl

end Recorded

/-! ### Rounds -/

/-- The endings of a run that was asked for so many cycles and has so many rounds. -/
inductive RunEnding (env : Surroundings ε) (patience : ℕ) (asked : ℕ∞) (rounds : ℕ) (s : Rig × ε) :
    List Snapshot → Except Halt ℕ → Rig × ε → Prop where
  /-- All cycles that were asked for were completed. -/
  | done {completed : List Snapshot} {s' : Rig × ε}
      (hcycles : Consecutive (cycle env patience) s completed s')
      (hasked : (completed.length : ℕ∞) = asked) (hrounds : completed.length < rounds) :
      RunEnding env patience asked rounds s completed (.ok completed.length) s'
  /-- Before that, a cycle failed. -/
  | failed {completed : List Snapshot} {mid s' : Rig × ε} {e : Halt}
      (hcycles : Consecutive (cycle env patience) s completed mid)
      (hfailed : cycle env patience mid = (.error e, s'))
      (hasked : (completed.length : ℕ∞) < asked) (hrounds : completed.length < rounds) :
      RunEnding env patience asked rounds s completed (.error e) s'
  /-- Before that was noticed, the rounds were over. -/
  | unfinished {completed : List Snapshot} {s' : Rig × ε}
      (hcycles : Consecutive (cycle env patience) s completed s')
      (hasked : (completed.length : ℕ∞) ≤ asked) (hrounds : completed.length = rounds) :
      RunEnding env patience asked rounds s completed (.error .unfinished) s'

namespace RunEnding

variable {asked : ℕ∞} {rounds : ℕ} {s mid s' : Rig × ε} {snapshot : Snapshot}
  {completed : List Snapshot} {result : Except Halt ℕ}

/-- One more cycle before all others. -/
lemma cons (hcycle : cycle env patience s = (.ok snapshot, mid))
    (h : RunEnding env patience asked rounds mid completed result s') :
    RunEnding env patience (asked + 1) (rounds + 1) s (snapshot :: completed)
      (result.map (· + 1)) s' := by
  have hlength : ((snapshot :: completed).length : ℕ∞) = completed.length + 1 := Nat.cast_succ _
  cases h with
  | done hcycles hasked hrounds =>
    exact .done (.cons hcycle hcycles) (hlength.trans (congrArg (· + 1) hasked))
      (Nat.succ_lt_succ hrounds)
  | failed hcycles hfailed hasked hrounds =>
    exact .failed (.cons hcycle hcycles) hfailed
      (hlength ▸ (ENat.add_lt_add_iff_right ENat.one_ne_top).2 hasked) (Nat.succ_lt_succ hrounds)
  | unfinished hcycles hasked hrounds =>
    exact .unfinished (.cons hcycle hcycles) (hlength ▸ add_le_add_left hasked 1)
      (congrArg (· + 1) hrounds)

/-- The cycles that were completed are counted, and whoever writes them down has written down
these. -/
lemma told (henv : env.Forbearing) {s s' : Rig × Noted ε}
    (h : RunEnding env.noting patience asked rounds s completed result s') :
    s'.1.pace.cycles = s.1.pace.cycles + completed.length ∧
      s'.2.told = s.2.told ++ completed := by
  cases h with
  | done hcycles | unfinished hcycles => exact Recorded.cycles_told henv hcycles
  | @failed mid _ e hcycles hfailed =>
    obtain ⟨hcount, htold⟩ := Recorded.cycles_told henv hcycles
    have hrecorded := Recorded.cycle henv patience mid
    rw [hfailed] at hrecorded
    exact ⟨hrecorded.cycles.trans hcount,
      hrecorded.told.trans ((List.append_nil _).trans htold)⟩

/-- Without the list, the run ends likewise. -/
lemma forget {s s' : Rig × Noted ε}
    (h : RunEnding env.noting patience asked rounds s completed result s') :
    RunEnding env patience asked rounds (seen Noted.world s) completed result
      (seen Noted.world s') := by
  have hseen := cycle_seen env.noting_seenAs patience
  cases h with
  | done hcycles hasked hrounds => exact .done (hcycles.map _ hseen) hasked hrounds
  | failed hcycles hfailed hasked hrounds =>
    exact .failed (hcycles.map _ hseen) (by rw [hseen, hfailed]; rfl) hasked hrounds
  | unfinished hcycles hasked hrounds => exact .unfinished (hcycles.map _ hseen) hasked hrounds

end RunEnding

/-- Whether a run ends before its next cycle, so many having been executed. -/
def IsOver (limit : Option ℤ) (executed : ℕ) (s : Rig × ε) : Prop :=
  s.1.pace.stopRequested = true ∨ limitReached limit executed = true

/-- A round that is not the last makes a cycle, if the machine is not paused. -/
lemma runFrom_succ {executed : ℕ} {s : Rig × ε} (hunpaused : s.1.isPaused = false)
    (hover : ¬ IsOver limit executed s) (rounds : ℕ) :
    runFrom env patience limit (rounds + 1) executed s =
      match cycle env patience s with
      | (.ok _, s') => runFrom env patience limit rounds (executed + 1) s'
      | (.error e, s') => (.error e, s') := by
  obtain ⟨rig, world⟩ := s
  have hgoes : ¬ (rig.pace.stopRequested || limitReached limit executed) = true := fun h =>
    hover (Bool.or_eq_true_iff.1 h)
  have hawake : ¬ rig.isPaused = true := Bool.eq_false_iff.1 hunpaused
  exact (if_neg hgoes).trans (if_neg hawake)

/-- How many cycles are made at most within a limit. -/
def allowance (limit : Option ℤ) : ℕ∞ := limit.elim ⊤ fun n => (n.toNat : ℕ∞)

/-- The limit is reached for the first time when so many cycles are made. -/
lemma firstAt_limitReached (limit : Option ℤ) (s : Rig × ε) :
    FirstAt (cycle env patience) (fun n _ => limitReached limit n = true) s (allowance limit) := by
  unfold allowance
  intro completed s' _
  cases limit with
  | none => exact ⟨fun _ => Bool.false_ne_true, fun htop => absurd htop (ENat.natCast_ne_top _)⟩
  | some n =>
    have hreached : limitReached (some n) completed.length = true ↔ n.toNat ≤ completed.length := by
      rw [Int.toNat_le]
      exact decide_eq_true_iff
    dsimp only
    rw [hreached, Option.elim_some, Nat.cast_lt, Nat.cast_inj]
    exact ⟨Nat.not_le_of_lt, fun h => h.ge⟩

/-- The rounds of a run of a machine that is never paused. -/
lemma runFrom_ending (henv : env.Forbearing) (rounds : ℕ) {executed : ℕ} {asked : ℕ∞}
    {s : Rig × Noted ε} (hunpaused : s.1.isPaused = false)
    (hasked : FirstAt (cycle env.noting patience) (fun n => IsOver limit (executed + n)) s asked) :
    ∃ completed result s',
      RunEnding env.noting patience asked rounds s completed result s' ∧
      runFrom env.noting patience limit rounds executed s =
        (result.map (executed + ·), s') := by
  induction rounds generalizing executed asked s with
  | zero => exact ⟨[], .error .unfinished, s, .unfinished (.nil s) bot_le rfl, rfl⟩
  | succ rounds ih =>
    by_cases hover : IsOver limit executed s
    · have hzero := hasked.at_start.1 hover
      refine ⟨[], .ok 0, s, .done (.nil s) hzero.symm (Nat.succ_pos _), ?_⟩
      obtain ⟨rig, world⟩ := s
      rw [runFrom, if_pos (Bool.or_eq_true_iff.2 hover)]
      rfl
    · have hpos : asked ≠ 0 := fun hzero => hover (hasked.at_start.2 hzero)
      rw [runFrom_succ hunpaused hover]
      have hrecorded := Recorded.cycle henv patience s
      rcases hcycle : cycle env.noting patience s with ⟨e | snapshot, mid⟩
      · exact ⟨[], .error e, mid,
          .failed (.nil s) hcycle (pos_iff_ne_zero.2 hpos) (Nat.succ_pos _), rfl⟩
      · -- behind the cycle, one less is asked for
        rw [hcycle] at hrecorded
        obtain ⟨asked, rfl⟩ : ∃ less, asked = less + 1 :=
          ⟨asked - 1, (tsub_add_cancel_of_le (Order.one_le_iff_ne_zero.2 hpos)).symm⟩
        have hrest : FirstAt (cycle env.noting patience)
            (fun n => IsOver limit (executed + 1 + n)) mid asked := by
          simpa only [Nat.add_assoc, Nat.add_comm 1] using hasked.tail hcycle
        obtain ⟨completed, result, s', hending, hrounds⟩ :=
          ih (hrecorded.unpaused hunpaused) hrest
        refine ⟨snapshot :: completed, result.map (· + 1), s', hending.cons hcycle, ?_⟩
        dsimp only
        rw [hrounds]
        cases result with
        | error e => rfl
        | ok n => exact congrArg (fun n => (Except.ok n, s')) (Nat.add_right_comm executed 1 n)

/-- A stop is requested for the first time when a run has made so many cycles. -/
def StopsAfter (env : Surroundings ε) (patience : ℕ) (s : Rig × ε) (k : ℕ∞) : Prop :=
  FirstAt (cycle env patience) (fun _ s' => s'.1.pace.stopRequested = true) (begun s) k

/-- Requests before a run begins are forgotten. -/
lemma run_stop (env : Surroundings ε) (patience rounds : ℕ) (limit : Option ℤ) (s : Rig × ε) :
    run env patience rounds limit (s.1.stop, s.2) = run env patience rounds limit s := by
  have hbegun : begun (s.1.stop, s.2) = begun s := rfl
  rcases hend : runFrom env patience limit rounds 0 (begun s) with ⟨result, s'⟩
  rw [run_eq_of_runFrom hend, run_eq_of_runFrom (hbegun ▸ hend)]

/-- However a run ends, it is not going on afterwards. -/
lemma run_running (env : Surroundings ε) (patience rounds : ℕ) (limit : Option ℤ) (s : Rig × ε) :
    (run env patience rounds limit s).2.1.pace.running = false := by
  rcases hend : runFrom env patience limit rounds 0 (begun s) with ⟨result, s'⟩
  rw [run_eq_of_runFrom hend, finishRun_pace]

/-- **A run lasts as long as it is asked to.**  After every run, whatever its end, the machine is no
longer marked as running, and a stop that was requested before the run changes nothing.  During a
run a stop is requested for the first time when some number `k` of cycles is made, or never.  Let
the machine not be paused, let nobody pause it and let telling a cycle not fail.  Then the run is
asked for `k` cycles or for as many as the limit allows, whichever is less, and for none if the
limit is negative.  It completes them and gives their number; or before that a cycle fails, and its
failure is the answer of the run; or there are not more rounds than cycles asked for, and all rounds
are used up by cycles that were completed.  The completed cycles are counted, and whoever writes
down what is told has written down these, each of them once and in their order. -/
theorem run_as_long_as_asked (env : Surroundings ε) (patience rounds : ℕ) (limit : Option ℤ)
    (s : Rig × ε) :
    let r := run env patience rounds limit s
    r.2.1.pace.running = false ∧
      run env patience rounds limit (s.1.stop, s.2) = r ∧
      (∃ k, StopsAfter env patience s k) ∧
      (env.Forbearing → s.1.isPaused = false → ∀ k, StopsAfter env patience s k →
        ∀ earlier, ∃ completed result s',
          RunEnding env patience (min (allowance limit) k) rounds (begun s) completed result s' ∧
          r = (result, finishRun result s'.1, s'.2) ∧
          r.2.1.pace.cycles = s.1.pace.cycles + completed.length ∧
          run env.noting patience rounds limit (s.1, ⟨earlier, s.2⟩) =
            (r.1, r.2.1, ⟨earlier ++ completed, r.2.2⟩)) := by
  intro r
  refine ⟨run_running env patience rounds limit s, run_stop env patience rounds limit s,
    Consecutive.exists_firstAt _ _ _, ?_⟩
  intro henv hunpaused k hk earlier
  have hfirst : FirstAt (cycle env.noting patience) (fun n => IsOver limit (0 + n))
      (begun (s.1, ⟨earlier, s.2⟩)) (min (allowance limit) k) := by
    rw [min_comm]
    simp only [Nat.zero_add]
    have hover : FirstAt (cycle env patience) (IsOver limit)
        (seen Noted.world (begun (s.1, ⟨earlier, s.2⟩))) (min k (allowance limit)) :=
      hk.or (firstAt_limitReached limit (begun s))
    exact hover.comap (seen Noted.world) (cycle_seen env.noting_seenAs patience)
  obtain ⟨completed, result, s', hending, hrounds⟩ := runFrom_ending henv rounds hunpaused hfirst
  have hresult : result.map (0 + ·) = result := by
    cases result with
    | error e => rfl
    | ok n => exact congrArg Except.ok (Nat.zero_add n)
  rw [hresult] at hrounds
  have hnoted := run_eq_of_runFrom hrounds
  -- the run with the list is the run itself once the list is forgotten
  have hrun : r = (result, finishRun result s'.1, s'.2.world) := by
    have hseen := run_seen env.noting_seenAs patience rounds limit (s.1, ⟨earlier, s.2⟩)
    rw [hnoted] at hseen
    exact hseen
  obtain ⟨hcount, htold⟩ := hending.told henv
  refine ⟨completed, result, seen Noted.world s', hending.forget, hrun, ?_, ?_⟩
  · rw [hrun, finishRun_pace]
    exact hcount
  · rw [hnoted, hrun]
    exact congrArg
      (fun told => (result, finishRun result s'.1, (⟨told, s'.2.world⟩ : Noted ε))) htold

end Rig

/-- Surroundings that request a stop as soon as so many cycles are counted. -/
def Surroundings.stoppingAt (n : ℕ) (ε : Type) : Surroundings ε where
  sleep _ s := (.ok (), s)
  onCycle _ s := (.ok (), if s.1.pace.cycles = n then s.1.stop else s.1, s.2)

lemma Surroundings.stoppingAt_forbearing (n : ℕ) (ε : Type) : (stoppingAt n ε).Forbearing where
  sleep _ _ := ⟨id, rfl⟩
  onCycle _ s := by
    unfold stoppingAt
    dsimp only
    split <;> exact ⟨id, rfl⟩
  heard _ _ := rfl

namespace Rig

theorem run_as_long_as_asked_stopping :
    let env := Surroundings.stoppingAt 2 (SteadyClock ℤ)
    let s : Rig × SteadyClock ℤ := (stop ⟨.counting, .brisk⟩, ⟨0, 1⟩)
    let r := run env 8 9 (some 5) s
    env.Forbearing ∧ s.1.isPaused = false ∧ StopsAfter env 8 s 2 ∧
      r.2.1.pace.running = false ∧ r.1 = .ok 2 ∧
      ∃ completed s', Consecutive (cycle env 8) (begun s) completed s' ∧
        completed.length = 2 ∧ r = (.ok 2, finishRun (.ok 2) s'.1, s'.2) ∧
        r.2.1.pace.cycles = 2 ∧
        run env.noting 8 9 (some 5) (s.1, ⟨[], s.2⟩) = (r.1, r.2.1, ⟨completed, r.2.2⟩) := by
  intro env s r
  have henv : env.Forbearing := Surroundings.stoppingAt_forbearing 2 _
  obtain ⟨hstops, hanswer⟩ :
      (∀ n < 3, ((fun s => (cycle env 8 s).2)^[n] (begun s)).1.pace.stopRequested =
        decide (n = 2)) ∧ r.1 = .ok 2 := by
    decide +kernel
  have hk : StopsAfter env 8 s 2 := by
    intro completed s' h
    rw [h.end_eq]
    generalize completed.length = n
    constructor
    · intro hlt
      have hn : n < 2 := Nat.cast_lt.1 hlt
      simp [hstops n (by omega), hn.ne]
    · intro heq
      obtain rfl : n = 2 := Nat.cast_inj.1 heq
      exact hstops 2 (by decide)
  obtain ⟨hrunning, -, -, hlasts⟩ := run_as_long_as_asked env 8 9 (some 5) s
  have hrun : run env 8 9 (some 5) s = r := rfl
  rw [hrun] at hrunning hlasts
  obtain ⟨completed, result, s', hending, hr, hcycles, hnoted⟩ := hlasts henv rfl 2 hk []
  have hresult : result = .ok 2 := (congrArg Prod.fst hr).symm.trans hanswer
  refine ⟨henv, rfl, hk, hrunning, hanswer, completed, s', ?_⟩
  generalize hresult' : result = o at hending
  cases hending with
  | failed | unfinished => exact absurd (hresult'.symm.trans hresult) nofun
  | done h =>
    have hlength : completed.length = 2 := Except.ok.inj (hresult'.symm.trans hresult)
    refine ⟨h, hlength, hresult ▸ hr, ?_, hnoted⟩
    rw [hcycles, hlength]
    rfl

end Rig

end Chip8
