import Chip8.Proofs.Cycle

/-!
# A world seen through a map

Whatever surrounds a machine at a pace may know more than the machine can ever meet: somebody keeps
a list of the cycles, or remembers more of them than somebody else.  If a map `f` of worlds forgets
such a thing, and the surroundings do the same whether it is there or not, then so do cycles and
runs: to drive the machine and then to forget is to forget and then to drive it.

`env.SeenAs env' f` says so of the four things that surroundings do.  Everything else follows
function by function, up to `Rig.run_seen`.
-/

namespace Chip8

variable {ε ε' : Type} {f : ε → ε'}

/-- A machine at a pace in its world, the world seen through a map. -/
def Rig.seen (f : ε → ε') (s : Rig × ε) : Rig × ε' := (s.1, f s.2)

variable [Clock ε ℤ] [Clock ε' ℤ]

/-- Seen through a map of worlds, the surroundings `env` are the surroundings `env'`. -/
structure Surroundings.SeenAs (env : Surroundings ε) (env' : Surroundings ε') (f : ε → ε') :
    Prop where
  read : ∀ world, Clock.read (f world) = (Clock.read world).map id f
  obstacle : ∀ s, env'.obstacle (Rig.seen f s) = env.obstacle s
  sleep : ∀ seconds s,
    env'.sleep seconds (Rig.seen f s) = (env.sleep seconds s).map id (Rig.seen f)
  onCycle : ∀ snapshot s,
    env'.onCycle snapshot (Rig.seen f s) = (env.onCycle snapshot s).map id (Rig.seen f)

namespace Rig

variable {env : Surroundings ε} {env' : Surroundings ε'} (h : env.SeenAs env' f)
include h

/-! ### One cycle -/

lemma begin_seen (s : Rig × ε) : begin (seen f s) = (begin s).map id (seen f) := by
  obtain ⟨rig, world⟩ := s
  unfold begin seen
  dsimp only
  cases rig.pace.base with
  | some start => rfl
  | none =>
    rw [h.read]
    rfl

lemma attempt_seen (s : Rig × ε) : attempt env' (seen f s) = attempt env s := by
  unfold attempt
  rw [h.obstacle]
  rfl

lemma pass_seen (target : Float) (now : ℤ) (s : Rig × ε) :
    pass env' target now (seen f s) = (pass env target now s).map id (seen f) := by
  have hbusy : (seen f s).1 = s.1 := rfl
  unfold pass
  rw [hbusy, h.sleep]
  simp only [apply_ite (Prod.map id (seen f))]
  rfl

lemma waitUntil_seen (target : Float) (patience : ℕ) (s : Rig × ε) :
    waitUntil env' target patience (seen f s) =
      (waitUntil env target patience s).map id (seen f) := by
  induction patience generalizing s with
  | zero => rfl
  | succ patience ih =>
    obtain ⟨rig, world⟩ := s
    have hread := h.read world
    have hpass := pass_seen h target (Clock.read world).1 (rig, (Clock.read world).2)
    unfold seen at hpass ⊢
    dsimp only at hpass ⊢
    rw [waitUntil, waitUntil, hread]
    dsimp only [Prod.map]
    by_cases hearly : Quantity.whole (Clock.read world).1 < Quantity.real target
    · rw [id_eq, if_pos hearly, if_pos hearly, hpass]
      rcases pass env target (Clock.read world).1 (rig, (Clock.read world).2) with ⟨e | _, s'⟩
      · rfl
      · exact ih s'
    · rw [id_eq, if_neg hearly, if_neg hearly]
      rfl

lemma await_seen (patience : ℕ) (start : ℤ) (s : Rig × ε) :
    await env' patience start (seen f s) = (await env patience start s).map id (seen f) := by
  have hwait := waitUntil_seen h (Binary64.ofInt start + s.1.pace.target) patience s
  unfold await
  rw [apply_ite (Prod.map id (seen f)), ← hwait]
  rfl

lemma finishCycle_seen (snapshot : Snapshot) (start finish : ℤ) (s : Rig × ε) :
    finishCycle env' snapshot start finish (seen f s) =
      (finishCycle env snapshot start finish s).map id (seen f) := by
  obtain ⟨rig, world⟩ := s
  have htold := h.onCycle snapshot (rig.settle start finish, world)
  by_cases hcan : rig.machine.canTick (.whole (finish - start)) = true
  · have hfinish : finishCycle env snapshot start finish (rig, world) =
        (env.onCycle snapshot (rig.settle start finish, world)).map
          (Except.map fun _ => snapshot) id := if_pos hcan
    have hfinish' : finishCycle env' snapshot start finish (rig, f world) =
        (env'.onCycle snapshot (rig.settle start finish, f world)).map
          (Except.map fun _ => snapshot) id := if_pos hcan
    rw [seen, hfinish, hfinish']
    exact congrArg (Prod.map (Except.map fun _ => snapshot) id) htold
  · have hfinish : finishCycle env snapshot start finish (rig, world) =
        (.error (.unfit .beyondDouble), rig, world) := if_neg hcan
    rw [hfinish]
    exact if_neg hcan

/-- A cycle does the same in a world and in what is seen of it. -/
lemma cycle_seen (patience : ℕ) (s : Rig × ε) :
    cycle env' patience (seen f s) = (cycle env patience s).map id (seen f) := by
  have hattempt := attempt_seen h (begin s).2
  have hbegin := begin_seen h s
  rcases ha : attempt env (begin s).2 with ⟨e | snapshot, rig⟩
  · have ha' : attempt env' (begin (seen f s)).2 = (.error e, rig) := by
      rw [hbegin]
      exact hattempt.trans ha
    rw [cycle_of_attempt_error ha, cycle_of_attempt_error ha', hbegin]
    rfl
  · have hawait := await_seen h patience (begin s).1 (rig, (begin s).2.2)
    rw [ha] at hattempt
    rw [cycle, cycle, hbegin]
    rcases hw : await env patience (begin s).1 (rig, (begin s).2.2) with ⟨e | finish, s'⟩
    · rw [hw] at hawait
      unfold seen at hattempt hawait ⊢
      simp only [Prod.map, id_eq] at hattempt hawait ⊢
      simp only [ha, hattempt, hw, hawait]
    · have hfinish := finishCycle_seen h snapshot (begin s).1 finish s'
      rw [hw] at hawait
      unfold seen at hattempt hawait hfinish ⊢
      simp only [Prod.map, id_eq] at hattempt hawait hfinish ⊢
      simp only [ha, hattempt, hw, hawait, hfinish]

/-! ### Runs -/

lemma nap_seen (s : Rig × ε) : nap env' (seen f s) = (nap env s).map id (seen f) := by
  have hsleep := fun seconds => h.sleep seconds (s.1.resetClock, s.2)
  have hpace : (seen f s).1 = s.1 := rfl
  unfold nap
  rw [hpace]
  cases s.1.pace.pollInterval with
  | ok seconds => exact hsleep seconds
  | error cause => rfl

lemma runFrom_seen (patience : ℕ) (limit : Option ℤ) (rounds executed : ℕ) (s : Rig × ε) :
    runFrom env' patience limit rounds executed (seen f s) =
      (runFrom env patience limit rounds executed s).map id (seen f) := by
  induction rounds generalizing executed s with
  | zero => rfl
  | succ rounds ih =>
    obtain ⟨rig, world⟩ := s
    have hnap := nap_seen h (rig, world)
    have hcycle := cycle_seen h patience (rig, world)
    unfold seen at hnap hcycle ⊢
    dsimp only at hnap hcycle ⊢
    rw [runFrom, runFrom, hnap, hcycle, apply_ite (Prod.map id _), apply_ite (Prod.map id _)]
    split
    · rfl
    · split
      · rcases nap env (rig, world) with ⟨e | _, s'⟩
        · rfl
        · exact ih executed s'
      · rcases cycle env patience (rig, world) with ⟨e | _, s'⟩
        · rfl
        · exact ih (executed + 1) s'

/-- **A run does the same in a world and in what is seen of it.** -/
lemma run_seen (patience rounds : ℕ) (limit : Option ℤ) (s : Rig × ε) :
    run env' patience rounds limit (seen f s) =
      (run env patience rounds limit s).map id (seen f) := by
  have hrounds := runFrom_seen h patience limit rounds 0 (begun s)
  have hbegun : begun (seen f s) = seen f (begun s) := rfl
  rcases hend : runFrom env patience limit rounds 0 (begun s) with ⟨result, s'⟩
  rw [hend, ← hbegun] at hrounds
  rw [run_eq_of_runFrom hend, run_eq_of_runFrom hrounds]
  rfl

end Rig

end Chip8
