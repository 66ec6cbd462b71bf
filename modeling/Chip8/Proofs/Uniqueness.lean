import Chip8.Proofs.FirstHit
import Mathlib.Data.List.Induction
import Mathlib.Data.List.Nodup

/-!
# When a breakpoint is listed twice

A breakpoint that is added goes behind the others only if it is not among them, and a breakpoint
that is removed leaves once.  A breakpoint that takes the place of another is put there even if it
is among the others already.  So the list of a debugger has a breakpoint twice only after such a
replacement, and then removing that breakpoint leaves one of the two in the list, where it goes on
to stop runs.  This is a defect: adding asks whether the breakpoint is there, replacing does not.

As a list with one entry replaced is, but for the order, the new entry before the list without the
old one, what a replacement does to repetitions is read off what removing does.
-/

namespace Chip8

namespace Debugger

/-! ### One event -/

/-- An entry that is replaced is taken away, and the other one is put in. -/
lemma replace_perm {breakpoints : List Breakpoint} {old : Breakpoint} (h : old ∈ breakpoints)
    (new : Breakpoint) : (breakpoints.replace old new).Perm (new :: breakpoints.erase old) := by
  obtain ⟨front, back, hfront, rfl, herase⟩ := List.exists_erase_eq h
  rw [herase, List.replace_append_right hfront, List.replace_cons_self]
  exact List.perm_middle

/-- The event puts a breakpoint in the place of another while it is listed already. -/
def Doubles (d : Debugger) (e : Event) : Prop :=
  ∃ old new, e = .update old new ∧ old ∈ d.breakpoints ∧ new ∈ d.breakpoints ∧ old ≠ new

lemma nodup_update_iff {d : Debugger} (h : d.breakpoints.Nodup) (old new : Breakpoint) :
    (d.updateBreakpoint old new).breakpoints.Nodup ↔ ¬ d.Doubles (.update old new) := by
  have hdoubles : d.Doubles (.update old new) ↔
      old ∈ d.breakpoints ∧ new ∈ d.breakpoints ∧ old ≠ new := by
    constructor
    · rintro ⟨_, _, heq, hrest⟩
      cases heq
      exact hrest
    · exact fun hrest => ⟨old, new, rfl, hrest⟩
  rw [hdoubles]
  show (d.breakpoints.replace old new).Nodup ↔ _
  by_cases hold : old ∈ d.breakpoints
  · have hrest : (d.breakpoints.erase old).Nodup := h.erase old
    rw [(replace_perm hold new).nodup_iff, List.nodup_cons, h.mem_erase_iff]
    constructor
    · rintro ⟨hnew, -⟩ ⟨-, hmem, hne⟩
      exact hnew ⟨hne.symm, hmem⟩
    · intro hno
      exact ⟨fun hnew => hno ⟨hold, hnew.2, hnew.1.symm⟩, hrest⟩
  · rw [List.replace_of_not_mem hold]
    exact ⟨fun _ hno => hold hno.1, fun _ => h⟩

/-- A list without repetitions has none after an event, unless that puts a breakpoint in twice. -/
lemma nodup_undergo_iff {d : Debugger} (h : d.breakpoints.Nodup) (e : Event) :
    (d.undergo e).breakpoints.Nodup ↔ ¬ d.Doubles e := by
  have hno : (∀ old new, e ≠ .update old new) → ¬ d.Doubles e := by
    rintro hne ⟨old, new, rfl, -⟩
    exact hne old new rfl
  cases e with
  | update old new => exact nodup_update_iff h old new
  | add b =>
    refine iff_of_true ?_ (hno (by simp))
    show (d.addBreakpoint b).breakpoints.Nodup
    unfold addBreakpoint
    split
    · exact h
    · rename_i hb
      exact List.nodup_append.2 ⟨h, List.nodup_singleton b, fun a ha a' ha' => by
        rw [List.mem_singleton.1 ha']
        exact fun hab => hb (hab ▸ ha)⟩
  | remove b => exact iff_of_true (h.erase b) (hno (by simp))
  | cycle | reset | start | stop => exact iff_of_true h (hno (by simp))

/-! ### Histories -/

lemma after_append (d : Debugger) (earlier later : List Event) :
    d.after (earlier ++ later) = (d.after earlier).after later := List.foldl_append

/-- All along a history the list is without repetitions, exactly if no event of it puts a breakpoint
in twice. -/
lemma nodup_along_iff {d : Debugger} (h : d.breakpoints.Nodup) (history : List Event) :
    (∀ earlier later, history = earlier ++ later → (d.after earlier).breakpoints.Nodup) ↔
      ∀ earlier e later, history = earlier ++ e :: later → ¬ (d.after earlier).Doubles e := by
  constructor
  · intro hall earlier e later heq
    have hbefore := hall earlier (e :: later) heq
    have hafter := hall (earlier ++ [e]) later (by rw [heq, List.append_assoc]; rfl)
    rw [after_append] at hafter
    exact (nodup_undergo_iff hbefore e).1 hafter
  · intro hno earlier
    -- from the left: what is before an event of the history is before it in the history
    induction earlier using List.reverseRecOn with
    | nil => exact fun _ _ => h
    | append_singleton earlier e ih =>
      intro later heq
      have heq' : history = earlier ++ e :: later := by rw [heq, List.append_assoc]; rfl
      rw [after_append]
      exact (nodup_undergo_iff (ih (e :: later) heq') e).2 (hno earlier e later heq')

/-! ### Runs -/

section Runs

variable {ε : Type} [Clock ε Int] {env : Surroundings (Debugger × ε)} {patience : ℕ}
  {s s' : Rig × Debugger × ε}

/-- A hit, if there is one, is by one of these breakpoints, and they are those of the debugger. -/
structure HitsAmong (breakpoints : List Breakpoint) (d : Debugger) : Prop where
  breakpoints_eq : d.breakpoints = breakpoints
  hit_mem : ∀ p ∈ d.hit, p.1 ∈ breakpoints

lemma HitsAmong.noted {breakpoints : List Breakpoint} {d : Debugger}
    (h : HitsAmong breakpoints d) (snapshot : Snapshot) :
    HitsAmong breakpoints (d.noted snapshot) := by
  refine ⟨h.breakpoints_eq, fun p hp => ?_⟩
  unfold Debugger.noted at hp
  dsimp only at hp
  rcases hmatch : d.match? snapshot with _ | b
  · rw [hmatch] at hp
    exact h.hit_mem p hp
  · rw [hmatch] at hp
    obtain rfl : (b, snapshot) = p := Option.some.inj hp
    rw [← h.breakpoints_eq]
    exact List.mem_of_find?_eq_some hmatch

/-- A run that ends without a failure has hit none but the breakpoints of the debugger. -/
lemma runFrom_hitsAmong (hq : env.Apart) {breakpoints : List Breakpoint} {limit : Option ℤ}
    {rounds executed : ℕ} (h : HitsAmong breakpoints s.2.1)
    (hrun : runFrom (watching env) patience limit rounds executed s = (.ok (), s')) :
    HitsAmong breakpoints s'.2.1 := by
  induction rounds generalizing executed s with
  | zero => exact absurd (congrArg Prod.fst hrun) nofun
  | succ rounds ih =>
    obtain ⟨rig, d, world⟩ := s
    rw [runFrom] at hrun
    split at hrun
    · obtain ⟨-, rfl⟩ := Prod.mk.inj hrun
      exact h
    · rcases hstep : step (watching env) patience (rig, d, world) with ⟨e | snapshot, mid⟩
      · rw [hstep] at hrun
        dsimp only at hrun
        cases hrun
      · rw [hstep] at hrun
        have hnoted : mid.2.1 = d.noted snapshot := congrArg Prod.snd (step_ok hq hstep)
        have hmid : HitsAmong breakpoints mid.2.1 := hnoted ▸ h.noted snapshot
        obtain ⟨rig', d', world'⟩ := mid
        dsimp only at hrun
        split at hrun
        · obtain ⟨-, rfl⟩ := Prod.mk.inj hrun
          exact hmid
        · exact ih hmid hrun

/-- A breakpoint that stops a run is listed. -/
lemma mem_of_run_eq (hq : env.Apart) {limit : Option ℤ} {rounds : ℕ} {c : Breakpoint}
    (hrun : (run (watching env) patience rounds limit s).1 = .ok (some c)) :
    c ∈ s.2.1.breakpoints := by
  have hstart : HitsAmong s.2.1.breakpoints (started s).2.1 :=
    ⟨rfl, fun p hp => absurd hp (Option.not_mem_none p)⟩
  rcases hend : runFrom (watching env) patience limit rounds 0 (started s) with ⟨e | ⟨⟩, s'⟩
  · rw [run_eq_of_runFrom hend] at hrun
    exact absurd hrun nofun
  · rw [run_eq_of_runFrom hend] at hrun
    have hhit := Except.ok.inj hrun
    obtain ⟨p, hp, rfl⟩ := Option.map_eq_some_iff.1 hhit
    exact (runFrom_hitsAmong hq hstart hend).hit_mem p hp

end Runs

/-- **Breakpoints are unique until one takes the place of another while it is listed.**  Let a
debugger be made for a machine, and have any history.  All along the history no breakpoint is listed
twice, exactly if no breakpoint was put in the place of a different one while it was listed itself.
A breakpoint that is removed is listed afterwards exactly if it was listed twice; and if it was not,
no run that begins then, in surroundings that leave the debugger alone, is stopped by it. -/
theorem unique_iff_never_doubled {ε : Type} [Clock ε Int] {env : Surroundings (Debugger × ε)}
    (hq : env.Apart) {m : Machine} {keep : ℤ} {created : Debugger}
    (hcreate : create m keep = .ok created) (history : List Event) :
    ((∀ earlier later, history = earlier ++ later →
        (created.after earlier).breakpoints.Nodup) ↔
      ∀ earlier old new later, history = earlier ++ .update old new :: later →
        old ∈ (created.after earlier).breakpoints → new ∈ (created.after earlier).breakpoints →
          old = new) ∧
    ∀ c, let d := created.after history
      (c ∈ (d.removeBreakpoint c).breakpoints ↔ 2 ≤ d.breakpoints.count c) ∧
      (d.breakpoints.count c < 2 → ∀ patience rounds limit rig world,
        (run (watching env) patience rounds limit (rig, d.removeBreakpoint c, world)).1 ≠
          .ok (some c)) := by
  have hnone : created.breakpoints.Nodup := by
    rw [create_ok hcreate]
    exact List.nodup_nil
  refine ⟨?_, fun c => ?_⟩
  · rw [nodup_along_iff hnone]
    constructor
    · intro hno earlier old new later heq hold hnew
      by_contra hne
      exact hno earlier _ later heq ⟨old, new, rfl, hold, hnew, hne⟩
    · rintro hsame earlier e later heq ⟨old, new, rfl, hold, hnew, hne⟩
      exact hne (hsame earlier old new later heq hold hnew)
  · intro d
    have hstays : c ∈ (d.removeBreakpoint c).breakpoints ↔ 2 ≤ d.breakpoints.count c := by
      show c ∈ d.breakpoints.erase c ↔ _
      rw [← List.count_pos_iff, List.count_erase_self]
      omega
    refine ⟨hstays, fun hcount patience rounds limit rig world hrun => ?_⟩
    have hmem := mem_of_run_eq hq hrun
    have := hstays.1 hmem
    omega

/-- A breakpoint that `counting` never matches. -/
def atNowhere : Breakpoint := { kind := .pcMatch, value := some 100 }

/-- The one that takes the place of another stays behind when it is removed, and stops a run. -/
theorem unique_iff_never_doubled_counting :
    let d := (fresh .counting).after
      [.add atNowhere, .add atChange, .update atNowhere atChange]
    d.breakpoints = [atChange, atChange] ∧
      atChange ∈ (d.removeBreakpoint atChange).breakpoints ∧
      (run (watching (.still (Debugger × SteadyClock ℤ))) 8 5 (some 4)
        (⟨.counting, .brisk⟩, d.removeBreakpoint atChange, ⟨0, 1⟩)).1.toOption =
          some (some atChange) ∧
      ∀ patience rounds limit rig world,
        (run (watching (.still (Debugger × SteadyClock ℤ))) patience rounds limit
          (rig, d.removeBreakpoint atNowhere, world)).1 ≠ .ok (some atNowhere) := by
  intro d
  obtain ⟨-, hremoved⟩ := unique_iff_never_doubled
    (Surroundings.still_apart (SteadyClock ℤ)) (rfl : create .counting 8 = .ok (fresh .counting))
    [.add atNowhere, .add atChange, .update atNowhere atChange]
  have hchange : 2 ≤ d.breakpoints.count atChange := by decide +kernel
  have hnowhere : d.breakpoints.count atNowhere < 2 := by decide +kernel
  exact ⟨by decide +kernel, (hremoved atChange).1.2 hchange, by decide +kernel,
    (hremoved atNowhere).2 hnowhere⟩

end Debugger

end Chip8
