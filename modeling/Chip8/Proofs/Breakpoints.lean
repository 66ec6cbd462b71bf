import Chip8.Debugger
import Mathlib.Data.Int.Notation
import Mathlib.Tactic.Lemma

/-!
# What a breakpoint waits for

`Breakpoint.Matches` says of each kind of breakpoint which cycles it waits for.  A debugger finds
the first of its breakpoints, in their order, that matches a cycle.

A change of a register is a change since registers that the debugger remembers.  These are the ones
after the last cycle that it has seen, or the ones that the machine had when the debugger was reset
or made, whichever of this came last; nothing else that happens to a debugger touches them.
-/

namespace Chip8

/-- Whether a breakpoint counts and waits for what a snapshot shows, given the registers of the
cycle before. -/
def Breakpoint.Matches (b : Breakpoint) (before : RegisterView) (s : Snapshot) : Prop :=
  b.enabled = true ∧
    match b.kind with
    | .pcMatch => b.value = some s.registers.pc
    | .memoryRead => ∃ address data, b.address = some address ∧ .read address data ∈ s.accesses
    | .memoryWrite =>
      ∃ address data previous, b.address = some address ∧ .write address data previous ∈ s.accesses
    | .registerValue =>
      ∃ name value, b.register = some name ∧ s.registers.get? name = some value ∧
        b.value = some value
    | .registerChange =>
      ∃ name now earlier, b.register = some name ∧ s.registers.get? name = some now ∧
        before.get? name = some earlier ∧ now ≠ earlier

namespace Breakpoint

lemma any_isReadAt {address : Option ℤ} {accesses : List Access} :
    accesses.any (isReadAt address) = true ↔
      ∃ a data, address = some a ∧ .read a data ∈ accesses := by
  rw [List.any_eq_true]
  constructor
  · rintro ⟨_ | _, hmem, hat⟩
    · exact ⟨_, _, beq_iff_eq.1 hat, hmem⟩
    · exact absurd hat nofun
  · rintro ⟨a, data, rfl, hmem⟩
    exact ⟨_, hmem, beq_iff_eq.2 rfl⟩

lemma any_isWriteAt {address : Option ℤ} {accesses : List Access} :
    accesses.any (isWriteAt address) = true ↔
      ∃ a data previous, address = some a ∧ .write a data previous ∈ accesses := by
  rw [List.any_eq_true]
  constructor
  · rintro ⟨_ | _, hmem, hat⟩
    · exact absurd hat nofun
    · exact ⟨_, _, _, beq_iff_eq.1 hat, hmem⟩
  · rintro ⟨a, data, previous, rfl, hmem⟩
    exact ⟨_, hmem, beq_iff_eq.2 rfl⟩

/-- A breakpoint is looked at as its kind says. -/
lemma hits_iff {b : Breakpoint} {before : RegisterView} {s : Snapshot} :
    b.hits before s = true ↔ b.Matches before s := by
  unfold hits Matches
  rw [Bool.and_eq_true]
  refine and_congr_right fun _ => ?_
  unfold holds
  cases b.kind with
  | pcMatch => exact beq_iff_eq
  | memoryRead => exact any_isReadAt
  | memoryWrite => exact any_isWriteAt
  | registerValue =>
    rcases b.register with _ | name
    · simp
    · rcases hget : s.registers.get? name with _ | value <;> simp [hget]
  | registerChange =>
    rcases b.register with _ | name
    · simp
    · rcases hnow : s.registers.get? name with _ | now <;>
        rcases hbefore : before.get? name with _ | earlier <;> simp [hnow, hbefore]

end Breakpoint

namespace Debugger

/-- The first of some breakpoints that matches a snapshot is this one. -/
def FirstMatch (breakpoints : List Breakpoint) (before : RegisterView) (s : Snapshot)
    (b : Breakpoint) : Prop :=
  b.Matches before s ∧ ∃ front back, breakpoints = front ++ b :: back ∧
    ∀ other ∈ front, ¬ other.Matches before s

/-- No breakpoint matches a snapshot. -/
def NoMatch (breakpoints : List Breakpoint) (before : RegisterView) (s : Snapshot) : Prop :=
  ∀ b ∈ breakpoints, ¬ b.Matches before s

section Matching

variable {breakpoints : List Breakpoint} {before : RegisterView} {s : Snapshot}

lemma find?_eq_some_iff {b : Breakpoint} :
    (breakpoints.find? fun b => b.hits before s) = some b ↔ FirstMatch breakpoints before s b := by
  simp only [FirstMatch, List.find?_eq_some_iff_append, Breakpoint.hits_iff,
    Bool.not_eq_true', ← Bool.not_eq_true]

lemma find?_eq_none_iff :
    (breakpoints.find? fun b => b.hits before s) = none ↔ NoMatch breakpoints before s := by
  simp only [NoMatch, List.find?_eq_none, Breakpoint.hits_iff]

/-- If some breakpoint matches, one of those that do is the first. -/
lemma exists_firstMatch (h : ¬ NoMatch breakpoints before s) :
    ∃ b, FirstMatch breakpoints before s b := by
  rw [← find?_eq_none_iff, ← ne_eq, Option.ne_none_iff_exists'] at h
  obtain ⟨b, hb⟩ := h
  exact ⟨b, find?_eq_some_iff.1 hb⟩

instance : Decidable (NoMatch breakpoints before s) := decidable_of_iff _ find?_eq_none_iff

end Matching

variable {d : Debugger} {s : Snapshot}

lemma match?_eq_some_iff {b : Breakpoint} :
    d.match? s = some b ↔ FirstMatch d.breakpoints d.previous s b := find?_eq_some_iff

lemma match?_eq_none_iff : d.match? s = none ↔ NoMatch d.breakpoints d.previous s :=
  find?_eq_none_iff

/-! ### What a debugger remembers -/

/-- A debugger that has taken note of a cycle. -/
def noted (d : Debugger) (s : Snapshot) : Debugger :=
  { d with
    last := some s
    history := remember d.limit d.history s
    previous := s.registers
    hit := ((d.match? s).map fun b => (b, s)).or d.hit }

lemma observe_debugger (s : Snapshot) (rig : Rig) (d : Debugger) :
    (d.observe s rig).2 = d.noted s := by
  unfold observe noted
  dsimp only
  cases d.match? s with
  | none => rfl
  | some b => rfl

/-- A cycle that a breakpoint matches holds the machine still. -/
lemma observe_isPaused (s : Snapshot) (rig : Rig) (d : Debugger) :
    (d.observe s rig).1.isPaused = ((d.match? s).isSome || rig.isPaused) := by
  unfold observe
  dsimp only
  cases d.match? s with
  | none => rfl
  | some b => rfl

/-- What can happen to a debugger. -/
inductive Event where
  /-- It sees a cycle. -/
  | cycle (s : Snapshot)
  /-- It is reset, beside a machine. -/
  | reset (m : Machine)
  /-- A breakpoint is added. -/
  | add (b : Breakpoint)
  /-- A breakpoint takes the place of another. -/
  | update (old new : Breakpoint)
  /-- A breakpoint is removed. -/
  | remove (b : Breakpoint)
  /-- A run begins. -/
  | start
  /-- The run ends or is stopped. -/
  | stop

/-- The debugger after an event. -/
def undergo (d : Debugger) : Event → Debugger
  | .cycle s => d.noted s
  | .reset m => d.reset m
  | .add b => d.addBreakpoint b
  | .update old new => d.updateBreakpoint old new
  | .remove b => d.removeBreakpoint b
  | .start => { d with hit := none, running := true }
  | .stop => d.stop

/-- The debugger after a history. -/
def after (d : Debugger) (history : List Event) : Debugger := history.foldl undergo d

/-- The registers to compare with after an event, if it decides them. -/
def Event.registers? : Event → Option RegisterView
  | .cycle s => some s.registers
  | .reset m => some m.view
  | _ => none

/-- The registers to compare with after a history that began with the given ones. -/
def remembered (first : RegisterView) (history : List Event) : RegisterView :=
  (history.filterMap Event.registers?).getLast?.getD first

lemma undergo_previous (d : Debugger) (e : Event) :
    (d.undergo e).previous = e.registers?.getD d.previous := by
  cases e with
  | add b =>
    unfold undergo addBreakpoint
    dsimp only
    split <;> rfl
  | cycle | reset | update | remove | start | stop => rfl

/-- The last event that decides the registers to compare with has decided them. -/
lemma after_previous (d : Debugger) (history : List Event) :
    (d.after history).previous = remembered d.previous history := by
  induction history generalizing d with
  | nil => rfl
  | cons e rest ih =>
    have hrest := ih (d.undergo e)
    rw [undergo_previous] at hrest
    refine hrest.trans ?_
    unfold remembered
    rcases he : e.registers? with _ | r
    · rw [List.filterMap_cons_none he]
      rfl
    · rw [List.filterMap_cons_some he, List.getLast?_cons]
      rfl

/-- A debugger that was made has seen nothing and has no breakpoints. -/
lemma create_ok {m : Machine} {keep : ℤ} (h : create m keep = .ok d) :
    d = ⟨[], false, m.view, none, none, keep.toNat, []⟩ := by
  unfold create at h
  split at h
  · exact absurd h nofun
  · split at h
    · exact absurd h nofun
    · exact (Except.ok.inj h).symm

lemma create_previous {m : Machine} {keep : ℤ} (h : create m keep = .ok d) :
    d.previous = m.view := by
  rw [create_ok h]

end Debugger

end Chip8
