import Chip8.Proofs.KeyWait
import Mathlib.Data.List.Basic
import Mathlib.Data.List.Induction

/-!
# A wait ends with the first new press

What happens to a keypad decides by itself which keys are down, whether waits are interrupted and
which key was the first to go down: a key is down if the last action on it pressed it, and it went
down if it was not down when it was pressed.  `DownAfter`, `InterruptedAfter` and `FirstDown` say so
of a list of actions, without a keypad that takes part in them.

The main result, `wait_gives_first_press`, says by these of every wait at which check it ends, how,
and what it leaves behind.
-/

namespace Chip8

/-! ### Lists of actions -/

section Lists

variable {α : Type} {xs before later : List α} {x y : α}

/-- Somewhere in a list is an element of which something holds, given those before it. -/
def Occurs (P : List α → α → Prop) (xs : List α) : Prop :=
  ∃ before x later, xs = before ++ x :: later ∧ P before x

/-- The last element of a list that touches something sets it; if none touches it, it was set
before. -/
def LastSets (sets touches : α → Prop) (initially : Prop) (xs : List α) : Prop :=
  (∃ before x later, xs = before ++ x :: later ∧ sets x ∧ ∀ y ∈ later, ¬ touches y) ∨
    (initially ∧ ∀ y ∈ xs, ¬ touches y)

/-- A list with an element added behind is cut at that element or before it. -/
lemma concat_eq_append_cons_iff :
    xs ++ [x] = before ++ y :: later ↔
      (xs = before ∧ x = y ∧ later = []) ∨
        ∃ rest, later = rest ++ [x] ∧ xs = before ++ y :: rest := by
  rcases List.eq_nil_or_concat' later with rfl | ⟨rest, z, rfl⟩
  · simp
  · rw [← List.cons_append, ← List.append_assoc, List.append_singleton_inj]
    constructor
    · rintro ⟨rfl, rfl⟩
      exact .inr ⟨rest, rfl, rfl⟩
    · rintro (⟨-, -, hnil⟩ | ⟨rest', hrest, rfl⟩)
      · exact absurd hnil (List.append_ne_nil_of_right_ne_nil rest (List.cons_ne_nil z []))
      · obtain ⟨rfl, rfl⟩ := List.append_singleton_inj.1 hrest
        exact ⟨rfl, rfl⟩

lemma not_occurs_nil {P : List α → α → Prop} : ¬ Occurs P [] := by
  rintro ⟨before, x, later, hcut, -⟩
  exact absurd hcut.symm (List.append_ne_nil_of_right_ne_nil before (List.cons_ne_nil x later))

lemma occurs_concat_iff {P : List α → α → Prop} :
    Occurs P (xs ++ [x]) ↔ Occurs P xs ∨ P xs x := by
  constructor
  · rintro ⟨before, y, later, hcut, hy⟩
    rcases concat_eq_append_cons_iff.1 hcut with ⟨rfl, rfl, -⟩ | ⟨rest, -, hxs⟩
    · exact .inr hy
    · exact .inl ⟨before, y, rest, hxs, hy⟩
  · rintro (⟨before, y, later, rfl, hy⟩ | hx)
    · exact ⟨before, y, later ++ [x], by rw [List.append_assoc, List.cons_append], hy⟩
    · exact ⟨xs, x, [], rfl, hx⟩

lemma lastSets_concat_iff {sets touches : α → Prop} {initially : Prop} :
    LastSets sets touches initially (xs ++ [x]) ↔
      sets x ∨ (¬ touches x ∧ LastSets sets touches initially xs) := by
  constructor
  · rintro (⟨before, y, later, hcut, hy, hlater⟩ | ⟨hinit, hall⟩)
    · rcases concat_eq_append_cons_iff.1 hcut with ⟨-, rfl, -⟩ | ⟨rest, rfl, rfl⟩
      · exact .inl hy
      · obtain ⟨hrest, hx⟩ := List.forall_mem_append.1 hlater
        exact .inr ⟨hx x (List.mem_singleton_self x), .inl ⟨before, y, rest, rfl, hy, hrest⟩⟩
    · obtain ⟨hxs, hx⟩ := List.forall_mem_append.1 hall
      exact .inr ⟨hx x (List.mem_singleton_self x), .inr ⟨hinit, hxs⟩⟩
  · rintro (hx | ⟨hx, ⟨before, y, later, rfl, hy, hlater⟩ | ⟨hinit, hall⟩⟩)
    · exact .inl ⟨xs, x, [], rfl, hx, nofun⟩
    · refine .inl ⟨before, y, later ++ [x], by rw [List.append_assoc, List.cons_append], hy, ?_⟩
      exact List.forall_mem_append.2 ⟨hlater, List.forall_mem_singleton.2 hx⟩
    · exact .inr ⟨hinit, List.forall_mem_append.2 ⟨hall, List.forall_mem_singleton.2 hx⟩⟩

end Lists

/-! ### What actions do -/

namespace KeyAction

/-- An action that decides whether a key is down. -/
def Touches (key : Key) (a : KeyAction) : Prop :=
  a = .press key.val ∨ a = .release key.val ∨ a = .releaseAll

/-- An action that decides whether waits are interrupted. -/
def TouchesInterrupt (a : KeyAction) : Prop := a = .interrupt ∨ a = .clearInterrupt

/-- The forms of an action on keys that there are. -/
lemma Valid.forms {a : KeyAction} (h : a.Valid) :
    (∃ key : Key, a = .press key.val) ∨ (∃ key : Key, a = .release key.val) ∨ a = .releaseAll ∨
      a = .interrupt ∨ a = .clearInterrupt := by
  have hkey : ∀ number : ℤ, 0 ≤ number ∧ number < 16 → ∃ key : Key, number = key.val :=
    fun number hn => ⟨⟨number.toNat, by omega⟩, by simp only; omega⟩
  cases a with
  | press number =>
    obtain ⟨key, rfl⟩ := hkey number h
    exact .inl ⟨key, rfl⟩
  | release number =>
    obtain ⟨key, rfl⟩ := hkey number h
    exact .inr (.inl ⟨key, rfl⟩)
  | releaseAll => exact .inr (.inr (.inl rfl))
  | interrupt => exact .inr (.inr (.inr (.inl rfl)))
  | clearInterrupt => exact .inr (.inr (.inr (.inr rfl)))

end KeyAction

namespace Keypad

lemma key?_val (key : Key) : key? key.val = .ok key := by
  have hkey : (0 : ℤ) ≤ key.val ∧ (key.val : ℤ) < 16 := by omega
  rw [key?, dif_pos hkey]
  rfl

lemma isDown_val (k : Keypad) (key : Key) : k.isDown key.val = k.down.get key := by
  have hkey : (0 : ℤ) ≤ key.val ∧ (key.val : ℤ) < 16 := by omega
  rw [isDown, dif_pos hkey]
  rfl

variable (k : Keypad)

lemma perform_press (key : Key) :
    (KeyAction.press key.val).perform k = (.ok (), k.press key) := by
  simp only [KeyAction.perform, key?_val]

lemma perform_release (key : Key) :
    (KeyAction.release key.val).perform k = (.ok (), k.release key) := by
  simp only [KeyAction.perform, key?_val]

/-- The keypad after actions. -/
def after (actions : List KeyAction) : Keypad := actions.foldl (fun k a => (a.perform k).2) k

lemma after_append (first second : List KeyAction) :
    k.after (first ++ second) = (k.after first).after second := List.foldl_append

lemma after_concat (actions : List KeyAction) (a : KeyAction) :
    k.after (actions ++ [a]) = (a.perform (k.after actions)).2 := k.after_append actions [a]

/-- Whether a key is down after actions: the last of them that touches it is a press, or none
touches it and it was down before. -/
def DownAfter (actions : List KeyAction) (key : Key) : Prop :=
  LastSets (· = .press key.val) (KeyAction.Touches key) (k.isDown key.val = true) actions

/-- Whether waits are interrupted after actions. -/
def InterruptedAfter (actions : List KeyAction) : Prop :=
  LastSets (· = .interrupt) KeyAction.TouchesInterrupt (k.interrupted = true) actions

/-- Some key goes from up to down in the course of actions. -/
def WentDown (actions : List KeyAction) : Prop :=
  Occurs (fun before a => ∃ key : Key, a = .press key.val ∧ ¬ k.DownAfter before key) actions

/-- The first key that goes from up to down in the course of actions is this one. -/
def FirstDown (actions : List KeyAction) (key : Key) : Prop :=
  Occurs (fun before a => a = .press key.val ∧ ¬ k.DownAfter before key ∧ ¬ k.WentDown before)
    actions

lemma isDown_press (key other : Key) :
    (k.press key).isDown other.val = (decide (key = other) || k.isDown other.val) := by
  unfold press
  by_cases hdown : k.down[key] = true
  · rw [if_pos hdown]
    by_cases heq : key = other
    · subst heq
      rw [decide_eq_true rfl, Bool.true_or, isDown_val]
      exact hdown
    · simp [heq]
  · rw [if_neg hdown, isDown_val, isDown_val]
    change (k.down.set key true)[other] = (decide (key = other) || k.down[other])
    simp [Vector.getElem_set, Fin.ext_iff]

lemma isDown_release (key other : Key) :
    (k.release key).isDown other.val = (!decide (key = other) && k.isDown other.val) := by
  rw [isDown_val, isDown_val]
  change (k.down.set key false)[other] = (!decide (key = other) && k.down[other])
  simp only [Fin.getElem_fin, Vector.getElem_set, Fin.ext_iff]
  by_cases heq : key.val = other.val <;> simp [heq]

lemma isDown_releaseAll (key : Key) : k.releaseAll.isDown key.val = false := by
  rw [isDown_val]
  exact Vector.getElem_replicate key.isLt

variable {a : KeyAction}

lemma isDown_perform (h : a.Valid) (key : Key) :
    (a.perform k).2.isDown key.val = true ↔
      a = .press key.val ∨ (¬ a.Touches key ∧ k.isDown key.val = true) := by
  have hkey : ∀ other : Key, (other.val : ℤ) = key.val ↔ other = key := fun other => by
    rw [Int.ofNat_inj, Fin.ext_iff]
  rcases h.forms with ⟨other, rfl⟩ | ⟨other, rfl⟩ | rfl | rfl | rfl
  · rw [perform_press, isDown_press]
    by_cases heq : other = key <;> simp [KeyAction.Touches, hkey, heq]
  · rw [perform_release, isDown_release]
    by_cases heq : other = key <;> simp [KeyAction.Touches, hkey, heq]
  · simp [KeyAction.Touches, KeyAction.perform, isDown_releaseAll]
  · simp [KeyAction.Touches, KeyAction.perform, interrupt, isDown]
  · simp [KeyAction.Touches, KeyAction.perform, clearInterrupt, isDown]

lemma interrupted_perform (h : a.Valid) :
    (a.perform k).2.interrupted = true ↔
      a = .interrupt ∨ (¬ a.TouchesInterrupt ∧ k.interrupted = true) := by
  have hpress : ∀ key, (k.press key).interrupted = k.interrupted := fun key => by
    unfold press
    split <;> rfl
  rcases h.forms with ⟨key, rfl⟩ | ⟨key, rfl⟩ | rfl | rfl | rfl
  · rw [perform_press, hpress]
    simp [KeyAction.TouchesInterrupt]
  · rw [perform_release]
    simp [KeyAction.TouchesInterrupt, release]
  · simp [KeyAction.TouchesInterrupt, KeyAction.perform, releaseAll]
  · simp [KeyAction.perform, interrupt]
  · simp [KeyAction.TouchesInterrupt, KeyAction.perform, clearInterrupt]

/-- While somebody waits, a key that goes down is remembered, and nothing else is. -/
lemma perform_waiting (h : a.Valid) (hw : k.waiting = true) :
    (a.perform k).2.waiting = true ∧
      ((∃ key : Key, a = .press key.val ∧ ¬ k.isDown key.val = true ∧
          (a.perform k).2.transitions = k.transitions ++ [key]) ∨
        ((∀ key : Key, a = .press key.val → k.isDown key.val = true) ∧
          (a.perform k).2.transitions = k.transitions)) := by
  rcases h.forms with ⟨key, rfl⟩ | ⟨key, rfl⟩ | rfl | rfl | rfl
  · rw [perform_press]
    unfold press
    by_cases hdown : k.down[key] = true
    · rw [if_pos hdown]
      refine ⟨hw, .inr ⟨fun other hother => ?_, rfl⟩⟩
      rw [← KeyAction.press.inj hother, isDown_val]
      exact hdown
    · rw [if_neg hdown]
      refine ⟨hw, .inl ⟨key, rfl, ?_, if_pos hw⟩⟩
      rw [isDown_val]
      exact hdown
  · rw [perform_release]
    exact ⟨hw, .inr ⟨fun _ hpress => absurd hpress KeyAction.noConfusion, rfl⟩⟩
  · exact ⟨hw, .inr ⟨fun _ hpress => absurd hpress KeyAction.noConfusion, rfl⟩⟩
  · exact ⟨hw, .inr ⟨fun _ hpress => absurd hpress KeyAction.noConfusion, rfl⟩⟩
  · exact ⟨hw, .inr ⟨fun _ hpress => absurd hpress KeyAction.noConfusion, rfl⟩⟩

/-! ### What sequences of actions do -/

variable {actions : List KeyAction}

lemma downAfter_concat_iff {key : Key} :
    k.DownAfter (actions ++ [a]) key ↔
      a = .press key.val ∨ (¬ a.Touches key ∧ k.DownAfter actions key) :=
  lastSets_concat_iff

lemma interruptedAfter_concat_iff :
    k.InterruptedAfter (actions ++ [a]) ↔
      a = .interrupt ∨ (¬ a.TouchesInterrupt ∧ k.InterruptedAfter actions) :=
  lastSets_concat_iff

lemma wentDown_concat_iff :
    k.WentDown (actions ++ [a]) ↔
      k.WentDown actions ∨ ∃ key : Key, a = .press key.val ∧ ¬ k.DownAfter actions key :=
  occurs_concat_iff

lemma firstDown_concat_iff {key : Key} :
    k.FirstDown (actions ++ [a]) key ↔
      k.FirstDown actions key ∨
        (a = .press key.val ∧ ¬ k.DownAfter actions key ∧ ¬ k.WentDown actions) :=
  occurs_concat_iff

/-- At every moment a key is down as the last action that touches it says. -/
lemma isDown_after (h : ∀ a ∈ actions, a.Valid) (key : Key) :
    (k.after actions).isDown key.val = true ↔ k.DownAfter actions key := by
  induction actions using List.reverseRecOn with
  | nil => simp [after, DownAfter, LastSets]
  | append_singleton actions a ih =>
    obtain ⟨hactions, ha⟩ := List.forall_mem_append.1 h
    rw [after_concat, isDown_perform _ (ha a (List.mem_singleton_self a)), ih hactions,
      downAfter_concat_iff]

lemma interrupted_after (h : ∀ a ∈ actions, a.Valid) :
    (k.after actions).interrupted = true ↔ k.InterruptedAfter actions := by
  induction actions using List.reverseRecOn with
  | nil => simp [after, InterruptedAfter, LastSets]
  | append_singleton actions a ih =>
    obtain ⟨hactions, ha⟩ := List.forall_mem_append.1 h
    rw [after_concat, interrupted_perform _ (ha a (List.mem_singleton_self a)), ih hactions,
      interruptedAfter_concat_iff]

/-- What a wait remembers of the actions in its course: the first key that went down is in front. -/
structure Remembers (k : Keypad) (actions : List KeyAction) (k' : Keypad) : Prop where
  waiting : k'.waiting = true
  empty_iff : k'.transitions = [] ↔ ¬ k.WentDown actions
  head_iff : ∀ key, k'.transitions.head? = some key ↔ k.FirstDown actions key

/-- A key that goes down is remembered behind those that went down before. -/
lemma Remembers.press {k' k'' : Keypad} {key : Key} (h : k.Remembers actions k')
    (hup : ¬ k.DownAfter actions key) (hwaiting : k''.waiting = true)
    (htransitions : k''.transitions = k'.transitions ++ [key]) :
    k.Remembers (actions ++ [.press key.val]) k'' := by
  have hwent : k.WentDown (actions ++ [.press key.val]) :=
    k.wentDown_concat_iff.2 (.inr ⟨key, rfl, hup⟩)
  refine ⟨hwaiting, ?_, fun first => ?_⟩
  · rw [htransitions]
    simp [hwent]
  · rw [htransitions, firstDown_concat_iff, ← h.head_iff, ← h.empty_iff]
    rcases k'.transitions with _ | ⟨earlier, rest⟩
    · have hkey : (key.val : ℤ) = first.val ↔ key = first := by rw [Int.ofNat_inj, Fin.ext_iff]
      have hfirst : key = first → ¬ k.DownAfter actions first := fun heq => heq ▸ hup
      simpa [hkey] using hfirst
    · simp

/-- If no key goes down, what is remembered stays. -/
lemma Remembers.noPress {k' k'' : Keypad} (h : k.Remembers actions k')
    (hno : ∀ key : Key, a = .press key.val → k.DownAfter actions key)
    (hwaiting : k''.waiting = true) (htransitions : k''.transitions = k'.transitions) :
    k.Remembers (actions ++ [a]) k'' := by
  refine ⟨hwaiting, ?_, fun first => ?_⟩
  · have hnone : ¬ ∃ key : Key, a = .press key.val ∧ ¬ k.DownAfter actions key :=
      fun ⟨key, ha, hup⟩ => hup (hno key ha)
    rw [htransitions, h.empty_iff, wentDown_concat_iff, or_iff_left hnone]
  · have hnone : ¬ (a = .press first.val ∧ ¬ k.DownAfter actions first ∧ ¬ k.WentDown actions) :=
      fun ⟨ha, hup, _⟩ => hup (hno first ha)
    rw [htransitions, h.head_iff, firstDown_concat_iff, or_iff_left hnone]

/-- At every moment a wait remembers the actions in its course. -/
lemma after_remembers (h : ∀ a ∈ actions, a.Valid) :
    k.Remembers actions (k.beginWait.after actions) := by
  -- From the end, where the keypad, too, puts the keys that it remembers.
  induction actions using List.reverseRecOn with
  | nil =>
    refine ⟨rfl, ?_, fun key => ?_⟩
    · simp [after, beginWait, WentDown, not_occurs_nil]
    · simp [after, beginWait, FirstDown, not_occurs_nil]
  | append_singleton actions a ih =>
    obtain ⟨hactions, ha⟩ := List.forall_mem_append.1 h
    have hbefore := ih hactions
    have hdown : ∀ key : Key, (k.beginWait.after actions).isDown key.val = true ↔
      k.DownAfter actions key := k.beginWait.isDown_after hactions
    obtain ⟨hwaiting, hcases⟩ :=
      perform_waiting _ (ha a (List.mem_singleton_self a)) hbefore.waiting
    rw [← after_concat] at hwaiting hcases
    simp only [hdown] at hcases
    rcases hcases with ⟨key, rfl, hup, htransitions⟩ | ⟨hno, htransitions⟩
    · exact hbefore.press _ hup hwaiting htransitions
    · exact hbefore.noPress _ hno hwaiting htransitions

/-- Actions that give a wait a reason to end. -/
def EndsWait (actions : List KeyAction) : Prop :=
  k.InterruptedAfter actions ∨ k.WentDown actions

/-- A look finds a reason to end exactly if the actions give one. -/
lemma ready_iff (h : ∀ a ∈ actions, a.Valid) :
    (k.beginWait.after actions).ready = true ↔ k.EndsWait actions := by
  have hempty := (k.after_remembers h).empty_iff
  have hinterrupted : _ ↔ k.InterruptedAfter actions := k.beginWait.interrupted_after h
  rw [ready, Bool.or_eq_true, hinterrupted, Bool.not_eq_true', List.isEmpty_eq_false_iff, ne_eq,
    hempty, not_not]
  exact or_comm

/-- What a wait that has seen actions leaves behind: a keypad that remembers nothing, and the
batches that were not needed. -/
structure Leaves (k : Keypad) (seen : List KeyAction) (rest : List (List (KeypadOp KeyAction)))
    (s : Scripted Keypad KeyAction) : Prop where
  transitions_eq : s.thing.transitions = []
  waiting_eq : s.thing.waiting = false
  isDown_iff : ∀ key : Key, s.thing.isDown key.val = true ↔ k.DownAfter seen key
  interrupted_iff : s.thing.interrupted = true ↔ k.InterruptedAfter seen
  batches_eq : s.batches = rest

lemma leaves_endWait (h : ∀ a ∈ actions, a.Valid) (rest : List (List (KeypadOp KeyAction))) :
    k.Leaves actions rest ⟨(k.beginWait.after actions).endWait, rest⟩ :=
  ⟨rfl, rfl, k.beginWait.isDown_after h, k.beginWait.interrupted_after h, rfl⟩

/-- A finished wait is interrupted, or answers with the first key that went down. -/
lemma answer_after (h : ∀ a ∈ actions, a.Valid) (hends : k.EndsWait actions) :
    (k.InterruptedAfter actions →
        (k.beginWait.after actions).answer = .error (.fault .inputInterrupted)) ∧
      (¬ k.InterruptedAfter actions →
        ∃ key, k.FirstDown actions key ∧ (k.beginWait.after actions).answer = .ok key) := by
  have hremembers := k.after_remembers h
  have hinterrupted : _ ↔ k.InterruptedAfter actions := k.beginWait.interrupted_after h
  rw [← hinterrupted, answer]
  constructor
  · exact fun hi => if_pos hi
  · intro hi
    have hwent : k.WentDown actions := hends.resolve_left fun h' => hi (hinterrupted.2 h')
    rw [if_neg hi]
    rcases hkeys : (k.beginWait.after actions).transitions with _ | ⟨key, rest⟩
    · exact absurd hwent (hremembers.empty_iff.1 hkeys)
    · refine ⟨key, (hremembers.head_iff key).1 ?_, rfl⟩
      rw [hkeys]
      rfl

end Keypad

/-! ### Batches of actions -/

namespace Scripted

/-- Batches of actions, as steps. -/
def steps (batches : List (List KeyAction)) : List (List (KeypadOp KeyAction)) :=
  batches.map (·.map .act)

lemma valid_of_take {batches : List (List KeyAction)}
    (h : ∀ batch ∈ batches, ∀ a ∈ batch, a.Valid) (count : ℕ) :
    ∀ a ∈ (batches.take count).flatten, a.Valid := by
  intro a ha
  obtain ⟨batch, hbatch, hmem⟩ := List.mem_flatten.1 ha
  exact h batch (List.mem_of_mem_take hbatch) a hmem

/-- The steps of a batch do to the keypad what its actions do. -/
lemma performAll_actions (depth : ℕ) (rest : List (List (KeypadOp KeyAction)))
    {actions : List KeyAction} (h : ∀ a ∈ actions, a.Valid) (k : Keypad) :
    performAll (KeypadOp.performWithin KeyAction.perform (depth + 1)) (actions.map .act) ⟨k, rest⟩ =
      (.ok (), ⟨k.after actions, rest⟩) := by
  induction actions generalizing k with
  | nil => rfl
  | cons a actions ih =>
    obtain ⟨ha, hactions⟩ := List.forall_mem_cons.1 h
    have hok := KeyAction.perform_of_valid ha k
    rcases hk : a.perform k with ⟨r, k'⟩
    rw [hk] at hok
    obtain rfl : r = .ok () := hok
    have hafter : k.after (a :: actions) = k'.after actions := by
      rw [Keypad.after, List.foldl_cons, hk]
      rfl
    rw [hafter, ← ih hactions k', List.map_cons, performAll, KeypadOp.performWithin]
    simp only [hk]
    rfl

/-- Looks go on over batches up to the first one after which there is a reason to end, or to the end
of all batches. -/
lemma lookUntilReady_actions (depth : ℕ) {rounds checks : ℕ} {batches : List (List KeyAction)}
    (hvalid : ∀ batch ∈ batches, ∀ a ∈ batch, a.Valid) (hrounds : checks ≤ rounds)
    (hchecks : checks ≤ batches.length) {k : Keypad}
    (hearlier : ∀ c < checks, (k.after (batches.take c).flatten).ready = false)
    (hend : (k.after (batches.take checks).flatten).ready = true ∨ checks = batches.length) :
    Keypad.lookUntilReady (performNext (KeypadOp.performWithin KeyAction.perform (depth + 1)))
        rounds ⟨k, steps batches⟩ =
      (.ok (), ⟨k.after (batches.take checks).flatten, steps (batches.drop checks)⟩) := by
  induction checks generalizing rounds batches k with
  | zero =>
    -- This is the check that ends the wait; with no round left it is not even made.
    cases rounds with
    | zero => rfl
    | succ rounds =>
      rcases hend with hready | hnil
      · exact if_pos hready
      · rw [eq_comm, List.length_eq_zero_iff] at hnil
        subst hnil
        exact ite_self _
  | succ checks ih =>
    obtain ⟨rounds, rfl⟩ := Nat.exists_eq_add_of_lt hrounds
    obtain _ | ⟨batch, rest⟩ := batches
    · exact absurd hchecks (Nat.not_succ_le_zero checks)
    obtain ⟨hbatch, hrest⟩ := List.forall_mem_cons.1 hvalid
    have hafter : ∀ c, k.after ((batch :: rest).take (c + 1)).flatten =
        (k.after batch).after (rest.take c).flatten := fun c => by
      rw [List.take_succ_cons, List.flatten_cons, Keypad.after_append]
    have hunready : ¬ (HasKeypad.keypad (Scripted.mk k (steps (batch :: rest)))).ready = true :=
      Bool.eq_false_iff.1 (hearlier 0 (Nat.succ_pos checks))
    have hact : performNext (KeypadOp.performWithin KeyAction.perform (depth + 1))
        ⟨k, steps (batch :: rest)⟩ = some (.ok (), ⟨k.after batch, steps rest⟩) :=
      congrArg some (performAll_actions depth (steps rest) hbatch k)
    have hgoes := ih hrest (Nat.le_add_right checks rounds) (Nat.le_of_succ_le_succ hchecks)
      (fun c hc => hafter c ▸ hearlier (c + 1) (Nat.succ_lt_succ hc))
      (hend.imp (fun h => hafter checks ▸ h) Nat.succ.inj)
    rw [hafter checks, List.drop_succ_cons, ← hgoes]
    -- The look finds no reason to end, and the world performs the first batch.
    rw [Keypad.lookUntilReady, if_neg hunready, hact]

lemma length_le_rounds (k : Keypad) (batches : List (List KeyAction)) :
    batches.length ≤ (⟨k, steps batches⟩ : Scripted Keypad KeyAction).rounds := by
  induction batches with
  | nil => exact Nat.zero_le _
  | cons batch rest ih =>
    have hweight : KeypadOp.weightOfBatches (steps (batch :: rest)) =
        KeypadOp.weightOfBatch (batch.map .act) + KeypadOp.weightOfBatches (steps rest) + 1 := by
      rw [steps, List.map_cons, KeypadOp.weightOfBatches]
      rfl
    have ih' : rest.length ≤ KeypadOp.weightOfBatches (steps rest) := ih
    rw [rounds, hweight, List.length_cons]
    omega

section Waits

variable {s s' : Scripted Keypad KeyAction}

/-- How a wait acts on the world: it performs the next batch. -/
def nextBatch (s : Scripted Keypad KeyAction) :
    Scripted Keypad KeyAction → Option (Except Failure Unit × Scripted Keypad KeyAction) :=
  performNext (KeypadOp.performWithin KeyAction.perform (s.rounds + 1))

/-- A wait is performed as a wait with a time limit or without. -/
lemma perform_wait (timed : Bool) :
    (KeypadOp.wait timed).perform KeyAction.perform s =
      if timed then
        ((Keypad.waitBriefly (nextBatch s) s.rounds s).1.map .key,
          (Keypad.waitBriefly (nextBatch s) s.rounds s).2)
      else
        ((Keypad.wait (nextBatch s) s.rounds s).1.map fun key => .key (some key),
          (Keypad.wait (nextBatch s) s.rounds s).2) := by
  have hdepth : (KeypadOp.wait timed : KeypadOp KeyAction).weight + s.rounds + 1 =
      s.rounds + 1 + 1 := congrArg Nat.succ (Nat.add_comm 1 s.rounds)
  rw [KeypadOp.perform, hdepth, KeypadOp.performWithin.eq_def]
  cases timed <;> rfl

variable
  (hlook : Keypad.lookUntilReady (nextBatch s) s.rounds (Keypad.update Keypad.beginWait s) =
    (.ok (), s'))

include hlook

/-- A wait whose last look found a reason to end. -/
lemma perform_wait_of_ready (timed : Bool) (hready : s'.thing.ready = true) :
    (KeypadOp.wait timed).perform KeyAction.perform s =
      (s'.thing.answer.map fun key => .key (some key), Keypad.update Keypad.endWait s') := by
  have hready' : (HasKeypad.keypad s').ready = true := hready
  rw [perform_wait]
  cases timed with
  | false =>
    rw [if_neg Bool.false_ne_true, Keypad.wait, hlook]
    dsimp only
    rw [if_pos hready']
    rfl
  | true =>
    rw [if_pos rfl, Keypad.waitBriefly, hlook]
    dsimp only
    rw [if_pos hready']
    show ((s'.thing.answer.map some).map KeypadReply.key, _) = _
    rcases s'.thing.answer with _ | _ <;> rfl

/-- A wait with a time limit whose last look found no reason to end. -/
lemma perform_wait_of_unready (hready : s'.thing.ready = false) :
    (KeypadOp.wait true).perform KeyAction.perform s =
      (.ok (.key none), Keypad.update Keypad.endWait s') := by
  have hready' : ¬ (HasKeypad.keypad s').ready = true := Bool.eq_false_iff.1 hready
  rw [perform_wait, if_pos rfl, Keypad.waitBriefly, hlook]
  dsimp only
  rw [if_neg hready']
  rfl

end Waits

/-- **A wait ends with the first new press.**  Let batches of actions on keys that there are lie
ready for a wait, on any keypad, with any keys held and whatever earlier waits have left, and let
no check before this one find it interrupted or a key that went down.  If this check does, the wait
ends there: interrupted if the keypad is interrupted now, whatever was pressed, and otherwise with
the first key that went down since the wait began, also if that is up again.  A key that is held
and pressed once more does not go down.  If this check finds nothing either and it is the last, a
wait with a time limit ends with no key.  A wait that has ended remembers no key, so that a later
one has only its own presses to answer with.  And at every moment a key is down exactly if the last
action that touches it is a press, or none touches it and it was down before. -/
theorem wait_gives_first_press (k : Keypad) (timed : Bool) {batches : List (List KeyAction)}
    (hvalid : ∀ batch ∈ batches, ∀ a ∈ batch, a.Valid) {checks : ℕ}
    (hchecks : checks ≤ batches.length)
    (hearlier : ∀ c < checks, ¬ k.EndsWait (batches.take c).flatten) :
    let seen := (batches.take checks).flatten
    let answer := (KeypadOp.wait timed).perform KeyAction.perform ⟨k, steps batches⟩
    (k.EndsWait seen →
        k.Leaves seen (steps (batches.drop checks)) answer.2 ∧
        (k.InterruptedAfter seen → answer.1 = .error (.fault .inputInterrupted)) ∧
        (¬ k.InterruptedAfter seen →
          ∃ key, k.FirstDown seen key ∧ answer.1 = .ok (.key (some key)))) ∧
      (¬ k.EndsWait seen → checks = batches.length → timed = true →
        k.Leaves seen [] answer.2 ∧ answer.1 = .ok (.key none)) ∧
      ∀ actions : List KeyAction, (∀ a ∈ actions, a.Valid) → ∀ key : Key,
        (k.beginWait.after actions).isDown key.val = true ↔ k.DownAfter actions key := by
  intro seen answer
  have hseen := fun c => valid_of_take hvalid c
  have hunready : ∀ c < checks, (k.beginWait.after (batches.take c).flatten).ready = false :=
    fun c hc => Bool.eq_false_iff.2 fun hr => hearlier c hc ((k.ready_iff (hseen c)).1 hr)
  have hlook : (k.beginWait.after seen).ready = true ∨ checks = batches.length → _ :=
    fun hend => lookUntilReady_actions (rounds ⟨k, steps batches⟩) hvalid
      (Nat.le_trans hchecks (length_le_rounds k batches)) hchecks hunready hend
  refine ⟨fun hends => ?_, fun hnot hall htimed => ?_, fun actions h => k.beginWait.isDown_after h⟩
  · have hready := (k.ready_iff (hseen checks)).2 hends
    have hanswer : answer = _ := perform_wait_of_ready (hlook (.inl hready)) timed hready
    obtain ⟨hinterrupted, hfirst⟩ := k.answer_after (hseen checks) hends
    rw [hanswer]
    refine ⟨k.leaves_endWait (hseen checks) _, fun hi => ?_, fun hi => ?_⟩
    · exact congrArg (Except.map _) (hinterrupted hi)
    · obtain ⟨key, hkey, hok⟩ := hfirst hi
      exact ⟨key, hkey, congrArg (Except.map _) hok⟩
  · subst htimed
    have hready : (k.beginWait.after seen).ready = false :=
      Bool.eq_false_iff.2 fun hr => hnot ((k.ready_iff (hseen checks)).1 hr)
    have hanswer : answer = _ := perform_wait_of_unready (hlook (.inr hall)) hready
    have hleaves := k.leaves_endWait (hseen checks) (steps (batches.drop checks))
    rw [List.drop_of_length_le (Nat.le_of_eq hall.symm)] at hanswer hleaves
    rw [hanswer]
    exact ⟨hleaves, rfl⟩

/-- A keypad whose key three is held, and that still remembers that it went down. -/
def heldKeypad : Keypad :=
  { Keypad.initial.press ⟨3, by decide⟩ with transitions := [⟨3, by decide⟩] }

/-- Batches in which the held key is pressed once more, others go down and up, and one more is not
needed. -/
def presses : List (List KeyAction) :=
  [[.press 3, .interrupt, .clearInterrupt],
    [.release 3, .press 7, .press 3, .release 7],
    [.press 9]]

theorem wait_gives_first_press_held :
    let answer := (KeypadOp.wait false).perform KeyAction.perform ⟨heldKeypad, steps presses⟩
    answer.1 = .ok (.key (some 7)) ∧
      heldKeypad.Leaves (presses.take 2).flatten (steps [[.press 9]]) answer.2 := by
  intro answer
  have hvalid : ∀ batch ∈ presses, ∀ a ∈ batch, a.Valid := by
    simp [presses, KeyAction.Valid]
  have hseen := fun c => valid_of_take hvalid c
  have hearlier : ∀ c < 2, ¬ heldKeypad.EndsWait (presses.take c).flatten := by
    intro c hc
    rw [← heldKeypad.ready_iff (hseen c)]
    revert c
    decide
  have hends := (heldKeypad.ready_iff (hseen 2)).1 (by decide)
  have hquiet : ¬ heldKeypad.InterruptedAfter (presses.take 2).flatten :=
    mt (heldKeypad.beginWait.interrupted_after (hseen 2)).2 (by decide)
  obtain ⟨hleaves, -, hfirst⟩ :=
    (wait_gives_first_press heldKeypad false hvalid (by decide) hearlier).1 hends
  obtain ⟨key, hkey, hanswer⟩ := hfirst hquiet
  have hseven := ((heldKeypad.after_remembers (hseen 2)).head_iff key).2 hkey
  obtain rfl : 7 = key := Option.some.inj (Eq.trans (by decide) hseven)
  exact ⟨hanswer, hleaves⟩

end Scripted

end Chip8
