import Chip8.Keypad.Script
import Mathlib.Data.Int.Notation
import Mathlib.Data.Nat.Notation
import Mathlib.Tactic.Lemma

/-!
# Key waits that meet faults only

What is done to the keypad while the machine waits may lie in scripts, and scripts may hold waits
and scripts again.  If all of it is about keys that the keypad has, a wait ends with a key or with
the fault of an interruption, and what is left in the scripts is again about such keys.

The argument goes from the inside out: a look keeps a property if the world's acts do, a wait keeps
it if its looks do, and a step at depth `n + 1` is performed with waits whose acts are steps at
depth `n`.
-/

namespace Chip8

/-- A result that is no failure or a fault. -/
def FaultsOnly {α : Type} (r : Except Failure α) : Prop :=
  ∀ e, r = .error e → ∃ c, e = .fault c

namespace FaultsOnly

variable {α β : Type}

lemma ok (a : α) : FaultsOnly (.ok a) := nofun

lemma fault (c : Fault) : FaultsOnly (.error (.fault c) : Except Failure α) := by
  rintro e ⟨⟩
  exact ⟨c, rfl⟩

lemma map {r : Except Failure α} (h : FaultsOnly r) (f : α → β) : FaultsOnly (r.map f) := by
  intro e he
  cases r with
  | ok a => exact absurd he nofun
  | error e' =>
    obtain rfl : e' = e := Except.error.inj he
    exact h e' rfl

/-- What a result fails with, any other result that fails with it may. -/
lemma error {e : Failure} (h : FaultsOnly (.error e : Except Failure α)) :
    FaultsOnly (.error e : Except Failure β) := by
  rintro e' ⟨⟩
  exact h e rfl

end FaultsOnly

/-! ### Looks and waits -/

namespace Keypad

lemma answer_faultsOnly (k : Keypad) : FaultsOnly k.answer := by
  unfold answer
  split
  · exact .fault _
  · split
    · exact .ok _
    · exact .fault _

variable {σ : Type} [HasKeypad σ]

/-- The world's acts keep a property, and fail by faults only. -/
def Keeps (P : σ → Prop) (act : σ → Option (Except Failure Unit × σ)) : Prop :=
  ∀ s r s', P s → act s = some (r, s') → FaultsOnly r ∧ P s'

variable {P : σ → Prop} {act : σ → Option (Except Failure Unit × σ)}

lemma lookUntilReady_keeps (hact : Keeps P act) (rounds : ℕ) {s : σ} (h : P s) :
    FaultsOnly (lookUntilReady act rounds s).1 ∧ P (lookUntilReady act rounds s).2 := by
  induction rounds generalizing s with
  | zero => exact ⟨.ok _, h⟩
  | succ rounds ih =>
    unfold lookUntilReady
    split
    · exact ⟨.ok _, h⟩
    · rcases hs : act s with _ | ⟨_ | _, s'⟩
      · exact ⟨.ok _, h⟩
      · exact hact s _ s' h hs
      · exact ih (hact s _ s' h hs).2

variable (hP : ∀ f s, P s → P (update f s))
include hP

lemma wait_keeps (hact : Keeps P act) (rounds : ℕ) {s : σ} (h : P s) :
    FaultsOnly (wait act rounds s).1 ∧ P (wait act rounds s).2 := by
  have hlook := lookUntilReady_keeps hact rounds (hP beginWait s h)
  unfold wait
  rcases hl : lookUntilReady act rounds (update beginWait s) with ⟨e | ⟨⟩, s'⟩
  · rw [hl] at hlook
    exact ⟨hlook.1.error, hP endWait s' hlook.2⟩
  · rw [hl] at hlook
    refine ⟨answer_faultsOnly _, hP endWait _ ?_⟩
    split
    · exact hlook.2
    · exact hP interrupt s' hlook.2

lemma waitBriefly_keeps (hact : Keeps P act) (rounds : ℕ) {s : σ} (h : P s) :
    FaultsOnly (waitBriefly act rounds s).1 ∧ P (waitBriefly act rounds s).2 := by
  have hlook := lookUntilReady_keeps hact rounds (hP beginWait s h)
  unfold waitBriefly
  rcases hl : lookUntilReady act rounds (update beginWait s) with ⟨e | ⟨⟩, s'⟩
  · rw [hl] at hlook
    exact ⟨hlook.1.error, hP endWait s' hlook.2⟩
  · rw [hl] at hlook
    refine ⟨?_, hP endWait s' hlook.2⟩
    dsimp only
    split
    · exact (answer_faultsOnly _).map some
    · exact .ok _

end Keypad

/-! ### Steps about keys that there are -/

/-- The key number of an action is one that the keypad has. -/
def KeyAction.Valid : KeyAction → Prop
  | press number | release number => 0 ≤ number ∧ number < 16
  | releaseAll | interrupt | clearInterrupt => True

lemma Keypad.exists_key {number : ℤ} (h : 0 ≤ number ∧ number < 16) :
    ∃ key, Keypad.key? number = .ok key :=
  ⟨⟨number.toNat, by omega⟩, by rw [Keypad.key?, dif_pos h]; rfl⟩

lemma KeyAction.perform_of_valid {a : KeyAction} (h : a.Valid) (k : Keypad) :
    (a.perform k).1 = .ok () := by
  cases a with
  | press number | release number =>
    obtain ⟨key, hk⟩ := Keypad.exists_key h
    simp only [perform, hk]
  | releaseAll | interrupt | clearInterrupt => rfl

/-- Every action of a step, also in the scripts that it lays ready, is about a key that the keypad
has. -/
inductive KeypadOp.Valid : KeypadOp KeyAction → Prop where
  | act {a : KeyAction} (h : a.Valid) : Valid (.act a)
  | isDown (number : ℤ) : Valid (.isDown number)
  | anyDown : Valid .anyDown
  | interrupted : Valid .interrupted
  | held : Valid .held
  | wait (timed : Bool) : Valid (.wait timed)
  | script {batches : List (List (KeypadOp KeyAction))}
      (h : ∀ batch ∈ batches, ∀ op ∈ batch, Valid op) : Valid (.script batches)

/-- Batches of valid steps. -/
def ValidBatches (batches : List (List (KeypadOp KeyAction))) : Prop :=
  ∀ batch ∈ batches, ∀ op ∈ batch, op.Valid

lemma validBatches_nil : ValidBatches [] := nofun

lemma ValidBatches.append {bs bs' : List (List (KeypadOp KeyAction))} (h : ValidBatches bs)
    (h' : ValidBatches bs') : ValidBatches (bs ++ bs') := by
  intro batch hb
  rcases List.mem_append.1 hb with hb | hb
  · exact h batch hb
  · exact h' batch hb

namespace Scripted

/-- Something with a keypad for which only valid steps lie ready. -/
def Ready (s : Scripted Keypad KeyAction) : Prop := ValidBatches s.batches

lemma ready_update (f : Keypad → Keypad) (s : Scripted Keypad KeyAction) (h : s.Ready) :
    (Keypad.update f s).Ready := h

variable {ρ : Type}

/-- Steps are performed in a way that keeps what lies ready valid, and that fails by faults only. -/
def KeepsReady (perform : KeypadOp KeyAction → Scripted Keypad KeyAction →
    Except Failure ρ × Scripted Keypad KeyAction) : Prop :=
  ∀ op s, op.Valid → s.Ready → FaultsOnly (perform op s).1 ∧ (perform op s).2.Ready

variable {perform : KeypadOp KeyAction → Scripted Keypad KeyAction →
  Except Failure ρ × Scripted Keypad KeyAction}

lemma performAll_ready (hp : KeepsReady perform) {ops : List (KeypadOp KeyAction)}
    (hops : ∀ op ∈ ops, op.Valid) {s : Scripted Keypad KeyAction} (h : s.Ready) :
    FaultsOnly (performAll perform ops s).1 ∧ (performAll perform ops s).2.Ready := by
  induction ops generalizing s with
  | nil => exact ⟨.ok _, h⟩
  | cons op rest ih =>
    have hop := hp op s (hops op List.mem_cons_self) h
    unfold performAll
    rcases ho : perform op s with ⟨e | a, s'⟩
    · rw [ho] at hop
      exact ⟨hop.1.error, hop.2⟩
    · rw [ho] at hop
      exact ih (fun op' h' => hops op' (List.mem_cons_of_mem op h')) hop.2

lemma performNext_keeps (hp : KeepsReady perform) : Keypad.Keeps Ready (performNext perform) := by
  intro s r s' h hs
  unfold performNext at hs
  rcases hb : s.batches with _ | ⟨batch, rest⟩
  · rw [hb] at hs
    exact absurd hs nofun
  · rw [hb] at hs
    have hall : ValidBatches (batch :: rest) := hb ▸ h
    have hbatch := performAll_ready hp (hall batch List.mem_cons_self)
      (s := { s with batches := rest }) fun b hb' => hall b (List.mem_cons_of_mem batch hb')
    rw [Option.some.inj hs] at hbatch
    exact hbatch

/-- Steps are performed soundly at every depth. -/
lemma performWithin_keepsReady (depth : ℕ) :
    KeepsReady (KeypadOp.performWithin KeyAction.perform depth) := by
  induction depth with
  | zero => exact fun op s _ h => ⟨.ok _, h⟩
  | succ depth ih =>
    intro op s hop h
    have hnext := performNext_keeps ih
    unfold KeypadOp.performWithin
    cases hop with
    | @act a ha =>
      have hok := KeyAction.perform_of_valid ha s.thing
      rcases hk : KeyAction.perform a s.thing with ⟨r, k'⟩
      rw [hk] at hok
      obtain rfl : r = .ok () := hok
      simp only [hk]
      exact ⟨.ok _, h⟩
    | isDown | anyDown | interrupted | held => exact ⟨.ok _, h⟩
    | wait timed =>
      cases timed with
      | false =>
        have hw := Keypad.wait_keeps ready_update hnext s.rounds h
        exact ⟨hw.1.map _, hw.2⟩
      | true =>
        have hw := Keypad.waitBriefly_keeps ready_update hnext s.rounds h
        exact ⟨hw.1.map _, hw.2⟩
    | script hs => exact ⟨.ok _, ValidBatches.append h hs⟩

/-- **A key wait meets faults only**, and leaves valid steps ready. -/
theorem waitForKey_ready {s : Scripted Keypad KeyAction} (h : s.Ready) :
    FaultsOnly (waitForKey KeyAction.perform s).1 ∧ (waitForKey KeyAction.perform s).2.Ready :=
  Keypad.wait_keeps ready_update (performNext_keeps (performWithin_keepsReady _)) _ h

/-- A valid step leaves valid steps ready. -/
lemma perform_ready {op : KeypadOp KeyAction} (hop : op.Valid) {s : Scripted Keypad KeyAction}
    (h : s.Ready) : (op.perform KeyAction.perform s).2.Ready :=
  (performWithin_keepsReady _ op s hop h).2

end Scripted

end Chip8
