import Chip8.Proofs.Likeness
import Chip8.Proofs.Sound

/-!
# What a machine says has no part in what it does

A machine logs lines and drives a tone, and never looks at either.  So machines that are the same
without their logs and their tones make the same steps, and give the same time to the same timers.
No step touches the tone: only time that passes for the sound timer does, and the end of a run.
-/

namespace Chip8

/-- The tone after it was asked to begin and to end. -/
def Tone.asked (tone : Tone) (events : List ToneEvent) : Tone :=
  events.foldl (fun tone event => match event with | .start => tone.start | .stop => tone.stop) tone

/-- What the sound timer becomes when time passes, and what is asked of its tone, does not depend on
the tone. -/
lemma Timer.exists_asked (t : Timer) (elapsed : Quantity) :
    ∃ t' events, ∀ tone, t.update Tone.listeners elapsed tone = (t', tone.asked events) := by
  unfold update
  by_cases hidle : t.value = 0
  · simp only [if_pos hidle]
    exact ⟨t, [], fun _ => rfl⟩
  · simp only [if_neg hidle]
    by_cases hremains : 0 < t.remaining - elapsed
    · simp only [if_pos hremains]
      exact ⟨_, [], fun _ => rfl⟩
    · simp only [if_neg hremains, Sound.tellAll_elapsed, Sound.tellAll_stopped]
      by_cases hstops : t.value - 1 = 0
      · simp only [hstops, ↓reduceIte]
        exact ⟨_, [.start, .stop], fun _ => rfl⟩
      · simp only [hstops, ↓reduceIte]
        exact ⟨_, [.start], fun _ => rfl⟩

namespace Machine

/-- The machine without its log and its tone. -/
def hushed (m : Machine) : Machine := { m with tone := {}, log := #[] }

variable {m m' : Machine}

lemma likeness_hushed : Likeness fun m m' => m.hushed = m'.hushed where
  core_eq {m m'} h := show m.hushed.core = m'.hushed.core from congrArg core h
  withCore c h := congrArg (·.withCore c) h
  logLine _ _ h := h
  drawn h := congrArg drawn h
  waited h := congrArg waited h
  assignDt value h := congrArg (mapRegisters · fun r => { r with dt := r.dt.assign value }) h
  assignSt value h := congrArg (mapRegisters · fun r => { r with st := r.st.assign value }) h

lemma intake_hushed (m : Machine) (op : Opcode) : m.hushed.intake op = m.intake op := by
  cases op <;> rfl

/-- Machines that differ in log and tone only make the same step. -/
lemma step_of_hushed_eq (h : m.hushed = m'.hushed) :
    m.step.1 = m'.step.1 ∧ m.step.2.hushed = m'.step.2.hushed := by
  have hin : ∀ w op, m.AboutTo w op → m.intake op = m'.intake op := by
    intro w op _
    rw [← intake_hushed m, h, intake_hushed]
  have hafter : m.step.2.hushed = m'.step.2.hushed := (likeness_hushed.step h hin).2
  have hview : m.step.2.hushed.view = m'.step.2.hushed.view := congrArg view hafter
  exact ⟨likeness_hushed.step_result h hin hview, hafter⟩

lemma tick_of_hushed_eq (h : m.hushed = m'.hushed) (elapsed : Quantity) :
    (m.tick elapsed).hushed = (m'.tick elapsed).hushed := by
  have htone : ∀ m : Machine, (m.tick elapsed).hushed = (m.hushed.tick elapsed).hushed := by
    intro m
    obtain ⟨st, events, hupdate⟩ := m.registers.st.exists_asked elapsed
    unfold tick hushed
    simp only [hupdate]
  rw [htone m, h, ← htone m']

/-! ### Steps and the tone -/

lemma Effect.tone {w : Word} {op : Opcode} {o : Outcome Flow} (h : Effect m w op o) :
    o.2.tone = m.tone := by
  cases h <;> rfl

lemma Ending.tone {o : Outcome Snapshot} (h : Ending m o) : o.2.tone = m.tone := by
  cases h with
  | unfetched => rfl
  | @failed w op storage _ _ hf he =>
    have hexecute := (execute_effect { m with storage } w op).tone
    rw [he] at hexecute
    exact hexecute
  | @done w op storage flow _ hf he =>
    have hexecute := (execute_effect { m with storage } w op).tone
    rw [he] at hexecute
    cases flow <;> exact hexecute

/-- No step touches the tone. -/
lemma step_tone (m : Machine) : m.step.2.tone = m.tone := (step_ending m).tone

end Machine

end Chip8
