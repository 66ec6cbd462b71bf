import Chip8.Proofs.Disassembly
import Chip8.Proofs.Footprint

/-!
# Executing a word, given or fetched

A word is executed in two ways: it is given to the machine as a number, or it lies at the address of
the next instruction and a step fetches it.  The two differ in the journal, the count of
instructions and the address of the next one, and in nothing that an instruction is for.

`m.Executes w P` says that either way the word is executed without a failure and then `P` holds, so
what is to be said of several words in a row is said by nesting.  `Executes.of_execute` leads there
from what the instruction does to the machine, and adds what every instruction keeps.
-/

namespace Chip8.Machine

/-- The machine executes a word without a failure, if it is given and if it is the next one, and
then `P` holds of the machine. -/
structure Executes (m : Machine) (w : Word) (P : Machine → Prop) : Prop where
  given : ∃ m', m.executeNumber w.value = (.ok .next, m') ∧ P m'
  fetched : m.NextWord w → ∃ s m', m.step = (.ok s, m') ∧ P m'

variable {m : Machine} {w : Word} {op : Opcode} {P Q : Machine → Prop}

lemma Executes.mono (h : m.Executes w P) (himp : ∀ m', P m' → Q m') : m.Executes w Q where
  given := by
    obtain ⟨m', hx, hP⟩ := h.given
    exact ⟨m', hx, himp m' hP⟩
  fetched hw := by
    obtain ⟨s, m', hs, hP⟩ := h.fetched hw
    exact ⟨s, m', hs, himp m' hP⟩

/-- A word is executed as its instruction is, on the machine with whatever journal, if the end of a
step has no say in `P`. -/
lemma Executes.of_execute {size : ℕ} (hm : m.WellFormed size) (hop : w.opcode? = some op)
    (hexecute : ∀ storage : Storage, storage.memory = m.storage.memory →
      ∃ m', { m with storage }.execute w op = (.ok .next, m') ∧ P m')
    (hconclude : ∀ m' address, P m' → P (m'.conclude address w op .next).2) :
    m.Executes w fun m' => m'.WellFormed size ∧ m.Footprint w op m' ∧ P m' := by
  have hkept : ∀ {storage : Storage} {m' : Machine}, storage.memory = m.storage.memory →
      { m with storage }.execute w op = (.ok .next, m') →
      m'.WellFormed size ∧ m.Footprint w op m' := by
    intro storage m' hs hx
    have hkeeps := (execute_effect { m with storage } w op).keeps
      (hm.withStorage ((congrArg Memory.size hs).trans hm.memory))
    rw [hx] at hkeeps
    have hfootprint := (execute_footprint (m := { m with storage }) hm.registers hx).1
    exact ⟨hkeeps.wellFormed, hfootprint.ofStorage hs⟩
  constructor
  · obtain ⟨m', hx, hP⟩ := hexecute m.storage rfl
    obtain ⟨hwell, hfootprint⟩ := hkept rfl hx
    refine ⟨m', ?_, hwell, hfootprint, hP⟩
    rw [Word.executeNumber_eq w.ofInt_value, hop]
    exact hx
  · intro hw
    have hfetch := hw.fetch_eq hm.registers.pc.1
    rw [hop, ← fetch_clearJournal] at hfetch
    rcases hf : m.clearJournal.fetch with ⟨r, storage⟩
    rw [hf] at hfetch
    obtain rfl : r = .ok (w, op) := hfetch
    have hs := fetch_storage_memory hf
    obtain ⟨m', hx, hP⟩ := hexecute storage hs
    obtain ⟨hwell, hfootprint⟩ := hkept hs hx
    exact ⟨_, _, step_of_done hf hx, hwell.conclude _ w op .next, hfootprint.conclude _ .next,
      hconclude m' _ hP⟩

end Chip8.Machine
