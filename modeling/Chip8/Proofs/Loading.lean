import Chip8.Proofs.History
import Chip8.Proofs.Replay

/-!
# Loading programs, whole or not at all

A program is loaded exactly if the memory covers it at the load address.  Then its bytes are in the
memory, everything around them is as it was, and execution starts at the load address.

Two checks decide this one after the other.  The loader compares the room behind the load address
with the length of the program, and the memory checks the access as a whole.  Below zero there is
room enough and to spare for the loader, so there the memory refuses what the loader lets pass, and
the fault is not one of the loader.  The main result, `load_whole_or_not`, has all three faults.
-/

namespace Chip8

/-- A fault of the loader. -/
def Fault.OfLoader (c : Fault) : Prop := ∃ cause, c = .programLoad cause

namespace Machine

/-- The machine once a program was loaded at an address: its bytes are there, all others are as they
were, execution starts at the address, and nothing else has changed. -/
structure Loaded (m : Machine) (address : ℤ) (program : List UInt8) (m' : Machine) : Prop where
  size_eq : m'.storage.memory.size = m.storage.memory.size
  inside : ∀ k (h : k < program.length),
    m'.storage.memory.byteAt (address.toNat + k) = program[k]
  around : ∀ a : ℕ, a < address ∨ address + program.length ≤ a →
    m'.storage.memory.byteAt a = m.storage.memory.byteAt a
  pc_eq : m'.registers.pc = address
  rest_eq : m' =
    { m with
      storage := { m.storage with memory := m'.storage.memory }
      registers := { m.registers with pc := m'.registers.pc } }

/-- The fault by which loading a program fails. -/
def loadFault (size : ℕ) (address : ℤ) (length : ℕ) : Fault :=
  if size < address then .programLoad (.outside address)
  else if size - address < length then .programLoad (.tooLarge length (size - address) address)
  else .memoryAccess address length size

variable (m : Machine) (address : ℤ) (program : List UInt8)

/-- The three checks of a load, one after the other. -/
lemma loadBytes_eq :
    m.loadBytes address program =
      if m.storage.memory.Covers address program.length then
        .ok (program.length, { m with storage :=
          { m.storage with memory := m.storage.memory.overwrite address.toNat program } }.setPc
            address)
      else .error (.fault (loadFault m.storage.memory.size address program.length)) := by
  unfold loadBytes loadFault
  rw [Memory.writeBytes_eq]
  dsimp only [bind, Except.bind, pure, Except.pure, throw, throwThe, MonadExceptOf.throw]
  by_cases hc : m.storage.memory.Covers address program.length
  · have hend := hc.2
    rw [if_pos hc, if_pos hc, if_neg (by omega), if_neg (by omega)]
  · rw [if_neg hc, if_neg hc]
    by_cases houtside : (m.storage.memory.size : ℤ) < address
    · rw [if_pos (by omega), if_pos houtside]
    · rw [if_neg (by omega), if_neg houtside]
      by_cases hlarge : (m.storage.memory.size : ℤ) - address < program.length
      · rw [if_pos hlarge, if_pos hlarge]
      · rw [if_neg hlarge, if_neg hlarge]
        rfl

variable {m address program}

lemma loaded_overwrite (hc : m.storage.memory.Covers address program.length) :
    m.Loaded address program ({ m with storage :=
      { m.storage with memory := m.storage.memory.overwrite address.toNat program } }.setPc
        address) := by
  obtain ⟨hfrom, hend⟩ := hc
  have hroom : address.toNat + program.length ≤ m.storage.memory.size := by omega
  refine ⟨Memory.size_overwrite _ _ _, fun k hk => ?_, fun a ha => ?_, rfl, rfl⟩
  · refine (m.storage.memory.byteAt_overwrite _ _ hroom _).trans ?_
    rw [if_pos (by omega), Nat.add_sub_cancel_left]
    simp [hk]
  · refine (m.storage.memory.byteAt_overwrite _ _ hroom _).trans ?_
    rw [if_neg (by omega)]

/-- Where loading fails, it fails by a fault of the loader everywhere but below zero. -/
lemma loadFault_ofLoader_iff (hc : ¬ m.storage.memory.Covers address program.length) :
    (loadFault m.storage.memory.size address program.length).OfLoader ↔
      ¬ (address < 0 ∧ address + program.length ≤ m.storage.memory.size) := by
  unfold loadFault Fault.OfLoader
  unfold Memory.Covers at hc
  split
  · simp
    omega
  · split
    · simp
      omega
    · simp
      omega

/-- The loader has nothing against a program that ends inside the memory. -/
lemma loadFault_of_ending (hend : address + program.length ≤ m.storage.memory.size) :
    loadFault m.storage.memory.size address program.length =
      .memoryAccess address program.length m.storage.memory.size := by
  unfold loadFault
  rw [if_neg (by omega), if_neg (by omega)]

variable (m address program)

/-- **A program is loaded as a whole or not at all.**  If the memory covers the program at the load
address, its length is given and exactly its bytes are replaced, execution starts at the load
address and nothing else changes.  If not, loading fails by a fault and the machine stays as it is.
That is a fault of the loader unless the load address is below zero and the program ends inside the
memory: then the loader sees room enough, and the fault is the one of the memory. -/
theorem load_whole_or_not :
    if m.storage.memory.Covers address program.length then
      ∃ m', m.loadBytes address program = .ok (program.length, m') ∧
        m.Loaded address program m'
    else
      ∃ c, m.loadBytes address program = .error (.fault c) ∧
        m.undergo (.load address program) = m ∧
        (c.OfLoader ↔ ¬ (address < 0 ∧ address + program.length ≤ m.storage.memory.size)) ∧
        (address + program.length ≤ m.storage.memory.size →
          c = .memoryAccess address program.length m.storage.memory.size) := by
  have hload := m.loadBytes_eq address program
  by_cases hc : m.storage.memory.Covers address program.length
  · rw [if_pos hc] at hload ⊢
    exact ⟨_, hload, loaded_overwrite hc⟩
  · rw [if_neg hc] at hload ⊢
    refine ⟨_, hload, ?_, loadFault_ofLoader_iff hc, loadFault_of_ending⟩
    unfold undergo
    simp only [hload]

/-- A machine that holds a program is what loading it makes of a new one. -/
lemma loadBytes_holding (interval : Quantity) (h : program.length ≤ 0xE00) :
    (holding [] interval).loadBytes 0x200 program =
      .ok (program.length, holding program interval) := by
  have hsize : (holding [] interval).storage.memory.size = 0x1000 := Memory.size_holding []
  have hc : (holding [] interval).storage.memory.Covers 0x200 program.length :=
    ⟨by decide, by omega⟩
  have hempty : (holding [] interval).storage.memory = .initial := by
    simp only [holding, initial, Memory.holding, Memory.overwrite, Memory.place]
  rw [loadBytes_eq, if_pos hc, hempty]
  rfl

/-- For one, two bytes at one below zero: the memory has no such place, and it is not the loader
that says so. -/
theorem load_whole_or_not_belowZero :
    (holding []).loadBytes (-1) [0x60, 0x05] = .error (.fault (.memoryAccess (-1) 2 0x1000)) ∧
      ¬ (Fault.memoryAccess (-1) 2 0x1000).OfLoader := by
  obtain ⟨c, hload, -, hloader, hending⟩ := (holding []).load_whole_or_not (-1) [0x60, 0x05]
  have hsize : (holding []).storage.memory.size = 0x1000 := Memory.size_holding []
  rw [hsize] at hloader hending
  obtain rfl := hending (by decide)
  exact ⟨hload, fun h => hloader.1 h ⟨by decide, by decide⟩⟩

end Machine

end Chip8
