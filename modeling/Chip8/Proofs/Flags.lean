import Chip8.Proofs.Disassembly
import Chip8.Proofs.History
import Chip8.Proofs.Registers

/-!
# Results and flags

Five operations of family `8` compute a result and a flag, and nothing gets lost between the two:
operands, result and flag add up, as `Opcode.Balances` says for each operation.  Both are computed
from the operands as they were, and then the flag is stored before the result.  So it makes no
difference which of the registers are the same, but for one case: in the register of the flag it is
the result that stays.

The main result is `flags_exact`.
-/

namespace Chip8

/-- The operations that compute a flag, by the trailing nibble of their words.  Two nibbles stand
for the shift to the left. -/
def flagOpcodes : List (ℕ × Opcode) :=
  [(0x4, .add), (0x5, .sub), (0x6, .shr), (0x7, .subn), (0x8, .shl), (0xE, .shl)]

/-- How the operands of an operation add up with its result and its flag: a carry and a borrow are
worth 256, and what a shift pushes out is a bit beyond the end of the result. -/
def Opcode.Balances (a b result flag : ℕ) : Opcode → Prop
  | .add => a + b = 256 * flag + result
  | .sub => (a : ℤ) - b = result - (if a < b then 256 else 0) ∧ flag = if a > b then 1 else 0
  | .subn => (b : ℤ) - a = result - (if b < a then 256 else 0) ∧ flag = if b > a then 1 else 0
  | .shr => a = 2 * result + flag
  | .shl => 2 * a = 256 * flag + result
  | _ => False

namespace Arithmetic

/-- A result is in register `x`, and a flag in the register of the flag unless the result is there.
The other registers are as they were. -/
structure Stored (x flag result : ℕ) (v v' : List ℕ) : Prop where
  length_eq : v'.length = v.length
  result_eq : v'[x]? = some result
  flag_eq : v'[flagRegister]? = some (if x = flagRegister then result else flag)
  others : ∀ k, k ≠ x → k ≠ flagRegister → v'[k]? = v[k]?

lemma stored_store {v : List ℕ} {x : ℕ} (hv : v.length = registerCount) (hx : x < registerCount)
    (flag result : ℕ) : Stored x flag result v (store v x flag result) := by
  have hflag : flagRegister < v.length := hv.symm ▸ (by decide)
  have hresult : x < (v.set flagRegister flag).length := by
    rw [List.length_set, hv]
    exact hx
  refine ⟨by simp [store], List.getElem?_set_self hresult, ?_, fun k hkx hkf => ?_⟩
  · by_cases hxf : x = flagRegister
    · -- the result was stored after the flag
      rw [if_pos hxf, ← hxf]
      exact List.getElem?_set_self hresult
    · rw [if_neg hxf]
      exact (List.getElem?_set_ne hxf).trans (List.getElem?_set_self hflag)
  · exact (List.getElem?_set_ne hkx.symm).trans (List.getElem?_set_ne hkf.symm)

/-- Around the end of eight bits, a difference is short of 256 exactly if it is below zero. -/
lemma difference_eq {a b : ℕ} (ha : a < 256) (hb : b < 256) :
    (a : ℤ) - b = difference a b - (if a < b then 256 else 0) := by
  unfold difference
  split <;> omega

end Arithmetic

namespace Machine

variable {m : Machine} {w : Word} {op : Opcode}

/-- An operation stores a result and a flag that add up with the operands that it found. -/
lemma execute_balance (hv : IsRegisterFile m.registers.v)
    (hop : op ∈ [.add, .sub, .shr, .subn, .shl]) :
    ∃ result flag, result < 256 ∧ flag ≤ 1 ∧ op.Balances (m.reg w.x) (m.reg w.y) result flag ∧
      m.execute w op = (m.mapRegisters fun r =>
        { r with v := Arithmetic.store r.v w.x flag result }).next := by
  have hx : m.reg w.x < 256 := hv.getD_lt w.x
  have hy : m.reg w.y < 256 := hv.getD_lt w.y
  simp only [List.mem_cons, List.not_mem_nil, or_false] at hop
  rcases hop with rfl | rfl | rfl | rfl | rfl
  · refine ⟨(m.reg w.x + m.reg w.y) % 256, if 255 < m.reg w.x + m.reg w.y then 1 else 0,
      Nat.mod_lt _ (by decide), by split <;> decide, ?_, rfl⟩
    show m.reg w.x + m.reg w.y = _
    split <;> omega
  · exact ⟨_, _, IsRegisterFile.difference_lt _ _, by split <;> decide,
      ⟨Arithmetic.difference_eq hx hy, rfl⟩, rfl⟩
  · refine ⟨m.reg w.x / 2, m.reg w.x % 2, by omega, by omega, ?_, rfl⟩
    show m.reg w.x = _
    omega
  · exact ⟨_, _, IsRegisterFile.difference_lt _ _, by split <;> decide,
      ⟨Arithmetic.difference_eq hy hx, rfl⟩, rfl⟩
  · refine ⟨2 * m.reg w.x % 256, m.reg w.x / 128 % 2, Nat.mod_lt _ (by decide), by omega, ?_, rfl⟩
    show 2 * m.reg w.x = _
    omega

/-- **Arithmetic with flags is exact, whichever registers are the same.**  Take any sixteen
registers of a byte and a word of family `8` that ends with one of the nibbles that compute a flag.
The word is executed.  There are a result, which is a byte, and a flag, which is a bit, that add up
with the operands as they were; the result is in the first register, the flag in the last one
unless that is the first, and nothing else has changed. -/
theorem flags_exact (hv : IsRegisterFile m.registers.v) (hfamily : w.family = 8)
    (hop : (w.n, op) ∈ flagOpcodes) :
    w.opcode? = some op ∧ ∃ result flag v',
      result ≤ 255 ∧ flag ≤ 1 ∧ op.Balances (m.reg w.x) (m.reg w.y) result flag ∧
        Arithmetic.Stored w.x flag result m.registers.v v' ∧
        m.executeNumber w.value =
          (.ok .next, { m with registers := { m.registers with v := v' } }) := by
  have hmem : ∀ p ∈ flagOpcodes, p.2 ∈ [.add, .sub, .shr, .subn, .shl] := by decide
  obtain ⟨result, flag, hresult, hflag, hbalance, hexecute⟩ :=
    execute_balance (w := w) hv (hmem _ hop)
  simp only [flagOpcodes, List.mem_cons, Prod.mk.injEq, List.not_mem_nil, or_false] at hop
  have hopcode : w.opcode? = some op := by
    unfold Word.opcode?
    rw [hfamily]
    rcases hop with ⟨hn, rfl⟩ | ⟨hn, rfl⟩ | ⟨hn, rfl⟩ | ⟨hn, rfl⟩ | ⟨hn, rfl⟩ | ⟨hn, rfl⟩ <;>
      rw [hn] <;> rfl
  refine ⟨hopcode, result, flag, _, Nat.le_of_lt_succ hresult, hflag, hbalance,
    Arithmetic.stored_store hv.length_eq w.x_lt flag result, ?_⟩
  rw [Word.executeNumber_eq w.ofInt_value, hopcode]
  exact hexecute

/-- For one, 200 in the register of the flag is added to itself.  Of the sum 400 there remain 144,
and the carry is nowhere. -/
theorem flags_exact_inFlagRegister :
    let m := (holding []).setReg flagRegister 200
    let w : Word := ⟨0x8FF4, by decide⟩
    IsRegisterFile m.registers.v ∧ w.family = 8 ∧ (w.n, .add) ∈ flagOpcodes ∧
      ∃ m', m.executeNumber w.value = (.ok .next, m') ∧ m'.registers.v[flagRegister]? = some 144 := by
  intro m w
  have hv : IsRegisterFile m.registers.v := isRegisterFile_replicate.set flagRegister (by decide)
  have hfamily : w.family = 8 := by decide
  have hop : (w.n, .add) ∈ flagOpcodes := by decide
  have hx : w.x = flagRegister := by decide
  have hy : w.y = flagRegister := by decide
  have hreg : m.reg flagRegister = 200 := rfl
  obtain ⟨-, result, flag, v', hresult, -, hbalance, hstored, hexecute⟩ :=
    flags_exact hv hfamily hop
  rw [hx, hy, hreg] at hbalance
  have hsum : 200 + 200 = 256 * flag + result := hbalance
  obtain rfl : result = 144 := by omega
  exact ⟨hv, hfamily, hop, _, hexecute, hx ▸ hstored.result_eq⟩

end Machine

end Chip8
