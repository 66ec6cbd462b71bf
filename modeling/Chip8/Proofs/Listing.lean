import Chip8.Listing
import Chip8.Proofs.Disassembly
import Chip8.Proofs.Trace

/-!
# What a listing shows

A listing has a row for every second address from where it starts, as long as there are both bytes
of a word and the address lies below its end.  No row depends on another, so the row with a given
number can be told from its address and the two bytes there: it is `Memory.rowAt`.

A step finds its operation on another way, from a word that was fetched and an opcode that was
decoded.  But it reads the same bytes, and a word that has an opcode reads as this opcode says.  So
the main result, `listing_exact`, also says that a step shows what the listing has for its address.
-/

namespace Chip8

/-- The two hexadecimal digits of either byte of a word. -/
lemma Word.digitPairs_ofBytes (high low : UInt8) :
    (ofBytes high low).digitPairs =
      String.ofList (Hex.upper 2 high.toNat ++ ' ' :: Hex.upper 2 low.toNat) := by
  have hlow := low.toNat_lt
  have hhead : (256 * high.toNat + low.toNat) / 256 = high.toNat := by omega
  have htail : (256 * high.toNat + low.toNat) % 256 = low.toNat := by omega
  simp only [digitPairs, kk, ofBytes, hhead, htail]

/-- A word that stands for an instruction reads as this instruction. -/
lemma Word.operation_of_opcode {w : Word} {op : Opcode} (h : w.opcode? = some op) :
    w.operation = w.operationAs op := by
  rw [operation, h]

lemma Hex.upperDigit_ne_blank : ∀ a < 16, upperDigit a ≠ ' ' := by decide

/-- Without the blank between them, the digits of two bytes are those of the word. -/
lemma filter_digitPairs (high low : ℕ) :
    (String.ofList (Hex.upper 2 high ++ ' ' :: Hex.upper 2 low)).toList.filter (· ≠ ' ') =
      (String.ofList (Hex.upper 2 high ++ Hex.upper 2 low)).toList := by
  have hdigits (a : ℕ) : (Hex.upper 2 a).filter (· ≠ ' ') = Hex.upper 2 a := by
    refine List.filter_eq_self.2 fun c hc => decide_eq_true ?_
    rintro rfl
    exact Hex.notMem_upper Hex.upperDigit_ne_blank 2 a hc
  rw [String.toList_ofList, String.toList_ofList, List.filter_append,
    List.filter_cons_of_neg (by decide), hdigits, hdigits]

namespace Memory

variable (m : Memory)

/-- The row of a listing for the two bytes from an address on. -/
def rowAt (address : ℤ) : ListingRow :=
  let high := m.byteAt address.toNat
  let low := m.byteAt (address.toNat + 1)
  { address
    bytes := String.ofList (Hex.upper 2 high.toNat ++ ' ' :: Hex.upper 2 low.toNat)
    text := (Word.ofBytes high low).operation.text }

/-- The rows from an address on, if there are enough for all that are below the end and every one of
these has both its bytes. -/
lemma listingFrom_eq {stop : ℤ} (hstop : stop ≤ m.size - 1) (count : ℕ) {address : ℤ}
    (hfrom : 0 ≤ address) (hcount : stop - address ≤ count) :
    ∃ rows, m.listingFrom stop count address = .ok rows ∧
      ∀ k : ℕ, rows[k]? =
        if address + 2 * k < stop then some (m.rowAt (address + 2 * k)) else none := by
  induction count generalizing address with
  | zero =>
    refine ⟨[], rfl, fun k => ?_⟩
    rw [if_neg (by omega)]
    rfl
  | succ count ih =>
    unfold listingFrom
    by_cases hbelow : address < stop
    · obtain ⟨rows, hrows, hrow⟩ := @ih (address + 2) (by omega) (by omega)
      have hc : m.Covers address 2 := ⟨hfrom, by omega⟩
      rw [if_pos hbelow, readWord_eq, if_pos hc]
      dsimp only [bind, Except.bind]
      rw [hrows]
      refine ⟨_, rfl, fun k => ?_⟩
      cases k with
      | zero =>
        have hhere : address + 2 * ((0 : ℕ) : ℤ) = address := by omega
        rw [hhere, if_pos hbelow, List.getElem?_cons_zero, Word.digitPairs_ofBytes]
        rfl
      | succ k =>
        have hnext : address + 2 * ((k + 1 : ℕ) : ℤ) = address + 2 + 2 * k := by omega
        rw [hnext, List.getElem?_cons_succ]
        exact hrow k
    · refine ⟨[], if_neg hbelow, fun k => ?_⟩
      rw [if_neg (by omega)]
      rfl

/-- The rows of a listing are those whose words lie below both ends. -/
lemma listing_eq {start : ℤ} (hstart : 0 ≤ start) (length : ℤ) :
    ∃ rows, m.listing start length = .ok rows ∧
      ∀ k : ℕ, rows[k]? =
        if start + 2 * k < min (start + length) (m.size - 1) then some (m.rowAt (start + 2 * k))
        else none :=
  m.listingFrom_eq (Int.min_le_right _ _) _ hstart (Int.self_le_toNat _)

end Memory

/-- A step shows what the row of its address shows, the digits without the blank. -/
lemma Machine.step_row {m m' : Machine} {s : Snapshot} (h : m.step = (.ok s, m')) :
    (m.storage.memory.rowAt m.registers.pc).text = s.operation.text ∧
      (m.storage.memory.rowAt m.registers.pc).bytes.toList.filter (· ≠ ' ') =
        s.operation.digits.toList := by
  constructor
  · obtain ⟨w, op, storage, flow, m₁, hf, -, rfl, -⟩ := step_ok h
    obtain ⟨-, hw, hop, -⟩ := fetch_ok hf
    rw [(m₁.conclude_journal m.registers.pc w op flow).2.1, ← Word.operation_of_opcode hop, hw]
    rfl
  · obtain ⟨-, high, low, op, rfl, rfl, -, hdigits, -⟩ := (step_traces h).accesses_eq
    rw [hdigits]
    exact filter_digitPairs _ _

namespace Memory

/-- **A listing is exact, and agrees with execution.**  From any address that is not below zero and
for any length, a listing is given.  Its rows are those of every second address below its end, as
long as the memory has both bytes of a word there, in order and no others; and each has the two
bytes at its address and the text of their word.  When a step succeeds at one of these addresses,
the text and the digits that it shows are those of the row. -/
theorem listing_exact (memory : Memory) {start : ℤ} (hstart : 0 ≤ start) (length : ℤ) :
    ∃ rows, memory.listing start length = .ok rows ∧
      (∀ k : ℕ, rows[k]? =
        if start + 2 * k < min (start + length) (memory.size - 1) then
          some (memory.rowAt (start + 2 * k))
        else none) ∧
      ∀ (m m' : Machine) (s : Snapshot), m.storage.memory = memory → m.step = (.ok s, m') →
        ∀ k : ℕ, m.registers.pc = start + 2 * k → m.registers.pc < start + length →
          ∃ row, rows[k]? = some row ∧ row.address = m.registers.pc ∧
            row.text = s.operation.text ∧
            row.bytes.toList.filter (· ≠ ' ') = s.operation.digits.toList := by
  obtain ⟨rows, hrows, hrow⟩ := memory.listing_eq hstart length
  refine ⟨rows, hrows, hrow, ?_⟩
  rintro m m' s rfl hstep k hpc hlength
  obtain ⟨⟨-, hcovered⟩, -⟩ := (Machine.step_traces hstep).accesses_eq
  obtain ⟨htext, hdigits⟩ := Machine.step_row hstep
  refine ⟨_, (hrow k).trans (if_pos (by omega)), hpc.symm, ?_, ?_⟩
  · rw [← hpc]
    exact htext
  · rw [← hpc]
    exact hdigits

/-- For one, the listing of three bytes from an odd address on.  It has two words, of which the last
byte lies behind the three.  A machine that executes the first of them shows what the listing has
for it. -/
theorem listing_exact_fromOdd :
    let m := (Machine.holding [0xFF, 0x60, 0x05, 0xFF, 0xFF, 0x00]).setPc 0x201
    let rows : List ListingRow := [⟨0x201, "60 05", "LD V0, #$05"⟩, ⟨0x203, "FF FF", "DW $FFFF"⟩]
    (0 : ℤ) ≤ 0x201 ∧ m.storage.memory.listing 0x201 3 = .ok rows ∧
      ∃ s m', m.step = (.ok s, m') ∧ rows[0]?.map ListingRow.text = some s.operation.text := by
  intro m rows
  obtain ⟨rows', hrows, -, hagrees⟩ :=
    @listing_exact m.storage.memory 0x201 (by decide) 3
  have hlisting : m.storage.memory.listing 0x201 3 = .ok rows := by decide +kernel
  obtain rfl := Except.ok.inj (hlisting.symm.trans hrows)
  rcases hstep : m.step with ⟨e | s, m'⟩
  · have hdone : m.step.1.isOk = true := by decide +kernel
    rw [hstep] at hdone
    exact absurd hdone nofun
  · obtain ⟨row, hrow, -, htext, -⟩ := hagrees m m' s rfl hstep 0 rfl (by decide)
    refine ⟨by decide, hlisting, s, m', rfl, ?_⟩
    rw [hrow]
    exact congrArg some htext

end Memory

end Chip8
