import Chip8.Proofs.Executing
import Chip8.Proofs.Loading

/-!
# Registers dumped and loaded

One instruction writes the first registers from the address register on, and another reads as many
back.  Both leave the same thing behind: `Registers.LieAt` says that the bytes from an address on
are the registers up to one.  A dump makes it true by changing the memory, and a load by changing
the registers, each of them for what the other was before it.

So the two undo each other.  What a dump wrote a load finds, whatever has become of the registers;
and what a load read a dump writes where it stood.  The main result is `dump_and_load_invert`.
-/

namespace Chip8

namespace Registers

/-- The bytes from an address on are the registers from zero up to one. -/
def LieAt (r : Registers) (x : ℕ) (memory : Memory) (address : ℤ) : Prop :=
  ∀ k ≤ x, (memory.byteAt (address.toNat + k)).toNat = r.get k

variable {r r' : Registers} {x : ℕ} {memory memory' : Memory} {address : ℤ}

/-- The same bytes are the same registers. -/
lemma LieAt.get_eq (h : r.LieAt x memory address) (h' : r'.LieAt x memory' address)
    (hsame : ∀ k ≤ x, memory'.byteAt (address.toNat + k) = memory.byteAt (address.toNat + k)) :
    ∀ k ≤ x, r'.get k = r.get k := by
  intro k hk
  rw [← h k hk, ← h' k hk, hsame k hk]

/-- The same registers are the same bytes. -/
lemma LieAt.byteAt_eq (h : r.LieAt x memory address) (h' : r.LieAt x memory' address) :
    ∀ k ≤ x, memory'.byteAt (address.toNat + k) = memory.byteAt (address.toNat + k) := by
  intro k hk
  exact UInt8.toNat.inj ((h' k hk).trans (h k hk).symm)

/-- A dump changes no register. -/
lemma Footprint.of_dump {w : Word} (h : r.Footprint w .ldMemVx r') (w' : Word) (op : Opcode) :
    r.Footprint w' op r' where
  length_eq := h.length_eq
  file k _ := h.file k List.not_mem_nil
  i _ := h.i (by decide)
  sp _ := h.sp (by decide)
  stack k _ := h.stack k nofun
  dt _ := h.dt nofun
  st _ := h.st nofun

end Registers

namespace Machine

variable {m m' : Machine} {w : Word} {size : ℕ}

/-! ### The two instructions -/

lemma execute_dump (hm : m.registers.WellFormed)
    (hc : m.storage.memory.Covers m.registers.i (w.x + 1 : ℕ)) :
    ∃ m', m.execute w .ldMemVx = (.ok .next, m') ∧
      m.registers.LieAt w.x m'.storage.memory m.registers.i := by
  have hexecute : m.execute w .ldMemVx = m.storeAtI (m.registers.v.take (w.x + 1)) := rfl
  have hbytes : Memory.toBytes ((m.registers.v.take (w.x + 1)).map Int.ofNat) = _ :=
    Memory.toBytes_of_lt fun b hb => hm.file.lt b (List.mem_of_mem_take hb)
  have hx : w.x + 1 ≤ m.registers.v.length := hm.file.length_eq.symm ▸ w.x_lt
  have hlength : (m.registers.v.take (w.x + 1)).length = w.x + 1 := List.length_take_of_le hx
  rw [hexecute, storeAtI, hbytes]
  dsimp only [bind, Except.bind]
  rw [Storage.writeBytes_eq, List.length_map, hlength, if_pos hc]
  refine ⟨_, rfl, fun k hk => ?_⟩
  obtain ⟨hfrom, hto⟩ := hc
  have hroom : m.registers.i.toNat + ((m.registers.v.take (w.x + 1)).map UInt8.ofNat).length ≤
      m.storage.memory.size := by
    rw [List.length_map, hlength]
    omega
  have hlt : k < m.registers.v.length := by omega
  have hbyte : m.registers.v[k] < 256 := hm.file.lt _ (List.getElem_mem hlt)
  show ((m.storage.memory.overwrite m.registers.i.toNat _).byteAt _).toNat = _
  rw [Memory.byteAt_overwrite _ _ _ hroom, if_pos (by simp; omega), Nat.add_sub_cancel_left]
  simp [Registers.get, hlt, Nat.lt_succ_of_le hk, Nat.mod_eq_of_lt hbyte]

lemma execute_load (m : Machine) (hc : m.storage.memory.Covers m.registers.i (w.x + 1 : ℕ)) :
    ∃ m', m.execute w .ldVxMem = (.ok .next, m') ∧
      m'.registers.LieAt w.x m.storage.memory m.registers.i := by
  have hexecute : m.execute w .ldVxMem = m.loadFromI w.x := rfl
  have hcount : (w.x : ℤ) + 1 = (w.x + 1 : ℕ) := rfl
  rw [hexecute, loadFromI, hcount, Storage.readBytes_eq, if_pos hc, Memory.slice_of_covers _ hc]
  refine ⟨_, rfl, fun k hk => ?_⟩
  -- the loaded bytes come in front of the registers that are kept
  show _ = List.getD (_ ++ m.registers.v.drop _) k 0
  rw [List.getD_append _ _ _ _ (by simp; omega)]
  simp [Nat.lt_succ_of_le hk]

lemma executes_dump (hm : m.WellFormed size) (hop : w.opcode? = some .ldMemVx)
    (hc : m.storage.memory.Covers m.registers.i (w.x + 1 : ℕ)) :
    m.Executes w fun m' => m'.WellFormed size ∧ m.Footprint w .ldMemVx m' ∧
      m.registers.LieAt w.x m'.storage.memory m.registers.i := by
  refine .of_execute hm hop (fun storage hs => ?_) fun m' address h => h
  exact execute_dump (m := { m with storage }) hm.registers (hs.symm ▸ hc)

lemma executes_load (hm : m.WellFormed size) (hop : w.opcode? = some .ldVxMem)
    (hc : m.storage.memory.Covers m.registers.i (w.x + 1 : ℕ)) :
    m.Executes w fun m' => m'.WellFormed size ∧ m.Footprint w .ldVxMem m' ∧
      m'.registers.LieAt w.x m.storage.memory m.registers.i := by
  refine .of_execute hm hop (fun storage hs => ?_) fun m' address h => h
  obtain ⟨m', hx, hlie⟩ := execute_load { m with storage } (hs.symm ▸ hc)
  exact ⟨m', hx, hs ▸ hlie⟩

/-! ### The two in a row -/

variable {dump load : Word}

/-- What was loaded and is dumped at once leaves the memory as it was. -/
lemma memory_eq_of_dumped {m₁ m₂ : Machine} (hi₀ : 0 ≤ m.registers.i) (hx : load.x = dump.x)
    (hload : m.Footprint load .ldVxMem m₁)
    (hloaded : m₁.registers.LieAt load.x m.storage.memory m.registers.i)
    (hdump : m₁.Footprint dump .ldMemVx m₂)
    (hdumped : m₁.registers.LieAt dump.x m₂.storage.memory m₁.registers.i) :
    m₂.storage.memory = m.storage.memory := by
  have hmemory := hload.memory_eq rfl
  have hi : m₁.registers.i = m.registers.i := hload.registers.i (by decide)
  refine Memory.eq_of_byteAt (hdump.size.trans (congrArg Memory.size hmemory)) fun a _ => ?_
  by_cases ha : m.registers.i ≤ a ∧ a < m.registers.i + (dump.x + 1 : ℕ)
  · -- what lies there was the registers before the dump, and is the registers after it
    rw [hx] at hloaded
    rw [hi] at hdumped
    obtain ⟨k, rfl⟩ : ∃ k, a = m.registers.i.toNat + k := ⟨a - m.registers.i.toNat, by omega⟩
    exact hloaded.byteAt_eq hdumped k (by omega)
  · rw [hdump.memory a (by rwa [hi]), hmemory]

/-- **Dumping registers and loading them are inverse to each other.**  Take any machine that can be
reached, and instructions that dump and load as many registers as the memory has room for at the
address register.  Given or fetched, the dump is executed; it writes exactly these registers and
changes nothing else.  Whatever becomes of the machine afterwards, while the address register and
what was written stay, the load is executed, gives each of these registers the value that it had
before the dump, and changes nothing else.  The other way round, both are executed, the load first,
every byte of the memory is as it was, and no register has changed but those that were loaded. -/
theorem dump_and_load_invert (hm : m.Reachable) (hdump : dump.opcode? = some .ldMemVx)
    (hload : load.opcode? = some .ldVxMem) (hx : load.x = dump.x)
    (hi : m.registers.i + dump.x < m.storage.memory.size) :
    (m.Executes dump fun m₁ =>
      m.Footprint dump .ldMemVx m₁ ∧
      (∀ k ≤ dump.x,
        (m₁.storage.memory.byteAt (m.registers.i.toNat + k)).toNat = m.reg k) ∧
      ∀ later : Machine, later.WellFormed m.storage.memory.size →
        later.registers.i = m.registers.i →
        (∀ k ≤ dump.x, later.storage.memory.byteAt (m.registers.i.toNat + k) =
          m₁.storage.memory.byteAt (m.registers.i.toNat + k)) →
        later.Executes load fun m₂ =>
          (∀ k ≤ dump.x, m₂.reg k = m.reg k) ∧ later.Footprint load .ldVxMem m₂ ∧
            m₂.storage.memory = later.storage.memory) ∧
    m.Executes load fun m₁ => m₁.Executes dump fun m₂ =>
      m₂.storage.memory = m.storage.memory ∧
        m.registers.Footprint load .ldVxMem m₂.registers := by
  have hwell := hm.wellFormed
  have hi₀ := hwell.registers.i.1
  have hcovers : m.storage.memory.Covers m.registers.i (dump.x + 1 : ℕ) := ⟨hi₀, by omega⟩
  constructor
  · refine (executes_dump hwell hdump hcovers).mono fun m₁ ⟨_, hfootprint, hdumped⟩ =>
      ⟨hfootprint, hdumped, fun later hlater hsame hkept => ?_⟩
    have hcovers' : later.storage.memory.Covers later.registers.i (load.x + 1 : ℕ) := by
      unfold Memory.Covers
      rwa [hlater.memory, hsame, hx]
    refine (executes_load hlater hload hcovers').mono fun m₂ ⟨_, hfootprint₂, hloaded⟩ => ?_
    rw [hsame, hx] at hloaded
    exact ⟨hdumped.get_eq hloaded hkept, hfootprint₂, hfootprint₂.memory_eq rfl⟩
  · have hloads := executes_load hwell hload (hx ▸ hcovers)
    refine hloads.mono fun m₁ ⟨hwell₁, hfootprint₁, hloaded⟩ => ?_
    have hi₁ : m₁.registers.i = m.registers.i := hfootprint₁.registers.i (by decide)
    have hcovers₁ : m₁.storage.memory.Covers m₁.registers.i (dump.x + 1 : ℕ) := by
      rwa [hfootprint₁.memory_eq rfl, hi₁]
    refine (executes_dump hwell₁ hdump hcovers₁).mono fun m₂ ⟨_, hfootprint₂, hdumped⟩ => ?_
    exact ⟨memory_eq_of_dumped hi₀ hx hfootprint₁ hloaded hfootprint₂ hdumped,
      hfootprint₁.registers.trans (hfootprint₂.registers.of_dump load .ldVxMem) nofun⟩

/-- For one, ten and eleven are stored in the first two registers and dumped behind the program; a
machine with another program, but with both of them in that place, loads them. -/
theorem dump_and_load_invert_atStart :
    let m := (holding [0x60, 0x0A, 0x61, 0x0B, 0xA2, 0x06]).after [.step, .step, .step]
    let later := (holding [0xA2, 0x06, 0x00, 0x00, 0x00, 0x00, 0x0A, 0x0B]).after [.step]
    let dump : Word := ⟨0xF155, by decide⟩
    let load : Word := ⟨0xF165, by decide⟩
    m.Reachable ∧ dump.opcode? = some .ldMemVx ∧ load.opcode? = some .ldVxMem ∧
      load.x = dump.x ∧ m.registers.i + dump.x < m.storage.memory.size ∧
      (m.Executes dump fun m₁ =>
        (m₁.storage.memory.byteAt 0x206).toNat = 10 ∧
        (m₁.storage.memory.byteAt 0x207).toNat = 11) ∧
      (later.Executes load fun m₂ => m₂.reg 0 = 10 ∧ m₂.reg 1 = 11) ∧
      m.Executes load fun m₁ => m₁.Executes dump fun m₂ =>
        m₂.storage.memory = m.storage.memory := by
  intro m later dump load
  have hm : m.Reachable := holding_reachable _ _ (by simp [Event.Allowed])
  have hlater : later.Reachable := holding_reachable _ _ (by simp [Event.Allowed])
  have hdump : dump.opcode? = some .ldMemVx := by decide
  have hload : load.opcode? = some .ldVxMem := by decide
  have hx : load.x = dump.x := by decide
  obtain ⟨hi, hplace, hzero, hone, hsame, hsize, hleft⟩ :
      m.registers.i + dump.x < m.storage.memory.size ∧ m.registers.i = 0x206 ∧
      m.reg 0 = 10 ∧ m.reg 1 = 11 ∧ later.registers.i = m.registers.i ∧
      later.storage.memory.size = m.storage.memory.size ∧
      ∀ k ≤ dump.x, (later.storage.memory.byteAt (m.registers.i.toNat + k)).toNat = m.reg k := by
    decide +kernel
  obtain ⟨hdumps, hloads⟩ := dump_and_load_invert hm hdump hload hx hi
  obtain ⟨m₁, -, -, hdumped, hlaters⟩ := hdumps.given
  have hwell : later.WellFormed m.storage.memory.size := by
    rw [← hsize]
    exact hlater.wellFormed
  have hkept : ∀ k ≤ dump.x, later.storage.memory.byteAt (m.registers.i.toNat + k) =
      m₁.storage.memory.byteAt (m.registers.i.toNat + k) := fun k hk =>
    UInt8.toNat.inj ((hleft k hk).trans (hdumped k hk).symm)
  refine ⟨hm, hdump, hload, hx, hi, hdumps.mono fun m₁ h => ?_,
    (hlaters later hwell hsame hkept).mono fun m₂ h => ?_,
    hloads.mono fun m₁ hagain => hagain.mono fun m₂ h => h.1⟩
  · have hbytes := h.2.1
    rw [hplace] at hbytes
    exact ⟨(hbytes 0 (by decide)).trans hzero, (hbytes 1 (by decide)).trans hone⟩
  · have hregisters := h.1
    exact ⟨(hregisters 0 (by decide)).trans hzero, (hregisters 1 (by decide)).trans hone⟩

end Machine

end Chip8
