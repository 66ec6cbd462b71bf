import Chip8.Proofs.Storage

/-!
# Replaying a journal

The journal has the writes of a memory byte by byte, and with each the byte that was there before.
So they can be made once more on the memory as it was, and taken back, the youngest first, from the
memory as it is.  `Explains journal m m'` says that this leads from `m` to `m'` and back.

`FindsAll m journal` says that each access of the journal finds the byte that its entry has, when
those before it were made once more on `m`.  Such a journal explains what it makes of the memory,
since every write puts another byte in the place of one that is known.

The entries of a stretch of bytes that was read or written find all their bytes, and journals that
explain one change after another explain both when put together.
-/

namespace Chip8

namespace Access

/-- Where the byte is. -/
def address : Access → ℤ
  | read address _ => address
  | write address _ _ => address

/-- The byte that was there before: the one that was read, or the one that was written over. -/
def found : Access → UInt8
  | read _ data => data
  | write _ _ previous => previous

end Access

namespace Memory

/-- The memory with another byte at an address; below zero there is none. -/
def put (m : Memory) (address : ℤ) (b : UInt8) : Memory :=
  if 0 ≤ address then m.overwrite address.toNat [b] else m

/-- A write is made once more. -/
def redo (m : Memory) : Access → Memory
  | .read _ _ => m
  | .write address data _ => m.put address data

/-- A write is taken back. -/
def undo (m : Memory) : Access → Memory
  | .read _ _ => m
  | .write address _ previous => m.put address previous

/-- All writes of a journal are made once more, the oldest first. -/
def replay (m : Memory) (journal : List Access) : Memory := journal.foldl redo m

/-- All writes of a journal are taken back, the youngest first. -/
def unwind (m : Memory) (journal : List Access) : Memory :=
  journal.foldr (fun access m => m.undo access) m

/-- The memory has the byte that an access found. -/
def Finds (m : Memory) (access : Access) : Prop :=
  m.Covers access.address 1 ∧ m.byteAt access.address.toNat = access.found

/-- Each access of a journal finds its byte once the writes before it were made. -/
def FindsAll (m : Memory) (journal : List Access) : Prop :=
  ∀ earlier access later, journal = earlier ++ access :: later → (m.replay earlier).Finds access

/-- The journal leads from one memory to another, and back. -/
structure Explains (journal : List Access) (m m' : Memory) : Prop where
  replay_eq : m.replay journal = m'
  unwind_eq : m'.unwind journal = m

/-! ### Single bytes -/

variable (m : Memory)

lemma put_natCast (a : ℕ) (b : UInt8) : m.put a b = m.overwrite a [b] := by
  rw [put, if_pos (Int.natCast_nonneg a), Int.toNat_natCast]

lemma byteAt_overwrite_of_ne {a k : ℕ} (h : k ≠ a) (b : UInt8) :
    (m.overwrite a [b]).byteAt k = m.byteAt k := by
  simp [byteAt, overwrite, place, Ne.symm h]

lemma byteAt_overwrite_self {a : ℕ} (h : a < m.size) (b : UInt8) :
    (m.overwrite a [b]).byteAt a = b := by
  have hcell : a < m.cells.size := h
  simp [byteAt, overwrite, place, hcell]

/-- Memories of one size are equal if their bytes are. -/
lemma eq_of_byteAt {m m' : Memory} (hsize : m.size = m'.size)
    (h : ∀ a < m.size, m.byteAt a = m'.byteAt a) : m = m' := by
  have hcells : m.cells = m'.cells := by
    refine Array.ext hsize fun a ha ha' => ?_
    simpa [byteAt, ha, ha'] using h a ha
  exact congrArg Memory.mk hcells

/-- A byte that is put back where another one was written leaves the memory as it was. -/
lemma overwrite_overwrite {a : ℕ} (h : a < m.size) (b : UInt8) :
    (m.overwrite a [b]).overwrite a [m.byteAt a] = m := by
  have hcells : (m.cells.setIfInBounds a b).setIfInBounds a (m.byteAt a) = m.cells := by
    refine Array.ext (by simp) fun k hk hk' => ?_
    by_cases hka : k = a
    · subst hka
      simp [byteAt, hk']
    · simp [hk', Ne.symm hka]
  exact congrArg Memory.mk hcells

lemma byteAt_put_of_ne {address : ℤ} {k : ℕ} (h : (k : ℤ) ≠ address) (b : UInt8) :
    (m.put address b).byteAt k = m.byteAt k := by
  unfold put
  split
  · exact byteAt_overwrite_of_ne m (by omega) b
  · rfl

/-- A byte that no entry says was written is as it was. -/
lemma byteAt_replay {journal : List Access} {k : ℕ}
    (h : ∀ data previous, .write k data previous ∉ journal) :
    (m.replay journal).byteAt k = m.byteAt k := by
  induction journal generalizing m with
  | nil => rfl
  | cons access rest ih =>
    have hrest : ∀ data previous, Access.write k data previous ∉ rest := fun data previous hmem =>
      h data previous (List.mem_cons_of_mem access hmem)
    have haccess : (m.redo access).byteAt k = m.byteAt k := by
      cases access with
      | read address data => rfl
      | write address data previous =>
        refine byteAt_put_of_ne m ?_ data
        rintro rfl
        exact h data previous List.mem_cons_self
    exact (ih (m.redo access) hrest).trans haccess

/-! ### Journals that find their bytes -/

lemma undo_redo {access : Access} (h : m.Finds access) : (m.redo access).undo access = m := by
  cases access with
  | read address data => rfl
  | write address data previous =>
    obtain ⟨⟨hfrom, hend⟩, hfound⟩ := h
    obtain ⟨a, rfl⟩ : ∃ a : ℕ, address = a := Int.eq_ofNat_of_zero_le hfrom
    obtain rfl : m.byteAt a = previous := hfound
    have hcell : (a : ℤ) + 1 ≤ m.size := hend
    show (m.put a data).put a (m.byteAt a) = m
    rw [put_natCast, put_natCast, overwrite_overwrite m (by omega)]

lemma replay_append (journal rest : List Access) :
    m.replay (journal ++ rest) = (m.replay journal).replay rest := List.foldl_append

lemma findsAll_nil : m.FindsAll [] := by
  intro earlier access later h
  exact absurd h (by simp)

lemma findsAll_cons_iff {access : Access} {rest : List Access} :
    m.FindsAll (access :: rest) ↔ m.Finds access ∧ (m.redo access).FindsAll rest := by
  constructor
  · intro h
    exact ⟨h [] access rest rfl, fun earlier a later hrest =>
      h (access :: earlier) a later (congrArg (access :: ·) hrest)⟩
  · rintro ⟨hfirst, hrest⟩ earlier a later h
    cases earlier with
    | nil =>
      obtain ⟨rfl, -⟩ := List.cons.inj h
      exact hfirst
    | cons b earlier =>
      obtain ⟨rfl, hlater⟩ := List.cons.inj h
      exact hrest earlier a later hlater

lemma findsAll_append_iff {journal rest : List Access} :
    m.FindsAll (journal ++ rest) ↔ m.FindsAll journal ∧ (m.replay journal).FindsAll rest := by
  induction journal generalizing m with
  | nil => exact (and_iff_right m.findsAll_nil).symm
  | cons access journal ih =>
    rw [List.cons_append, findsAll_cons_iff, findsAll_cons_iff, ih, and_assoc]
    rfl

/-- The youngest write is taken back first, so each leaves what the older ones had made. -/
lemma FindsAll.explains {journal : List Access} (h : m.FindsAll journal) :
    Explains journal m (m.replay journal) := by
  refine ⟨rfl, ?_⟩
  induction journal generalizing m with
  | nil => rfl
  | cons access rest ih =>
    obtain ⟨hfirst, hrest⟩ := m.findsAll_cons_iff.1 h
    show (((m.redo access).replay rest).unwind rest).undo access = m
    rw [ih _ hrest, undo_redo m hfirst]

/-! ### Stretches of bytes -/

/-- A stretch of bytes that the memory has, byte by byte. -/
lemma slice_eq_map {start count : ℕ} (h : start + count ≤ m.size) :
    m.slice start ((start : ℤ) + count) = (List.range' start count).map m.byteAt := by
  unfold slice
  rw [if_neg (by omega)]
  unfold size at h
  refine List.ext_getElem (by simp; omega) fun i hi hi' => ?_
  simp only [List.length_map, List.length_range'] at hi'
  have hlt : start + i < m.cells.size := by omega
  simp [byteAt, hlt]

lemma slice_of_covers {address : ℤ} {count : ℕ} (h : m.Covers address count) :
    m.slice address.toNat (address + count) =
      (List.range' address.toNat count).map m.byteAt := by
  obtain ⟨hfrom, hto⟩ := h
  obtain ⟨start, rfl⟩ := Int.eq_ofNat_of_zero_le hfrom
  exact slice_eq_map m (by omega)

/-- What a byte is once others were written: the one written there, or else the one that was. -/
lemma byteAt_overwrite (a : ℕ) (data : List UInt8) (h : a + data.length ≤ m.size) (k : ℕ) :
    (m.overwrite a data).byteAt k =
      if a ≤ k ∧ k < a + data.length then data.getD (k - a) 0 else m.byteAt k := by
  induction data generalizing a m with
  | nil =>
    rw [if_neg (by simp only [List.length_nil]; omega)]
    rfl
  | cons b data ih =>
    rw [List.length_cons] at h ⊢
    -- the bytes behind the first are written over a memory that has the first already
    have hrest : (m.overwrite a (b :: data)).byteAt k = _ :=
      ih (m.overwrite a [b]) (a + 1) (by rw [size_overwrite]; omega)
    rw [hrest]
    rcases Nat.lt_trichotomy k a with hlt | rfl | hlt
    · rw [if_neg (by omega), if_neg (by omega)]
      exact byteAt_overwrite_of_ne m (by omega) b
    · rw [if_neg (by omega), if_pos (by omega), Nat.sub_self]
      exact m.byteAt_overwrite_self (by omega) b
    · obtain ⟨j, rfl⟩ : ∃ j, k = a + 1 + j := ⟨k - (a + 1), by omega⟩
      have hbehind : a + 1 + j - (a + 1) = j := by omega
      have hindex : a + 1 + j - a = j + 1 := by omega
      rw [hbehind, hindex, List.getD_cons_succ, byteAt_overwrite_of_ne m (by omega) b]
      have hsame : a + 1 ≤ a + 1 + j ∧ a + 1 + j < a + 1 + data.length ↔
          a ≤ a + 1 + j ∧ a + 1 + j < a + (data.length + 1) := by omega
      simp only [hsame]

/-- Bytes that were read leave the memory as it is. -/
lemma replay_readEntries (address : ℤ) (data : List UInt8) :
    m.replay (Storage.readEntries address data) = m := by
  induction data generalizing address with
  | nil => rfl
  | cons b data ih => exact ih (address + 1)

/-- Bytes that were written are all written once more. -/
lemma replay_writeEntries (a : ℕ) {data previous : List UInt8}
    (h : data.length = previous.length) :
    m.replay (Storage.writeEntries a data previous) = m.overwrite a data := by
  induction data generalizing m a previous with
  | nil => rfl
  | cons b data ih =>
    cases previous with
    | nil => exact absurd h nofun
    | cons p previous =>
      show (m.put a b).replay (Storage.writeEntries ((a + 1 : ℕ) : ℤ) data previous) = _
      rw [put_natCast, ih _ _ (Nat.succ.inj h)]
      rfl

lemma covers_byte {a : ℕ} (h : a < m.size) : m.Covers a 1 :=
  ⟨Int.natCast_nonneg a, Int.add_one_le_of_lt (Int.ofNat_lt.2 h)⟩

lemma findsAll_readEntries {a count : ℕ} (h : a + count ≤ m.size) :
    m.FindsAll (Storage.readEntries a ((List.range' a count).map m.byteAt)) := by
  induction count generalizing a with
  | zero => exact m.findsAll_nil
  | succ count ih =>
    have hfirst : m.Finds (.read a (m.byteAt a)) := ⟨m.covers_byte (by omega), rfl⟩
    have hrest := ih (a := a + 1) (by omega)
    exact m.findsAll_cons_iff.2 ⟨hfirst, hrest⟩

/-- Each byte is written where the bytes behind it do not lie, so what was there before it was
written was there before all of them. -/
lemma findsAll_writeEntries {a : ℕ} {data : List UInt8} (h : a + data.length ≤ m.size) :
    m.FindsAll (Storage.writeEntries a data ((List.range' a data.length).map m.byteAt)) := by
  induction data generalizing a m with
  | nil => exact m.findsAll_nil
  | cons b data ih =>
    have hlength : a + (data.length + 1) ≤ m.size := h
    have hbehind : (List.range' (a + 1) data.length).map m.byteAt =
        (List.range' (a + 1) data.length).map (m.overwrite a [b]).byteAt := by
      refine List.map_congr_left fun k hk => (byteAt_overwrite_of_ne m ?_ b).symm
      have := List.mem_range'_1.1 hk
      omega
    have hfirst : m.Finds (.write a b (m.byteAt a)) := ⟨m.covers_byte (by omega), rfl⟩
    have hrest := ih (m.overwrite a [b]) (a := a + 1) (by rw [size_overwrite]; omega)
    rw [← hbehind, ← put_natCast] at hrest
    exact m.findsAll_cons_iff.2 ⟨hfirst, hrest⟩

namespace Explains

variable {m m' m'' : Memory} {journal rest : List Access}

lemma nil (m : Memory) : Explains [] m m := ⟨rfl, rfl⟩

lemma read (address : ℤ) (data : UInt8) (h : Explains rest m m') :
    Explains (.read address data :: rest) m m' := ⟨h.replay_eq, h.unwind_eq⟩

lemma append (h : Explains journal m m') (h' : Explains rest m' m'') :
    Explains (journal ++ rest) m m'' where
  replay_eq := by
    rw [replay_append, h.replay_eq, h'.replay_eq]
  unwind_eq := by
    have hlast : rest.foldr (fun access m => m.undo access) m'' = m' := h'.unwind_eq
    rw [unwind, List.foldr_append, hlast]
    exact h.unwind_eq

/-- Bytes that were read are explained, whatever they are. -/
lemma readEntries (address : ℤ) (data : List UInt8) (m : Memory) :
    Explains (Storage.readEntries address data) m m := by
  induction data generalizing address with
  | nil => exact .nil m
  | cons b data ih => exact .read address b (ih (address + 1))

/-- Bytes that were written are explained by their entries. -/
lemma writeEntries {a : ℕ} {data : List UInt8} (h : a + data.length ≤ m.size) :
    Explains (Storage.writeEntries a data (m.slice a ((a : ℤ) + data.length))) m
      (m.overwrite a data) := by
  have hlength : data.length = ((List.range' a data.length).map m.byteAt).length := by simp
  rw [slice_eq_map m h, ← replay_writeEntries m a hlength]
  exact (findsAll_writeEntries m h).explains

end Explains

end Memory

end Chip8
