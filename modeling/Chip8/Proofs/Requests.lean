import Chip8.Proofs.Replay
import Mathlib.Data.List.GetD
import Mathlib.Data.List.Induction

/-!
# A memory as a row of bytes

A memory answers requests one after another, and refuses some of them.  What it holds can be told
from the requests alone: at each address there is the byte of the last request that was not refused
and wrote there, or else the byte that the font has there, or else zero.  `latest` says so.

Whether a request is refused depends on the request and on the size of the memory, which no request
changes.  One that is refused writes nothing, and one that is not writes all its bytes.  So a single
request changes the memory as it changes `latest`, and the main result, `serve_latest`, follows by
induction on the requests.
-/

namespace Chip8

/-- What a memory is asked for.  Places and numbers may be any. -/
inductive Request where
  /-- For one byte. -/
  | readByte (address : ℤ)
  /-- For the word of two bytes. -/
  | readWord (address : ℤ)
  /-- For some bytes. -/
  | readBytes (address : ℤ) (count : ℕ)
  /-- To take one byte. -/
  | writeByte (address value : ℤ)
  /-- To take some bytes. -/
  | writeBytes (address : ℤ) (values : List ℤ)

/-- What a memory answers. -/
inductive Answer where
  /-- A byte or a word, as a number. -/
  | number (n : ℕ)
  /-- Some bytes. -/
  | bytes (data : List UInt8)
  /-- Nothing but that it is done. -/
  | done

namespace Request

/-- Where the access begins. -/
def address : Request → ℤ
  | readByte address | readWord address | readBytes address _ => address
  | writeByte address _ | writeBytes address _ => address

/-- How many bytes the access is to. -/
def count : Request → ℕ
  | readByte _ | writeByte _ _ => 1
  | readWord _ => 2
  | readBytes _ count => count
  | writeBytes _ values => values.length

/-- The numbers that are to be written. -/
def values : Request → List ℤ
  | writeByte _ value => [value]
  | writeBytes _ values => values
  | _ => []

/-- The numbers that are to be written, as bytes. -/
def data (r : Request) : List UInt8 := r.values.map fun v => UInt8.ofNat v.toNat

/-- The refusal of an access that leaves a memory. -/
def outside? (size : ℕ) (r : Request) : Option Failure :=
  if 0 ≤ r.address ∧ r.address + r.count ≤ size then none
  else some (.fault (.memoryAccess r.address r.count size))

/-- The refusal of numbers that are not all bytes. -/
def misfit? : Request → Option Failure
  | writeByte _ value =>
    if 0 ≤ value ∧ value < 256 then none else some (.misuse (.cellOutOfRange value))
  | writeBytes _ values =>
    if ∀ v ∈ values, 0 ≤ v ∧ v < 256 then none else some (.misuse .byteOutOfRange)
  | _ => none

/-- How a memory refuses a request, if it does.  For several numbers it looks at them first, and
then at the place; for one number it is the other way round. -/
def refusal? (size : ℕ) (r : Request) : Option Failure :=
  match r with
  | writeBytes _ _ => r.misfit?.or (r.outside? size)
  | _ => (r.outside? size).or r.misfit?

/-- The answer to a request that is not refused, if the memory has these bytes. -/
def answer (cell : ℕ → UInt8) : Request → Answer
  | readByte address => .number (cell address.toNat).toNat
  | readWord address =>
    .number (256 * (cell address.toNat).toNat + (cell (address.toNat + 1)).toNat)
  | readBytes address count => .bytes ((List.range' address.toNat count).map cell)
  | writeByte _ _ | writeBytes _ _ => .done

/-- The byte that a request writes at an address, if it writes one there. -/
def written? (r : Request) (k : ℕ) : Option UInt8 :=
  if r.address ≤ k then r.data[(k - r.address).toNat]? else none

end Request

/-- The byte at an address once a memory of some size has been asked for all this: the one that was
written there last by a request that was not refused, or else the one of the font, or else zero. -/
def latest (size : ℕ) (history : List Request) (k : ℕ) : UInt8 :=
  ((history.filter fun r => (r.refusal? size).isNone).reverse.findSome? (·.written? k)).getD
    (Font.data.getD k 0)

namespace Memory

/-- The answer to a request, and the memory then. -/
def serve (m : Memory) : Request → Except Failure (Answer × Memory)
  | .readByte address => do
    let b ← m.readByte address
    pure (.number b.toNat, m)
  | .readWord address => do
    let w ← m.readWord address
    pure (.number w.value, m)
  | .readBytes address count => do
    let data ← m.readBytes address count
    pure (.bytes data, m)
  | .writeByte address value => do
    let m' ← m.writeByte address value
    pure (.done, m')
  | .writeBytes address values => do
    let m' ← m.writeValues address values
    pure (.done, m')

/-- The memory once it has been asked. -/
def ask (m : Memory) (r : Request) : Memory :=
  match m.serve r with
  | .ok (_, m') => m'
  | .error _ => m

/-- The memory once it has been asked for all this. -/
def after (m : Memory) (history : List Request) : Memory := history.foldl ask m

lemma after_concat (m : Memory) (history : List Request) (r : Request) :
    m.after (history ++ [r]) = (m.after history).ask r := List.foldl_append

end Memory

/-! ### One request -/

namespace Request

variable {size : ℕ} {r : Request}

lemma inside_of_outside (h : r.outside? size = none) :
    0 ≤ r.address ∧ r.address + r.count ≤ size := by
  unfold outside? at h
  split at h
  · assumption
  · exact absurd h nofun

/-- A request that is not refused stays inside. -/
lemma inside_of_refusal (h : r.refusal? size = none) :
    0 ≤ r.address ∧ r.address + r.count ≤ size := by
  apply inside_of_outside
  cases r with
  | writeBytes => exact (Option.or_eq_none_iff.1 h).2
  | _ => exact (Option.or_eq_none_iff.1 h).1

lemma length_data_le (r : Request) : r.data.length ≤ r.count := by
  cases r with
  | readByte | readWord | readBytes => exact Nat.zero_le _
  | writeByte => exact Nat.le_refl 1
  | writeBytes address values => exact Nat.le_of_eq (List.length_map _)

end Request

namespace Memory

variable (m : Memory)

/-- A request is refused, or it is answered from the bytes that there are and writes its own. -/
lemma serve_eq (r : Request) :
    m.serve r =
      match r.refusal? m.size with
      | some e => .error e
      | none => .ok (r.answer m.byteAt, m.overwrite r.address.toNat r.data) := by
  cases r with
  | readByte address =>
    have hrefusal : (Request.readByte address).refusal? m.size =
        if m.Covers address 1 then none else some (m.uncovered address 1) := Option.or_none
    show (m.readByte address >>= _) = _
    rw [readByte_eq, hrefusal]
    split <;> rfl
  | readWord address =>
    have hrefusal : (Request.readWord address).refusal? m.size =
        if m.Covers address 2 then none else some (m.uncovered address 2) := Option.or_none
    show (m.readWord address >>= _) = _
    rw [readWord_eq, hrefusal]
    split <;> rfl
  | readBytes address count =>
    have hrefusal : (Request.readBytes address count).refusal? m.size =
        if m.Covers address count then none else some (m.uncovered address count) := Option.or_none
    show (m.readBytes address count >>= _) = _
    rw [readBytes_eq, hrefusal]
    split
    · rename_i hc
      rw [slice_of_covers m hc]
      rfl
    · rfl
  | writeByte address value =>
    have hrefusal : (Request.writeByte address value).refusal? m.size =
        (if m.Covers address 1 then none else some (m.uncovered address 1)).or
          (Request.writeByte address value).misfit? := rfl
    show (m.writeByte address value >>= _) = _
    rw [writeByte_eq, hrefusal]
    split
    · rw [Option.none_or, Request.misfit?]
      -- one bound excludes 256, the other one includes 255
      by_cases hv : 0 ≤ value ∧ value < 256
      · rw [if_pos hv, if_pos (by omega)]
        rfl
      · rw [if_neg hv, if_neg (by omega)]
        rfl
    · rfl
  | writeBytes address values =>
    have hrefusal : (Request.writeBytes address values).refusal? m.size =
        (Request.writeBytes address values).misfit?.or
          (if m.Covers address values.length then none
            else some (m.uncovered address values.length)) := rfl
    show (m.writeValues address values >>= _) = _
    rw [writeValues_eq, hrefusal, Request.misfit?]
    by_cases hv : ∀ v ∈ values, 0 ≤ v ∧ v < 256
    · rw [if_pos hv, if_pos hv, Option.none_or]
      split <;> rfl
    · rw [if_neg hv, if_neg hv]
      rfl

/-- What a byte is once a request was not refused. -/
lemma byteAt_overwrite_data {r : Request} (h : r.refusal? m.size = none) (k : ℕ) :
    (m.overwrite r.address.toNat r.data).byteAt k = (r.written? k).getD (m.byteAt k) := by
  obtain ⟨hfrom, hend⟩ := Request.inside_of_refusal h
  have hlength := r.length_data_le
  rw [byteAt_overwrite m _ _ (by omega)]
  unfold Request.written?
  by_cases hbefore : r.address ≤ k
  · have hindex : (k - r.address).toNat = k - r.address.toNat := by omega
    rw [if_pos hbefore, hindex]
    by_cases hin : k - r.address.toNat < r.data.length
    · rw [if_pos (by omega), List.getElem?_eq_getElem hin]
      simp [hin]
    · rw [if_neg (by omega), List.getElem?_eq_none (by omega)]
      rfl
  · rw [if_neg hbefore, if_neg (by omega)]
    rfl

end Memory

/-! ### All requests -/

/-- One more request counts if it is not refused, and then its bytes come before all others. -/
lemma latest_concat (size : ℕ) (history : List Request) (r : Request) (k : ℕ) :
    latest size (history ++ [r]) k =
      if r.refusal? size = none then (r.written? k).getD (latest size history k)
      else latest size history k := by
  unfold latest
  rw [List.filter_append, List.reverse_append, List.findSome?_append]
  by_cases h : r.refusal? size = none
  · rw [if_pos h, List.filter_cons_of_pos (by rw [h]; rfl), Option.getD_or]
    congr 1
    cases hw : r.written? k <;> simp [hw]
  · rw [if_neg h, List.filter_cons_of_neg (by simpa using h)]
    rfl

namespace Memory

/-- A memory of some size has what all these requests have left in it. -/
structure Holds (m : Memory) (size : ℕ) (history : List Request) : Prop where
  size_eq : m.size = size
  byteAt_eq : ∀ k, m.byteAt k = latest size history k

variable {size : ℕ}

/-- A memory that has room for the font is made, and it has the font and zeros behind it. -/
lemma exists_created (hsize : Font.data.length ≤ size) :
    ∃ m, create size = .ok m ∧ m.Holds size [] := by
  let zeros : Memory := ⟨Array.replicate size 0⟩
  have hzeros : zeros.size = size := Array.size_replicate
  have hroom : Font.address + Font.data.length ≤ zeros.size := by
    rw [hzeros, Font.address]
    omega
  have hcreate : create size = .ok (zeros.overwrite Font.address Font.data) := by
    have hpos : 0 < (size : ℤ) := by
      rw [Font.length_data] at hsize
      omega
    have hc : zeros.Covers Font.address Font.data.length :=
      ⟨Int.natCast_nonneg _, Int.ofNat_le.2 hroom⟩
    rw [create, if_pos hpos]
    exact (zeros.writeBytes_eq _ _).trans (if_pos hc)
  refine ⟨_, hcreate, (size_overwrite _ _ _).trans hzeros, fun k => ?_⟩
  rw [byteAt_overwrite zeros _ _ hroom]
  by_cases hk : k < Font.data.length
  · rw [if_pos ⟨Nat.zero_le k, by rw [Font.address]; omega⟩]
    rfl
  · have hzero : zeros.byteAt k = 0 := by
      simp [byteAt, zeros, Array.getD]
    rw [if_neg (by rw [Font.address]; omega), hzero]
    exact (List.getD_eq_default _ _ (Nat.le_of_not_lt hk)).symm

namespace Holds

variable {m : Memory} {history : List Request}

lemma serve_eq (h : m.Holds size history) (r : Request) :
    m.serve r =
      match r.refusal? size with
      | some e => .error e
      | none => .ok (r.answer (latest size history), m.overwrite r.address.toNat r.data) := by
  have hcells : m.byteAt = latest size history := funext h.byteAt_eq
  rw [m.serve_eq r, h.size_eq, hcells]

lemma ask (h : m.Holds size history) (r : Request) :
    (m.ask r).Holds size (history ++ [r]) := by
  unfold Memory.ask
  rw [h.serve_eq r]
  rcases hr : r.refusal? size with _ | e
  · refine ⟨(size_overwrite _ _ _).trans h.size_eq, fun k => ?_⟩
    rw [latest_concat, if_pos hr, ← h.byteAt_eq k]
    exact m.byteAt_overwrite_data (h.size_eq ▸ hr) k
  · refine ⟨h.size_eq, fun k => ?_⟩
    rw [latest_concat, if_neg (by rw [hr]; nofun)]
    exact h.byteAt_eq k

lemma after (h : m.Holds size []) (history : List Request) :
    (m.after history).Holds size history := by
  induction history using List.reverseRecOn with
  | nil => exact h
  | append_singleton history r ih =>
    rw [after_concat]
    exact ih.ask r

end Holds

/-- **A memory is a row of bytes, and it is written all or nothing.**  Make a memory that has room
for the font, and ask it for anything any number of times.  Its size is the same, and at each
address it has the byte of the last request that was not refused and wrote there, or else the byte
of the font or zero.  What it is asked for next is refused exactly if the request leaves the memory
or its numbers are not all bytes.  If it is refused, the memory stays as it is; if not, it is
answered from these bytes. -/
theorem serve_latest (hsize : Font.data.length ≤ size) :
    ∃ m, create size = .ok m ∧ ∀ (history : List Request) (r : Request),
      (m.after history).Holds size history ∧
        match r.refusal? size with
        | some e => (m.after history).serve r = .error e ∧
            m.after (history ++ [r]) = m.after history
        | none => (m.after history).serve r =
            .ok (r.answer (latest size history), m.after (history ++ [r])) := by
  obtain ⟨m, hcreate, hm⟩ := exists_created hsize
  refine ⟨m, hcreate, fun history r => ?_⟩
  have hafter := hm.after history
  have hserve := hafter.serve_eq r
  refine ⟨hafter, ?_⟩
  rw [after_concat, ask, hserve]
  rcases r.refusal? size with _ | e
  · rfl
  · exact ⟨rfl, rfl⟩

/-- For one, a byte is written and then two over it.  Two that are not both bytes change nothing, and
neither do two of which one would lie behind the end.  Below zero the place of a byte is looked at
and not the number. -/
theorem serve_latest_overlapping :
    let history : List Request :=
      [.writeByte 85 7, .writeBytes 84 [1, 2], .writeBytes 84 [3, 256], .writeBytes 95 [4, 5]]
    Font.data.length ≤ 96 ∧ ∃ m, create (96 : ℕ) = .ok m ∧
      (m.after history).serve (.readBytes 83 4) =
        .ok (.bytes [0, 1, 2, 0], m.after (history ++ [.readBytes 83 4])) ∧
      (m.after history).serve (.writeByte (-1) 300) =
        .error (.fault (.memoryAccess (-1) 1 96)) := by
  intro history
  have hsize : Font.data.length ≤ 96 := by decide
  obtain ⟨m, hcreate, hserve⟩ := serve_latest hsize
  have hread := (hserve history (.readBytes 83 4)).2
  have hwrite := (hserve history (.writeByte (-1) 300)).2
  have hanswer : (Request.readBytes 83 4).answer (latest 96 history) = .bytes [0, 1, 2, 0] :=
    congrArg Answer.bytes (by decide +kernel)
  exact ⟨hsize, m, hcreate, hanswer ▸ hread, hwrite.1⟩

end Memory

end Chip8
