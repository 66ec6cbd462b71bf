import Chip8.Number.Quantity
import Mathlib

/-!
# Doubles: what is beyond them, and what rounds to zero

A double is taken apart in two ways: by arithmetic on its bits, as comparisons with integers do it,
and into a sign, a mantissa and an exponent, as division does it.  Both agree, so what is known of
one is known of the other.

Two questions are then answered exactly.  An integer is beyond every double from half a step behind
the greatest one on.  A quotient rounds to zero if it is at most half of the least double.  The
argument follows the rounding: the exponent comes first, from the lengths of the numbers, and then
the significand, which is a quotient of integers rounded to the nearest.

The main result, `Quantity.exists_period`, says which frequencies above zero have a period above
zero.
-/

namespace Chip8

open Float.Model Float.Model.UnpackedFloat

namespace Binary64

/-! ### Two ways to take a double apart -/

/-- What an unpacked double stands for. -/
def ofUnpacked : UnpackedFloat → Binary64
  | .notANumber => .nan
  | .infinity s => .infinite (s == .negative)
  | .zero s => .finite (s == .negative) 0 (-1074)
  | .finite s m e _ => .finite (s == .negative) m e

section Fields

variable (b : BitVec 64)

lemma toNat_unpackExponent :
    (@unpackExponent Format.binary64 b).toNat = b.toNat / Nat.pow 2 52 % Nat.pow 2 11 := by
  simp [unpackExponent_def, BitVec.extractLsb'_toNat, Nat.shiftRight_eq_div_pow]

lemma toNat_unpackMantissa :
    (@unpackMantissa Format.binary64 b).toNat = b.toNat % Nat.pow 2 52 := by
  simp [unpackMantissa_def, BitVec.extractLsb'_toNat]

lemma unpackSign_eq :
    (Sign.ofBitVec (@unpackSign Format.binary64 b) == .negative) =
      decide (Nat.pow 2 63 ≤ b.toNat) := by
  have hlt := b.isLt
  have hpow : Nat.pow 2 63 = 2 ^ 63 := rfl
  have hvalue : (@unpackSign Format.binary64 b).toNat = b.toNat / 2 ^ 63 := by
    simp [unpackSign_def, BitVec.extractLsb'_toNat, Nat.shiftRight_eq_div_pow]
    omega
  by_cases hle : Nat.pow 2 63 ≤ b.toNat
  · have hsign : @unpackSign Format.binary64 b = 1#1 :=
      BitVec.eq_of_toNat_eq (hvalue.trans (show b.toNat / 2 ^ 63 = 1 by omega))
    rw [hsign, decide_eq_true hle]
    rfl
  · have hsign : @unpackSign Format.binary64 b = 0#1 :=
      BitVec.eq_of_toNat_eq (hvalue.trans (show b.toNat / 2 ^ 63 = 0 by omega))
    rw [hsign, decide_eq_false hle]
    rfl

end Fields

/-- The two ways to take a double apart agree. -/
lemma ofFloat_eq (x : Float) : ofFloat x = ofUnpacked x.toModel.unpack := by
  show ofBits x.toModel.toBits = _
  unfold ofBits Float.Model.unpack UnpackedFloat.unpack
  generalize hb : x.toModel.toBits.toBitVec = b
  have hraw : x.toModel.toBits.toNat = b.toNat := congrArg BitVec.toNat hb
  have hexponent := toNat_unpackExponent b
  have hfraction := toNat_unpackMantissa b
  have hones : @unpackExponent Format.binary64 b = -1#_ ↔
      b.toNat / Nat.pow 2 52 % Nat.pow 2 11 = 2047 := by
    rw [← hexponent, ← BitVec.toNat_inj]
    rfl
  have hzeros : @unpackExponent Format.binary64 b = 0#_ ↔
      b.toNat / Nat.pow 2 52 % Nat.pow 2 11 = 0 := by
    rw [← hexponent, ← BitVec.toNat_inj]
    rfl
  have hnone : @unpackMantissa Format.binary64 b = 0#_ ↔ b.toNat % Nat.pow 2 52 = 0 := by
    rw [← hfraction, ← BitVec.toNat_inj]
    rfl
  dsimp only
  rw [hraw]
  simp only [hones, hzeros, hnone, hexponent, hfraction]
  split
  · split
    · simp only [ofUnpacked, unpackSign_eq]
    · rfl
  · split
    · split
      · rename_i hzero
        simp only [ofUnpacked, unpackSign_eq, hzero]
      · rename_i hleast _
        simp only [ofUnpacked, unpackSign_eq, hleast]
        rfl
    · -- the leading bit is not stored
      simp only [ofUnpacked, unpackSign_eq]
      congr 1
      rw [BitVec.toNat_append, hfraction]
      have hlt : b.toNat % Nat.pow 2 52 < 2 ^ 52 := Nat.mod_lt _ (by decide)
      simpa [Nat.shiftLeft_eq] using Nat.two_pow_add_eq_or_of_lt hlt 1

lemma isInf_iff (x : Float) : x.isInf = true ↔ ∃ negative, ofFloat x = .infinite negative := by
  rw [ofFloat_eq]
  show x.toModel.unpack.isInf = true ↔ _
  rcases x.toModel.unpack with _ | _ | _ | _ <;> simp [UnpackedFloat.isInf, ofUnpacked]

/-- The numbers that a finite double is made of. -/
lemma finite_bounds {x : Float} {negative : Bool} {m : ℕ} {e : ℤ}
    (h : ofFloat x = .finite negative m e) : m < 2 ^ 53 ∧ -1074 ≤ e ∧ e ≤ 971 := by
  have h52 : Nat.pow 2 52 = 2 ^ 52 := rfl
  have h11 : Nat.pow 2 11 = 2 ^ 11 := rfl
  unfold ofFloat ofBits at h
  dsimp only at h
  rw [h52, h11] at h
  split at h
  · split at h <;> simp at h
  · split at h
    · simp only [Binary64.finite.injEq] at h
      omega
    · simp only [Binary64.finite.injEq] at h
      omega

/-! ### Above zero -/

/-- Whether a double is not zero or less; what is no number is not. -/
def IsAbove : Binary64 → Prop
  | .nan => True
  | .infinite negative => negative = false
  | .finite negative m _ => negative = false ∧ 0 < m

lemma compareScaled_zero (m e : ℤ) : compareScaled m e 0 = compare m 0 := by
  unfold compareScaled
  rw [Int.zero_mul]
  have hpow : (0 : ℤ) < Nat.pow 2 e.toNat := by
    exact_mod_cast Nat.pow_pos (by decide)
  rcases lt_trichotomy m 0 with h | rfl | h
  · rw [compare_lt_iff_lt.2 h, compare_lt_iff_lt]
    exact mul_neg_of_neg_of_pos h hpow
  · simp
  · rw [compare_gt_iff_gt.2 h, compare_gt_iff_gt]
    exact mul_pos h hpow

/-- A double is compared with zero as what it stands for. -/
lemma not_real_le_zero_iff (x : Float) : ¬ Quantity.real x ≤ 0 ↔ (ofFloat x).IsAbove := by
  show ¬ (compareInt? x 0).any (· != .gt) = true ↔ _
  unfold compareInt?
  rcases ofFloat x with _ | (_ | _) | ⟨_ | _, m, e⟩
  · simp [IsAbove]
  · simp [IsAbove]
  · simp [IsAbove]
  · simp [IsAbove, compareScaled_zero, compare_gt_iff_gt]
  · simp [IsAbove, compareScaled_zero, compare_gt_iff_gt]

/-- What is above zero does not count as equal to it. -/
lemma beq_zero_of_isAbove {x : Float} (h : (ofFloat x).IsAbove) : (x == 0) = false := by
  have hzero : (0 : Float).toModel.unpack = .zero .positive := unpack_packedZero
  rw [ofFloat_eq] at h
  show x.toModel.unpack.beq (0 : Float).toModel.unpack = false
  rw [hzero]
  generalize x.toModel.unpack = u at h ⊢
  cases u with
  | infinity sign => cases sign <;> rfl
  | notANumber => rfl
  | zero sign => simp [IsAbove, ofUnpacked] at h
  | finite sign m e hm => cases sign <;> rfl

/-! ### Bits -/

/-- The bits of a double that is neither negative nor behind infinity are kept. -/
lemma toBits_ofBits {b : UInt64} (h : b.toNat ≤ 2047 * 2 ^ 52) : (Float.ofBits b).toBits = b := by
  have hnumber : @isNaNBits Format.binary64 b.toBitVec = false := by
    unfold isNaNBits
    rw [decide_eq_false_iff_not]
    rintro ⟨hones, hfraction⟩
    have hexponent := toNat_unpackExponent b.toBitVec
    have hrest := toNat_unpackMantissa b.toBitVec
    have h52 : Nat.pow 2 52 = 2 ^ 52 := rfl
    have h11 : Nat.pow 2 11 = 2 ^ 11 := rfl
    have hall : (-1#11).toNat = 2047 := rfl
    rw [hones, h52, h11, hall, UInt64.toNat_toBitVec] at hexponent
    rw [h52, UInt64.toNat_toBitVec] at hrest
    refine hfraction (BitVec.eq_of_toNat_eq (hrest.trans ?_))
    show _ = 0
    omega
  have hpack := @pack_unpack Format.binary64 b.toBitVec
  rw [hnumber] at hpack
  exact UInt64.toBitVec_inj.1 (hpack (by decide))

section Bits

variable {n : ℕ} (h : n ≤ 2047 * 2 ^ 52)
include h

lemma ofFloat_ofBits :
    ofFloat (Float.ofBits (UInt64.ofNat n)) =
      if n = 2047 * 2 ^ 52 then .infinite false
      else if n < 2 ^ 52 then .finite false n (-1074)
      else .finite false (2 ^ 52 + n % 2 ^ 52) (n / 2 ^ 52 - 1075) := by
  have hn : (UInt64.ofNat n).toNat = n := by
    rw [UInt64.toNat_ofNat']
    omega
  have h63 : Nat.pow 2 63 = 2 ^ 63 := rfl
  have h52 : Nat.pow 2 52 = 2 ^ 52 := rfl
  have h11 : Nat.pow 2 11 = 2 ^ 11 := rfl
  have hsign : decide (2 ^ 63 ≤ n) = false := decide_eq_false (by omega)
  unfold ofFloat
  rw [toBits_ofBits (by omega)]
  unfold ofBits
  dsimp only
  rw [hn, h63, h52, h11, hsign]
  by_cases hinf : n = 2047 * 2 ^ 52
  · rw [if_pos hinf, if_pos (by omega), if_pos (by omega)]
  · rw [if_neg hinf, if_neg (by omega)]
    by_cases hlt : n < 2 ^ 52
    · rw [if_pos hlt, if_pos (by omega), Nat.mod_eq_of_lt hlt]
    · rw [if_neg hlt, if_neg (by omega)]
      congr 1
      omega

lemma isAbove_ofBits_iff : (ofFloat (Float.ofBits (UInt64.ofNat n))).IsAbove ↔ 0 < n := by
  rw [ofFloat_ofBits h]
  split
  · simp [IsAbove]
    omega
  · split
    · simp [IsAbove]
    · simp [IsAbove]
      omega

lemma isInf_ofBits_iff : (Float.ofBits (UInt64.ofNat n)).isInf = true ↔ n = 2047 * 2 ^ 52 := by
  rw [isInf_iff, ofFloat_ofBits h]
  split
  · simp_all
  · split <;> simp_all

end Bits

/-! ### Rounding a quotient of integers -/

/-- The exponent of the double nearest to a quotient. -/
def quotientExponent (n d : ℕ) : ℤ :=
  let guess : ℤ := (Nat.log2 n : ℤ) - Nat.log2 d - 53
  let fitted :=
    if n * 2 ^ (-guess).toNat / (d * 2 ^ guess.toNat) < 2 ^ 53 then guess else guess + 1
  max fitted (-1074)

/-- The significand of the double nearest to a quotient, by its exponent. -/
def quotientSignificand (n d : ℕ) (e : ℤ) : ℕ :=
  let top := n * 2 ^ (-e).toNat
  let bottom := d * 2 ^ e.toNat
  if bottom < 2 * (top % bottom) ∨ (bottom = 2 * (top % bottom) ∧ top / bottom % 2 = 1) then
    top / bottom + 1
  else top / bottom

/-- The bits of the double nearest to a quotient, before they are cut off at infinity. -/
def quotientBits (n d : ℕ) : ℕ :=
  (quotientExponent n d + 1074).toNat * 2 ^ 52 +
    quotientSignificand n d (quotientExponent n d)

lemma nearest_eq {n d : ℕ} (hn : 0 < n) (hd : 0 < d) :
    nearest n d = Float.ofBits (UInt64.ofNat (min (quotientBits n d) (2047 * 2 ^ 52))) := by
  unfold nearest
  rw [if_neg (by omega)]
  rfl

/-- A quotient is rounded to zero exactly if it is at most one half. -/
lemma quotientSignificand_eq_zero_iff {n d : ℕ} (hd : 0 < d) (e : ℤ) :
    quotientSignificand n d e = 0 ↔ 2 * (n * 2 ^ (-e).toNat) ≤ d * 2 ^ e.toNat := by
  unfold quotientSignificand
  generalize n * 2 ^ (-e).toNat = top
  have hbottom : 0 < d * 2 ^ e.toNat := by positivity
  generalize d * 2 ^ e.toNat = bottom at hbottom
  dsimp only
  by_cases hlt : top < bottom
  · rw [Nat.div_eq_of_lt hlt, Nat.mod_eq_of_lt hlt]
    split <;> omega
  · have hpos : 0 < top / bottom := Nat.div_pos (by omega) hbottom
    split <;> omega

lemma le_quotientExponent (n d : ℕ) : -1074 ≤ quotientExponent n d := le_max_right _ _

/-- What is at most half of the least double has the least exponent. -/
lemma quotientExponent_of_le {n d : ℕ} (hn : 0 < n) (h : n * 2 ^ 1075 ≤ d) :
    quotientExponent n d = -1074 := by
  have hd : d < 2 ^ (d.log2 + 1) := Nat.lt_log2_self
  have hlog : 2 ^ (n.log2 + 1075) < 2 ^ (d.log2 + 1) := by
    calc 2 ^ (n.log2 + 1075) = 2 ^ n.log2 * 2 ^ 1075 := pow_add _ _ _
      _ ≤ n * 2 ^ 1075 := Nat.mul_le_mul_right _ (Nat.log2_self_le hn.ne')
      _ < 2 ^ (d.log2 + 1) := by omega
  have hlt := (Nat.pow_lt_pow_iff_right (by decide)).1 hlog
  unfold quotientExponent
  dsimp only
  split <;> omega

lemma quotientBits_eq_zero_iff {n d : ℕ} (hn : 0 < n) (hd : 0 < d) :
    quotientBits n d = 0 ↔ n * 2 ^ 1075 ≤ d := by
  have hhalf : 2 * (n * 2 ^ (- -1074 : ℤ).toNat) ≤ d * 2 ^ (-1074 : ℤ).toNat ↔
      n * 2 ^ 1075 ≤ d := by
    have hup : (- -1074 : ℤ).toNat = 1074 := rfl
    have hdown : (-1074 : ℤ).toNat = 0 := rfl
    have hstep : 2 ^ 1075 = 2 ^ 1 * 2 ^ 1074 := by rw [← pow_add]
    rw [hup, hdown, hstep, pow_one, pow_zero, mul_one, Nat.mul_left_comm]
  unfold quotientBits
  constructor
  · intro h
    have he := le_quotientExponent n d
    have hleast : quotientExponent n d = -1074 := by omega
    rw [hleast] at h
    exact hhalf.1 ((quotientSignificand_eq_zero_iff hd _).1 (by omega))
  · intro h
    rw [quotientExponent_of_le hn h, (quotientSignificand_eq_zero_iff hd _).2 (hhalf.2 h)]
    rfl

/-- **A quotient rounds to zero exactly if it is at most half of the least double.** -/
theorem isAbove_nearest_iff {n d : ℕ} (hn : 0 < n) (hd : 0 < d) :
    (ofFloat (nearest n d)).IsAbove ↔ d < n * 2 ^ 1075 := by
  rw [nearest_eq hn hd, isAbove_ofBits_iff (min_le_right _ _)]
  have hzero := quotientBits_eq_zero_iff hn hd
  omega

/-! ### Rounding an integer -/

section Integers

variable {n : ℕ}

/-- An integer that is shifted up or down until it has `k + 1` bits lies between the two powers of
two that bound such numbers. -/
lemma shifted_bounds (hn : 0 < n) (k : ℕ) :
    2 ^ k * 2 ^ ((n.log2 : ℤ) - k).toNat ≤ n * 2 ^ (-((n.log2 : ℤ) - k)).toNat ∧
      n * 2 ^ (-((n.log2 : ℤ) - k)).toNat < 2 ^ (k + 1) * 2 ^ ((n.log2 : ℤ) - k).toNat := by
  have hlow : 2 ^ n.log2 ≤ n := Nat.log2_self_le hn.ne'
  have hhigh : n < 2 ^ (n.log2 + 1) := Nat.lt_log2_self
  -- one of the two shifts is none, so they can be brought to the side of the integer's own length
  have hshift : k + ((n.log2 : ℤ) - k).toNat = n.log2 + (-((n.log2 : ℤ) - k)).toNat := by omega
  have hshift' : k + 1 + ((n.log2 : ℤ) - k).toNat =
      n.log2 + 1 + (-((n.log2 : ℤ) - k)).toNat := by omega
  rw [← pow_add, ← pow_add, hshift, hshift', pow_add, pow_add]
  exact ⟨Nat.mul_le_mul_right _ hlow, Nat.mul_lt_mul_of_pos_right hhigh (by positivity)⟩

/-- By its own exponent, an integer has a significand that fills its bits. -/
lemma fitted_bounds (hn : 0 < n) :
    2 ^ 52 ≤ n * 2 ^ (-((n.log2 : ℤ) - 52)).toNat / (1 * 2 ^ ((n.log2 : ℤ) - 52).toNat) ∧
      n * 2 ^ (-((n.log2 : ℤ) - 52)).toNat / (1 * 2 ^ ((n.log2 : ℤ) - 52).toNat) < 2 ^ 53 := by
  rw [one_mul, Nat.le_div_iff_mul_le (by positivity), Nat.div_lt_iff_lt_mul (by positivity)]
  exact shifted_bounds hn 52

/-- The exponent of the double nearest to an integer. -/
lemma quotientExponent_one (hn : 0 < n) : quotientExponent n 1 = (n.log2 : ℤ) - 52 := by
  have hone : Nat.log2 1 = 0 := rfl
  unfold quotientExponent
  dsimp only
  -- the guess is one too low, for the quotient by it has a bit too many
  rw [hone, Nat.cast_zero, sub_zero, if_neg]
  · omega
  · rw [not_lt, Nat.le_div_iff_mul_le (by positivity), one_mul]
    exact (shifted_bounds hn 53).1

/-- Rounding may fill the significand of an integer by one more. -/
lemma quotientSignificand_one_bounds (hn : 0 < n) :
    2 ^ 52 ≤ quotientSignificand n 1 ((n.log2 : ℤ) - 52) ∧
      quotientSignificand n 1 ((n.log2 : ℤ) - 52) ≤ 2 ^ 53 := by
  have hfitted := fitted_bounds hn
  unfold quotientSignificand
  dsimp only
  split <;> omega

/-- Among the integers with the greatest exponent, the significand is rounded up to the next one
from half a step behind the greatest double on. -/
lemma quotientSignificand_one_eq_iff (hn : n < 2 ^ 1024) :
    quotientSignificand n 1 971 = 2 ^ 53 ↔ 2 ^ 1024 ≤ n + 2 ^ 970 := by
  have h1024 : 2 ^ 1024 = 2 ^ 54 * 2 ^ 970 := by rw [← pow_add]
  have h971 : 2 ^ 971 = 2 ^ 1 * 2 ^ 970 := by rw [← pow_add]
  have hup : (-971 : ℤ).toNat = 0 := rfl
  have hdown : (971 : ℤ).toNat = 971 := rfl
  have hpos : 0 < 2 ^ 970 := by positivity
  unfold quotientSignificand
  dsimp only
  rw [hup, hdown, h971, pow_zero, mul_one, one_mul, pow_one, h1024]
  rw [h1024] at hn
  -- `p` is half a step, and `q` steps and `r` make up the integer
  generalize 2 ^ 970 = p at hpos hn ⊢
  have hdivmod := Nat.div_add_mod n (2 * p)
  have hmod := Nat.mod_lt n (show 0 < 2 * p by omega)
  have hquotient : n / (2 * p) < 2 ^ 53 := by
    rw [Nat.div_lt_iff_lt_mul (by omega)]
    omega
  generalize n % (2 * p) = r at hdivmod hmod ⊢
  generalize n / (2 * p) = q at hdivmod hquotient ⊢
  by_cases hfull : q = 2 ^ 53 - 1
  · subst hfull
    split <;> omega
  · have hbelow : 2 * p * q ≤ 2 * p * (2 ^ 53 - 2) := Nat.mul_le_mul_left _ (by omega)
    split <;> omega

/-- **An integer is beyond every double from half a step behind the greatest one on.** -/
theorem isInf_nearest_one_iff (n : ℕ) : (nearest n 1).isInf = true ↔ 2 ^ 1024 ≤ n + 2 ^ 970 := by
  have h1024 : 2 ^ 1024 = 2 * 2 ^ 1023 := by rw [← pow_succ']
  have h1023 : 2 ^ 1023 = 2 ^ 53 * 2 ^ 970 := by rw [← pow_add]
  have hpos : 0 < 2 ^ 970 := by positivity
  rcases Nat.eq_zero_or_pos n with rfl | hn
  · have hnearest : nearest 0 1 = 0 := rfl
    rw [hnearest]
    refine iff_of_false (by decide) ?_
    omega
  · have hlow : 2 ^ n.log2 ≤ n := Nat.log2_self_le hn.ne'
    have hhigh : n < 2 ^ (n.log2 + 1) := Nat.lt_log2_self
    obtain ⟨hfull, hover⟩ := quotientSignificand_one_bounds hn
    rw [nearest_eq hn one_pos, isInf_ofBits_iff (min_le_right _ _), min_eq_right_iff]
    unfold quotientBits
    rw [quotientExponent_one hn]
    rcases lt_trichotomy n.log2 1023 with hlt | heq | hgt
    · have hpow : 2 ^ (n.log2 + 1) ≤ 2 ^ 1023 := pow_le_pow_right₀ one_le_two hlt
      refine iff_of_false ?_ ?_ <;> omega
    · -- only here does the significand decide
      have hexponent : (n.log2 : ℤ) - 52 = 971 := by omega
      rw [heq, pow_succ', ← h1024] at hhigh
      have htop := quotientSignificand_one_eq_iff hhigh
      rw [hexponent] at hover ⊢
      rw [← htop]
      omega
    · have hpow : 2 ^ 1024 ≤ 2 ^ n.log2 := pow_le_pow_right₀ one_le_two hgt
      refine iff_of_true ?_ ?_ <;> omega

end Integers

/-! ### Packing a double -/

section Packing

variable {m : ℕ} {e : ℤ}

lemma isAbove_ofUnpacked_finite (hm : 0 < m) :
    (ofUnpacked (.finite .positive m e hm)).IsAbove := ⟨rfl, hm⟩

/-- Bits without a sign are those of a double above zero if any of them is set. -/
lemma isAbove_packComponents {exponent : BitVec 11} {fraction : BitVec 52}
    (h : exponent ≠ 0#11 ∨ fraction ≠ 0#52) :
    (ofUnpacked (UnpackedFloat.unpack Format.binary64
      (packComponents Format.binary64 .positive exponent fraction))).IsAbove := by
  have hsign : Sign.ofBitVec (unpackSign
      (packComponents Format.binary64 .positive exponent fraction)) = .positive := by simp
  unfold UnpackedFloat.unpack
  dsimp only
  rw [hsign]
  split
  · split
    · rfl
    · trivial
  · split
    · split
      · rename_i hzero hnone
        rw [unpackExponent_packComponents] at hzero
        rw [unpackMantissa_packComponents] at hnone
        rcases h with h | h
        · exact absurd hzero h
        · exact absurd hnone h
      · exact isAbove_ofUnpacked_finite _
    · exact isAbove_ofUnpacked_finite _

/-- A rounded double above zero is packed as one. -/
lemma isAbove_pack (hm : 0 < m) (hlt : m < 2 ^ 53) (he : -1074 ≤ e) :
    (ofUnpacked (UnpackedFloat.unpack Format.binary64
      (UnpackedFloat.pack Format.binary64 (.finite .positive m e hm)))).IsAbove := by
  have hbias : Format.binary64.exponentBias = 1023 := rfl
  have hbits : Format.binary64.mantissaBits = 53 := rfl
  unfold UnpackedFloat.pack
  dsimp only
  rw [hbias, hbits]
  split
  · exact isAbove_packComponents (.inl (by decide))
  · split
    · refine isAbove_packComponents (.inl fun hzero => ?_)
      have hexponent := congrArg BitVec.toNat hzero
      simp only [BitVec.toNat_ofNat] at hexponent
      omega
    · refine isAbove_packComponents (.inr fun hzero => ?_)
      have hfraction := congrArg BitVec.toNat hzero
      simp only [BitVec.toNat_ofNat] at hfraction
      have hlog : m.log2 < 53 := (Nat.log2_lt hm.ne').2 hlt
      have hshort : m < 2 ^ 52 := (Nat.log2_lt hm.ne').1 (by omega)
      omega

end Packing

/-! ### Dividing by a double -/

section Rounding

variable {m : ℕ} {e : ℤ}

lemma mantissa_shiftRight (em : ExtendedMantissa) (k : ℕ) :
    (em >>> k).mantissa = em.mantissa / 2 ^ k := by
  induction k with
  | zero => simp [HShiftRight.hShiftRight, Nat.repeat]
  | succ k ih =>
    show (em >>> k).mantissa / 2 = _
    rw [ih, Nat.div_div_eq_div_mul, pow_succ]

lemma le_roundToNearestEven (acc : Accuracy) : m ≤ acc.roundToNearestEven m := by
  unfold Accuracy.roundToNearestEven
  split <;> omega

/-- A mantissa is shifted until its length fits. -/
lemma shiftToTarget_eq (he : -1074 ≤ e) (acc : Accuracy) :
    (shiftToTargetExponent Format.binary64 m e acc).1.mantissa = m / 2 ^ (m.log2 - 52) ∧
      (shiftToTargetExponent Format.binary64 m e acc).2 = e + (m.log2 - 52 : ℕ) := by
  have htarget : (Format.binary64.targetExponent (totalExponent m e) - e).toNat = m.log2 - 52 := by
    have hmin : Format.binary64.minExponent = -1074 := rfl
    have hbits : Format.binary64.mantissaBits = 53 := rfl
    unfold Format.targetExponent totalExponent
    rw [hmin, hbits]
    omega
  have hinitial : (ExtendedMantissa.ofMantissaAndAccuracy m acc).mantissa = m := by
    unfold ExtendedMantissa.ofMantissaAndAccuracy
    split <;> rfl
  unfold shiftToTargetExponent shiftToExponent
  dsimp only
  rw [htarget, mantissa_shiftRight, hinitial]
  exact ⟨rfl, rfl⟩

/-- A shift to the target exponent leaves something of a mantissa, and not too much. -/
lemma shiftToTarget_bounds (hm : 0 < m) (he : -1074 ≤ e) (acc : Accuracy) :
    0 < (shiftToTargetExponent Format.binary64 m e acc).1.mantissa ∧
      (shiftToTargetExponent Format.binary64 m e acc).1.mantissa < 2 ^ 53 ∧
      -1074 ≤ (shiftToTargetExponent Format.binary64 m e acc).2 := by
  have hlow : 2 ^ m.log2 ≤ m := Nat.log2_self_le hm.ne'
  have hhigh : m < 2 ^ (m.log2 + 1) := Nat.lt_log2_self
  obtain ⟨hmantissa, hexponent⟩ := shiftToTarget_eq (m := m) he acc
  rw [hmantissa, hexponent]
  refine ⟨Nat.div_pos ?_ (by positivity), ?_, by omega⟩
  · exact (pow_le_pow_right₀ one_le_two (Nat.sub_le _ _)).trans hlow
  · rw [Nat.div_lt_iff_lt_mul (by positivity), ← pow_add]
    exact hhigh.trans_le (pow_le_pow_right₀ one_le_two (by omega))

/-- What is above zero and not too small is rounded to a double above zero. -/
lemma exists_roundWithAccuracy (hm : 0 < m) (he : -1074 ≤ e) (acc : Accuracy) :
    ∃ m' e' h, roundWithAccuracy Format.binary64 .positive m e acc = .finite .positive m' e' h ∧
      m' < 2 ^ 53 ∧ -1074 ≤ e' := by
  obtain ⟨hpos, -, hfirst⟩ := shiftToTarget_bounds hm he acc
  unfold roundWithAccuracy
  rcases hs : shiftToTargetExponent Format.binary64 m e acc with ⟨em, e₁⟩
  rw [hs] at hpos hfirst
  have hrounded : 0 < em.roundedMantissa := hpos.trans_le (le_roundToNearestEven _)
  obtain ⟨hpos', hlt, hsecond⟩ := shiftToTarget_bounds hrounded hfirst .exact
  refine ⟨_, _, hpos', dif_neg hpos'.ne', hlt, hsecond⟩

end Rounding

/-- The number of nanoseconds in a second as a double. -/
lemma unpack_ticks : (ofInt Quantity.ticksPerSecond).toModel.unpack =
    .finite .positive (1000000000 * 2 ^ 23) (-23) (by decide) := rfl

/-- A second is never divided so far that nothing is left to round. -/
lemma divCore_ticks {m : ℕ} {e : ℤ} (hm : 0 < m) (hlt : m < 2 ^ 53) (he : e ≤ 971) :
    0 < (divCore Format.binary64 (1000000000 * 2 ^ 23) (-23) m e).1 ∧
      -1074 ≤ (divCore Format.binary64 (1000000000 * 2 ^ 23) (-23) m e).2.1 := by
  have hlog : m.log2 < 53 := (Nat.log2_lt hm.ne').2 hlt
  have hticks : Nat.log2 (1000000000 * 2 ^ 23) = 52 := by decide
  have hmin : Format.binary64.minExponent = -1074 := rfl
  have hbits : Format.binary64.mantissaBits = 53 := rfl
  unfold divCore Format.targetExponent totalExponent
  dsimp only
  rw [hmin, hbits, hticks]
  refine ⟨Nat.div_pos ?_ hm, by omega⟩
  rw [Nat.shiftLeft_eq]
  calc m ≤ 1000000000 * 2 ^ 23 * 2 ^ 1 := by omega
    _ ≤ _ := Nat.mul_le_mul_left _ (pow_le_pow_right₀ one_le_two (by omega))

lemma ofFloat_div (x y : Float) :
    ofFloat (x / y) = ofUnpacked (UnpackedFloat.unpack Format.binary64
      (UnpackedFloat.pack Format.binary64
        (UnpackedFloat.div Format.binary64 x.toModel.unpack y.toModel.unpack))) :=
  ofFloat_eq (x / y)

/-- **A second divided by a double above zero stays above zero**, unless the double is infinite. -/
theorem isAbove_ticks_div_iff {x : Float} (hx : (ofFloat x).IsAbove) :
    (ofFloat (ofInt Quantity.ticksPerSecond / x)).IsAbove ↔ x.isInf = false := by
  have hbounds := @finite_bounds x
  have hinf : x.isInf = x.toModel.unpack.isInf := rfl
  rw [ofFloat_div, unpack_ticks, hinf]
  rw [ofFloat_eq] at hx hbounds
  generalize x.toModel.unpack = u at hx hbounds ⊢
  cases u with
  | infinity sign =>
    -- nothing is left, with whatever sign
    refine iff_of_false ?_ nofun
    have hdiv : UnpackedFloat.div Format.binary64
        (.finite .positive (1000000000 * 2 ^ 23) (-23) (by decide)) (.infinity sign) =
        .zero (.positive / sign) := rfl
    have hzero : UnpackedFloat.unpack Format.binary64 (UnpackedFloat.pack Format.binary64
        (.zero (.positive / sign))) = .zero (.positive / sign) := unpack_packedZero
    rw [hdiv, hzero]
    exact fun h => Nat.lt_irrefl 0 h.2
  | notANumber =>
    -- what is no number is not at most zero
    refine iff_of_true ?_ rfl
    have hdiv : UnpackedFloat.div Format.binary64
        (.finite .positive (1000000000 * 2 ^ 23) (-23) (by decide)) .notANumber =
        .notANumber := rfl
    have hnan : UnpackedFloat.unpack Format.binary64 (UnpackedFloat.pack Format.binary64
        .notANumber) = .notANumber := unpack_packedNaN
    rw [hdiv, hnan]
    trivial
  | zero sign => exact absurd hx.2 (Nat.lt_irrefl 0)
  | finite sign m e hm =>
    obtain ⟨hlt, -, he⟩ := hbounds rfl
    obtain ⟨hquotient, hexponent⟩ := divCore_ticks hm hlt he
    obtain rfl : sign = .positive := by
      cases sign
      · exact absurd hx.1 (by decide)
      · rfl
    refine iff_of_true ?_ rfl
    -- rounding leaves something of the quotient, and packing keeps it
    obtain ⟨m', e', hm', hround, hlt', he'⟩ := exists_roundWithAccuracy hquotient hexponent
      (divCore Format.binary64 (1000000000 * 2 ^ 23) (-23) m e).2.2
    have hdiv : UnpackedFloat.div Format.binary64
        (.finite .positive (1000000000 * 2 ^ 23) (-23) (by decide)) (.finite .positive m e hm) =
        .finite .positive m' e' hm' := hround
    rw [hdiv]
    exact isAbove_pack hm' hlt' he'

/-! ### Negation -/

/-- Bits are those of an infinity only if all bits of the exponent are set. -/
lemma isInf_packComponents {exponent : BitVec 11} (h : exponent ≠ -1#11) (sign : Sign)
    (fraction : BitVec 52) :
    (UnpackedFloat.unpack Format.binary64
      (packComponents Format.binary64 sign exponent fraction)).isInf = false := by
  unfold UnpackedFloat.unpack
  dsimp only
  rw [unpackExponent_packComponents, if_neg h]
  split
  · split <;> rfl
  · rfl

/-- A double whose exponent is not too great is not packed as an infinity. -/
lemma isInf_pack {m : ℕ} {e : ℤ} (hm : 0 < m) (he : e ≤ 971) (sign : Sign) :
    (UnpackedFloat.unpack Format.binary64
      (UnpackedFloat.pack Format.binary64 (.finite sign m e hm))).isInf = false := by
  have hbias : Format.binary64.exponentBias = 1023 := rfl
  unfold UnpackedFloat.pack
  dsimp only
  rw [hbias, if_neg (by omega)]
  split
  · refine isInf_packComponents (fun hones => ?_) _ _
    have hexponent := congrArg BitVec.toNat hones
    have hall : (-1#11).toNat = 2047 := rfl
    rw [BitVec.toNat_ofNat, hall] at hexponent
    omega
  · exact isInf_packComponents (by decide) _ _

/-- A double is infinite exactly if its negation is. -/
lemma isInf_neg (x : Float) : (-x).isInf = x.isInf := by
  have hbounds := @finite_bounds x
  rw [ofFloat_eq] at hbounds
  show (UnpackedFloat.unpack Format.binary64 (UnpackedFloat.pack Format.binary64
    x.toModel.unpack.neg)).isInf = x.toModel.unpack.isInf
  generalize x.toModel.unpack = u at hbounds ⊢
  cases u with
  | infinity sign =>
    show (UnpackedFloat.unpack Format.binary64
      (packedInfinity Format.binary64 (-sign))).isInf = true
    simp [UnpackedFloat.unpack, packedInfinity, UnpackedFloat.isInf]
  | notANumber => exact congrArg UnpackedFloat.isInf unpack_packedNaN
  | zero sign =>
    have hzero : UnpackedFloat.unpack Format.binary64
        (UnpackedFloat.pack Format.binary64 (zero sign).neg) = .zero (-sign) := unpack_packedZero
    rw [hzero]
    rfl
  | finite sign m e hm => exact isInf_pack hm (hbounds rfl).2.2 (-sign)

end Binary64

namespace Quantity

/-- **An integer is beyond every double from half a step behind the greatest one on**, on both
sides of zero. -/
theorem isBeyondDouble_whole_iff (n : ℤ) :
    (whole n).isBeyondDouble = true ↔ 2 ^ 1024 ≤ n.natAbs + 2 ^ 970 := by
  rw [← Binary64.isInf_nearest_one_iff]
  show (Binary64.ofInt n).isInf = true ↔ _
  unfold Binary64.ofInt
  split
  · rw [Binary64.isInf_neg]
  · rfl

/-- Whether the period of a frequency above zero is above zero, and does not round to it. -/
def HasPeriod : Quantity → Prop
  | whole n => n < ticksPerSecond * 2 ^ 1075
  | real x => x.isInf = false

/-- **A frequency above zero has a period**, which is above zero unless the frequency is infinite or
too high. -/
theorem exists_period {hz : Quantity} (h : ¬ hz ≤ 0) :
    ∃ p, hz.period = .ok p ∧ (¬ real p ≤ 0 ↔ hz.HasPeriod) := by
  cases hz with
  | whole n =>
    have hn : 0 < n := by
      rw [ofNat_eq_whole, whole_le] at h
      simpa using h
    obtain ⟨k, rfl⟩ := Int.eq_ofNat_of_zero_le hn.le
    have hk : 0 < k := by omega
    have hround : Binary64.ofRatio ticksPerSecond k = Binary64.nearest 1000000000 k :=
      if_pos (propext (iff_of_false (by decide) (by omega)))
    refine ⟨_, if_neg hn.ne', ?_⟩
    rw [Binary64.not_real_le_zero_iff, hround, Binary64.isAbove_nearest_iff (by decide) hk]
    show _ ↔ (k : ℤ) < ticksPerSecond * 2 ^ 1075
    unfold ticksPerSecond
    exact_mod_cast Iff.rfl
  | real x =>
    have hx := (Binary64.not_real_le_zero_iff x).1 h
    refine ⟨_, if_neg (ne_true_of_eq_false (Binary64.beq_zero_of_isAbove hx)), ?_⟩
    rw [Binary64.not_real_le_zero_iff]
    exact Binary64.isAbove_ticks_div_iff hx

end Quantity

end Chip8
