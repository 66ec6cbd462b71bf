import Chip8.Settings
import Mathlib.Algebra.Order.Ring.Int
import Mathlib.Data.List.TakeWhile

/-!
# Integers read back from their numerals

Where a setting is an integer, a document may give the integer itself or a numeral of it.
`Numeral.Writes` says which number a row of digits writes, digit by digit from the left.  Three
facts about it carry the module: the usual digits of a number write it, zeros in front and capital
letters change nothing, and what the readers of numerals make of a row of digits is the number it
writes.  Which reader is at work is decided before, by the mark of base sixteen.

In base ten the reader has a limit: a numeral of more than `Numeral.digitLimit` digits is refused.
In base sixteen there is none.

The main result is `Settings.readInt_numerals`.
-/

namespace Chip8

namespace Numeral

/-- Digits in a base, most significant first, and the number they write. -/
inductive Writes (base : ℕ) : List Char → ℕ → Prop where
  | nil : Writes base [] 0
  | concat {cs : List Char} {n d : ℕ} {c : Char} (front : Writes base cs n)
      (last : digitIn? base c = some d) : Writes base (cs ++ [c]) (base * n + d)

/-! ### Digits -/

lemma digitIn?_digitChar {base d : ℕ} (hd : d < base) (hbase : base ≤ 16) :
    digitIn? base d.digitChar = some d := by
  have hvalue : ∀ d < 16, Hex.digitValue? d.digitChar = some d := by decide
  simp [digitIn?, hvalue d (by omega), hd]

/-- What holds of every ASCII character need only be looked at for the numbers of them. -/
lemma forall_ascii {p : Char → Prop} (h : ∀ n < 128, p (Char.ofNat n)) {c : Char}
    (hc : c.toNat < 128) : p c := by
  have hp := h c.toNat hc
  rwa [Char.ofNat_toNat] at hp

lemma toNat_lt_of_digitIn? {base d : ℕ} {c : Char} (h : digitIn? base c = some d) :
    c.toNat < 128 := by
  obtain ⟨hvalue, -⟩ := Option.filter_eq_some_iff.1 h
  by_contra hc
  have hnone : Hex.digitValue? c = none := by
    simp only [Hex.digitValue?, Char.le_def, UInt32.le_iff_toNat_le, Char.toNat_val]
    rw [if_neg, if_neg, if_neg]
    all_goals
      rintro ⟨-, hle⟩
      exact hc (lt_of_le_of_lt hle (by decide))
  rw [hnone] at hvalue
  cases hvalue

/-- A letter counts the same in either case. -/
lemma digitIn?_toLower (base : ℕ) (c : Char) : digitIn? base c.toLower = digitIn? base c := by
  by_cases hc : c.toNat < 128
  · have hvalue : Hex.digitValue? c.toLower = Hex.digitValue? c :=
      forall_ascii (p := fun c => Hex.digitValue? c.toLower = Hex.digitValue? c) (by decide) hc
    simp [digitIn?, hvalue]
  · have hsame : c.toLower = c :=
      dif_neg fun h => hc (lt_of_le_of_lt (UInt32.le_iff_toNat_le.1 h.2) (by decide))
    rw [hsame]

/-- Digits are plain. -/
lemma plainChar_of_digitIn? {base d : ℕ} {c : Char} (h : digitIn? base c = some d) :
    plainChar c = c := by
  have hplain : ∀ v, Hex.digitValue? c = some v → plainChar c = c :=
    forall_ascii (p := fun c => ∀ v, Hex.digitValue? c = some v → plainChar c = c)
      (by decide +kernel) (toNat_lt_of_digitIn? h)
  exact hplain d (Option.filter_eq_some_iff.1 h).1

lemma isDigit_of_digitIn? {d : ℕ} {c : Char} (h : digitIn? 10 c = some d) : c.isDigit := by
  have hdigit : ∀ v, digitIn? 10 c = some v → c.isDigit :=
    forall_ascii (p := fun c => ∀ v, digitIn? 10 c = some v → c.isDigit) (by decide)
      (toNat_lt_of_digitIn? h)
  exact hdigit d h

/-- The usual digits of a number write it. -/
lemma writes_toDigits {base : ℕ} (h : 1 < base) (hbase : base ≤ 16) (n : ℕ) :
    Writes base (Nat.toDigits base n) n := by
  induction n using Nat.strong_induction_on with
  | _ n ih =>
    rw [Nat.toDigits_eq_if h]
    split
    · next hn =>
      have hone := Writes.nil.concat (digitIn?_digitChar hn hbase)
      simpa using hone
    · next hn =>
      have hless : n / base < n := Nat.div_lt_self (by omega) h
      have hlast := digitIn?_digitChar (Nat.mod_lt n (by omega : 0 < base)) hbase
      have hall := (ih (n / base) hless).concat hlast
      rwa [Nat.div_add_mod] at hall

namespace Writes

variable {base n : ℕ} {cs : List Char}

lemma exists_digit (h : Writes base cs n) : ∀ c ∈ cs, ∃ d, digitIn? base c = some d := by
  induction h with
  | nil => simp
  | concat _ last ih =>
    intro c hc
    rcases List.mem_append.1 hc with hc | hc
    · exact ih c hc
    · rw [List.mem_singleton.1 hc]
      exact ⟨_, last⟩

lemma zeros (hbase : 0 < base) (count : ℕ) : Writes base (List.replicate count '0') 0 := by
  have hzero : digitIn? base '0' = some 0 := by simp [digitIn?, Hex.digitValue?, hbase]
  induction count with
  | zero => exact .nil
  | succ count ih =>
    rw [List.replicate_succ']
    exact ih.concat hzero

/-- Zeros in front change nothing. -/
lemma zeros_append (h : Writes base cs n) (hbase : 0 < base) (count : ℕ) :
    Writes base (List.replicate count '0' ++ cs) n := by
  induction h with
  | nil => simpa using zeros hbase count
  | concat front last ih =>
    rw [← List.append_assoc]
    exact ih.concat last

/-- Capital letters change nothing. -/
lemma of_map_toLower (h : Writes base (cs.map Char.toLower) n) : Writes base cs n := by
  generalize hlower : cs.map Char.toLower = lower at h
  induction h generalizing cs with
  | nil =>
    rw [List.map_eq_nil_iff.1 hlower]
    exact .nil
  | concat front last ih =>
    obtain ⟨front', last', rfl, hfront, hlast⟩ := List.map_eq_append_iff.1 hlower
    obtain ⟨c, rfl, rfl⟩ := List.map_eq_singleton_iff.1 hlast
    rw [digitIn?_toLower] at last
    exact (ih hfront).concat last

/-- What is no digit is not among the digits. -/
lemma notMem (h : Writes base cs n) {c : Char} (hc : digitIn? base c = none) : c ∉ cs := by
  intro hmem
  obtain ⟨d, hd⟩ := h.exists_digit c hmem
  simp [hc] at hd

lemma mapM_digitIn? (h : Writes base cs n) :
    ∃ ds, cs.mapM (digitIn? base) = some ds ∧ ds.length = cs.length ∧ ofDigits base ds = n := by
  induction h with
  | nil => exact ⟨[], rfl, rfl, rfl⟩
  | @concat cs n d c _ last ih =>
    obtain ⟨ds, hds, hlength, hvalue⟩ := ih
    refine ⟨ds ++ [d], by simp [List.mapM_append, hds, last], by simp [hlength], ?_⟩
    simp [ofDigits, List.foldl_append, ← hvalue]

end Writes

/-! ### Reading what digits write -/

/-- Where no underscore stands, the digits are read one by one. -/
lemma digits?_eq_mapM {base : ℕ} {cs : List Char} (hne : cs ≠ []) (hplain : '_' ∉ cs) :
    digits? base cs = cs.mapM (digitIn? base) := by
  induction cs with
  | nil => contradiction
  | cons c rest ih =>
    rcases rest with _ | ⟨c', rest⟩
    · cases hc : digitIn? base c <;> simp [digits?, hc]
    · have hc' : c' ≠ '_' := by
        rintro rfl
        simp at hplain
      rw [digits?, ih (by simp) (by simp_all), List.mapM_cons]
      · simp
      · exact List.cons_ne_nil c' rest
      · intro _ heq
        exact hc' (List.cons.inj heq).1

lemma plain_of_forall {cs : List Char} (h : ∀ c ∈ cs, plainChar c = c ∧ c ≠ ' ') :
    plain (String.ofList cs) = cs := by
  have hmap : cs.map plainChar = cs := by
    simpa using List.map_congr_left (g := id) fun c hc => (h c hc).1
  have hdrop : ∀ ds : List Char, (∀ c ∈ ds, c ≠ ' ') → ds.dropWhile (· = ' ') = ds := by
    intro ds hds
    rw [List.dropWhile_eq_self_iff]
    intro hpos
    simpa using hds _ (List.getElem_mem hpos)
  have hfront := hdrop cs fun c hc => (h c hc).2
  have hback := hdrop cs.reverse fun c hc => (h c (List.mem_reverse.1 hc)).2
  simp [plain, hmap, hfront, hback]

/-- A number of either sign, as its sign and the digits behind it. -/
def signed (negative : Bool) (cs : List Char) : List Char := if negative then '-' :: cs else cs

namespace Writes

variable {base n : ℕ} {cs : List Char}

lemma digits?_eq (h : Writes base cs n) (hne : cs ≠ []) :
    ∃ ds, digits? base cs = some ds ∧ ds.length = cs.length ∧ ofDigits base ds = n := by
  rw [digits?_eq_mapM hne (h.notMem rfl)]
  exact h.mapM_digitIn?

lemma plain_eq (h : Writes base cs n) : ∀ c ∈ cs, plainChar c = c ∧ c ≠ ' ' := by
  intro c hc
  obtain ⟨d, hd⟩ := h.exists_digit c hc
  refine ⟨plainChar_of_digitIn? hd, ?_⟩
  rintro rfl
  exact h.notMem rfl hc

lemma splitSign_signed (h : Writes base cs n) (negative : Bool) :
    splitSign (signed negative cs) = (negative, cs) := by
  cases negative with
  | true => rfl
  | false =>
    show splitSign cs = _
    unfold splitSign
    split
    · exact absurd List.mem_cons_self (h.notMem rfl)
    · exact absurd List.mem_cons_self (h.notMem rfl)
    · rfl

lemma plain_signed (h : Writes base cs n) (negative : Bool) :
    plain (String.ofList (signed negative cs)) = signed negative cs := by
  apply plain_of_forall
  cases negative with
  | false => exact h.plain_eq
  | true =>
    intro c hc
    rcases List.mem_cons.1 hc with rfl | hc
    · decide +kernel
    · exact h.plain_eq c hc

/-- A decimal numeral is read as the number it writes, unless it has too many digits. -/
lemma readDecimal_signed (h : Writes 10 cs n) (hne : cs ≠ []) (negative : Bool) :
    readDecimal (String.ofList (signed negative cs)) =
      if digitLimit < cs.length then .error (.tooLong digitLimit cs.length)
      else .ok (if negative then -(n : ℤ) else n) := by
  obtain ⟨ds, hds, hlength, hvalue⟩ := h.digits?_eq hne
  have htake : cs.takeWhile (fun c => c.isDigit || c = '_') = cs := by
    rw [List.takeWhile_eq_self_iff]
    intro c hc
    obtain ⟨d, hd⟩ := h.exists_digit c hc
    simp [isDigit_of_digitIn? hd]
  simp only [readDecimal, h.plain_signed, h.splitSign_signed, htake, hds, hlength, hvalue]
  split
  · rfl
  · simp
    rfl

/-- A decimal numeral does not begin as one of base sixteen. -/
lemma hasHexMark_signed (h : Writes 10 cs n) (negative : Bool) :
    hasHexMark (String.ofList (signed negative cs)) = false := by
  have hx : 'x' ∉ cs := h.notMem rfl
  have hX : 'X' ∉ cs := h.notMem rfl
  cases negative with
  | true => simp [hasHexMark, signed]
  | false =>
    simp only [hasHexMark, signed, String.toList_ofList]
    split
    · simp_all
    · simp_all
    · rfl

/-- A hexadecimal numeral is read as the number it writes, however many digits it has. -/
lemma readBased_marked (h : Writes 16 cs n) (hne : cs ≠ []) {mark : Char}
    (hmark : mark = 'x' ∨ mark = 'X') :
    readBased 16 (String.ofList ('0' :: mark :: cs)) = .ok n := by
  obtain ⟨ds, hds, -, hvalue⟩ := h.digits?_eq hne
  have hplain : plain (String.ofList ('0' :: mark :: cs)) = '0' :: mark :: cs := by
    apply plain_of_forall
    intro c hc
    rcases List.mem_cons.1 hc with rfl | hc
    · decide +kernel
    rcases List.mem_cons.1 hc with rfl | hc
    · rcases hmark with rfl | rfl <;> decide +kernel
    · exact h.plain_eq c hc
  have hdrop : dropMark 16 ('0' :: mark :: cs) = cs := by
    have hletter : markOf 16 = some mark.toLower := by rcases hmark with rfl | rfl <;> rfl
    have hunderscore : '_' ∉ cs := h.notMem rfl
    simp only [dropMark, if_pos hletter]
    split
    · simp at hunderscore
    · rfl
  have hsplit : splitSign ('0' :: mark :: cs) = (false, '0' :: mark :: cs) := rfl
  simp only [readBased, hplain, hsplit, hdrop, hds, hvalue]
  rfl

end Writes

/-- The digits of a number, with its sign in front. -/
lemma toList_toString (n : ℤ) :
    (toString n).toList = signed (decide (n < 0)) (Nat.toDigits 10 n.natAbs) := by
  cases n with
  | ofNat m =>
    show (Nat.repr m).toList = _
    simp [signed, Nat.repr_eq_ofList_toDigits]
  | negSucc m =>
    show ("-" ++ Nat.repr (m + 1)).toList = _
    simp [signed, Nat.repr_eq_ofList_toDigits]

end Numeral

namespace Settings

open Numeral

/-- A decimal numeral is read back, unless it is too long. -/
lemma readInt_toString (n : ℤ) :
    readInt (.text (toString n)) =
      if n.natAbs < 10 ^ digitLimit then .ok n
      else .error (.integer (.tooLong digitLimit (Nat.toDigits 10 n.natAbs).length)) := by
  have h := writes_toDigits (by decide : 1 < 10) (by decide) n.natAbs
  have htext : toString n = String.ofList (signed (decide (n < 0)) (Nat.toDigits 10 n.natAbs)) := by
    rw [← toList_toString, String.ofList_toList]
  have hsigned : (if n < 0 then -(n.natAbs : ℤ) else n.natAbs) = n := by split <;> omega
  have hlimit : n.natAbs < 10 ^ digitLimit ↔
      ¬ digitLimit < (Nat.toDigits 10 n.natAbs).length := by
    rw [not_lt, Nat.length_toDigits_le_iff (by decide) (by decide)]
  rw [readInt, htext, readInteger, h.hasHexMark_signed, if_neg Bool.false_ne_true,
    h.readDecimal_signed Nat.toDigits_ne_nil, if_congr hlimit rfl rfl, ite_not]
  simp only [decide_eq_true_eq, hsigned]
  split <;> rfl

lemma readInt_marked {n : ℕ} {cs : List Char} (h : Writes 16 cs n) (hne : cs ≠ []) {mark : Char}
    (hmark : mark = 'x' ∨ mark = 'X') :
    readInt (.text (String.ofList ('0' :: mark :: cs))) = .ok n := by
  have hhex : hasHexMark (String.ofList ('0' :: mark :: cs)) = true := by
    rcases hmark with rfl | rfl <;> simp [hasHexMark]
  rw [readInt, readInteger, if_pos hhex, h.readBased_marked hne hmark]
  rfl

/-- **An integer is read back from its numerals.**  Where a document gives the integer itself, that
is read.  Where it gives the decimal numeral, with a minus in front if the integer is below zero,
the integer is read if it has at most `digitLimit` digits; otherwise the text is refused, and the
error names the limit and the number of digits.  Where it gives the mark of base sixteen, with a
small or a capital letter, any number of zeros, and the hexadecimal digits with letters of either
case, the number is read however many digits it has. -/
theorem readInt_numerals :
    (∀ n : ℤ, readInt (.int n) = .ok n) ∧
      (∀ n : ℤ, readInt (.text (toString n)) =
        if n.natAbs < 10 ^ digitLimit then .ok n
        else .error (.integer (.tooLong digitLimit (Nat.toDigits 10 n.natAbs).length))) ∧
      ∀ (n : ℕ) (mark : Char) (zeros : ℕ) (digits : List Char), mark = 'x' ∨ mark = 'X' →
        digits.map Char.toLower = Nat.toDigits 16 n →
          readInt (.text (String.ofList
            ('0' :: mark :: (List.replicate zeros '0' ++ digits)))) = .ok (n : ℤ) := by
  refine ⟨fun n => rfl, readInt_toString, ?_⟩
  intro n mark zeros digits hmark hdigits
  have hlower := writes_toDigits (by decide : 1 < 16) le_rfl n
  rw [← hdigits] at hlower
  have hwrites : Writes 16 (List.replicate zeros '0' ++ digits) n :=
    hlower.of_map_toLower.zeros_append (by decide) zeros
  have hne : List.replicate zeros '0' ++ digits ≠ [] := by
    intro hnil
    rw [(List.append_eq_nil_iff.1 hnil).2] at hdigits
    exact Nat.toDigits_ne_nil hdigits.symm
  exact readInt_marked hwrites hne hmark

/-- Capital and small letters in one numeral, behind a capital mark and zeros. -/
theorem readInt_numerals_mixedCase :
    readInt (.text "0X00bEeF") = .ok 48879 ∧ readInt (.text "-48879") = .ok (-48879) ∧
      "bEeF".toList.map Char.toLower = Nat.toDigits 16 48879 := by
  obtain ⟨-, hdecimal, hhex⟩ := readInt_numerals
  have hdigits : "bEeF".toList.map Char.toLower = Nat.toDigits 16 48879 := by decide
  have hsmall : (-48879 : ℤ).natAbs < 10 ^ digitLimit :=
    calc (-48879 : ℤ).natAbs
      _ < 10 ^ 5 := by decide
      _ ≤ 10 ^ digitLimit := Nat.pow_le_pow_right (by decide) (by decide)
  refine ⟨hhex 48879 'X' 2 "bEeF".toList (.inr rfl) hdigits, ?_, hdigits⟩
  have hminus := hdecimal (-48879)
  rwa [if_pos hsmall] at hminus

/-- The least number of more digits than the limit allows is not read from its decimal numeral. -/
theorem readInt_tooLong : readInt (.text (toString ((10 : ℤ) ^ 4300))) ≠ .ok (10 ^ 4300) := by
  have hpow (k : ℕ) : ¬ ((10 : ℤ) ^ k).natAbs < 10 ^ k := by simp [Int.natAbs_pow]
  have hlong : ¬ ((10 : ℤ) ^ 4300).natAbs < 10 ^ digitLimit := hpow digitLimit
  generalize (10 : ℤ) ^ 4300 = n at hlong ⊢
  rw [readInt_toString, if_neg hlong]
  exact nofun

end Settings

end Chip8
