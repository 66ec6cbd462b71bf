import Chip8.Machine.Execute
import Chip8.Operation
import Mathlib.Algebra.Group.Nat.Defs
import Mathlib.Data.Int.Notation
import Mathlib.Data.List.Nodup
import Mathlib.Data.Nat.Notation
import Mathlib.Tactic.Lemma

/-!
# What the text of an instruction tells

The text of an instruction is its mnemonic, a blank, and its operands with commas between them.  No
mnemonic has a blank and no operand has a comma, so mnemonic and operands can be read off the text.
The mnemonic and what the first two operands begin with tell the opcode, and the operands show every
field of the word that the opcode looks at.  Hence the main result, `execute_eq_of_text_eq`: words
that read alike do the same, also those that reach an opcode of another family, and those that are
no instruction.
-/

namespace Chip8

/-! ### Texts that can be taken apart -/

/-- The first place of a character in a text is in one place only. -/
lemma cut_unique {c : Char} {front front' back back' : List Char} (h : c ∉ front) (h' : c ∉ front')
    (heq : front ++ c :: back = front' ++ c :: back') : front = front' ∧ back = back' := by
  induction front generalizing front' with
  | nil =>
    cases front' with
    | nil => exact ⟨rfl, (List.cons.inj heq).2⟩
    | cons b front' =>
      obtain ⟨rfl, -⟩ := List.cons.inj heq
      exact absurd List.mem_cons_self h'
  | cons a front ih =>
    cases front' with
    | nil =>
      obtain ⟨rfl, -⟩ := List.cons.inj heq
      exact absurd List.mem_cons_self h
    | cons b front' =>
      obtain ⟨rfl, hrest⟩ := List.cons.inj heq
      obtain ⟨rfl, hback⟩ := ih (List.not_mem_of_not_mem_cons h) (List.not_mem_of_not_mem_cons h')
        hrest
      exact ⟨rfl, hback⟩

/-- What stands between operands. -/
def comma : List Char := [',', ' ']

/-- Texts without commas can be told apart once they are joined by commas. -/
lemma eq_of_intercalate_comma {texts texts' : List (List Char)} (hne : texts ≠ [])
    (hne' : texts' ≠ []) (h : ∀ t ∈ texts, ',' ∉ t) (h' : ∀ t ∈ texts', ',' ∉ t)
    (heq : comma.intercalate texts = comma.intercalate texts') : texts = texts' := by
  induction texts generalizing texts' with
  | nil => exact absurd rfl hne
  | cons t rest ih =>
    cases texts' with
    | nil => exact absurd rfl hne'
    | cons t' rest' =>
      have ht := h t List.mem_cons_self
      have ht' := h' t' List.mem_cons_self
      cases rest with
      | nil =>
        cases rest' with
        | nil => simpa using heq
        | cons u rest' =>
          rw [List.intercalate_singleton, List.intercalate_cons_cons] at heq
          exact absurd (by simp [heq, comma]) ht
      | cons u rest =>
        cases rest' with
        | nil =>
          rw [List.intercalate_singleton, List.intercalate_cons_cons] at heq
          exact absurd (by simp [← heq, comma]) ht'
        | cons u' rest' =>
          rw [List.intercalate_cons_cons, List.intercalate_cons_cons, comma, List.append_assoc,
            List.append_assoc] at heq
          obtain ⟨rfl, hback⟩ := cut_unique ht ht' heq
          have hrest := ih (List.cons_ne_nil u rest) (List.cons_ne_nil u' rest')
            (fun s hs => h s (List.mem_cons_of_mem t hs))
            (fun s hs => h' s (List.mem_cons_of_mem t hs)) (List.cons.inj hback).2
          rw [hrest]

namespace Operation

/-- The mnemonic has no blank and the operands have no comma, so these can separate them. -/
structure Separable (o : Operation) : Prop where
  mnemonic : ' ' ∉ o.mnemonic.toList
  operands : ∀ operand ∈ o.operands, ',' ∉ operand.toList

lemma toList_text (o : Operation) :
    o.text.toList = o.mnemonic.toList ++
      if o.operands = [] then [] else ' ' :: comma.intercalate (o.operands.map String.toList) := by
  unfold text
  by_cases h : o.operands = []
  · simp [h]
  · simp [h, String.toList_append, String.toList_intercalate, comma]

variable {o o' : Operation}

/-- Mnemonic and operands can be read off the text. -/
lemma eq_of_text_eq (h : o.Separable) (h' : o'.Separable) (heq : o.text = o'.text) :
    o.mnemonic = o'.mnemonic ∧ o.operands = o'.operands := by
  have hlist := congrArg String.toList heq
  rw [toList_text, toList_text] at hlist
  by_cases hnil : o.operands = [] <;> by_cases hnil' : o'.operands = []
  · rw [if_pos hnil, if_pos hnil', List.append_nil, List.append_nil] at hlist
    exact ⟨String.toList_inj.1 hlist, hnil.trans hnil'.symm⟩
  · rw [if_pos hnil, if_neg hnil', List.append_nil] at hlist
    exact absurd (by simp [hlist]) h.mnemonic
  · rw [if_neg hnil, if_pos hnil', List.append_nil] at hlist
    exact absurd (by simp [← hlist]) h'.mnemonic
  · rw [if_neg hnil, if_neg hnil'] at hlist
    obtain ⟨hmnemonic, hjoined⟩ := cut_unique h.mnemonic h'.mnemonic hlist
    have hoperands := eq_of_intercalate_comma (by simpa using hnil) (by simpa using hnil')
      (by simpa using h.operands) (by simpa using h'.operands) hjoined
    exact ⟨String.toList_inj.1 hmnemonic,
      List.map_injective_iff.2 (fun _ _ => String.toList_inj.1) hoperands⟩

end Operation

/-! ### Digits -/

namespace Hex

lemma upperDigit_inj : ∀ a < 16, ∀ b < 16, upperDigit a = upperDigit b → a = b := by decide

lemma upperDigit_ne_comma : ∀ a < 16, upperDigit a ≠ ',' := by decide

/-- Numbers that fit into some digits are told apart by them. -/
lemma upper_inj {width a b : ℕ} (ha : a < 16 ^ width) (hb : b < 16 ^ width)
    (h : upper width a = upper width b) : a = b := by
  induction width generalizing a b with
  | zero => omega
  | succ width ih =>
    obtain ⟨hfront, hlast⟩ := List.append_inj' h rfl
    have hhigh : a / 16 = b / 16 := ih (by omega) (by omega) hfront
    have hlow : a % 16 = b % 16 :=
      upperDigit_inj _ (Nat.mod_lt _ (by decide)) _ (Nat.mod_lt _ (by decide))
        (List.cons.inj hlast).1
    omega

/-- A character that is no digit is not among the digits of a number. -/
lemma notMem_upper {c : Char} (hc : ∀ a < 16, upperDigit a ≠ c) (width a : ℕ) :
    c ∉ upper width a := by
  induction width generalizing a with
  | zero => exact List.not_mem_nil
  | succ width ih =>
    have hdigit := hc (a % 16) (Nat.mod_lt _ (by decide))
    simp [upper, ih, hdigit.symm]

lemma comma_notMem_upper (width a : ℕ) : ',' ∉ upper width a :=
  notMem_upper upperDigit_ne_comma width a

end Hex

/-- The number of rows of a sprite is told by its decimal digits. -/
lemma toString_inj : ∀ a < 16, ∀ b < 16, toString a = toString b → a = b := by decide

lemma comma_notMem_toString : ∀ a < 16, ',' ∉ (toString a).toList := by decide

/-- Behind the same mark, numbers that fit into some digits are told apart by them. -/
lemma ofList_upper_inj (mark : List Char) (width : ℕ) {a b : ℕ} (ha : a < 16 ^ width)
    (hb : b < 16 ^ width) :
    String.ofList (mark ++ Hex.upper width a) = String.ofList (mark ++ Hex.upper width b) ↔
      a = b := by
  constructor
  · intro h
    exact Hex.upper_inj ha hb (List.append_cancel_left (String.ofList_injective h))
  · rintro rfl
    rfl

/-! ### Operands -/

namespace Word

variable {w w' : Word}

lemma ext (h : w.value = w'.value) : w = w' := by
  cases w
  cases w'
  simpa using h

lemma vx_inj : w.vx = w'.vx ↔ w.x = w'.x :=
  ofList_upper_inj ['V'] 1 w.x_lt w'.x_lt

lemma vy_inj : w.vy = w'.vy ↔ w.y = w'.y :=
  ofList_upper_inj ['V'] 1 w.y_lt w'.y_lt

lemma address_inj : w.address = w'.address ↔ w.nnn = w'.nnn :=
  ofList_upper_inj ['$'] 3 w.nnn_lt w'.nnn_lt

lemma immediate_inj : w.immediate = w'.immediate ↔ w.kk = w'.kk :=
  ofList_upper_inj ['#', '$'] 2 w.kk_lt w'.kk_lt

lemma rows_inj : toString w.n = toString w'.n ↔ w.n = w'.n :=
  ⟨toString_inj _ w.n_lt _ w'.n_lt, congrArg toString⟩

lemma digits_inj : w.digits = w'.digits ↔ w.value = w'.value :=
  ofList_upper_inj [] 4 w.value_lt w'.value_lt

lemma comma_notMem_operands (w : Word) (op : Opcode) :
    ∀ operand ∈ w.operands op, ',' ∉ operand.toList := by
  have hx : ',' ∉ w.vx.toList := by simp [vx, Hex.comma_notMem_upper]
  have hy : ',' ∉ w.vy.toList := by simp [vy, Hex.comma_notMem_upper]
  have haddress : ',' ∉ w.address.toList := by simp [address, Hex.comma_notMem_upper]
  have himmediate : ',' ∉ w.immediate.toList := by simp [immediate, Hex.comma_notMem_upper]
  have hrows := comma_notMem_toString w.n w.n_lt
  cases op <;>
    simp only [operands, List.forall_mem_cons, hx, hy, haddress, himmediate, hrows,
      not_false_eq_true, true_and, List.not_mem_nil, false_imp_iff, implies_true] <;>
    decide

/-- Every word reads as a text that can be taken apart. -/
lemma operation_separable (w : Word) : w.operation.Separable := by
  unfold operation
  split
  · rename_i op hop
    refine ⟨?_, w.comma_notMem_operands op⟩
    show ' ' ∉ op.mnemonic.toList
    cases op <;> decide
  · refine ⟨?_, ?_⟩
    · show ' ' ∉ "DW".toList
      decide
    · simp [digits, Hex.comma_notMem_upper]

/-! ### Opcodes -/

/-- What the first two operands begin with. -/
def initials (operands : List String) : List (Option Char) :=
  (operands.take 2).map fun operand => operand.toList.head?

/-- What the operands begin with, the opcode tells alone. -/
lemma initials_operands (w w' : Word) (op : Opcode) :
    initials (w.operands op) = initials (w'.operands op) := by
  cases op <;> simp [initials, operands, vx, vy, address, immediate]

/-- An opcode as it can be known from its text, here from the one of the word zero. -/
def heading (op : Opcode) : String × List (Option Char) :=
  (op.mnemonic, initials (operands ⟨0, by decide⟩ op))

lemma heading_injective : Function.Injective heading := by
  have hnodup : (Opcode.all.map heading).Nodup := by decide +kernel
  have hmem : ∀ op : Opcode, op ∈ Opcode.all := fun op => List.mem_of_getElem? op.all_index
  exact fun op op' h => List.inj_on_of_nodup_map hnodup (hmem op) (hmem op') h

/-- Mnemonic and operands tell the opcode. -/
lemma opcode_eq_of_operands {op op' : Opcode} (hm : op.mnemonic = op'.mnemonic)
    (ho : w.operands op = w'.operands op') : op = op' := by
  refine heading_injective (Prod.ext hm ?_)
  calc initials (operands _ op) = initials (w.operands op) := initials_operands _ _ op
    _ = initials (w'.operands op') := congrArg initials ho
    _ = initials (operands _ op') := initials_operands _ _ op'

/-- A word that is no instruction reads as no instruction does. -/
lemma mnemonic_ne_data (op : Opcode) : op.mnemonic ≠ "DW" := by
  cases op <;> decide

/-- The operands of an instruction show every field that it looks at. -/
lemma execute_eq_of_operands {op : Opcode} (h : w.operands op = w'.operands op) (m : Machine) :
    m.execute w op = m.execute w' op := by
  cases op <;>
    simp only [operands, List.cons.injEq, vx_inj, vy_inj, address_inj, immediate_inj, rows_inj,
      true_and, and_true] at h <;>
    simp only [Machine.execute, h]

/-- Words that read alike are the same instruction with the same operands, or the same word. -/
lemma opcode?_eq_of_text_eq (h : w.operation.text = w'.operation.text) :
    (∃ op, w.opcode? = some op ∧ w'.opcode? = some op ∧ w.operands op = w'.operands op) ∨
      w = w' := by
  obtain ⟨hmnemonic, hoperands⟩ :=
    Operation.eq_of_text_eq w.operation_separable w'.operation_separable h
  unfold operation at hmnemonic hoperands
  -- a data word shows all its digits, and its mnemonic is that of no instruction
  rcases hop : w.opcode? with _ | op <;> rcases hop' : w'.opcode? with _ | op' <;>
    rw [hop, hop'] at hmnemonic hoperands
  · have hdigits : w.digits = w'.digits := by simpa using hoperands
    exact .inr (ext (digits_inj.1 hdigits))
  · exact absurd hmnemonic.symm (mnemonic_ne_data op')
  · exact absurd hmnemonic (mnemonic_ne_data op)
  · obtain rfl := opcode_eq_of_operands hmnemonic hoperands
    exact .inl ⟨op, rfl, rfl, hoperands⟩

lemma ofInt_value (w : Word) : ofInt w.value = .ok w := by
  have hlt := w.value_lt
  have h : ofInt? w.value = some w := by
    rw [ofInt?, dif_pos (by omega)]
    exact congrArg some (ext (Int.toNat_natCast w.value))
  rw [ofInt, h]
  rfl

/-- To execute the number of a word is to execute the word, or to find that it is no
instruction. -/
lemma executeNumber_eq {n : ℤ} (h : ofInt n = .ok w) (m : Machine) :
    m.executeNumber n =
      match w.opcode? with
      | some op => m.execute w op
      | none => (.error (.fault (.unknownInstruction w.value none)), m) := by
  unfold Machine.executeNumber
  rw [h]
  dsimp only [bind, Except.bind]
  unfold opcode
  cases w.opcode? <;> rfl

/-- **Words that read alike do the same.**  If the texts of two words are the same, then whatever
the state of the machine is, to execute one has the same outcome as to execute the other: execution
goes on in the same way, or fails in the same way, and leaves the same machine. -/
theorem execute_eq_of_text_eq (h : w.operation.text = w'.operation.text) (m : Machine) :
    m.executeNumber w.value = m.executeNumber w'.value := by
  rw [executeNumber_eq w.ofInt_value, executeNumber_eq w'.ofInt_value]
  rcases opcode?_eq_of_text_eq h with ⟨op, hop, hop', hoperands⟩ | rfl
  · rw [hop, hop']
    exact execute_eq_of_operands hoperands m
  · rfl

/-- Two words of which the first is of family `8` and the second of family `E`. -/
def alike : Word × Word := (⟨0x812F, by decide⟩, ⟨0xE17C, by decide⟩)

theorem execute_eq_of_text_eq_alike :
    alike.1.operation.text = "SKNP V1" ∧ alike.2.operation.text = "SKNP V1" ∧
      ∀ m : Machine, m.executeNumber alike.1.value = m.executeNumber alike.2.value := by
  have h : alike.1.operation.text = "SKNP V1" := by decide +kernel
  have h' : alike.2.operation.text = "SKNP V1" := by decide +kernel
  exact ⟨h, h', execute_eq_of_text_eq (h.trans h'.symm)⟩

end Word

end Chip8
