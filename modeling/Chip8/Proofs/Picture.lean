import Chip8.Proofs.Surface
import Mathlib.Algebra.BigOperators.Group.List.Basic
import Mathlib.Algebra.Ring.Parity
import Mathlib.Data.Nat.Bits
import Mathlib.Data.Set.Card

/-!
# The picture is the parity of its sprites

Drawing flips a pixel once for every set bit of the sprite that falls on it.  So a pixel is lit
exactly if an odd number of bits have fallen on it since the surface was last cleared, whatever the
order in which they came.  The bits are counted as triples of a stroke, a row of its sprite and a
column: the rows and columns beyond the edges come in at the other side, and on a small surface
several bits of one sprite fall on the same pixel.
-/

namespace Chip8

/-- A place counted from the front. -/
lemma eitherEnd?_natCast {α : Type} {xs : List α} {k : ℕ} {a : α} (h : xs[k]? = some a) :
    eitherEnd? xs k = some a := by
  rw [eitherEnd?, place?_natCast (List.getElem?_eq_some_iff.1 h).1]
  exact h

namespace Surface

/-! ### One pixel -/

variable {s : Surface}

/-- A pixel of the grid is in the row and the column that it says. -/
lemma WellFormed.exists_pixel (h : s.WellFormed) {x y : ℕ} (hx : x < s.width) (hy : y < s.height) :
    ∃ row b, s.rows[y]? = some row ∧ row[x]? = some b := by
  have hy' : y < s.rows.size := h.height_eq ▸ hy
  have hx' : x < s.rows[y].size := (h.width_eq _ (Array.getElem_mem hy')).symm ▸ hx
  exact ⟨_, _, Array.getElem?_eq_getElem hy', Array.getElem?_eq_getElem hx'⟩

lemma WellFormed.pixel_eq (h : s.WellFormed) {px py : ℕ} (hx : px < s.width)
    (hy : py < s.height) : s.pixel px py = .ok (s.lit px py) := by
  obtain ⟨row, b, hrow, hpixel⟩ := h.exists_pixel hx hy
  have hlit : s.lit px py = b := by
    simp [lit, Array.getD_eq_getD_getElem?, hrow, hpixel]
  have hrow' := eitherEnd?_natCast (Array.getElem?_toList.trans hrow)
  have hpixel' := eitherEnd?_natCast (Array.getElem?_toList.trans hpixel)
  rw [pixel, hrow', hlit]
  dsimp only
  rw [hpixel']
  rfl

/-- A flip changes the pixel that it is made at, and no other. -/
lemma lit_flip (h : s.WellFormed) {x y : ℕ} (hx : x < s.width) (hy : y < s.height) (px py : ℕ) :
    (s.flip x y).lit px py = (s.lit px py ^^ decide ((x, y) = (px, py))) := by
  obtain ⟨row, b, hrow, hpixel⟩ := h.exists_pixel hx hy
  simp only [lit, flip, Array.getD_eq_getD_getElem?, Array.getElem?_modify]
  by_cases hpy : y = py
  · subst hpy
    by_cases hpx : x = px
    · subst hpx
      simp [hrow, hpixel, Array.getElem?_modify]
    · simp [hrow, hpx, Array.getElem?_modify]
  · simp [hpy]

lemma lit_clear (s : Surface) (px py : ℕ) : s.clear.lit px py = false := by
  unfold lit clear
  simp only [Array.getD_eq_getD_getElem?, Array.getElem?_map]
  rcases s.rows[py]? with _ | row
  · rfl
  · rcases hpixel : row[px]? with _ | b <;> simp [hpixel]

/-- Flips add up to their number. -/
lemma lit_flipAll (h : s.WellFormed) (collided : Bool) {pixels : List (ℕ × ℕ)}
    (hin : ∀ p ∈ pixels, p.1 < s.width ∧ p.2 < s.height) (px py : ℕ) :
    (s.flipAll collided pixels).1.lit px py =
      (s.lit px py ^^ (pixels.count (px, py)).bodd) := by
  induction pixels generalizing s collided with
  | nil => simp [flipAll]
  | cons p rest ih =>
    obtain ⟨hp, hrest⟩ := List.forall_mem_cons.1 hin
    refine (ih (h.flip p.1 p.2) _ hrest).trans ?_
    rw [lit_flip h hp.1 hp.2, List.count_cons, Nat.bodd_add]
    by_cases heq : p = (px, py) <;> simp [heq]

/-- Drawing flips a pixel as often as the sprite hits it. -/
lemma lit_draw (h : s.WellFormed) (x y : ℤ) (sprite : List UInt8) (px py : ℕ) :
    (s.draw x y sprite).1.lit px py =
      (s.lit px py ^^ ((hits s.width s.height x y sprite).count (px, py)).bodd) :=
  lit_flipAll h false (hits_lt h.width_pos h.height_pos x y sprite) px py

/-- Two grids of the same size whose pixels are lit alike have the same rows. -/
lemma rows_eq_of_lit {t : Surface} (hs : s.WellFormed) (ht : t.WellFormed)
    (hwidth : s.width = t.width) (hheight : s.height = t.height)
    (hlit : ∀ px py, s.lit px py = t.lit px py) : s.rows = t.rows := by
  refine Array.ext (by rw [hs.height_eq, ht.height_eq, hheight]) fun y hy hy' => ?_
  have hrow := hs.width_eq _ (Array.getElem_mem hy)
  have hrow' := ht.width_eq _ (Array.getElem_mem hy')
  refine Array.ext (by rw [hrow, hrow', hwidth]) fun x hx hx' => ?_
  have hpixel := hlit x y
  simpa [lit, Array.getD_eq_getD_getElem?, hy, hy', hx, hx'] using hpixel

end Surface

/-! ### Counting bits -/

/-- A sprite and the place of its upper left corner. -/
structure Placed where
  /-- The column. -/
  x : ℤ
  /-- The row. -/
  y : ℤ
  /-- The rows of the sprite. -/
  sprite : List UInt8

/-- How often a placed sprite hits a pixel. -/
def Placed.hitCount (p : Placed) (width height px py : ℕ) : ℕ :=
  (Surface.hits width height p.x p.y p.sprite).count (px, py)

/-- The set bits of a placed sprite that fall on a pixel, each given by its row and its column in
the sprite. -/
def Placed.bitsOn (p : Placed) (width height px py : ℤ) : Set (ℕ × ℕ) :=
  {b | ∃ row, p.sprite[b.1]? = some row ∧ b.2 < 8 ∧ row.toNat.testBit (7 - b.2) = true ∧
    (p.x + b.2) % width = px ∧ (p.y + b.1) % height = py}

/-- The set bits of a row that fall on a pixel, each given by its column. -/
def rowBits (row : UInt8) (x y width height px py : ℤ) : Set ℕ :=
  {c | c < 8 ∧ row.toNat.testBit (7 - c) = true ∧ (x + c) % width = px ∧ y % height = py}

lemma Placed.bitsOn_nil (x y width height px py : ℤ) :
    bitsOn ⟨x, y, []⟩ width height px py = ∅ :=
  Set.eq_empty_of_forall_notMem fun _ ⟨_, hrow, _⟩ => absurd hrow nofun

/-- The bits of the first row come beside those of the rows below. -/
lemma Placed.bitsOn_cons (x y : ℤ) (row : UInt8) (rows : List UInt8) (width height px py : ℤ) :
    bitsOn ⟨x, y, row :: rows⟩ width height px py =
      (fun c => (0, c)) '' rowBits row x y width height px py ∪
        (fun b => (b.1 + 1, b.2)) '' bitsOn ⟨x, y + 1, rows⟩ width height px py := by
  ext ⟨r, c⟩
  cases r with
  | zero => simp [bitsOn, rowBits]
  | succ r =>
    have hrow : y + ((r + 1 : ℕ) : ℤ) = y + 1 + r := by omega
    simp only [bitsOn, Set.mem_union, Set.mem_image, Set.mem_ofPred_eq, hrow]
    simp

section Counting

variable {width height : ℕ} (hwidth : 0 < width) (hheight : 0 < height)

include hwidth hheight

lemma encard_rowBits (x y : ℤ) (row : UInt8) (px py : ℕ) :
    (rowBits row x y width height px py).encard =
      ((Surface.setColumns row).map fun c : ℕ =>
        (((x + c) % width).toNat, (y % height).toNat)).count (px, py) := by
  have hmod : ∀ (a : ℤ) {n : ℕ}, 0 < n → ∀ p : ℕ, (a % n).toNat = p ↔ a % n = p := by
    intro a n hn p
    have := Int.emod_nonneg a (b := n) (by omega)
    omega
  rw [List.count_eq_countP, List.countP_map, Surface.setColumns, List.countP_filter,
    List.countP_eq_length_filter, ← List.toFinset_card_of_nodup (List.nodup_range.filter _),
    ← Set.encard_coe_eq_coe_finsetCard]
  congr 1
  ext c
  simp only [rowBits, Set.mem_ofPred_eq, List.coe_toFinset, List.mem_filter, List.mem_range,
    Surface.spriteWidth, Function.comp_apply, Bool.and_eq_true, beq_iff_eq, Prod.mk.injEq,
    hmod _ hwidth, hmod _ hheight]
  tauto

/-- The set bits of a sprite that fall on a pixel are as many as its hits there. -/
lemma encard_bitsOn (p : Placed) (px py : ℕ) :
    (p.bitsOn width height px py).encard = p.hitCount width height px py := by
  unfold Placed.hitCount
  obtain ⟨x, y, sprite⟩ := p
  induction sprite generalizing y with
  | nil =>
    rw [Placed.bitsOn_nil, Set.encard_empty]
    rfl
  | cons row rows ih =>
    have hfirst : Function.Injective fun c : ℕ => ((0 : ℕ), c) := fun _ _ h => (Prod.mk.inj h).2
    have hbelow : Function.Injective fun b : ℕ × ℕ => (b.1 + 1, b.2) := fun a b h =>
      Prod.ext (Nat.succ.inj (Prod.mk.inj h).1) (Prod.mk.inj h).2
    have hdisjoint : Disjoint ((fun c => (0, c)) '' rowBits row x y width height px py)
        ((fun b => (b.1 + 1, b.2)) '' Placed.bitsOn ⟨x, y + 1, rows⟩ width height px py) := by
      rw [Set.disjoint_left]
      rintro _ ⟨c, -, rfl⟩ ⟨b, -, hb⟩
      exact Nat.succ_ne_zero _ (Prod.mk.inj hb).1
    rw [Placed.bitsOn_cons, Set.encard_union_eq hdisjoint, hfirst.encard_image,
      hbelow.encard_image, encard_rowBits hwidth hheight, ih, Surface.hits, List.count_append,
      Nat.cast_add]

end Counting

/-! ### Strokes -/

/-- What is done to a picture. -/
inductive Stroke where
  /-- A sprite is drawn. -/
  | draw (p : Placed)
  /-- The surface is cleared. -/
  | clear

/-- The set bits that fall on a pixel, of the sprites that were drawn since the surface was last
cleared, each given by its stroke and by its row and its column in the sprite. -/
def bitsOn (strokes : List Stroke) (width height px py : ℤ) : Set (ℕ × ℕ × ℕ) :=
  {b | ∃ p, strokes[b.1]? = some (.draw p) ∧ .clear ∉ strokes.drop (b.1 + 1) ∧
    b.2 ∈ p.bitsOn width height px py}

section Strokes

variable (strokes : List Stroke) (width height px py : ℤ)

lemma bitsOn_nil : bitsOn [] width height px py = ∅ :=
  Set.eq_empty_of_forall_notMem fun _ ⟨_, hstroke, _⟩ => absurd hstroke nofun

/-- No bit outlasts a clear. -/
lemma bitsOn_clear : bitsOn (strokes ++ [.clear]) width height px py = ∅ := by
  refine Set.eq_empty_of_forall_notMem fun ⟨i, b⟩ ⟨p, hstroke, hclear, _⟩ => ?_
  have hi := (List.getElem?_eq_some_iff.1 hstroke).1
  rw [List.length_append, List.length_singleton] at hi
  rcases Nat.lt_succ_iff_lt_or_eq.1 hi with hlt | rfl
  · rw [List.drop_append_of_le_length hlt] at hclear
    exact hclear (List.mem_append_right _ (List.mem_singleton_self _))
  · rw [List.getElem?_concat_length] at hstroke
    exact absurd hstroke nofun

/-- The bits of a drawn sprite come beside those that have fallen before. -/
lemma bitsOn_draw (p : Placed) :
    bitsOn (strokes ++ [.draw p]) width height px py =
      bitsOn strokes width height px py ∪
        Prod.mk strokes.length '' p.bitsOn width height px py := by
  ext ⟨i, b⟩
  rcases Nat.lt_trichotomy i strokes.length with hlt | rfl | hgt
  · have hne : strokes.length ≠ i := Nat.ne_of_gt hlt
    simp [bitsOn, List.getElem?_append_left hlt, List.drop_append_of_le_length hlt, hne]
  · simp [bitsOn]
  · have hne : strokes.length ≠ i := Nat.ne_of_lt hgt
    have hnone : (strokes ++ [.draw p])[i]? = none :=
      List.getElem?_eq_none (by rw [List.length_append, List.length_singleton]; exact hgt)
    have hnone' : strokes[i]? = none := List.getElem?_eq_none (Nat.le_of_lt hgt)
    simp [bitsOn, hnone, hnone', hne]

end Strokes

namespace Surface

/-- The surface after a stroke. -/
def paint (s : Surface) : Stroke → Surface
  | .draw p => (s.draw p.x p.y p.sprite).1
  | .clear => s.clear

/-- The surface after strokes. -/
def after (s : Surface) (strokes : List Stroke) : Surface := strokes.foldl paint s

variable {s : Surface}

lemma after_append (s : Surface) (first second : List Stroke) :
    s.after (first ++ second) = (s.after first).after second := List.foldl_append

lemma after_concat (s : Surface) (strokes : List Stroke) (stroke : Stroke) :
    s.after (strokes ++ [stroke]) = (s.after strokes).paint stroke :=
  after_append s strokes [stroke]

lemma flipAll_size (s : Surface) (collided : Bool) (pixels : List (ℕ × ℕ)) :
    (s.flipAll collided pixels).1.width = s.width ∧
      (s.flipAll collided pixels).1.height = s.height := by
  induction pixels generalizing s collided with
  | nil => exact ⟨rfl, rfl⟩
  | cons p rest ih => exact ih (s.flip p.1 p.2) _

/-- A grid of the given size that has been painted on. -/
structure Painted (width height : ℕ) (s : Surface) : Prop where
  wellFormed : s.WellFormed
  width_eq : s.width = width
  height_eq : s.height = height
  dirty : s.dirty = true

namespace Painted

variable {width height : ℕ}

lemma paint (h : s.Painted width height) (stroke : Stroke) :
    (s.paint stroke).Painted width height := by
  cases stroke with
  | draw p =>
    obtain ⟨hw, hh⟩ := s.flipAll_size false (hits s.width s.height p.x p.y p.sprite)
    exact ⟨h.wellFormed.draw _ _ _, hw.trans h.width_eq, hh.trans h.height_eq, rfl⟩
  | clear => exact ⟨h.wellFormed.clear, h.width_eq, h.height_eq, rfl⟩

lemma after (h : s.Painted width height) (strokes : List Stroke) :
    (s.after strokes).Painted width height := by
  induction strokes generalizing s with
  | nil => exact h
  | cons stroke rest ih => exact ih (h.paint stroke)

/-- Painted grids of the same size are equal if their pixels are lit alike. -/
lemma eq_of_lit {t : Surface} (hs : s.Painted width height) (ht : t.Painted width height)
    (hlit : ∀ px py, s.lit px py = t.lit px py) : s = t := by
  have hwidth := hs.width_eq.trans ht.width_eq.symm
  have hheight := hs.height_eq.trans ht.height_eq.symm
  have hrows := rows_eq_of_lit hs.wellFormed ht.wellFormed hwidth hheight hlit
  have hdirty := hs.dirty.trans ht.dirty.symm
  obtain ⟨sw, sh, srows, sdirty⟩ := s
  obtain ⟨tw, th, trows, tdirty⟩ := t
  simp only at hwidth hheight hrows hdirty
  rw [hwidth, hheight, hrows, hdirty]

lemma lit_paint_draw (h : s.Painted width height) (p : Placed) (px py : ℕ) :
    (s.paint (.draw p)).lit px py = (s.lit px py ^^ (p.hitCount width height px py).bodd) := by
  have hdraw := lit_draw h.wellFormed p.x p.y p.sprite px py
  rw [h.width_eq, h.height_eq] at hdraw
  exact hdraw

/-- Sprites drawn one after another flip a pixel as often as they hit it together. -/
lemma lit_draws (h : s.Painted width height) (draws : List Placed) (px py : ℕ) :
    (s.after (draws.map .draw)).lit px py =
      (s.lit px py ^^ (draws.map fun p : Placed => p.hitCount width height px py).sum.bodd) := by
  induction draws generalizing s with
  | nil =>
    rw [List.map_nil, List.map_nil, List.sum_nil, Nat.bodd_zero, Bool.xor_false]
    rfl
  | cons p rest ih =>
    rw [List.map_cons, List.map_cons, List.sum_cons, Nat.bodd_add, ← Bool.xor_assoc,
      ← h.lit_paint_draw]
    exact ih (h.paint (.draw p))

/-- The order in which sprites are drawn does not matter. -/
lemma after_perm (h : s.Painted width height) {draws draws' : List Placed}
    (hperm : draws.Perm draws') : s.after (draws.map .draw) = s.after (draws'.map .draw) := by
  refine (h.after _).eq_of_lit (h.after _) fun px py => ?_
  rw [h.lit_draws, h.lit_draws, (hperm.map _).sum_eq]

/-- A sprite that is drawn twice leaves no trace. -/
lemma after_twice (h : s.Painted width height) (p : Placed) :
    s.after [.draw p, .draw p] = s := by
  refine (h.after _).eq_of_lit h fun px py => ?_
  have hagain := (h.paint (.draw p)).lit_paint_draw p px py
  rw [h.lit_paint_draw, Bool.xor_assoc, Bool.xor_self, Bool.xor_false] at hagain
  exact hagain

/-- On a grid that was dark, a pixel is lit if an odd number of bits fell on it. -/
lemma exists_encard_bitsOn (h : s.Painted width height) (hdark : ∀ px py, s.lit px py = false)
    (strokes : List Stroke) (px py : ℕ) :
    ∃ n : ℕ, (bitsOn strokes width height px py).encard = n ∧
      (s.after strokes).lit px py = n.bodd := by
  -- From the end: a clear leaves no bit, and a sprite adds its own under the number of its stroke.
  induction strokes using List.reverseRecOn with
  | nil =>
    refine ⟨0, ?_, hdark px py⟩
    rw [bitsOn_nil, Set.encard_empty]
    rfl
  | append_singleton strokes stroke ih =>
    rw [after_concat]
    cases stroke with
    | clear =>
      refine ⟨0, ?_, lit_clear _ px py⟩
      rw [bitsOn_clear, Set.encard_empty]
      rfl
    | draw p =>
      obtain ⟨n, hcount, hlit⟩ := ih
      have hlast := h.after strokes
      have hw : 0 < width := hlast.width_eq ▸ hlast.wellFormed.width_pos
      have hh : 0 < height := hlast.height_eq ▸ hlast.wellFormed.height_pos
      have hdisjoint : Disjoint (bitsOn strokes width height px py)
          (Prod.mk strokes.length '' p.bitsOn width height px py) := by
        rw [Set.disjoint_left]
        rintro _ ⟨q, hstroke, -⟩ ⟨b, -, rfl⟩
        exact Nat.lt_irrefl _ (List.getElem?_eq_some_iff.1 hstroke).1
      refine ⟨n + p.hitCount width height px py, ?_, ?_⟩
      · rw [bitsOn_draw, Set.encard_union_eq hdisjoint, hcount,
          (Prod.mk_right_injective _).encard_image, encard_bitsOn hw hh, Nat.cast_add]
      · rw [hlast.lit_paint_draw, hlit, Nat.bodd_add]

lemma pixel_eq (h : s.Painted width height) {px py : ℕ} (hx : px < width) (hy : py < height) :
    s.pixel px py = .ok (s.lit px py) :=
  h.wellFormed.pixel_eq (h.width_eq.symm ▸ hx) (h.height_eq.symm ▸ hy)

end Painted

lemma bodd_eq_decide_odd (n : ℕ) : n.bodd = decide (Odd n) := by
  rw [Bool.eq_iff_iff, decide_eq_true_iff, Nat.odd_iff, Nat.mod_two_of_bodd]
  cases n.bodd <;> decide

/-- A new surface is a dark grid of its size. -/
lemma create_painted {width height : ℕ} (hwidth : 0 < width) (hheight : 0 < height) :
    ∃ s, create width height = .ok s ∧ s.Painted width height ∧ ∀ px py, s.lit px py = false := by
  have hcreate : create width height = .ok ⟨width, height, darkRows width height, true⟩ := by
    rw [create, if_neg (by omega)]
    rfl
  refine ⟨_, hcreate, ⟨create_wellFormed hcreate, rfl, rfl, rfl⟩, fun px py => ?_⟩
  simp only [lit, darkRows, Array.getD_eq_getD_getElem?, Array.getElem?_replicate]
  split
  · simp only [Option.getD_some, Array.getElem?_replicate]
    split <;> rfl
  · rfl

/-- **The picture is the parity of its sprites.**  A surface of any width and height above zero can
be made.  After any strokes a pixel of it is lit exactly if the set bits that fell on it, of the
sprites drawn since the last clear, are odd in number; rows and columns are counted round the
edges, and any place and any sprite will do.  So sprites drawn one after another may be drawn in
any order, and a sprite drawn twice at one place leaves no trace, whatever was done before and is
done later. -/
theorem picture_is_parity {width height : ℤ} (hwidth : 0 < width) (hheight : 0 < height) :
    ∃ s, create width height = .ok s ∧
      (∀ (strokes : List Stroke) (px py : ℤ), 0 ≤ px → px < width → 0 ≤ py → py < height →
        (bitsOn strokes width height px py).Finite ∧
          (s.after strokes).pixel px py =
            .ok (decide (Odd (bitsOn strokes width height px py).ncard))) ∧
      (∀ (before later : List Stroke) (draws draws' : List Placed), draws.Perm draws' →
        s.after (before ++ draws.map .draw ++ later) =
          s.after (before ++ draws'.map .draw ++ later)) ∧
      ∀ (before later : List Stroke) (p : Placed),
        s.after (before ++ [.draw p, .draw p] ++ later) = s.after (before ++ later) := by
  obtain ⟨w, rfl⟩ := Int.eq_ofNat_of_zero_le (Int.le_of_lt hwidth)
  obtain ⟨h, rfl⟩ := Int.eq_ofNat_of_zero_le (Int.le_of_lt hheight)
  obtain ⟨s, hcreate, hpainted, hdark⟩ := create_painted (by omega : 0 < w) (by omega : 0 < h)
  refine ⟨s, hcreate, ?_, ?_, ?_⟩
  · intro strokes px py hx hx' hy hy'
    obtain ⟨px, rfl⟩ := Int.eq_ofNat_of_zero_le hx
    obtain ⟨py, rfl⟩ := Int.eq_ofNat_of_zero_le hy
    obtain ⟨n, hcount, hlit⟩ := hpainted.exists_encard_bitsOn hdark strokes px py
    have hncard : (bitsOn strokes w h px py).ncard = n := by
      rw [Set.ncard_def, hcount]
      rfl
    refine ⟨Set.finite_of_encard_eq_coe hcount, ?_⟩
    rw [(hpainted.after strokes).pixel_eq (Int.ofNat_lt.1 hx') (Int.ofNat_lt.1 hy'), hlit, hncard,
      bodd_eq_decide_odd]
  · intro before later draws draws' hperm
    simp only [after_append]
    rw [(hpainted.after before).after_perm hperm]
  · intro before later p
    simp only [after_append]
    rw [(hpainted.after before).after_twice p]

/-- On a surface of three columns and two rows: a sprite that is cleared away, and one that is
higher than the surface and wider, so that its rows and columns come round upon themselves. -/
def overlapping : List Stroke :=
  [.draw ⟨0, 0, [0xFF]⟩, .clear, .draw ⟨-1, 3, [0xFF, 0x80, 0x80]⟩]

theorem picture_is_parity_overlapping :
    (0 : ℤ) < 3 ∧ (0 : ℤ) < 2 ∧ ∃ s, create 3 2 = .ok s ∧
      (s.after overlapping).pixel 0 1 = .ok true ∧ Odd (bitsOn overlapping 3 2 0 1).ncard ∧
      (s.after overlapping).pixel 2 1 = .ok false ∧ ¬ Odd (bitsOn overlapping 3 2 2 1).ncard ∧
      s.after (overlapping ++ [.draw ⟨7, -9, [0xFF]⟩, .draw ⟨7, -9, [0xFF]⟩]) =
        s.after overlapping := by
  have hwidth : (0 : ℤ) < 3 := by decide
  have hheight : (0 : ℤ) < 2 := by decide
  obtain ⟨s, hcreate, hpixel, -, htwice⟩ := picture_is_parity hwidth hheight
  obtain rfl : _ = s := Except.ok.inj hcreate
  have hlit := (hpixel overlapping 0 1 (by decide) (by decide) (by decide) (by decide)).2
  have hdark := (hpixel overlapping 2 1 (by decide) (by decide) (by decide) (by decide)).2
  have hbit : (Surface.after ⟨3, 2, darkRows 3 2, true⟩ overlapping).pixel 0 1 = .ok true := by
    decide +kernel
  have hbit' : (Surface.after ⟨3, 2, darkRows 3 2, true⟩ overlapping).pixel 2 1 = .ok false := by
    decide +kernel
  have hodd := of_decide_eq_true (Except.ok.inj (hlit.symm.trans hbit))
  have heven := of_decide_eq_false (Except.ok.inj (hdark.symm.trans hbit'))
  exact ⟨hwidth, hheight, _, hcreate, hbit, hodd, hbit', heven, htwice overlapping [] _⟩

end Surface

end Chip8
