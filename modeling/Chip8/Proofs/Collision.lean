import Chip8.Proofs.Picture

/-!
# When a drawing collides

A drawing collides if it flips a pixel that is lit at that moment.  Seen from the surface before and
the sprite, that happens exactly if the sprite hits a lit pixel, or if it hits a pixel twice: the
second flip then meets what the first has lit, or the first meets what was lit already.

Where the surface is no narrower than a sprite and no lower, no pixel is hit twice, and so the
drawing collides exactly if it puts out a pixel (`Surface.collided_iff_putOut`).  The main result is
`Surface.collides_exactly`.
-/

namespace Chip8

/-! ### Sprites that fit -/

/-- On a surface that a sprite fits into, no two of its bits fall on one pixel. -/
lemma Placed.bitsOn_subsingleton {width height : ℕ} (hwidth : 8 ≤ width) {p : Placed}
    (hheight : p.sprite.length ≤ height) (px py : ℤ) :
    (p.bitsOn width height px py).Subsingleton := by
  -- rows, like columns, that come round to one place are a whole surface apart or the same
  have heq : ∀ {n : ℕ} {a : ℤ} {i j : ℕ}, i < n → j < n → (a + i) % n = (a + j) % n → i = j := by
    intro n a i j hi hj hmod
    rw [Int.emod_add_cancel_left, Int.emod_eq_of_lt (by omega) (by omega),
      Int.emod_eq_of_lt (by omega) (by omega)] at hmod
    omega
  rintro ⟨r, c⟩ ⟨row, hrow, hc, -, hx, hy⟩ ⟨r', c'⟩ ⟨row', hrow', hc', -, hx', hy'⟩
  have hr := (List.getElem?_eq_some_iff.1 hrow).1
  have hr' := (List.getElem?_eq_some_iff.1 hrow').1
  exact Prod.ext (heq (by omega) (by omega) (hy.trans hy'.symm))
    (heq (by omega) (by omega) (hx.trans hx'.symm))

namespace Surface

variable {s : Surface}

/-- One flip after another: there is a collision if a pixel is hit that was lit, or one twice. -/
lemma flipAll_collided_iff (h : s.WellFormed) (collided : Bool) {pixels : List (ℕ × ℕ)}
    (hin : ∀ p ∈ pixels, p.1 < s.width ∧ p.2 < s.height) :
    (s.flipAll collided pixels).2 = true ↔
      collided = true ∨ ∃ p, p ∈ pixels ∧ s.lit p.1 p.2 = true ∨ 2 ≤ pixels.count p := by
  induction pixels generalizing s collided with
  | nil => simp [flipAll]
  | cons q rest ih =>
    obtain ⟨hq, hrest⟩ := List.forall_mem_cons.1 hin
    have hflip : ∀ p : ℕ × ℕ, (s.flip q.1 q.2).lit p.1 p.2 = (s.lit p.1 p.2 ^^ decide (q = p)) :=
      fun p => lit_flip h hq.1 hq.2 p.1 p.2
    refine (ih (h.flip q.1 q.2) _ hrest).trans ?_
    simp only [hflip, Bool.or_eq_true, or_assoc]
    refine or_congr_right ⟨?_, ?_⟩
    · rintro (hlit | ⟨p, ⟨hp, hlit⟩ | htwice⟩)
      · exact ⟨q, .inl ⟨List.mem_cons_self, hlit⟩⟩
      · by_cases hqp : q = p
        · -- the first flip has lit it, and it is hit again
          subst hqp
          refine ⟨q, .inr ?_⟩
          rw [List.count_cons_self]
          exact Nat.succ_le_succ (List.count_pos_iff.2 hp)
        · exact ⟨p, .inl ⟨List.mem_cons_of_mem q hp, by simpa [hqp] using hlit⟩⟩
      · exact ⟨p, .inr (htwice.trans List.count_le_count_cons)⟩
    · rintro ⟨p, ⟨hp, hlit⟩ | htwice⟩
      · by_cases hqp : q = p
        · exact .inl (hqp ▸ hlit)
        · have hmem := List.mem_of_ne_of_mem (Ne.symm hqp) hp
          exact .inr ⟨p, .inl ⟨hmem, by simpa [hqp] using hlit⟩⟩
      · by_cases hqp : q = p
        · subst hqp
          rw [List.count_cons_self] at htwice
          rcases hlit : s.lit q.1 q.2 with _ | _
          · have hmem : q ∈ rest := List.count_pos_iff.1 (by omega)
            exact .inr ⟨q, .inl ⟨hmem, by simp [hlit]⟩⟩
          · exact .inl rfl
        · rw [List.count_cons_of_ne hqp] at htwice
          exact .inr ⟨p, .inr htwice⟩

section Draw

variable (h : s.WellFormed) (p : Placed)
include h

/-- A pixel that is hit is one of the surface. -/
lemma lt_of_hitCount_pos {px py : ℕ} (hp : 0 < p.hitCount s.width s.height px py) :
    px < s.width ∧ py < s.height :=
  hits_lt h.width_pos h.height_pos p.x p.y p.sprite _ (List.count_pos_iff.1 hp)

/-- A drawing collides if the sprite hits a lit pixel, or one twice. -/
lemma collided_iff :
    (s.draw p.x p.y p.sprite).2 = true ↔
      ∃ px py, 0 < p.hitCount s.width s.height px py ∧ s.lit px py = true ∨
        2 ≤ p.hitCount s.width s.height px py := by
  have hflips := flipAll_collided_iff h false
    (hits_lt h.width_pos h.height_pos p.x p.y p.sprite)
  simp only [Bool.false_eq_true, false_or, Prod.exists, ← List.count_pos_iff] at hflips
  exact hflips

lemma finite_bitsOn (px py : ℕ) : (p.bitsOn s.width s.height px py).Finite :=
  Set.finite_of_encard_eq_coe (encard_bitsOn h.width_pos h.height_pos p px py)

lemma ncard_bitsOn (px py : ℕ) :
    (p.bitsOn s.width s.height px py).ncard = p.hitCount s.width s.height px py := by
  rw [Set.ncard_def, encard_bitsOn h.width_pos h.height_pos]
  rfl

lemma pixel_draw {px py : ℕ} (hx : px < s.width) (hy : py < s.height) :
    (s.draw p.x p.y p.sprite).1.pixel px py = .ok ((s.draw p.x p.y p.sprite).1.lit px py) := by
  obtain ⟨hw, hh⟩ := s.flipAll_size false (hits s.width s.height p.x p.y p.sprite)
  exact (h.draw p.x p.y p.sprite).pixel_eq (hw.symm ▸ hx) (hh.symm ▸ hy)

lemma draw_lit (px py : ℕ) :
    (s.draw p.x p.y p.sprite).1.lit px py =
      if Even (p.hitCount s.width s.height px py) then s.lit px py else !s.lit px py := by
  refine (lit_draw h p.x p.y p.sprite px py).trans ?_
  show (s.lit px py ^^ (p.hitCount s.width s.height px py).bodd) = _
  rw [bodd_eq_decide_odd]
  by_cases heven : Even (p.hitCount s.width s.height px py)
  · simp [heven, Nat.not_odd_iff_even.2 heven]
  · simp [heven, Nat.not_even_iff_odd.1 heven]

section Fits

variable (hwidth : 8 ≤ s.width) (hheight : p.sprite.length ≤ s.height)
include hwidth hheight

lemma hitCount_le_one (px py : ℕ) : p.hitCount s.width s.height px py ≤ 1 := by
  have hone := Set.encard_le_one_iff_subsingleton.2
    (Placed.bitsOn_subsingleton hwidth hheight (px : ℤ) py)
  rw [encard_bitsOn h.width_pos h.height_pos] at hone
  exact_mod_cast hone

/-- A sprite that fits flips each pixel that it hits. -/
lemma draw_lit_of_fits (px py : ℕ) :
    (s.draw p.x p.y p.sprite).1.lit px py =
      (s.lit px py ^^ decide (0 < p.hitCount s.width s.height px py)) := by
  have hone := hitCount_le_one h p hwidth hheight px py
  rw [draw_lit h]
  rcases Nat.le_one_iff_eq_zero_or_eq_one.1 hone with hcount | hcount <;> simp [hcount]

/-- The drawing of a sprite that fits collides if it puts out a pixel. -/
lemma collided_iff_putOut :
    (s.draw p.x p.y p.sprite).2 = true ↔ ∃ px < s.width, ∃ py < s.height,
      s.pixel px py = .ok true ∧ (s.draw p.x p.y p.sprite).1.pixel px py = .ok false := by
  rw [collided_iff h]
  constructor
  · rintro ⟨px, py, hhit | htwice⟩
    · obtain ⟨hx, hy⟩ := lt_of_hitCount_pos h p hhit.1
      refine ⟨px, hx, py, hy, ?_⟩
      rw [h.pixel_eq hx hy, pixel_draw h p hx hy, draw_lit_of_fits h p hwidth hheight]
      simp [hhit]
    · have hone := hitCount_le_one h p hwidth hheight px py
      omega
  · rintro ⟨px, hx, py, hy, hlit, hdark⟩
    rw [h.pixel_eq hx hy, Except.ok.injEq] at hlit
    rw [pixel_draw h p hx hy, draw_lit_of_fits h p hwidth hheight, hlit, Except.ok.injEq] at hdark
    exact ⟨px, py, .inl ⟨by simpa using hdark, hlit⟩⟩

end Fits

end Draw

/-- **A drawing collides exactly if it hits a lit pixel, or one twice.**  Take a grid of any width
and height above zero, with any pixels lit, and draw any sprite at any place; count the set bits
that fall on a pixel, with rows and columns that come round the edges.  The drawing collides if and
only if at least one bit falls on a pixel that was lit, or at least two on any.  If the sprite is no
higher than the surface and the surface no narrower than eight, that is if and only if some pixel
was lit before and is dark afterwards.  And a pixel on which an even number of bits falls is as it
was, and any other is flipped. -/
theorem collides_exactly (h : s.WellFormed) (x y : ℤ) (sprite : List UInt8) :
    let bits := Placed.bitsOn ⟨x, y, sprite⟩ s.width s.height
    let drawn := s.draw x y sprite
    (drawn.2 = true ↔ ∃ px < s.width, ∃ py < s.height,
        1 ≤ (bits px py).ncard ∧ s.pixel px py = .ok true ∨ 2 ≤ (bits px py).ncard) ∧
      (8 ≤ s.width → sprite.length ≤ s.height →
        (drawn.2 = true ↔ ∃ px < s.width, ∃ py < s.height,
          s.pixel px py = .ok true ∧ drawn.1.pixel px py = .ok false)) ∧
      ∀ px < s.width, ∀ py < s.height, (bits px py).Finite ∧ ∃ b, s.pixel px py = .ok b ∧
        drawn.1.pixel px py = .ok (if Even (bits px py).ncard then b else !b) := by
  intro bits drawn
  have hbits : ∀ px py : ℕ, (bits px py).ncard = Placed.hitCount ⟨x, y, sprite⟩ s.width s.height
      px py := ncard_bitsOn h ⟨x, y, sprite⟩
  have hbefore : ∀ {px py : ℕ} (b : Bool), px < s.width → py < s.height →
      (s.pixel px py = .ok b ↔ s.lit px py = b) := fun b hx hy => by
    rw [h.pixel_eq hx hy, Except.ok.injEq]
  refine ⟨?_, collided_iff_putOut h ⟨x, y, sprite⟩, fun px hx py hy =>
    ⟨finite_bitsOn h _ px py, s.lit px py, h.pixel_eq hx hy, ?_⟩⟩
  · refine (collided_iff h ⟨x, y, sprite⟩).trans ⟨?_, ?_⟩
    · rintro ⟨px, py, hcollides⟩
      have hhit : 0 < Placed.hitCount ⟨x, y, sprite⟩ s.width s.height px py := by omega
      obtain ⟨hx, hy⟩ := lt_of_hitCount_pos h ⟨x, y, sprite⟩ hhit
      refine ⟨px, hx, py, hy, ?_⟩
      rwa [hbits, hbefore true hx hy]
    · rintro ⟨px, hx, py, hy, hcollides⟩
      rw [hbits, hbefore true hx hy] at hcollides
      exact ⟨px, py, hcollides⟩
  · rw [hbits]
    exact (pixel_draw h ⟨x, y, sprite⟩ hx hy).trans
      (congrArg _ (draw_lit h ⟨x, y, sprite⟩ px py))

/-- For one, on a surface of one row: a sprite of one row that puts out a pixel, and one of two rows
that hits a dark pixel twice, and so collides and leaves no trace. -/
theorem collides_exactly_hittingTwice :
    let s : Surface := ⟨8, 1, #[#[true, false, false, false, false, false, false, false]], false⟩
    let bits := Placed.bitsOn ⟨0, 0, [0x40, 0x40]⟩ s.width s.height
    s.WellFormed ∧
      (∃ px < s.width, ∃ py < s.height, s.pixel px py = .ok true ∧
        (s.draw 0 0 [0x80]).1.pixel px py = .ok false) ∧
      (∃ px < s.width, ∃ py < s.height,
        1 ≤ (bits px py).ncard ∧ s.pixel px py = .ok true ∨ 2 ≤ (bits px py).ncard) ∧
      Even (bits (1 : ℕ) (0 : ℕ)).ncard := by
  intro s bits
  have h : s.WellFormed := ⟨by decide, by decide, rfl, by simp [s]⟩
  obtain ⟨-, hputOut, -⟩ := collides_exactly h 0 0 [0x80]
  obtain ⟨hcollides, -, hpixels⟩ := collides_exactly h 0 0 [0x40, 0x40]
  have hout : (s.draw 0 0 [0x80]).2 = true := by decide +kernel
  have htwice : (s.draw 0 0 [0x40, 0x40]).2 = true := by decide +kernel
  refine ⟨h, (hputOut (by decide) (by decide)).1 hout, hcollides.1 htwice, ?_⟩
  -- the pixel is dark before and after, so it cannot have been flipped an odd number of times
  obtain ⟨-, b, hbefore, hafter⟩ := hpixels 1 (by decide) 0 (by decide)
  have hdark : s.pixel 1 0 = .ok false := by decide +kernel
  have hdark' : (s.draw 0 0 [0x40, 0x40]).1.pixel 1 0 = .ok false := by decide +kernel
  obtain rfl : b = false := Except.ok.inj (hbefore.symm.trans hdark)
  have hkept := Except.ok.inj (hafter.symm.trans hdark')
  by_contra hodd
  exact absurd ((if_neg hodd).symm.trans hkept) (by decide)

end Surface

end Chip8
