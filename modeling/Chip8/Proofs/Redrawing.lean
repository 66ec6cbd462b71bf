import Chip8.Proofs.Collision
import Chip8.Proofs.Executing

/-!
# Drawing a sprite and drawing it again

A drawing takes its place from two registers and its sprite from the memory, both as they are before
it, and afterwards it sets the flag.  Unless the flag is one of the two registers, nothing that it
takes has changed: drawn again the same sprite comes to the same place, every pixel is flipped back,
and all but the flag is as it was before.

On a screen that the sprite fits into, the first flag tells whether a pixel was put out.  The second
tells whether the first drawing lit one, that is, whether a set bit has fallen on a dark pixel.  A
sprite with set bits is not enough for that: if all of them fall on lit pixels, the second drawing
puts nothing out.  The main result is `redrawing_restores`.
-/

namespace Chip8

namespace Surface

/-! ### Sprites without bits -/

lemma setColumns_eq_nil_iff (row : UInt8) : setColumns row = [] ↔ row = 0 := by
  constructor
  · intro hnil
    have hlow : ∀ c < spriteWidth, row.toNat.testBit (spriteWidth - 1 - c) = false := by
      simpa [setColumns, List.filter_eq_nil_iff] using hnil
    refine UInt8.toNat.inj (Nat.zero_of_testBit_eq_false fun i => ?_)
    by_cases hi : i < spriteWidth
    · have hbit := hlow (spriteWidth - 1 - i) (by omega)
      rwa [Nat.sub_sub_self (by omega)] at hbit
    · -- a byte has no bits beyond its eighth
      refine Nat.testBit_lt_two_pow (Nat.lt_of_lt_of_le row.toNat_lt ?_)
      exact Nat.pow_le_pow_right (by decide) (Nat.le_of_not_lt hi)
  · rintro rfl
    decide

lemma hits_eq_nil_iff (width height : ℕ) (x y : ℤ) (sprite : List UInt8) :
    hits width height x y sprite = [] ↔ ∀ row ∈ sprite, row = 0 := by
  induction sprite generalizing y with
  | nil => simp [hits]
  | cons row rows ih => simp [hits, ih, setColumns_eq_nil_iff]

/-- A sprite hits some pixel, unless all its bytes are zero. -/
lemma exists_hit_iff (width height : ℕ) (p : Placed) :
    (∃ px py, 0 < p.hitCount width height px py) ↔ ∃ row ∈ p.sprite, row ≠ 0 := by
  have hnil := not_congr (hits_eq_nil_iff width height p.x p.y p.sprite)
  rw [List.eq_nil_iff_forall_not_mem] at hnil
  simpa [Placed.hitCount, List.count_pos_iff] using hnil

/-! ### The second drawing -/

variable {s : Surface}

lemma paint_draw_size (s : Surface) (p : Placed) :
    (s.paint (.draw p)).width = s.width ∧ (s.paint (.draw p)).height = s.height :=
  s.flipAll_size false (hits s.width s.height p.x p.y p.sprite)

section Again

variable (h : s.WellFormed) (p : Placed)
include h

lemma paint_draw_wellFormed : (s.paint (.draw p)).WellFormed := h.draw p.x p.y p.sprite

lemma rows_draw_draw : ((s.paint (.draw p)).paint (.draw p)).rows = s.rows := by
  have hpainted := paint_draw_wellFormed h p
  obtain ⟨hwidth, hheight⟩ := s.paint_draw_size p
  obtain ⟨hwidth', hheight'⟩ := (s.paint (.draw p)).paint_draw_size p
  refine rows_eq_of_lit (paint_draw_wellFormed hpainted p) h (hwidth'.trans hwidth)
    (hheight'.trans hheight) fun px py => ?_
  -- the sprite hits a pixel as often the second time as the first
  have hfirst : (s.paint (.draw p)).lit px py = _ := lit_draw h p.x p.y p.sprite px py
  have hsecond := lit_draw hpainted p.x p.y p.sprite px py
  rw [hwidth, hheight, hfirst, Bool.xor_assoc, Bool.xor_self, Bool.xor_false] at hsecond
  exact hsecond

lemma bitsOn_nonempty_iff (px py : ℕ) :
    (p.bitsOn s.width s.height px py).Nonempty ↔ 0 < p.hitCount s.width s.height px py := by
  rw [← ncard_bitsOn h, Set.ncard_pos (finite_bitsOn h p px py)]

variable (hwidth : 8 ≤ s.width) (hheight : p.sprite.length ≤ s.height)
include hwidth hheight

/-- A sprite that fits flips the pixels that its bits fall on. -/
lemma pixel_paint_draw {px py : ℕ} (hx : px < s.width) (hy : py < s.height) :
    ∃ b, s.pixel px py = .ok b ∧
      (p.bitsOn s.width s.height px py = ∅ → (s.paint (.draw p)).pixel px py = .ok b) ∧
      ((p.bitsOn s.width s.height px py).Nonempty →
        (s.paint (.draw p)).pixel px py = .ok !b) := by
  have hpixel : (s.paint (.draw p)).pixel px py = _ := pixel_draw h p hx hy
  rw [draw_lit_of_fits h p hwidth hheight] at hpixel
  refine ⟨s.lit px py, h.pixel_eq hx hy, fun hempty => ?_, fun hbits => ?_⟩
  · have hnone := Set.not_nonempty_iff_eq_empty.2 hempty
    rw [bitsOn_nonempty_iff h] at hnone
    simpa [hnone] using hpixel
  · rw [bitsOn_nonempty_iff h] at hbits
    simpa [hbits] using hpixel

/-- Drawn again, a sprite that fits collides with what it has lit the first time. -/
lemma collided_again_iff :
    ((s.paint (.draw p)).draw p.x p.y p.sprite).2 = true ↔ ∃ px < s.width, ∃ py < s.height,
      (p.bitsOn s.width s.height px py).Nonempty ∧ s.pixel px py = .ok false := by
  have hpainted := paint_draw_wellFormed h p
  obtain ⟨hwidth', hheight'⟩ := s.paint_draw_size p
  have hlit : ∀ px py, (s.paint (.draw p)).lit px py = _ := draw_lit_of_fits h p hwidth hheight
  rw [collided_iff hpainted, hwidth', hheight']
  constructor
  · rintro ⟨px, py, ⟨hhit, hlit'⟩ | htwice⟩
    · obtain ⟨hx, hy⟩ := lt_of_hitCount_pos h p hhit
      refine ⟨px, hx, py, hy, (bitsOn_nonempty_iff h p px py).2 hhit, ?_⟩
      rw [h.pixel_eq hx hy]
      simpa [hlit, hhit] using hlit'
    · have hone := hitCount_le_one h p hwidth hheight px py
      omega
  · rintro ⟨px, hx, py, hy, hbits, hdark⟩
    rw [bitsOn_nonempty_iff h] at hbits
    rw [h.pixel_eq hx hy, Except.ok.injEq] at hdark
    exact ⟨px, py, .inl ⟨hbits, by simp [hlit, hbits, hdark]⟩⟩

/-- If the first drawing met no lit pixel, any set bit makes the second collide. -/
lemma collided_again_iff_of_apart (hapart : (s.draw p.x p.y p.sprite).2 ≠ true) :
    ((s.paint (.draw p)).draw p.x p.y p.sprite).2 = true ↔ ∃ row ∈ p.sprite, row ≠ 0 := by
  rw [collided_again_iff h p hwidth hheight, ← exists_hit_iff s.width s.height]
  constructor
  · rintro ⟨px, -, py, -, hbits, -⟩
    exact ⟨px, py, (bitsOn_nonempty_iff h p px py).1 hbits⟩
  · rintro ⟨px, py, hhit⟩
    obtain ⟨hx, hy⟩ := lt_of_hitCount_pos h p hhit
    refine ⟨px, hx, py, hy, (bitsOn_nonempty_iff h p px py).2 hhit, ?_⟩
    rcases hlit : s.lit px py with _ | _
    · rw [h.pixel_eq hx hy, hlit]
    · -- the first drawing would have put this pixel out
      exact absurd ((collided_iff h p).2 ⟨px, py, .inl ⟨hhit, hlit⟩⟩) hapart

end Again

end Surface

/-! ### The instruction -/

lemma Registers.WellFormed.get_set {r : Registers} (hr : r.WellFormed) {x : ℕ}
    (hx : x < registerCount) (value : ℕ) : (r.set x value).get x = value := by
  have hlt : x < r.v.length := hr.file.length_eq.symm ▸ hx
  simp [Registers.set, Registers.get, hlt]

namespace Machine

/-- The sprite that a drawing draws and the place that it draws it at. -/
def placed (m : Machine) (w : Word) : Placed where
  x := m.reg w.x
  y := m.reg w.y
  sprite := (List.range' m.registers.i.toNat w.n).map m.storage.memory.byteAt

/-- The screen and the flag after a drawing. -/
structure Drawn (w : Word) (m m' : Machine) : Prop where
  surface : m'.screen.surface = m.screen.surface.paint (.draw (m.placed w))
  flag : m'.reg flagRegister = 1 ↔
    (m.screen.surface.draw (m.placed w).x (m.placed w).y (m.placed w).sprite).2 = true

variable {m m' : Machine} {w : Word}

lemma length_sprite (m : Machine) (w : Word) : (m.placed w).sprite.length ≤ 15 := by
  have hn := w.n_lt
  simp only [placed, List.length_map, List.length_range']
  omega

lemma execute_drawing (hm : m.registers.WellFormed)
    (hc : m.storage.memory.Covers m.registers.i w.n) :
    ∃ m', m.execute w .drw = (.ok .next, m') ∧ m.Drawn w m' := by
  have hx : m.execute w .drw = m.drawSprite w.x w.y w.n := rfl
  have hflag : ∀ collided : Bool, (if collided then 1 else 0) = 1 ↔ collided = true := by decide
  rw [hx, drawSprite, Storage.readBytes_eq, if_pos hc, Memory.slice_of_covers _ hc]
  refine ⟨_, rfl, rfl, ?_⟩
  show (m.registers.set flagRegister _).get flagRegister = 1 ↔ _
  rw [hm.get_set (by decide)]
  exact hflag _

lemma Drawn.ofStorage {storage : Storage} (h : Drawn w { m with storage } m')
    (hs : storage.memory = m.storage.memory) : m.Drawn w m' := by
  have hplaced : { m with storage }.placed w = m.placed w := by
    unfold placed
    rw [hs]
    rfl
  have hflag := h.flag
  have hsurface := h.surface
  rw [hplaced] at hflag hsurface
  exact ⟨hsurface, hflag⟩

/-- A drawing of bytes that the memory has is executed. -/
lemma executes_drawing {size : ℕ} (hm : m.WellFormed size) (hop : w.opcode? = some .drw)
    (hc : m.storage.memory.Covers m.registers.i w.n) :
    m.Executes w fun m' => m'.WellFormed size ∧ m.Footprint w .drw m' ∧ m.Drawn w m' := by
  refine .of_execute hm hop (fun storage hs => ?_) fun m' address hd => ⟨hd.surface, hd.flag⟩
  obtain ⟨m', hx, hd⟩ := execute_drawing (m := { m with storage }) hm.registers (hs.symm ▸ hc)
  exact ⟨m', hx, hd.ofStorage hs⟩

/-- What a drawing takes is there again once another was executed that sets the flag only. -/
lemma Footprint.placed_eq (h : m.Footprint w .drw m') (hx : w.x ≠ flagRegister)
    (hy : w.y ≠ flagRegister) : m'.placed w = m.placed w := by
  have hreg : ∀ k ≠ flagRegister, m'.reg k = m.reg k := by
    intro k hk
    have hfile := h.registers.file k (by simpa [writtenRegisters] using hk)
    simp only [reg, Registers.get, List.getD_eq_getElem?_getD, hfile]
  have hi : m'.registers.i = m.registers.i := h.registers.i (by decide)
  unfold placed
  rw [hreg _ hx, hreg _ hy, hi, h.memory_eq rfl]

/-- **A drawing that is executed again undoes the first.**  Take any machine that can be reached, on
a screen of eight columns and fifteen rows or more, and any drawing whose sprite the memory has.
Given or fetched it is executed, and flips the pixels that the bits of its sprite fall on, at the
place that its two registers held before it, even where one of them is the flag; the flag is then
one exactly if some pixel was lit before and is dark now.  If neither register is the flag, the
drawing can be executed once more: every pixel and every byte of memory, and all else but the flag,
are as they were at first, and the flag is one exactly if some bit of the sprite falls on a pixel
that was dark then.  So if it was not one in between, it is one exactly if some byte of the sprite
is not zero. -/
theorem redrawing_restores (hm : m.Reachable) (hop : w.opcode? = some .drw)
    (hwidth : 8 ≤ m.screen.surface.width) (hheight : 15 ≤ m.screen.surface.height)
    (hi : m.registers.i + w.n ≤ m.storage.memory.size) :
    let s := m.screen.surface
    let bits := (m.placed w).bitsOn s.width s.height
    m.Executes w fun m₁ =>
      m.Footprint w .drw m₁ ∧
      (∀ px < s.width, ∀ py < s.height, ∃ b, s.pixel px py = .ok b ∧
        (bits px py = ∅ → m₁.screen.surface.pixel px py = .ok b) ∧
        ((bits px py).Nonempty → m₁.screen.surface.pixel px py = .ok !b)) ∧
      (m₁.reg flagRegister = 1 ↔ ∃ px < s.width, ∃ py < s.height,
        s.pixel px py = .ok true ∧ m₁.screen.surface.pixel px py = .ok false) ∧
      (w.x ≠ flagRegister → w.y ≠ flagRegister → m₁.Executes w fun m₂ =>
        m.Footprint w .drw m₂ ∧ m₂.storage.memory = m.storage.memory ∧
        m₂.screen.surface.rows = s.rows ∧
        (m₂.reg flagRegister = 1 ↔ ∃ px < s.width, ∃ py < s.height,
          (bits px py).Nonempty ∧ s.pixel px py = .ok false) ∧
        (m₁.reg flagRegister ≠ 1 →
          (m₂.reg flagRegister = 1 ↔ ∃ row ∈ (m.placed w).sprite, row ≠ 0))) := by
  intro s bits
  have hwell := hm.wellFormed
  have hs : s.WellFormed := hwell.surface
  have hlength := Nat.le_trans (m.length_sprite w) hheight
  have hcovers : m.storage.memory.Covers m.registers.i w.n := ⟨hwell.registers.i.1, hi⟩
  refine (executes_drawing hwell hop hcovers).mono fun m₁ ⟨hwell₁, hfootprint₁, hdrawn₁⟩ => ?_
  rw [hdrawn₁.flag, hdrawn₁.surface]
  refine ⟨hfootprint₁, fun px hx py hy => Surface.pixel_paint_draw hs _ hwidth hlength hx hy,
    Surface.collided_iff_putOut hs _ hwidth hlength, fun hx hy => ?_⟩
  -- all that the second drawing takes lies outside the footprint of the first
  have hplaced := hfootprint₁.placed_eq hx hy
  have hi₁ : m₁.registers.i = m.registers.i := hfootprint₁.registers.i (by decide)
  have hcovers₁ : m₁.storage.memory.Covers m₁.registers.i w.n := by
    rwa [hfootprint₁.memory_eq rfl, hi₁]
  refine (executes_drawing hwell₁ hop hcovers₁).mono fun m₂ ⟨_, hfootprint₂, hdrawn₂⟩ => ?_
  have hfootprint := hfootprint₁.trans hfootprint₂ (by decide)
  rw [hdrawn₂.flag, hdrawn₂.surface, hplaced, hdrawn₁.surface]
  exact ⟨hfootprint, hfootprint.memory_eq rfl, Surface.rows_draw_draw hs _,
    Surface.collided_again_iff hs _ hwidth hlength, fun hapart =>
      Surface.collided_again_iff_of_apart hs _ hwidth hlength (mt hdrawn₁.flag.2 hapart)⟩

/-- A machine on a dark screen whose program draws the first row of the font in the corner, again
and again. -/
def drawingCorner : Machine := holding [0xD0, 0x11, 0xD0, 0x11, 0xD0, 0x11]

theorem redrawing_restores_inCorner :
    let m := drawingCorner
    let w : Word := ⟨0xD011, by decide⟩
    m.Reachable ∧ w.opcode? = some .drw ∧ 8 ≤ m.screen.surface.width ∧
      15 ≤ m.screen.surface.height ∧ m.registers.i + w.n ≤ m.storage.memory.size ∧
      m.Executes w fun m₁ => m₁.reg flagRegister ≠ 1 ∧
        m₁.Executes w fun m₂ =>
          m₂.screen.surface.rows = m.screen.surface.rows ∧ m₂.reg flagRegister = 1 := by
  intro m w
  have hnone : ∀ e ∈ ([] : List Event), e.Allowed := by simp
  have hm : m.Reachable := holding_reachable _ _ hnone
  have hop : w.opcode? = some .drw := by decide
  have hwidth : 8 ≤ m.screen.surface.width := by decide
  have hheight : 15 ≤ m.screen.surface.height := by decide
  have hdark : ∀ px < (64 : ℕ), ∀ py < (32 : ℕ), m.screen.surface.pixel px py ≠ .ok true := by
    decide +kernel
  obtain ⟨hi, hrow⟩ : m.registers.i + w.n ≤ m.storage.memory.size ∧ 0xF0 ∈ (m.placed w).sprite := by
    decide +kernel
  refine ⟨hm, hop, hwidth, hheight, hi,
    (redrawing_restores hm hop hwidth hheight hi).mono fun m₁ ⟨_, _, hflag₁, hagain⟩ => ?_⟩
  have hapart : m₁.reg flagRegister ≠ 1 := by
    rw [ne_eq, hflag₁]
    rintro ⟨px, hx, py, hy, hlit, -⟩
    exact hdark px hx py hy hlit
  refine ⟨hapart, (hagain (by decide) (by decide)).mono fun m₂ ⟨_, _, hrows, _, hflag₂⟩ => ?_⟩
  exact ⟨hrows, (hflag₂ hapart).2 ⟨0xF0, hrow, by decide⟩⟩

/-- It is not enough that the sprite has bits, for the second drawing to collide: here all of them
fall on what an earlier drawing has lit, and what the first puts out the second does not meet. -/
theorem redrawn_unnoticed :
    let m := drawingCorner.after [.step]
    let w : Word := ⟨0xD011, by decide⟩
    m.Reachable ∧ w.opcode? = some .drw ∧ 8 ≤ m.screen.surface.width ∧
      15 ≤ m.screen.surface.height ∧ m.registers.i + w.n ≤ m.storage.memory.size ∧
      w.x ≠ flagRegister ∧ w.y ≠ flagRegister ∧ (∃ row ∈ (m.placed w).sprite, row ≠ 0) ∧
      ∃ m₁ m₂, m.executeNumber w.value = (.ok .next, m₁) ∧
        m₁.executeNumber w.value = (.ok .next, m₂) ∧ m₂.reg flagRegister ≠ 1 := by
  intro m w
  have hm : m.Reachable := holding_reachable _ _ (by simp [Event.Allowed])
  obtain ⟨hwidth, hheight, hi, hrow, hfirst, hsecond, hunnoticed⟩ :
      8 ≤ m.screen.surface.width ∧ 15 ≤ m.screen.surface.height ∧
      m.registers.i + w.n ≤ m.storage.memory.size ∧ 0xF0 ∈ (m.placed w).sprite ∧
      (m.executeNumber w.value).1 = .ok .next ∧
      ((m.executeNumber w.value).2.executeNumber w.value).1 = .ok .next ∧
      ((m.executeNumber w.value).2.executeNumber w.value).2.reg flagRegister ≠ 1 := by
    decide +kernel
  have hpair : ∀ o : Outcome Flow, o.1 = .ok .next → o = (.ok .next, o.2) := fun o h =>
    Prod.ext h rfl
  exact ⟨hm, by decide, hwidth, hheight, hi, by decide, by decide, ⟨0xF0, hrow, by decide⟩, _, _,
    hpair _ hfirst, hpair _ hsecond, hunnoticed⟩

end Machine

end Chip8
