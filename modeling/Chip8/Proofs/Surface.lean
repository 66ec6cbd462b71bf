import Chip8.Screen
import Mathlib.Data.Int.Notation
import Mathlib.Data.Nat.Notation
import Mathlib.Tactic.Lemma

/-!
# Well-formed surfaces

A surface is an array of rows.  This file says when it is a grid of its width and height, shows that
clearing and drawing keep it one, and that a sprite hits pixels of the grid only, wherever its
corner lies.
-/

namespace Chip8

namespace Surface

/-- The rows form a grid of the width and the height that the surface says. -/
structure WellFormed (s : Surface) : Prop where
  width_pos : 0 < s.width
  height_pos : 0 < s.height
  height_eq : s.rows.size = s.height
  width_eq : ∀ row ∈ s.rows, row.size = s.width

/-- A surface that could be made is well formed. -/
lemma create_wellFormed {width height : ℤ} {s : Surface} (h : create width height = .ok s) :
    s.WellFormed := by
  unfold create at h
  split at h
  · exact absurd h nofun
  · rename_i hpos
    obtain rfl := Except.ok.inj h
    refine ⟨by simp only; omega, by simp only; omega, by simp [darkRows], fun row hrow => ?_⟩
    rw [Array.eq_of_mem_replicate hrow]
    simp

namespace WellFormed

variable {s : Surface}

lemma clear (h : s.WellFormed) : s.clear.WellFormed := by
  refine ⟨h.width_pos, h.height_pos, by simpa [Surface.clear] using h.height_eq, fun row hrow => ?_⟩
  obtain ⟨row', hrow', rfl⟩ := Array.mem_map.1 hrow
  simpa [Surface.clear] using h.width_eq row' hrow'

lemma flip (h : s.WellFormed) (x y : ℕ) : (s.flip x y).WellFormed := by
  refine ⟨h.width_pos, h.height_pos, by simpa [Surface.flip] using h.height_eq, fun row hrow => ?_⟩
  obtain ⟨i, hi, rfl⟩ := Array.mem_iff_getElem.1 hrow
  simp only [Surface.flip, Array.size_modify] at hi
  have hrow' := h.width_eq _ (Array.getElem_mem hi)
  simp only [Surface.flip, Array.getElem_modify]
  split
  · simpa using hrow'
  · exact hrow'

lemma flipAll (h : s.WellFormed) (collided : Bool) (pixels : List (ℕ × ℕ)) :
    (s.flipAll collided pixels).1.WellFormed := by
  induction pixels generalizing s collided with
  | nil => exact h
  | cons p rest ih => exact ih (h.flip p.1 p.2) _

lemma withDirty (h : s.WellFormed) (dirty : Bool) : WellFormed { s with dirty } :=
  ⟨h.width_pos, h.height_pos, h.height_eq, h.width_eq⟩

lemma draw (h : s.WellFormed) (x y : ℤ) (sprite : List UInt8) : (s.draw x y sprite).1.WellFormed :=
  (h.flipAll _ _).withDirty true

end WellFormed

/-- A sprite hits pixels of the grid only. -/
lemma hits_lt {width height : ℕ} (hw : 0 < width) (hh : 0 < height) (x y : ℤ)
    (sprite : List UInt8) : ∀ p ∈ hits width height x y sprite, p.1 < width ∧ p.2 < height := by
  have hmod : ∀ (a : ℤ) {n : ℕ}, 0 < n → (a % n).toNat < n := by
    intro a n hn
    have h0 : 0 ≤ a % n := Int.emod_nonneg a (by omega)
    have h1 : a % n < n := Int.emod_lt_of_pos a (by omega)
    omega
  induction sprite generalizing y with
  | nil => exact nofun
  | cons row rows ih =>
    intro p hp
    rcases List.mem_append.1 hp with hp | hp
    · obtain ⟨c, -, rfl⟩ := List.mem_map.1 hp
      exact ⟨hmod _ hw, hmod _ hh⟩
    · exact ih (y + 1) p hp

end Surface

lemma Screen.draw_wellFormed {s : Screen} (h : s.surface.WellFormed) (x y : ℤ)
    (sprite : List UInt8) : (s.draw x y sprite).1.surface.WellFormed := h.draw x y sprite

end Chip8
