import Chip8.Keypad.Typing
import Chip8.Proofs.Keypress
import Mathlib.Algebra.Order.Group.Int
import Mathlib.Algebra.Order.Group.Unbundled.Basic
import Mathlib.Order.Monotone.Basic

/-!
# How long a typed key is held

A typed keypad has two tables: which keys are down, and when each of them was last typed.  Typing
and looking for expired keys change both, and they stay in step: `Holding` says that the keys that
are down are those with a press time, that a press time is the one of the last time the key was
typed, and that a typed key without one has expired by some earlier check.

What was typed and checked is known from the texts and the clock alone (`TypingCall.events`).  If
the clock never runs backwards, a key that has expired by an earlier check has expired by every
later one, so the last check decides by itself which keys are down.

The main result is `TypedKeypad.held_for_hold_time`.
-/

namespace Chip8

/-- What a clock gives when it is read again and again. -/
def Clock.reading {κ τ : Type} [Clock κ τ] (clock : κ) : ℕ → τ
  | 0 => (read clock).1
  | n + 1 => reading (read clock).2 n

/-- What is done to a typed keypad. -/
inductive TypingCall where
  /-- A text is typed. -/
  | feed (text : String)
  /-- Keys whose hold time is over are released. -/
  | releaseExpired
  /-- Something is done to the keypad that neither presses nor releases a key, such as to begin a
  wait. -/
  | other (act : Keypad → Keypad) (down_eq : ∀ k, (act k).down = k.down)

/-- What a keyboard and a clock tell. -/
inductive TypingEvent (τ : Type) where
  /-- A key was typed. -/
  | typed (key : Key) (time : τ)
  /-- Expired keys were looked for. -/
  | checked (time : τ)
deriving DecidableEq, Repr

namespace TypingEvent

variable {τ : Type}

/-- When a key was typed, if the event says so. -/
def typedAt? (key : Key) : TypingEvent τ → Option τ
  | typed other time => if other = key then some time else none
  | checked _ => none

/-- When a key was last typed. -/
def lastTyped (key : Key) (events : List (TypingEvent τ)) : Option τ :=
  (events.filterMap (typedAt? key)).getLast?

lemma lastTyped_typed (key other : Key) (events : List (TypingEvent τ)) (time : τ) :
    lastTyped key (events ++ [.typed other time]) =
      if other = key then some time else lastTyped key events := by
  unfold lastTyped
  rw [List.filterMap_append]
  by_cases h : other = key
  · simp [typedAt?, h]
  · simp [typedAt?, h]

lemma lastTyped_checked (key : Key) (events : List (TypingEvent τ)) (time : τ) :
    lastTyped key (events ++ [.checked time]) = lastTyped key events := by
  unfold lastTyped
  rw [List.filterMap_append]
  exact congrArg List.getLast? (List.append_nil _)

end TypingEvent

open TypingEvent (lastTyped lastTyped_typed lastTyped_checked)

/-! ### The two tables -/

namespace Keypad

/-- Which keys are down is all that counts for whether a key is. -/
lemma isDown_congr {k k' : Keypad} (h : k'.down = k.down) (key : Key) :
    k'.isDown key.val = k.isDown key.val := by
  rw [isDown_val, isDown_val, h]

lemma isDown_initial (key : Key) : initial.isDown key.val = false := by
  rw [isDown_val]
  exact Vector.getElem_replicate key.isLt

/-- A key that is down is pressed to no effect. -/
lemma press_of_isDown {k : Keypad} {key : Key} (h : k.isDown key.val = true) :
    k.press key = k := by
  rw [isDown_val] at h
  exact if_pos h

/-- Releasing keys one after another leaves those down that were, and are none of them. -/
lemma isDown_releaseEach {τ : Type} (k : Keypad) (gone : List (Key × τ)) (key : Key) :
    (gone.foldl (fun k p => k.release p.1) k).isDown key.val = true ↔
      k.isDown key.val = true ∧ ∀ u, (key, u) ∉ gone := by
  induction gone generalizing k with
  | nil => simp
  | cons p rest ih =>
    obtain ⟨other, v⟩ := p
    rw [List.foldl_cons, ih, isDown_release]
    by_cases h : other = key
    · subst h
      simp only [decide_true, Bool.not_true, Bool.false_and, Bool.false_eq_true, false_and,
        false_iff, not_and, not_forall, not_not]
      exact fun _ => ⟨v, List.mem_cons_self⟩
    · have hne : ∀ u, (key, u) ≠ (other, v) := fun u heq => h (congrArg Prod.fst heq).symm
      simp [h, hne]

end Keypad

namespace TypedKeypad

variable {κ τ : Type}

lemma mem_keys_note (times : List (Key × τ)) (key : Key) (time : τ) (other : Key) :
    other ∈ (note times key time).map Prod.fst ↔ other = key ∨ other ∈ times.map Prod.fst := by
  induction times with
  | nil => simp [note]
  | cons p rest ih =>
    obtain ⟨k, v⟩ := p
    unfold note
    by_cases hk : k = key
    · simp [hk]
    · rw [if_neg hk, List.map_cons, List.mem_cons, ih, List.map_cons, List.mem_cons]
      exact or_left_comm

lemma nodup_note {times : List (Key × τ)} (hnodup : (times.map Prod.fst).Nodup) (key : Key)
    (time : τ) : ((note times key time).map Prod.fst).Nodup := by
  induction times with
  | nil => exact List.pairwise_singleton _ key
  | cons p rest ih =>
    obtain ⟨k, v⟩ := p
    obtain ⟨hnew, hrest⟩ := List.nodup_cons.1 hnodup
    unfold note
    by_cases hk : k = key
    · subst hk
      rw [if_pos rfl]
      exact hnodup
    · rw [if_neg hk, List.map_cons]
      exact List.nodup_cons.2 ⟨fun hmem => ((mem_keys_note rest key time k).1 hmem).elim hk hnew,
        ih hrest⟩

/-- What the press times are once there is a new one for a key. -/
lemma mem_note_iff {times : List (Key × τ)} (hnodup : (times.map Prod.fst).Nodup) (key : Key)
    (time : τ) (other : Key) (u : τ) :
    (other, u) ∈ note times key time ↔ if other = key then u = time else (other, u) ∈ times := by
  induction times with
  | nil => by_cases h : other = key <;> simp [note, h]
  | cons p rest ih =>
    obtain ⟨k, v⟩ := p
    obtain ⟨hk, hrest⟩ := List.nodup_cons.1 hnodup
    have hnone : (k, u) ∉ rest := fun hmem => hk (List.mem_map.2 ⟨(k, u), hmem, rfl⟩)
    unfold note
    by_cases hkey : k = key
    · subst hkey
      rw [if_pos rfl]
      by_cases hother : other = k
      · subst hother
        simp [hnone]
      · simp [hother]
    · rw [if_neg hkey, List.mem_cons, ih hrest]
      by_cases hother : other = key
      · have hne : ¬ key = k := fun heq => hkey heq.symm
        simp [hother, hne]
      · simp [hother]

end TypedKeypad

/-- What calls tell; the clock is read whenever a key is typed and whenever expired keys are looked
for. -/
def TypingCall.events {κ τ : Type} [Clock κ τ] : List TypingCall → κ → List (TypingEvent τ)
  | [], _ => []
  | .feed text :: rest, clock =>
    match Key.ofText? text with
    | none => events rest clock
    | some key => .typed key (Clock.read clock).1 :: events rest (Clock.read clock).2
  | .releaseExpired :: rest, clock =>
    .checked (Clock.read clock).1 :: events rest (Clock.read clock).2
  | .other _ _ :: rest, clock => events rest clock

namespace TypedKeypad

variable {κ τ : Type} [Clock κ τ] [AddCommGroup τ] [LinearOrder τ]

/-- What a call leads to. -/
def perform (t : TypedKeypad κ τ) : TypingCall → TypedKeypad κ τ
  | .feed text => (t.feed text).2
  | .releaseExpired => t.releaseExpired
  | .other act _ => { t with keypad := act t.keypad }

/-- What calls lead to, one after another. -/
def performAll (t : TypedKeypad κ τ) (calls : List TypingCall) : TypedKeypad κ τ :=
  calls.foldl perform t

/-- The two tables are in step with what was told so far. -/
structure Holding (hold : τ) (told : List (TypingEvent τ)) (t : TypedKeypad κ τ) : Prop where
  hold_eq : t.hold = hold
  nodup : (t.pressedAt.map Prod.fst).Nodup
  down_iff : ∀ key : Key, t.keypad.isDown key.val = true ↔ ∃ u, (key, u) ∈ t.pressedAt
  recorded : ∀ key u, (key, u) ∈ t.pressedAt → lastTyped key told = some u
  /-- A key that was typed has a press time, or it has expired by some check. -/
  expired : ∀ key u, lastTyped key told = some u →
    (key, u) ∈ t.pressedAt ∨ ∃ now, .checked now ∈ told ∧ hold ≤ now - u
  /-- The clock does not run backwards. -/
  onward : Monotone (Clock.reading t.clock)
  past : ∀ now, .checked now ∈ told → now ≤ (Clock.read t.clock).1
  /-- Right after a check, the keys that have not expired by it are down. -/
  checked : ∀ earlier now, told = earlier ++ [.checked now] → ∀ key : Key,
    t.keypad.isDown key.val = true ↔ ∃ u, lastTyped key earlier = some u ∧ now - u < hold

/-- The keypad once a key was typed. -/
def typed (t : TypedKeypad κ τ) (key : Key) : TypedKeypad κ τ :=
  { t with
    keypad := t.keypad.press key
    clock := (Clock.read t.clock).2
    pressedAt := note t.pressedAt key (Clock.read t.clock).1 }

omit [AddCommGroup τ] [LinearOrder τ] in
lemma feed_of_none (t : TypedKeypad κ τ) {text : String} (h : Key.ofText? text = none) :
    t.feed text = (none, t) := by
  unfold feed
  rw [h]

omit [AddCommGroup τ] [LinearOrder τ] in
lemma feed_of_some (t : TypedKeypad κ τ) {text : String} {key : Key}
    (h : Key.ofText? text = some key) : t.feed text = (some key, t.typed key) := by
  unfold feed
  rw [h]
  rfl

/-- Looking for expired keys cuts the press times in two. -/
lemma releaseExpired_eq (t : TypedKeypad κ τ) :
    t.releaseExpired =
      { t with
        clock := (Clock.read t.clock).2
        keypad := (t.pressedAt.filter fun p => expired t.hold (Clock.read t.clock).1 p.2).foldl
          (fun k p => k.release p.1) t.keypad
        pressedAt := t.pressedAt.filter fun p =>
          !expired t.hold (Clock.read t.clock).1 p.2 } := by
  unfold releaseExpired now
  dsimp only
  rw [List.partition_eq_filter_filter]
  rfl

lemma releaseExpired_clock (t : TypedKeypad κ τ) :
    t.releaseExpired.clock = (Clock.read t.clock).2 := by
  rw [releaseExpired_eq]

namespace Holding

variable {hold : τ} {told : List (TypingEvent τ)} {t : TypedKeypad κ τ}

lemma onward_read (h : Holding hold told t) :
    Monotone (Clock.reading (Clock.read t.clock).2) :=
  fun _ _ hle => h.onward (Nat.succ_le_succ hle)

/-- Every earlier check was before the next reading of the clock, and before the one behind it. -/
lemma past_read (h : Holding hold told t) {now : τ} (hnow : .checked now ∈ told) :
    now ≤ (Clock.read (Clock.read t.clock).2).1 :=
  (h.past now hnow).trans (h.onward (Nat.le_succ 0))

lemma other (h : Holding hold told t) {act : Keypad → Keypad}
    (down_eq : ∀ k, (act k).down = k.down) :
    Holding hold told { t with keypad := act t.keypad } where
  hold_eq := h.hold_eq
  nodup := h.nodup
  down_iff key := by
    rw [Keypad.isDown_congr (down_eq t.keypad)]
    exact h.down_iff key
  recorded := h.recorded
  expired := h.expired
  onward := h.onward
  past := h.past
  checked earlier now htold key := by
    rw [Keypad.isDown_congr (down_eq t.keypad)]
    exact h.checked earlier now htold key

lemma mem_typed (h : Holding hold told t) (key other : Key) (u : τ) :
    (other, u) ∈ (t.typed key).pressedAt ↔
      if other = key then u = (Clock.read t.clock).1 else (other, u) ∈ t.pressedAt :=
  mem_note_iff h.nodup key _ other u

lemma typed (h : Holding hold told t) (key : Key) :
    Holding hold (told ++ [.typed key (Clock.read t.clock).1]) (t.typed key) where
  hold_eq := h.hold_eq
  nodup := nodup_note h.nodup key _
  down_iff other := by
    simp only [h.mem_typed]
    rw [TypedKeypad.typed, Keypad.isDown_press]
    by_cases heq : other = key
    · simp [heq]
    · have hne : ¬ key = other := fun h => heq h.symm
      simp [heq, hne, h.down_iff]
  recorded other u hmem := by
    rw [h.mem_typed] at hmem
    rw [lastTyped_typed]
    by_cases heq : other = key
    · rw [if_pos heq] at hmem
      rw [if_pos heq.symm, hmem]
    · rw [if_neg heq] at hmem
      rw [if_neg fun h => heq h.symm]
      exact h.recorded other u hmem
  expired other u hlast := by
    rw [lastTyped_typed] at hlast
    rw [h.mem_typed]
    by_cases heq : other = key
    · rw [if_pos heq.symm] at hlast
      rw [if_pos heq]
      exact .inl (Option.some.inj hlast).symm
    · rw [if_neg fun h => heq h.symm] at hlast
      rw [if_neg heq]
      refine (h.expired other u hlast).imp_right ?_
      rintro ⟨now, hnow, hover⟩
      exact ⟨now, List.mem_append_left _ hnow, hover⟩
  onward := h.onward_read
  past now hnow := by
    rcases List.mem_append.1 hnow with hnow | hnow
    · exact h.past_read hnow
    · exact absurd (List.mem_singleton.1 hnow) nofun
  checked earlier now htold := absurd (List.append_singleton_inj.1 htold).2 nofun

/-- A check takes away the press times that have expired by it. -/
lemma mem_releaseExpired (h : Holding hold told t) (key : Key) (u : τ) :
    (key, u) ∈ t.releaseExpired.pressedAt ↔
      (key, u) ∈ t.pressedAt ∧ (Clock.read t.clock).1 - u < hold := by
  rw [releaseExpired_eq, List.mem_filter, Bool.not_eq_true', TypedKeypad.expired,
    decide_eq_false_iff_not, not_le, h.hold_eq]

/-- A check releases the keys whose press times it takes away, and no others. -/
lemma isDown_releaseExpired (h : Holding hold told t) (key : Key) :
    t.releaseExpired.keypad.isDown key.val = true ↔
      ∃ u, (key, u) ∈ t.releaseExpired.pressedAt := by
  have hgone : ∀ u, (key, u) ∈ (t.pressedAt.filter fun p =>
      TypedKeypad.expired t.hold (Clock.read t.clock).1 p.2) ↔
      (key, u) ∈ t.pressedAt ∧ hold ≤ (Clock.read t.clock).1 - u := fun u => by
    rw [List.mem_filter, TypedKeypad.expired, decide_eq_true_iff, h.hold_eq]
  simp only [h.mem_releaseExpired]
  rw [releaseExpired_eq, Keypad.isDown_releaseEach, h.down_iff]
  simp only [hgone]
  constructor
  · rintro ⟨⟨u, hu⟩, hkept⟩
    exact ⟨u, hu, not_le.1 fun hover => hkept u ⟨hu, hover⟩⟩
  · rintro ⟨u, hu, halive⟩
    refine ⟨⟨u, hu⟩, fun v ⟨hv, hover⟩ => ?_⟩
    -- a key has one press time
    have heq : u = v :=
      Option.some.inj ((h.recorded key u hu).symm.trans (h.recorded key v hv))
    exact absurd (heq ▸ hover) (not_le.2 halive)

variable [IsOrderedAddMonoid τ]

/-- Once a key has expired it stays so, and a key that was typed and has no press time has expired
by now. -/
lemma expired_now (h : Holding hold told t) {key : Key} {u : τ}
    (hlast : lastTyped key told = some u) :
    (key, u) ∈ t.pressedAt ∨ hold ≤ (Clock.read t.clock).1 - u := by
  refine (h.expired key u hlast).imp_right ?_
  rintro ⟨now, hnow, hover⟩
  -- the clock has not run backwards since that check
  exact hover.trans (sub_le_sub_right (h.past now hnow) u)

lemma releaseExpired (h : Holding hold told t) :
    Holding hold (told ++ [.checked (Clock.read t.clock).1]) t.releaseExpired where
  hold_eq := h.hold_eq
  nodup := by
    rw [releaseExpired_eq]
    exact h.nodup.sublist (List.filter_sublist.map Prod.fst)
  down_iff := h.isDown_releaseExpired
  recorded key u hkept := by
    rw [lastTyped_checked]
    exact h.recorded key u ((h.mem_releaseExpired key u).1 hkept).1
  expired key u hlast := by
    rw [lastTyped_checked] at hlast
    rw [h.mem_releaseExpired]
    have hchecked := List.mem_append_right told
      (List.mem_singleton_self (TypingEvent.checked (Clock.read t.clock).1))
    rcases h.expired_now hlast with hu | hover
    · by_cases halive : (Clock.read t.clock).1 - u < hold
      · exact .inl ⟨hu, halive⟩
      · exact .inr ⟨_, hchecked, not_lt.1 halive⟩
    · exact .inr ⟨_, hchecked, hover⟩
  onward := h.onward_read
  past now hnow := by
    rcases List.mem_append.1 hnow with hnow | hnow
    · exact h.past_read hnow
    · rw [TypingEvent.checked.inj (List.mem_singleton.1 hnow)]
      exact h.onward (Nat.le_succ 0)
  checked earlier now htold key := by
    obtain ⟨rfl, hnow⟩ := List.append_singleton_inj.1 htold
    rw [← TypingEvent.checked.inj hnow, h.isDown_releaseExpired]
    simp only [h.mem_releaseExpired]
    constructor
    · rintro ⟨u, hu, halive⟩
      exact ⟨u, h.recorded key u hu, halive⟩
    · rintro ⟨u, hlast, halive⟩
      exact ⟨u, (h.expired_now hlast).resolve_right (not_le.2 halive), halive⟩

/-- Calls keep the tables in step. -/
lemma performAll (h : Holding hold told t) (calls : List TypingCall) :
    Holding hold (told ++ TypingCall.events calls t.clock) (t.performAll calls) := by
  induction calls generalizing told t with
  | nil =>
    rw [TypingCall.events, List.append_nil]
    exact h
  | cons call rest ih =>
    cases call with
    | feed text =>
      rcases hkey : Key.ofText? text with _ | key
      · have hcall : t.perform (.feed text) = t := congrArg Prod.snd (feed_of_none t hkey)
        rw [TypedKeypad.performAll, List.foldl_cons, hcall, TypingCall.events, hkey]
        exact ih h
      · have hcall : t.perform (.feed text) = t.typed key := congrArg Prod.snd (feed_of_some t hkey)
        have hrest := ih (h.typed key)
        rw [List.append_assoc] at hrest
        rw [TypedKeypad.performAll, List.foldl_cons, hcall, TypingCall.events, hkey]
        exact hrest
    | releaseExpired =>
      have hrest := ih h.releaseExpired
      rw [List.append_assoc, releaseExpired_clock] at hrest
      exact hrest
    | other act down_eq => exact ih (h.other down_eq)

end Holding

lemma holding_initial (hold : τ) {clock : κ} (hclock : Monotone (Clock.reading clock)) :
    Holding hold [] (⟨.initial, hold, clock, []⟩ : TypedKeypad κ τ) where
  hold_eq := rfl
  nodup := .nil
  down_iff key := by simp [Keypad.isDown_initial]
  recorded := nofun
  expired := nofun
  onward := hclock
  past := nofun
  checked earlier now h :=
    absurd h.symm (List.append_ne_nil_of_right_ne_nil earlier (List.cons_ne_nil _ _))

/-- **A typed key is held for the hold time.**  Let a typed keypad start with all keys up, with any
hold time and a clock that never runs backwards, and let texts be typed and expired keys be looked
for in any order; in between waits may begin, end and be interrupted.  At every moment a key is down
exactly if it has a press time.  Right after a check at some time, a key is down exactly if it was
typed before and less than the hold time has passed since it was last typed.  A text without a key
changes nothing.  A key that is typed while it is down leaves the keypad as it is, what a wait
remembers included, and its press time is now; the press times of other keys stay. -/
theorem held_for_hold_time [IsOrderedAddMonoid τ] {clock : κ}
    (hclock : Monotone (Clock.reading clock)) (hold : τ) (calls : List TypingCall) :
    let t : TypedKeypad κ τ := performAll ⟨.initial, hold, clock, []⟩ calls
    (∀ key : Key, t.keypad.isDown key.val = true ↔ ∃ u, (key, u) ∈ t.pressedAt) ∧
      (∀ earlier now, TypingCall.events calls clock = earlier ++ [.checked now] → ∀ key : Key,
        t.keypad.isDown key.val = true ↔ ∃ u, lastTyped key earlier = some u ∧ now - u < hold) ∧
      (∀ text, Key.ofText? text = none → t.feed text = (none, t)) ∧
      ∀ text key, Key.ofText? text = some key → t.keypad.isDown key.val = true →
        (t.feed text).1 = some key ∧ (t.feed text).2.keypad = t.keypad ∧
          ∀ other u, (other, u) ∈ (t.feed text).2.pressedAt ↔
            if other = key then u = (Clock.read t.clock).1 else (other, u) ∈ t.pressedAt := by
  intro t
  have h : Holding hold (TypingCall.events calls clock) t :=
    (holding_initial hold hclock).performAll calls
  refine ⟨h.down_iff, h.checked, fun text => feed_of_none t, fun text key hkey hdown => ?_⟩
  rw [feed_of_some t hkey]
  exact ⟨rfl, Keypad.press_of_isDown hdown, h.mem_typed key⟩

end TypedKeypad

/-- A clock that moves on steadily never runs backwards. -/
lemma SteadyClock.monotone_reading {τ : Type} [AddCommGroup τ] [LinearOrder τ]
    [IsOrderedAddMonoid τ] {step : τ} (h : 0 ≤ step) (time : τ) :
    Monotone (Clock.reading (⟨time, step⟩ : SteadyClock τ)) := by
  refine monotone_nat_of_le_succ fun n => ?_
  induction n generalizing time with
  | zero => exact le_add_of_nonneg_right h
  | succ n ih => exact ih (time + step)

theorem TypedKeypad.held_for_hold_time_threeUnits :
    let clock : SteadyClock ℤ := ⟨0, 1⟩
    let calls : List TypingCall :=
      [.feed "w", .feed "q", .other Keypad.beginWait fun _ => rfl, .feed "w", .feed "p",
        .releaseExpired, .releaseExpired]
    let t : TypedKeypad (SteadyClock ℤ) ℤ := performAll ⟨.initial, 3, clock, []⟩ calls
    TypingCall.events calls clock =
        [.typed 0x5 1, .typed 0x4 2, .typed 0x5 3, .checked 4] ++ [.checked 5] ∧
      t.keypad.held = [0x5] ∧ t.keypad.transitions = [] ∧
      (∀ key : Key, t.keypad.isDown key.val = true ↔ key = 0x5) := by
  intro clock calls t
  have hevents : TypingCall.events calls clock =
      [.typed 0x5 1, .typed 0x4 2, .typed 0x5 3, .checked 4] ++ [.checked 5] := by decide +kernel
  have hlast : ∀ key : Key,
      lastTyped key [.typed 0x5 1, .typed 0x4 2, .typed 0x5 3, .checked 4] =
        if key = 0x5 then some (3 : ℤ) else if key = 0x4 then some 2 else none := by
    decide +kernel
  have hclock : Monotone (Clock.reading clock) := SteadyClock.monotone_reading (by decide) 0
  obtain ⟨-, hchecked, -, -⟩ := held_for_hold_time hclock 3 calls
  refine ⟨hevents, by decide +kernel, by decide +kernel, fun key => ?_⟩
  rw [hchecked _ _ hevents key, hlast]
  by_cases hw : key = 0x5
  · simp [hw]
  · by_cases hq : key = 0x4
    · -- the hold time is over at its very end
      simp [hq]
    · simp [hw, hq]

end Chip8
