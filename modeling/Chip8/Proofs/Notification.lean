import Chip8.Proofs.Listeners
import Mathlib.Data.List.Induction

/-!
# What is told of a timer, and to whom

Nothing is said of a timer while it is assigned.  While time passes for it, either nothing is said
or its value goes down by one, and then a round is told: everybody who listens for that hears of it
once, in the order of registration, and if the value is now zero, everybody who listens for the end
does.

To see this all listeners are made to write down what they are told (`TimerListeners.noting`).  Of
listeners who do not assign the timer, the notes of one move follow from the timer alone
(`Timer.Tells`), and from one move to the next the rounds add up: since an assignment, the value and
the number of rounds together are what was assigned (`Timer.Rounds`).  The main result is
`Timer.tells_exactly`.
-/

namespace Chip8

/-- What a listener is told. -/
structure TimerNote where
  notice : TimerNotice
  /-- How many were registered before the listener, of those who listen for this. -/
  listener : ℕ
  /-- The value that the timer then shows. -/
  value : ℕ
deriving DecidableEq, Repr

variable {σ : Type}

/-- The listener, if it also writes down what it is told. -/
def TimerListener.noting (notice : TimerNotice) (k : ℕ) (listener : TimerListener σ) :
    TimerListener (σ × List TimerNote) :=
  fun t s =>
    let (values, rest) := listener t s.1
    (values, rest, s.2 ++ [⟨notice, k, t.value⟩])

/-- The listeners, if they also write down what they are told. -/
def TimerListeners.noting (listeners : TimerListeners σ) :
    TimerListeners (σ × List TimerNote) where
  elapsed := listeners.elapsed.mapIdx (TimerListener.noting .elapsed)
  stopped := listeners.stopped.mapIdx (TimerListener.noting .stopped)

/-- The notes of a round in which each of `count` listeners is told once, in order. -/
def TimerNotice.round (notice : TimerNotice) (count value : ℕ) : List TimerNote :=
  (List.range count).map fun k => ⟨notice, k, value⟩

/-- The notes of all that is told when the value of a timer has gone down. -/
def TimerListeners.rounds (listeners : TimerListeners σ) (value : ℕ) : List TimerNote :=
  TimerNotice.elapsed.round listeners.elapsed.length value ++
    if value = 0 then TimerNotice.stopped.round listeners.stopped.length value else []

/-- How often a listener was told something. -/
def timesTold (notes : List TimerNote) (notice : TimerNotice) (k : ℕ) : ℕ :=
  notes.countP fun note => note.notice = notice ∧ note.listener = k

lemma TimerNotice.round_succ (notice : TimerNotice) (count value : ℕ) :
    notice.round (count + 1) value = notice.round count value ++ [⟨notice, count, value⟩] := by
  simp [TimerNotice.round, List.range_succ]

lemma TimerNotice.eq_of_mem_round {notice : TimerNotice} {count value : ℕ} {note : TimerNote}
    (h : note ∈ notice.round count value) : note.notice = notice := by
  obtain ⟨k, -, rfl⟩ := List.mem_map.1 h
  rfl

lemma timesTold_append (notes notes' : List TimerNote) (notice : TimerNotice) (k : ℕ) :
    timesTold (notes ++ notes') notice k = timesTold notes notice k + timesTold notes' notice k :=
  List.countP_append

lemma timesTold_round (notice : TimerNotice) (count value k : ℕ) :
    timesTold (notice.round count value) notice k = if k < count then 1 else 0 := by
  induction count with
  | zero => rfl
  | succ count ih =>
    have hlast : timesTold [⟨notice, count, value⟩] notice k = if count = k then 1 else 0 := by
      simp [timesTold, List.countP_cons]
    rw [TimerNotice.round_succ, timesTold_append, ih, hlast]
    split <;> split <;> split <;> omega

namespace Timer

/-- The timer and the rest of the world after a move.  Time that the timer cannot take leaves both
as they were. -/
def undergo (listeners : TimerListeners σ) (p : Timer × σ) : TimerMove → Timer × σ
  | .assign value => (p.1.assign value, p.2)
  | .pass elapsed => (p.1.update? listeners elapsed p.2).getD p

/-- The timer and the rest of the world after moves. -/
def undergoAll (listeners : TimerListeners σ) (p : Timer × σ) (moves : List TimerMove) :
    Timer × σ :=
  moves.foldl (undergo listeners) p

lemma undergoAll_concat (listeners : TimerListeners σ) (p : Timer × σ) (moves : List TimerMove)
    (move : TimerMove) :
    undergoAll listeners p (moves ++ [move]) =
      undergo listeners (undergoAll listeners p moves) move := List.foldl_append

/-- The timer counts, can take that time passes, and nothing remains of its interval then. -/
def Due (t : Timer) (elapsed : Quantity) : Prop :=
  t.value ≠ 0 ∧ t.canPass elapsed = true ∧ ¬ 0 < t.remaining - elapsed

/-- What is told while time passes for a timer, and what becomes of the timer.  Of the timer, its
world and the notes, `s` are those before and the last are those after. -/
inductive Tells (listeners : TimerListeners σ) (elapsed : Quantity)
    (s : Timer × σ × List TimerNote) : Timer × σ × List TimerNote → Prop where
  /-- Nobody is told anything, and nothing changes but what remains of the interval. -/
  | nothing (h : ¬ s.1.Due elapsed) (remaining : Quantity) :
      Tells listeners elapsed s ({ s.1 with remaining }, s.2)
  /-- The value goes down by one, which is told, and then that the timer stopped, if it did. -/
  | lowered (h : s.1.Due elapsed) (remaining : Quantity) (rest : σ) {value : ℕ}
      (hv : s.1.value = value + 1) :
      Tells listeners elapsed s
        ({ s.1 with remaining, value }, rest,
          s.2.2 ++ listeners.rounds value)

/-! ### One move -/

/-- Listeners who assign nothing leave the timer as it is, and each writes one note. -/
lemma tellAll_noting (notice : TimerNotice) {others : List (TimerListener σ)}
    (hothers : ∀ listener ∈ others, ∀ t rest, (listener t rest).1 = []) (t : Timer) (rest : σ)
    (notes : List TimerNote) :
    tellAll (others.mapIdx (TimerListener.noting notice)) (t, rest, notes) =
        (t, (tellAll others (t, rest)).2, notes ++ notice.round others.length t.value) ∧
      (tellAll others (t, rest)).1 = t := by
  -- the last of them is told when all the others have written their notes
  induction others using List.reverseRecOn with
  | nil => simp [tellAll, TimerNotice.round]
  | append_singleton others listener ih =>
    obtain ⟨hnoting, hsame⟩ := ih fun other h => hothers other (List.mem_append_left _ h)
    have hlistener := hothers listener (by simp)
    unfold tellAll at hnoting hsame ⊢
    rw [List.mapIdx_concat, List.foldl_append, List.foldl_append, hnoting, List.length_append,
      List.length_singleton, TimerNotice.round_succ]
    generalize List.foldl tell (t, rest) others = p at hsame ⊢
    obtain ⟨t', rest'⟩ := p
    obtain rfl : t' = t := hsame
    simp [tell, TimerListener.noting, hlistener]

section Passive

variable {listeners : TimerListeners σ} (hl : listeners.Passive)
include hl

/-- What time that passes makes of a timer that counts, when nothing remains of its interval. -/
lemma update_noting_of_due {t : Timer} {elapsed : Quantity} (h : t.Due elapsed) (rest : σ)
    (notes : List TimerNote) :
    ∃ remaining rest',
      t.update listeners elapsed rest = ({ t with remaining, value := t.value - 1 }, rest') ∧
        t.update listeners.noting elapsed (rest, notes) =
          ({ t with remaining, value := t.value - 1 }, rest',
            notes ++ listeners.rounds (t.value - 1)) := by
  obtain ⟨h0, -, hr⟩ := h
  obtain ⟨helapsed, hsame⟩ := tellAll_noting .elapsed hl.elapsed (t.lowered elapsed) rest notes
  rw [update_of_due _ _ h0 hr, update_of_due _ _ h0 hr]
  unfold TimerListeners.noting TimerListeners.rounds
  dsimp only
  rw [helapsed]
  generalize tellAll listeners.elapsed (t.lowered elapsed, rest) = p at hsame ⊢
  obtain ⟨t', rest'⟩ := p
  obtain rfl : t' = t.lowered elapsed := hsame
  dsimp only
  by_cases hzero : (t.lowered elapsed).value = 0
  · have hlast : t.value - 1 = 0 := hzero
    obtain ⟨hstopped, hsame'⟩ := tellAll_noting .stopped hl.stopped
      { t with remaining := 0, value := t.value - 1 } rest'
      (notes ++ TimerNotice.elapsed.round listeners.elapsed.length (t.value - 1))
    rw [if_pos hzero, if_pos hzero, if_pos hlast, ← List.append_assoc]
    exact ⟨0, _, Prod.ext hsame' rfl, hstopped⟩
  · have hmore : t.value - 1 ≠ 0 := hzero
    rw [if_neg hzero, if_neg hzero, if_neg hmore, List.append_nil]
    exact ⟨_, rest', rfl, rfl⟩

/-- What is told while time passes, and that to write it down has no effect. -/
lemma undergo_noting_pass (elapsed : Quantity) (s : Timer × σ × List TimerNote) :
    Tells listeners elapsed s (undergo listeners.noting s (.pass elapsed)) ∧
      let o := undergo listeners.noting s (.pass elapsed)
      (o.1, o.2.1) = undergo listeners (s.1, s.2.1) (.pass elapsed) := by
  obtain ⟨t, rest, notes⟩ := s
  unfold undergo update?
  dsimp only
  by_cases hpass : t.canPass elapsed = true
  · rw [if_pos hpass, if_pos hpass, Option.getD_some, Option.getD_some]
    by_cases h0 : t.value = 0
    · rw [update_of_idle _ _ h0, update_of_idle _ _ h0]
      exact ⟨.nothing (fun h => h.1 h0) t.remaining, rfl⟩
    by_cases hr : 0 < t.remaining - elapsed
    · rw [update_of_early _ _ h0 hr, update_of_early _ _ h0 hr]
      exact ⟨.nothing (fun h => h.2.2 hr) _, rfl⟩
    · have hdue : t.Due elapsed := ⟨h0, hpass, hr⟩
      obtain ⟨remaining, rest', hplain, hnoting⟩ := update_noting_of_due hl hdue rest notes
      rw [hplain, hnoting]
      exact ⟨.lowered hdue remaining rest' (by dsimp only; omega), rfl⟩
  · rw [if_neg hpass, if_neg hpass]
    exact ⟨.nothing (fun h => hpass h.2.1) t.remaining, rfl⟩

/-! ### Many moves -/

lemma undergoAll_noting (p : Timer × σ) (notes : List TimerNote) (moves : List TimerMove) :
    let s := undergoAll listeners.noting (p.1, p.2, notes) moves
    (s.1, s.2.1) = undergoAll listeners p moves := by
  intro s
  induction moves using List.reverseRecOn with
  | nil => rfl
  | append_singleton moves move ih =>
    simp only [s] at ih ⊢
    rw [undergoAll_concat, undergoAll_concat, ← ih]
    cases move with
    | assign value => rfl
    | pass elapsed => exact (undergo_noting_pass hl elapsed _).2

lemma value_le_of_undergoAll {s : Timer × σ × List TimerNote} (h : s.1.value ≤ 255)
    (moves : List TimerMove) : (undergoAll listeners.noting s moves).1.value ≤ 255 := by
  induction moves using List.reverseRecOn with
  | nil => exact h
  | append_singleton moves move ih =>
    rw [undergoAll_concat]
    cases move with
    | assign value =>
      simp only [undergo, assign]
      omega
    | pass elapsed =>
      have htells := (undergo_noting_pass hl elapsed (undergoAll listeners.noting s moves)).1
      generalize undergo listeners.noting _ (.pass elapsed) = s' at htells ⊢
      cases htells with
      | nothing => exact ih
      | lowered _ _ _ hv =>
        dsimp only
        omega

end Passive

/-- What has been told since a timer was assigned `v₀`: first that its value went down, to everybody
as often as it did, and then that it stopped, once at most and only if it did. -/
structure Rounds (listeners : TimerListeners σ) (v₀ : ℕ) (t : Timer)
    (first last : List TimerNote) : Prop where
  elapsed : ∀ note ∈ first, note.notice = .elapsed
  stopped : ∀ note ∈ last, note.notice = .stopped
  count : ∀ k < listeners.elapsed.length, timesTold first .elapsed k + t.value = v₀
  once : ∀ k, timesTold last .stopped k ≤ 1
  running : t.value ≠ 0 → last = []

/-- The next round is told. -/
lemma Rounds.tells {listeners : TimerListeners σ} {v₀ : ℕ} {elapsed : Quantity}
    {s s' : Timer × σ × List TimerNote} {notes first last : List TimerNote}
    (h : Rounds listeners v₀ s.1 first last) (hnotes : s.2.2 = notes ++ first ++ last)
    (htells : Tells listeners elapsed s s') :
    ∃ first' last', s'.2.2 = notes ++ first' ++ last' ∧
      Rounds listeners v₀ s'.1 first' last' := by
  cases htells with
  | nothing => exact ⟨first, last, hnotes, h.elapsed, h.stopped, h.count, h.once, h.running⟩
  | @lowered hdue remaining rest value hv =>
    -- the timer was running, so nobody has been told yet that it stopped
    obtain rfl := h.running hdue.1
    rw [List.append_nil] at hnotes
    have helapsed : ∀ note ∈ first ++ TimerNotice.elapsed.round listeners.elapsed.length value,
        note.notice = .elapsed := by
      intro note hnote
      rcases List.mem_append.1 hnote with hbefore | hnow
      · exact h.elapsed note hbefore
      · exact TimerNotice.eq_of_mem_round hnow
    have hcount : ∀ k < listeners.elapsed.length,
        timesTold (first ++ TimerNotice.elapsed.round listeners.elapsed.length value) .elapsed k +
          value = v₀ := by
      intro k hk
      have hbefore := h.count k hk
      rw [timesTold_append, timesTold_round, if_pos hk]
      omega
    refine ⟨_, if value = 0 then TimerNotice.stopped.round listeners.stopped.length value else [],
      ?_, helapsed, fun note hnote => ?_, hcount, fun k => ?_, fun hne => if_neg hne⟩
    · rw [hnotes, TimerListeners.rounds, ← List.append_assoc, ← List.append_assoc]
    · split at hnote
      · exact TimerNotice.eq_of_mem_round hnote
      · simp at hnote
    · split
      · rw [timesTold_round]
        split <;> omega
      · exact Nat.zero_le 1

/-- However much time passes after an assignment, the rounds that were told and the value that is
left make up what was assigned. -/
lemma exists_rounds {listeners : TimerListeners σ} (hl : listeners.Passive)
    (s : Timer × σ × List TimerNote) (value : ℤ) (pieces : List Quantity) :
    let s' := undergoAll listeners.noting s (.assign value :: pieces.map .pass)
    ∃ first last, s'.2.2 = s.2.2 ++ first ++ last ∧
      Rounds listeners (value % 256).toNat s'.1 first last := by
  intro s'
  induction pieces using List.reverseRecOn with
  | nil =>
    refine ⟨[], [], by simp [s', undergoAll, undergo], nofun, nofun, fun k _ => ?_,
      fun k => Nat.zero_le 1, fun _ => rfl⟩
    exact Nat.zero_add _
  | append_singleton pieces elapsed ih =>
    obtain ⟨first, last, hnotes, hrounds⟩ := ih
    simp only [s', List.map_append, List.map_singleton, ← List.cons_append, undergoAll_concat]
    exact hrounds.tells hnotes (undergo_noting_pass hl elapsed _).1

/-- **What is told of a timer, and to whom.**  Take an inactive timer with any interval, listeners
who do not assign it, and any history of assignments and of time that passes.  To write down what is
told has no effect on the timer and the rest of the world, and the value is 255 at most.  An
assignment tells nobody anything.  Time that passes changes what remains of the interval, and then
either nothing else and nobody is told anything, or the value goes down by one, everybody who
listens for that is told the new value, once and in the order of registration, and then, if and only
if it is zero, everybody who listens for the end is told so in the same way.  An inactive timer
tells nobody anything.  And however much time passes after an assignment, what is told begins with
notices that the value went down, to everybody as many as the assigned value (the last eight bits)
exceeds the present one, and ends with notices that the timer stopped, one to everybody at most. -/
theorem tells_exactly {listeners : TimerListeners σ} (hl : listeners.Passive)
    (interval : Quantity) (rest : σ) (history : List TimerMove) :
    let s := undergoAll listeners.noting (idle interval, rest, []) history
    (s.1, s.2.1) = undergoAll listeners (idle interval, rest) history ∧
      s.1.value ≤ 255 ∧
      (∀ value, (undergo listeners.noting s (.assign value)).2 = s.2) ∧
      (∀ elapsed, Tells listeners elapsed s (undergo listeners.noting s (.pass elapsed))) ∧
      (s.1.value = 0 → ∀ elapsed, (undergo listeners.noting s (.pass elapsed)).2 = s.2) ∧
      ∀ (value : ℤ) (pieces : List Quantity),
        let s' := undergoAll listeners.noting s (.assign value :: pieces.map .pass)
        ∃ first last, s'.2.2 = s.2.2 ++ first ++ last ∧
          (∀ note ∈ first, note.notice = .elapsed) ∧ (∀ note ∈ last, note.notice = .stopped) ∧
          (∀ k < listeners.elapsed.length,
            (timesTold first .elapsed k : ℤ) = value % 256 - s'.1.value) ∧
          ∀ k, timesTold last .stopped k ≤ 1 := by
  intro s
  have hone := fun elapsed => (undergo_noting_pass hl elapsed s).1
  refine ⟨undergoAll_noting hl (idle interval, rest) [] history,
    value_le_of_undergoAll hl (Nat.zero_le 255) history, fun _ => rfl, hone, fun h0 elapsed => ?_,
    fun value pieces => ?_⟩
  · have htells := hone elapsed
    generalize undergo listeners.noting s (.pass elapsed) = s' at htells ⊢
    cases htells with
    | nothing => rfl
    | lowered hdue => exact absurd h0 hdue.1
  · obtain ⟨first, last, hnotes, hrounds⟩ := exists_rounds hl s value pieces
    refine ⟨first, last, hnotes, hrounds.elapsed, hrounds.stopped, fun k hk => ?_, hrounds.once⟩
    have hcount := hrounds.count k hk
    omega

/-- For one, a timer of interval ten that two listen to while it counts and one to its end: it is
assigned two, by a number of which only the last eight bits count, and then stops within two pieces
of time. -/
theorem tells_exactly_twoListening :
    let listeners : TimerListeners ℕ :=
      ⟨[fun _ n => ([], n + 1), fun _ n => ([], 2 * n)], [fun _ n => ([], n + 10)]⟩
    let s := undergoAll listeners.noting (idle (.whole 10), 3, [])
      [.assign (-254), .pass (.whole 25), .pass (.whole 1)]
    listeners.Passive ∧ s.1.value = 0 ∧ s.2.1 = 28 ∧
      s.2.2 = [⟨.elapsed, 0, 1⟩, ⟨.elapsed, 1, 1⟩, ⟨.elapsed, 0, 0⟩, ⟨.elapsed, 1, 0⟩,
        ⟨.stopped, 0, 0⟩] ∧
      (undergo listeners.noting s (.pass (.whole 50))).2 = s.2 ∧
      ∃ first last, s.2.2 = first ++ last ∧
        (timesTold first .elapsed 1 : ℤ) = -254 % 256 - 0 ∧ timesTold last .stopped 0 ≤ 1 := by
  intro listeners s
  have hl : listeners.Passive := ⟨by simp [listeners], by simp [listeners]⟩
  have hvalue : s.1.value = 0 := rfl
  obtain ⟨-, -, -, -, hidle, -⟩ := tells_exactly hl (.whole 10) 3
    [.assign (-254), .pass (.whole 25), .pass (.whole 1)]
  obtain ⟨-, -, -, -, -, hrounds⟩ := tells_exactly hl (.whole 10) 3 []
  obtain ⟨first, last, hnotes, -, -, hcount, honce⟩ :=
    hrounds (-254) [.whole 25, .whole 1]
  exact ⟨hl, hvalue, rfl, rfl, hidle hvalue (.whole 50), first, last, hnotes,
    hcount 1 (by decide), honce 0⟩

end Timer

end Chip8
