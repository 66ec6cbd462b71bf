import Chip8.Keypad.Terminal
import Chip8.Proofs.Keypress

/-!
# When a terminal is put back as it was found

While the reader of a terminal runs, every key press is available at once; to get there the reader
saves the attributes of the terminal when it is started, and closing restores them.  The reader also
ends by itself, when the input ends, and then the terminal stays as it is, with its attributes
saved: it is deserted.  A start asks only whether the reader runs.  So a deserted terminal that is
started over has its attributes saved once more, but now those are the attributes under which every
key press is available at once, and closing restores these.  This is a defect.

`Terminal.life` is the part of a terminal that decides about this, and `Life.Becomes` says, event by
event, what becomes of it.  Which history deserts a terminal, and whether it was ever started over,
is told by the events alone (`Deserted`, `StartsOver`).  What is asked of the terminal is asked in
turn exactly as long as it is never started over; from then on it is never again as it was found.

The main result is `Terminal.put_back_iff_never_startedOver`.
-/

namespace Chip8

/-! ### The terminal at the other end -/

/-- The attributes of a terminal, of which those of type `α` do not matter here. -/
structure Attributes (α : Type) where
  /-- Whether what is typed is shown. -/
  echo : Bool
  /-- Whether what is typed is available line by line. -/
  byLine : Bool
  /-- How many bytes a read waits for. -/
  least : UInt8
  /-- How long a read waits for them. -/
  patience : UInt8
  /-- All other attributes. -/
  others : α
deriving DecidableEq

namespace Attributes

variable {α : Type}

/-- The attributes under which every key press is available at once. -/
def immediate (a : Attributes α) : Attributes α :=
  { a with echo := false, byLine := false, least := 1, patience := 0 }

/-- Whether every key press is available at once, without being shown. -/
def IsImmediate (a : Attributes α) : Prop := a.echo = false ∧ a.byLine = false

lemma isImmediate_immediate (a : Attributes α) : a.immediate.IsImmediate := ⟨rfl, rfl⟩

@[simp] lemma immediate_immediate (a : Attributes α) : a.immediate.immediate = a.immediate := rfl

end Attributes

/-- A terminal's attributes as they are, and as they were saved. -/
structure Line (α : Type) where
  /-- The attributes. -/
  attributes : Attributes α
  /-- What was saved of them. -/
  copy : Option (Attributes α)

namespace Line

variable {α : Type}

/-- What the terminal does that it is asked for. -/
def answer (l : Line α) : TerminalCall → Line α
  | .save => { l with copy := some l.attributes }
  | .immediate => { l with attributes := l.attributes.immediate }
  | .restore => ⟨l.copy.getD l.attributes, none⟩

/-- What the terminal is like after all that it was asked for. -/
def after (l : Line α) (calls : List TerminalCall) : Line α := calls.foldl answer l

/-- Attributes are saved over others that have not been restored. -/
def SavesOver (l : Line α) : List TerminalCall → Prop :=
  Occurs fun earlier call => call = .save ∧ (l.after earlier).copy ≠ none

/-- A terminal of which nothing is saved. -/
def found (a : Attributes α) : Line α := ⟨a, none⟩

/-- A terminal whose attributes were saved, and every key press made available at once. -/
def opened (a : Attributes α) : Line α := ⟨a.immediate, some a⟩

@[simp] lemma after_append (l : Line α) (calls more : List TerminalCall) :
    l.after (calls ++ more) = (l.after calls).after more := List.foldl_append

@[simp] lemma after_found_start (a : Attributes α) :
    (found a).after [.save, .immediate] = opened a := rfl

@[simp] lemma after_opened_start (a : Attributes α) :
    (opened a).after [.save, .immediate] = opened a.immediate := rfl

@[simp] lemma after_opened_restore (a : Attributes α) : (opened a).after [.restore] = found a := rfl

lemma savesOver_start_iff (l : Line α) (calls : List TerminalCall) :
    l.SavesOver (calls ++ [.save, .immediate]) ↔
      l.SavesOver calls ∨ (l.after calls).copy ≠ none := by
  rw [List.append_cons, SavesOver, occurs_concat_iff, occurs_concat_iff]
  simp

lemma savesOver_restore_iff (l : Line α) (calls : List TerminalCall) :
    l.SavesOver (calls ++ [.restore]) ↔ l.SavesOver calls := by
  simp [SavesOver, occurs_concat_iff]

end Line

namespace TerminalCall

/-- When its turn comes: first the attributes are saved, then key presses become available at once,
and then what was saved is restored. -/
def place : TerminalCall → ℕ
  | save => 0
  | immediate => 1
  | restore => 2

/-- What is asked is asked in turn, again and again. -/
def InTurn (calls : List TerminalCall) : Prop :=
  calls.map place = (List.range calls.length).map (· % 3)

instance (calls : List TerminalCall) : Decidable (InTurn calls) :=
  inferInstanceAs (Decidable (calls.map place = _))

lemma inTurn_concat_iff (calls : List TerminalCall) (call : TerminalCall) :
    InTurn (calls ++ [call]) ↔ InTurn calls ∧ call.place = calls.length % 3 := by
  simp [InTurn, List.range_succ]

example : InTurn [save, immediate, restore, save] := by decide

lemma inTurn_start_iff (calls : List TerminalCall) :
    InTurn (calls ++ [save, immediate]) ↔ InTurn calls ∧ calls.length % 3 = 0 := by
  rw [List.append_cons, inTurn_concat_iff, inTurn_concat_iff, and_assoc]
  refine and_congr_right fun _ => ?_
  simp only [place, List.length_append, List.length_singleton]
  omega

lemma inTurn_restore_iff (calls : List TerminalCall) :
    InTurn (calls ++ [restore]) ↔ InTurn calls ∧ calls.length % 3 = 2 := by
  rw [inTurn_concat_iff, place, eq_comm (a := 2)]

end TerminalCall

open TerminalCall (InTurn inTurn_start_iff inTurn_restore_iff)

/-! ### Histories -/

/-- What happens to a terminal. -/
inductive TerminalEvent (κ : Type) where
  /-- Something is done to it. -/
  | act (action : TerminalAction κ)
  /-- Bytes are typed. -/
  | type (data : List UInt8)
  /-- The input ends. -/
  | finish
  /-- The reader, if it runs, handles what was typed. -/
  | serve

namespace TerminalEvent

variable {κ : Type}

/-- The reader is started. -/
abbrev start : TerminalEvent κ := act .start

/-- The reader is closed. -/
abbrev close : TerminalEvent κ := act .close

/-- The reader was started and not closed since. -/
def Opened (history : List (TerminalEvent κ)) : Prop :=
  LastSets (· = start) (fun e => e = start ∨ e = close) False history

/-- The reader has ended by itself: it was started and not closed when it came to the end of the
input, and since then it was neither started nor closed.  The input may have ended before. -/
def Deserted (ended : Bool) (history : List (TerminalEvent κ)) : Prop :=
  ∃ front back, history = front ++ serve :: back ∧ Opened front ∧
    (ended = true ∨ finish ∈ front) ∧ ∀ e ∈ back, e ≠ start ∧ e ≠ close

/-- A terminal that its reader has deserted is started over. -/
def StartsOver (ended : Bool) : List (TerminalEvent κ) → Prop :=
  Occurs fun earlier e => e = start ∧ Deserted ended earlier

variable {history : List (TerminalEvent κ)} {e : TerminalEvent κ}

lemma opened_concat_iff : Opened (history ++ [e]) ↔ e = start ∨ (e ≠ close ∧ Opened history) := by
  rw [Opened, lastSets_concat_iff, not_or]
  constructor
  · rintro (hstart | ⟨⟨-, hclose⟩, hopened⟩)
    · exact .inl hstart
    · exact .inr ⟨hclose, hopened⟩
  · rintro (hstart | ⟨hclose, hopened⟩)
    · exact .inl hstart
    · by_cases hstart : e = start
      · exact .inl hstart
      · exact .inr ⟨⟨hstart, hclose⟩, hopened⟩

lemma deserted_concat_iff {ended : Bool} :
    Deserted ended (history ++ [e]) ↔
      (e = serve ∧ Opened history ∧ (ended = true ∨ finish ∈ history)) ∨
        ((e ≠ start ∧ e ≠ close) ∧ Deserted ended history) := by
  constructor
  · rintro ⟨front, back, hcut, hopened, hended, hback⟩
    rcases concat_eq_append_cons_iff.1 hcut with ⟨rfl, rfl, -⟩ | ⟨rest, rfl, rfl⟩
    · exact .inl ⟨rfl, hopened, hended⟩
    · obtain ⟨hrest, he⟩ := List.forall_mem_append.1 hback
      exact .inr ⟨he e (List.mem_singleton_self e), front, rest, rfl, hopened, hended, hrest⟩
  · rintro (⟨rfl, hopened, hended⟩ | ⟨he, front, back, rfl, hopened, hended, hback⟩)
    · exact ⟨history, [], rfl, hopened, hended, by simp⟩
    · refine ⟨front, back ++ [e], by simp, hopened, hended, ?_⟩
      exact List.forall_mem_append.2 ⟨hback, List.forall_mem_singleton.2 he⟩

lemma not_opened_nil : ¬ Opened ([] : List (TerminalEvent κ)) := by
  simp [Opened, LastSets]

lemma not_deserted_nil (ended : Bool) : ¬ Deserted ended ([] : List (TerminalEvent κ)) := by
  simp [Deserted]

end TerminalEvent

open TerminalEvent (Opened Deserted StartsOver opened_concat_iff deserted_concat_iff)

namespace Terminal

/-- The part of a terminal that decides about its attributes. -/
structure Life where
  /-- Whether the stream is a terminal. -/
  isTerminal : Bool
  /-- Whether the reader runs. -/
  reading : Bool
  /-- Whether attributes are saved. -/
  saved : Bool
  /-- Whether the input ends after what was typed. -/
  ended : Bool
  /-- What has been asked of the terminal. -/
  calls : List TerminalCall

/-- What an event makes of the life of a terminal. -/
inductive Life.Becomes {κ : Type} (l l' : Life) : TerminalEvent κ → Prop where
  /-- The reader is started. -/
  | opens (idle : l.reading = false)
      (life_eq : l' = { l with
        reading := true, saved := true, calls := l.calls ++ [.save, .immediate] }) :
      Becomes l l' .start
  /-- A reader that runs is not started again. -/
  | runs (reading : l.reading = true) (life_eq : l' = l) : Becomes l l' .start
  /-- The reader is closed. -/
  | closes (life_eq : l' = { l with
      reading := false, saved := false,
      calls := if l.saved then l.calls ++ [.restore] else l.calls }) : Becomes l l' .close
  /-- The input ends. -/
  | finishes (life_eq : l' = { l with ended := true }) : Becomes l l' .finish
  /-- The reader comes to the end of the input. -/
  | ends (reading : l.reading = true) (ended : l.ended = true)
      (life_eq : l' = { l with reading := false }) : Becomes l l' .serve
  /-- The reader has more to come, or it does not run. -/
  | serves (goes_on : l.reading = true → l.ended = false) (life_eq : l' = l) : Becomes l l' .serve
  /-- Everything else is of no concern. -/
  | other {e : TerminalEvent κ} (not_start : e ≠ .start) (not_close : e ≠ .close)
      (not_finish : e ≠ .finish) (not_serve : e ≠ .serve) (life_eq : l' = l) : Becomes l l' e

variable {κ τ : Type}

/-- The part of a terminal that decides about its attributes. -/
def life (t : Terminal κ τ) : Life := ⟨t.isTerminal, t.reading, t.saved, t.ended, t.calls⟩

variable [Clock κ τ] [Sub τ] [LE τ] [DecidableLE τ]

/-- What an event leads to. -/
def undergo (t : Terminal κ τ) : TerminalEvent κ → Terminal κ τ
  | .act action => (action.perform t).2
  | .type data => t.type data
  | .finish => t.finish
  | .serve => t.serve.2

/-- What a history leads to. -/
def after (t : Terminal κ τ) (history : List (TerminalEvent κ)) : Terminal κ τ :=
  history.foldl undergo t

lemma life_undergo {t : Terminal κ τ} (h : t.isTerminal = true) (e : TerminalEvent κ) :
    t.life.Becomes (t.undergo e).life e := by
  cases e with
  | type data => exact .other nofun nofun nofun nofun rfl
  | finish => exact .finishes rfl
  | serve =>
    rcases hreading : t.reading with _ | _
    · have hserve : t.undergo .serve = t := by simp [undergo, serve, hreading]
      rw [hserve]
      exact .serves (by simp [life, hreading]) rfl
    · rcases hended : t.ended with _ | _
      · exact .serves (fun _ => hended) (by simp [undergo, serve, life, hreading, hended])
      · exact .ends hreading hended (by simp [undergo, serve, life, hreading, hended])
  | act action =>
    cases action with
    | start =>
      rcases hreading : t.reading with _ | _
      · exact .opens hreading
          (by simp [undergo, TerminalAction.perform, start, life, hreading, h])
      · exact .runs hreading (by simp [undergo, TerminalAction.perform, start, life, hreading])
    | close => exact .closes rfl
    | key _ | feed _ | releaseExpired | setClock _ | isReading | readLoop _ =>
      exact .other nofun nofun nofun nofun rfl

/-! ### What a history tells of a terminal -/

/-- A terminal whose reader does not run, and of which nothing is saved. -/
structure Idle (t : Terminal κ τ) : Prop where
  isTerminal : t.isTerminal = true
  reading : t.reading = false
  saved : t.saved = false

/-- The life of a terminal is what its history tells. -/
structure Told (ended : Bool) (history : List (TerminalEvent κ)) (l : Life) : Prop where
  isTerminal : l.isTerminal = true
  saved_of_reading : l.reading = true → l.saved = true
  saved_iff : l.saved = true ↔ Opened history
  ended_iff : l.ended = true ↔ ended = true ∨ .finish ∈ history
  deserted_iff : Deserted ended history ↔ l.saved = true ∧ l.reading = false

namespace Told

variable {ended : Bool} {history : List (TerminalEvent κ)} {l l' : Life} {e : TerminalEvent κ}

lemma becomes (h : Told ended history l) (hstep : l.Becomes l' e) :
    Told ended (history ++ [e]) l' := by
  obtain ⟨hterminal, hreading, hsaved, hended, hdeserted⟩ := h
  cases hstep with
  | opens idle life_eq =>
    subst life_eq
    exact ⟨hterminal, by simp, by simp [opened_concat_iff], by simp [hended],
      by simp [deserted_concat_iff]⟩
  | runs reading life_eq =>
    subst life_eq
    exact ⟨hterminal, hreading, by simp [opened_concat_iff, hreading reading], by simp [hended],
      by simp [deserted_concat_iff, reading]⟩
  | closes life_eq =>
    subst life_eq
    exact ⟨hterminal, by simp, by simp [opened_concat_iff], by simp [hended],
      by simp [deserted_concat_iff]⟩
  | finishes life_eq =>
    subst life_eq
    exact ⟨hterminal, hreading, by simp [opened_concat_iff, hsaved], by simp,
      by simp [deserted_concat_iff, hdeserted]⟩
  | ends reading ended life_eq =>
    subst life_eq
    have hsave := hreading reading
    exact ⟨hterminal, by simp, by simp [opened_concat_iff, hsaved], by simp [hended],
      by simp [deserted_concat_iff, ← hsaved, ← hended, hsave, ended]⟩
  | serves goes_on life_eq =>
    subst life_eq
    refine ⟨hterminal, hreading, by simp [opened_concat_iff, hsaved], by simp [hended], ?_⟩
    rw [deserted_concat_iff, ← hsaved, ← hended, hdeserted]
    -- a reader that does not run, though the input has ended, has deserted the terminal already
    constructor
    · rintro (⟨-, hsave, hend⟩ | ⟨-, hold⟩)
      · refine ⟨hsave, Bool.eq_false_iff.2 fun hread => ?_⟩
        exact Bool.false_ne_true ((goes_on hread).symm.trans hend)
      · exact hold
    · exact fun hold => .inr ⟨⟨nofun, nofun⟩, hold⟩
  | other not_start not_close not_finish not_serve life_eq =>
    subst life_eq
    exact ⟨hterminal, hreading, by simp [opened_concat_iff, hsaved, not_start, not_close],
      by simp [hended, Ne.symm not_finish],
      by simp [deserted_concat_iff, hdeserted, not_start, not_close, not_serve]⟩

end Told

/-! ### What is asked for -/

/-- What has been asked of a terminal that was found with attributes `a`, if it was started over
or not. -/
structure Asked {α : Type} (a : Attributes α) (anew : Prop) (saved : Bool)
    (calls : List TerminalCall) : Prop where
  inTurn_iff : InTurn calls ↔ ¬ anew
  length_mod : InTurn calls → calls.length % 3 = if saved then 2 else 0
  savesOver_iff : (Line.found a).SavesOver calls ↔ anew
  /-- What closing restores. -/
  line_eq : ∃ base, (¬ anew → base = a) ∧ (anew → base = a.immediate) ∧
    (Line.found a).after calls = if saved then .opened base else .found base

namespace Asked

variable {α : Type} {a : Attributes α} {anew : Prop} {calls : List TerminalCall}

lemma nothing (h : ¬ anew) : Asked a anew false [] where
  inTurn_iff := iff_of_true rfl h
  length_mod := fun _ => rfl
  savesOver_iff := iff_of_false not_occurs_nil h
  line_eq := ⟨a, fun _ => rfl, fun hover => absurd hover h, rfl⟩

/-- A terminal of which nothing is saved is started. -/
lemma start (h : Asked a anew false calls) : Asked a anew true (calls ++ [.save, .immediate]) := by
  have hlength : InTurn calls → calls.length % 3 = 0 := h.length_mod
  obtain ⟨base, hkept, hlost, (hline : _ = Line.found base)⟩ := h.line_eq
  refine ⟨?_, fun hnext => ?_, ?_, base, hkept, hlost, by simp [hline]⟩
  · rw [inTurn_start_iff, and_iff_left_of_imp hlength, h.inTurn_iff]
  · have hzero := ((inTurn_start_iff calls).1 hnext).2
    suffices (calls.length + 2) % 3 = 2 by simpa
    omega
  · rw [Line.savesOver_start_iff, h.savesOver_iff, hline]
    simp [Line.found]

/-- A terminal of which something is saved is started over. -/
lemma startOver {anew' : Prop} (h : Asked a anew true calls) (hover : anew') :
    Asked a anew' true (calls ++ [.save, .immediate]) := by
  have hlength : InTurn calls → calls.length % 3 = 2 := h.length_mod
  obtain ⟨base, hkept, hlost, (hline : _ = Line.opened base)⟩ := h.line_eq
  have hnext : ¬ InTurn (calls ++ [.save, .immediate]) := by
    rw [inTurn_start_iff]
    rintro ⟨hcalls, hzero⟩
    exact absurd (hzero.symm.trans (hlength hcalls)) (by decide)
  have hbase : base.immediate = a.immediate := by
    by_cases hold : anew
    · rw [hlost hold, Attributes.immediate_immediate]
    · rw [hkept hold]
  refine ⟨iff_of_false hnext (not_not_intro hover), fun h => absurd h hnext, ?_, a.immediate,
    fun hnot => absurd hover hnot, fun _ => rfl, by simp [hline, hbase]⟩
  rw [Line.savesOver_start_iff, hline]
  simp [Line.opened, hover]

/-- What was saved is restored. -/
lemma restore (h : Asked a anew true calls) : Asked a anew false (calls ++ [.restore]) := by
  have hlength : InTurn calls → calls.length % 3 = 2 := h.length_mod
  obtain ⟨base, hkept, hlost, (hline : _ = Line.opened base)⟩ := h.line_eq
  refine ⟨?_, fun hnext => ?_, ?_, base, hkept, hlost, by simp [hline]⟩
  · rw [inTurn_restore_iff, and_iff_left_of_imp hlength, h.inTurn_iff]
  · have htwo := ((inTurn_restore_iff calls).1 hnext).2
    suffices (calls.length + 1) % 3 = 0 by simpa
    omega
  · rw [Line.savesOver_restore_iff, h.savesOver_iff]

/-- What becomes of a terminal decides what is asked of it. -/
lemma becomes {κ : Type} {ended : Bool} {history : List (TerminalEvent κ)} {l l' : Life}
    {e : TerminalEvent κ} {before : List TerminalCall} (told : Told ended history l)
    (h : Asked a (StartsOver ended history) l.saved calls) (hcalls : l.calls = before ++ calls)
    (hstep : l.Becomes l' e) :
    ∃ calls', l'.calls = before ++ calls' ∧
      Asked a (StartsOver ended (history ++ [e])) l'.saved calls' := by
  -- only a start of a deserted terminal starts over, and only a reader that does not run is started
  have hover : StartsOver ended (history ++ [e]) ↔
      StartsOver ended history ∨ (e = .start ∧ l.saved = true ∧ l.reading = false) := by
    rw [StartsOver, occurs_concat_iff, told.deserted_iff]
  rw [hover]
  cases hstep with
  | opens idle life_eq =>
    subst life_eq
    refine ⟨calls ++ [.save, .immediate], by simp [hcalls], ?_⟩
    rcases hsaved : l.saved with _ | _
    · rw [hsaved] at h
      simpa using h.start
    · rw [hsaved] at h
      exact h.startOver (.inr ⟨rfl, rfl, idle⟩)
  | runs reading life_eq =>
    subst life_eq
    exact ⟨calls, hcalls, by simpa [reading] using h⟩
  | closes life_eq =>
    subst life_eq
    rcases hsaved : l.saved with _ | _
    · rw [hsaved] at h
      exact ⟨calls, by simp [hcalls], by simpa using h⟩
    · rw [hsaved] at h
      exact ⟨calls ++ [.restore], by simp [hcalls], by simpa using h.restore⟩
  | finishes life_eq | ends _ _ life_eq | serves _ life_eq =>
    subst life_eq
    exact ⟨calls, hcalls, by simpa using h⟩
  | other not_start not_close not_finish not_serve life_eq =>
    subst life_eq
    exact ⟨calls, hcalls, by simpa [not_start] using h⟩

end Asked

/-! ### Runs -/

/-- What has been asked of a terminal in the course of a history. -/
def callsSince (t : Terminal κ τ) (history : List (TerminalEvent κ)) : List TerminalCall :=
  (t.after history).calls.drop t.calls.length

lemma after_concat (t : Terminal κ τ) (history : List (TerminalEvent κ)) (e : TerminalEvent κ) :
    t.after (history ++ [e]) = (t.after history).undergo e := by
  simp [after]

namespace Idle

variable {t : Terminal κ τ}

lemma told_after (h : t.Idle) (history : List (TerminalEvent κ)) :
    Told t.ended history (t.after history).life := by
  induction history using List.reverseRecOn with
  | nil =>
    exact ⟨h.isTerminal, by simp [after, life, h.reading],
      by simp [after, life, h.saved, TerminalEvent.not_opened_nil], by simp [after, life],
      by simp [after, life, h.saved, TerminalEvent.not_deserted_nil]⟩
  | append_singleton history e ih =>
    rw [after_concat]
    exact ih.becomes (life_undergo ih.isTerminal e)

lemma asked_after {α : Type} (h : t.Idle) (a : Attributes α) (history : List (TerminalEvent κ)) :
    ∃ calls, (t.after history).calls = t.calls ++ calls ∧
      Asked a (StartsOver t.ended history) (t.after history).saved calls := by
  induction history using List.reverseRecOn with
  | nil =>
    refine ⟨[], by simp [after], ?_⟩
    have hsaved : (t.after ([] : List (TerminalEvent κ))).saved = false := h.saved
    rw [hsaved]
    exact .nothing not_occurs_nil
  | append_singleton history e ih =>
    obtain ⟨calls, hcalls, hasked⟩ := ih
    have htold := h.told_after history
    rw [after_concat]
    exact hasked.becomes htold hcalls (life_undergo htold.isTerminal e)

lemma asked_callsSince {α : Type} (h : t.Idle) (a : Attributes α)
    (history : List (TerminalEvent κ)) :
    Asked a (StartsOver t.ended history) (t.after history).saved (t.callsSince history) := by
  obtain ⟨calls, hcalls, hasked⟩ := h.asked_after a history
  rwa [callsSince, hcalls, List.drop_left]

lemma after_close (h : t.Idle) (history : List (TerminalEvent κ)) :
    (t.after (history ++ [.close])).Idle := by
  have htold := h.told_after history
  rw [after_concat]
  exact ⟨htold.isTerminal, rfl, rfl⟩

end Idle

lemma startsOver_close_iff {ended : Bool} {history : List (TerminalEvent κ)} :
    StartsOver ended (history ++ [.close]) ↔ StartsOver ended history := by
  simp [StartsOver, occurs_concat_iff]

/-- From a terminal of which nothing is saved, what is asked of it is asked in turn, and attributes
are not saved over others, exactly as long as it is not started over after its reader has ended by
itself.  Closing then leaves the terminal as it was found; otherwise it is left with every key press
available at once. -/
theorem put_back_iff_never_startedOver {α : Type} {t : Terminal κ τ} (h : t.Idle)
    (a : Attributes α) (history : List (TerminalEvent κ)) :
    (InTurn (t.callsSince history) ↔ ¬ StartsOver t.ended history) ∧
      ((Line.found a).SavesOver (t.callsSince history) ↔ StartsOver t.ended history) ∧
      (t.after (history ++ [.close])).Idle ∧
      (let left := (Line.found a).after (t.callsSince (history ++ [.close]))
      (¬ StartsOver t.ended history → left = .found a) ∧
        (StartsOver t.ended history → left = .found a.immediate) ∧
        (left.attributes.IsImmediate ↔ a.IsImmediate ∨ StartsOver t.ended history)) := by
  have hasked := h.asked_callsSince a history
  have hidle := h.after_close history
  have hclosed := h.asked_callsSince a (history ++ [.close])
  rw [startsOver_close_iff, hidle.saved] at hclosed
  obtain ⟨base, hkept, hlost, (hline : _ = Line.found base)⟩ := hclosed.line_eq
  refine ⟨hasked.inTurn_iff, hasked.savesOver_iff, hidle, fun hnot => ?_, fun hover => ?_, ?_⟩
  · rw [hline, hkept hnot]
  · rw [hline, hlost hover]
  · rw [hline]
    by_cases hover : StartsOver t.ended history
    · rw [hlost hover]
      exact iff_of_true a.isImmediate_immediate (.inr hover)
    · rw [hkept hover]
      exact (or_iff_left hover).symm

/-- The input ends, and the reader with it; the terminal is started over before it is closed. -/
theorem put_back_iff_never_startedOver_afterEnd :
    let t : Terminal (SteadyClock ℤ) ℤ :=
      { keys := ⟨Keypad.initial, 3, ⟨0, 1⟩, []⟩, isTerminal := true }
    let history : List (TerminalEvent (SteadyClock ℤ)) := [.start, .finish, .serve, .start]
    let a : Attributes Unit := ⟨true, true, 4, 0, ()⟩
    t.Idle ∧ StartsOver t.ended history ∧
      t.callsSince (history ++ [.close]) = [.save, .immediate, .save, .immediate, .restore] ∧
      ¬ InTurn (t.callsSince history) ∧
      (Line.found a).after (t.callsSince (history ++ [.close])) = .found a.immediate ∧
      a.immediate ≠ a := by
  intro t history a
  have hidle : t.Idle := ⟨rfl, rfl, rfl⟩
  have hopened : Opened ([.start, .finish] : List (TerminalEvent (SteadyClock ℤ))) :=
    .inl ⟨[], .start, [.finish], rfl, rfl, by simp⟩
  have hover : StartsOver t.ended history :=
    ⟨[.start, .finish, .serve], .start, [], rfl, rfl, [.start, .finish], [], rfl, hopened,
      .inr (by simp), by simp⟩
  obtain ⟨hturn, -, -, -, hlost, -⟩ := put_back_iff_never_startedOver hidle a history
  exact ⟨hidle, hover, rfl, fun h => hturn.1 h hover, hlost hover, by decide⟩

end Terminal

end Chip8
