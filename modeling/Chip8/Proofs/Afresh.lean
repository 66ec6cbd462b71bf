import Chip8.Proofs.Hushed
import Chip8.Proofs.Picture
import Chip8.Proofs.Policy
import Chip8.System

/-!
# A reset is a fresh start

A machine that is reset keeps its memory, its keypad and its random source, and these are all that
it keeps of its past, as far as a program or a listener can tell.  There is more that stays: what a
failed step has noted in the journal, what stands on the console, what was logged, and what was
asked of the tone before.  None of this has a part in what the machine does.  A step empties the
journal before it fetches, no instruction looks at the console, and the log and the requests to the
tone are only ever written to.

So the machine is compared without these (`bare`).  What an event does to it is seen in what it does
to the bare machine, event by event, and so along every history.
-/

namespace Chip8

lemma Tone.asked_eq (tone : Tone) (events : List ToneEvent) :
    tone.asked events =
      ⟨(Tone.asked ⟨tone.sounding, []⟩ events).sounding, tone.events ++ events⟩ := by
  induction events using List.reverseRecOn with
  | nil => simp [asked]
  | append_singleton events event ih =>
    unfold asked at ih ⊢
    simp only [List.foldl_append, List.foldl_cons, List.foldl_nil]
    rw [ih]
    cases event with
    | start => simp [start]
    | stop => simp [stop]

namespace Machine

/-! ### The console -/

/-- The machine with its screen shown on another console, or on none. -/
def shownOn (m : Machine) (console : Option Console) : Machine :=
  { m with screen := { m.screen with console } }

/-- The outcome of an operation with the screen shown on another console, or on none. -/
def outcomeOn {α : Type} (o : Outcome α) (console : Option Console) : Outcome α :=
  (o.1, o.2.shownOn console)

section Handlers

variable (m : Machine) (console : Option Console)

lemma skipIf_shownOn (condition : Bool) :
    (m.shownOn console).skipIf condition = outcomeOn (m.skipIf condition) console := by
  cases condition <;> rfl

lemma jumpNoting_shownOn (name : String) (target : ℤ) :
    (m.shownOn console).jumpNoting name target =
      outcomeOn (m.jumpNoting name target) console := by
  have hpc : (m.shownOn console).registers.pc = m.registers.pc := rfl
  unfold jumpNoting
  rw [hpc]
  by_cases hself : m.registers.pc = target
  · rw [if_pos hself, if_pos hself]
    rfl
  · rw [if_neg hself, if_neg hself]
    rfl

lemma stackFault_shownOn (fault : Fault) (warning : String) :
    (m.shownOn console).stackFault fault warning =
      outcomeOn (m.stackFault fault warning) console := by
  have hpolicy : (m.shownOn console).policy = m.policy := rfl
  unfold stackFault
  rw [hpolicy]
  cases m.policy <;> rfl

lemma ret_shownOn : (m.shownOn console).ret = outcomeOn m.ret console := by
  unfold ret
  dsimp only [shownOn]
  split
  · exact stackFault_shownOn m console _ _
  · split <;> rfl

lemma call_shownOn (target : ℤ) :
    (m.shownOn console).call target = outcomeOn (m.call target) console := by
  unfold call
  dsimp only [shownOn]
  split
  · exact stackFault_shownOn m console _ _
  · split <;> rfl

lemma drawSprite_shownOn (x y rows : ℕ) :
    (m.shownOn console).drawSprite x y rows = outcomeOn (m.drawSprite x y rows) console := by
  unfold drawSprite
  dsimp only [shownOn]
  split <;> rfl

lemma waitForKey_shownOn (x : ℕ) :
    (m.shownOn console).waitForKey x = outcomeOn (m.waitForKey x) console := by
  unfold waitForKey
  dsimp only [shownOn]
  split <;> rfl

lemma storeAtI_shownOn (values : List ℕ) :
    (m.shownOn console).storeAtI values = outcomeOn (m.storeAtI values) console := by
  unfold storeAtI
  dsimp only [shownOn]
  split <;> rfl

lemma loadFromI_shownOn (x : ℕ) :
    (m.shownOn console).loadFromI x = outcomeOn (m.loadFromI x) console := by
  unfold loadFromI
  dsimp only [shownOn]
  split <;> rfl

/-- No instruction looks at the console. -/
lemma execute_shownOn (w : Word) (op : Opcode) :
    (m.shownOn console).execute w op = outcomeOn (m.execute w op) console := by
  cases op with
  | ret => exact ret_shownOn m console
  | call => exact call_shownOn m console _
  | jp => exact jumpNoting_shownOn m console "JP" _
  | jpV0 => exact jumpNoting_shownOn m console "JP V0" _
  | seImm | sneImm | se | sne | skp | sknp => exact skipIf_shownOn m console _
  | drw => exact drawSprite_shownOn m console _ _ _
  | ldVxK => exact waitForKey_shownOn m console _
  | ldB => exact storeAtI_shownOn m console (decimalDigits (m.reg w.x))
  | ldMemVx => exact storeAtI_shownOn m console _
  | ldVxMem => exact loadFromI_shownOn m console _
  | _ => rfl

/-- No step looks at the console. -/
lemma step_shownOn : (m.shownOn console).step = outcomeOn m.step console := by
  rcases hf : m.clearJournal.fetch with ⟨e | ⟨w, op⟩, storage⟩
  · rw [step_of_unfetched hf]
    exact step_of_unfetched (m := m.shownOn console) hf
  · have hexecute := execute_shownOn { m with storage } console w op
    rcases he : { m with storage }.execute w op with ⟨e | flow, m'⟩
    · rw [he] at hexecute
      rw [step_of_failed hf he]
      exact step_of_failed (m := m.shownOn console) hf hexecute
    · rw [he] at hexecute
      rw [step_of_done hf he]
      refine (step_of_done (m := m.shownOn console) hf hexecute).trans ?_
      cases flow <;> rfl

end Handlers

/-! ### The bare machine -/

/-- The machine without what has no part in what it does: what is noted in its journal, its console,
its log and what was asked of its tone. -/
def bare (m : Machine) : Machine :=
  { m with
    storage := ⟨m.storage.memory, []⟩
    screen := { m.screen with console := none }
    tone := ⟨m.tone.sounding, []⟩
    log := #[] }

lemma bare_eq_of_hushed_eq {m m' : Machine}
    (hhushed : (m.shownOn none).hushed = (m'.shownOn none).hushed)
    (hsounding : m.tone.sounding = m'.tone.sounding) : m.bare = m'.bare := by
  have hbare : ∀ m : Machine, m.bare = { (m.shownOn none).hushed with
      storage := ⟨(m.shownOn none).hushed.storage.memory, []⟩, tone := ⟨m.tone.sounding, []⟩ } :=
    fun _ => rfl
  rw [hbare m, hbare m', hhushed, hsounding]

/-- A bare machine does the same with an event, and the tone is asked the same. -/
structure EventBare (m : Machine) (e : Event) : Prop where
  answers_eq : m.answers e = m.bare.answers e
  bare_eq : (m.undergo e).bare = (m.bare.undergo e).bare
  asked_eq : (m.undergo e).tone.events = m.tone.events ++ (m.bare.undergo e).tone.events

lemma eventBare_step (m : Machine) : EventBare m .step := by
  -- the journal is emptied before anything else, so a step begins as if it were empty
  have hcleared : (m.clearJournal.shownOn none).step = outcomeOn m.step none :=
    step_shownOn m.clearJournal none
  have hhushed : (m.clearJournal.shownOn none).hushed = m.bare.hushed := rfl
  obtain ⟨hresult, hafter⟩ := step_of_hushed_eq hhushed
  rw [hcleared] at hresult hafter
  have htone := m.step_tone
  have htone' := m.bare.step_tone
  have hconsole : m.bare.step = outcomeOn m.bare.step none := step_shownOn m.bare none
  refine ⟨?_, bare_eq_of_hushed_eq ?_ ?_, ?_⟩
  · exact congrArg (fun r => [r]) hresult
  · refine hafter.trans ?_
    exact congrArg (fun o => o.2.hushed) hconsole
  · show m.step.2.tone.sounding = m.bare.step.2.tone.sounding
    rw [htone, htone']
    rfl
  · show m.step.2.tone.events = m.tone.events ++ m.bare.step.2.tone.events
    rw [htone, htone']
    exact (List.append_nil _).symm

lemma eventBare_passSound (m : Machine) (elapsed : Quantity) :
    EventBare m (.passSound elapsed) := by
  obtain ⟨st, events, hupdate⟩ := m.registers.st.exists_asked elapsed
  have hpass : ∀ {n : Machine}, n.registers.st = m.registers.st →
      n.passSound elapsed =
        { n with registers := { n.registers with st }, tone := n.tone.asked events } := by
    intro n hst
    unfold passSound
    rw [hst, hupdate]
  have hm := hpass (n := m) rfl
  have hb := hpass (n := m.bare) rfl
  refine ⟨rfl, ?_, ?_⟩
  · show (m.passSound elapsed).bare = (m.bare.passSound elapsed).bare
    rw [hm, hb]
    show { m.bare with
        registers := { m.registers with st }, tone := ⟨(m.tone.asked events).sounding, []⟩ } =
      { m.bare with
        registers := { m.registers with st }
        tone := ⟨(Tone.asked ⟨m.tone.sounding, []⟩ events).sounding, []⟩ }
    rw [Tone.asked_eq]
  · show (m.passSound elapsed).tone.events = m.tone.events ++ (m.bare.passSound elapsed).tone.events
    rw [hm, hb]
    show (m.tone.asked events).events =
      m.tone.events ++ (Tone.asked ⟨m.tone.sounding, []⟩ events).events
    rw [Tone.asked_eq, Tone.asked_eq ⟨m.tone.sounding, []⟩, List.nil_append]

lemma loadBytes_bare (m : Machine) (address : ℤ) (program : List UInt8) :
    m.bare.loadBytes address program =
      (m.loadBytes address program).map fun p => (p.1, p.2.bare) := by
  unfold loadBytes
  dsimp only [bare, bind, Except.bind, pure, Except.pure]
  split
  · rfl
  · split
    · rfl
    · cases m.storage.memory.writeBytes address program <;> rfl

lemma event_bare (m : Machine) (e : Event) : EventBare m e := by
  cases e with
  | step => exact eventBare_step m
  | passSound elapsed => exact eventBare_passSound m elapsed
  | passDelay elapsed => exact ⟨rfl, rfl, (List.append_nil _).symm⟩
  | resetProcessor => exact ⟨rfl, rfl, rfl⟩
  | reset => exact ⟨rfl, rfl, rfl⟩
  | load address program =>
    obtain ⟨hbare, htone⟩ : m.bare.undergo (.load address program) =
        (m.undergo (.load address program)).bare ∧
          (m.undergo (.load address program)).tone = m.tone := by
      simp only [undergo, loadBytes_bare]
      rcases hload : m.loadBytes address program with e | ⟨n, m'⟩
      · exact ⟨rfl, rfl⟩
      · obtain ⟨-, -, rfl⟩ := loadBytes_ok hload
        exact ⟨rfl, rfl⟩
    refine ⟨rfl, ?_, ?_⟩
    · rw [hbare]
      rfl
    · rw [hbare, htone]
      exact (List.append_nil _).symm
  | keypad op => exact ⟨rfl, rfl, (List.append_nil _).symm⟩

/-- A bare machine does the same with a history, and the tone is asked the same. -/
structure HistoryBare (m : Machine) (history : List Event) : Prop where
  outcomes_eq : m.outcomes history = m.bare.outcomes history
  bare_eq : (m.after history).bare = (m.bare.after history).bare
  asked_eq : (m.after history).tone.events = m.tone.events ++ (m.bare.after history).tone.events

lemma history_bare (m : Machine) (history : List Event) : HistoryBare m history := by
  induction history generalizing m with
  | nil => exact ⟨rfl, rfl, (List.append_nil _).symm⟩
  | cons e rest ih =>
    obtain ⟨hanswers, hbare, hasked⟩ := event_bare m e
    have hm := ih (m.undergo e)
    have hb := ih (m.bare.undergo e)
    constructor
    · show m.answers e ++ (m.undergo e).outcomes rest =
        m.bare.answers e ++ (m.bare.undergo e).outcomes rest
      rw [hanswers, hm.outcomes_eq, hbare, hb.outcomes_eq]
    · show ((m.undergo e).after rest).bare = ((m.bare.undergo e).after rest).bare
      rw [hm.bare_eq, hbare, hb.bare_eq]
    · show ((m.undergo e).after rest).tone.events =
        m.tone.events ++ ((m.bare.undergo e).after rest).tone.events
      rw [hm.asked_eq, hasked, hbare, hb.asked_eq, List.append_assoc]

/-! ### What a machine is made with -/

/-- What a machine is made with: its stack policy, where it starts, the interval of its timers and
the width and the height of its screen. -/
abbrev Make := StackPolicy × ℤ × Quantity × ℕ × ℕ

/-- What this machine is made with. -/
def make (m : Machine) : Make :=
  (m.policy, m.origin, m.timerInterval, m.screen.surface.width, m.screen.surface.height)

/-- The machine is of this make, and its picture is a grid. -/
structure OfMake (a : Make) (m : Machine) : Prop where
  make_eq : m.make = a
  wellFormed : m.screen.surface.WellFormed

namespace OfMake

variable {a : Make} {m : Machine}

lemma withStorage (h : m.OfMake a) (storage : Storage) : OfMake a { m with storage } :=
  ⟨h.make_eq, h.wellFormed⟩

lemma clear (h : m.OfMake a) : OfMake a { m with screen := m.screen.clear } :=
  ⟨h.make_eq, h.wellFormed.clear⟩

lemma draw (h : m.OfMake a) (x y : ℤ) (sprite : List UInt8) :
    OfMake a { m with screen := (m.screen.draw x y sprite).1 } := by
  have hsize := m.screen.surface.flipAll_size false
    (Surface.hits m.screen.surface.width m.screen.surface.height x y sprite)
  refine ⟨?_, h.wellFormed.draw x y sprite⟩
  rw [← h.make_eq]
  exact congrArg₂ (fun width height => (m.policy, m.origin, m.timerInterval, width, height))
    hsize.1 hsize.2

lemma finishFrame (h : m.OfMake a) : OfMake a { m with screen := m.screen.finishFrame } := by
  have hsame : ∀ screen : Screen, screen.surface = m.screen.surface ∨
      screen.surface = { m.screen.surface with dirty := false } → OfMake a { m with screen } := by
    rintro ⟨surface, console⟩ (rfl | rfl)
    · exact ⟨h.make_eq, h.wellFormed⟩
    · exact ⟨h.make_eq, h.wellFormed.withDirty false⟩
  refine hsame _ ?_
  unfold Screen.finishFrame
  split
  · exact .inl rfl
  · dsimp only [Surface.takeDirty]
    split <;> exact .inr rfl

lemma effect {w : Word} {op : Opcode} {o : Outcome Flow} (h : m.OfMake a) (he : Effect m w op o) :
    o.2.OfMake a := by
  cases he with
  | clear => exact h.clear
  | @draw sprite _ _ hd =>
    have hdrawn := h.draw (m.reg w.x) (m.reg w.y) sprite
    rw [hd] at hdrawn
    exact ⟨hdrawn.make_eq, hdrawn.wellFormed⟩
  | _ => exact ⟨h.make_eq, h.wellFormed⟩

lemma step (h : m.OfMake a) : m.step.2.OfMake a := by
  have hs := step_ending m
  generalize m.step = o at hs
  cases hs with
  | unfetched => exact h.withStorage _
  | @failed w op storage _ _ hf he =>
    have hexecute := (h.withStorage storage).effect (execute_effect { m with storage } w op)
    rw [he] at hexecute
    exact hexecute
  | @done w op storage flow _ hf he =>
    have hexecute := (h.withStorage storage).effect (execute_effect { m with storage } w op)
    rw [he] at hexecute
    cases flow <;> exact ⟨hexecute.make_eq, hexecute.wellFormed⟩

lemma undergo (h : m.OfMake a) (e : Event) : (m.undergo e).OfMake a := by
  cases e with
  | step => exact h.step
  | reset => exact ⟨h.make_eq, h.wellFormed.clear⟩
  | load address program =>
    unfold Machine.undergo
    dsimp only
    split
    · rename_i hload
      obtain ⟨-, -, rfl⟩ := loadBytes_ok hload
      exact ⟨h.make_eq, h.wellFormed⟩
    · exact h
  | passDelay | passSound | resetProcessor | keypad => exact ⟨h.make_eq, h.wellFormed⟩

end OfMake

/-- What can happen to a machine, from within and from outside. -/
inductive Happening where
  /-- It makes a step, time passes, or what else a history lists. -/
  | event (e : Event)
  /-- It is held still. -/
  | pause
  /-- It goes on. -/
  | resume
  /-- A sprite is drawn. -/
  | draw (x y : ℤ) (sprite : List UInt8)
  /-- The screen is cleared. -/
  | clear
  /-- A frame ends. -/
  | finishFrame
  /-- The tone is asked to begin. -/
  | startTone
  /-- The tone is asked to end. -/
  | stopTone

/-- The machine after something has happened to it. -/
def meet (m : Machine) : Happening → Machine
  | .event e => m.undergo e
  | .pause => { m with paused := true }
  | .resume => { m with paused := false }
  | .draw x y sprite => { m with screen := (m.screen.draw x y sprite).1 }
  | .clear => { m with screen := m.screen.clear }
  | .finishFrame => { m with screen := m.screen.finishFrame }
  | .startTone => { m with tone := m.tone.start }
  | .stopTone => { m with tone := m.tone.stop }

/-- The machine with a past. -/
def aged (m : Machine) (past : List Happening) : Machine := past.foldl meet m

lemma OfMake.meet {a : Make} {m : Machine} (h : m.OfMake a)
    (happening : Happening) : (m.meet happening).OfMake a := by
  cases happening with
  | event e => exact h.undergo e
  | draw x y sprite => exact h.draw x y sprite
  | clear => exact h.clear
  | finishFrame => exact h.finishFrame
  | pause | resume | startTone | stopTone => exact ⟨h.make_eq, h.wellFormed⟩

lemma OfMake.aged {a : Make} {m : Machine} (h : m.OfMake a)
    (past : List Happening) : (m.aged past).OfMake a := by
  induction past generalizing m with
  | nil => exact h
  | cons happening rest ih => exact ih (h.meet happening)

/-! ### A reset and a new machine -/

/-- A machine with the memory, the keypad and the random source of another. -/
def takeOver (new m : Machine) : Machine :=
  { new with
    storage := ⟨m.storage.memory, []⟩, keypad := m.keypad, visits := m.visits, random := m.random }

/-- A machine that was just made, on a dark screen. -/
structure New (m : Machine) : Prop where
  registers_eq : m.registers = Registers.initial m.origin m.timerInterval
  unpaused : m.paused = false
  cycles_eq : m.cycles = 0
  tone_eq : m.tone = {}
  painted : m.screen.surface.Painted m.screen.surface.width m.screen.surface.height
  dark : ∀ px py, m.screen.surface.lit px py = false

namespace New

variable {new : Machine} (h : new.New) (past : List Happening)
include h

lemma aged_ofMake : (new.aged past).OfMake new.make :=
  OfMake.aged ⟨rfl, h.painted.wellFormed⟩ past

/-- A screen that is cleared is as it was when it was made, whatever was drawn on it. -/
lemma reset_surface : (new.aged past).reset.screen.surface = new.screen.surface := by
  obtain ⟨hmake, hgrid⟩ := h.aged_ofMake past
  simp only [make, Prod.mk.injEq] at hmake
  obtain ⟨-, -, -, hwidth, hheight⟩ := hmake
  refine Surface.Painted.eq_of_lit ⟨hgrid.clear, hwidth, hheight, rfl⟩ h.painted fun px py => ?_
  rw [h.dark]
  exact Surface.lit_clear _ px py

/-- Without what has no part in what it does, a machine that is reset is a new one with its memory,
its keypad and its random source. -/
lemma reset_bare : (new.aged past).reset.bare = (new.takeOver (new.aged past)).bare := by
  have hsurface := h.reset_surface past
  have hmake := (h.aged_ofMake past).make_eq
  simp only [make, Prod.mk.injEq] at hmake
  obtain ⟨hpolicy, horigin, hinterval, -, -⟩ := hmake
  generalize new.aged past = m at hsurface hpolicy horigin hinterval ⊢
  show { m with
      registers := Registers.initial m.origin m.timerInterval
      storage := ⟨m.storage.memory, []⟩, screen := ⟨m.reset.screen.surface, none⟩
      tone := ⟨false, []⟩, paused := false, cycles := 0, log := #[] } =
    { m with
      registers := new.registers
      storage := ⟨m.storage.memory, []⟩, screen := ⟨new.screen.surface, none⟩
      tone := ⟨new.tone.sounding, []⟩, paused := new.paused, cycles := new.cycles, log := #[]
      policy := new.policy, origin := new.origin, timerInterval := new.timerInterval }
  rw [hsurface, horigin, hinterval, hpolicy, h.registers_eq, h.unpaused, h.cycles_eq, h.tone_eq]

end New

end Machine

/-- What succeeds in two parts succeeds in both. -/
lemma exists_of_bind_eq_ok {η α β : Type} {x : Except η α} {f : α → Except η β} {b : β}
    (h : x >>= f = .ok b) : ∃ a, x = .ok a ∧ f a = .ok b := by
  cases x with
  | error e => exact absurd h nofun
  | ok a => exact ⟨a, rfl, h⟩

/-- A new screen is dark. -/
lemma Screen.create_dark {width height : ℤ} {console : Option Console} {screen : Screen}
    (h : Screen.create width height console = .ok screen) :
    screen.surface.Painted screen.surface.width screen.surface.height ∧
      ∀ px py, screen.surface.lit px py = false := by
  have hcreate : Surface.create width height = .ok screen.surface := by
    unfold Screen.create at h
    rcases hs : Surface.create width height with e | surface
    · rw [hs] at h
      exact absurd h nofun
    · rw [hs] at h
      obtain rfl := Except.ok.inj h
      rfl
  have hpos : 0 < width ∧ 0 < height := by
    unfold Surface.create at hcreate
    split at hcreate
    · exact absurd hcreate nofun
    · omega
  obtain ⟨w, rfl⟩ := Int.eq_ofNat_of_zero_le (Int.le_of_lt hpos.1)
  obtain ⟨n, rfl⟩ := Int.eq_ofNat_of_zero_le (Int.le_of_lt hpos.2)
  obtain ⟨s, hs, hpainted, hdark⟩ := @Surface.create_painted w n (by omega) (by omega)
  obtain rfl : s = screen.surface := Except.ok.inj (hs.symm.trans hcreate)
  exact ⟨⟨hpainted.wellFormed, rfl, rfl, hpainted.dirty⟩, hdark⟩

namespace Settings

/-- The screen of a system is a new one. -/
lemma exists_create_of_screen {c : Settings} {host : Host} {screen : Screen}
    (h : c.screen host = .ok screen) :
    ∃ console, Screen.create c.width c.height console = .ok screen := by
  have hcreate : ∀ console, (storedScreen c.width c.height console host).mapError .screen =
      (.ok screen : Except BuildError Screen) →
      Screen.create c.width c.height console = .ok screen := by
    intro console hstored
    unfold storedScreen at hstored
    split at hstored
    · exact absurd hstored nofun
    · split at hstored
      · exact absurd hstored nofun
      · rcases hs : Screen.create c.width c.height console with e | s
        · rw [hs] at hstored
          exact absurd hstored nofun
        · rw [hs] at hstored
          obtain rfl := Except.ok.inj hstored
          rfl
  unfold Settings.screen at h
  dsimp only at h
  split at h
  · exact ⟨_, hcreate _ h⟩
  · split at h
    · exact ⟨_, hcreate _ h⟩
    · exact absurd h nofun

/-- A machine that was built is new. -/
lemma build_new {c : Settings} {random : RandomSource} {host : Host} {built : System}
    (h : c.build random host = .ok built) :
    built.rig.machine.New ∧ built.rig.machine.origin = c.loadAddress := by
  obtain ⟨screen, hscreen, hon⟩ := exists_of_bind_eq_ok h
  obtain ⟨console, hcreate⟩ := exists_create_of_screen hscreen
  obtain ⟨hpainted, hdark⟩ := Screen.create_dark hcreate
  unfold buildOn at hon
  dsimp only at hon
  split at hon
  · obtain ⟨policy, -, hon⟩ := exists_of_bind_eq_ok hon
    obtain ⟨interval, -, hon⟩ := exists_of_bind_eq_ok hon
    obtain ⟨pace, -, hon⟩ := exists_of_bind_eq_ok hon
    split at hon
    · exact absurd hon nofun
    · obtain rfl := Except.ok.inj hon
      -- a line is logged or not; the log has no part in what is new
      split
      · exact ⟨⟨rfl, rfl, rfl, rfl, hpainted, hdark⟩, rfl⟩
      · exact ⟨⟨rfl, rfl, rfl, rfl, hpainted, hdark⟩, rfl⟩
  · exact absurd hon nofun

end Settings

namespace Machine

/-- **A reset is a fresh start.**  Let a machine be built from any settings on any host, and have
any past: steps and faults, time that passed, pauses, drawing, a tone that began and ended.  Once it
is reset, its registers, stack and timers, its picture and its count are those of the machine that
was built, it is not held still and its tone does not sound.  From then on it has the same snapshots
and faults, the same state and the same requests to its tone, whatever happens, as a machine that
was just built and given its memory, its keypad and its random source. -/
theorem reset_alike_built {c : Settings} {random : RandomSource} {host : Host} {built : System}
    (hbuild : c.build random host = .ok built) (past : List Happening) :
    let new := built.rig.machine
    let m := new.aged past
    let fresh := new.takeOver m
    m.reset.registers = Registers.initial c.loadAddress new.timerInterval ∧
      new.registers = Registers.initial c.loadAddress new.timerInterval ∧
      m.reset.paused = false ∧ m.reset.cycles = 0 ∧ m.reset.tone.sounding = false ∧
      m.reset.screen.surface = new.screen.surface ∧
      (∀ x y, m.reset.screen.surface.lit x y = false) ∧
      ∀ later, m.reset.outcomes later = fresh.outcomes later ∧
        (m.reset.after later).bare = (fresh.after later).bare ∧
        (m.reset.after later).tone.events =
          m.reset.tone.events ++ (fresh.after later).tone.events := by
  intro new m fresh
  obtain ⟨hnew, horigin⟩ := Settings.build_new hbuild
  have hsurface := hnew.reset_surface past
  have hbare : m.reset.bare = fresh.bare := hnew.reset_bare past
  have hregisters : new.registers = Registers.initial c.loadAddress new.timerInterval := by
    rw [hnew.registers_eq, horigin]
  have hasked : fresh.tone.events = [] := congrArg Tone.events hnew.tone_eq
  refine ⟨?_, hregisters, rfl, rfl, rfl, hsurface, ?_, fun later => ?_⟩
  · have hsame : m.reset.bare.registers = fresh.bare.registers := congrArg registers hbare
    exact hsame.trans hregisters
  · rw [hsurface]
    exact hnew.dark
  · have hm := m.reset.history_bare later
    have hf := fresh.history_bare later
    refine ⟨?_, ?_, ?_⟩
    · rw [hm.outcomes_eq, hbare, hf.outcomes_eq]
    · rw [hm.bare_eq, hbare, hf.bare_eq]
    · rw [hm.asked_eq, hbare, hf.asked_eq, hasked, List.nil_append]

/-- A past with a fault, a tone, a sprite and a pause. -/
def eventful : List Happening :=
  [.event (.load 512 [0x60, 0x05, 0xF0, 0x18, 0xFF, 0xFF]), .event .step, .event .step,
    .event (.passSound (.whole 20000000)), .draw 1 1 [0xFF], .event .step, .pause]

theorem reset_alike_built_eventful :
    let c : Settings := { backend := "null", width := 8, height := 4 }
    ∃ built, c.build (.listed [7] 0) = .ok built ∧
      let m := built.rig.machine.aged eventful
      let fresh := built.rig.machine.takeOver m
      let later := [.step, .step, .passSound (.whole 20000000)]
      m.storage.journal ≠ [] ∧ m.tone.sounding = true ∧ m.paused = true ∧
        m.screen.surface.lit 1 1 = true ∧ m.reset.screen.surface.lit 1 1 = false ∧
        m.reset.outcomes later = fresh.outcomes later ∧
        (m.reset.after later).tone.events = m.reset.tone.events ++ [.start] := by
  intro c
  have hfacts : ((c.build (.listed [7] 0)).toOption.any fun built =>
      let m := built.rig.machine.aged eventful
      let fresh := built.rig.machine.takeOver m
      !m.storage.journal.isEmpty && m.tone.sounding && m.paused && m.screen.surface.lit 1 1 &&
        (fresh.after [.step, .step, .passSound (.whole 20000000)]).tone.events == [.start]) =
      true := by
    decide +kernel
  rcases hbuild : c.build (.listed [7] 0) with e | built
  · rw [hbuild] at hfacts
    exact absurd hfacts nofun
  · rw [hbuild] at hfacts
    simp only [Except.toOption, Option.any_some, Bool.and_eq_true, beq_iff_eq,
      Bool.not_eq_true', List.isEmpty_eq_false_iff] at hfacts
    obtain ⟨⟨⟨⟨hjournal, htone⟩, hpaused⟩, hlit⟩, hstart⟩ := hfacts
    obtain ⟨-, -, -, -, -, -, hdark, halike⟩ := reset_alike_built hbuild eventful
    obtain ⟨houtcomes, -, hasked⟩ := halike [.step, .step, .passSound (.whole 20000000)]
    rw [hstart] at hasked
    exact ⟨built, rfl, hjournal, htone, hpaused, hlit, hdark 1 1, houtcomes, hasked⟩

end Machine

end Chip8
