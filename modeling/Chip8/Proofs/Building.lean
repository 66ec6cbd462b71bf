import Chip8.Proofs.Refusal

/-!
# Settings of which a system can be made

Settings that were read from a document have names and frequencies that were looked at, but the size
of the screen was not, and a frequency may be infinite or so high that its period rounds to zero.
So there may be no system of them.  Two flaws depend on the host: whether it can store the screen,
and whether it forms the line that is logged, which holds the frequency of the machine as a double.

The parts of a system are made one by one, and each is described here by one lemma: what it is if it
can be made, and otherwise why it cannot.  A part is reached only if all before it could be made,
which is why every flaw but the first says that there are none of the earlier ones.

The main result, `build_of_read`, says exactly which settings that were read give a system, what
this system is, and why the others give none.
-/

namespace Chip8

namespace Settings

variable {s : Settings} {host : Host}

/-! ### What is asked of settings -/

/-- The screen has columns and rows, not more columns than a list has places, and the host can store
it. -/
structure ScreenFits (s : Settings) (host : Host) : Prop where
  width_pos : 0 < s.width
  height_pos : 0 < s.height
  width_lt : s.width < indexLimit
  stored : host.stores s.width s.height = true

/-- There is a system of the settings. -/
structure Buildable (s : Settings) (host : Host) : Prop where
  screen : s.ScreenFits host
  timer : s.timerFrequency.HasPeriod
  /-- If the frequency is logged, then as a double. -/
  cpu : host.debug = true → s.cpuFrequency.isBeyondDouble = false

/-- What is wrong with settings of which there is no system, and how it is told. -/
inductive Flaw (s : Settings) (host : Host) : BuildError → Prop
  /-- The screen has no columns or no rows. -/
  | size (h : s.width ≤ 0 ∨ s.height ≤ 0) : Flaw s host (.screen (.misuse .screenSize))
  /-- A row of the screen has more columns than a list has places. -/
  | index (hheight : 0 < s.height) (h : indexLimit ≤ s.width) :
      Flaw s host (.screen (.misuse (.unfit .beyondIndex)))
  /-- The host cannot store the screen. -/
  | storage (hwidth : 0 < s.width) (hheight : 0 < s.height) (hindex : s.width < indexLimit)
      (h : host.stores s.width s.height = false) :
      Flaw s host (.screen (.misuse (.unfit .beyondStorage)))
  /-- The timers step infinitely often, or so often that a step takes no time. -/
  | timer (hscreen : s.ScreenFits host) (h : ¬ s.timerFrequency.HasPeriod) :
      Flaw s host .timerInterval
  /-- The frequency of the machine is logged, but it is an integer that is near no double. -/
  | cpu (hscreen : s.ScreenFits host) (htimer : s.timerFrequency.HasPeriod)
      (hdebug : host.debug = true) (h : s.cpuFrequency.isBeyondDouble = true) :
      Flaw s host (.unfit .beyondDouble)

/-- Of settings with a flaw there is no system. -/
lemma Flaw.not_buildable {e : BuildError} (h : s.Flaw host e) : ¬ s.Buildable host := by
  intro hbuildable
  have hwidth := hbuildable.screen.width_pos
  have hheight := hbuildable.screen.height_pos
  have hindex := hbuildable.screen.width_lt
  cases h with
  | size h => omega
  | index _ h => omega
  | storage _ _ _ h => exact absurd (hbuildable.screen.stored.symm.trans h) nofun
  | timer _ h => exact h hbuildable.timer
  | cpu _ _ hdebug h => exact absurd ((hbuildable.cpu hdebug).symm.trans h) nofun

/-! ### The parts of a system -/

/-- The screen has the size that was set, and is on a console if the backend is one. -/
structure ScreenOf (s : Settings) (screen : Screen) : Prop where
  width_eq : (screen.surface.width : ℤ) = s.width
  height_eq : (screen.surface.height : ℤ) = s.height
  console_eq : screen.console = if s.backend = "console" then some {} else none

lemma storedScreen_fits_or_flaw (s : Settings) (host : Host) (console : Option Console) :
    match storedScreen s.width s.height console host with
    | .ok screen => s.ScreenFits host ∧ (screen.surface.width : ℤ) = s.width ∧
        (screen.surface.height : ℤ) = s.height ∧ screen.console = console
    | .error cause => s.Flaw host (.screen cause) := by
  simp only [storedScreen]
  -- without rows no row is stored, so the limits are looked at only if there are some
  split_ifs with hindex hstorage
  · exact .index hindex.1 hindex.2
  · exact .storage hstorage.1 hstorage.2.1 (by omega) hstorage.2.2
  · by_cases hsize : s.width ≤ 0 ∨ s.height ≤ 0
    · have hcreate : Surface.create s.width s.height = .error (.misuse .screenSize) :=
        if_pos hsize
      simp only [Screen.create, hcreate]
      exact .size hsize
    · have hcreate : Surface.create s.width s.height = .ok ⟨s.width.toNat, s.height.toNat,
          Surface.darkRows s.width.toNat s.height.toNat, true⟩ := if_neg hsize
      have hfits : s.ScreenFits host :=
        { width_pos := by omega
          height_pos := by omega
          width_lt := by omega
          stored := by
            by_contra hno
            exact hstorage ⟨by omega, by omega, Bool.eq_false_of_not_eq_true hno⟩ }
      simp only [Screen.create, hcreate]
      exact ⟨hfits, Int.toNat_of_nonneg (by omega), Int.toNat_of_nonneg (by omega), rfl⟩

/-- The screen of a backend that there is. -/
lemma screen_fits_or_flaw (hbackend : s.backend ∈ backends) (host : Host) :
    match s.screen host with
    | .ok screen => s.ScreenFits host ∧ s.ScreenOf screen
    | .error e => s.Flaw host e := by
  have hscreen : s.screen host = (storedScreen s.width s.height
      (if s.backend = "console" then some {} else none) host).mapError .screen := by
    simp only [Settings.screen]
    split
    · rfl
    · rename_i hconsole
      refine if_pos ?_
      simpa [backends, hconsole] using hbackend
  have hspec := storedScreen_fits_or_flaw s host (if s.backend = "console" then some {} else none)
  rw [hscreen]
  split at hspec
  · rename_i screen hstored
    obtain ⟨hfits, hwidth, hheight, hconsole⟩ := hspec
    rw [hstored]
    exact ⟨hfits, hwidth, hheight, hconsole⟩
  · rename_i cause hstored
    rw [hstored]
    exact hspec

/-- The interval of the timers is the period of their frequency, if this is above zero. -/
lemma timerInterval_period_or_error (hpositive : ¬ s.timerFrequency ≤ 0) :
    match s.timerInterval with
    | .ok interval => s.timerFrequency.HasPeriod ∧
        ∃ p, s.timerFrequency.period = .ok p ∧ interval = .real p
    | .error e => ¬ s.timerFrequency.HasPeriod ∧ e = .timerInterval := by
  obtain ⟨p, hp, hperiod⟩ := Quantity.exists_period hpositive
  by_cases hzero : Quantity.real p ≤ 0
  · have hnone : Timer.create? (.real p) = none := if_pos hzero
    have hinterval : s.timerInterval = .error .timerInterval := by
      simp only [timerInterval, hp, Except.mapError, bind, Except.bind, hnone]
      rfl
    rw [hinterval]
    exact ⟨fun h => hperiod.2 h hzero, rfl⟩
  · have hsome : Timer.create? (.real p) = some (Timer.idle (.real p)) := if_neg hzero
    have hinterval : s.timerInterval = .ok (.real p) := by
      simp only [timerInterval, hp, Except.mapError, bind, Except.bind, hsome]
      rfl
    rw [hinterval]
    exact ⟨hperiod.1 hzero, p, hp, rfl⟩

end Settings

/-- The stack policy of a name that there is. -/
lemma StackPolicy.exists_ofName {name : String} (h : name ∈ Settings.policies) :
    ∃ policy, ofName? name = some policy := by
  simp only [Settings.policies, List.mem_cons, List.not_mem_nil, or_false] at h
  rcases h with rfl | rfl
  · exact ⟨.ignore, rfl⟩
  · exact ⟨.strict, rfl⟩

/-- The pace of a frequency above zero can be set. -/
lemma Pace.exists_create {hz : Quantity} (hpositive : ¬ hz ≤ 0) (pollInterval : Float)
    (busyWait : Bool) :
    ∃ pace, create hz pollInterval busyWait = .ok pace ∧ hz.period = .ok pace.target := by
  obtain ⟨target, htarget, -⟩ := Quantity.exists_period hpositive
  refine ⟨{ target, pollInterval := .ok pollInterval, busyWait }, ?_, htarget⟩
  simp only [create, if_neg hpositive, htarget]
  rfl

namespace Settings

variable {s : Settings} {host : Host}

/-! ### The whole system -/

/-- The system is the one that the settings ask for: on a screen of their size, its next
instruction at their load address, both timers at rest, and at their pace. -/
structure SystemOf (s : Settings) (built : System) : Prop where
  screen : s.ScreenOf built.rig.machine.screen
  pc_eq : built.rig.machine.registers.pc = s.loadAddress
  timers : ∃ p, s.timerFrequency.period = .ok p ∧
    built.rig.machine.registers.dt = Timer.idle (.real p) ∧
    built.rig.machine.registers.st = Timer.idle (.real p)
  policy_eq : StackPolicy.ofName? s.stackPolicy = some built.rig.machine.policy
  pace : s.cpuFrequency.period = .ok built.rig.pace.target

/-- The system of checked settings on a screen of theirs. -/
lemma buildOn_buildable_or_flaw (hc : s.Checked) (hfits : s.ScreenFits host) {screen : Screen}
    (hscreen : s.ScreenOf screen) (random : RandomSource) (busyWait : Bool) :
    match s.buildOn screen random busyWait host with
    | .ok built => s.Buildable host ∧ s.SystemOf built
    | .error e => s.Flaw host e := by
  -- neither the policy nor the pace can be in the way: name and frequency were checked
  obtain ⟨policy, hpolicy⟩ := StackPolicy.exists_ofName hc.policy
  obtain ⟨pace, hpace, htarget⟩ := Pace.exists_create hc.cpu s.pollInterval.toFloat busyWait
  have htimer := timerInterval_period_or_error hc.timer
  simp only [buildOn, hpolicy, hpace]
  rcases hinterval : s.timerInterval with e | interval
  · rw [hinterval] at htimer
    obtain ⟨hnone, rfl⟩ := htimer
    exact .timer hfits hnone
  · rw [hinterval] at htimer
    obtain ⟨hperiod, p, hp, rfl⟩ := htimer
    cases hbeyond : s.cpuFrequency.isBeyondDouble with
    | true =>
      cases hdebug : host.debug with
      | true => exact .cpu hfits hperiod hdebug hbeyond
      | false =>
        have hunlogged : s.Buildable host :=
          ⟨hfits, hperiod, fun h => absurd (hdebug.symm.trans h) nofun⟩
        exact ⟨hunlogged, hscreen, rfl, ⟨p, hp, rfl, rfl⟩, hpolicy, htarget⟩
    | false =>
      have hlogged : s.Buildable host := ⟨hfits, hperiod, fun _ => hbeyond⟩
      exact ⟨hlogged, hscreen, rfl, ⟨p, hp, rfl, rfl⟩, hpolicy, htarget⟩

/-- **Not all settings that are read give a system.**  They do exactly if the screen has columns and
rows and can be stored, the period of the timers is above zero, and the frequency of the machine is
near some double or not logged.  Then the system is a new one as the settings ask for; otherwise the
first of these flaws is told.  This holds on every host. -/
theorem build_of_read {d : Document} (h : ofDocument d host = .ok s) (random : RandomSource) :
    match s.build random host with
    | .ok built => s.Buildable host ∧ s.SystemOf built ∧ built.rig.machine.New
    | .error e => ¬ s.Buildable host ∧ s.Flaw host e := by
  have hc := ofDocument_ok h
  have hscreen := screen_fits_or_flaw hc.backend host
  have hbuild : s.build random host =
      s.screen host >>= fun screen => s.buildOn screen random true host := rfl
  rcases hs : s.screen host with e | screen
  · rw [hs] at hscreen
    rw [hbuild, hs]
    exact ⟨hscreen.not_buildable, hscreen⟩
  · rw [hs] at hscreen
    have hon := buildOn_buildable_or_flaw hc hscreen.1 hscreen.2 random true
    have hrest : s.build random host = s.buildOn screen random true host := by
      rw [hbuild, hs]
      rfl
    rcases hb : s.buildOn screen random true host with e | built
    · rw [hb] at hon
      rw [hrest, hb]
      exact ⟨hon.not_buildable, hon⟩
    · rw [hb] at hon
      rw [hrest, hb]
      exact ⟨hon.1, hon.2, (build_new (hrest.trans hb)).1⟩

/-- A display without columns is read, and its flaw is told when the screen is made. -/
theorem build_of_read_noColumns :
    let s : Settings := { width := 0 }
    ofDocument (.mapping [(.text "display", .mapping [(.text "width", .int 0)])]) = .ok s ∧
      ∀ random, ∃ e, s.build random = .error e ∧ s.Flaw {} e := by
  intro s
  have hread : ofDocument (.mapping [(.text "display", .mapping [(.text "width", .int 0)])]) =
      .ok s := rfl
  refine ⟨hread, fun random => ?_⟩
  have hbuilt := build_of_read hread random
  have hrefused : s.build random = .error (.screen (.misuse .screenSize)) := rfl
  rw [hrefused] at hbuilt
  exact ⟨_, hrefused, hbuilt.2⟩

end Settings

end Chip8
