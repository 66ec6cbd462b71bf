import Chip8.Proofs.Surface
import Mathlib.Data.List.Induction

/-!
# Frames on a console

A console passes over a frame for two reasons: nothing was drawn or cleared since the last one, or
the picture looks the same again.  The first is a mark on the surface and the second a comparison
with the frame that stands on the console, so what carries the argument is an invariant about both:
where the mark is off, the frame that stands there is the one of the picture (`Console.Shows`).

A frame is never empty, so none is mistaken for the empty text that stands for no frame at all.

The main result is `Screen.console_shows_picture`.
-/

namespace Chip8

/-- What is done to a screen. -/
inductive ScreenCall where
  /-- A sprite is drawn. -/
  | draw (x y : ℤ) (sprite : List UInt8)
  /-- Every pixel is made dark. -/
  | clear
  /-- A frame begins. -/
  | startFrame
  /-- A frame ends. -/
  | finishFrame
deriving DecidableEq, Repr

/-- The screen after a call; that a frame begins is nothing to it. -/
def Screen.perform (s : Screen) : ScreenCall → Screen
  | .draw x y sprite => (s.draw x y sprite).1
  | .clear => s.clear
  | .startFrame => s
  | .finishFrame => s.finishFrame

/-- The screen after calls. -/
def Screen.performAll (s : Screen) (calls : List ScreenCall) : Screen := calls.foldl perform s

namespace Console

/-- How frames are written: the console is cleared before the first, and every frame starts in the
upper left corner. -/
def stream : List String → List String
  | [] => []
  | first :: later => (erase ++ home ++ first) :: later.map (home ++ ·)

lemma stream_concat (frames : List String) (text : String) :
    stream (frames ++ [text]) =
      stream frames ++ [(if frames = [] then erase ++ home else home) ++ text] := by
  cases frames with
  | nil => rfl
  | cons first later =>
    rw [if_neg (List.cons_ne_nil first later)]
    simp [stream]

/-- A frame is never empty. -/
lemma frame_ne_empty (c : Console) (s : Surface) : c.frame s ≠ "" := by
  intro h
  have hlength := congrArg String.length h
  rw [frame, String.length_append] at hlength
  exact absurd hlength (Nat.succ_ne_zero _)

/-- How frames look depends on the two texts only. -/
lemma frame_congr {c c' : Console} (hon : c.onText = c'.onText) (hoff : c.offText = c'.offText)
    (s : Surface) : c.frame s = c'.frame s := by
  unfold frame rowText
  rw [hon, hoff]

/-- How a frame looks depends on the rows only. -/
lemma frame_eq_of_rows (c : Console) {s s' : Surface} (h : s.rows = s'.rows) :
    c.frame s = c.frame s' := by
  rw [frame, frame, h]

/-- Some frames have been written, and the console shows the last of them: the picture, unless it is
marked as drawn or cleared since then. -/
structure Shows (c look : Console) (frames : List String) (surface : Surface) : Prop where
  onText_eq : c.onText = look.onText
  offText_eq : c.offText = look.offText
  writes_eq : c.writes = stream frames
  started_iff : c.started = true ↔ frames ≠ []
  front_eq : c.front = frames.getLast?.getD ""
  current : surface.dirty = false → frames.getLast? = some (look.frame surface)

/-- The frames at the end of a frame that looks like this. -/
def next (frames : List String) (text : String) : List String :=
  if frames = [] ∨ frames.getLast? ≠ some text then frames ++ [text] else frames

lemma next_of_same {frames : List String} {text : String} (h : frames.getLast? = some text) :
    next frames text = frames := by
  refine if_neg (not_or.2 ⟨?_, fun hother => hother h⟩)
  rintro rfl
  exact absurd h nofun

lemma next_of_other {frames : List String} {text : String} (h : frames.getLast? ≠ some text) :
    next frames text = frames ++ [text] := if_pos (.inr h)

lemma getLast?_next (frames : List String) (text : String) :
    (next frames text).getLast? = some text := by
  by_cases h : frames.getLast? = some text
  · rw [next_of_same h, h]
  · rw [next_of_other h, List.getLast?_concat]

namespace Shows

variable {look c : Console} {frames : List String} {surface : Surface}

/-- What is drawn or cleared leaves a mark. -/
lemma redrawn (h : Shows c look frames surface) {changed : Surface}
    (hdirty : changed.dirty = true) : Shows c look frames changed :=
  { h with current := fun hclean => absurd (hdirty.symm.trans hclean) nofun }

/-- Whether the frame that stands on the console looks like this. -/
lemma front_eq_iff (h : Shows c look frames surface) {text : String} (htext : text ≠ "") :
    c.front = text ↔ frames.getLast? = some text := by
  rw [h.front_eq]
  cases frames.getLast? with
  | none => exact ⟨fun hempty => absurd hempty.symm htext, nofun⟩
  | some last => exact ⟨congrArg some, Option.some.inj⟩

lemma write (h : Shows c look frames surface) {cleaned : Surface}
    (hrows : cleaned.rows = surface.rows) :
    Shows (c.write (look.frame surface)) look (frames ++ [look.frame surface]) cleaned where
  onText_eq := h.onText_eq
  offText_eq := h.offText_eq
  writes_eq := by
    have hprefix : (if c.started then home else erase ++ home) =
        if frames = [] then erase ++ home else home := by
      by_cases hframes : frames = []
      · rw [if_pos hframes, if_neg fun hstarted => h.started_iff.1 hstarted hframes]
      · rw [if_neg hframes, if_pos (h.started_iff.2 hframes)]
    rw [stream_concat, ← hprefix, ← h.writes_eq]
    rfl
  started_iff := iff_of_true rfl (List.concat_ne_nil _ _)
  front_eq := by
    rw [List.getLast?_concat]
    rfl
  current _ := by
    rw [List.getLast?_concat, look.frame_eq_of_rows hrows]

/-- At the end of a frame, the console writes what it has to. -/
lemma finishFrame (h : Shows c look frames surface) :
    ∃ c', (Screen.finishFrame ⟨surface, some c⟩).console = some c' ∧
      Shows c' look (next frames (look.frame surface))
        (Screen.finishFrame ⟨surface, some c⟩).surface := by
  have htext : c.frame surface = look.frame surface := frame_congr h.onText_eq h.offText_eq surface
  have hfront := h.front_eq_iff (look.frame_ne_empty surface)
  have hshown : Screen.finishFrame ⟨surface, some c⟩ =
      if surface.dirty && look.frame surface != c.front then
        ⟨surface.takeDirty.1, some (c.write (look.frame surface))⟩
      else ⟨surface.takeDirty.1, some c⟩ := by
    rw [← htext]
    rfl
  by_cases hsame : frames.getLast? = some (look.frame surface)
  · -- the frame stands there already
    have hidle : ¬ (surface.dirty && look.frame surface != c.front) = true := by
      rw [hfront.2 hsame, bne_self_eq_false, Bool.and_false]
      exact Bool.false_ne_true
    rw [hshown, if_neg hidle, next_of_same hsame]
    exact ⟨c, rfl, { h with current := fun _ => hsame }⟩
  · -- then something was drawn or cleared since the last frame
    have hdirty : surface.dirty = true :=
      Bool.of_not_eq_false fun hclean => hsame (h.current hclean)
    have hother : (look.frame surface != c.front) = true :=
      bne_iff_ne.2 fun heq => hsame (hfront.1 heq.symm)
    have hbusy : (surface.dirty && look.frame surface != c.front) = true := by
      rw [hdirty, hother]
      rfl
    rw [hshown, if_pos hbusy, next_of_other hsame]
    exact ⟨_, rfl, h.write rfl⟩

end Shows

end Console

namespace Screen

variable (look : Console)

/-- The frames that are to be written once a call was made. -/
def framesAfter (frames : List String) (s : Screen) : ScreenCall → List String
  | .finishFrame => Console.next frames (look.frame s.surface)
  | .draw _ _ _ | .clear | .startFrame => frames

/-- The frames that are to be written during calls. -/
def frames (s : Screen) (calls : List ScreenCall) : List String :=
  (calls.foldl (fun shown call => (framesAfter look shown.1 shown.2 call, shown.2.perform call))
    ([], s)).1

lemma finishFrame_rows (s : Screen) : s.finishFrame.surface.rows = s.surface.rows := by
  unfold finishFrame
  split
  · rfl
  · dsimp only
    split <;> rfl

lemma performAll_concat (s : Screen) (calls : List ScreenCall) (call : ScreenCall) :
    s.performAll (calls ++ [call]) = (s.performAll calls).perform call := by
  unfold performAll
  rw [List.foldl_append]
  rfl

lemma frames_concat (s : Screen) (calls : List ScreenCall) (call : ScreenCall) :
    s.frames look (calls ++ [call]) =
      framesAfter look (s.frames look calls) (s.performAll calls) call := by
  have hscreen : ∀ shown : List String × Screen,
      (calls.foldl (fun shown call =>
        (framesAfter look shown.1 shown.2 call, shown.2.perform call)) shown).2 =
        shown.2.performAll calls := by
    unfold performAll
    induction calls with
    | nil => exact fun _ => rfl
    | cons first rest ih => exact fun shown => ih _
  unfold frames
  rw [List.foldl_append, ← hscreen ([], s)]
  rfl

variable {look}

/-- A call keeps the console right. -/
lemma shows_perform {shown : List String} {s : Screen} {c : Console} (hc : s.console = some c)
    (h : c.Shows look shown s.surface) (call : ScreenCall) :
    ∃ c', (s.perform call).console = some c' ∧
      c'.Shows look (framesAfter look shown s call) (s.perform call).surface := by
  obtain ⟨surface, console⟩ := s
  obtain rfl : console = some c := hc
  cases call with
  | draw x y sprite => exact ⟨c, rfl, h.redrawn rfl⟩
  | clear => exact ⟨c, rfl, h.redrawn rfl⟩
  | startFrame => exact ⟨c, rfl, h⟩
  | finishFrame => exact h.finishFrame

lemma shows_performAll {s : Screen} {c : Console} (hc : s.console = some c)
    (h : c.Shows look [] s.surface) (calls : List ScreenCall) :
    ∃ c', (s.performAll calls).console = some c' ∧
      c'.Shows look (s.frames look calls) (s.performAll calls).surface := by
  induction calls using List.reverseRecOn with
  | nil => exact ⟨c, hc, h⟩
  | append_singleton calls call ih =>
    obtain ⟨c', hc', h'⟩ := ih
    rw [performAll_concat, frames_concat]
    exact shows_perform hc' h' call

/-- **A console always shows the picture, and never the same frame twice in a row.**  Let a screen
be made on a console, with any positive width and height and any two texts for lit and dark pixels,
and let sprites be drawn, the screen be cleared and frames be begun and ended in any order.  Then
the writes to the console are some frames, one after another: before the first the console is
cleared, and each starts in the upper left corner.  Only the end of a frame adds to them, and adds
one frame at most: the text of the picture, if nothing has been written yet or if it differs from
the frame written last.  After every end of a frame, the frame written last is the text of the
picture. -/
theorem console_shows_picture {width height : ℤ} (hwidth : 0 < width) (hheight : 0 < height)
    (onText offText : String) :
    ∃ fresh, create width height (some { onText, offText }) = .ok fresh ∧
      ∃ frames : List ScreenCall → List String,
        let text := fun calls =>
          ({ onText, offText } : Console).frame (fresh.performAll calls).surface
        (∀ calls, ∃ c, (fresh.performAll calls).console = some c ∧
          c.writes = Console.stream (frames calls)) ∧
        frames [] = [] ∧
        (∀ calls call, call ≠ .finishFrame → frames (calls ++ [call]) = frames calls) ∧
        ∀ calls,
          frames (calls ++ [.finishFrame]) =
              (if frames calls = [] ∨ (frames calls).getLast? ≠ some (text calls) then
                frames calls ++ [text calls]
              else frames calls) ∧
            (frames (calls ++ [.finishFrame])).getLast? =
              some (text (calls ++ [.finishFrame])) := by
  let look : Console := { onText, offText }
  let fresh : Screen :=
    ⟨⟨width.toNat, height.toNat, Surface.darkRows width.toNat height.toNat, true⟩, some look⟩
  have hcreate : create width height (some look) = .ok fresh := by
    rw [create, Surface.create, if_neg (by omega)]
    rfl
  have hfresh : look.Shows look [] fresh.surface :=
    ⟨rfl, rfl, rfl, iff_of_false Bool.false_ne_true fun h => h rfl, rfl, nofun⟩
  refine ⟨fresh, hcreate, fresh.frames look, fun calls => ?_, rfl, fun calls call hcall => ?_,
    fun calls => ⟨?_, ?_⟩⟩
  · obtain ⟨c, hc, hshows⟩ := shows_performAll rfl hfresh calls
    exact ⟨c, hc, hshows.writes_eq⟩
  · rw [frames_concat]
    cases call with
    | finishFrame => exact absurd rfl hcall
    | draw | clear | startFrame => rfl
  · rw [frames_concat]
    rfl
  · have hrows : (fresh.performAll (calls ++ [.finishFrame])).surface.rows =
        (fresh.performAll calls).surface.rows := by
      rw [performAll_concat]
      exact finishFrame_rows _
    rw [frames_concat]
    exact (Console.getLast?_next _ _).trans (congrArg some (look.frame_eq_of_rows hrows.symm))

theorem console_shows_picture_twoByOne :
    let look : Console := { onText := "#", offText := "." }
    let spot : ScreenCall := .draw 1 0 [0x80]
    let calls : List ScreenCall :=
      [.startFrame, .finishFrame, spot, spot, .finishFrame, spot, .finishFrame, .finishFrame]
    ∃ fresh c, create 2 1 (some look) = .ok fresh ∧ (fresh.performAll calls).console = some c ∧
      c.writes = ["\x1b[2J\x1b[H..\n", "\x1b[H.#\n"] ∧
      ∃ frames, c.writes = Console.stream frames ∧
        frames.getLast? = some (look.frame (fresh.performAll calls).surface) := by
  intro look spot calls
  obtain ⟨fresh, hcreate, frames, hstream, -, -, hfinish⟩ :=
    @console_shows_picture 2 1 (by decide) (by decide) "#" "."
  obtain ⟨c, hc, hwrites⟩ := hstream calls
  have hfresh : fresh = ⟨⟨2, 1, Surface.darkRows 2 1, true⟩, some look⟩ :=
    (Except.ok.inj hcreate).symm
  have hwritten : (fresh.performAll calls).console.map Console.writes =
      some ["\x1b[2J\x1b[H..\n", "\x1b[H.#\n"] := by
    rw [hfresh]
    decide +kernel
  rw [hc] at hwritten
  exact ⟨fresh, c, hcreate, hc, Option.some.inj hwritten, frames calls, hwrites,
    (hfinish calls.dropLast).2⟩

end Screen

end Chip8
