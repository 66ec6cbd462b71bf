import Chip8.CommandLine.Run
import Chip8.Proofs.Afresh
import Chip8.Proofs.Rounding

/-!
# Settings that are read, and documents that are refused

A document gives settings, or it is refused.  What is refused is expected to be a bad document; the
command line then says so and ends with status 2.  Some mistakes are not expected, and escape: a
display or a sound that counts as true but is no mapping, a poll interval of which no double can be
made, and a value that is refused but cannot be written in the message, because it holds values
inside each other in more levels than the host has room for.

Reading is a row of steps, one for each part of the document, of which the first that fails decides.
So a mistake escapes only if all parts in front of it were accepted, and the argument goes part by
part: `Unforeseen` says of a row of parts that the first of them which is not accepted is refused in
a way that nobody expects, and `Reads` ties a step to its part.

The main result, `read_or_refused`, says which documents escape, and what is known of settings that
were read.
-/

namespace Chip8

/-! ### The parts of a document -/

/-- A value of which no double can be made: it is no number, text or bytes, or an integer beyond
every double. -/
def Document.HasNoDouble : Document → Prop
  | .int n => 2 ^ 1024 ≤ n.natAbs + 2 ^ 970
  | .bool _ | .real _ | .text _ | .loose _ | .bytes _ => False
  | .null | .stamp _ | .list _ | .pair _ _ | .set _ | .mapping _ | .around _ => True

/-- The fields of a section of a document. -/
def Document.sectionFields (fields : List (Document × Document)) (part : Part) :
    List (Document × Document) :=
  match field? fields part.key with
  | some (.mapping inner) => inner
  | _ => []

namespace Part

/-- The parts in the order in which they are looked at. -/
def all : List Part :=
  [display, backend, width, height, sound, enabled, policy, cpu, timer, address, seed, poll]

/-- The value of a part in a document, or in the section it belongs to. -/
def value? (fields : List (Document × Document)) (part : Part) : Option Document :=
  match part with
  | backend | width | height => Document.field? (Document.sectionFields fields display) part.key
  | enabled => Document.field? (Document.sectionFields fields sound) part.key
  | _ => Document.field? fields part.key

/-- What is accepted as the value of a part. -/
def Accepts (part : Part) (d : Document) : Prop :=
  match part with
  | display | sound => d.isTruthy = true → ∃ inner, d = .mapping inner
  | enabled => True
  | backend => ∃ name, Settings.readBackend d = .ok name
  | width | height | address => ∃ n, Settings.readInt d = .ok n
  | policy => ∃ name, Settings.readPolicy d = .ok name
  | cpu | timer => ∃ q, Settings.readFrequency d = .ok q
  | seed => ∃ n, Settings.readSeed d = .ok n
  | poll => ∃ x, Settings.readReal d = .ok x

/-- What is refused as the value of a part in a way that nobody expects, if so many levels of values
may lie inside one that is written. -/
def Unforeseen (room : ℕ) (part : Part) (d : Document) : Prop :=
  ¬ part.Accepts d ∧
    match part with
    | display | sound => True
    | poll => d.HasNoDouble
    | _ => d.unwritten? room = some .nested

end Part

namespace Settings

/-- Of a row of parts of a document the first that is not accepted is refused in a way that nobody
expects. -/
inductive Unforeseen (host : Host) (fields : List (Document × Document)) : List Part → Prop
  /-- It is the part in front. -/
  | here {part : Part} {rest : List Part} {d : Document} (hd : part.value? fields = some d)
      (h : part.Unforeseen (host.room part) d) : Unforeseen host fields (part :: rest)
  /-- The part in front is accepted, or absent. -/
  | later {part : Part} {rest : List Part}
      (haccepted : ∀ d, part.value? fields = some d → part.Accepts d)
      (h : Unforeseen host fields rest) : Unforeseen host fields (part :: rest)

section Unforeseen

variable {host : Host} {fields : List (Document × Document)} {part : Part} {rest : List Part}

lemma unforeseen_cons_iff {d : Document} (hd : part.value? fields = some d) :
    Unforeseen host fields (part :: rest) ↔
      part.Unforeseen (host.room part) d ∨ (part.Accepts d ∧ Unforeseen host fields rest) := by
  constructor
  · rintro (⟨hd', hrefused⟩ | ⟨haccepted, hrest⟩)
    · obtain rfl := Option.some.inj (hd.symm.trans hd')
      exact .inl hrefused
    · exact .inr ⟨haccepted d hd, hrest⟩
  · rintro (hrefused | ⟨haccepted, hrest⟩)
    · exact .here hd hrefused
    · refine .later (fun d' hd' => ?_) hrest
      obtain rfl := Option.some.inj (hd.symm.trans hd')
      exact haccepted

lemma unforeseen_cons_iff_of_none (hnone : part.value? fields = none) :
    Unforeseen host fields (part :: rest) ↔ Unforeseen host fields rest := by
  constructor
  · rintro (⟨hd, -⟩ | ⟨-, hrest⟩)
    · exact absurd (hnone.symm.trans hd) nofun
    · exact hrest
  · exact .later (by simp [hnone])

lemma value_nil (part : Part) : part.value? [] = none := by
  cases part with
  | _ => rfl

/-- Where all parts are absent, none is refused. -/
lemma not_unforeseen_nil (host : Host) (parts : List Part) : ¬ Unforeseen host [] parts := by
  induction parts with
  | nil => exact nofun
  | cons part rest ih => rwa [unforeseen_cons_iff_of_none (value_nil part)]

end Unforeseen

/-! ### Steps that fail in a way nobody expects -/

/-- What is read fails in a way that nobody expects. -/
def Escapes {α : Type} (r : Except SettingsError α) : Prop :=
  ∃ e, r = .error e ∧ e.isExpected = false

section Escapes

variable {α β : Type}

lemma not_escapes_ok (a : α) : ¬ Escapes (.ok a) := by
  rintro ⟨e, h, -⟩
  exact absurd h nofun

lemma escapes_error_iff (e : SettingsError) :
    Escapes (.error e : Except SettingsError α) ↔ e.isExpected = false := by
  constructor
  · rintro ⟨_, ⟨⟩, he⟩
    exact he
  · intro he
    exact ⟨e, rfl, he⟩

lemma not_escapes_error {e : SettingsError} (he : e.isExpected = true) :
    ¬ Escapes (.error e : Except SettingsError α) := by
  simp [escapes_error_iff, he]

/-! ### Reading a value -/

/-- What is read of a value has a property, or else the value is refused as a bad one.  The message
is formed from the value, unless it is one that can always be written. -/
def Proper (P : α → Prop) (d : Document) : Except SettingsError α → Prop
  | .ok a => P a
  | .error e => e.isExpected = true ∧ (e.writesValue = true ∨ ∀ room, d.unwritten? room = none)

lemma Proper.map {P : α → Prop} {d : Document} {r : Except SettingsError α} (h : Proper P d r)
    (f : α → β) : Proper (fun _ => True) d (f <$> r) := by
  cases r with
  | error e => exact h
  | ok a => trivial

/-- Whether a value is accepted does not depend on the room for its message. -/
lemma reading_eq_ok_iff {room : ℕ} {read : Document → Except SettingsError α} {d : Document}
    {a : α} : reading room read d = .ok a ↔ read d = .ok a := by
  simp only [reading]
  cases read d with
  | error e => exact iff_of_false nofun nofun
  | ok b => exact Iff.rfl

/-- A value that is refused as a bad one escapes if it is met too deep inside what is written. -/
lemma Proper.escapes_reading_iff {P : α → Prop} {d : Document}
    {read : Document → Except SettingsError α} (h : Proper P d (read d)) (room : ℕ) :
    Escapes (reading room read d) ↔
      (¬ ∃ a, read d = .ok a) ∧ d.unwritten? room = some .nested := by
  simp only [reading]
  cases hread : read d with
  | ok a => exact iff_of_false (not_escapes_ok a) (by simp)
  | error e =>
    rw [hread] at h
    obtain ⟨hexpected, hwritten⟩ := h
    refine (escapes_error_iff _).trans ?_
    rcases hwritten with hwrites | hnone
    · rcases hroom : d.unwritten? room with - | cause
      · simp [hwrites, hexpected]
      · cases cause with
        | nested => simp [hwrites, SettingsError.isExpected]
        | long => simp [hwrites, SettingsError.isExpected]
    · simp [hnone room, hexpected]

/-- What holds of the default of a part, and of everything that is read, holds of the part. -/
lemma Proper.part_ok {P : α → Prop} {read : Document → Except SettingsError α}
    (hread : ∀ d, Proper P d (read d)) {default : α} (hdefault : P default) {host : Host}
    {part : Part} {fields : List (Document × Document)} {a : α}
    (h : readPart host part fields read default = .ok a) : P a := by
  simp only [readPart, readField] at h
  split at h
  · rename_i d _
    have hproper := hread d
    rw [reading_eq_ok_iff.1 h] at hproper
    exact hproper
  · obtain rfl := Except.ok.inj h
    exact hdefault

end Escapes

/-- Every integer is accepted. -/
lemma readInt_proper (d : Document) : Proper (fun _ => True) d (readInt d) := by
  cases d with
  | int n => trivial
  | text s =>
    simp only [readInt]
    cases Numeral.readInteger s with
    | error cause => exact ⟨rfl, .inr fun _ => rfl⟩
    | ok n => trivial
  | loose ps =>
    simp only [readInt]
    cases Numeral.readInteger (Text.masked ps) with
    | error cause => exact ⟨rfl, .inr fun _ => rfl⟩
    | ok n => trivial
  | _ => exact ⟨rfl, .inl rfl⟩

/-- A frequency that is accepted is above zero, or no number at all. -/
lemma readFrequency_proper (d : Document) : Proper (fun q => ¬ q ≤ 0) d (readFrequency d) := by
  have hpositive : ∀ q : Quantity, Proper (fun q => ¬ q ≤ 0) d
      (if q ≤ 0 then .error (.frequencyNotPositive d.shown) else .ok q) := by
    intro q
    split
    · exact ⟨rfl, .inl rfl⟩
    · assumption
  cases d with
  | int n => exact hpositive (.whole n)
  | real x => exact hpositive (.real x)
  | _ => exact ⟨rfl, .inl rfl⟩

lemma readBackend_proper (d : Document) : Proper (· ∈ backends) d (readBackend d) := by
  simp only [readBackend]
  split
  · split
    · assumption
    · exact ⟨rfl, .inl rfl⟩
  · exact ⟨rfl, .inl rfl⟩

lemma readPolicy_proper (d : Document) : Proper (· ∈ policies) d (readPolicy d) := by
  simp only [readPolicy]
  split
  · assumption
  · exact ⟨rfl, .inl rfl⟩

lemma readSeed_proper (d : Document) : Proper (fun _ => True) d (readSeed d) := by
  cases d with
  | null => trivial
  | _ => exact (readInt_proper _).map some

/-! ### Reading the parts of a document -/

/-- The value of a part is read if it is accepted, and otherwise refused, in a way that nobody
expects exactly if this is unforeseen. -/
def Decides {α : Type} (room : ℕ) (part : Part) (d : Document) : Except SettingsError α → Prop
  | .ok _ => part.Accepts d
  | .error e => ¬ part.Accepts d ∧ (e.isExpected = false ↔ part.Unforeseen room d)

/-- A step reads a part of a document, which may be absent. -/
def Reads {α : Type} (host : Host) (fields : List (Document × Document)) (part : Part)
    (x : Except SettingsError α) : Prop :=
  match part.value? fields with
  | some d => Decides (host.room part) part d x
  | none => ∃ a, x = .ok a

section Reads

variable {α β : Type} {host : Host} {fields : List (Document × Document)} {part : Part}

/-- What comes behind a step speaks of the parts behind its part. -/
lemma Reads.escapes_bind_iff {x : Except SettingsError α} (h : Reads host fields part x)
    {f : α → Except SettingsError β} {rest : List Part}
    (hf : ∀ a, x = .ok a → (Escapes (f a) ↔ Unforeseen host fields rest)) :
    Escapes (x >>= f) ↔ Unforeseen host fields (part :: rest) := by
  cases hvalue : part.value? fields with
  | none =>
    simp only [Reads, hvalue] at h
    obtain ⟨a, rfl⟩ := h
    exact (hf a rfl).trans (unforeseen_cons_iff_of_none hvalue).symm
  | some d =>
    simp only [Reads, hvalue] at h
    rw [unforeseen_cons_iff hvalue]
    cases x with
    | ok a =>
      have haccepts : part.Accepts d := h
      have hforeseen : ¬ part.Unforeseen (host.room part) d := fun hrefused => hrefused.1 haccepts
      refine (hf a rfl).trans ?_
      simp [haccepts, hforeseen]
    | error e =>
      obtain ⟨hno, hunforeseen⟩ := h
      refine (escapes_error_iff e).trans ?_
      simp [hno, hunforeseen]

/-- A section is read as its fields, or it counts as true but is no mapping. -/
lemma section_fields_or_error (fields : List (Document × Document)) (part : Part) :
    match section? fields part.key with
    | .ok inner => inner = Document.sectionFields fields part ∧
        ∀ d, Document.field? fields part.key = some d → d.isTruthy = true →
          ∃ inner, d = .mapping inner
    | .error e => e.isExpected = false ∧ ∃ d, Document.field? fields part.key = some d ∧
        d.isTruthy = true ∧ ¬ ∃ inner, d = .mapping inner := by
  simp only [section?, Document.sectionFields]
  cases Document.field? fields part.key with
  | none => exact ⟨rfl, nofun⟩
  | some d =>
    cases d with
    | mapping inner => exact ⟨rfl, fun d hd _ => ⟨inner, (Option.some.inj hd).symm⟩⟩
    | _ =>
      dsimp only
      split_ifs with htruthy
      · exact ⟨rfl, _, rfl, htruthy, nofun⟩
      · refine ⟨rfl, fun d hd hd' => ?_⟩
        obtain rfl := Option.some.inj hd
        exact absurd hd' htruthy

/-- A section is refused in a way that nobody expects whenever it is refused. -/
lemma reads_section (hpart : part = .display ∨ part = .sound) :
    Reads host fields part (section? fields part.key) := by
  have hvalue : part.value? fields = Document.field? fields part.key := by
    rcases hpart with rfl | rfl
    · rfl
    · rfl
  have haccepts : part.Accepts = fun d => d.isTruthy = true → ∃ inner, d = .mapping inner := by
    rcases hpart with rfl | rfl
    · rfl
    · rfl
  have hunforeseen : ∀ room d, part.Unforeseen room d ↔ ¬ part.Accepts d := by
    rcases hpart with rfl | rfl
    · exact fun _ _ => and_iff_left trivial
    · exact fun _ _ => and_iff_left trivial
  have hfields := section_fields_or_error fields part
  simp only [Reads, hvalue]
  cases hs : section? fields part.key with
  | ok inner =>
    rw [hs] at hfields
    cases hd : Document.field? fields part.key with
    | none => exact ⟨inner, rfl⟩
    | some d =>
      show part.Accepts d
      rw [haccepts]
      exact hfields.2 d hd
  | error e =>
    rw [hs] at hfields
    obtain ⟨hescapes, d, hd, htruthy, hmapping⟩ := hfields
    have hno : ¬ part.Accepts d := by
      rw [haccepts]
      exact fun h => hmapping (h htruthy)
    rw [hd]
    exact ⟨hno, iff_of_true hescapes ((hunforeseen _ d).2 hno)⟩

/-- The fields of a section that was read are its own. -/
lemma eq_of_section_ok {inner : List (Document × Document)}
    (h : section? fields part.key = .ok inner) : inner = Document.sectionFields fields part := by
  have hfields := section_fields_or_error fields part
  rw [h] at hfields
  exact hfields.1

/-- The value of a part that is read is told by the field it stands in. -/
lemma reads_part {inner : List (Document × Document)}
    (hvalue : Document.field? inner part.key = part.value? fields)
    {read : Document → Except SettingsError α}
    (hread : ∀ d, Decides (host.room part) part d (reading (host.room part) read d)) (default : α) :
    Reads host fields part (readPart host part inner read default) := by
  simp only [Reads, readPart, readField, hvalue]
  cases part.value? fields with
  | none => exact ⟨default, rfl⟩
  | some d => exact hread d

/-- The same of a part whose values are written in the message when they are refused. -/
lemma reads_proper {inner : List (Document × Document)}
    (hvalue : Document.field? inner part.key = part.value? fields)
    {read : Document → Except SettingsError α} {P : α → Prop} (hread : ∀ d, Proper P d (read d))
    (haccepts : part.Accepts = fun d => ∃ a, read d = .ok a)
    (hunforeseen : part.Unforeseen (host.room part) = fun d =>
      ¬ part.Accepts d ∧ d.unwritten? (host.room part) = some .nested) (default : α) :
    Reads host fields part (readPart host part inner read default) := by
  refine reads_part hvalue (fun d => ?_) default
  have hescapes := (hread d).escapes_reading_iff (host.room part)
  cases hr : reading (host.room part) read d with
  | ok a =>
    show part.Accepts d
    rw [haccepts]
    exact ⟨a, reading_eq_ok_iff.1 hr⟩
  | error e =>
    rw [hr, escapes_error_iff] at hescapes
    have hno : ¬ part.Accepts d := by
      rw [haccepts]
      rintro ⟨a, ha⟩
      exact absurd (hr.symm.trans (reading_eq_ok_iff.2 ha)) nofun
    refine ⟨hno, ?_⟩
    rw [hescapes, hunforeseen, haccepts]

/-- Whether the tone is heard is always accepted. -/
lemma decides_enabled (room : ℕ) (d : Document) :
    Decides room .enabled d (reading room (fun d => pure d.isTruthy) d) := trivial

/-- A number is refused for a reason of its own, and the message is not formed from the value. -/
lemma readReal_refused {d : Document} {e : SettingsError} (h : readReal d = .error e) :
    e.writesValue = false ∧ (e.isExpected = false ↔ d.HasNoDouble) := by
  cases d with
  | int n =>
    have hbeyond : (Binary64.ofInt n).isInf = true ↔ _ := Quantity.isBeyondDouble_whole_iff n
    simp only [readReal] at h
    split at h
    · rename_i hinf
      obtain rfl := Except.error.inj h
      exact ⟨rfl, iff_of_true rfl (hbeyond.1 hinf)⟩
    · exact absurd h nofun
  | bool b => exact absurd h nofun
  | real x => exact absurd h nofun
  | text s =>
    simp only [readReal] at h
    split at h
    · exact absurd h nofun
    · obtain rfl := Except.error.inj h
      exact ⟨rfl, iff_of_false nofun id⟩
  | loose ps =>
    obtain rfl := Except.error.inj h
    exact ⟨rfl, iff_of_false nofun id⟩
  | bytes data =>
    simp only [readReal] at h
    split at h
    · split at h
      · exact absurd h nofun
      · obtain rfl := Except.error.inj h
        exact ⟨rfl, iff_of_false nofun id⟩
    · obtain rfl := Except.error.inj h
      exact ⟨rfl, iff_of_false nofun id⟩
  | _ =>
    obtain rfl := Except.error.inj h
    exact ⟨rfl, iff_of_true rfl trivial⟩

lemma decides_poll (room : ℕ) (d : Document) :
    Decides room .poll d (reading room (fun d => Quantity.real <$> readReal d) d) := by
  simp only [reading]
  cases hd : readReal d with
  | ok x =>
    show Part.poll.Accepts d
    exact ⟨x, hd⟩
  | error e =>
    obtain ⟨hplain, hexpected⟩ := readReal_refused hd
    have hno : ¬ Part.poll.Accepts d := by
      rintro ⟨x, hx⟩
      exact absurd (hd.symm.trans hx) nofun
    show Decides room .poll d (.error (if e.writesValue = true then _ else e))
    rw [hplain]
    exact ⟨hno, hexpected.trans (and_iff_right hno).symm⟩

/-- The fields of a document are read part by part. -/
lemma escapes_ofFields_iff : Escapes (ofFields fields host) ↔ Unforeseen host fields Part.all := by
  simp only [ofFields]
  refine (reads_section (.inl rfl)).escapes_bind_iff fun display hdisplay => ?_
  obtain rfl := eq_of_section_ok hdisplay
  refine (reads_proper rfl readBackend_proper rfl rfl _).escapes_bind_iff fun backend _ => ?_
  refine (reads_proper rfl readInt_proper rfl rfl _).escapes_bind_iff fun width _ => ?_
  refine (reads_proper rfl readInt_proper rfl rfl _).escapes_bind_iff fun height _ => ?_
  refine (reads_section (.inr rfl)).escapes_bind_iff fun sound hsound => ?_
  obtain rfl := eq_of_section_ok hsound
  refine (reads_part rfl (decides_enabled _) _).escapes_bind_iff fun enabled _ => ?_
  refine (reads_proper rfl readPolicy_proper rfl rfl _).escapes_bind_iff fun policy _ => ?_
  refine (reads_proper rfl readFrequency_proper rfl rfl _).escapes_bind_iff fun cpu _ => ?_
  refine (reads_proper rfl readFrequency_proper rfl rfl _).escapes_bind_iff fun timer _ => ?_
  refine (reads_proper rfl readInt_proper rfl rfl _).escapes_bind_iff fun address _ => ?_
  refine (reads_proper rfl readSeed_proper rfl rfl _).escapes_bind_iff fun seed _ => ?_
  refine (reads_part rfl (decides_poll _) _).escapes_bind_iff fun poll _ => ?_
  exact iff_of_false (not_escapes_ok _) nofun

end Reads

end Settings

/-- A document that is refused in a way that nobody expects. -/
def Document.Unforeseen (host : Host) (d : Document) : Prop :=
  ∃ fields, d = .mapping fields ∧ Settings.Unforeseen host fields Part.all

namespace Settings

lemma escapes_ofDocument_iff (d : Document) (host : Host) :
    Escapes (ofDocument d host) ↔ d.Unforeseen host := by
  simp only [Document.Unforeseen]
  cases d with
  | null =>
    refine iff_of_false (fun h => not_unforeseen_nil host _ (escapes_ofFields_iff.1 h)) ?_
    rintro ⟨fields, h, -⟩
    exact absurd h nofun
  | mapping fields =>
    refine escapes_ofFields_iff.trans ?_
    simp
  | _ =>
    refine iff_of_false (not_escapes_error rfl) ?_
    rintro ⟨fields, h, -⟩
    exact absurd h nofun

/-! ### Settings that are read -/

/-- What is known of settings that were read: both frequencies are above zero or no numbers at all,
and the names are those of a display backend and a stack policy. -/
structure Checked (s : Settings) : Prop where
  cpu : ¬ s.cpuFrequency ≤ 0
  timer : ¬ s.timerFrequency ≤ 0
  backend : s.backend ∈ backends
  policy : s.stackPolicy ∈ policies

lemma ofFields_ok {fields : List (Document × Document)} {host : Host} {s : Settings}
    (h : ofFields fields host = .ok s) : s.Checked := by
  obtain ⟨display, -, h⟩ := exists_of_bind_eq_ok h
  obtain ⟨backend, hbackend, h⟩ := exists_of_bind_eq_ok h
  obtain ⟨width, -, h⟩ := exists_of_bind_eq_ok h
  obtain ⟨height, -, h⟩ := exists_of_bind_eq_ok h
  obtain ⟨sound, -, h⟩ := exists_of_bind_eq_ok h
  obtain ⟨enabled, -, h⟩ := exists_of_bind_eq_ok h
  obtain ⟨policy, hpolicy, h⟩ := exists_of_bind_eq_ok h
  obtain ⟨cpu, hcpu, h⟩ := exists_of_bind_eq_ok h
  obtain ⟨timer, htimer, h⟩ := exists_of_bind_eq_ok h
  obtain ⟨address, -, h⟩ := exists_of_bind_eq_ok h
  obtain ⟨seed, -, h⟩ := exists_of_bind_eq_ok h
  obtain ⟨poll, -, h⟩ := exists_of_bind_eq_ok h
  obtain rfl := Except.ok.inj h
  exact
    { cpu := Proper.part_ok readFrequency_proper (by decide) hcpu
      timer := Proper.part_ok readFrequency_proper (by decide) htimer
      backend := Proper.part_ok readBackend_proper (by decide) hbackend
      policy := Proper.part_ok readPolicy_proper (by decide) hpolicy }

/-- Settings that were read are checked. -/
lemma ofDocument_ok {d : Document} {host : Host} {s : Settings} (h : ofDocument d host = .ok s) :
    s.Checked := by
  cases d with
  | null => exact ofFields_ok h
  | mapping fields => exact ofFields_ok h
  | _ => exact absurd h nofun

end Settings

/-! ### The command line -/

namespace CommandLine

variable {folder : Folder} {read : Reader} {argv : List CodePoints} {d : Document}

/-- The arguments name a settings file, and this document is read from it. -/
def Names (folder : Folder) (read : Reader) (argv : List CodePoints) (d : Document) : Prop :=
  ∃ a name, readArguments argv = .ok a ∧ a.config = .value name ∧ name ≠ [] ∧
    readSettings folder name read = .ok d

/-- A document that is refused ends the program before a system is built. -/
lemma run_of_refused (h : Names folder read argv d) {host : Host} {e : SettingsError}
    (he : Settings.ofDocument d host = .error e) (random : RandomSource) (interrupt : Option ℕ)
    (patience rounds : ℕ) :
    run folder random interrupt patience rounds argv read host = refusal e := by
  obtain ⟨a, name, hargs, hconfig, hname, hread⟩ := h
  have hresolve : resolve folder a read host = .error e := by
    simp only [resolve, hconfig, if_neg hname, hread]
    show (Settings.ofDocument d host >>= _) = _
    rw [he]
    rfl
  simp only [run, hargs, hresolve]

lemma refusal_exit_iff (e : SettingsError) :
    (refusal e).exit = .status 2 ↔ e.isExpected = true := by
  simp only [refusal]
  split
  · rename_i he
    exact iff_of_true rfl he
  · rename_i he
    exact iff_of_false nofun he

end CommandLine

/-- **A document gives settings that are checked, or it is refused.**  It is refused as a bad
document, and the command line ends with status 2, unless the first of its parts that is not
accepted is a display or a sound that counts as true but is no mapping, a poll interval of which no
double can be made, or any other value in which more values lie inside each other than the host has
room for.  How a settings file is read as a document does not matter. -/
theorem Settings.read_or_refused (host : Host) (d : Document) :
    match ofDocument d host with
    | .ok s => s.Checked ∧ ¬ d.Unforeseen host
    | .error e =>
      (e.isExpected = true ↔ ¬ d.Unforeseen host) ∧
        ∀ folder read random interrupt patience rounds argv, CommandLine.Names folder read argv d →
          ((CommandLine.run folder random interrupt patience rounds argv read host).exit =
            .status 2 ↔ ¬ d.Unforeseen host) := by
  have hescapes := escapes_ofDocument_iff d host
  rcases hd : ofDocument d host with e | s
  · rw [hd, escapes_error_iff] at hescapes
    have hexpected : e.isExpected = true ↔ ¬ d.Unforeseen host := by
      rw [← hescapes]
      simp
    refine ⟨hexpected, fun folder read random interrupt patience rounds argv hnames => ?_⟩
    rw [CommandLine.run_of_refused hnames hd, CommandLine.refusal_exit_iff]
    exact hexpected
  · rw [hd] at hescapes
    exact ⟨ofDocument_ok hd, fun h => not_escapes_ok s (hescapes.2 h)⟩

/-- For one, a seed in two lists, on a host with room for one level of values inside another. -/
example :
    Settings.ofDocument (.mapping [(.text "random_seed", .list [.list [.int 1]])])
      { room := fun _ => 1 } = .error (.unwritten .nested) := rfl

/-- A settings file in which a list stands for the display ends the command line without status. -/
theorem Settings.read_or_refused_listAsDisplay :
    let folder : CommandLine.Folder := fun _ => .ok ((Text.points "display: [1]").map UInt8.ofNat)
    let argv := ["--config", "file", "rom"].map Text.points
    ∀ random interrupt patience rounds,
      (CommandLine.run folder random interrupt patience rounds argv).exit ≠ .status 2 := by
  intro folder argv random interrupt patience rounds
  let d : Document := .mapping [(.text "display", .list [.int 1])]
  have hunforeseen : d.Unforeseen {} := by
    refine ⟨_, rfl, .here (d := .list [.int 1]) rfl ⟨fun h => ?_, trivial⟩⟩
    exact absurd (h rfl) nofun
  have hd : ofDocument d = .error (.sectionNotMapping "list") := rfl
  have hrefused := read_or_refused {} d
  rw [hd] at hrefused
  have hnames : CommandLine.Names folder Document.ofFile argv d :=
    ⟨_, Text.points "file", rfl, rfl, nofun, rfl⟩
  intro hexit
  exact (hrefused.2 folder _ random interrupt patience rounds argv hnames).1 hexit hunforeseen

end Chip8
