/-
  Plectrum.Proofs.ClosedNames
  ───────────────────────────
  **Names resolve to numbers of MIDI, or are refused as names.**

  Notes, programs and drums are looked up in three ways: a note is taken apart, a program is a
  number in digits or a name of the list, and a drum is a name of the list.  All three take whole
  numbers too.  What is found is a number from 0 to 127, and what is not found is refused as an
  unknown name of its kind.

  Two kinds of names fail as numbers do instead.  A number that is out of range is shown when it is
  refused, and one of too many digits cannot be.  And the letters that look like digits are more
  than the letters that digits are read from: a superscript is taken for the number of a program,
  and then there is no number to read.

  Main results:
    * `Text.readInt_ok_iff_readable` — which of the texts that look like numbers can be read;
    * `GeneralMidi.resolution_closed` — what each lookup ends in, for every name and every list of
      names.
-/
import Plectrum.Proofs.Numerals
import Plectrum.Proofs.Pitches
import Plectrum.Proofs.Writable

namespace Plectrum

/-! ## §1. Reading what looks like a number. -/

namespace Text

/-- A text that is taken for a number: nothing but letters that look like digits, between blanks. -/
def LooksNumeric (t : Text) : Prop := trim t ≠ [] ∧ ∀ l ∈ trim t, isDigitLike l = true

/-- Digits that can be read: the blanks around them may surround a number, all of them are decimal,
and they are not too many. -/
structure Readable (t : Text) : Prop where
  bare : trimWhere isNumberBlank t = trim t
  decimal : ∀ l ∈ trim t, isDigit l = true
  short : (trim t).length ≤ digitLimit

/-- The blanks that may surround a number are blanks. -/
theorem trim_numberBlanks (t : Text) : trim (trimWhere isNumberBlank t) = trim t := by
  have blank : ∀ l, isNumberBlank l = true → isBlank l = true := by
    intro l here
    simp only [isNumberBlank, Bool.and_eq_true] at here
    exact here.1
  obtain ⟨before, after, whole, front, back⟩ := exists_trimmedWhere isNumberBlank t
  have kept := trim_blanks (fun l here => blank l (front l here)) (fun l here => blank l (back l here))
    (trimWhere isNumberBlank t)
  rw [← whole] at kept
  exact kept.symm

theorem isBlank_of_isDigitOrLine {l : Letter} (here : isDigitOrLine l = true) :
    isBlank l = false := by
  simp only [isDigitOrLine, Bool.or_eq_true, beq_iff_eq] at here
  rcases here with digit | rfl
  · exact isBlank_of_isDigit digit
  · decide

/-- A low line does not look like a digit, so what is both is a digit. -/
theorem isDigit_of_isDigitLike {l : Letter} (like : isDigitLike l = true)
    (here : isDigitOrLine l = true) : isDigit l = true := by
  simp only [isDigitOrLine, Bool.or_eq_true, beq_iff_eq] at here
  rcases here with digit | rfl
  · exact digit
  · exact absurd like (by decide)

/-- Nothing that looks like a digit is a sign. -/
theorem signed_of_digitLike {t : Text} (like : ∀ l ∈ t, isDigitLike l = true) :
    signed t = (false, t) := by
  unfold signed
  split
  · exact absurd (like _ List.mem_cons_self) (by decide)
  · exact absurd (like _ List.mem_cons_self) (by decide)
  · rfl

/-- A sign is no blank, so only what follows it may have blanks. -/
theorem solid_of_signed {t : Text} (solid : ∀ l ∈ (signed t).2, isBlank l = false) :
    ∀ l ∈ t, isBlank l = false := by
  unfold signed at solid
  split at solid
  · exact List.forall_mem_cons.2 ⟨by decide, solid⟩
  · exact List.forall_mem_cons.2 ⟨by decide, solid⟩
  · exact solid

/-- What the digits of a whole number are read from: what follows the sign. -/
def unsigned (t : Text) : Text := (signed (trimWhere isNumberBlank t)).2

/-- A whole number is read from digits and low lines alone, if its digits are not too many. -/
theorem readInt_ok_iff {t : Text} : (∃ n, readInt t = .ok n) ↔
    (∀ l ∈ unsigned t, isDigitOrLine l = true) ∧ isDigitRun (unsigned t) = true ∧
      ((unsigned t).filter isDigit).length ≤ digitLimit := by
  constructor
  · rintro ⟨n, read⟩
    unfold readInt at read
    obtain ⟨run, read⟩ := check_ok read
    obtain ⟨value, counted, read⟩ := bind_ok read
    obtain ⟨ended, -⟩ := check_ok read
    -- Nothing is left behind the digits, so they are all that there is.
    change ¬(!((unsigned t).dropWhile isDigitOrLine).isEmpty) = true at ended
    have all : ∀ l ∈ unsigned t, isDigitOrLine l = true :=
      List.dropWhile_eq_nil_iff.1 (by simpa using ended)
    have whole : (unsigned t).takeWhile isDigitOrLine = unsigned t :=
      List.takeWhile_eq_self_iff.2 all
    change ¬(!isDigitRun ((unsigned t).takeWhile isDigitOrLine)) = true at run
    change naturalOfDigits (((unsigned t).takeWhile isDigitOrLine).filter isDigit) = .ok value at counted
    rw [whole] at run counted
    refine ⟨all, by simpa using run, ?_⟩
    by_contra many
    unfold naturalOfDigits at counted
    rw [if_pos (Nat.lt_of_not_le many)] at counted
    cases counted
  · rintro ⟨all, run, short⟩
    have whole : (unsigned t).takeWhile isDigitOrLine = unsigned t :=
      List.takeWhile_eq_self_iff.2 all
    have none_ : (unsigned t).dropWhile isDigitOrLine = [] := List.dropWhile_eq_nil_iff.2 all
    refine ⟨applySign (signed (trimWhere isNumberBlank t)).1
      (digitsValue ((unsigned t).filter isDigit)), ?_⟩
    unfold readInt
    show (if (!isDigitRun ((unsigned t).takeWhile isDigitOrLine)) = true then _ else _ :
      Except Fault Int) = _
    rw [whole, run, if_neg (by decide)]
    show (naturalOfDigits (((unsigned t).takeWhile isDigitOrLine).filter isDigit) >>= _ :
      Except Fault Int) = _
    rw [whole, naturalOfDigits, if_neg (Nat.not_lt.2 short)]
    show (if (!((unsigned t).dropWhile isDigitOrLine).isEmpty) = true then _ else _ :
      Except Fault Int) = _
    rw [none_]
    rfl

/-- What looks like a number can be read exactly if it is readable. -/
theorem readInt_ok_iff_readable {t : Text} (looks : LooksNumeric t) :
    (∃ n, readInt t = .ok n) ↔ Readable t := by
  obtain ⟨some_, like⟩ := looks
  rw [readInt_ok_iff]
  unfold unsigned
  constructor
  · rintro ⟨all, -, short⟩
    -- Digits and signs are no blanks, so the text has no other blanks around it.
    have solid := solid_of_signed fun l here => isBlank_of_isDigitOrLine (all l here)
    have bare : trimWhere isNumberBlank t = trim t := by
      rw [← trim_numberBlanks, trim_of_none solid]
    rw [bare, signed_of_digitLike like] at all short
    have decimal : ∀ l ∈ trim t, isDigit l = true :=
      fun l here => isDigit_of_isDigitLike (like l here) (all l here)
    rw [List.filter_eq_self.2 decimal] at short
    exact ⟨bare, decimal, short⟩
  · rintro ⟨bare, decimal, short⟩
    rw [bare, signed_of_digitLike like]
    have noLine : ∀ l ∈ trim t, (l == Letter.char '_') = false := by
      intro l here
      by_contra line
      rw [Bool.not_eq_false, beq_iff_eq] at line
      exact absurd (line ▸ decimal l here) (by decide)
    refine ⟨fun l here => ?_, ?_, ?_⟩
    · simp [isDigitOrLine, decimal l here]
    · unfold isDigitRun
      rw [splitWhere_of_none noLine]
      simpa [some_] using decimal
    · rw [List.filter_eq_self.2 decimal]
      exact short

/-- Reading a whole number fails as numbers do. -/
theorem readInt_error_kind {t : Text} {f : Fault} (failed : readInt t = .error f) :
    f.kind = .value := by
  have value : ∀ g : Fault, g.family = .value → g.kind = .value := by
    intro g family
    unfold Fault.kind
    split
    · exact family
    · rfl
  apply value
  unfold readInt at failed
  dsimp only at failed
  split at failed
  · cases failed
    rfl
  · unfold naturalOfDigits at failed
    split at failed
    · cases failed
      rfl
    · change (if _ then _ else _ : Except Fault Int) = _ at failed
      split at failed
      · cases failed
        rfl
      · cases failed

end Text

/-! ## §2. Names. -/

/-- A name: a text, or a whole number, for which a truth value may stand. -/
inductive Name where
  | text (t : Text)
  | whole (n : Int)
  | truth (b : Bool)

namespace Name

/-- The name as a datum. -/
def datum : Name → Datum
  | .text t => .text t
  | .whole n => .whole n
  | .truth b => .truth b

/-- A number that has too many digits to be shown. -/
def TooLong : Name → Prop
  | .whole n => Quantity.isShort n.natAbs = false
  | _ => False

/-- A text that is taken for a number and cannot be read as one. -/
def Misspelt : Name → Prop
  | .text t => Text.LooksNumeric t ∧ ¬Text.Readable t
  | _ => False

end Name

/-- A result that is closed: a number of MIDI, or a fault of the family that is its own. -/
def Closed (own : FaultKind) : Except Fault Quantity → Prop
  | .ok q => q.IsPitch
  | .error f => f.kind = own

/-- A result that fails as a number does. -/
def FailsAsNumber {α : Type} (result : Except Fault α) : Prop :=
  ∃ f, result = .error f ∧ f.kind = .value

/-- How something resolves: the result is closed, unless a number in it is `unreadable`, and then it
fails as that number does. -/
structure Resolves {α : Type} (closed : Except Fault α → Prop) (unreadable : Prop)
    (result : Except Fault α) : Prop where
  readable : ¬unreadable → closed result
  fails : unreadable → FailsAsNumber result

/-- A number of too many digits is out of range. -/
theorem out_of_tooLong {n : Int} (long : Quantity.isShort n.natAbs = false) :
    ¬(0 ≤ n ∧ n ≤ 127) := by
  have large : 127 < tenTo Text.digitLimit := by decide +kernel
  unfold Quantity.isShort at long
  generalize tenTo Text.digitLimit = limit at large long
  rw [decide_eq_false_iff_not] at long
  omega

/-- A number out of range is refused as a name, if it can be shown. -/
theorem resolves_refused {own : FaultKind} {n : Int} {f : Fault}
    (kind : f.kind = if Quantity.isShort n.natAbs then own else .value) :
    Resolves (Closed own) (Name.whole n).TooLong (.error f) := by
  show Resolves (Closed own) (Quantity.isShort n.natAbs = false) (.error f)
  -- The limit of digits is not to be computed here.
  generalize Quantity.isShort n.natAbs = short at kind
  cases short with
  | true => exact ⟨fun _ => kind, nofun⟩
  | false => exact ⟨fun none => absurd rfl none, fun _ => ⟨f, rfl, kind⟩⟩

/-- A number in range resolves to itself. -/
theorem resolves_inRange {own : FaultKind} {n : Int} (inside : 0 ≤ n ∧ n ≤ 127) :
    Resolves (Closed own) (Name.whole n).TooLong (.ok (.whole n)) :=
  ⟨fun _ => ⟨n, rfl, inside⟩, fun long => absurd inside (out_of_tooLong long)⟩

/-- Where nothing is unreadable, a closed result is all that there is to show. -/
theorem Closed.resolves {own : FaultKind} {result : Except Fault Quantity}
    (closed : Closed own result) : Resolves (Closed own) False result := ⟨fun _ => closed, nofun⟩

namespace GeneralMidi

/-! ## §3. Lookups. -/

theorem isKey_iff {n : Int} : isKey n = true ↔ 0 ≤ n ∧ n ≤ 127 := by
  simp [isKey]

theorem pitch_resolves (name : Name) :
    Resolves (Closed .unknownNote) name.TooLong (pitch name.datum) := by
  cases name with
  | text t =>
    apply Closed.resolves
    show Closed .unknownNote (noteNamed t)
    cases named : noteNamed t with
    | ok q => exact noteNamed_isPitch t q named
    | error f =>
      unfold noteNamed at named
      split at named
      · cases named
        rfl
      · split at named
        · cases named
        · cases named
          rfl
  | whole n =>
    show Resolves (Closed .unknownNote) _
      (if isKey n then .ok (.whole n) else .error (.pitchOutOfRange (.whole n)))
    split
    · next inside => exact resolves_inRange (isKey_iff.1 inside)
    · apply resolves_refused
      unfold Fault.kind
      show (if (true && (Quantity.isShort n.natAbs && true)) = true then _ else _) = _
      simp [Fault.family]
  | truth b => cases b <;> exact Closed.resolves ⟨_, rfl, by decide, by decide⟩

theorem drum_resolves (name : Name) :
    Resolves (Closed .unknownPercussion) name.TooLong (drum name.datum) := by
  cases name with
  | text t =>
    apply Closed.resolves
    show Closed .unknownPercussion (drumNamed t)
    cases named : drumNamed t with
    | ok q => exact drumNamed_isPitch t q named
    | error f =>
      unfold drumNamed at named
      split at named
      · cases named
      · cases named
        rfl
  | whole n =>
    show Resolves (Closed .unknownPercussion) _
      (if isKey n then .ok (.whole n) else .error (.drumOutOfRange (.whole n)))
    split
    · next inside => exact resolves_inRange (isKey_iff.1 inside)
    · apply resolves_refused
      unfold Fault.kind
      show (if (true && (Quantity.isShort n.natAbs && true)) = true then _ else _) = _
      simp [Fault.family]
  | truth b => cases b <;> exact Closed.resolves ⟨_, rfl, by decide, by decide⟩

/-- The number of a program, as a number of MIDI. -/
def programKey (d : Datum) : Except Fault Quantity := Quantity.whole <$> program d

/-- A text that is not taken for a number names a program, or is refused. -/
theorem programNamed_closed {t : Text} (readable : Text.LooksNumeric t → Text.Readable t) :
    Closed .unknownInstrument (Quantity.whole <$> programNamed t) := by
  cases named : programNamed t with
  | ok n => exact ⟨n, rfl, program_bounds (.text t) n named⟩
  | error f =>
    show f.kind = .unknownInstrument
    unfold programNamed at named
    dsimp only at named
    split at named
    · next looks =>
      have numeric : Text.LooksNumeric t := by simpa [Text.LooksNumeric] using looks
      obtain ⟨n, read⟩ := (Text.readInt_ok_iff_readable numeric).2 (readable numeric)
      rw [read] at named
      change programInRange (.text t) n = _ at named
      unfold programInRange at named
      split at named
      · cases named
      · cases named
        rfl
    · split at named
      · cases named
      · cases named
        rfl

/-- A text that is taken for a number is not looked up, even if it cannot be read. -/
theorem programNamed_misspelt {t : Text} (looks : Text.LooksNumeric t)
    (unreadable : ¬Text.Readable t) : FailsAsNumber (Quantity.whole <$> programNamed t) := by
  obtain ⟨f, failed⟩ := exists_error_iff.2 (mt (Text.readInt_ok_iff_readable looks).1 unreadable)
  refine ⟨f, ?_, Text.readInt_error_kind failed⟩
  have taken : (!(Text.trim t).isEmpty && (Text.trim t).all Text.isDigitLike) = true := by
    simpa [Text.LooksNumeric] using looks
  unfold programNamed
  dsimp only
  rw [if_pos taken, failed]
  rfl

theorem program_resolves (name : Name) :
    Resolves (Closed .unknownInstrument) (name.TooLong ∨ name.Misspelt) (programKey name.datum) := by
  cases name with
  | text t =>
    constructor
    · intro readable
      apply programNamed_closed
      intro looks
      by_contra unreadable
      exact readable (.inr ⟨looks, unreadable⟩)
    · rintro (long | ⟨looks, unreadable⟩)
      · exact False.elim long
      · exact programNamed_misspelt looks unreadable
  | whole n =>
    rw [show ((Name.whole n).TooLong ∨ (Name.whole n).Misspelt) = (Name.whole n).TooLong from
      propext (or_iff_left id)]
    show Resolves _ _ (Quantity.whole <$> programInRange (.whole n) n)
    unfold programInRange
    split
    · next inside => exact resolves_inRange inside
    · apply resolves_refused
      unfold Fault.kind
      show (if (true && (Quantity.isShort n.natAbs && true)) = true then _ else _) = _
      simp [Fault.family]
  | truth b =>
    constructor
    · intro _
      cases b <;> exact ⟨_, rfl, by decide, by decide⟩
    · rintro (long | misspelt)
      · exact False.elim long
      · exact False.elim misspelt

/-! ## §4. Strings and drums. -/

/-- How one string of a tuning, or one drum, is looked up. -/
def lookUp (percussion : Bool) : Datum → Except Fault Quantity := if percussion then drum else pitch

/-- The family of names that are unknown there. -/
def unknownString (percussion : Bool) : FaultKind :=
  if percussion then .unknownPercussion else .unknownNote

theorem lookUp_resolves (percussion : Bool) (name : Name) :
    Resolves (Closed (unknownString percussion)) name.TooLong (lookUp percussion name.datum) := by
  cases percussion with
  | false => exact pitch_resolves name
  | true => exact drum_resolves name

/-- The result of a list of names: a number of MIDI for each, and at least one; or a mistake in the
settings. -/
def ClosedAll (names : List Name) : Except Fault (List Quantity) → Prop
  | .ok roots => roots ≠ [] ∧ roots.length = names.length ∧ ∀ root ∈ roots, root.IsPitch
  | .error f => f.kind.isConfiguration = true

/-- The first name that does not resolve is a number of too many digits. -/
def StopsTooLong (percussion : Bool) (names : List Name) : Prop :=
  ∃ before name after, names = before ++ name :: after ∧
    (∀ b ∈ before, ∃ q, lookUp percussion b.datum = .ok q) ∧ name.TooLong

/-- Strings are looked up one after the other, and there has to be one. -/
theorem rootsOf_list (percussion : Bool) (names : List Name) :
    rootsOf percussion (.list (names.map Name.datum)) =
      ((names.map Name.datum).mapM (lookUp percussion) >>= fun pitches =>
        if pitches.isEmpty then .error .noStrings else .ok pitches) := by
  unfold rootsOf namesOf
  show ((names.map Name.datum).mapM (lookUp percussion) >>= _) = _
  apply bind_congr
  intro pitches
  split <;> rfl

/-- Names are looked up until one of them fails. -/
theorem lookUps_error_iff {percussion : Bool} {names : List Name} {f : Fault} :
    (names.map Name.datum).mapM (lookUp percussion) = .error f ↔
      ∃ before name after, names = before ++ name :: after ∧
        (∀ b ∈ before, ∃ q, lookUp percussion b.datum = .ok q) ∧
        lookUp percussion name.datum = .error f := by
  rw [mapM_eq_error_iff]
  constructor
  · rintro ⟨_, _, _, same, well, failed⟩
    obtain ⟨before, rest, rfl, rfl, tail⟩ := List.map_eq_append_iff.1 same
    obtain ⟨name, after, rfl, rfl, -⟩ := List.map_eq_cons_iff.1 tail
    exact ⟨before, name, after, rfl, fun b here => well _ (List.mem_map_of_mem here), failed⟩
  · rintro ⟨before, name, after, rfl, well, failed⟩
    refine ⟨before.map Name.datum, name.datum, after.map Name.datum, ?_, ?_, failed⟩
    · simp
    · simpa using well

/-- Where names resolve, there are as many strings, and some, with numbers of MIDI. -/
theorem closedAll_of_ok {percussion : Bool} {names : List Name} {roots : List Quantity}
    (resolved : rootsOf percussion (.list (names.map Name.datum)) = .ok roots) :
    ClosedAll names (.ok roots) := by
  have known := rootsOf_pitches percussion _ roots resolved
  rw [rootsOf_list] at resolved
  obtain ⟨pitches, walked, resolved⟩ := bind_ok resolved
  split at resolved
  · cases resolved
  · next some_ =>
    cases resolved
    have length := (mapM_ok_iff_forall₂.1 walked).length_eq
    rw [List.length_map] at length
    exact ⟨by simpa using some_, length.symm, known⟩

/-- Where they do not, there are none, or the first that does not decides. -/
theorem rootsOf_error {percussion : Bool} {names : List Name} {f : Fault}
    (failed : rootsOf percussion (.list (names.map Name.datum)) = .error f) :
    f = .noStrings ∨ (names.map Name.datum).mapM (lookUp percussion) = .error f := by
  rw [rootsOf_list] at failed
  cases walked : (names.map Name.datum).mapM (lookUp percussion) with
  | error g =>
    rw [walked] at failed
    cases failed
    exact .inr rfl
  | ok pitches =>
    rw [walked] at failed
    change (if _ then _ else _ : Except Fault (List Quantity)) = _ at failed
    split at failed
    · cases failed
      exact .inl rfl
    · cases failed

theorem isConfiguration_unknownString (percussion : Bool) :
    (unknownString percussion).isConfiguration = true := by
  cases percussion <;> rfl

/-- A list of names is closed, unless a number of too many digits stops it. -/
theorem rootsOf_resolves (percussion : Bool) (names : List Name) :
    Resolves (ClosedAll names) (StopsTooLong percussion names)
      (rootsOf percussion (.list (names.map Name.datum))) := by
  constructor
  · intro readable
    cases resolved : rootsOf percussion (.list (names.map Name.datum)) with
    | ok roots => exact closedAll_of_ok resolved
    | error f =>
      show f.kind.isConfiguration = true
      rcases rootsOf_error resolved with rfl | walked
      · rfl
      · obtain ⟨before, name, after, rfl, well, failed⟩ := lookUps_error_iff.1 walked
        -- The name that stops the walk is not too long, so it is unknown.
        have short : ¬name.TooLong := fun long => readable ⟨before, name, after, rfl, well, long⟩
        have closed := (lookUp_resolves percussion name).readable short
        rw [failed] at closed
        change f.kind = unknownString percussion at closed
        rw [closed]
        exact isConfiguration_unknownString percussion
  · rintro ⟨before, name, after, rfl, well, long⟩
    obtain ⟨f, failed, kind⟩ := (lookUp_resolves percussion name).fails long
    have walked := lookUps_error_iff.2 ⟨before, name, after, rfl, well, failed⟩
    refine ⟨f, ?_, kind⟩
    rw [rootsOf_list, walked]
    rfl

/-- Every name resolves to a number of MIDI or is refused as an unknown name of its kind, and every
list of names for strings or drums resolves to one number for each, or is refused as a mistake in
the settings.  The only names that are not are whole numbers of too many digits, and for programs
texts that look like numbers and cannot be read; these fail as numbers do, each of them. -/
theorem resolution_closed (name : Name) (percussion : Bool) (names : List Name) :
    Resolves (Closed .unknownNote) name.TooLong (pitch name.datum) ∧
      Resolves (Closed .unknownInstrument) (name.TooLong ∨ name.Misspelt)
        (programKey name.datum) ∧
      Resolves (Closed .unknownPercussion) name.TooLong (drum name.datum) ∧
      Resolves (ClosedAll names) (StopsTooLong percussion names)
        (rootsOf percussion (.list (names.map Name.datum))) :=
  ⟨pitch_resolves name, program_resolves name, drum_resolves name,
    rootsOf_resolves percussion names⟩

/-- A superscript looks like a digit, and no number is read from it. -/
theorem superscript_not_closed : ¬Closed .unknownInstrument (programKey (.text "²")) := by
  have seen : faultKind? (programKey (.text "²")) = some .value := by decide +kernel
  obtain ⟨f, failed, kind⟩ := exists_error_of_kind seen
  rw [failed]
  show ¬f.kind = .unknownInstrument
  rw [kind]
  decide

end GeneralMidi
end Plectrum
