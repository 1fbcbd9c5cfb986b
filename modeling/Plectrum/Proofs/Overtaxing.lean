/-
  Plectrum.Proofs.Overtaxing
  ──────────────────────────
  **A spec is compiled or refused as a mistake, unless it asks for too much.**

  The numbers of a spec stand in its offset, in its displacement, and in the velocities and the
  selections of its actions.  A displacement that cannot be read is a mistake in the notation, but
  a number of too many digits in another place fails as numbers do, and a run of strings that is
  too long fails for its length.  What stands before the first such number decides whether it is
  come to at all.

  Main results:
    * `Spec.readAction_reads`, `Spec.strumGroups_reads`, `Spec.pluckGroups_reads` — what an action
      and a spec are read as, whatever their texts;
    * `Pattern.mistaken_unless_overtaxed` — when selections, displacements and patterns fail other
      than by a mistake.
-/
import Plectrum.Proofs.Plucks
import Plectrum.Proofs.SelectionGrammar

namespace Plectrum

open Text

/-! ## §1. Numbers. -/

/-- A number with more digits than can be read fails as numbers do. -/
def TooLong (digits : Text) (kind : FaultKind) : Prop := ¬ ShortDigits digits ∧ kind = .value

theorem naturalOfDigits_reads {run : Text} (digits : ∀ l ∈ run, isDigit l = true) :
    Reads (ShortDigits run) (TooLong run) (naturalOfDigits run) := by
  have short := shortDigits_run_iff digits
  refine ⟨fun sound => ⟨_, if_neg (Nat.not_lt.2 (short.1 sound))⟩, ?_, ?_⟩
  · rintro kind ⟨long, rfl⟩
    exact faultKind?_naturalOfDigits (Nat.not_le.1 (mt short.2 long))
  · by_cases sound : ShortDigits run
    · exact .inl sound
    · exact .inr (.inl ⟨.value, sound, rfl⟩)

namespace Spec

/-- A decimal is read if neither the digits before its point nor those after it are too many. -/
theorem offsetValue_reads {t whole : Text} {places? : Option Text}
    (decimal : IsDecimal t whole places?) :
    Reads (ShortDigits t) (TooLong t) (offsetValue t) := by
  obtain ⟨rfl, digits⟩ := decimal
  have stops : Stops isDigit (marked '.' places?) := stops_marked (by decide) _
  have own := (digits whole List.mem_cons_self).2
  have other : ∀ l ∈ (marked '.' places?).drop 1, isDigit l = true := by
    cases places? with
    | none => nofun
    | some places => exact (digits places (by simp)).2
  -- The point stands between two runs of digits, of which the second may be missing.
  have both : ShortDigits (whole ++ marked '.' places?) ↔
      ShortDigits whole ∧ ShortDigits ((marked '.' places?).drop 1) := by
    rw [shortDigits_marked_iff (by decide)]
    cases places? with
    | none => simp [marked, shortDigits_of_length]
    | some places => simp [marked]
  unfold offsetValue
  rw [takeWhile_run own stops, dropWhile_run own stops]
  refine ((naturalOfDigits_reads own).bind fun n _ =>
    (naturalOfDigits_reads other).bind fun m _ => .ok _).congr ?_ ?_
  · simp [both]
  · intro kind
    unfold TooLong
    rw [both]
    tauto

theorem displacementValue_reads (t : Text) :
    Reads ((readRatio? t).isSome = true) (fun _ => False) (displacementValue t) := by
  unfold displacementValue
  cases readRatio? t with
  | some q => exact (Reads.ok q).congr (by simp) fun _ => Iff.rfl
  | none => exact (Reads.mistake rfl).congr (by simp) fun _ => Iff.rfl

/-! ## §2. Actions. -/

/-- An action whose velocity can be read, and whose items are sound. -/
def SoundAction (token : Text) : Prop :=
  ∃ parts, actionParts? token = some parts ∧
    ShortDigits parts.2 ∧ ∀ item ∈ Selection.items parts.1, Selection.Sound item

/-- An action that asks for too much: with its velocity, which is read first, or with the first of
its items that is not sound. -/
def OvertaxesAction (token : Text) (kind : FaultKind) : Prop :=
  ∃ parts, actionParts? token = some parts ∧
    (TooLong parts.2 kind ∨ ShortDigits parts.2 ∧
      Halts Selection.Sound (Selection.Overtaxes · kind) (Selection.items parts.1))

theorem readAction_reads (spec token : Text) :
    Reads (SoundAction token) (OvertaxesAction token) (readAction spec token) := by
  refine .found (fun missing => ?_) fun parts found => ?_
  · unfold readAction
    rw [missing]
    rfl
  · obtain ⟨-, -, -, digits⟩ := actionParts?_some found
    unfold readAction
    rw [found]
    exact (naturalOfDigits_reads digits).bind fun velocity _ =>
      (Selection.strings_reads parts.1).map _

theorem placeActions_reads (spec : Text) (displacement offset : Rat) (tokens : List Text) :
    Reads (∀ token ∈ tokens, SoundAction token)
      (fun kind => Halts SoundAction (OvertaxesAction · kind) tokens)
      (placeActions spec displacement offset tokens) := by
  rw [placeActions_eq]
  exact (Reads.mapM fun token _ => readAction_reads spec token).map _

/-! ## §3. Specs. -/

/-- Parts that can be read: an offset, a displacement, and actions, at least one. -/
def SoundParts (parts : StrumParts) : Prop :=
  ShortDigits parts.offset ∧ (readRatio? parts.displacement).isSome = true ∧
    words parts.actions ≠ [] ∧ ∀ token ∈ words parts.actions, SoundAction token

/-- Parts that ask for too much: with the offset, or with the first action that is not sound if
the displacement can be read. -/
def OvertaxesParts (parts : StrumParts) (kind : FaultKind) : Prop :=
  TooLong parts.offset kind ∨
    ShortDigits parts.offset ∧ (readRatio? parts.displacement).isSome = true ∧
      Halts SoundAction (OvertaxesAction · kind) (words parts.actions)

/-- The parts of a spec, without the blanks around it.  A pluck has a displacement of zero. -/
def partsOf? : PatternKind → Text → Option StrumParts
  | .strum, spec => strumParts? (trim spec)
  | .pluck, spec => (pluckParts? (trim spec)).map fun parts => ⟨parts.1, "0", parts.2⟩

def SoundSpec (kind : PatternKind) (spec : Text) : Prop :=
  ∃ parts, partsOf? kind spec = some parts ∧ SoundParts parts

def OvertaxesSpec (kind : PatternKind) (spec : Text) (fault : FaultKind) : Prop :=
  ∃ parts, partsOf? kind spec = some parts ∧ OvertaxesParts parts fault

/-- What a strum spec begins with is a decimal. -/
theorem isDecimal_of_strumParts? {t : Text} {parts : StrumParts}
    (found : strumParts? t = some parts) :
    ∃ whole places?, IsDecimal parts.offset whole places? := by
  unfold strumParts? at found
  simp only [Option.bind_eq_bind, Option.bind_eq_some_iff] at found
  obtain ⟨⟨offset, rest⟩, decimal, _, -, _, -, _, -, _, -, same⟩ := found
  cases same
  exact (isDecimal_of_plainDecimal? decimal).1

/-- Parts that are found are read: first the offset, then the displacement, then the actions. -/
theorem strumGroups_of_parts {spec : Text} {parts : StrumParts}
    (found : strumParts? (trim spec) = some parts) :
    Reads (SoundParts parts) (OvertaxesParts parts) (strumGroups spec) := by
  obtain ⟨whole, places?, decimal⟩ := isDecimal_of_strumParts? found
  have offset := offsetValue_reads decimal
  have displacement := displacementValue_reads parts.displacement
  unfold strumGroups
  rw [found]
  dsimp only
  cases tokens : words parts.actions with
  | nil =>
    -- There are parts, but no action.
    refine (offset.bind fun _ _ => displacement.bind fun _ _ => .mistake rfl).congr ?_ ?_
    · simp [SoundParts, tokens]
    · simp [OvertaxesParts, tokens, Halts]
  | cons token others =>
    refine (offset.bind fun o _ => displacement.bind fun d _ =>
      placeActions_reads spec d o (token :: others)).congr ?_ ?_
    · simp [SoundParts, tokens]
    · simp [OvertaxesParts, tokens]

theorem strumGroups_reads (spec : Text) :
    Reads (SoundSpec .strum spec) (OvertaxesSpec .strum spec) (strumGroups spec) := by
  refine .found (fun missing => ?_) fun parts found => strumGroups_of_parts found
  have missing' : strumParts? (trim spec) = none := missing
  unfold strumGroups
  rw [missing']
  rfl

/-- The strum that a pluck stands for has no blanks around it. -/
theorem trim_inserted {spec read line : Text}
    (found : pluckParts? (trim spec) = some (read, line)) :
    trim (read ++ " 0 " ++ line) = read ++ " 0 " ++ line := by
  obtain ⟨⟨whole, places?, decimal⟩, ⟨gap, trimmed⟩, -, -, filled⟩ := pluckParts?_some found
  refine trim_of_stops ?_ ?_
  · obtain ⟨l, rest, rfl, digit⟩ := decimal.exists_head
    exact stops_cons (isBlank_of_isDigit digit) _
  · -- The spec ends with the same letter.
    have ends := stops_reverse_trim spec
    rw [trimmed, List.reverse_append, List.reverse_append, List.append_assoc] at ends
    rw [List.reverse_append]
    cases back : line.reverse with
    | nil => exact absurd (congrArg words (List.reverse_eq_nil_iff.1 back)) filled
    | cons d letters =>
      rw [back] at ends
      exact ends

/-- It is taken apart into the parts of the pluck. -/
theorem strumParts?_inserted {spec read line : Text}
    (found : pluckParts? (trim spec) = some (read, line)) :
    strumParts? (trim (read ++ " 0 " ++ line)) = some ⟨read, "0", line⟩ := by
  obtain ⟨⟨whole, places?, decimal⟩, -, oneLine, begins, -⟩ := pluckParts?_some found
  have parts := strumParts?_write decimal .single .zero .single oneLine
  rw [begins.dropWhile] at parts
  rw [trim_inserted found, List.append_assoc]
  exact parts

theorem pluckGroups_reads (spec : Text) :
    Reads (SoundSpec .pluck spec) (OvertaxesSpec .pluck spec) (pluckGroups spec) := by
  refine .found (fun missing => ?_) fun parts found => ?_
  · unfold pluckGroups strumOfPluck
    rw [Option.map_eq_none_iff.1 missing]
    rfl
  · obtain ⟨⟨read, line⟩, found', rfl⟩ := Option.map_eq_some_iff.1 found
    unfold pluckGroups
    rw [strumOfPluck_of_parts found']
    exact strumGroups_of_parts (strumParts?_inserted found')

theorem strumOfPluck_reads (spec : Text) :
    Reads ((partsOf? .pluck spec).isSome = true) (fun _ => False) (strumOfPluck spec) := by
  unfold strumOfPluck partsOf?
  cases found : pluckParts? (trim spec) with
  | none => exact (Reads.mistake rfl).congr (by simp [found]) fun _ => Iff.rfl
  | some parts => exact (Reads.ok _).congr (by simp [found]) fun _ => Iff.rfl

end Spec

namespace Pattern

/-! ## §4. Patterns. -/

/-- Strum specs are compiled one after the other. -/
theorem ofStrums_reads (texts : List Text) :
    Reads (∀ spec ∈ texts, Spec.SoundSpec .strum spec)
      (fun kind => Halts (Spec.SoundSpec .strum) (Spec.OvertaxesSpec .strum · kind) texts)
      (ofSpecs .strum (texts.map Datum.text)) := by
  rw [ofSpecs_strum]
  have each := Reads.mapM fun spec (_ : spec ∈ texts) => Spec.strumGroups_reads spec
  exact each.map _

/-- All pluck specs are taken apart before the first of them is compiled. -/
theorem ofPlucks_reads (texts : List Text) :
    Reads ((∀ spec ∈ texts, (Spec.partsOf? .pluck spec).isSome = true) ∧
        ∀ spec ∈ texts, Spec.SoundSpec .pluck spec)
      (fun kind => (∀ spec ∈ texts, (Spec.partsOf? .pluck spec).isSome = true) ∧
        Halts (Spec.SoundSpec .pluck) (Spec.OvertaxesSpec .pluck · kind) texts)
      (ofSpecs .pluck (texts.map Datum.text)) := by
  rw [ofSpecs_pluck]
  have apart := Reads.mapM fun spec (_ : spec ∈ texts) => Spec.strumOfPluck_reads spec
  have each := Reads.mapM fun spec (_ : spec ∈ texts) => Spec.pluckGroups_reads spec
  have rest : ∀ strums, texts.mapM Spec.strumOfPluck = .ok strums →
      Reads (∀ spec ∈ texts, Spec.SoundSpec .pluck spec)
        (fun kind => Halts (Spec.SoundSpec .pluck) (Spec.OvertaxesSpec .pluck · kind) texts)
        (ofStrums strums) := by
    intro strums walked
    -- Each strum is compiled as the pluck that it stands for.
    have same : texts.mapM Spec.pluckGroups = strums.mapM Spec.strumGroups :=
      mapM_of_mapM_ok Spec.strumGroups walked
    rw [same] at each
    exact each.map _
  exact (apart.bind rest).congr Iff.rfl fun kind => by simp [Halts]

/-- Whatever the texts are, a selection, a displacement and a pattern come about or are refused as
a mistake in the notation, unless they ask for too much: and then they fail for the first part that
does, if everything before it is sound.  A displacement never asks for too much. -/
theorem mistaken_unless_overtaxed (t : Text) (texts : List Text) :
    (∀ kind ≠ FaultKind.parse, faultKind? (Selection.strings t) = some kind ↔
      Halts Selection.Sound (Selection.Overtaxes · kind) (Selection.items t)) ∧
    (∀ kind, faultKind? (Spec.displacementValue t) = some kind → kind = .parse) ∧
    (∀ kind ≠ FaultKind.parse,
      faultKind? (ofSpecs .strum (texts.map Datum.text)) = some kind ↔
        Halts (Spec.SoundSpec .strum) (Spec.OvertaxesSpec .strum · kind) texts) ∧
    (∀ kind ≠ FaultKind.parse,
      faultKind? (ofSpecs .pluck (texts.map Datum.text)) = some kind ↔
        (∀ spec ∈ texts, (Spec.partsOf? .pluck spec).isSome = true) ∧
          Halts (Spec.SoundSpec .pluck) (Spec.OvertaxesSpec .pluck · kind) texts) := by
  refine ⟨fun kind => (Selection.strings_reads t).kind_iff, fun kind failed => ?_,
    fun kind => (ofStrums_reads texts).kind_iff, fun kind => (ofPlucks_reads texts).kind_iff⟩
  by_contra other
  exact ((Spec.displacementValue_reads t).kind_iff other).1 failed

/-! ## §5. A number of too many digits. -/

/-- A selection that is one number with too many digits fails as numbers do. -/
theorem strings_tooLong {run : Text} (digits : IsDigits run) (long : digitLimit < run.length) :
    faultKind? (Selection.strings run) = some .value := by
  have all := digits.2
  have noComma : ∀ l ∈ run, (l == .char ',') = false := by
    intro l here
    refine beq_eq_false_iff_ne.2 ?_
    rintro rfl
    exact absurd (all _ here) (by decide)
  have cut : Selection.items run = [run] := by
    rw [Selection.items_of_solid fun l here => isBlank_of_isDigit (all l here)]
    exact splitWhere_of_none noComma
  have item : Selection.IsItem run run none :=
    ⟨⟨[], .inl rfl, by simp [marked]⟩, by simpa using digits⟩
  have notShort : ¬ ShortDigits run := mt (shortDigits_run_iff all).1 (Nat.not_le.2 long)
  exact (Selection.strings_reads run).fails .value
    ⟨[], run, [], cut, List.forall_mem_nil _, .digits item notShort⟩

def longNumber : Text := List.replicate 4301 (.char '1')

/-- It is a string number as any other, and yet it is not refused as a mistake. -/
theorem longNumber_not_mistaken :
    faultKind? (Selection.strings longNumber) = some .value ∧ FaultKind.value ≠ .parse := by
  refine ⟨strings_tooLong ⟨List.cons_ne_nil _ _, fun l here => ?_⟩ ?_, by decide⟩
  · rw [(List.mem_replicate.1 here).2]
    decide
  · unfold longNumber
    rw [List.length_replicate]
    decide

end Pattern
end Plectrum
