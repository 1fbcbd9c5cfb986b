/-
  Plectrum.Proofs.Strums
  ──────────────────────
  **What a strum spec means.**

  A `StrumText` is a strum spec as it is written: an offset, a displacement and a line of actions,
  with blanks between them.  It means groups of strokes: one for each action without a
  displacement, and otherwise one for each stroke of the whole spec, of which the `k`-th comes `k`
  displacements after the offset.

  Main results:
    * `ActionLine.words_write` — the words of a line are its actions;
    * `Spec.placeActions_write` — where the strokes of a line of actions go;
    * `Pattern.ofSpecs_strums` — written specs are compiled to what they mean.
-/
import Plectrum.Proofs.Displacements
import Plectrum.Proofs.Outcomes
import Plectrum.Proofs.Selections

namespace Plectrum

open Text

/-! ## §1. Blanks and lines. -/

/-- Blanks between two parts of a spec, at least one. -/
structure Gap where
  letters : Text
  some : letters ≠ []
  blank : ∀ l ∈ letters, isBlank l = true

theorem Gap.exists_head (gap : Gap) : ∃ l rest, gap.letters = l :: rest ∧ isBlank l = true := by
  cases letters : gap.letters with
  | nil => exact absurd letters gap.some
  | cons l rest => exact ⟨l, rest, rfl, gap.blank l (letters ▸ List.mem_cons_self)⟩

/-- A number ends at blanks. -/
theorem Gap.ends (gap : Gap) (rest : Text) : Spec.Ends (gap.letters ++ rest) := by
  obtain ⟨l, letters, same, blank⟩ := gap.exists_head
  rw [same]
  exact .of_blank blank _

/-- One blank. -/
def Gap.single : Gap := ⟨" ", by decide, by decide⟩

/-- Actions on one line, with blanks between them. -/
structure ActionLine where
  first : ActionText
  rest : List (Gap × ActionText)
  oneLine : ∀ p ∈ rest, Letter.char '\n' ∉ p.1.letters

namespace ActionLine

def actions (line : ActionLine) : List ActionText := line.first :: line.rest.map Prod.snd

/-- An action with others after it. -/
def writeOn (first : ActionText) (rest : List (Gap × ActionText)) : Text :=
  first.write ++ rest.flatMap fun p => p.1.letters ++ p.2.write

def write (line : ActionLine) : Text := writeOn line.first line.rest

theorem writeOn_cons (first next : ActionText) (gap : Gap) (rest : List (Gap × ActionText)) :
    writeOn first ((gap, next) :: rest) = first.write ++ (gap.letters ++ writeOn next rest) := by
  simp [writeOn]

theorem words_writeOn (first : ActionText) (rest : List (Gap × ActionText)) :
    words (writeOn first rest) = first.write :: rest.map (·.2.write) := by
  have alone := words_of_none first.write_ne_nil first.solid
  induction rest generalizing first with
  | nil =>
    show words (first.write ++ []) = _
    rw [List.append_nil, alone]
    rfl
  | cons p rest ih =>
    obtain ⟨gap, next⟩ := p
    obtain ⟨l, letters, same, blank⟩ := gap.exists_head
    have blanks : ∀ d ∈ letters, isBlank d = true :=
      fun d here => gap.blank d (same ▸ List.mem_cons_of_mem _ here)
    rw [writeOn_cons, same, List.cons_append, words_append blank, alone, words_blanks blanks,
      ih next (words_of_none next.write_ne_nil next.solid)]
    rfl

/-- The words of a line are its actions. -/
theorem words_write (line : ActionLine) : words line.write = line.actions.map ActionText.write := by
  unfold write actions
  rw [words_writeOn, List.map_cons, List.map_map]
  rfl

/-- A line is one line. -/
theorem feed_notMem (line : ActionLine) : Letter.char '\n' ∉ line.write := by
  have free : ∀ a : ActionText, Letter.char '\n' ∉ a.write :=
    fun a here => absurd (a.solid _ here) (by decide)
  intro here
  rcases List.mem_append.1 here with here | here
  · exact free _ here
  · obtain ⟨p, within, here⟩ := List.mem_flatMap.1 here
    rcases List.mem_append.1 here with here | here
    · exact line.oneLine p within here
    · exact free _ here

/-- A line ends with an action. -/
theorem exists_last (line : ActionLine) : ∃ (front : Text) (a : ActionText),
    line.write = front ++ a.write := by
  unfold write
  rcases line.rest.eq_nil_or_concat with none | ⟨init, p, last⟩
  · rw [none]
    exact ⟨[], line.first, List.append_nil _⟩
  · rw [last]
    refine ⟨line.first.write ++ (init.flatMap (fun p => p.1.letters ++ p.2.write) ++ p.1.letters),
      p.2, ?_⟩
    simp [writeOn]

end ActionLine

/-! ## §2. Where the strokes go. -/

namespace Spec

variable {actions : List ActionText}

theorem magnitude_eq_abs (q : Rat) : magnitude q = |q| := by
  unfold magnitude
  split
  · next negative => exact (abs_of_neg negative).symm
  · next positive => exact (abs_of_nonneg (not_lt.1 positive)).symm

/-- The strokes of an action in the order they are struck: the other way round for a negative
displacement. -/
def struck (displacement : Rat) (a : ActionText) : List Stroke :=
  if displacement < 0 then a.strokes.reverse else a.strokes

/-- Strokes one after the other, of which the first is the `k`-th of its spec. -/
def strewn (offset displacement : Rat) (strokes : List Stroke) (k : Nat) : List Group :=
  (strokes.zipIdx k).map fun (stroke, i) => ⟨offset + i * |displacement|, [stroke]⟩

/-- What actions mean: without a displacement a group for each of them, and otherwise one for each
stroke, by how many strokes came before it in the spec. -/
def groupsOf (offset displacement : Rat) (actions : List ActionText) : List Group :=
  if displacement = 0 then actions.map fun a => ⟨offset, a.strokes⟩
  else strewn offset displacement (actions.flatMap (struck displacement)) 0

theorem strewn_append (offset displacement : Rat) (before after : List Stroke) (k : Nat) :
    strewn offset displacement (before ++ after) k =
      strewn offset displacement before k ++
        strewn offset displacement after (k + before.length) := by
  unfold strewn
  rw [List.zipIdx_append, List.map_append]

/-- Spreading strokes strews them. -/
theorem spread_eq_strewn (offset displacement : Rat) (strokes : List Stroke) (k : Nat) :
    spread |displacement| (offset + k * |displacement|) strokes =
      strewn offset displacement strokes k := by
  induction strokes generalizing k with
  | nil => rfl
  | cons stroke strokes ih =>
    have next : offset + k * |displacement| + |displacement| =
        offset + (k + 1 : Nat) * |displacement| := by
      push_cast
      ring
    rw [spread, next, ih]
    rfl

/-- Where the strokes of actions go, from an offset on. -/
def placed (displacement : Rat) : Rat → List (List Stroke) → List Group
  | _, [] => []
  | offset, strokes :: actions =>
    (place displacement offset strokes).1 ++
      placed displacement (place displacement offset strokes).2 actions

/-- Actions are placed as if all of them were read before. -/
theorem placeActions_eq (spec : Text) (displacement offset : Rat) (tokens : List Text) :
    placeActions spec displacement offset tokens =
      do return placed displacement offset (← tokens.mapM (readAction spec)) := by
  induction tokens generalizing offset with
  | nil => rfl
  | cons token tokens ih =>
    rw [placeActions, List.mapM_cons]
    cases readAction spec token with
    | error f => rfl
    | ok strokes =>
      show (placeActions spec displacement (place displacement offset strokes).2 tokens >>= _) = _
      rw [ih]
      cases tokens.mapM (readAction spec) <;> rfl

/-- Without a displacement an action stays at the offset. -/
theorem place_still (offset : Rat) (strokes : List Stroke) :
    place 0 offset strokes = ([⟨offset, strokes⟩], offset) := if_pos rfl

theorem length_struck (displacement : Rat) (a : ActionText) :
    (struck displacement a).length = a.strokes.length := by
  unfold struck
  split
  · exact List.length_reverse
  · rfl

/-- With one, the strokes of an action are strewn from the `k`-th place on. -/
theorem place_moving {displacement : Rat} (moving : displacement ≠ 0) (offset : Rat)
    (a : ActionText) (k : Nat) :
    place displacement (offset + k * |displacement|) a.strokes =
      (strewn offset displacement (struck displacement a) k,
        offset + (k + a.strokes.length : Nat) * |displacement|) := by
  unfold place
  rw [if_neg moving, magnitude_eq_abs]
  refine Prod.ext ?_ ?_
  · exact spread_eq_strewn offset displacement (struck displacement a) k
  · push_cast
    ring

theorem placed_still (offset : Rat) (actions : List (List Stroke)) :
    placed 0 offset actions = actions.map (⟨offset, ·⟩) := by
  induction actions with
  | nil => rfl
  | cons strokes actions ih =>
    rw [placed, place_still, ih]
    rfl

/-- The strokes of the actions before are counted by `k`. -/
theorem placed_moving (offset : Rat) {displacement : Rat} (moving : displacement ≠ 0)
    (actions : List ActionText) (k : Nat) :
    placed displacement (offset + k * |displacement|) (actions.map ActionText.strokes) =
      strewn offset displacement (actions.flatMap (struck displacement)) k := by
  induction actions generalizing k with
  | nil => rfl
  | cons a actions ih =>
    rw [List.map_cons, placed, place_moving moving, ih, List.flatMap_cons, strewn_append,
      length_struck]

/-- The strokes of actions go where they are meant to. -/
theorem placed_eq_groupsOf (offset displacement : Rat) (actions : List ActionText) :
    placed displacement offset (actions.map ActionText.strokes) =
      groupsOf offset displacement actions := by
  unfold groupsOf
  by_cases still : displacement = 0
  · rw [if_pos still, still, placed_still, List.map_map]
    rfl
  · rw [if_neg still]
    simpa using placed_moving offset still actions 0

/-- Written actions are placed if their runs can be counted. -/
theorem placeActions_write (spec : Text) (offset displacement : Rat) (actions : List ActionText) :
    placeActions spec displacement offset (actions.map ActionText.write) =
      if ∀ a ∈ actions, a.Counted then .ok (groupsOf offset displacement actions)
      else .error .rangeTooLong := by
  have read : (actions.map ActionText.write).mapM (readAction spec) =
      if ∀ a ∈ actions, a.Counted then .ok (actions.map ActionText.strokes)
      else .error .rangeTooLong := by
    rw [List.mapM_map]
    exact mapM_ite (readAction_write spec) actions
  rw [placeActions_eq, read, ← placed_eq_groupsOf]
  split <;> rfl

/-! ## §3. Specs. -/

theorem afterBlanks?_write (gap : Gap) (rest : Text) :
    afterBlanks? (gap.letters ++ rest) = some (rest.dropWhile isBlank) := by
  obtain ⟨l, letters, same, blank⟩ := gap.exists_head
  have blanks := gap.blank
  have dropped : (gap.letters ++ rest).dropWhile isBlank = rest.dropWhile isBlank :=
    List.dropWhile_append_of_pos blanks
  rw [same] at dropped ⊢
  rw [← dropped]
  exact if_pos blank

/-- What stands on one line is taken as the actions of a spec. -/
theorem actionText?_of_line {line : Text} (oneLine : Letter.char '\n' ∉ line) :
    actionText? (line.dropWhile isBlank) = some (line.dropWhile isBlank) := by
  unfold actionText?
  rw [if_neg]
  intro feed
  have here : Letter.char '\n' ∈ line.dropWhile isBlank := List.contains_iff_mem.1 feed
  exact oneLine ((List.dropWhile_sublist _).subset here)

/-- A spec of an offset, a displacement and a line is taken apart into them. -/
theorem strumParts?_write {offset whole : Text} {places? : Option Text}
    (decimal : IsDecimal offset whole places?) (gap : Gap) (displacement : DisplacementText)
    (gap' : Gap) {line : Text} (oneLine : Letter.char '\n' ∉ line) :
    strumParts? (offset ++ (gap.letters ++ (displacement.write ++ (gap'.letters ++ line)))) =
      some ⟨offset, displacement.write, line.dropWhile isBlank⟩ := by
  have begins : Stops isBlank (displacement.write ++ (gap'.letters ++ line)) :=
    stops_append displacement.write_ne_nil displacement.solid _
  unfold strumParts?
  rw [decimal.plainDecimal? (gap.ends _)]
  show (afterBlanks? _ >>= _) = _
  rw [afterBlanks?_write, begins.dropWhile]
  show (displacement? _ >>= _) = _
  rw [displacement?_write displacement (gap'.ends _)]
  show (afterBlanks? _ >>= _) = _
  rw [afterBlanks?_write]
  show (actionText? _ >>= _) = _
  rw [actionText?_of_line oneLine]
  rfl

/-- The words of its line are placed as actions, from the offset on. -/
theorem strumGroups_of_trimmed {spec line : Text} {offset : OffsetText} {gap gap' : Gap}
    {displacement : DisplacementText}
    (trimmed : trim spec = offset.write ++
      (gap.letters ++ (displacement.write ++ (gap'.letters ++ line))))
    (oneLine : Letter.char '\n' ∉ line) (filled : words line ≠ []) :
    strumGroups spec = placeActions spec displacement.value offset.value (words line) := by
  unfold strumGroups
  rw [trimmed, strumParts?_write (isDecimal_write offset) gap displacement gap' oneLine]
  show (offsetValue offset.write >>= _) = _
  rw [offsetValue_write]
  show (displacementValue displacement.write >>= _) = _
  rw [displacementValue_write]
  obtain ⟨token, others, some⟩ := List.exists_cons_of_ne_nil filled
  dsimp only [bind, Except.bind]
  rw [words_dropWhile, some]

end Spec

/-- A strum spec as it is written; blanks may surround it. -/
structure StrumText where
  before : Text
  offset : OffsetText
  gap : Gap
  displacement : DisplacementText
  gap' : Gap
  line : ActionLine
  after : Text
  blankBefore : ∀ l ∈ before, isBlank l = true
  blankAfter : ∀ l ∈ after, isBlank l = true

namespace StrumText

/-- The spec without what surrounds it. -/
def core (s : StrumText) : Text :=
  s.offset.write ++
    (s.gap.letters ++ (s.displacement.write ++ (s.gap'.letters ++ s.line.write)))

def write (s : StrumText) : Text := s.before ++ s.core ++ s.after

/-- The groups that it means. -/
def groups (s : StrumText) : List Group :=
  Spec.groupsOf s.offset.value s.displacement.value s.line.actions

/-- Whether the run of each span can be counted. -/
def Counted (s : StrumText) : Prop := ∀ a ∈ s.line.actions, a.Counted

instance (s : StrumText) : Decidable s.Counted :=
  inferInstanceAs (Decidable (∀ a ∈ s.line.actions, _))

theorem trim_write (s : StrumText) : trim s.write = s.core := by
  obtain ⟨l, rest, digits, digit⟩ := s.offset.exists_head
  obtain ⟨front, a, last⟩ := s.line.exists_last
  have begins : Stops isBlank s.core := by
    unfold core
    rw [digits]
    exact stops_cons (isBlank_of_isDigit digit) _
  have ends : Stops isBlank s.core.reverse := by
    have solid : ∀ l ∈ a.write.reverse, isBlank l = false :=
      fun l here => a.solid l (List.mem_reverse.1 here)
    have some : a.write.reverse ≠ [] := fun none => a.write_ne_nil (List.reverse_eq_nil_iff.1 none)
    unfold core
    rw [last]
    simp only [List.reverse_append, List.append_assoc]
    exact stops_append some solid _
  have some : s.core ≠ [] := by
    unfold core
    rw [digits]
    exact List.cons_ne_nil _ _
  exact trim_surrounded s.blankBefore s.blankAfter some begins ends

theorem strumGroups_write (s : StrumText) :
    Spec.strumGroups s.write = Spec.placeActions s.write s.displacement.value s.offset.value
      (s.line.actions.map ActionText.write) := by
  have filled : words s.line.write ≠ [] := by
    rw [s.line.words_write]
    exact List.cons_ne_nil _ _
  rw [Spec.strumGroups_of_trimmed s.trim_write s.line.feed_notMem filled, s.line.words_write]

/-- A spec has the groups that it means, if its runs can be counted. -/
theorem strumGroups_eq (s : StrumText) : Spec.strumGroups s.write =
    if s.Counted then .ok s.groups else .error .rangeTooLong := by
  rw [s.strumGroups_write, Spec.placeActions_write]
  rfl

end StrumText

/-! ## §4. Patterns. -/

namespace Pattern

theorem mapM_texts {α : Type} (read : Text → Except Fault α) (texts : List Text) :
    (texts.map Datum.text).mapM (fun spec => do read (← spec.asText)) = texts.mapM read := by
  induction texts with
  | nil => rfl
  | cons t texts ih =>
    rw [List.map_cons, List.mapM_cons, List.mapM_cons, ih]
    rfl

theorem ofSpecs_strum (texts : List Text) :
    ofSpecs .strum (texts.map Datum.text) = ofStrums texts := by
  unfold ofSpecs ofStrums
  dsimp only
  rw [mapM_texts]

/-- One spec alone. -/
theorem ofSpecs_strum_one (spec : Text) :
    ofSpecs .strum [.text spec] = (Spec.strumGroups spec).map Pattern.mk := by
  have one := ofSpecs_strum [spec]
  rw [List.map_singleton] at one
  rw [one]
  unfold ofStrums
  rw [List.mapM_cons, List.mapM_nil]
  cases Spec.strumGroups spec with
  | error f => rfl
  | ok groups =>
    show Except.ok (Pattern.mk (groups ++ [])) = _
    rw [List.append_nil]
    rfl

/-- Written strum specs are compiled to the groups that they mean, one spec after the other; unless
a run of strings is too long to be counted. -/
theorem ofSpecs_strums (specs : List StrumText) :
    ofSpecs .strum (specs.map fun s => Datum.text s.write) =
      if ∀ s ∈ specs, s.Counted then .ok ⟨specs.flatMap StrumText.groups⟩
      else .error .rangeTooLong := by
  have texts : specs.map (fun s => Datum.text s.write) =
      (specs.map StrumText.write).map Datum.text := by
    rw [List.map_map]
    rfl
  have read : (specs.map StrumText.write).mapM Spec.strumGroups =
      if ∀ s ∈ specs, s.Counted then .ok (specs.map StrumText.groups)
      else .error .rangeTooLong := by
    rw [List.mapM_map]
    exact mapM_ite StrumText.strumGroups_eq specs
  rw [texts, ofSpecs_strum]
  unfold ofStrums
  rw [read]
  split
  · rw [List.flatMap_def]
    rfl
  · rfl

/-! ## §5. Two specs. -/

/-- A strum backwards over two actions; the first has a descending range and a single string. -/
def fallingStrum : StrumText where
  before := " "
  offset := ⟨.ofDigits "1" (by decide), none⟩
  gap := .single
  displacement := {
    sign := "-"
    size := .fraction (.ofDigits "1" (by decide)) (.ofDigits "8" (by decide)) (by decide)
    signed := .inr (.inr rfl) }
  gap' := ⟨" \n", by decide, by decide⟩
  line := {
    first := {
      spans := [
        ⟨.ofDigits "3" (by decide), some (.ofDigits "2" (by decide)), by decide, by decide⟩,
        .single (.ofDigits "5" (by decide)) (by decide)]
      velocity := .ofDigits "80" (by decide)
      some := by decide }
    rest := [(.single, {
      spans := [.single (.ofDigits "1" (by decide)) (by decide)]
      velocity := .zero
      some := by decide })]
    oneLine := by decide }
  after := ""
  blankBefore := by decide
  blankAfter := by decide

/-- Its strings are struck one after the other, each action from its last one. -/
theorem fallingStrum_groups :
    fallingStrum.write = " 1 -1/8 \n3-2,5:80 1:0" ∧
      ofSpecs .strum [.text fallingStrum.write] =
        .ok ⟨[⟨1, [⟨5, 80⟩]⟩, ⟨9 / 8, [⟨2, 80⟩]⟩, ⟨5 / 4, [⟨3, 80⟩]⟩, ⟨11 / 8, [⟨1, 0⟩]⟩]⟩ := by
  have counted : ∀ s ∈ [fallingStrum], s.Counted := by
    decide +kernel
  have groups : [fallingStrum].flatMap StrumText.groups =
      [⟨1, [⟨5, 80⟩]⟩, ⟨9 / 8, [⟨2, 80⟩]⟩, ⟨5 / 4, [⟨3, 80⟩]⟩, ⟨11 / 8, [⟨1, 0⟩]⟩] := by
    decide +kernel
  have compiled := ofSpecs_strums [fallingStrum]
  rw [if_pos counted, groups] at compiled
  exact ⟨by decide, compiled⟩

/-- An action whose range is longer than anything that can be counted. -/
def endlessAction : ActionText where
  spans := [⟨.ofDigits "1" (by decide), some (.ofDigits "9223372036854775808" (by decide)),
    by decide, by decide⟩]
  velocity := .ofDigits "80" (by decide)
  some := by decide

/-- A strum of it. -/
def endlessStrum : StrumText where
  before := ""
  offset := ⟨.ofDigits "1" (by decide), none⟩
  gap := .single
  displacement := .zero
  gap' := .single
  line := ⟨endlessAction, [], nofun⟩
  after := ""
  blankBefore := by decide
  blankAfter := by decide

/-- It is not compiled, though it is written as a spec is. -/
theorem endlessStrum_tooLong :
    endlessStrum.write = "1 0 1-9223372036854775808:80" ∧
      ofSpecs .strum [.text endlessStrum.write] = .error .rangeTooLong := by
  have written : endlessStrum.write = "1 0 1-9223372036854775808:80" := by
    decide
  refine ⟨written, ?_⟩
  rw [written]
  rfl

end Pattern
end Plectrum
