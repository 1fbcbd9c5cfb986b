/-
  Plectrum.Proofs.Plucks
  ──────────────────────
  **A pluck is a strum without a displacement.**

  A pluck spec is compiled as the strum spec with a zero put in after its offset.  So each of its
  actions sounds at the offset, and a text that is no pluck spec is refused: as a mistake in the
  notation, or because an action before the first mistake names more strings than can be counted.

  Main results:
    * `Spec.pluckParts?_cases` — the offset and the line of a text, if it has both;
    * `Spec.placeActions_cases` — tokens are written actions, or they are refused;
    * `Spec.Plucks.pluckGroups_eq`, `Spec.pluckGroups_cases` — what one pluck spec is compiled to;
    * `Pattern.ofSpecs_plucks` — what pluck specs are compiled to, for every text.
-/
import Plectrum.Proofs.Strums

namespace Plectrum

open Text

/-! ## §1. Pluck specs. -/

namespace Spec

/-- A pluck spec: without the blanks around it, an offset, blanks, and one line whose words are
actions. -/
structure Plucks (spec : Text) (offset : OffsetText) (actions : List ActionText) : Prop where
  some : actions ≠ []
  written : ∃ (gap : Gap) (line : Text), trim spec = offset.write ++ (gap.letters ++ line) ∧
    Letter.char '\n' ∉ line ∧ words line = actions.map ActionText.write

/-- The groups of one pluck spec. -/
def pluckGroups (spec : Text) : Except Fault (List Group) := do strumGroups (← strumOfPluck spec)

/-- A text with an offset, a gap, a zero and a line places the words of the line at the offset. -/
theorem strumGroups_zero {before after line : Text} (offset : OffsetText) (gap gap' : Gap)
    (blank : ∀ l ∈ before, isBlank l = true) (blank' : ∀ l ∈ after, isBlank l = true)
    (oneLine : Letter.char '\n' ∉ line) (filled : words line ≠ []) :
    let spec := before ++ (offset.write ++
      (gap.letters ++ (DisplacementText.zero.write ++ (gap'.letters ++ line)))) ++ after
    strumGroups spec = placeActions spec 0 offset.value (words line) := by
  intro spec
  obtain ⟨l, rest, digits, digit⟩ := offset.exists_head
  let front := offset.write ++ (gap.letters ++ (DisplacementText.zero.write ++ gap'.letters))
  have begins : Stops isBlank front := by
    show Stops isBlank (offset.write ++ _)
    rw [digits]
    exact stops_cons (isBlank_of_isDigit digit) _
  have some : front ≠ [] := by
    show offset.write ++ _ ≠ []
    rw [digits]
    exact List.cons_ne_nil _ _
  obtain ⟨line', trimmed, kept, shorter⟩ := exists_trim_line blank blank' some begins filled
  have whole : spec = before ++ (front ++ line) ++ after := by
    simp only [spec, front, List.append_assoc]
  have trimmed' : trim spec = offset.write ++
      (gap.letters ++ (DisplacementText.zero.write ++ (gap'.letters ++ line'))) := by
    rw [whole, trimmed]
    simp only [front, List.append_assoc]
  have oneLine' : Letter.char '\n' ∉ line' := fun feed => oneLine (shorter.subset feed)
  rw [strumGroups_of_trimmed trimmed' oneLine' (kept ▸ filled), kept, DisplacementText.value_zero]

/-! ## §2. Texts that are taken apart. -/

/-- Blanks that are skipped are a gap. -/
theorem afterBlanks?_some {t rest : Text} (found : afterBlanks? t = some rest) :
    (∃ gap : Gap, t = gap.letters ++ rest) ∧ Stops isBlank rest := by
  unfold afterBlanks? at found
  cases t with
  | nil => cases found
  | cons l t =>
    dsimp only at found
    split at found
    · next blank =>
      cases found
      have some : (l :: t).takeWhile isBlank ≠ [] := by
        rw [List.takeWhile_cons_of_pos blank]
        exact List.cons_ne_nil _ _
      exact ⟨⟨⟨_, some, all_of_mem_takeWhile⟩, List.takeWhile_append_dropWhile.symm⟩,
        stops_dropWhile _ _⟩
    · cases found

/-- After the offset of a pluck spec come blanks and its line. -/
theorem pluckParts?_of_offset {t read rest : Text} (decimal : plainDecimal? t = some (read, rest)) :
    pluckParts? t = ((afterBlanks? rest).bind actionText?).map fun line => (read, line) := by
  unfold pluckParts?
  rw [decimal]
  show (afterBlanks? rest >>= fun line =>
    actionText? line >>= fun actions => pure (read, actions)) = _
  cases afterBlanks? rest with
  | none => rfl
  | some line =>
    show (actionText? line >>= fun actions => pure (read, actions)) =
      (actionText? line).map fun line => (read, line)
    cases actionText? line <;> rfl

/-- A trimmed text does not end with a gap, so there are words after it. -/
theorem words_after_gap {spec front line : Text} {gap : Gap}
    (trimmed : trim spec = front ++ (gap.letters ++ line)) (begins : Stops isBlank line) :
    words line ≠ [] := by
  refine words_ne_nil ?_ begins
  rintro rfl
  have ends := stops_reverse_trim spec
  rw [trimmed, List.append_nil, List.reverse_append] at ends
  cases back : gap.letters.reverse with
  | nil => exact gap.some (List.reverse_eq_nil_iff.1 back)
  | cons l letters =>
    have blank := gap.blank l (List.mem_reverse.1 (back ▸ List.mem_cons_self))
    rw [back] at ends
    rw [ends l rfl] at blank
    cases blank

/-- A trimmed text that is taken apart has a decimal and a line with words in it. -/
theorem pluckParts?_some {spec read line : Text}
    (found : pluckParts? (trim spec) = some (read, line)) :
    (∃ whole places?, IsDecimal read whole places?) ∧
      (∃ gap : Gap, trim spec = read ++ (gap.letters ++ line)) ∧ Letter.char '\n' ∉ line ∧
      Stops isBlank line ∧ words line ≠ [] := by
  cases decimal : plainDecimal? (trim spec) with
  | none =>
    unfold pluckParts? at found
    rw [decimal] at found
    cases found
  | some parts =>
    rw [pluckParts?_of_offset decimal] at found
    obtain ⟨line', taken, same⟩ := Option.map_eq_some_iff.1 found
    obtain ⟨rest, blanks, oneLine⟩ := Option.bind_eq_some_iff.1 taken
    cases same
    unfold actionText? at oneLine
    split at oneLine
    · cases oneLine
    · next feed =>
      cases oneLine
      obtain ⟨offset, whole⟩ := isDecimal_of_plainDecimal? decimal
      obtain ⟨⟨gap, after⟩, begins⟩ := afterBlanks?_some blanks
      rw [after] at whole
      exact ⟨offset, ⟨gap, whole⟩, fun here => feed (List.contains_iff_mem.2 here), begins,
        words_after_gap whole begins⟩

/-- A trimmed text without long numbers has an offset and a line with words in it, or it is no
pluck spec. -/
theorem pluckParts?_cases {spec : Text} (short : ShortDigits spec) :
    (∃ (offset : OffsetText) (gap : Gap) (line : Text),
      pluckParts? (trim spec) = some (offset.write, line) ∧
      trim spec = offset.write ++ (gap.letters ++ line) ∧ Letter.char '\n' ∉ line ∧
      words line ≠ []) ∨
    pluckParts? (trim spec) = none := by
  cases found : pluckParts? (trim spec) with
  | none => exact .inr rfl
  | some parts =>
    obtain ⟨⟨whole, places?, decimal⟩, ⟨gap, written⟩, oneLine, -, filled⟩ := pluckParts?_some found
    have short' : ShortDigits parts.1 :=
      short.part (List.IsInfix.trans ⟨[], _, written.symm⟩ (trim_within spec))
    obtain ⟨offset, same⟩ := decimal.exists_offset short'
    rw [← same] at written
    exact .inl ⟨offset, gap, parts.2, by rw [same], written, oneLine, filled⟩

/-! ## §3. Tokens. -/

/-- A written action before other tokens is placed, if its runs can be counted. -/
theorem placeActions_cons (spec : Text) (displacement offset : Rat) (a : ActionText)
    (tokens : List Text) :
    placeActions spec displacement offset (a.write :: tokens) =
      if a.Counted then
        (placeActions spec displacement (place displacement offset a.strokes).2 tokens).map
          ((place displacement offset a.strokes).1 ++ ·)
      else .error .rangeTooLong := by
  rw [placeActions, readAction_write]
  by_cases counted : a.Counted
  · rw [if_pos counted, if_pos counted]
    show (placeActions spec displacement (place displacement offset a.strokes).2 tokens >>= _) = _
    cases placeActions spec displacement (place displacement offset a.strokes).2 tokens <;> rfl
  · rw [if_neg counted, if_neg counted]
    rfl

/-- Tokens without long numbers are written actions, or they are refused: for the first mistake,
or for an action before it that cannot be counted. -/
theorem placeActions_cases (spec : Text) (displacement offset : Rat) {tokens : List Text}
    (short : ∀ token ∈ tokens, ShortDigits token) :
    (∃ actions : List ActionText, tokens = actions.map ActionText.write) ∨
      ∃ f, placeActions spec displacement offset tokens = .error f ∧
        (f.kind = .parse ∨ f = .rangeTooLong ∧ ∃ token ∈ tokens, Uncounted token) := by
  induction tokens generalizing offset with
  | nil => exact .inl ⟨[], rfl⟩
  | cons token tokens ih =>
    rcases readAction_cases spec (short token List.mem_cons_self) with
      ⟨a, rfl⟩ | ⟨f, failed, why⟩
    · rcases ih (place displacement offset a.strokes).2
        (fun t here => short t (List.mem_cons_of_mem _ here)) with
        ⟨actions, rfl⟩ | ⟨f, failed, why⟩
      · exact .inl ⟨a :: actions, rfl⟩
      · right
        rw [placeActions_cons]
        by_cases counted : a.Counted
        · rw [if_pos counted, failed]
          refine ⟨f, rfl, why.imp id ?_⟩
          rintro ⟨size, token, here, long⟩
          exact ⟨size, token, List.mem_cons_of_mem _ here, long⟩
        · rw [if_neg counted]
          exact ⟨_, rfl, .inr ⟨rfl, a.write, List.mem_cons_self, uncounted_write counted⟩⟩
    · right
      refine ⟨f, ?_, why.imp id fun both => ⟨both.1, token, List.mem_cons_self, both.2⟩⟩
      rw [placeActions, failed]
      rfl

/-! ## §4. One spec. -/

theorem strumOfPluck_of_parts {spec read line : Text}
    (parts : pluckParts? (trim spec) = some (read, line)) :
    strumOfPluck spec = .ok (read ++ " 0 " ++ line) := by
  unfold strumOfPluck
  rw [parts]

/-- A text with an offset and a line has the words of the line placed at the offset. -/
theorem pluckGroups_of_parts {spec line : Text} {offset : OffsetText}
    (parts : pluckParts? (trim spec) = some (offset.write, line))
    (oneLine : Letter.char '\n' ∉ line) (filled : words line ≠ []) :
    ∃ spec', pluckGroups spec = placeActions spec' 0 offset.value (words line) := by
  have none : ∀ l ∈ ([] : Text), isBlank l = true := nofun
  have placed := strumGroups_zero offset .single .single none none oneLine filled
  refine ⟨_, Eq.trans ?_ placed⟩
  unfold pluckGroups
  rw [strumOfPluck_of_parts parts]
  show strumGroups (offset.write ++ " 0 " ++ line) = _
  congr 1
  simp only [List.nil_append, List.append_nil, List.append_assoc]
  rfl

/-- A pluck spec has its offset and its line. -/
theorem Plucks.parts {spec : Text} {offset : OffsetText} {actions : List ActionText}
    (h : Plucks spec offset actions) :
    ∃ line, pluckParts? (trim spec) = Option.some (offset.write, line) ∧
      Letter.char '\n' ∉ line ∧ words line = actions.map ActionText.write := by
  obtain ⟨gap, line, trimmed, oneLine, tokens⟩ := h.written
  refine ⟨line.dropWhile isBlank, ?_, fun feed => oneLine ((List.dropWhile_sublist _).subset feed),
    ?_⟩
  · rw [trimmed, pluckParts?_of_offset (plainDecimal?_write offset (gap.ends _)),
      afterBlanks?_write, Option.bind_some, actionText?_of_line oneLine]
    rfl
  · rw [words_dropWhile, tokens]

theorem Plucks.filled {spec line : Text} {offset : OffsetText} {actions : List ActionText}
    (h : Plucks spec offset actions) (tokens : words line = actions.map ActionText.write) :
    words line ≠ [] := by
  rw [tokens]
  exact fun none => h.some (List.map_eq_nil_iff.1 none)

/-- The actions of a pluck spec are placed at its offset. -/
theorem Plucks.exists_placeActions {spec : Text} {offset : OffsetText} {actions : List ActionText}
    (h : Plucks spec offset actions) : ∃ spec', pluckGroups spec =
      placeActions spec' 0 offset.value (actions.map ActionText.write) := by
  obtain ⟨line, parts, oneLine, tokens⟩ := h.parts
  obtain ⟨spec', placed⟩ := pluckGroups_of_parts parts oneLine (h.filled tokens)
  exact ⟨spec', by rw [placed, tokens]⟩

/-- Without a displacement each action is a group at the offset. -/
theorem groupsOf_zero (offset : Rat) (actions : List ActionText) :
    groupsOf offset 0 actions = actions.map fun a => ⟨offset, a.strokes⟩ := if_pos rfl

/-- A pluck spec has a group for each action, at the offset, if its runs can be counted. -/
theorem Plucks.pluckGroups_eq {spec : Text} {offset : OffsetText} {actions : List ActionText}
    (h : Plucks spec offset actions) : pluckGroups spec =
      if ∀ a ∈ actions, a.Counted then .ok (actions.map fun a => ⟨offset.value, a.strokes⟩)
      else .error .rangeTooLong := by
  obtain ⟨spec', placed⟩ := h.exists_placeActions
  rw [placed, placeActions_write, groupsOf_zero]

/-- The words of the line of a spec are among its own. -/
theorem words_of_line {spec line : Text} {offset : OffsetText} {gap : Gap}
    (trimmed : trim spec = offset.write ++ (gap.letters ++ line)) :
    ∀ token ∈ words line, token ∈ words spec := by
  obtain ⟨l, letters, same, blank⟩ := gap.exists_head
  have blanks : ∀ d ∈ letters, isBlank d = true :=
    fun d here => gap.blank d (same ▸ List.mem_cons_of_mem _ here)
  rw [← words_trim spec, trimmed, same, List.cons_append, words_append blank, words_blanks blanks]
  exact fun token here => List.mem_append_right _ here

theorem Plucks.exists_uncounted {spec : Text} {offset : OffsetText} {actions : List ActionText}
    (h : Plucks spec offset actions) (uncounted : ¬ ∀ a ∈ actions, a.Counted) :
    ∃ token ∈ words spec, Uncounted token := by
  push Not at uncounted
  obtain ⟨a, here, long⟩ := uncounted
  obtain ⟨gap, line, trimmed, -, tokens⟩ := h.written
  refine ⟨a.write, words_of_line trimmed _ ?_, uncounted_write long⟩
  rw [tokens]
  exact List.mem_map_of_mem here

/-- A text without long numbers is a pluck spec, or it is refused. -/
theorem pluckGroups_cases {spec : Text} (short : ShortDigits spec) :
    (∃ offset actions, Plucks spec offset actions) ∨
      ∃ f, pluckGroups spec = .error f ∧
        (f.kind = .parse ∨ f = .rangeTooLong ∧ ∃ token ∈ words spec, Uncounted token) := by
  rcases pluckParts?_cases short with ⟨offset, gap, line, parts, trimmed, oneLine, filled⟩ | none
  · obtain ⟨spec', placed⟩ := pluckGroups_of_parts parts oneLine filled
    have within : line <:+: spec := by
      refine List.IsInfix.trans ?_ (trim_within spec)
      rw [trimmed]
      exact ⟨offset.write ++ gap.letters, [], by simp⟩
    have short' : ∀ token ∈ words line, ShortDigits token :=
      fun token here => short.part ((infix_of_mem_words here).trans within)
    rcases placeActions_cases spec' 0 offset.value short' with
      ⟨actions, written⟩ | ⟨f, failed, why⟩
    · left
      refine ⟨offset, actions, ?_, gap, line, trimmed, oneLine, written⟩
      rintro rfl
      exact filled written
    · right
      rw [placed]
      refine ⟨f, failed, why.imp id ?_⟩
      rintro ⟨size, token, here, long⟩
      exact ⟨size, token, words_of_line trimmed token here, long⟩
  · right
    unfold pluckGroups strumOfPluck
    rw [none]
    exact ⟨_, rfl, .inl rfl⟩

/-- Blanks, an offset and what follows it stand in a text in one way. -/
theorem eq_of_offset {before before' rest rest' : Text} {offset : OffsetText}
    (blank : ∀ l ∈ before, isBlank l = true) (blank' : ∀ l ∈ before', isBlank l = true)
    (same : before ++ (offset.write ++ rest) = before' ++ (offset.write ++ rest')) :
    before = before' ∧ rest = rest' := by
  obtain ⟨l, digits, head, digit⟩ := offset.exists_head
  have begins : ∀ t, Stops isBlank (offset.write ++ t) := by
    intro t
    rw [head]
    exact stops_cons (isBlank_of_isDigit digit) _
  have front := congrArg (List.takeWhile isBlank) same
  have back := congrArg (List.dropWhile isBlank) same
  rw [takeWhile_run blank (begins _), takeWhile_run blank' (begins _)] at front
  rw [dropWhile_run blank (begins _), dropWhile_run blank' (begins _)] at back
  exact ⟨front, List.append_cancel_left back⟩

/-- A pluck spec has the groups of the strum spec with a zero put in after its offset. -/
theorem strumGroups_inserted {spec before rest : Text} {offset : OffsetText}
    {actions : List ActionText} (h : Plucks spec offset actions)
    (whole : spec = before ++ (offset.write ++ rest)) (blank : ∀ l ∈ before, isBlank l = true) :
    strumGroups (before ++ (offset.write ++ (" 0 " ++ rest))) = pluckGroups spec := by
  obtain ⟨gap, line, trimmed, oneLine, tokens⟩ := h.written
  obtain ⟨before', after, around, blank', blankAfter⟩ := exists_trimmed spec
  rw [trimmed, List.append_assoc, List.append_assoc, List.append_assoc] at around
  obtain ⟨rfl, rfl⟩ := eq_of_offset blank blank' (whole.symm.trans around)
  -- The blanks after the offset come after the zero now.
  have blanks : ∀ l ∈ .char ' ' :: gap.letters, isBlank l = true :=
    List.forall_mem_cons.2 ⟨by decide, gap.blank⟩
  have placed := strumGroups_zero offset .single ⟨_, List.cons_ne_nil _ _, blanks⟩ blank blankAfter
    oneLine (h.filled tokens)
  dsimp only at placed
  rw [tokens, placeActions_write, groupsOf_zero] at placed
  rw [h.pluckGroups_eq, ← placed]
  congr 1
  simp only [List.append_assoc]
  rfl

end Spec

/-! ## §5. Patterns. -/

namespace Pattern

theorem ofSpecs_pluck (texts : List Text) :
    ofSpecs .pluck (texts.map Datum.text) = ofPlucks texts := by
  unfold ofSpecs ofPlucks
  dsimp only
  rw [mapM_texts]

/-- Specs are compiled one by one, though all of them are read before. -/
theorem ofPlucks_ok_iff {texts : List Text} {p : Pattern} :
    ofPlucks texts = .ok p ↔
      ∃ groups, texts.mapM Spec.pluckGroups = .ok groups ∧ p = ⟨groups.flatten⟩ := by
  have both : ofPlucks texts = (texts.mapM Spec.strumOfPluck >>= fun read =>
      read.mapM Spec.strumGroups) >>= fun groups => pure ⟨groups.flatten⟩ := by
    unfold ofPlucks ofStrums
    rw [bind_assoc]
  have yields : ∀ {result : Except Fault (List (List Group))},
      (result >>= fun groups => pure (Pattern.mk groups.flatten)) = .ok p ↔
        ∃ groups, result = .ok groups ∧ p = ⟨groups.flatten⟩ := by
    intro result
    cases result with
    | error f =>
      constructor
      · rintro ⟨⟩
      · rintro ⟨groups, ⟨⟩, -⟩
    | ok groups =>
      constructor
      · rintro ⟨⟩
        exact ⟨groups, rfl, rfl⟩
      · rintro ⟨_, ⟨⟩, rfl⟩
        rfl
  rw [both, yields]
  exact exists_congr fun groups => and_congr_left fun _ => mapM_mapM_ok_iff

/-- One spec alone. -/
theorem ofSpecs_pluck_one (spec : Text) :
    ofSpecs .pluck [.text spec] = (Spec.pluckGroups spec).map Pattern.mk := by
  have one := ofSpecs_pluck [spec]
  rw [List.map_singleton] at one
  rw [one]
  unfold ofPlucks Spec.pluckGroups
  rw [List.mapM_cons, List.mapM_nil]
  cases Spec.strumOfPluck spec with
  | error f => rfl
  | ok read => exact (ofSpecs_strum [read]).symm.trans (ofSpecs_strum_one read)

theorem groups_of_pluck {spec : Text} {p : Pattern}
    (compiled : ofSpecs .pluck [.text spec] = .ok p) : Spec.pluckGroups spec = .ok p.groups := by
  rw [ofSpecs_pluck_one] at compiled
  cases groups : Spec.pluckGroups spec with
  | error f =>
    rw [groups] at compiled
    cases compiled
  | ok gs =>
    rw [groups] at compiled
    cases compiled
    rfl

/-- Several specs are compiled if each of them is. -/
theorem ofPlucks_walks {texts : List Text} :
    (∃ groups, texts.mapM Spec.pluckGroups = .ok groups) ↔ ∃ p, ofPlucks texts = .ok p := by
  constructor
  · rintro ⟨groups, walked⟩
    exact ⟨_, ofPlucks_ok_iff.2 ⟨groups, walked, rfl⟩⟩
  · rintro ⟨p, compiled⟩
    obtain ⟨groups, walked, -⟩ := ofPlucks_ok_iff.1 compiled
    exact ⟨groups, walked⟩

section One

variable {spec : Text} {offset : OffsetText} {actions : List ActionText}

theorem ofSpecs_pluck_eq (h : Spec.Plucks spec offset actions) : ofSpecs .pluck [.text spec] =
    if ∀ a ∈ actions, a.Counted then .ok ⟨actions.map fun a => ⟨offset.value, a.strokes⟩⟩
    else .error .rangeTooLong := by
  rw [ofSpecs_pluck_one, h.pluckGroups_eq]
  split <;> rfl

/-- A spec that is refused has a mistake, or a word with a range that cannot be counted. -/
theorem ofSpecs_pluck_error (short : ShortDigits spec) {f : Fault}
    (failed : ofSpecs .pluck [.text spec] = .error f) :
    f.kind = .parse ∨ f = .rangeTooLong ∧ ∃ token ∈ words spec, Spec.Uncounted token := by
  rcases Spec.pluckGroups_cases short with ⟨offset, actions, h⟩ | ⟨g, refused, why⟩
  · rw [ofSpecs_pluck_eq h] at failed
    split at failed
    · cases failed
    · next uncounted =>
      cases failed
      exact .inr ⟨rfl, h.exists_uncounted uncounted⟩
  · rw [ofSpecs_pluck_one, refused] at failed
    cases failed
    exact why

theorem ofSpecs_pluck_ok_iff (short : ShortDigits spec) :
    (∃ p, ofSpecs .pluck [.text spec] = .ok p) ↔
      ∃ offset actions, Spec.Plucks spec offset actions ∧ ∀ a ∈ actions, a.Counted := by
  constructor
  · rintro ⟨p, compiled⟩
    rcases Spec.pluckGroups_cases short with ⟨offset, actions, h⟩ | ⟨f, failed, -⟩
    · refine ⟨offset, actions, h, ?_⟩
      rw [ofSpecs_pluck_eq h] at compiled
      by_contra uncounted
      rw [if_neg uncounted] at compiled
      cases compiled
    · rw [ofSpecs_pluck_one, failed] at compiled
      cases compiled
  · rintro ⟨offset, actions, h, counted⟩
    exact ⟨_, (ofSpecs_pluck_eq h).trans (if_pos counted)⟩

end One

/-- Pluck specs are compiled as strum specs with a zero put in, whatever their texts, if these
hold no long numbers.  A spec is compiled exactly if it is an offset, blanks and one line of
actions, and the runs of these can be counted: each action is then one group at the offset.
Otherwise it is refused as a mistake in the notation; or for its length, if one of its words has
a range that cannot be counted.  Several specs are compiled one after the other, and are refused
exactly if one of them is. -/
theorem ofSpecs_plucks (specs : List Text) (short : ∀ spec ∈ specs, ShortDigits spec) :
    (∀ spec ∈ specs,
      ((∃ p, ofSpecs .pluck [.text spec] = .ok p) ↔
        ∃ offset actions, Spec.Plucks spec offset actions ∧ ∀ a ∈ actions, a.Counted) ∧
      (∀ offset actions, Spec.Plucks spec offset actions →
        ofSpecs .pluck [.text spec] =
          (if ∀ a ∈ actions, a.Counted then .ok ⟨actions.map fun a => ⟨offset.value, a.strokes⟩⟩
          else .error .rangeTooLong) ∧
        ∀ before rest, spec = before ++ (offset.write ++ rest) → (∀ l ∈ before, isBlank l = true) →
          ofSpecs .strum [.text (before ++ (offset.write ++ (" 0 " ++ rest)))] =
            ofSpecs .pluck [.text spec]) ∧
      ∀ f, ofSpecs .pluck [.text spec] = .error f →
        f.kind = .parse ∨ f = .rangeTooLong ∧ ∃ token ∈ words spec, Spec.Uncounted token) ∧
    (∀ patterns, List.Forall₂ (fun spec p => ofSpecs .pluck [.text spec] = .ok p) specs patterns →
      ofSpecs .pluck (specs.map Datum.text) = .ok ⟨patterns.flatMap Pattern.groups⟩) ∧
    ((∃ f, ofSpecs .pluck (specs.map Datum.text) = .error f) ↔
      ∃ spec ∈ specs, ∃ f, ofSpecs .pluck [.text spec] = .error f) := by
  refine ⟨fun spec here => ⟨ofSpecs_pluck_ok_iff (short spec here), fun offset actions h =>
    ⟨ofSpecs_pluck_eq h, fun before rest whole blank => ?_⟩,
    fun f => ofSpecs_pluck_error (short spec here)⟩, fun patterns each => ?_, ?_⟩
  · rw [ofSpecs_strum_one, ofSpecs_pluck_one, Spec.strumGroups_inserted h whole blank]
  · have each' : List.Forall₂ (fun spec groups => Spec.pluckGroups spec = .ok groups) specs
        (patterns.map Pattern.groups) := by
      rw [List.forall₂_map_right_iff]
      exact each.imp fun spec p => groups_of_pluck
    rw [ofSpecs_pluck, ofPlucks_ok_iff.2 ⟨_, mapM_ok_iff_forall₂.2 each', rfl⟩, List.flatMap_def]
  · rw [ofSpecs_pluck, exists_error_iff, ← ofPlucks_walks, ← exists_error_iff, mapM_error_iff]
    refine exists_congr fun spec => and_congr_right fun _ => ?_
    rw [ofSpecs_pluck_one]
    exact (exists_error_map_iff _).symm

/-! ## §6. Two specs. -/

/-- A pluck of two actions between its beats. -/
def pairSpec : Text := "4.75\t7-6:90  9:64"

def pairOffset : OffsetText := ⟨.ofDigits "4" (by decide), some (.ofDigits "75" (by decide))⟩

def pairActions : List ActionText :=
  [⟨[⟨.ofDigits "7" (by decide), some (.ofDigits "6" (by decide)), by decide, by decide⟩],
      .ofDigits "90" (by decide), by decide⟩,
    ⟨[.single (.ofDigits "9" (by decide)) (by decide)], .ofDigits "64" (by decide), by decide⟩]

theorem pairSpec_plucks : Spec.Plucks pairSpec pairOffset pairActions :=
  ⟨by decide, ⟨"\t", by decide, by decide⟩, "7-6:90  9:64", by decide, by decide, by decide⟩

/-- Its actions sound at its offset, as those of the strum with a zero; and twice for two specs. -/
theorem pairSpec_groups :
    let groups : List Group := [⟨19 / 4, [⟨7, 90⟩, ⟨6, 90⟩]⟩, ⟨19 / 4, [⟨9, 64⟩]⟩]
    ofSpecs .pluck [.text pairSpec] = .ok ⟨groups⟩ ∧
      ofSpecs .strum [.text "4.75 0 \t7-6:90  9:64"] = .ok ⟨groups⟩ ∧
      ofSpecs .pluck [.text pairSpec, .text pairSpec] = .ok ⟨groups ++ groups⟩ := by
  intro groups
  have length : pairSpec.length ≤ digitLimit := by decide
  have short : ∀ spec ∈ [pairSpec, pairSpec], ShortDigits spec := by
    intro spec here
    obtain rfl : spec = pairSpec := by simpa using here
    exact shortDigits_of_length length
  have counted : ∀ a ∈ pairActions, a.Counted := by decide +kernel
  have placed : pairActions.map (fun a => Group.mk pairOffset.value a.strokes) = groups := by
    decide +kernel
  obtain ⟨each, all, -⟩ := ofSpecs_plucks [pairSpec, pairSpec] short
  obtain ⟨alone, inserted⟩ := (each pairSpec List.mem_cons_self).2.1 _ _ pairSpec_plucks
  rw [if_pos counted, placed] at alone
  have strum := inserted [] "\t7-6:90  9:64" (by decide) nofun
  have two := all [⟨groups⟩, ⟨groups⟩] (.cons alone (.cons alone .nil))
  refine ⟨alone, strum.trans alone, two.trans ?_⟩
  rfl

/-- An action that is too long to be counted, and a word that is no action. -/
def endlessSpec : Text := "1 1-9223372036854775808:80 x"

/-- It is no pluck spec, and yet it is not refused as a mistake: the strings of the first action
are walked before the second word is read. -/
theorem endlessSpec_tooLong :
    (¬ ∃ offset actions, Spec.Plucks endlessSpec offset actions) ∧
      ofSpecs .pluck [.text endlessSpec] = .error .rangeTooLong ∧
      Fault.rangeTooLong.kind ≠ .parse := by
  refine ⟨?_, rfl, by decide⟩
  rintro ⟨offset, actions, h⟩
  obtain ⟨line, parts, -, tokens⟩ := h.parts
  have taken : Spec.pluckParts? (trim endlessSpec) =
      Option.some (Text.ofString "1", Text.ofString "1-9223372036854775808:80 x") := by
    decide
  rw [taken, Option.some.injEq, Prod.mk.injEq] at parts
  have last : Text.ofString "x" ∈ actions.map ActionText.write := by
    rw [← tokens, ← parts.2]
    decide
  obtain ⟨a, -, written⟩ := List.mem_map.1 last
  have colon : Letter.char ':' ∈ a.write := List.mem_append_right _ List.mem_cons_self
  rw [written] at colon
  exact absurd colon (by decide)

end Pattern
end Plectrum
