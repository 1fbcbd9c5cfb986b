/-
  Plectrum.Proofs.Continued
  ─────────────────────────
  **A tab that is continued is played as two tabs.**

  A tab looks at the clock once, when it begins: its columns carry their ticks along, and strikes
  never ask where the voice is.  So it makes no difference whether the clock is set between two
  tabs, or stays behind until the end of both.

  Main results:
    * `Play.columns_append` — columns go on where others ended;
    * `Play.tab_continued` — a tab that goes on after a bar leaves what the two tabs leave.
-/
import Plectrum.Proofs.BarLines
import Plectrum.Proofs.Onsets
import Plectrum.Proofs.Untimed

namespace Plectrum

variable {γ : Type}

/-! ## §1. Off the clock. -/

namespace Player

/-- Two players that differ in where their voices are in time at most. -/
structure OffClock (p p' : Player γ) : Prop where
  voice : p.voice.untimed = p'.voice.untimed
  chance : p.chance = p'.chance

/-- A player at the end of a tab: the clock is set, and nothing before it is silent. -/
def arrived (p : Player γ) (clock : Quantity) : Player γ :=
  { p with voice := { p.voice with clock, skip := .whole 0 } }

theorem offClock_arrived (p : Player γ) (clock : Quantity) : p.OffClock (p.arrived clock) :=
  ⟨rfl, rfl⟩

/-- Where players arrive, there is nothing left that they differ in. -/
theorem OffClock.arrived {p p' : Player γ} (apart : p.OffClock p') (clock : Quantity) :
    p.arrived clock = p'.arrived clock := by
  have voice : (p.arrived clock).voice = (p'.arrived clock).voice :=
    congrArg (fun v : Voice => { v with clock, skip := .whole 0 }) apart.voice
  unfold Player.arrived at voice ⊢
  rw [apart.chance]
  exact congrArg (fun v => (⟨v, p'.chance⟩ : Player γ)) voice

end Player

namespace Play

theorem untimed_offClock : Untimed (Player.OffClock : Player γ → Player γ → Prop) where
  voice := fun _ _ apart => apart.voice
  changed := fun p p' apart f _ blind => by
    refine ⟨?_, apart.chance⟩
    show (f p.voice).untimed = (f p'.voice).untimed
    rw [blind p.voice, apart.voice, ← blind p'.voice]
  chance := fun _ _ apart _ => apart.chance
  drawn := fun _ _ apart _ _ => ⟨apart.voice, rfl⟩

variable [ChanceSource γ]

/-- Columns go on where others ended. -/
theorem columns_append (tick : Quantity) (first rest : List (Quantity × Text)) :
    (columns tick (first ++ rest) : Play γ Quantity) =
      columns tick first >>= fun next => columns next rest := by
  induction first generalizing tick with
  | nil => exact (pure_bind _ _).symm
  | cons column first ih =>
    obtain ⟨step, cells⟩ := column
    rw [List.cons_append, columns_cons, columns_cons]
    simp only [bind_assoc, ih]

end Play

/-! ## §2. Reading. -/

/-- A voice is asked for a tab of some lines, which have a bar at both ends, and whose measures span
some beats. -/
def TabText.Asks (v : Voice) (parts : List Datum) (stated beats : Datum) (texts : List Text) :
    Prop :=
  ∃ asked, ofParts parts stated = .ok asked ∧ asked.beatsOr v.beats = beats ∧
    Tab.linesOfDatum asked.text = .ok (texts.map Tab.barred)

namespace Play

variable {v : Voice} {parts parts' both : List Datum} {stated stated' statedBoth beats : Datum}
  {texts nexts : List Text} {g g' : Grid}

theorem readTab_ok_iff : readTab v parts stated = .ok g ↔
    ∃ asked, TabText.ofParts parts stated = .ok asked ∧
      Tab.grid asked.text (.whole v.stringCount) (.number v.config.ticks) (asked.beatsOr v.beats)
        v.tabStyle.uniformTabs = .ok g ∧
      checkPitches v.tabStyle 1 v.roots.reverse g.rows = .ok () := by
  unfold readTab
  constructor
  · intro read
    obtain ⟨asked, askedHere, read⟩ := bind_ok read
    obtain ⟨grid, gridHere, read⟩ := bind_ok read
    obtain ⟨⟨⟩, checked, same⟩ := bind_ok read
    cases same
    exact ⟨asked, askedHere, gridHere, checked⟩
  · rintro ⟨asked, askedHere, gridHere, checked⟩
    rw [askedHere]
    show (Tab.grid _ _ _ _ _ >>= _) = _
    rw [gridHere]
    show (checkPitches _ _ _ _ >>= _) = _
    rw [checked]
    rfl

/-- What is read depends on the settings of a voice, and on its strings. -/
theorem readTab_congr {w : Voice} (config : w.config = v.config) (tuning : w.tuning = v.tuning) :
    readTab w parts stated = readTab v parts stated := by
  unfold readTab Voice.stringCount Voice.roots Voice.beats Voice.tabStyle
  rw [config, tuning]

/-- Tabs that are read with the same beats are read together. -/
theorem readTab_continued (asks : TabText.Asks v parts stated beats texts)
    (asks' : TabText.Asks v parts' stated' beats nexts)
    (asksBoth : TabText.Asks v both statedBoth beats (Tab.continuedLines texts nexts))
    (same : v.tabStyle = .frets → Tab.SameWidth texts nexts)
    (read : readTab v parts stated = .ok g) (read' : readTab v parts' stated' = .ok g') :
    readTab v both statedBoth = .ok (g.continued g') ∧
      (g.continued g').columns = g.columns ++ g'.columns := by
  obtain ⟨_, asked, beats₁, lines⟩ := asks
  obtain ⟨_, asked', beats₂, lines'⟩ := asks'
  obtain ⟨_, askedBoth, beats₃, linesBoth⟩ := asksBoth
  obtain ⟨_, here, grid, checked⟩ := readTab_ok_iff.1 read
  obtain ⟨_, there, grid', checked'⟩ := readTab_ok_iff.1 read'
  rw [asked] at here
  rw [asked'] at there
  cases here
  cases there
  rw [beats₁] at grid
  rw [beats₂] at grid'
  have uniform : v.tabStyle.uniformTabs = true → Tab.SameWidth texts nexts := by
    cases style : v.tabStyle with
    | frets => exact fun _ => same style
    | hits => exact nofun
  obtain ⟨count, rectangular⟩ := Tab.grid_shape grid
  obtain ⟨count', -⟩ := Tab.grid_shape grid'
  refine ⟨readTab_ok_iff.2 ⟨_, askedBoth, ?_, checkPitches_continued checked checked'⟩,
    Grid.columns_continued (count.trans count'.symm) rectangular⟩
  rw [beats₃]
  exact Tab.grid_continued lines lines' linesBoth uniform grid grid'

end Play

/-! ## §3. Playing. -/

namespace Play

variable [ChanceSource γ] {desk last : Desk (Player γ)} {g : Grid} {parts : List Datum}
  {stated : Datum}

/-- What a tab does: an open voice reads it, and plays its grid. -/
theorem start_tab (desk : Desk (Player γ)) (parts : List Datum) (stated : Datum) :
    (tab parts stated).start desk =
      if desk.state.voice.finished then (.error (.alreadyFinished desk.state.voice.name), desk)
      else match readTab desk.state.voice parts stated with
        | .ok g => (playGrid g).start desk
        | .error f => (.error f, desk) := by
  unfold tab
  rw [Act.start_bind]
  have checked : (requireOpen : Play γ Unit).start desk =
      if desk.state.voice.finished then (.error (.alreadyFinished desk.state.voice.name), desk)
      else (.ok (), desk) := by
    show (if desk.state.voice.finished then _ else _ : Play γ Unit).start desk = _
    split <;> rfl
  rw [checked]
  cases desk.state.voice.finished with
  | true => rfl
  | false =>
    show (liftM (readTab desk.state.voice parts stated) >>= playGrid : Play γ Unit).start desk = _
    rw [Act.start_bind, Act.start_lift]
    cases readTab desk.state.voice parts stated <;> rfl

/-- What a grid does: its columns are played, and their number is reported. -/
theorem start_playGrid (desk : Desk (Player γ)) (g : Grid) :
    (playGrid g).start desk =
      match (columns desk.state.voice.clock g.columns).start desk with
      | (.ok clock, after) =>
        (Act.report .debug .instrument [.shown after.state.voice.name, ": played ",
          g.steps.length, " tab columns, clock ", clock]).start
            ⟨after.state.arrived clock, after.journal⟩
      | (.error f, after) => (.error f, after) := by
  unfold playGrid
  show ((columns desk.state.voice.clock g.columns >>= _ : Play γ Unit)).start desk = _
  rw [Act.start_bind]
  cases (columns desk.state.voice.clock g.columns).start desk with
  | mk outcome after => cases outcome <;> rfl

/-- A tab that is played has been read by an open voice, and its columns lead to where it ends. -/
theorem tab_arrived (ran : (tab parts stated).start desk = (.ok (), last)) :
    ∃ g clock after, desk.state.voice.finished = false ∧
      readTab desk.state.voice parts stated = .ok g ∧
      (columns desk.state.voice.clock g.columns).start desk = (.ok clock, after) ∧
      last.state = after.state.arrived clock := by
  rw [start_tab] at ran
  cases isOpen : desk.state.voice.finished with
  | true =>
    rw [isOpen] at ran
    cases ran
  | false =>
    rw [isOpen, if_neg Bool.false_ne_true] at ran
    cases read : readTab desk.state.voice parts stated with
    | error f =>
      rw [read] at ran
      cases ran
    | ok g =>
      rw [read] at ran
      dsimp only at ran
      rw [start_playGrid] at ran
      cases played : (columns desk.state.voice.clock g.columns).start desk with
      | mk outcome after =>
        rw [played] at ran
        cases outcome with
        | error f => cases ran
        | ok clock =>
          dsimp only at ran
          rw [Act.start_report] at ran
          split at ran
          · cases ran
            exact ⟨g, clock, after, rfl, rfl, played, rfl⟩
          · cases ran

/-- A tab that an open voice reads ends where its columns lead.  Only its report may still fail, if
it has more columns than can be written. -/
theorem tab_arrives {clock : Quantity} {after : Desk (Player γ)}
    (isOpen : desk.state.voice.finished = false)
    (read : readTab desk.state.voice parts stated = .ok g)
    (played : (columns desk.state.voice.clock g.columns).start desk = (.ok clock, after)) :
    ((tab parts stated).start desk).2.state = after.state.arrived clock ∧
      (((tab parts stated).start desk).1 = .ok () ∨
        ((tab parts stated).start desk).1 = .error .numberTooLong) := by
  rw [start_tab, isOpen, if_neg Bool.false_ne_true, read]
  dsimp only
  rw [start_playGrid, played]
  dsimp only
  rw [Act.start_report]
  split
  · exact ⟨rfl, .inl rfl⟩
  · exact ⟨rfl, .inr rfl⟩

/-- Columns keep the settings of the voice, and its strings. -/
theorem columns_grown {tick clock : Quantity} {cs : List (Quantity × Text)}
    {after : Desk (Player γ)} (isOpen : desk.state.voice.finished = false)
    (played : (columns tick cs).start desk = (.ok clock, after)) :
    desk.state.voice.Grown after.state.voice := by
  have ends := (ensures_columns isOpen tick cs).ends desk.journal
  have same : (⟨desk.state, desk.journal⟩ : Desk (Player γ)) = desk := rfl
  rw [same, played] at ends
  obtain ⟨nominals, -, onsets⟩ := ends
  exact onsets.grown

/-- Tabs are continued at bars: a tab of which each line goes on, after the bar at its end, with a
line of another tab leaves the player as the one tab leaves it after the other.  The events, the
clock, the strings, the volume, the last strike and the source of chance are all part of this. -/
theorem tab_continued {partsA partsB partsAB : List Datum}
    {statedA statedB statedAB beats : Datum} {texts nexts : List Text}
    {desk mid last : Desk (Player γ)}
    (asksA : TabText.Asks desk.state.voice partsA statedA beats texts)
    (asksB : TabText.Asks desk.state.voice partsB statedB beats nexts)
    (asksAB : TabText.Asks desk.state.voice partsAB statedAB beats
      (Tab.continuedLines texts nexts))
    (same : desk.state.voice.tabStyle = .frets → Tab.SameWidth texts nexts)
    (ranA : (tab partsA statedA).start desk = (.ok (), mid))
    (ranB : (tab partsB statedB).start mid = (.ok (), last)) :
    ((tab partsAB statedAB).start desk).2.state = last.state ∧
      (((tab partsAB statedAB).start desk).1 = .ok () ∨
        ((tab partsAB statedAB).start desk).1 = .error .numberTooLong) := by
  obtain ⟨g, c, after, isOpen, read, played, arrived⟩ := tab_arrived ranA
  obtain ⟨g', c', after', -, read', played', arrived'⟩ := tab_arrived ranB
  -- The second tab is read in the same way, and its columns begin where those of the first end.
  have grown := columns_grown isOpen played
  have alike : readTab (after.state.arrived c).voice partsB statedB =
      readTab desk.state.voice partsB statedB := readTab_congr grown.config grown.tuning
  rw [arrived] at read' played'
  rw [alike] at read'
  change (columns c g'.columns).start mid = _ at played'
  obtain ⟨readBoth, columnsBoth⟩ := readTab_continued asksA asksB asksAB same read read'
  -- Only the clock was set in between.
  have apart : after.state.OffClock mid.state := by
    rw [arrived]
    exact after.state.offClock_arrived c
  obtain ⟨outcome, states⟩ := untimed_columns untimed_offClock g'.columns c after mid apart
  rw [played'] at outcome states
  have playedBoth : (columns desk.state.voice.clock (g.continued g').columns).start desk =
      (.ok c', ((columns c g'.columns).start after).2) := by
    rw [columnsBoth, columns_append, Act.start_bind, played]
    exact Prod.ext outcome rfl
  obtain ⟨ends, reported⟩ := tab_arrives isOpen readBoth playedBoth
  refine ⟨?_, reported⟩
  rw [ends, arrived']
  exact states.arrived c'

/-- A new player of two drums.  Strikes stray in time and in force, as some draws say. -/
def twoDrums : Except Fault (Player Script) := do
  let config ← Config.ofOptions [("percussion", .truth true),
    ("strings", .list [.whole 35, .whole 42]), ("rtime", .whole 5), ("rvol", .whole 5)]
  let voice ← Voice.create config (← Tuning.ofConfig config) false
  return ⟨voice, some [.ofInt 3, .ofInt (-2), .ofInt 1]⟩

/-- A measure of two columns goes on with a measure of four columns, and one of two. -/
theorem twoDrums_continued :
    ∃ p mid last, twoDrums = .ok p ∧
      (tab [.text "|9-|", .text "|-4|"] .null).start ⟨p, #[]⟩ = (.ok (), mid) ∧
      (tab [.text "|5---|--|\n|-3--|9-|"] .null).start mid = (.ok (), last) ∧
      last.state.voice.events.size = 5 ∧
      ((tab [.text "|9-|5---|--|", .text "|-4|-3--|9-|"] .null).start ⟨p, #[]⟩).2.state =
        last.state := by
  have seen : (twoDrums.toOption.map fun p =>
      let first := (tab [.text "|9-|", .text "|-4|"] .null).start ⟨p, #[]⟩
      let second := (tab [.text "|5---|--|\n|-3--|9-|"] .null).start first.2
      (p.voice.tabStyle, first.1.toBool, second.1.toBool, second.2.state.voice.events.size)) =
        some (.hits, true, true, 5) := by
    decide +kernel
  obtain ⟨p, created, seen⟩ := exists_ok_of_seen seen
  simp only [Prod.mk.injEq] at seen
  obtain ⟨style, first, second, size⟩ := seen
  obtain ⟨⟨⟩, outcomeA⟩ := exists_ok_of_toBool first
  obtain ⟨⟨⟩, outcomeB⟩ := exists_ok_of_toBool second
  have ranA : (tab [.text "|9-|", .text "|-4|"] .null).start ⟨p, #[]⟩ = (.ok (), _) :=
    Prod.ext outcomeA rfl
  have ranB : (tab [.text "|5---|--|\n|-3--|9-|"] .null).start _ = (.ok (), _) :=
    Prod.ext outcomeB rfl
  have asksA : TabText.Asks p.voice [.text "|9-|", .text "|-4|"] .null (.whole p.voice.beats)
      ["9-", "-4"] := ⟨_, rfl, rfl, rfl⟩
  have asksB : TabText.Asks p.voice [.text "|5---|--|\n|-3--|9-|"] .null (.whole p.voice.beats)
      ["5---|--", "-3--|9-"] := ⟨_, rfl, rfl, rfl⟩
  have asksAB : TabText.Asks p.voice [.text "|9-|5---|--|", .text "|-4|-3--|9-|"] .null
      (.whole p.voice.beats) (Tab.continuedLines ["9-", "-4"] ["5---|--", "-3--|9-"]) :=
    ⟨_, rfl, rfl, rfl⟩
  have drums : p.voice.tabStyle = .frets → Tab.SameWidth ["9-", "-4"] ["5---|--", "-3--|9-"] := by
    rw [style]
    exact nofun
  obtain ⟨same, -⟩ := tab_continued asksA asksB asksAB drums ranA ranB
  exact ⟨p, _, _, created, ranA, ranB, size, same⟩

end Play
end Plectrum
