/-
  Plectrum.Proofs.Lasting
  ───────────────────────
  **What lasts through every call.**

  A move that fails may have played a part of its music, so what is to hold at every
  point of a session has to hold after broken onsets as well.  `Voice.Lasting` names the
  four steps that all moves are made of.  A relation that each of them keeps lasts
  through every move, in whatever way the move ends, and a property of bands that each
  call keeps holds at every point of every session.

  Main results:
    * `Move.ensures_lasting` — a lasting relation holds across every move;
    * `Voice.Evolved.lasting` — settings, tuning and status never change while a voice is
      played, and whatever is recorded is the start or the end of a note;
    * `Session.run_keeps` — what each call keeps, a session keeps, failed calls included;
    * `Band.Throughout.run_evolved` — so properties of voices that playing keeps hold throughout.
-/
import Plectrum.Proofs.Sessions

namespace Plectrum

/-! ## §1. Events that are notes. -/

/-- The start of a note on a channel at a force that can be heard, or the end of one. -/
inductive Happening.IsNote (channel : Datum) : Happening → Prop where
  | start (pitch : Datum) {velocity : Int} (low : 1 ≤ velocity) (high : velocity ≤ 127) :
    IsNote channel (.noteOn channel pitch (.whole velocity))
  | stop (pitch : Datum) : IsNote channel (.noteOff channel pitch (.whole 0))

/-- Events of which each is a note on one channel. -/
def Event.AreNotes (channel : Datum) (events : List Event) : Prop :=
  ∀ e ∈ events, e.what.IsNote channel

namespace Event.AreNotes

variable {channel : Datum} {es es' : List Event}

theorem nil : AreNotes channel [] := by
  intro e here
  cases here

theorem single {e : Event} (note : e.what.IsNote channel) : AreNotes channel [e] := by
  intro f here
  rw [List.mem_singleton] at here
  exact here ▸ note

theorem append (h : AreNotes channel es) (h' : AreNotes channel es') :
    AreNotes channel (es ++ es') := by
  intro e here
  cases List.mem_append.1 here with
  | inl here => exact h e here
  | inr here => exact h' e here

end Event.AreNotes

section Strikes

variable {config : Config} {tuning : Tuning} {tick : Int} {stray : Binary64} {closes : Bool}
variable {bank bank' : Bank} {es : List Event}

theorem Bank.cutIf_areNotes (bank : Bank) (closes : Bool) (channel : Datum) (tick : Int)
    (index : Nat) : Event.AreNotes channel (bank.cutIf closes channel tick index) := by
  unfold cutIf cut
  split
  · split
    · exact .single (.stop _)
    · exact .nil
  · exact .nil

/-- A strike records notes and nothing else. -/
theorem Struck.areNotes (h : Struck config tuning tick stray closes bank es bank') :
    Event.AreNotes config.channelDatum es := by
  cases h with
  | muted index pitch =>
    refine (bank.cutIf_areNotes closes _ tick index).append ?_
    split
    · exact .nil
    · exact .single (.stop _)
  | sounded index pitch velocity onString low high =>
    exact (bank.cutIf_areNotes closes _ tick index).append (.single (.start _ low high))
  | strayedOut index pitch =>
    exact (bank.cutIf_areNotes closes _ tick index).append (.single (.stop _))

theorem Strikes.areNotes (h : Strikes config tuning tick stray closes bank es bank') :
    Event.AreNotes config.channelDatum es := by
  induction h with
  | nil => exact .nil
  | cons first _ ih => exact first.areNotes.append ih

theorem BrokenOff.areNotes (h : BrokenOff config tuning tick stray closes bank es bank') :
    Event.AreNotes config.channelDatum es := by
  cases h with
  | between done => exact done.areNotes
  | within index done => exact done.areNotes.append (Bank.cutIf_areNotes _ closes _ tick index)

end Strikes

/-! ## §2. Relations that last. -/

/-- A relation from a voice to what becomes of it that the steps of all moves keep: quiet
acts, onsets that may break off, and single notes; and that goes on from step to step. -/
structure Voice.Lasting (γ : Type) [ChanceSource γ] (R : Voice → Voice → Prop) : Prop where
  trans : ∀ {v w x : Voice}, R v w → R w x → R v x
  quiet : ∀ {v w : Voice}, v.Quiet w → R v w
  onset : ∀ {closes : Bool} {nominal : Quantity} {v w : Voice},
    BrokenOnset γ closes nominal v w → R v w
  note : ∀ {v : Voice} {e : Event} (d : Loudness), e.what.IsNote v.channel →
    R v (v.extended d v.sounding [e])

/-- A voice after silence, or with another clock. -/
theorem Voice.quiet_rest (v : Voice) (clock skip : Quantity) : v.Quiet { v with clock, skip } :=
  ⟨rfl, rfl, rfl, rfl, rfl, rfl, rfl, rfl⟩

/-- A voice of which at most the volume has moved. -/
theorem Voice.quiet_extended (v : Voice) (d : Loudness) : v.Quiet (v.extended d v.sounding []) :=
  ⟨rfl, rfl, rfl, rfl, rfl, Array.append_empty, rfl, rfl⟩

/-- An onset that is complete is one that broke off after its last strike. -/
theorem Onset.broken {γ : Type} [ChanceSource γ] {closes : Bool} {nominal : Quantity}
    {v w : Voice} (h : Onset γ closes nominal v w) : BrokenOnset γ closes nominal v w := by
  obtain ⟨d, lands, strays, strikes⟩ := h
  exact .struck d lands strays (.between strikes)

namespace Voice.Lasting

variable {γ : Type} [ChanceSource γ] {R : Voice → Voice → Prop} {closes : Bool}
variable {nominals : List Quantity} {groups : List Group} {v w : Voice}

theorem onsetsUpTo (h : Lasting γ R) (played : OnsetsUpTo γ closes nominals v w) : R v w := by
  induction played with
  | nil v => exact h.quiet (.refl v)
  | last broken => exact h.onset broken
  | cons first _ ih => exact h.trans (h.onset first.broken) ih

theorem measured (h : Lasting γ R) (played : Measured γ groups v w) : R v w := by
  obtain ⟨nominals, x, clock, -, onsets, -, rfl⟩ := played
  exact h.trans (h.onsetsUpTo onsets.upTo) (h.quiet (x.quiet_rest clock x.skip))

theorem measures (h : Lasting γ R) {count : Nat} (played : Measures γ groups count v w) :
    R v w := by
  induction played with
  | nil v => exact h.quiet (.refl v)
  | cons first _ ih => exact h.trans (h.measured first) ih

theorem measuresUpTo (h : Lasting γ R) {count : Nat} (played : MeasuresUpTo γ groups count v w) :
    R v w := by
  obtain ⟨done, x, -, measures, _, nominals, -, -, onsets⟩ := played
  exact h.trans (h.measures measures) (h.onsetsUpTo onsets)

theorem tabbed (h : Lasting γ R) {grid : Grid} (played : Tabbed γ grid v w) : R v w := by
  obtain ⟨nominals, x, clock, -, onsets, rfl⟩ := played
  exact h.trans (h.onsetsUpTo onsets.upTo) (h.quiet (x.quiet_rest clock _))

theorem tabbedUpTo (h : Lasting γ R) {grid : Grid} (played : TabbedUpTo γ grid v w) : R v w := by
  obtain ⟨done, step, ticks, last, nominals, -, -, -, onsets⟩ := played
  exact h.onsetsUpTo onsets

theorem played (h : Lasting γ R) {sheet : Sheet} (played : sheet.Played γ v w) : R v w := by
  cases sheet with
  | measures p parsed => exact h.trans (h.quiet (v.quiet_rest v.clock _)) (h.measures played)
  | grid g => exact h.tabbed played

theorem partlyPlayed (h : Lasting γ R) {sheet : Sheet} (played : sheet.PartlyPlayed γ v w) :
    R v w := by
  cases sheet with
  | measures p parsed =>
    have silenced := h.quiet (v.quiet_rest v.clock (.whole 0))
    obtain rfl | broken | complete := played
    · exact h.quiet (.refl w)
    · exact h.trans silenced (h.measuresUpTo broken)
    · exact h.trans silenced (h.measures complete)
  | grid g =>
    cases played with
    | inl broken => exact h.tabbedUpTo broken
    | inr complete => exact h.tabbed complete

end Voice.Lasting

/-! ## §3. Moves. -/

section Moves

variable {γ : Type} {p : Player γ}

/-- A single note records at most one event, and that is a note.  Where it fails, at most
the volume has moved. -/
theorem Play.ensures_note (tick pitch velocity : Datum) :
    (note tick pitch velocity).Ensures p
      (fun _ q => ∃ d e, e.what.IsNote p.voice.channel ∧ q = p.extended d p.voice.sounding [e])
      (fun _ q => ∃ d, q = p.extended d p.voice.sounding []) := by
  have unchanged : ∃ d, p = p.extended d p.voice.sounding [] := ⟨_, p.extended_nil.symm⟩
  cases isOpen : p.voice.finished with
  | true =>
    unfold note
    rw [ensures_requireOpen_bind, if_pos isOpen]
    exact unchanged
  | false =>
    cases velocity with
    | number force =>
      cases silent : force.le (.whole 0) with
      | true =>
        refine (ensures_note_stop isOpen tick pitch silent).mono ?_ fun _ _ never => never.elim
        intro _ q stopped
        exact ⟨_, _, .stop pitch, stopped⟩
      | false =>
        refine (ensures_note_start isOpen tick pitch silent).mono ?_ fun _ _ halted => halted.2
        rintro _ q ⟨d, loud, low, high, started⟩
        exact ⟨d, _, .start pitch low high, started⟩
    | _ =>
      unfold note
      rw [ensures_open_bind isOpen, ensures_voice_bind]
      exact (Act.ensures_throw_bind _ _).2 unchanged

variable [ChanceSource γ] {R : Voice → Voice → Prop}

/-- A relation that lasts holds across every move, whether it goes well or fails. -/
theorem Move.ensures_lasting (h : Voice.Lasting γ R) (m : Move) (p : Player γ) :
    m.act.Ensures p (fun _ q => R p.voice q.voice) (fun _ q => R p.voice q.voice) := by
  cases scored : m.isNote with
  | true =>
    cases m with
    | note tick pitch velocity =>
      refine (Play.ensures_note tick pitch velocity).mono ?_ ?_
      · rintro _ _ ⟨d, e, note, rfl⟩
        exact h.note d note
      · rintro _ _ ⟨d, rfl⟩
        exact h.quiet (p.voice.quiet_extended d)
    | _ => cases scored
  | false =>
    cases m.passage_or_quiet (γ := γ) scored with
    | inr quiet => exact (quiet p).mono (fun _ _ => h.quiet) fun _ _ => h.quiet
    | inl passage =>
      obtain ⟨c, same⟩ := passage
      rw [same]
      cases isOpen : p.voice.finished with
      | true =>
        rw [Play.ensures_passage_finished isOpen]
        exact h.quiet (.refl _)
      | false =>
        refine (Play.ensures_passage isOpen c).mono ?_ ?_
        · rintro _ q ⟨sheet, -, played⟩
          exact h.played played
        · rintro f q (⟨-, rfl⟩ | ⟨sheet, -, -, partly⟩)
          · exact h.quiet (.refl _)
          · exact h.partlyPlayed partly

end Moves

/-! ## §4. What stays of a voice. -/

/-- What becomes of a voice while it is played: it stays what it is, and the events it gains
are notes on its channel. -/
structure Voice.Evolved (v w : Voice) : Prop where
  config : w.config = v.config
  tuning : w.tuning = v.tuning
  auxiliary : w.auxiliary = v.auxiliary
  finished : w.finished = v.finished
  events : ∃ es, w.events = v.events ++ es ∧ Event.AreNotes v.channel es.toList

namespace Voice.Evolved

variable {γ : Type} {v w x : Voice}

theorem refl (v : Voice) : v.Evolved v :=
  ⟨rfl, rfl, rfl, rfl, #[], Array.append_empty.symm, .nil⟩

theorem channel (h : v.Evolved w) : w.channel = v.channel := by
  unfold Voice.channel
  rw [h.config]

theorem trans (h : v.Evolved w) (h' : w.Evolved x) : v.Evolved x := by
  obtain ⟨es, more, notes⟩ := h.events
  obtain ⟨es', more', notes'⟩ := h'.events
  refine ⟨h'.config.trans h.config, h'.tuning.trans h.tuning, h'.auxiliary.trans h.auxiliary,
    h'.finished.trans h.finished, es ++ es', ?_, ?_⟩
  · rw [more', more, Array.append_assoc]
  · rw [Array.toList_append]
    exact notes.append (h.channel ▸ notes')

theorem extended (v : Voice) (d : Loudness) (bank : Bank) {es : List Event}
    (notes : Event.AreNotes v.channel es) : v.Evolved (v.extended d bank es) :=
  ⟨rfl, rfl, rfl, rfl, es.toArray, rfl, notes⟩

theorem of_quiet (h : v.Quiet w) : v.Evolved w := by
  refine ⟨h.config, h.tuning, h.auxiliary, h.finished, #[], ?_, .nil⟩
  rw [h.events, Array.append_empty]

theorem struckAt (v : Voice) (nominal : Quantity) (tick : Int) :
    v.Evolved (v.struckAt nominal tick) :=
  ⟨rfl, rfl, rfl, rfl, #[], Array.append_empty.symm, .nil⟩

/-- All moves keep what a voice is, and record notes only. -/
theorem lasting [ChanceSource γ] : Voice.Lasting γ Evolved where
  trans h h' := h.trans h'
  quiet h := .of_quiet h
  onset h := by
    cases h with
    | landed => exact .struckAt _ _ _
    | struck d _ _ strikes =>
      exact (struckAt _ _ _).trans (.extended _ d _ strikes.areNotes)
  note d note := .extended _ d _ (.single note)

end Voice.Evolved

/-! ## §5. Sessions of any outcome. -/

namespace Session

variable {γ : Type} [ChanceSource γ] {I : Band γ → Prop}

/-- What each allowed call keeps, in whatever way it ends, every session of such calls keeps. -/
theorem run_allowed {allowed : Call → Prop}
    (keeps : ∀ (call : Call) (band : Band γ), allowed call → I band →
      call.perform.Ensures band (fun _ b => I b) fun _ b => I b)
    {calls : List Call} (asked : ∀ call ∈ calls, allowed call) {desk : Desk (Band γ)}
    (start : I desk.state) : I (run calls desk).state := by
  induction calls generalizing desk with
  | nil => exact start
  | cons call calls ih =>
    obtain ⟨here, there⟩ := List.forall_mem_cons.1 asked
    exact ih there ((keeps call desk.state here start).always desk.journal)

/-- What each call keeps, in whatever way it ends, every session keeps. -/
theorem run_keeps
    (keeps : ∀ (call : Call) (band : Band γ), I band →
      call.perform.Ensures band (fun _ b => I b) fun _ b => I b)
    (calls : List Call) {desk : Desk (Band γ)} (start : I desk.state) :
    I (run calls desk).state :=
  run_allowed (fun call band (_ : True) => keeps call band) (fun _ _ => True.intro) start

end Session

section Throughout

variable {γ : Type} [ChanceSource γ] {P : Voice → Prop} {desk : Desk (Band γ)} {calls : List Call}

/-- A property of voices that new voices have, and that closing and each allowed move keep, in
whatever way the move ends, holds of every voice at every point of a session of such moves. -/
theorem Band.Throughout.run_kept {allowed : Move → Prop} (new : ∀ v : Voice, v.New → P v)
    (close : ∀ v, P v → P v.close)
    (keeps : ∀ m, allowed m → ∀ p : Player γ, P p.voice →
      m.act.Ensures p (fun _ q => P q.voice) fun _ q => P q.voice)
    (asked : ∀ part m, .move part m ∈ calls → allowed m) (start : desk.state.Throughout P) :
    (Session.run calls desk).state.Throughout P := by
  have kept : ∀ m, allowed m → ∀ p : Player γ, P p.voice →
      m.act.Ensures p (fun _ q => P q.voice) fun _ q => True → P q.voice := fun m asked p here =>
    (keeps m asked p here).mono (fun _ _ h => h) fun _ _ h _ => h
  refine Session.run_allowed (fun call band (asked : ∀ part m, call = .move part m → allowed m)
    here => ?_) (fun call here part m same => asked part m (same ▸ here)) start
  have contract := call.ensures_throughout new close kept here asked
  exact contract.mono (fun _ _ h => h) fun _ _ h => h True.intro

/-- A property of voices that new voices have, and that playing and closing keep, holds of every
voice at every point of every session. -/
theorem Band.Throughout.run_evolved (new : ∀ v : Voice, v.New → P v)
    (close : ∀ v, P v → P v.close) (evolved : ∀ v w : Voice, v.Evolved w → P v → P w)
    (start : desk.state.Throughout P) (calls : List Call) :
    (Session.run calls desk).state.Throughout P := by
  have keeps : ∀ m : Move, True → ∀ p : Player γ, P p.voice →
      m.act.Ensures p (fun _ q => P q.voice) fun _ q => P q.voice := by
    intro m _ p here
    refine (m.ensures_lasting Voice.Evolved.lasting p).mono ?_ ?_
    · exact fun _ q h => evolved p.voice q.voice h here
    · exact fun _ q h => evolved p.voice q.voice h here
  exact run_kept new close keeps (fun _ _ _ => True.intro) start

end Throughout

end Plectrum
