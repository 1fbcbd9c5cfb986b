/-
  Plectrum.Proofs.Finality
  ────────────────────────
  **Finishing is all or nothing, and final.**

  The voices of a band belong together: one master, auxiliaries that came to it, and all
  of them open or all finished.  Finishing builds every track before it closes anyone.  A
  track that cannot be built leaves the desk exactly as it was, so the same fault comes
  again; and when all tracks have been built, every voice is closed, whatever becomes of
  the file.  A band that is over stays as it is through every further call.

  Main results:
    * `Band.Family.run` — the voices of a band are open together or finished together, at
      every point of every session;
    * `Session.run_over` — no call changes anything of a band that is over;
    * `Session.finality` — the three together, for every session of a new band.
-/
import Plectrum.Proofs.Lasting
import Plectrum.Proofs.Overruns

namespace Plectrum

variable {γ : Type}

/-! ## §1. Voices of a band, part by part. -/

namespace Band

variable {band : Band γ} {part other : Part} {v w : Voice}

theorem voice_append (band : Band γ) (aux : Voice)
    (plays : Band.voice? { band with auxiliaries := band.auxiliaries ++ [aux] } part = some v) :
    band.voice? part = some v ∨ part ≠ .master ∧ v = aux := by
  cases part with
  | master => exact .inl plays
  | auxiliary i =>
    change (band.auxiliaries ++ [aux])[i]? = some v at plays
    by_cases inside : i < band.auxiliaries.length
    · rw [List.getElem?_append_left inside] at plays
      exact .inl plays
    · rw [List.getElem?_append_right (Nat.le_of_not_lt inside)] at plays
      have last := List.mem_of_getElem? plays
      rw [List.mem_singleton] at last
      exact .inr ⟨Part.noConfusion, last⟩

/-- The voices of a closed band are the closed voices of the band. -/
theorem voice_close (band : Band γ) (folder : Folder)
    (plays : Band.voice? { band.close with folder } part = some w) :
    ∃ v, band.voice? part = some v ∧ w = v.close := by
  cases part with
  | master =>
    cases plays
    exact ⟨band.master, rfl, rfl⟩
  | auxiliary i =>
    change (band.auxiliaries.map Voice.close)[i]? = some w at plays
    rw [List.getElem?_map, Option.map_eq_some_iff] at plays
    obtain ⟨v, here, closed⟩ := plays
    exact ⟨v, here, closed.symm⟩

end Band

/-! ## §2. Bands whose voices belong together. -/

/-- The voices of a band belong together: its master is no auxiliary and all others are,
they are all open or all finished, and each has a name that can be written. -/
structure Band.Family (band : Band γ) : Prop where
  auxiliary : ∀ part v, band.voice? part = some v → (v.auxiliary = false ↔ part = .master)
  together : ∀ part v, band.voice? part = some v → v.finished = band.master.finished
  named : ∀ part v, band.voice? part = some v → v.Named

namespace Band.Family

variable {band : Band γ} {part : Part} {v : Voice}

theorem master (h : band.Family) : band.master.auxiliary = false :=
  (h.auxiliary .master _ rfl).2 rfl

theorem of_created (created : band.Created) : band.Family := by
  obtain ⟨-, named, master, -⟩ := created.begun
  refine ⟨fun part v plays => ?_, fun part v plays => ?_, fun part v plays => ?_⟩
  · obtain ⟨rfl, rfl⟩ := created.only plays
    exact iff_of_true master rfl
  · rw [(created.only plays).2]
  · rw [(created.only plays).2]
    exact named

/-- Playing on one part keeps what the voice is, and whether it is finished. -/
theorem played (h : band.Family) (plays : band.voice? part = some v) {q : Player γ}
    (evolved : v.Evolved q.voice) : (band.played part q).Family := by
  have before : ∀ other w, (band.played part q).voice? other = some w →
      ∃ u, band.voice? other = some u ∧ u.Evolved w := by
    intro other w playsOther
    by_cases same : part = other
    · subst same
      rw [voice_played_self plays] at playsOther
      cases playsOther
      exact ⟨v, plays, evolved⟩
    · rw [voice_played_other same] at playsOther
      exact ⟨w, playsOther, .refl w⟩
  obtain ⟨u, masterBefore, masterEvolved⟩ := before .master _ rfl
  cases masterBefore
  refine ⟨fun other w here => ?_, fun other w here => ?_, fun other w here => ?_⟩
  · obtain ⟨u, playsBefore, evolved⟩ := before other w here
    rw [evolved.auxiliary]
    exact h.auxiliary other u playsBefore
  · obtain ⟨u, playsBefore, evolved⟩ := before other w here
    rw [evolved.finished, masterEvolved.finished]
    exact h.together other u playsBefore
  · obtain ⟨u, playsBefore, evolved⟩ := before other w here
    show w.config.name.isWritable = true
    rw [evolved.config]
    exact h.named other u playsBefore

/-- A voice that joins comes to the open master, and is open too. -/
theorem joined (h : band.Family) {aux : Voice} {after : Band γ}
    (joins : band.Joined part aux after) : after.Family := by
  obtain ⟨options, -, -, fresh⟩ := joins.new.fresh
  obtain ⟨v, plays, isOpen, master⟩ := joins.caller
  have masterOpen : band.master.finished = false := by
    rw [← h.together part v plays]
    exact isOpen
  rw [joins.band]
  refine ⟨fun other w here => ?_, fun other w here => ?_, fun other w here => ?_⟩
  · obtain before | ⟨apart, rfl⟩ := band.voice_append aux here
    · exact h.auxiliary other w before
    · rw [joins.auxiliary]
      exact iff_of_false Bool.noConfusion apart
  · obtain before | ⟨-, rfl⟩ := band.voice_append aux here
    · exact h.together other w before
    · exact fresh.finished.trans masterOpen.symm
  · obtain before | ⟨-, rfl⟩ := band.voice_append aux here
    · exact h.named other w before
    · exact joins.named

/-- Closing closes all. -/
theorem close (h : band.Family) (folder : Folder) :
    Band.Family { band.close with folder } := by
  refine ⟨fun other w here => ?_, fun other w here => ?_, fun other w here => ?_⟩
  · obtain ⟨v, before, rfl⟩ := band.voice_close folder here
    exact h.auxiliary other v before
  · obtain ⟨v, before, rfl⟩ := band.voice_close folder here
    rfl
  · obtain ⟨v, before, rfl⟩ := band.voice_close folder here
    exact h.named other v before

variable [ChanceSource γ]

/-- Every call keeps a family together, in whatever way it ends. -/
theorem call (h : band.Family) (call : Call) :
    call.perform.Ensures band (fun _ b => b.Family) fun _ b => b.Family := by
  cases call with
  | move part m =>
    refine Perform.ensures_on (fun _ _ => h) fun v plays => ?_
    refine (m.ensures_lasting Voice.Evolved.lasting ⟨v, band.chance⟩).mono ?_ ?_
    · intro _ q evolved
      exact h.played plays evolved
    · intro _ q evolved
      exact h.played plays evolved
  | join part options =>
    refine ((Perform.ensures_join part options).mono (fun _ _ joins => joins) ?_).bind ?_
    · intro f b same
      exact same ▸ h
    · intro aux b joins
      exact (Act.ensures_pure _).2 (h.joined joins)
  | finish part midi attribution =>
    refine ((Perform.ensures_finish part midi attribution).mono (fun _ _ ends => ends) ?_).bind ?_
    · rintro f b (⟨-, rfl⟩ | ⟨v, -, -, -, ⟨-, rfl⟩ | ⟨-, s, folder, -, rfl⟩⟩)
      · exact h
      · exact h
      · exact h.close folder
    · rintro song b ⟨v, -, -, ⟨-, -, rfl⟩ | ⟨-, s, folder, -, -, rfl⟩⟩
      · exact (Act.ensures_pure _).2 h
      · exact (Act.ensures_pure _).2 (h.close folder)

/-- At every point of every session the voices of a band belong together. -/
theorem run {desk : Desk (Band γ)} (h : desk.state.Family) (calls : List Call) :
    (Session.run calls desk).state.Family :=
  Session.run_keeps (fun call _ h => h.call call) calls h

end Band.Family

/-! ## §3. Voices that are finished. -/

/-- A voice after the end: finished, with no events, and silent. -/
structure Voice.Ended (v : Voice) : Prop where
  finished : v.finished = true
  events : v.events = #[]
  silent : ∀ sounding ∈ v.sounding, sounding = none

theorem Voice.ended_close (v : Voice) : v.close.Ended := by
  refine ⟨rfl, rfl, ?_⟩
  intro sounding here
  obtain ⟨before, -, closed⟩ := List.mem_map.1 here
  exact closed.symm

/-- A band after the end: every voice has ended. -/
def Band.Over (band : Band γ) : Prop := band.Throughout Voice.Ended

theorem Band.over_close (band : Band γ) (folder : Folder) :
    Band.Over { band.close with folder } := by
  intro part w plays
  obtain ⟨v, -, rfl⟩ := band.voice_close folder plays
  exact v.ended_close

/-- Silence, which may be no measure at all. -/
def Move.isRest : Move → Bool
  | .rest _ => true
  | _ => false

/-- A call that a finished voice has to refuse: every move but silence, and joining it.  (The
key of the instrument itself among the options makes no call at all.) -/
def Call.IsDemand (band : Band γ) : Call → Prop
  | .move part m => (band.voice? part).isSome = true ∧ m.isRest = false
  | .join part options => (band.voice? part).isSome = true ∧ options.has Setup.ownKey = false
  | .finish .. => False

/-- A call that is refused as a mistake in the configuration. -/
def Refused {α : Type} (outcome : Except Fault α) : Prop :=
  ∃ f, outcome = .error f ∧ f.kind = .configuration

/-- A voice with a name that can be written says that it is finished. -/
theorem Fault.kind_alreadyFinished {name : Datum} (writable : name.isWritable = true) :
    (Fault.alreadyFinished name).kind = .configuration := by
  have written : (Fault.alreadyFinished name).wording.isWritable = true := by
    show (name.isWritable && _) = true
    rw [writable]
    rfl
  unfold kind
  rw [if_pos written]
  rfl

section Finished

variable [ChanceSource γ] {p : Player γ}

/-- A finished voice keeps silent without a change. -/
theorem Play.ensures_rest_finished (finished : p.voice.finished = true) (measures : Datum) :
    (rest measures).Ensures p (fun _ q => q = p) fun _ q => q = p := by
  unfold rest
  split
  · next count _ =>
    cases count.toNat with
    | zero => exact (Act.ensures_pure _).2 rfl
    | succ more =>
      unfold rests play
      rw [bind_assoc, ensures_requireOpen_bind, if_pos finished]
  · exact (Act.ensures_throw _).2 rfl

/-- A finished voice refuses every other move. -/
theorem Move.ensures_finished (finished : p.voice.finished = true) (m : Move)
    (demands : m.isRest = false) :
    m.act.Ensures p (fun _ _ => False) fun f q => f = .alreadyFinished p.voice.name ∧ q = p := by
  have refused : ∀ next : Unit → Play γ Unit, (Play.requireOpen >>= next).Ensures p
      (fun _ _ => False) fun f q => f = .alreadyFinished p.voice.name ∧ q = p := by
    intro next
    rw [Play.ensures_requireOpen_bind, if_pos finished]
    exact ⟨rfl, rfl⟩
  cases m with
  | rest measures => cases demands
  | _ => exact refused _

end Finished

/-! ## §4. Bands that are over. -/

section Over

variable [ChanceSource γ] {band : Band γ}

/-- No call changes anything of a band that is over. -/
theorem Band.Over.call (ended : band.Over) (call : Call) :
    call.perform.Ensures band (fun _ b => b = band) fun _ b => b = band := by
  cases call with
  | move part m =>
    refine Perform.ensures_on (fun _ _ => rfl) fun v plays => ?_
    have same : ∀ q, q = (⟨v, band.chance⟩ : Player γ) → band.played part q = band := by
      rintro q rfl
      exact band.played_self plays
    have finished : v.finished = true := (ended part v plays).finished
    cases demands : m.isRest with
    | true =>
      cases m with
      | rest measures =>
        exact (Play.ensures_rest_finished (p := ⟨v, band.chance⟩) finished measures).mono
          (fun _ q => same q) fun _ q => same q
      | _ => cases demands
    | false =>
      refine (Move.ensures_finished (p := ⟨v, band.chance⟩) finished m demands).mono ?_ ?_
      · exact fun _ _ never => never.elim
      · exact fun _ q refused => same q refused.2
  | join part options =>
    refine ((Perform.ensures_join part options).mono (fun _ _ joins => joins) ?_).bind ?_
    · exact fun _ _ same => same
    · intro aux b joins
      obtain ⟨v, plays, isOpen, -⟩ := joins.caller
      rw [(ended part v plays).finished] at isOpen
      cases isOpen
  | finish part midi attribution =>
    refine ((Perform.ensures_finish part midi attribution).mono (fun _ _ ends => ends) ?_).bind ?_
    · rintro f b (⟨-, same⟩ | ⟨v, plays, -, isOpen, -⟩)
      · exact same
      · rw [(ended part v plays).finished] at isOpen
        cases isOpen
    · rintro song b ⟨v, plays, -, ⟨-, -, same⟩ | ⟨isOpen, -⟩⟩
      · exact (Act.ensures_pure _).2 same
      · rw [(ended part v plays).finished] at isOpen
        cases isOpen

/-- Nor does any sequence of calls. -/
theorem Session.run_over {desk : Desk (Band γ)} (ended : desk.state.Over) (calls : List Call) :
    (run calls desk).state = desk.state := by
  refine run_keeps (I := fun b => b = desk.state) ?_ calls rfl
  intro call b same
  subst same
  exact ended.call call

omit [ChanceSource γ] in
/-- Finishing a band that is over returns nothing. -/
theorem Band.Over.finish (ended : band.Over) (family : band.Family) (midi attribution : Datum)
    (journal : Journal) :
    ((Perform.finish .master midi attribution).start ⟨band, journal⟩).1 = .ok none := by
  have plays : band.voice? .master = some band.master := rfl
  have finished := (ended .master _ plays).finished
  refine Act.Ensures.outcome_ok ?_ journal
  unfold Perform.finish
  rw [Perform.ensures_voice_bind plays]
  refine .check (fun auxiliary => ?_) fun _ => ?_
  · rw [family.master] at auxiliary
    cases auxiliary
  dsimp only
  rw [if_pos finished]
  refine Act.ensures_report_bind_cases (fun _ => (Act.ensures_pure _).2 rfl) fun unwritten => ?_
  have written : Wording.isWritable [.shown band.master.name, ": already finished"] = true := by
    show (band.master.name.isWritable && _) = true
    rw [family.named .master _ plays]
    rfl
  rw [written] at unwritten
  cases unwritten

/-- Every demand on a band that is over is refused. -/
theorem Band.Over.refuses (ended : band.Over) (family : band.Family) {call : Call}
    (demand : call.IsDemand band) (journal : Journal) :
    Refused (call.perform.start ⟨band, journal⟩).1 := by
  have refused : call.perform.Ensures band (fun _ _ => False) fun f _ => f.kind = .configuration := by
    cases call with
    | finish part midi attribution => exact demand.elim
    | move part m =>
      obtain ⟨there, demands⟩ := demand
      refine Perform.ensures_on (fun missing => ?_) fun v plays => ?_
      · rw [missing] at there
        cases there
      · have finished : v.finished = true := (ended part v plays).finished
        refine (Move.ensures_finished (p := ⟨v, band.chance⟩) finished m demands).mono
          (fun _ _ never => never) ?_
        rintro f q ⟨rfl, -⟩
        exact Fault.kind_alreadyFinished (family.named part v plays)
    | join part options =>
      obtain ⟨there, noKey⟩ := demand
      obtain ⟨v, plays⟩ := Option.isSome_iff_exists.1 there
      have joining : (Perform.join part options).Ensures band (fun _ _ => False)
          fun f _ => f.kind = .configuration := by
        unfold Perform.join
        refine .check (fun key => ?_) fun _ => ?_
        · rw [noKey] at key
          cases key
        rw [Perform.ensures_voice_bind plays]
        refine .check (fun _ => ?_) fun isOpen => ?_
        · exact Fault.kind_alreadyFinished (family.named part v plays)
        · exact (isOpen (ended part v plays).finished).elim
      exact joining.bind fun _ _ never => never.elim
  obtain ⟨f, failed, kind⟩ := refused.outcome_error journal
  exact ⟨f, failed, kind⟩

end Over

/-! ## §5. The same fault again. -/

/-- What is made of a result changes none of its faults. -/
theorem map_eq_error {α β : Type} {result : Except Fault α} {g : α → β} {f : Fault} :
    g <$> result = .error f ↔ result = .error f := by
  cases result with
  | ok a => exact iff_of_false nofun nofun
  | error e =>
    constructor <;>
      intro same <;>
      rw [Except.error.inj same]
    rfl

/-- An event that stands first and cannot fail adds one message and no fault. -/
theorem Track.ofEvents_text (content : Text) (events : List Event) :
    Track.ofEvents (.at 0 (.text (.text content)) :: events) =
      (⟨.whole 0, .text (.text content)⟩ :: ·) <$> Track.ofEvents events := by
  have first : (Event.at 0 (.text (.text content))).StandsAt 0 := rfl
  unfold ofEvents Timeline.deltas
  rw [Timeline.deltasFrom_cons first, if_neg (by decide)]
  cases Timeline.deltasFrom (.whole 0) events with
  | error f => rfl
  | ok ds =>
    change List.mapM (fun d : Quantity × Event => Message.ofEvent (.number d.1) d.2)
        ((.whole 0, .at 0 (.text (.text content))) :: ds) =
      _ <$> List.mapM (fun d : Quantity × Event => Message.ofEvent (.number d.1) d.2) ds
    rw [List.mapM_cons, ← bind_pure_comp]
    rfl

/-- Naming the maker adds one message to the control track. -/
theorem Voice.controlTrack_named (v : Voice) :
    (v.controlEvents true >>= Track.ofEvents) =
      (⟨.whole 0, .text (.text attributionText)⟩ :: ·) <$>
        (v.controlEvents false >>= Track.ofEvents) := by
  unfold controlEvents
  cases microsecondsPerBeat v.dynamics.initialBpm with
  | error f => rfl
  | ok first => exact Track.ofEvents_text _ _

namespace Band

/-- The tracks of a song after its control track. -/
def otherTracks (band : Band γ) : Except Fault (List Track) := do
  let notes ← Track.ofEvents band.master.noteTrackEvents
  let metronome ← (← band.master.metronomeEvents).mapM Track.ofEvents
  let others ← band.auxiliaries.mapM fun v => Track.ofEvents v.noteTrackEvents
  return notes :: (metronome.toList ++ others)

/-- A song is its control track, and then the other tracks. -/
theorem song_eq (band : Band γ) (named : Bool) :
    band.song named = (band.master.controlEvents named >>= Track.ofEvents) >>= fun control =>
      (fun tracks => ⟨band.master.config.ticks, control :: tracks⟩) <$> band.otherTracks := by
  unfold song otherTracks
  simp only [bind_assoc, map_bind, map_pure]
  rfl

/-- The fault of a song, if it has one, does not depend on whether the song names its maker. -/
theorem song_error_iff (band : Band γ) (named : Bool) (f : Fault) :
    band.song named = .error f ↔ band.song false = .error f := by
  cases named with
  | false => exact Iff.rfl
  | true =>
    rw [song_eq, song_eq, Voice.controlTrack_named]
    cases band.master.controlEvents false >>= Track.ofEvents with
    | error g => exact Iff.rfl
    | ok track => exact map_eq_error.trans map_eq_error.symm

end Band

/-! ## §6. Sessions. -/

namespace Perform

variable {band : Band γ}

/-- An open master whose song cannot be built fails with that fault, and nothing happens. -/
theorem finish_unbuilt (family : band.Family) (isOpen : band.master.finished = false)
    {midi attribution : Datum} {f : Fault}
    (failed : band.song (namesMaker attribution band.master.config.attribution) = .error f)
    (journal : Journal) :
    (finish .master midi attribution).start ⟨band, journal⟩ = (.error f, ⟨band, journal⟩) := by
  have here : (voice .master : Perform γ Voice).start ⟨band, journal⟩ =
      (.ok band.master, ⟨band, journal⟩) := rfl
  unfold finish
  rw [Act.start_bind, here]
  simp only [family.master, isOpen, Bool.false_eq_true, if_false]
  rw [Act.start_bind, Act.start_state]
  dsimp only
  rw [Act.start_bind, Act.start_lift, failed]

/-- An open master whose song can be built is over when it is finished, even if saving fails. -/
theorem finish_built (family : band.Family) (isOpen : band.master.finished = false)
    (midi : Datum) {attribution : Datum} {song : Song}
    (built : band.song (namesMaker attribution band.master.config.attribution) = .ok song) :
    (finish .master midi attribution).Ensures band
      (fun returned b => returned = some song ∧ ∃ folder, b = { band.close with folder })
      fun f b => f.Technical ∧ ∃ folder, b = { band.close with folder } := by
  refine (ensures_finish .master midi attribution).mono ?_ ?_
  · rintro returned b ⟨v, ⟨rfl⟩, -, ⟨finished, -⟩ | ⟨-, s, folder, some_, same, closed⟩⟩
    · rw [isOpen] at finished
      cases finished
    · rw [built] at same
      cases same
      exact ⟨some_, folder, closed⟩
  · rintro f b (⟨refused, -⟩ | ⟨v, ⟨rfl⟩, -, -, ⟨failed, -⟩ | ⟨technical, s, folder, -, closed⟩⟩)
    · have closed := refused _ rfl
      rw [family.master, isOpen] at closed
      cases closed <;> contradiction
    · rw [built] at failed
      cases failed
    · exact ⟨technical, folder, closed⟩

/-- The band that is left then, whether saving goes well or not. -/
theorem finish_closes (family : band.Family) (isOpen : band.master.finished = false)
    (midi : Datum) {attribution : Datum} {song : Song}
    (built : band.song (namesMaker attribution band.master.config.attribution) = .ok song)
    (journal : Journal) :
    ∃ folder, ((finish .master midi attribution).start ⟨band, journal⟩).2.state =
      { band.close with folder } := by
  have contract := finish_built family isOpen midi built
  cases outcome : ((finish .master midi attribution).start ⟨band, journal⟩).1 with
  | ok returned => exact (contract.of_ok outcome).2
  | error f => exact (contract.of_error outcome).2

end Perform

section Sessions

variable [ChanceSource γ]

/-- A band that is over for good: finishing it returns nothing, and demands are refused. -/
structure Session.Final (desk : Desk (Band γ)) : Prop where
  finish : ∀ midi attribution,
    ((Perform.finish .master midi attribution).start desk).1 = .ok none
  refuses : ∀ call : Call, call.IsDemand desk.state → Refused (call.perform.start desk).1

theorem Session.final_of_over {desk : Desk (Band γ)} (ended : desk.state.Over)
    (family : desk.state.Family) : Final desk :=
  ⟨fun midi attribution => ended.finish family midi attribution desk.journal,
    fun _ demand => ended.refuses family demand desk.journal⟩

/-- A band that is over stays as it is through every further call, for good. -/
theorem Session.run_final {desk : Desk (Band γ)} (ended : desk.state.Over)
    (family : desk.state.Family) (later : List Call) :
    (run later desk).state = desk.state ∧ Final (run later desk) := by
  have same := run_over ended later
  refine ⟨same, final_of_over ?_ ?_⟩
  · rw [same]
    exact ended
  · rw [same]
    exact family

/-- Finishing is all or nothing, and final.  Master and auxiliaries are always open together
or finished together.  If a track cannot be built, finishing changes nothing and fails the
same way every time; if all tracks can be built, every voice ends, and nothing changes any
more: further finishing returns nothing, and all demands are refused. -/
theorem Session.finality {band : Band γ} (created : band.Created) (calls : List Call)
    (journal : Journal) :
    let now := run calls ⟨band, journal⟩
    let master := now.state.master
    (∀ aux ∈ now.state.auxiliaries, aux.finished = master.finished) ∧
    (master.finished = false → ∀ midi attribution,
      let built := now.state.song (Perform.namesMaker attribution master.config.attribution)
      let done := (Perform.finish .master midi attribution).start now
      (∀ f, built = .error f →
        done = (.error f, now) ∧ ∀ midi' attribution',
          (Perform.finish .master midi' attribution').start now = (.error f, now)) ∧
      (∀ song, built = .ok song →
        done.2.state.Over ∧ ∀ later,
          (run later done.2).state = done.2.state ∧ Final (run later done.2))) := by
  intro now master
  have family : now.state.Family := (Band.Family.of_created created).run calls
  refine ⟨fun aux here => ?_, fun isOpen midi attribution => ⟨?_, ?_⟩⟩
  · obtain ⟨i, inside⟩ := List.mem_iff_getElem?.1 here
    exact family.together (.auxiliary i) aux inside
  · intro f failed
    have fails : ∀ midi' attribution',
        (Perform.finish .master midi' attribution').start now = (.error f, now) := by
      intro midi' attribution'
      have unnamed := (now.state.song_error_iff _ f).1 failed
      have failed' : now.state.song
          (Perform.namesMaker attribution' master.config.attribution) = .error f :=
        (now.state.song_error_iff _ f).2 unnamed
      exact Perform.finish_unbuilt family isOpen failed' now.journal
    exact ⟨fails midi attribution, fails⟩
  · intro song built
    obtain ⟨folder, after⟩ := Perform.finish_closes family isOpen midi built now.journal
    have ended := now.state.over_close folder
    have family' := family.close folder
    rw [← after] at ended family'
    exact ⟨ended, run_final ended family'⟩

end Sessions

/-! ## §7. A pair that is finished. -/

/-- A new master of one string. -/
def pairStart : Except Fault (Desk (Band Script)) :=
  Session.begin [] [("strings", .list [.whole 40])]

/-- An auxiliary joins, and both play a stroke. -/
def pairCalls : List Call :=
  let stroke : Move := .play (.pattern ⟨[⟨1, [⟨1, 80⟩]⟩]⟩) [.list [.whole 3]]
  [.join .master [("strings", .list [.whole 50])], .move .master stroke,
    .move (.auxiliary 0) stroke]

/-- The two can be finished, and then they are finished for good. -/
theorem pair_final :
    ∃ desk, pairStart = .ok desk ∧
      (Session.run pairCalls desk).state.auxiliaries.length = 1 ∧
      let done := (Perform.finish .master .null .null).start (Session.run pairCalls desk)
      done.2.state.Over ∧ ∀ later, Session.Final (Session.run later done.2) := by
  have seen : (pairStart.toOption.map fun desk =>
      let band := (Session.run pairCalls desk).state
      (band.auxiliaries.length, band.master.finished,
        (band.song (Perform.namesMaker .null band.master.config.attribution)).toBool)) =
      some (1, false, true) := by
    decide +kernel
  obtain ⟨desk, created, seen⟩ := exists_ok_of_seen seen
  simp only [Prod.mk.injEq] at seen
  obtain ⟨two, isOpen, builds⟩ := seen
  have final := Session.finality (Session.begin_created _ _ desk created) pairCalls desk.journal
  obtain ⟨song, built⟩ := exists_ok_of_toBool builds
  obtain ⟨ended, later⟩ := (final.2 isOpen .null .null).2 song built
  exact ⟨desk, created, two, ended, fun calls => (later calls).2⟩

end Plectrum
