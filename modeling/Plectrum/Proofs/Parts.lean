/-
  Plectrum.Proofs.Parts
  ─────────────────────
  **A session, as one part sees it.**

  Of all the calls on a band a part takes notice of few: it is played, it joins, or it is
  closed with the others.  `PartStep` lists what one call may do to the voice of a part, and
  `Session.succeeded` the moves that went well on it.  So a property of a voice and of the moves
  that went well on it, once every move is shown to keep it, holds at every point of a session.

  Main results:
    * `Call.ensures_part` — one call moves a part by one step;
    * `Session.run_part` — what moves keep of a part and of its moves, a session keeps.
-/
import Plectrum.Proofs.Finality

namespace Plectrum

variable {γ : Type}

/-- What an act keeps under a condition it keeps if the condition holds. -/
theorem Act.Ensures.given {σ α : Type} {act : Act σ α} {s : σ} {good : α → σ → Prop}
    {bad : Fault → σ → Prop} {P : Prop} (h : P → act.Ensures s good bad) :
    act.Ensures s (fun a t => P → good a t) fun f t => P → bad f t := by
  by_cases here : P
  · exact (h here).mono (fun _ _ ends _ => ends) fun _ _ ends _ => ends
  · exact (Act.Ensures.trivial act s).mono (fun _ _ _ there => absurd there here)
      fun _ _ _ there => absurd there here

/-! ## §1. One call. -/

/-- What a call may do to the voice of a part.  A move on a part that is not there can only be
`refused`. -/
inductive PartStep (refused : Prop) (R : Move → Voice → Voice → Prop) (part : Part) :
    Call → Option Voice → Option Voice → Prop where
  | played {m : Move} {v w : Voice} (moved : R m v w) :
    PartStep refused R part (.move part m) (some v) (some w)
  | joined {caller : Part} {options : Options} {w : Voice} (new : w.New) :
    PartStep refused R part (.join caller options) none (some w)
  | closed {caller : Part} {midi attribution : Datum} {v : Voice} :
    PartStep refused R part (.finish caller midi attribution) (some v) (some v.close)
  | missing {m : Move} (refusal : refused) : PartStep refused R part (.move part m) none none
  /-- The call is none of this part's business. -/
  | spared {call : Call} {seat : Option Voice} (apart : ∀ m, call ≠ .move part m) :
    PartStep refused R part call seat seat

section Seats

variable {band : Band γ} {part : Part} {v : Voice}

/-- Who joins comes after all others. -/
theorem Band.voice_joined (band : Band γ) (part : Part) (aux : Voice) :
    Band.voice? { band with auxiliaries := band.auxiliaries ++ [aux] } part = band.voice? part ∨
      band.voice? part = none ∧
        Band.voice? { band with auxiliaries := band.auxiliaries ++ [aux] } part = some aux := by
  cases after : Band.voice? { band with auxiliaries := band.auxiliaries ++ [aux] } part with
  | some w =>
    rcases band.voice_append aux after with before | ⟨-, rfl⟩
    · exact .inl before.symm
    · cases before : band.voice? part with
      | none => exact .inr ⟨rfl, rfl⟩
      | some u =>
        left
        rw [← after, ← before]
        cases part with
        | master => rfl
        | auxiliary i =>
          have inside : i < band.auxiliaries.length := (List.getElem?_eq_some_iff.1 before).1
          exact List.getElem?_append_left inside
  | none =>
    left
    cases part with
    | master => cases after
    | auxiliary i =>
      have outside := List.getElem?_eq_none_iff.1 after
      rw [List.length_append] at outside
      exact (List.getElem?_eq_none (by omega)).symm

/-- Closing a band closes its voices, and moves none of them. -/
theorem Band.voice?_close (band : Band γ) (folder : Folder) (part : Part) :
    Band.voice? { band.close with folder } part = (band.voice? part).map Voice.close := by
  cases part with
  | master => rfl
  | auxiliary i => exact List.getElem?_map

end Seats

section Calls

variable [ChanceSource γ] {band : Band γ} {part : Part} {R : Move → Voice → Voice → Prop}
variable {B : Fault → Move → Voice → Voice → Prop}

/-- A call moves a part by one step: as its move does if it is a move on the part, and
otherwise as joining and closing do. -/
theorem Call.ensures_part (call : Call)
    (moves : ∀ m, call = .move part m → ∀ p : Player γ,
      m.act.Ensures p (fun _ q => R m p.voice q.voice) fun f q => B f m p.voice q.voice) :
    call.perform.Ensures band
      (fun _ b => PartStep False R part call (band.voice? part) (b.voice? part))
      fun f b => PartStep True (B f) part call (band.voice? part) (b.voice? part) := by
  cases call with
  | move other m =>
    -- A move on another part leaves this one where it is.
    by_cases same : other = part
    · subst same
      apply Perform.ensures_on
      · intro missing _
        rw [missing]
        exact .missing True.intro
      · intro v plays
        refine (moves m rfl ⟨v, band.chance⟩).mono ?_ ?_
        · intro _ q moved
          rw [plays, Band.voice_played_self plays]
          exact .played moved
        · intro f q moved
          rw [plays, Band.voice_played_self plays]
          exact .played moved
    · have apart : ∀ m', Call.move other m ≠ .move part m' := by
        intro m' calls
        cases calls
        exact same rfl
      apply Perform.ensures_on
      · intro _ _
        exact .spared apart
      · intro v plays
        refine (Act.Ensures.trivial m.act _).mono ?_ ?_
        · intro _ q _
          rw [Band.voice_played_other same]
          exact .spared apart
        · intro _ q _
          rw [Band.voice_played_other same]
          exact .spared apart
  | join caller options =>
    refine ((Perform.ensures_join caller options).mono (fun _ _ joins => joins) ?_).bind ?_
    · intro f b same
      rw [same]
      exact .spared nofun
    · intro aux b joins
      rw [Act.ensures_pure, joins.band]
      rcases band.voice_joined part aux with same | ⟨before, after⟩
      · rw [same]
        exact .spared nofun
      · rw [before, after]
        exact .joined joins.new
  | finish caller midi attribution =>
    have closes : ∀ (refused : Prop) (S : Move → Voice → Voice → Prop) (folder : Folder),
        PartStep refused S part (.finish caller midi attribution) (band.voice? part)
          (Band.voice? { band.close with folder } part) := by
      intro refused S folder
      rw [band.voice?_close folder part]
      cases band.voice? part with
      | none => exact .spared nofun
      | some v => exact .closed
    refine ((Perform.ensures_finish caller midi attribution).mono (fun _ _ ends => ends) ?_).bind ?_
    · rintro f b (⟨-, rfl⟩ | ⟨v, -, -, -, ⟨-, rfl⟩ | ⟨-, s, folder, -, rfl⟩⟩)
      · exact .spared nofun
      · exact .spared nofun
      · exact closes _ _ folder
    · rintro song b ⟨v, -, -, ⟨-, -, rfl⟩ | ⟨-, s, folder, -, -, rfl⟩⟩
      · exact (Act.ensures_pure _).2 (.spared nofun)
      · exact (Act.ensures_pure _).2 (closes _ _ folder)

end Calls

/-! ## §2. Sessions. -/

/-- The move that a call makes on a part, if it makes one. -/
def Call.moveOn? (part : Part) : Call → Option Move
  | .move other m => if other = part then some m else none
  | _ => none

theorem Call.moveOn?_self (part : Part) (m : Move) : (Call.move part m).moveOn? part = some m :=
  if_pos rfl

theorem Call.moveOn?_eq_none {part : Part} {call : Call} (apart : ∀ m, call ≠ .move part m) :
    call.moveOn? part = none := by
  cases call with
  | move other m =>
    apply if_neg
    intro same
    exact apart m (congrArg (Call.move · m) same)
  | join caller options => rfl
  | finish caller midi attribution => rfl

namespace Session

variable [ChanceSource γ]

theorem run_append (before after : List Call) (desk : Desk (Band γ)) :
    run (before ++ after) desk = run after (run before desk) := by
  induction before generalizing desk with
  | nil => rfl
  | cons call before ih => exact ih _

theorem graceful_append {before after : List Call} {desk : Desk (Band γ)} :
    Graceful (before ++ after) desk ↔ Graceful before desk ∧ Graceful after (run before desk) := by
  induction before generalizing desk with
  | nil => exact (and_iff_right True.intro).symm
  | cons call before ih =>
    show _ ∧ Graceful (before ++ after) _ ↔ (_ ∧ _) ∧ _
    rw [ih, and_assoc]
    rfl

/-- The moves that went well on a part, in order. -/
def succeeded (part : Part) : List Call → Desk (Band γ) → List Move
  | [], _ => []
  | call :: calls, desk =>
    let (outcome, after) := call.perform.start desk
    (if outcome.toBool then (call.moveOn? part).toList else []) ++ succeeded part calls after

theorem succeeded_append (part : Part) (before after : List Call) (desk : Desk (Band γ)) :
    succeeded part (before ++ after) desk =
      succeeded part before desk ++ succeeded part after (run before desk) := by
  induction before generalizing desk with
  | nil => rfl
  | cons call before ih =>
    show _ ++ succeeded part (before ++ after) _ = (_ ++ _) ++ _
    rw [ih, List.append_assoc]
    rfl

/-- What holds of a part and of the moves that went well on it: of a part that is not there,
only that there were none. -/
def Seated (I : List Move → Voice → Prop) (done : List Move) : Option Voice → Prop
  | none => done = []
  | some v => I done v

section Steps

variable {I : List Move → Voice → Prop} {part : Part} {call : Call} {seat seat' : Option Voice}
variable {done : List Move} {R : Move → Voice → Voice → Prop}

/-- A step of a call that goes well enters its move, if it makes one on the part. -/
theorem seated_ok (step : PartStep False R part call seat seat')
    (new : seat = none → ∀ v : Voice, v.New → I [] v) (close : ∀ v, I done v → I done v.close)
    (moved : ∀ m v w, R m v w → I done v → I (done ++ [m]) w) (start : Seated I done seat) :
    (seat' = none → seat = none) ∧ Seated I (done ++ (call.moveOn? part).toList) seat' := by
  cases step with
  | @played m v w moves =>
    rw [Call.moveOn?_self]
    exact ⟨nofun, moved m v w moves start⟩
  | @joined caller options w fresh =>
    change done = [] at start
    subst start
    exact ⟨fun _ => rfl, new rfl w fresh⟩
  | closed =>
    refine ⟨nofun, ?_⟩
    show I (done ++ []) _
    rw [List.append_nil]
    exact close _ start
  | missing refusal => exact refusal.elim
  | spared apart =>
    rw [Call.moveOn?_eq_none apart, Option.toList_none, List.append_nil]
    exact ⟨id, start⟩

/-- A step of a call that fails enters nothing. -/
theorem seated_error (step : PartStep True R part call seat seat')
    (new : seat = none → ∀ v : Voice, v.New → I [] v) (close : ∀ v, I done v → I done v.close)
    (moved : ∀ m v w, R m v w → I done v → I done w) (start : Seated I done seat) :
    (seat' = none → seat = none) ∧ Seated I done seat' := by
  cases step with
  | @played m v w moves => exact ⟨nofun, moved m v w moves start⟩
  | @joined caller options w fresh =>
    change done = [] at start
    subst start
    exact ⟨fun _ => rfl, new rfl w fresh⟩
  | closed => exact ⟨nofun, close _ start⟩
  | missing _ => exact ⟨id, start⟩
  | spared _ => exact ⟨id, start⟩

end Steps

/-- What new voices, closing and every move keep of a part and of the moves that went well on
it holds after a session. -/
theorem run_part {I : List Move → Voice → Prop} {part : Part} {calls : List Call}
    {desk : Desk (Band γ)} {done : List Move}
    (new : desk.state.voice? part = none → ∀ v : Voice, v.New → I [] v)
    (close : ∀ done v, I done v → I done v.close)
    (moves : ∀ m, .move part m ∈ calls → ∀ done (p : Player γ), I done p.voice →
      m.act.Ensures p (fun _ q => I (done ++ [m]) q.voice)
        fun f q => f.kind.isMusical = true → I done q.voice)
    (graceful : Graceful calls desk) (start : Seated I done (desk.state.voice? part)) :
    Seated I (done ++ succeeded part calls desk) ((run calls desk).state.voice? part) := by
  induction calls generalizing desk done with
  | nil =>
    show Seated I (done ++ []) _
    rw [List.append_nil]
    exact start
  | cons call calls ih =>
    obtain ⟨musical, graceful⟩ := graceful
    -- What is known before a move holds of the voice, so the move may build on it.
    have kept : ∀ m, call = .move part m → ∀ p : Player γ,
        m.act.Ensures p (fun _ q => I done p.voice → I (done ++ [m]) q.voice)
          fun f q => I done p.voice → f.kind.isMusical = true → I done q.voice := by
      intro m same p
      have asked : Call.move part m ∈ call :: calls := by
        rw [same]
        exact List.mem_cons_self
      exact .given (moves m asked done p)
    have contract : call.perform.Ensures desk.state
        (fun _ b => PartStep False (fun m v w => I done v → I (done ++ [m]) w) part call
          (desk.state.voice? part) (b.voice? part))
        fun f b => PartStep True (fun _ v w => I done v → f.kind.isMusical = true → I done w) part
          call (desk.state.voice? part) (b.voice? part) :=
      call.ensures_part kept
    show Seated I (done ++ (_ ++ succeeded part calls _)) ((run calls _).state.voice? part)
    rw [← List.append_assoc]
    have after : ((call.perform.start desk).2.state.voice? part = none →
          desk.state.voice? part = none) ∧
        Seated I (done ++ if (call.perform.start desk).1.toBool then (call.moveOn? part).toList
          else []) ((call.perform.start desk).2.state.voice? part) := by
      cases outcome : (call.perform.start desk).1 with
      | ok _ =>
        exact seated_ok (contract.of_ok outcome) new (close done) (fun _ _ _ moved => moved) start
      | error f =>
        show _ ∧ Seated I (done ++ []) _
        rw [List.append_nil]
        exact seated_error (contract.of_error outcome) new (close done)
          (fun _ _ _ moved here => moved here (musical f outcome)) start
    exact ih (fun missing => new (after.1 missing))
      (fun m inCalls => moves m (List.mem_cons_of_mem _ inCalls)) graceful after.2

/-- Who plays a part keeps playing it with the same settings, whatever is called. -/
theorem run_config {part : Part} {c : Config} (calls : List Call) {desk : Desk (Band γ)}
    (plays : ∃ v, desk.state.voice? part = some v ∧ v.config = c) :
    ∃ v, (run calls desk).state.voice? part = some v ∧ v.config = c := by
  let Same (_ : Move) (v w : Voice) : Prop := w.config = v.config
  have step : ∀ (refused : Prop) (call : Call) (v : Voice) (seat : Option Voice),
      PartStep refused Same part call (some v) seat → v.config = c →
        ∃ w, seat = some w ∧ w.config = c := by
    intro refused call v seat step same
    cases step with
    | played moved => exact ⟨_, rfl, moved.trans same⟩
    | closed => exact ⟨_, rfl, same⟩
    | spared => exact ⟨_, rfl, same⟩
  have keeps : ∀ (call : Call) (band : Band γ),
      (∃ v, band.voice? part = some v ∧ v.config = c) →
        call.perform.Ensures band (fun _ b => ∃ v, b.voice? part = some v ∧ v.config = c)
          fun _ b => ∃ v, b.voice? part = some v ∧ v.config = c := by
    intro call band here
    obtain ⟨v, plays, same⟩ := here
    have contract : call.perform.Ensures band
        (fun _ b => PartStep False Same part call (band.voice? part) (b.voice? part))
        fun _ b => PartStep True Same part call (band.voice? part) (b.voice? part) :=
      call.ensures_part fun m _ p => (m.ensures_lasting Voice.Evolved.lasting p).mono
        (fun _ _ grown => grown.config) fun _ _ grown => grown.config
    rw [plays] at contract
    refine contract.mono ?_ ?_
    · intro _ b moved
      exact step _ call v _ moved same
    · intro _ b moved
      exact step _ call v _ moved same
  exact run_keeps keeps calls plays

end Session
end Plectrum
