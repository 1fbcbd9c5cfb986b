/-
  Plectrum.Act
  ────────────
  **Acts: steps that change a state, report, and may fail.**

  An act runs on a desk: the state it works on and the journal it writes.  When an
  act fails, what it did before the failure stays done.  So the result of an act is
  a value or a fault, and in either case the desk afterwards.
-/
import Plectrum.Fault
import Plectrum.Journal

namespace Plectrum

/-- A state at work, with the journal of the work. -/
structure Desk (σ : Type) where
  state : σ
  journal : Journal
  deriving Repr

/-- A step on a state of type `σ`. -/
abbrev Act (σ α : Type) := ExceptT Fault (StateM (Desk σ)) α

namespace Act

/-! ## §1. Running. -/

variable {σ τ α β : Type}

/-- Run an act: its outcome, and the desk after it. -/
def start (act : Act σ α) (desk : Desk σ) : Except Fault α × Desk σ :=
  StateT.run (ExceptT.run act) desk

/-- The act with a given run. -/
def ofStart (f : Desk σ → Except Fault α × Desk σ) : Act σ α :=
  ExceptT.mk fun desk => f desk

/-- The state as it is now. -/
def state : Act σ σ := do return (← get).state

/-- Change the state. -/
def update (f : σ → σ) : Act σ Unit :=
  modify fun desk => { desk with state := f desk.state }

/-- Write into the journal; a number that is too long to be written is a fault. -/
def report (level : Level) (speaker : Speaker) (wording : Wording) : Act σ Unit :=
  if wording.isWritable then
    modify fun desk => { desk with journal := desk.journal.push ⟨level, speaker, wording.text⟩ }
  else throw .numberTooLong

/-- Run an act on a part of the state. -/
def onPart (part : τ → σ) (replace : σ → τ → τ) (act : Act σ α) : Act τ α :=
  ofStart fun desk =>
    let (outcome, inner) := act.start ⟨part desk.state, desk.journal⟩
    (outcome, ⟨replace inner.state desk.state, inner.journal⟩)

/-! ## §2. What each act does to the desk. -/

@[simp] theorem start_ofStart (f : Desk σ → Except Fault α × Desk σ) (desk : Desk σ) :
    (ofStart f).start desk = f desk := rfl

@[simp] theorem start_pure (a : α) (desk : Desk σ) :
    (pure a : Act σ α).start desk = (.ok a, desk) := rfl

@[simp] theorem start_throw (f : Fault) (desk : Desk σ) :
    (throw f : Act σ α).start desk = (.error f, desk) := rfl

/-- A computation that is no act keeps the desk. -/
@[simp] theorem start_lift (result : Except Fault α) (desk : Desk σ) :
    (liftM result : Act σ α).start desk = (result, desk) := rfl

/-- The second act begins on the desk that the first one leaves; what the first one did
stays done when it fails. -/
theorem start_bind (act : Act σ α) (next : α → Act σ β) (desk : Desk σ) :
    (act >>= next).start desk =
      match act.start desk with
      | (.ok a, after) => (next a).start after
      | (.error f, after) => (.error f, after) := by
  show (ExceptT.bindCont next (act desk).1) (act desk).2 = _
  unfold start StateT.run ExceptT.run
  cases act desk with
  | mk outcome after => cases outcome <;> rfl

@[simp] theorem start_state (desk : Desk σ) :
    (state : Act σ σ).start desk = (.ok desk.state, desk) := rfl

@[simp] theorem start_update (f : σ → σ) (desk : Desk σ) :
    (update f).start desk = (.ok (), { desk with state := f desk.state }) := rfl

/-- A report goes to the end of the journal if it can be written, and fails otherwise. -/
theorem start_report (level : Level) (speaker : Speaker) (wording : Wording) (desk : Desk σ) :
    (report level speaker wording).start desk =
      if wording.isWritable then
        (.ok (), { desk with journal := desk.journal.push ⟨level, speaker, wording.text⟩ })
      else (.error .numberTooLong, desk) := by
  unfold report
  split <;> rfl

end Act
end Plectrum
