/-
  Plectrum.Proofs.Contract
  ────────────────────────
  **Contracts of acts.**

  `act.Ensures s good bad` says how an act ends that begins in the state `s`: when it
  goes well, its value and the state after it are `good`; when it fails, its fault and
  the state after it are `bad`.  Both halves matter, since a failed act keeps what it
  did before the failure.  There is one rule for each way to build an act, so that a
  contract of a long act is put together from those of its parts.
-/
import Plectrum.Act

namespace Plectrum.Act

variable {σ τ α β : Type}

/-! ## §1. Contracts. -/

/-- How an act ends that begins in the state `s`, whatever the journal holds by then. -/
structure Ensures (act : Act σ α) (s : σ) (good : α → σ → Prop) (bad : Fault → σ → Prop) :
    Prop where
  ends : ∀ journal,
    match act.start ⟨s, journal⟩ with
    | (.ok a, after) => good a after.state
    | (.error f, after) => bad f after.state

namespace Ensures

variable {act : Act σ α} {s : σ} {good : α → σ → Prop} {bad : Fault → σ → Prop}

/-- What a contract says of one run that goes well. -/
theorem of_ok (h : act.Ensures s good bad) {journal : Journal} {a : α}
    (ran : (act.start ⟨s, journal⟩).1 = .ok a) :
    good a (act.start ⟨s, journal⟩).2.state := by
  have ends := h.ends journal
  revert ends ran
  cases act.start ⟨s, journal⟩ with
  | mk outcome after =>
    rintro rfl ends
    exact ends

/-- What a contract says of one run that fails. -/
theorem of_error (h : act.Ensures s good bad) {journal : Journal} {f : Fault}
    (failed : (act.start ⟨s, journal⟩).1 = .error f) :
    bad f (act.start ⟨s, journal⟩).2.state := by
  have ends := h.ends journal
  revert ends failed
  cases act.start ⟨s, journal⟩ with
  | mk outcome after =>
    rintro rfl ends
    exact ends

/-- What a contract says of the state in either case holds after every run. -/
theorem always {I : σ → Prop} (h : act.Ensures s (fun _ t => I t) fun _ t => I t)
    (journal : Journal) : I (act.start ⟨s, journal⟩).2.state := by
  cases outcome : (act.start ⟨s, journal⟩).1 with
  | ok a => exact h.of_ok outcome
  | error f => exact h.of_error outcome

/-- An act that cannot fail goes well, with the one value it may have. -/
theorem outcome_ok {x : α} (h : act.Ensures s (fun a _ => a = x) fun _ _ => False)
    (journal : Journal) : (act.start ⟨s, journal⟩).1 = .ok x := by
  cases outcome : (act.start ⟨s, journal⟩).1 with
  | ok a => rw [h.of_ok outcome]
  | error f => exact (h.of_error outcome).elim

/-- An act that cannot go well fails. -/
theorem outcome_error (h : act.Ensures s (fun _ _ => False) bad) (journal : Journal) :
    ∃ f, (act.start ⟨s, journal⟩).1 = .error f ∧ bad f (act.start ⟨s, journal⟩).2.state := by
  cases outcome : (act.start ⟨s, journal⟩).1 with
  | ok a => exact (h.of_ok outcome).elim
  | error f => exact ⟨f, rfl, h.of_error outcome⟩

/-- A contract holds if it holds of each run. -/
theorem of_runs
    (ok : ∀ journal a, (act.start ⟨s, journal⟩).1 = .ok a →
      good a (act.start ⟨s, journal⟩).2.state)
    (error : ∀ journal f, (act.start ⟨s, journal⟩).1 = .error f →
      bad f (act.start ⟨s, journal⟩).2.state) :
    act.Ensures s good bad := by
  refine ⟨fun journal => ?_⟩
  have okHere := ok journal
  have errorHere := error journal
  revert okHere errorHere
  cases act.start ⟨s, journal⟩ with
  | mk outcome after =>
    cases outcome with
    | ok a => intro okHere _; exact okHere a rfl
    | error f => intro _ errorHere; exact errorHere f rfl

/-- A contract that promises more implies one that promises less. -/
theorem mono {good' : α → σ → Prop} {bad' : Fault → σ → Prop} (h : act.Ensures s good bad)
    (better : ∀ a t, good a t → good' a t) (worse : ∀ f t, bad f t → bad' f t) :
    act.Ensures s good' bad' :=
  of_runs (fun _ _ ran => better _ _ (h.of_ok ran)) fun _ _ failed => worse _ _ (h.of_error failed)

/-- The second act begins where the first one ends well. -/
theorem bind {next : α → Act σ β} {good : β → σ → Prop} {mid : α → σ → Prop}
    (first : act.Ensures s mid bad) (then_ : ∀ a t, mid a t → (next a).Ensures t good bad) :
    (act >>= next).Ensures s good bad := by
  refine ⟨fun journal => ?_⟩
  rw [start_bind]
  have ends := first.ends journal
  revert ends
  cases act.start ⟨s, journal⟩ with
  | mk outcome after =>
    cases outcome with
    | ok a => intro ends; exact (then_ a after.state ends).ends after.journal
    | error f => intro ends; exact ends

/-- After an act that cannot fail and leaves one state, the second act begins in that state. -/
theorem bind_eq {next : α → Act σ β} {good : β → σ → Prop} {t : σ}
    (first : act.Ensures s (fun _ u => u = t) fun _ _ => False)
    (then_ : ∀ a, (next a).Ensures t good bad) : (act >>= next).Ensures s good bad := by
  have safe : act.Ensures s (fun _ u => u = t) bad :=
    first.mono (fun _ _ h => h) (fun _ _ h => h.elim)
  refine safe.bind ?_
  rintro a _ rfl
  exact then_ a

/-- After a check that refuses, the refused case is settled. -/
theorem check {c : Prop} [Decidable c] {f : Fault} {next : Unit → Act σ α} (refused : c → bad f s)
    (passed : ¬c → (next ()).Ensures s good bad) :
    (if c then (throw f : Act σ Unit) >>= next else next ()).Ensures s good bad := by
  split
  · next here =>
    exact ⟨fun _ => refused here⟩
  · next here => exact passed here

end Ensures

/-! ## §2. Rules for the parts of an act. -/

variable {s : σ} {good : α → σ → Prop} {bad : Fault → σ → Prop}

@[simp] theorem ensures_pure (a : α) :
    (pure a : Act σ α).Ensures s good bad ↔ good a s :=
  ⟨fun h => h.ends #[], fun h => ⟨fun _ => h⟩⟩

@[simp] theorem ensures_throw (f : Fault) :
    (throw f : Act σ α).Ensures s good bad ↔ bad f s :=
  ⟨fun h => h.ends #[], fun h => ⟨fun _ => h⟩⟩

@[simp] theorem ensures_throw_bind (f : Fault) (next : β → Act σ α) :
    ((throw f : Act σ β) >>= next).Ensures s good bad ↔ bad f s :=
  ⟨fun h => h.ends #[], fun h => ⟨fun _ => h⟩⟩

@[simp] theorem ensures_state_bind (next : σ → Act σ α) :
    (state >>= next).Ensures s good bad ↔ (next s).Ensures s good bad :=
  ⟨fun h => ⟨h.ends⟩, fun h => ⟨h.ends⟩⟩

@[simp] theorem ensures_update (f : σ → σ) {good : Unit → σ → Prop} :
    (update f).Ensures s good bad ↔ good () (f s) :=
  ⟨fun h => h.ends #[], fun h => ⟨fun _ => h⟩⟩

@[simp] theorem ensures_update_bind (f : σ → σ) (next : Unit → Act σ α) :
    (update f >>= next).Ensures s good bad ↔ (next ()).Ensures (f s) good bad :=
  ⟨fun h => ⟨h.ends⟩, fun h => ⟨h.ends⟩⟩

/-- A computation keeps the state. -/
@[simp] theorem ensures_lift (result : Except Fault α) :
    (liftM result : Act σ α).Ensures s good bad ↔
      (∀ a, result = .ok a → good a s) ∧ ∀ f, result = .error f → bad f s := by
  cases result with
  | ok a =>
    show (pure a : Act σ α).Ensures s good bad ↔ _
    simp
  | error f =>
    show (throw f : Act σ α).Ensures s good bad ↔ _
    simp

@[simp] theorem ensures_lift_bind (result : Except Fault β) (next : β → Act σ α) :
    ((liftM result : Act σ β) >>= next).Ensures s good bad ↔
      (∀ b, result = .ok b → (next b).Ensures s good bad) ∧ ∀ f, result = .error f → bad f s := by
  cases result with
  | ok b =>
    show (next b).Ensures s good bad ↔ _
    simp
  | error f =>
    show ((throw f : Act σ β) >>= next).Ensures s good bad ↔ _
    simp

/-- What is made of a result can as well be made of it by what comes next. -/
theorem ensures_lift_map_bind {β' : Type} (g : β → β') (result : Except Fault β)
    (next : β' → Act σ α) :
    ((liftM (g <$> result) : Act σ β') >>= next).Ensures s good bad ↔
      ((liftM result : Act σ β) >>= fun b => next (g b)).Ensures s good bad := by
  cases result with
  | ok b => exact Iff.rfl
  | error f => exact Iff.rfl

/-- A report keeps the state; it fails exactly when its wording cannot be written. -/
theorem ensures_report_cases {level : Level} {speaker : Speaker} {wording : Wording}
    {good : Unit → σ → Prop} (ok : wording.isWritable = true → good () s)
    (error : wording.isWritable = false → bad .numberTooLong s) :
    (report level speaker wording).Ensures s good bad := by
  refine ⟨fun journal => ?_⟩
  rw [start_report]
  cases writable : wording.isWritable with
  | true => exact ok writable
  | false => exact error writable

theorem ensures_report_bind_cases {level : Level} {speaker : Speaker} {wording : Wording}
    {next : Unit → Act σ α} (rest : wording.isWritable = true → (next ()).Ensures s good bad)
    (error : wording.isWritable = false → bad .numberTooLong s) :
    (report level speaker wording >>= next).Ensures s good bad := by
  have reported : (report level speaker wording).Ensures s
      (fun _ t => wording.isWritable = true ∧ t = s) bad :=
    ensures_report_cases (fun writable => ⟨writable, rfl⟩) error
  refine reported.bind ?_
  rintro _ _ ⟨writable, rfl⟩
  exact rest writable

/-- A report keeps the state, and fails only as a number that cannot be written. -/
theorem ensures_report {level : Level} {speaker : Speaker} {wording : Wording}
    {good : Unit → σ → Prop} (ok : good () s) (error : bad .numberTooLong s) :
    (report level speaker wording).Ensures s good bad :=
  ensures_report_cases (fun _ => ok) fun _ => error

theorem ensures_report_bind {level : Level} {speaker : Speaker} {wording : Wording}
    {next : Unit → Act σ α} (rest : (next ()).Ensures s good bad) (error : bad .numberTooLong s) :
    (report level speaker wording >>= next).Ensures s good bad :=
  ensures_report_bind_cases (fun _ => rest) fun _ => error

/-- An act on a part of the state is an act on the whole. -/
theorem ensures_onPart (part : τ → σ) (replace : σ → τ → τ) (act : Act σ α) {t : τ}
    {good : α → τ → Prop} {bad : Fault → τ → Prop} :
    (onPart part replace act).Ensures t good bad ↔
      act.Ensures (part t) (fun a s => good a (replace s t)) fun f s => bad f (replace s t) := by
  have same : ∀ journal,
      (match (onPart part replace act).start ⟨t, journal⟩ with
        | (.ok a, after) => good a after.state
        | (.error f, after) => bad f after.state) ↔
      match act.start ⟨part t, journal⟩ with
        | (.ok a, after) => good a (replace after.state t)
        | (.error f, after) => bad f (replace after.state t) := by
    intro journal
    unfold onPart
    rw [start_ofStart]
    cases act.start ⟨part t, journal⟩ with
    | mk outcome after => cases outcome <;> exact Iff.rfl
  exact ⟨fun h => ⟨fun journal => (same journal).1 (h.ends journal)⟩,
    fun h => ⟨fun journal => (same journal).2 (h.ends journal)⟩⟩

/-! ## §3. Acts that keep a property of the state. -/

/-- An act that keeps a property of the state, in whatever way it ends. -/
def Keeps (I : σ → Prop) (act : Act σ α) : Prop :=
  ∀ s, I s → act.Ensures s (fun _ t => I t) fun _ t => I t

namespace Keeps

variable {I : σ → Prop}

theorem pure (a : α) : Keeps I (Pure.pure a : Act σ α) := fun _ here => (ensures_pure a).2 here

theorem throw (f : Fault) : Keeps I (MonadExcept.throw f : Act σ α) :=
  fun _ here => (ensures_throw f).2 here

theorem lift (result : Except Fault α) : Keeps I (liftM result : Act σ α) :=
  fun _ here => (ensures_lift result).2 ⟨fun _ _ => here, fun _ _ => here⟩

theorem report (level : Level) (speaker : Speaker) (wording : Wording) :
    Keeps I (Act.report level speaker wording) :=
  fun _ here => ensures_report here here

theorem bind {act : Act σ α} {next : α → Act σ β} (first : Keeps I act)
    (then_ : ∀ a, Keeps I (next a)) : Keeps I (act >>= next) :=
  fun s here => (first s here).bind fun a t there => then_ a t there

/-- Acts one after the other, one for each item of a list. -/
theorem forM {act : β → Act σ PUnit} {items : List β} (h : ∀ b ∈ items, Keeps I (act b)) :
    Keeps I (items.forM act) := by
  induction items with
  | nil => exact pure _
  | cons b items ih =>
    obtain ⟨here, there⟩ := List.forall_mem_cons.1 h
    exact bind here fun _ => ih there

/-- What comes after a look at the state may build on the property. -/
theorem state_bind {next : σ → Act σ α}
    (h : ∀ s, I s → (next s).Ensures s (fun _ t => I t) fun _ t => I t) :
    Keeps I (Act.state >>= next) :=
  fun s here => (ensures_state_bind next).2 (h s here)

theorem onPart {J : τ → Prop} {part : τ → σ} {replace : σ → τ → τ} {act : Act σ α}
    (h : Keeps I act) (inner : ∀ t, J t → I (part t))
    (outer : ∀ t s, J t → I s → J (replace s t)) : Keeps J (Act.onPart part replace act) := by
  intro t here
  rw [ensures_onPart]
  exact (h (part t) (inner t here)).mono (fun _ s there => outer t s here there)
    fun _ s there => outer t s here there

end Keeps

/-! ## §4. Runs that go well. -/

/-- Where a sequence arrives, its first act has arrived before. -/
theorem bind_arrived {act : Act σ α} {next : α → Act σ β} {desk last : Desk σ} {b : β}
    (ran : (act >>= next).start desk = (.ok b, last)) :
    ∃ a mid, act.start desk = (.ok a, mid) ∧ (next a).start mid = (.ok b, last) := by
  rw [start_bind] at ran
  cases first : act.start desk with
  | mk outcome mid =>
    rw [first] at ran
    cases outcome with
    | error f => cases ran
    | ok a => exact ⟨a, mid, rfl, ran⟩

/-- A computation that is no act arrives where it began. -/
theorem lift_arrived {result : Except Fault α} {desk last : Desk σ} {a : α}
    (ran : (liftM result : Act σ α).start desk = (.ok a, last)) : result = .ok a ∧ last = desk :=
  ⟨congrArg Prod.fst ran, (congrArg Prod.snd ran).symm⟩

end Plectrum.Act
