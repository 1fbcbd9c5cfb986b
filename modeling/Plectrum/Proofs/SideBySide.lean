/-
  Plectrum.Proofs.SideBySide
  ──────────────────────────
  **Two runs side by side.**

  What two runs have in common is no contract of one of them.  `Act.InStep R V act act'` says
  that two acts, started in states that are related by `R`, lead to values that are related by
  `V` and to states that are related by `R` again, if both go well.  The states may be of
  different types, and the journals may differ.  There is one rule for each way to build an
  act, as there is for contracts.

  Of one act that runs twice more can be said.  `Act.Alike R S act` says that it ends the same
  way in both runs, with the same value or the same fault, if its states are related by `R` at
  the start, and that they are related by `S` at the end.

  `Act.Matched R V S act act'` is about two acts again, and says all of this: begun on states
  related by `R` and with one journal, they end with related values or with the same fault, on
  states related by `S`, and with one journal.
-/
import Plectrum.Proofs.Contract

namespace Plectrum.Act

/-! ## §1. Two acts in step. -/

section InStep

variable {σ σ' τ τ' α α' β β' : Type}

/-- Two acts that keep two states related and have related values, if both go well. -/
def InStep (R : σ → τ → Prop) (V : α → β → Prop) (act : Act σ α) (act' : Act τ β) : Prop :=
  ∀ desk desk', R desk.state desk'.state → ∀ a b, (act.start desk).1 = .ok a →
    (act'.start desk').1 = .ok b → V a b ∧ R (act.start desk).2.state (act'.start desk').2.state

/-- Two acts of which the values do not matter. -/
abbrev Abreast (R : σ → τ → Prop) (act : Act σ α) (act' : Act τ β) : Prop :=
  InStep R (fun _ _ => True) act act'

namespace InStep

variable {R : σ → τ → Prop} {V : α → β → Prop} {act : Act σ α} {act' : Act τ β}

theorem pure {a : α} {b : β} (h : V a b) :
    InStep R V (Pure.pure a : Act σ α) (Pure.pure b : Act τ β) := by
  rintro desk desk' related _ _ ⟨rfl⟩ ⟨rfl⟩
  exact ⟨h, related⟩

/-- An act that fails has nothing to show. -/
theorem throw (f : Fault) : InStep R V (MonadExcept.throw f : Act σ α) act' :=
  fun _ _ _ _ _ ran => nomatch ran

theorem lift {result : Except Fault α} {result' : Except Fault β}
    (h : ∀ a b, result = .ok a → result' = .ok b → V a b) :
    InStep R V (liftM result : Act σ α) (liftM result' : Act τ β) :=
  fun _ _ related a b ran ran' => ⟨h a b ran ran', related⟩

theorem state : InStep R R (Act.state : Act σ σ) (Act.state : Act τ τ) := by
  rintro desk desk' related _ _ ⟨rfl⟩ ⟨rfl⟩
  exact ⟨related, related⟩

theorem update {f : σ → σ} {g : τ → τ} (h : ∀ s t, R s t → R (f s) (g t)) :
    Abreast R (Act.update f) (Act.update g) :=
  fun _ _ related _ _ _ _ => ⟨True.intro, h _ _ related⟩

/-- What goes well step by step stays in step. -/
theorem bind {next : α → Act σ α'} {next' : β → Act τ β'} {V' : α' → β' → Prop}
    (first : InStep R V act act') (then_ : ∀ a b, V a b → InStep R V' (next a) (next' b)) :
    InStep R V' (act >>= next) (act' >>= next') := by
  intro desk desk' related a b
  rw [start_bind, start_bind]
  have here := first desk desk' related
  revert here
  cases act.start desk with
  | mk outcome after =>
    cases act'.start desk' with
    | mk outcome' after' =>
      cases outcome with
      | error f => exact fun _ ran => nomatch ran
      | ok x =>
        cases outcome' with
        | error f => exact fun _ _ ran' => nomatch ran'
        | ok y =>
          intro here ran ran'
          obtain ⟨values, states⟩ := here x y rfl rfl
          exact then_ x y values after after' states a b ran ran'

/-- A value that is the same on both sides can be counted on. -/
theorem bind_same {act : Act σ α} {act' : Act τ α} {next : α → Act σ α'} {next' : α → Act τ β'}
    {V' : α' → β' → Prop} (first : InStep R Eq act act')
    (then_ : ∀ a, InStep R V' (next a) (next' a)) : InStep R V' (act >>= next) (act' >>= next') :=
  bind first fun a _ same => same ▸ then_ a

/-- The same computation has the same value. -/
theorem lift_bind {result : Except Fault α} {next : α → Act σ α'} {next' : α → Act τ β'}
    {V' : α' → β' → Prop} (then_ : ∀ a, result = .ok a → InStep R V' (next a) (next' a)) :
    InStep R V' ((liftM result : Act σ α) >>= next) ((liftM result : Act τ α) >>= next') := by
  have both : ∀ a b, result = .ok a → result = .ok b → result = .ok a ∧ a = b :=
    fun a b here there => ⟨here, Except.ok.inj (here.symm.trans there)⟩
  refine bind (V := fun a b => result = .ok a ∧ a = b) (lift both) ?_
  rintro a _ ⟨here, rfl⟩
  exact then_ a here

/-- After a check that refuses on both sides, the refused case is settled. -/
theorem check {c : Prop} [Decidable c] {f : Fault} {next : Unit → Act σ α} {next' : Unit → Act τ β}
    (h : ¬c → InStep R V (next ()) (next' ())) :
    InStep R V (if c then (MonadExcept.throw f : Act σ Unit) >>= next else next ())
      (if c then (MonadExcept.throw f : Act τ Unit) >>= next' else next' ()) := by
  split
  · exact fun _ _ _ _ _ ran => nomatch ran
  · next here => exact h here

/-- Acts one after the other, one for each item of a list. -/
theorem forM {act : α → Act σ PUnit} {act' : α → Act τ PUnit} {items : List α}
    (h : ∀ a ∈ items, Abreast R (act a) (act' a)) :
    Abreast R (items.forM act) (items.forM act') := by
  induction items with
  | nil => exact pure True.intro
  | cons a items ih =>
    obtain ⟨here, there⟩ := List.forall_mem_cons.1 h
    exact bind here fun _ _ _ => ih there

/-- Reports differ as they like. -/
theorem report {level level' : Level} {speaker speaker' : Speaker} {wording wording' : Wording} :
    Abreast R (Act.report level speaker wording) (Act.report level' speaker' wording') := by
  intro desk desk' related _ _ _ _
  rw [start_report, start_report]
  refine ⟨True.intro, ?_⟩
  split <;> split <;> exact related

/-- Contracts of each act alone may be enough. -/
theorem of_ensures {good : σ → α → σ → Prop} {good' : τ → β → τ → Prop}
    {bad : σ → Fault → σ → Prop} {bad' : τ → Fault → τ → Prop}
    (h : ∀ s, act.Ensures s (good s) (bad s)) (h' : ∀ t, act'.Ensures t (good' t) (bad' t))
    (both : ∀ s t, R s t → ∀ a u b v, good s a u → good' t b v → V a b ∧ R u v) :
    InStep R V act act' :=
  fun desk desk' related a b ran ran' =>
    both _ _ related a _ b _ ((h desk.state).of_ok ran) ((h' desk'.state).of_ok ran')

/-- Acts on parts of which nothing is asked. -/
theorem onPart {part : σ → σ'} {part' : τ → τ'} {replace : σ' → σ → σ} {replace' : τ' → τ → τ}
    {act : Act σ' α} {act' : Act τ' β} {Q : σ' → τ' → Prop} (h : InStep Q V act act')
    (inner : ∀ s t, R s t → Q (part s) (part' t))
    (outer : ∀ s t, R s t → ∀ u v, Q u v → R (replace u s) (replace' v t)) :
    InStep R V (Act.onPart part replace act) (Act.onPart part' replace' act') := by
  intro desk desk' related a b ran ran'
  obtain ⟨values, states⟩ := h ⟨part desk.state, desk.journal⟩ ⟨part' desk'.state, desk'.journal⟩
    (inner _ _ related) a b ran ran'
  exact ⟨values, outer _ _ related _ _ states⟩

/-- Of two acts of any kind nothing is known but that they may run. -/
theorem any (act : Act σ α) (act' : Act τ β) :
    InStep (fun _ _ => True) (fun _ _ => True) act act' :=
  fun _ _ _ _ _ _ _ => ⟨True.intro, True.intro⟩

end InStep

end InStep

/-! ## §2. One act, twice. -/

section Alike

variable {σ τ α β : Type}

/-- An act that ends the same way on desks with states related by `R`, and leaves states related
by `S`. -/
def Alike (R S : σ → σ → Prop) (act : Act σ α) : Prop :=
  ∀ desk desk', R desk.state desk'.state →
    (act.start desk).1 = (act.start desk').1 ∧
      S (act.start desk).2.state (act.start desk').2.state

namespace Alike

variable {R R' S T : σ → σ → Prop} {act : Act σ α}

theorem of_stronger (h : Alike R S act) (stronger : ∀ s s', R' s s' → R s s') : Alike R' S act :=
  fun desk desk' related => h desk desk' (stronger _ _ related)

theorem pure (a : α) : Alike R R (Pure.pure a : Act σ α) := fun _ _ related => ⟨rfl, related⟩

theorem throw (f : Fault) : Alike R R (MonadExcept.throw f : Act σ α) :=
  fun _ _ related => ⟨rfl, related⟩

theorem lift (result : Except Fault α) : Alike R R (liftM result : Act σ α) :=
  fun _ _ related => ⟨rfl, related⟩

/-- The states themselves are the same only where nothing else is related. -/
theorem state : Alike Eq Eq (Act.state : Act σ σ) :=
  fun _ _ same => ⟨congrArg Except.ok same, same⟩

theorem update {f : σ → σ} (h : ∀ s s', R s s' → S (f s) (f s')) : Alike R S (Act.update f) :=
  fun _ _ related => ⟨rfl, h _ _ related⟩

/-- An act that goes on where another one ended, if that one leaves its states related after a
fault too. -/
theorem bind {next : α → Act σ β} (first : Alike R S act) (then_ : ∀ a, Alike S T (next a))
    (faulty : ∀ s s', S s s' → T s s') : Alike R T (act >>= next) := by
  intro desk desk' related
  rw [start_bind, start_bind]
  have here := first desk desk' related
  revert here
  cases act.start desk with
  | mk outcome after =>
    cases act.start desk' with
    | mk outcome' after' =>
      rintro ⟨rfl, states⟩
      cases outcome with
      | error f => exact ⟨rfl, faulty _ _ states⟩
      | ok a => exact then_ a after after' states

/-- Acts that all keep one relation keep it one after the other. -/
theorem seq {next : α → Act σ β} (first : Alike R R act) (then_ : ∀ a, Alike R R (next a)) :
    Alike R R (act >>= next) := bind first then_ fun _ _ related => related

/-- After a check that refuses, the refused case is settled. -/
theorem check {c : Prop} [Decidable c] {f : Fault} {next : Unit → Act σ β}
    (h : Alike R R (next ())) :
    Alike R R (if c then (MonadExcept.throw f : Act σ Unit) >>= next else next ()) := by
  split
  · exact fun _ _ related => ⟨rfl, related⟩
  · exact h

/-- Acts one after the other, one for each item of a list. -/
theorem forM {act : α → Act σ PUnit} (h : ∀ a, Alike R R (act a)) (items : List α) :
    Alike R R (items.forM act) := by
  induction items with
  | nil => exact pure _
  | cons a items ih => exact seq (h a) fun _ => ih

/-- Whether a report can be written does not depend on the journal. -/
theorem report (level : Level) (speaker : Speaker) (wording : Wording) :
    Alike R R (Act.report level speaker wording) := by
  intro desk desk' related
  rw [start_report, start_report]
  split <;> exact ⟨rfl, related⟩

theorem onPart {part : τ → σ} {replace : σ → τ → τ} {Q : τ → τ → Prop} (h : Alike R S act)
    (inner : ∀ t t', Q t t' → R (part t) (part t'))
    (outer : ∀ t t', Q t t' → ∀ s s', S s s' → Q (replace s t) (replace s' t')) :
    Alike Q Q (Act.onPart part replace act) := by
  intro desk desk' related
  obtain ⟨outcome, states⟩ := h ⟨part desk.state, desk.journal⟩ ⟨part desk'.state, desk'.journal⟩
    (inner _ _ related)
  exact ⟨outcome, outer _ _ related _ _ states⟩

/-- An act that ends alike in two runs keeps them in step. -/
theorem inStep (h : Alike R R act) : InStep R Eq act act := by
  intro desk desk' related a b ran ran'
  obtain ⟨same, states⟩ := h desk desk' related
  rw [ran, ran'] at same
  exact ⟨Except.ok.inj same, states⟩

end Alike

end Alike

/-! ## §3. Two acts with one journal. -/

section Matched

variable {σ τ α β α' β' σ' τ' : Type}

/-- Outcomes that are values related by `V`, or the same fault. -/
def SameEnd (V : α → β → Prop) : Except Fault α → Except Fault β → Prop
  | .ok a, .ok b => V a b
  | .error f, .error g => f = g
  | _, _ => False

theorem SameEnd.refl : ∀ result : Except Fault α, SameEnd Eq result result
  | .ok _ => rfl
  | .error _ => rfl

theorem SameEnd.eq :
    ∀ {result result' : Except Fault α}, SameEnd Eq result result' → result = result'
  | .ok _, .ok _, same => congrArg Except.ok same
  | .error _, .error _, same => congrArg Except.error same

/-- Two acts that end alike and write the same, when they begin with one journal on states related
by `R`; then their states are related by `S`. -/
def Matched (R : σ → τ → Prop) (V : α → β → Prop) (S : σ → τ → Prop) (act : Act σ α)
    (act' : Act τ β) : Prop :=
  ∀ s t journal, R s t →
    SameEnd V (act.start ⟨s, journal⟩).1 (act'.start ⟨t, journal⟩).1 ∧
      S (act.start ⟨s, journal⟩).2.state (act'.start ⟨t, journal⟩).2.state ∧
      (act.start ⟨s, journal⟩).2.journal = (act'.start ⟨t, journal⟩).2.journal

namespace Matched

variable {R S T : σ → τ → Prop} {V : α → β → Prop} {act : Act σ α} {act' : Act τ β}

theorem weaken (h : Matched R V S act act') (weaker : ∀ s t, S s t → T s t) :
    Matched R V T act act' := by
  intro s t journal related
  obtain ⟨ends, states, journals⟩ := h s t journal related
  exact ⟨ends, weaker _ _ states, journals⟩

/-- An act does the same on the same state. -/
theorem refl (act : Act σ α) : Matched Eq Eq Eq act act := by
  rintro s t journal rfl
  exact ⟨.refl _, rfl, rfl⟩

theorem pure {a : α} {b : β} (h : V a b) :
    Matched R V R (Pure.pure a : Act σ α) (Pure.pure b : Act τ β) :=
  fun _ _ _ related => ⟨h, related, rfl⟩

theorem throw (f : Fault) :
    Matched R V R (MonadExcept.throw f : Act σ α) (MonadExcept.throw f : Act τ β) :=
  fun _ _ _ related => ⟨rfl, related, rfl⟩

theorem lift (result : Except Fault α) :
    Matched R Eq R (liftM result : Act σ α) (liftM result : Act τ α) :=
  fun _ _ _ related => ⟨.refl result, related, rfl⟩

theorem state : Matched R R R (Act.state : Act σ σ) (Act.state : Act τ τ) :=
  fun _ _ _ related => ⟨related, related, rfl⟩

theorem update {f : σ → σ} {g : τ → τ} (h : ∀ s t, R s t → S (f s) (g t)) :
    Matched R Eq S (Act.update f) (Act.update g) :=
  fun _ _ _ related => ⟨rfl, h _ _ related, rfl⟩

/-- Acts that go on where others ended, if what those leave is related after a fault too. -/
theorem bind {next : α → Act σ α'} {next' : β → Act τ β'} {W : α' → β' → Prop}
    (first : Matched R V S act act') (then_ : ∀ a b, V a b → Matched S W T (next a) (next' b))
    (faulty : ∀ s t, S s t → T s t) : Matched R W T (act >>= next) (act' >>= next') := by
  intro s t journal related
  rw [start_bind, start_bind]
  have here := first s t journal related
  revert here
  cases act.start ⟨s, journal⟩ with
  | mk outcome after =>
    cases act'.start ⟨t, journal⟩ with
    | mk outcome' after' =>
      obtain ⟨state, journal⟩ := after
      obtain ⟨state', journal'⟩ := after'
      rintro ⟨ends, states, journals⟩
      obtain rfl : journal = journal' := journals
      cases outcome with
      | error f =>
        cases outcome' with
        | error g => exact ⟨ends, faulty _ _ states, rfl⟩
        | ok b => exact ends.elim
      | ok a =>
        cases outcome' with
        | error g => exact ends.elim
        | ok b => exact then_ a b ends state state' journal states

/-- Acts that all keep one relation keep it one after the other. -/
theorem seq {next : α → Act σ α'} {next' : β → Act τ β'} {W : α' → β' → Prop}
    (first : Matched R V R act act') (then_ : ∀ a b, V a b → Matched R W R (next a) (next' b)) :
    Matched R W R (act >>= next) (act' >>= next') := bind first then_ fun _ _ related => related

/-- A computation that is no act goes before both. -/
theorem lift_bind {result : Except Fault α} {next : α → Act σ α'} {next' : α → Act τ β'}
    {W : α' → β' → Prop} (faulty : ∀ s t, R s t → T s t)
    (then_ : ∀ a, result = .ok a → Matched R W T (next a) (next' a)) :
    Matched R W T ((liftM result : Act σ α) >>= next) ((liftM result : Act τ α) >>= next') := by
  cases result with
  | error f => exact fun s t _ related => ⟨rfl, faulty s t related, rfl⟩
  | ok a => exact then_ a rfl

/-- After a check that refuses on both sides, the refused case is settled. -/
theorem check {c : Prop} [Decidable c] {f : Fault} {next : Unit → Act σ α} {next' : Unit → Act τ β}
    (faulty : ∀ s t, R s t → T s t) (h : Matched R V T (next ()) (next' ())) :
    Matched R V T (if c then (MonadExcept.throw f : Act σ Unit) >>= next else next ())
      (if c then (MonadExcept.throw f : Act τ Unit) >>= next' else next' ()) := by
  split
  · exact fun s t _ related => ⟨rfl, faulty s t related, rfl⟩
  · exact h

theorem report (level : Level) (speaker : Speaker) (wording : Wording) :
    Matched R Eq R (Act.report level speaker wording) (Act.report level speaker wording) := by
  intro s t journal related
  rw [start_report, start_report]
  split <;> exact ⟨rfl, related, rfl⟩

theorem onPart {part : σ → σ'} {part' : τ → τ'} {replace : σ' → σ → σ} {replace' : τ' → τ → τ}
    {act : Act σ' α} {act' : Act τ' β} {Q Q' : σ' → τ' → Prop} (h : Matched Q V Q' act act')
    (inner : ∀ s t, R s t → Q (part s) (part' t))
    (outer : ∀ s t, R s t → ∀ u v, Q' u v → S (replace u s) (replace' v t)) :
    Matched R V S (Act.onPart part replace act) (Act.onPart part' replace' act') := by
  intro s t journal related
  obtain ⟨ends, states, journals⟩ := h _ _ journal (inner s t related)
  exact ⟨ends, outer s t related _ _ states, journals⟩

end Matched

end Matched

/-! ## §4. Two acts that fail together. -/

section Parallel

variable {σ τ α β α' β' σ' τ' : Type}

/-- Outcomes that are values related by `V`, or two faults. -/
def BothEnd (V : α → β → Prop) : Except Fault α → Except Fault β → Prop
  | .ok a, .ok b => V a b
  | .error _, .error _ => True
  | _, _ => False

theorem BothEnd.refl : ∀ result : Except Fault α, BothEnd Eq result result
  | .ok _ => rfl
  | .error _ => True.intro

/-- Computations that have the same value or none. -/
theorem BothEnd.of_toOption : ∀ {result result' : Except Fault α},
    result.toOption = result'.toOption → BothEnd Eq result result'
  | .ok _, .ok _, same => Option.some.inj same
  | .error _, .error _, _ => True.intro
  | .ok _, .error _, same => nomatch same
  | .error _, .ok _, same => nomatch same

/-- Two acts that both go well or both fail, and keep two states related in either case. -/
def Parallel (R : σ → τ → Prop) (V : α → β → Prop) (act : Act σ α) (act' : Act τ β) : Prop :=
  ∀ desk desk', R desk.state desk'.state →
    BothEnd V (act.start desk).1 (act'.start desk').1 ∧
      R (act.start desk).2.state (act'.start desk').2.state

namespace Parallel

variable {R : σ → τ → Prop} {V : α → β → Prop} {act : Act σ α} {act' : Act τ β}

theorem pure {a : α} {b : β} (h : V a b) :
    Parallel R V (Pure.pure a : Act σ α) (Pure.pure b : Act τ β) :=
  fun _ _ related => ⟨h, related⟩

theorem throw (f g : Fault) :
    Parallel R V (MonadExcept.throw f : Act σ α) (MonadExcept.throw g : Act τ β) :=
  fun _ _ related => ⟨True.intro, related⟩

theorem lift {result : Except Fault α} {result' : Except Fault β} (h : BothEnd V result result') :
    Parallel R V (liftM result : Act σ α) (liftM result' : Act τ β) :=
  fun _ _ related => ⟨h, related⟩

theorem update {f : σ → σ} {g : τ → τ} (h : ∀ s t, R s t → R (f s) (g t)) :
    Parallel R Eq (Act.update f) (Act.update g) :=
  fun _ _ related => ⟨rfl, h _ _ related⟩

theorem bind {next : α → Act σ α'} {next' : β → Act τ β'} {W : α' → β' → Prop}
    (first : Parallel R V act act') (then_ : ∀ a b, V a b → Parallel R W (next a) (next' b)) :
    Parallel R W (act >>= next) (act' >>= next') := by
  intro desk desk' related
  rw [start_bind, start_bind]
  have here := first desk desk' related
  revert here
  cases act.start desk with
  | mk outcome after =>
    cases act'.start desk' with
    | mk outcome' after' =>
      rintro ⟨ends, states⟩
      cases outcome with
      | error f =>
        cases outcome' with
        | error g => exact ⟨True.intro, states⟩
        | ok b => exact ends.elim
      | ok a =>
        cases outcome' with
        | error g => exact ends.elim
        | ok b => exact then_ a b ends after after' states

/-- A value that is the same on both sides can be counted on. -/
theorem bind_same {act : Act σ α} {act' : Act τ α} {next : α → Act σ α'} {next' : α → Act τ β'}
    {W : α' → β' → Prop} (first : Parallel R Eq act act')
    (then_ : ∀ a, Parallel R W (next a) (next' a)) : Parallel R W (act >>= next) (act' >>= next') :=
  bind first fun a _ same => same ▸ then_ a

/-- A computation that is no act goes before both. -/
theorem lift_bind {result : Except Fault α} {next : α → Act σ α'} {next' : α → Act τ β'}
    {W : α' → β' → Prop} (then_ : ∀ a, result = .ok a → Parallel R W (next a) (next' a)) :
    Parallel R W ((liftM result : Act σ α) >>= next) ((liftM result : Act τ α) >>= next') := by
  cases result with
  | error f => exact fun _ _ related => ⟨True.intro, related⟩
  | ok a => exact then_ a rfl

/-- Acts one after the other, one for each item of a list. -/
theorem forM {act : α → Act σ PUnit} {act' : α → Act τ PUnit} {items : List α}
    (h : ∀ a ∈ items, Parallel R Eq (act a) (act' a)) :
    Parallel R Eq (items.forM act) (items.forM act') := by
  induction items with
  | nil => exact pure rfl
  | cons a items ih =>
    obtain ⟨here, there⟩ := List.forall_mem_cons.1 h
    exact bind_same here fun _ => ih there

theorem report (level : Level) (speaker : Speaker) (wording : Wording) :
    Parallel R Eq (Act.report level speaker wording) (Act.report level speaker wording) := by
  intro desk desk' related
  rw [start_report, start_report]
  split
  · exact ⟨rfl, related⟩
  · exact ⟨True.intro, related⟩

end Parallel

end Parallel

end Plectrum.Act
