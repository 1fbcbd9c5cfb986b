/-
  Plectrum.Proofs.Outcomes
  ────────────────────────
  **What computations yield, and how walks of them fail.**

  A computation goes well with a value, or fails.  `Yields` says what its value is like if it goes
  well, with one rule for each way to put computations together.  A walk takes one step for each
  item of a list: it goes well exactly if each step does, and fails as one of them does.
-/
import Mathlib.Data.List.Forall2
import Plectrum.Fault

namespace Plectrum

/-! ## §1. What is yielded. -/

variable {α β : Type}

/-- What a computation yields, if it yields anything. -/
def Yields (result : Except Fault α) (P : α → Prop) : Prop := ∀ a, result = .ok a → P a

namespace Yields

variable {P : β → Prop}

theorem pure {b : β} (h : P b) : Yields (Pure.pure b) P := by
  intro _ same
  cases same
  exact h

/-- A fault yields nothing. -/
theorem error (f : Fault) : Yields (.error f) P := by
  intro _ same
  cases same

theorem bind {result : Except Fault α} {next : α → Except Fault β}
    (h : ∀ a, result = .ok a → Yields (next a) P) : Yields (result >>= next) P := by
  cases result with
  | ok a => exact h a rfl
  | error f => exact error f

theorem map {result : Except Fault α} {f : α → β} (h : Yields result fun a => P (f a)) :
    Yields (f <$> result) P := by
  cases result with
  | ok a =>
    intro b same
    cases same
    exact h a rfl
  | error f => exact error f

/-- After a check that refuses, the refused case is settled. -/
theorem check {c : Prop} [Decidable c] {f : Fault} {next : Unit → Except Fault β}
    (h : ¬c → Yields (next ()) P) :
    Yields (if c then (throw f : Except Fault Unit) >>= next else next ()) P := by
  split
  · exact error f
  · next here => exact h here

/-- A choice between a fault and something else. -/
theorem ite_error {c : Prop} [Decidable c] {f : Fault} {other : Except Fault β}
    (h : ¬c → Yields other P) : Yields (if c then .error f else other) P := by
  split
  · exact error f
  · next here => exact h here

/-- A walk yields one item for each. -/
theorem mapM {step : α → Except Fault β} {R : α → β → Prop} {as : List α}
    (h : ∀ a ∈ as, Yields (step a) (R a)) : Yields (as.mapM step) (List.Forall₂ R as) := by
  induction as with
  | nil => exact .pure .nil
  | cons a as ih =>
    rw [List.mapM_cons]
    refine .bind fun b here => .bind fun bs rest => .pure ?_
    have others := ih (fun a inside => h a (List.mem_cons_of_mem _ inside)) bs rest
    exact .cons (h a List.mem_cons_self b here) others

end Yields

/-- What is seen in what a computation yields shows that it yields something. -/
theorem exists_ok_of_seen {result : Except Fault α} {look : α → β} {b : β}
    (seen : result.toOption.map look = some b) : ∃ a, result = .ok a ∧ look a = b := by
  cases result with
  | ok a => exact ⟨a, rfl, Option.some.inj seen⟩
  | error f => cases seen

/-- What is seen of something that need not be there shows that it is. -/
theorem exists_some_of_seen {result : Except Fault (Option α)} {look : α → β} {b : β}
    (seen : result.toOption.join.map look = some b) :
    ∃ a, result = .ok (some a) ∧ look a = b := by
  cases result with
  | error f => cases seen
  | ok a? =>
    cases a? with
    | none => cases seen
    | some a => exact ⟨a, rfl, Option.some.inj seen⟩

/-- What is seen to be yielded is yielded. -/
theorem ok_of_toOption {result : Except Fault α} {a : α} (seen : result.toOption = some a) :
    result = .ok a := by
  cases result with
  | ok b => exact congrArg Except.ok (Option.some.inj seen)
  | error f => cases seen

/-- A computation that is seen to go well yields something. -/
theorem exists_ok_of_toBool {result : Except Fault α} (well : result.toBool = true) :
    ∃ a, result = .ok a := by
  cases result with
  | ok a => exact ⟨a, rfl⟩
  | error f => cases well

/-- The first step of a computation that goes well goes well, and so does the rest. -/
theorem bind_ok {result : Except Fault α} {next : α → Except Fault β} {b : β}
    (well : result >>= next = .ok b) : ∃ a, result = .ok a ∧ next a = .ok b := by
  cases result with
  | ok a => exact ⟨a, rfl, well⟩
  | error f => cases well

/-- A check that refuses has passed, if the computation goes well. -/
theorem check_ok {c : Prop} [Decidable c] {f : Fault} {next : Unit → Except Fault α}
    {a : α} (well : (if c then (throw f : Except Fault Unit) >>= next else next ()) = .ok a) :
    ¬c ∧ next () = .ok a := by
  split at well
  · cases well
  · next passed => exact ⟨passed, well⟩

/-- The family of the fault of a computation, if it fails. -/
def faultKind? : Except Fault α → Option FaultKind
  | .ok _ => none
  | .error f => some f.kind

/-- What is seen of a fault shows that there is one. -/
theorem exists_error_of_kind {result : Except Fault α} {kind : FaultKind}
    (seen : faultKind? result = some kind) : ∃ f, result = .error f ∧ f.kind = kind := by
  cases result with
  | ok a => cases seen
  | error f => exact ⟨f, rfl, Option.some.inj seen⟩

/-- A computation fails as its first step does. -/
theorem faultKind?_bind {result : Except Fault α} {kind : FaultKind} (next : α → Except Fault β)
    (failed : faultKind? result = some kind) : faultKind? (result >>= next) = some kind := by
  cases result with
  | ok a => cases failed
  | error f => exact failed

/-- The families of mistakes in the settings. -/
def FaultKind.isConfiguration : FaultKind → Bool
  | .configuration | .unknownNote | .unknownInstrument | .unknownPercussion => true
  | _ => false

/-- A computation fails or yields something. -/
theorem exists_error_iff {result : Except Fault α} :
    (∃ f, result = .error f) ↔ ¬ ∃ a, result = .ok a := by
  cases result with
  | ok a =>
    refine ⟨?_, fun none => (none ⟨a, rfl⟩).elim⟩
    rintro ⟨f, ⟨⟩⟩
  | error f =>
    refine ⟨fun _ => ?_, fun _ => ⟨f, rfl⟩⟩
    rintro ⟨a, ⟨⟩⟩

theorem exists_error_map_iff {result : Except Fault α} (g : α → β) :
    (∃ f, result.map g = .error f) ↔ ∃ f, result = .error f := by
  cases result with
  | ok a =>
    constructor
    · rintro ⟨f, ⟨⟩⟩
    · rintro ⟨f, ⟨⟩⟩
  | error f => exact ⟨fun _ => ⟨f, rfl⟩, fun _ => ⟨f, rfl⟩⟩

/-! ## §2. Walks. -/

section Walks

variable {step : α → Except Fault β} {as : List α} {bs : List β}

/-- A walk succeeds exactly if each of its steps does. -/
theorem mapM_ok_iff_forall₂ :
    as.mapM step = .ok bs ↔ List.Forall₂ (fun a b => step a = .ok b) as bs := by
  constructor
  · intro walked
    exact Yields.mapM (fun _ _ _ here => here) bs walked
  · intro each
    induction each with
    | nil => rfl
    | cons here _ ih =>
      rw [List.mapM_cons, here, ih]
      rfl

/-- The first step that fails decides how a walk fails. -/
theorem mapM_eq_error_iff {f : Fault} :
    as.mapM step = .error f ↔ ∃ before a after, as = before ++ a :: after ∧
      (∀ b ∈ before, ∃ c, step b = .ok c) ∧ step a = .error f := by
  induction as with
  | nil =>
    constructor
    · intro failed
      cases failed
    · rintro ⟨before, a, after, same, -⟩
      simp at same
  | cons b as ih =>
    rw [List.mapM_cons]
    constructor
    · intro failed
      cases first : step b with
      | error g =>
        rw [first] at failed
        cases failed
        exact ⟨[], b, as, rfl, List.forall_mem_nil _, first⟩
      | ok c =>
        rw [first] at failed
        cases rest : as.mapM step with
        | ok cs =>
          rw [rest] at failed
          cases failed
        | error g =>
          rw [rest] at failed
          cases failed
          obtain ⟨before, a, after, rfl, well, here⟩ := ih.1 rest
          exact ⟨b :: before, a, after, rfl, List.forall_mem_cons.2 ⟨⟨c, first⟩, well⟩, here⟩
    · rintro ⟨before, a, after, same, well, failed⟩
      cases before with
      | nil =>
        cases same
        rw [failed]
        rfl
      | cons d before =>
        cases same
        obtain ⟨⟨c, first⟩, well⟩ := List.forall_mem_cons.1 well
        rw [first, ih.2 ⟨before, a, after, rfl, well, failed⟩]
        rfl

/-- A walk fails as one of its steps does. -/
theorem exists_of_mapM_error {f : Fault} (failed : as.mapM step = .error f) :
    ∃ a ∈ as, step a = .error f := by
  obtain ⟨before, a, after, rfl, -, here⟩ := mapM_eq_error_iff.1 failed
  exact ⟨a, List.mem_append_right _ List.mem_cons_self, here⟩

/-- A walk fails exactly if one of its steps does. -/
theorem mapM_error_iff :
    (∃ f, as.mapM step = .error f) ↔ ∃ a ∈ as, ∃ f, step a = .error f := by
  constructor
  · rintro ⟨f, failed⟩
    obtain ⟨a, here, same⟩ := exists_of_mapM_error failed
    exact ⟨a, here, f, same⟩
  · rintro ⟨a, here, f, failed⟩
    induction as with
    | nil => cases here
    | cons b as ih =>
      rw [List.mapM_cons]
      cases first : step b with
      | error g => exact ⟨g, rfl⟩
      | ok c =>
        have later : a ∈ as := by
          rcases List.mem_cons.1 here with rfl | later
          · rw [failed] at first
            cases first
          · exact later
        obtain ⟨g, rest⟩ := ih later
        exact ⟨g, by rw [rest]; rfl⟩

/-- A walk goes well exactly if each of its steps does. -/
theorem exists_mapM_ok_iff : (∃ bs, as.mapM step = .ok bs) ↔ ∀ a ∈ as, ∃ b, step a = .ok b := by
  rw [← not_iff_not, ← exists_error_iff, mapM_error_iff]
  simp only [exists_error_iff, not_forall, exists_prop]

/-- After a walk that goes well, another one is one walk of both steps. -/
theorem mapM_of_mapM_ok {γ : Type} (next : β → Except Fault γ) (walked : as.mapM step = .ok bs) :
    as.mapM (fun a => step a >>= next) = bs.mapM next := by
  rw [mapM_ok_iff_forall₂] at walked
  induction walked with
  | nil => rfl
  | cons here _ ih =>
    rw [List.mapM_cons, List.mapM_cons, here, ih]
    rfl

/-- A walk over what another walk yields succeeds as one walk of both steps does. -/
theorem mapM_mapM_ok_iff {γ : Type} {next : β → Except Fault γ} {cs : List γ} :
    (as.mapM step >>= fun bs => bs.mapM next) = .ok cs ↔
      as.mapM (fun a => step a >>= next) = .ok cs := by
  cases first : as.mapM step with
  | ok bs => rw [mapM_of_mapM_ok next first]; rfl
  | error f =>
    -- The step that failed fails with the one after it, too.
    obtain ⟨a, here, failed⟩ := exists_of_mapM_error first
    have both : (step a >>= next) = .error f := by
      rw [failed]
      rfl
    have later : ∃ g, as.mapM (fun a => step a >>= next) = .error g :=
      mapM_error_iff.2 ⟨a, here, f, both⟩
    obtain ⟨g, refused⟩ := later
    rw [refused]
    constructor
    · rintro ⟨⟩
    · rintro ⟨⟩

/-- A walk of steps that all have the same fault, each unless its condition holds. -/
theorem mapM_ite {p : α → Prop} [DecidablePred p] {yield : α → β} {fault : Fault}
    (each : ∀ a, step a = if p a then .ok (yield a) else .error fault) (as : List α) :
    as.mapM step = if ∀ a ∈ as, p a then .ok (as.map yield) else .error fault := by
  induction as with
  | nil => rfl
  | cons a as ih =>
    rw [List.mapM_cons, each, ih]
    simp only [List.forall_mem_cons, List.map_cons]
    by_cases here : p a
    · by_cases others : ∀ a ∈ as, p a
      · rw [if_pos here, if_pos others, if_pos (And.intro here others)]
        rfl
      · rw [if_pos here, if_neg others, if_neg (mt And.right others)]
        rfl
    · rw [if_neg here, if_neg (mt And.left here)]
      rfl

/-- A walk that reads each item goes well if each can be read, and has one fault otherwise. -/
theorem mapM_elim (read : α → Option β) (fault : Fault) (items : List α) :
    (items.mapM fun item => (read item).elim (Except.error fault) Except.ok) =
      if items.all fun item => (read item).isSome then .ok (items.filterMap read)
      else .error fault := by
  induction items with
  | nil => rfl
  | cons item items ih =>
    rw [List.mapM_cons, ih, List.all_cons, List.filterMap_cons]
    cases read item with
    | none => rfl
    | some value =>
      by_cases all : items.all fun item => (read item).isSome
      · simp [all]
        rfl
      · simp [all]
        rfl

/-- Items that are good up to one that is bad. -/
def Halts (good bad : α → Prop) (as : List α) : Prop :=
  ∃ before a after, as = before ++ a :: after ∧ (∀ b ∈ before, good b) ∧ bad a

theorem Halts.imp {good good' bad bad' : α → Prop} (h : Halts good bad as)
    (same : ∀ a ∈ as, good a → good' a) (worse : ∀ a ∈ as, bad a → bad' a) :
    Halts good' bad' as := by
  obtain ⟨before, a, after, rfl, well, here⟩ := h
  refine ⟨before, a, after, rfl, fun b inside => ?_, ?_⟩
  · exact same b (List.mem_append_left _ inside) (well b inside)
  · exact worse a (List.mem_append_right _ List.mem_cons_self) here

theorem halts_congr {good good' bad bad' : α → Prop} (same : ∀ a ∈ as, good a ↔ good' a)
    (alike : ∀ a ∈ as, bad a ↔ bad' a) : Halts good bad as ↔ Halts good' bad' as :=
  ⟨fun h => h.imp (fun a here => (same a here).1) fun a here => (alike a here).1,
    fun h => h.imp (fun a here => (same a here).2) fun a here => (alike a here).2⟩

theorem halts_and_iff {good bad : α → Prop} {c : Prop} :
    Halts good (fun a => c ∧ bad a) as ↔ c ∧ Halts good bad as := by
  constructor
  · rintro ⟨before, a, after, whole, well, here, fails⟩
    exact ⟨here, before, a, after, whole, well, fails⟩
  · rintro ⟨here, before, a, after, whole, well, fails⟩
    exact ⟨before, a, after, whole, well, here, fails⟩

/-- A walk fails in the way of its first step that fails. -/
theorem faultKind?_mapM_iff {kind : FaultKind} :
    faultKind? (as.mapM step) = some kind ↔
      Halts (fun a => ∃ b, step a = .ok b) (fun a => faultKind? (step a) = some kind) as := by
  constructor
  · intro failed
    obtain ⟨f, failed, same⟩ := exists_error_of_kind failed
    obtain ⟨before, a, after, rfl, well, here⟩ := mapM_eq_error_iff.1 failed
    refine ⟨before, a, after, rfl, well, ?_⟩
    show faultKind? (step a) = some kind
    rw [here]
    exact congrArg some same
  · rintro ⟨before, a, after, rfl, well, here⟩
    obtain ⟨f, failed, same⟩ := exists_error_of_kind here
    rw [mapM_eq_error_iff.2 ⟨before, a, after, rfl, well, failed⟩]
    exact congrArg some same

end Walks

/-! ## §3. What is read. -/

/-- A reading goes well for what is sound, fails in some way for what overtaxes it in that way, and
refuses everything else as a mistake in the notation. -/
structure Reads (sound : Prop) (overtaxes : FaultKind → Prop) (result : Except Fault α) :
    Prop where
  yields : sound → ∃ a, result = .ok a
  fails : ∀ kind, overtaxes kind → faultKind? result = some kind
  cases : sound ∨ (∃ kind, overtaxes kind) ∨ faultKind? result = some .parse

namespace Reads

variable {sound sound' : Prop} {overtaxes overtaxes' : FaultKind → Prop} {result : Except Fault α}

theorem ok (a : α) : Reads True (fun _ => False) (.ok a : Except Fault α) :=
  ⟨fun _ => ⟨a, rfl⟩, nofun, .inl trivial⟩

/-- What is refused as a mistake is not sound, and asks for nothing. -/
theorem mistake (refused : faultKind? result = some .parse) :
    Reads False (fun _ => False) result :=
  ⟨nofun, nofun, .inr (.inr refused)⟩

theorem congr (h : Reads sound overtaxes result) (same : sound ↔ sound')
    (alike : ∀ kind, overtaxes kind ↔ overtaxes' kind) : Reads sound' overtaxes' result := by
  refine ⟨fun well => h.yields (same.2 well), fun kind asks => h.fails kind ((alike kind).2 asks),
    h.cases.imp same.1 (Or.imp ?_ id)⟩
  rintro ⟨kind, asks⟩
  exact ⟨kind, (alike kind).1 asks⟩

theorem ok_iff (h : Reads sound overtaxes result) : (∃ a, result = .ok a) ↔ sound := by
  refine ⟨fun ⟨a, well⟩ => ?_, h.yields⟩
  rcases h.cases with sound | ⟨kind, asks⟩ | refused
  · exact sound
  · have failed := h.fails kind asks
    rw [well] at failed
    cases failed
  · rw [well] at refused
    cases refused

/-- The ways to fail other than by a mistake. -/
theorem kind_iff (h : Reads sound overtaxes result) {kind : FaultKind} (other : kind ≠ .parse) :
    faultKind? result = some kind ↔ overtaxes kind := by
  refine ⟨fun failed => ?_, h.fails kind⟩
  rcases h.cases with sound | ⟨kind', asks⟩ | refused
  · obtain ⟨a, well⟩ := h.yields sound
    rw [well] at failed
    cases failed
  · rw [h.fails kind' asks] at failed
    cases failed
    exact asks
  · rw [refused] at failed
    cases failed
    exact absurd rfl other

/-- A text is taken apart and its parts are read, or it is refused as a mistake. -/
theorem found {γ : Type} {parts? : Option γ} {good : γ → Prop} {asks : γ → FaultKind → Prop}
    (missing : parts? = none → faultKind? result = some .parse)
    (each : ∀ parts, parts? = some parts → Reads (good parts) (asks parts) result) :
    Reads (∃ parts, parts? = some parts ∧ good parts)
      (fun kind => ∃ parts, parts? = some parts ∧ asks parts kind) result := by
  cases parts? with
  | none => exact (mistake (missing rfl)).congr (by simp) (by simp)
  | some parts => exact (each parts rfl).congr (by simp) (by simp)

/-- After a reading that goes well comes another one. -/
theorem bind {next : α → Except Fault β} (h : Reads sound overtaxes result)
    (h' : ∀ a, result = .ok a → Reads sound' overtaxes' (next a)) :
    Reads (sound ∧ sound') (fun kind => overtaxes kind ∨ sound ∧ overtaxes' kind)
      (result >>= next) := by
  cases result with
  | ok a =>
    have here : sound := h.ok_iff.1 ⟨a, rfl⟩
    have rest := h' a rfl
    refine ⟨fun both => rest.yields both.2, ?_, ?_⟩
    · rintro kind (asks | ⟨-, asks⟩)
      · cases h.fails kind asks
      · exact rest.fails kind asks
    · refine rest.cases.imp (fun well => ⟨here, well⟩) (Or.imp ?_ id)
      rintro ⟨kind, asks⟩
      exact ⟨kind, .inr ⟨here, asks⟩⟩
  | error f =>
    -- The second reading is not come to, so nothing depends on it.
    have unsound : ¬ sound := by
      intro sound
      obtain ⟨a, ⟨⟩⟩ := h.yields sound
    refine ⟨fun both => absurd both.1 unsound, ?_, ?_⟩
    · rintro kind (asks | ⟨sound, -⟩)
      · exact h.fails kind asks
      · exact absurd sound unsound
    · rcases h.cases with sound | ⟨kind, asks⟩ | refused
      · exact absurd sound unsound
      · exact .inr (.inl ⟨kind, .inl asks⟩)
      · exact .inr (.inr refused)

theorem map (g : α → β) (h : Reads sound overtaxes result) :
    Reads sound overtaxes (result >>= fun a => pure (g a)) := by
  cases result with
  | ok a => exact ⟨fun _ => ⟨g a, rfl⟩, h.fails, h.cases⟩
  | error f =>
    refine ⟨fun sound => ?_, h.fails, h.cases⟩
    obtain ⟨a, ⟨⟩⟩ := h.yields sound

/-- A walk reads its items up to the first one that it cannot read. -/
theorem mapM {step : α → Except Fault β} {good : α → Prop} {asks : α → FaultKind → Prop}
    {as : List α} (each : ∀ a ∈ as, Reads (good a) (asks a) (step a)) :
    Reads (∀ a ∈ as, good a) (fun kind => Halts good (asks · kind) as) (as.mapM step) := by
  refine ⟨fun all => ?_, fun kind halts => ?_, ?_⟩
  · exact exists_mapM_ok_iff.2 fun a here => (each a here).yields (all a here)
  · refine faultKind?_mapM_iff.2 (halts.imp (fun a here => (each a here).yields) ?_)
    exact fun a here => (each a here).fails kind
  · cases walked : as.mapM step with
    | ok bs =>
      refine .inl fun a here => (each a here).ok_iff.1 ?_
      exact exists_mapM_ok_iff.1 ⟨bs, walked⟩ a here
    | error f =>
      right
      -- The items before the first one that fails went well, so they are good.
      obtain ⟨before, a, after, rfl, well, here⟩ := mapM_eq_error_iff.1 walked
      have inside : a ∈ before ++ a :: after := List.mem_append_right _ List.mem_cons_self
      rcases (each a inside).cases with good | ⟨kind, asks⟩ | refused
      · obtain ⟨b, read⟩ := (each a inside).yields good
        rw [here] at read
        cases read
      · have sound : ∀ b ∈ before, good b :=
          fun b first => (each b (List.mem_append_left _ first)).ok_iff.1 (well b first)
        exact .inl ⟨kind, before, a, after, rfl, sound, asks⟩
      · rw [here] at refused
        exact .inr refused

end Reads

end Plectrum
