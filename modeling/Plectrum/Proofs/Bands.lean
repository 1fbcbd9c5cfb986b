/-
  Plectrum.Proofs.Bands
  ─────────────────────
  **Two bands, voice by voice.**

  `Band.Pairs R` says that two bands have the same parts, and that the voices of each part are
  related by `R`.  Playing a part, joining and closing keep it if the voices that they put into
  the bands are related.  A band before a move and the band after it are such a pair.

  Main results:
    * `Band.Pairs.played`, `Band.Pairs.append`, `Band.Pairs.close` — what each act on a band does
      to the pairs;
    * `Perform.ensures_evolved` — a move lets the voices of a band evolve, and leaves the folder.
-/
import Plectrum.Proofs.Lasting

namespace Plectrum

/-- Two bands with the same parts, of which the voices are related. -/
structure Band.Pairs {γ γ' : Type} (R : Voice → Voice → Prop) (band : Band γ) (band' : Band γ') :
    Prop where
  count : band.auxiliaries.length = band'.auxiliaries.length
  voices : ∀ part v w, band.voice? part = some v → band'.voice? part = some w → R v w

namespace Band.Pairs

variable {γ γ' : Type} {R S : Voice → Voice → Prop} {band b : Band γ} {band' b' : Band γ'}
  {part : Part} {v w : Voice}

theorem refl (h : ∀ v, R v v) (band : Band γ) : band.Pairs R band :=
  ⟨rfl, fun _ v _ plays plays' => Option.some.inj (plays.symm.trans plays') ▸ h v⟩

theorem symm (h : band.Pairs R band') (symm : ∀ v w, R v w → S w v) : band'.Pairs S band :=
  ⟨h.count.symm, fun part v w plays plays' => symm w v (h.voices part w v plays' plays)⟩

/-- Who plays a part in one band has a partner in the other. -/
theorem partner (h : band.Pairs R band') (plays : band.voice? part = some v) :
    ∃ w, band'.voice? part = some w ∧ R v w := by
  have there : ∃ w, band'.voice? part = some w := by
    cases part with
    | master => exact ⟨_, rfl⟩
    | auxiliary i =>
      have inside : i < band.auxiliaries.length := (List.getElem?_eq_some_iff.1 plays).1
      rw [h.count] at inside
      exact ⟨_, List.getElem?_eq_getElem inside⟩
  obtain ⟨w, plays'⟩ := there
  exact ⟨w, plays', h.voices part v w plays plays'⟩

theorem count_played (band : Band γ) (part : Part) (q : Player γ) :
    (band.played part q).auxiliaries.length = band.auxiliaries.length := by
  cases part with
  | master => rfl
  | auxiliary i => exact List.length_set

/-- A part may be played in both bands at once. -/
theorem played (h : band.Pairs R band') {q : Player γ} {q' : Player γ'}
    (plays : band.voice? part = some v) (plays' : band'.voice? part = some w)
    (here : R q.voice q'.voice) : (band.played part q).Pairs R (band'.played part q') := by
  refine ⟨?_, fun other x y playsOther playsOther' => ?_⟩
  · rw [count_played, count_played]
    exact h.count
  · by_cases same : part = other
    · subst same
      rw [voice_played_self plays] at playsOther
      rw [voice_played_self plays'] at playsOther'
      cases playsOther
      cases playsOther'
      exact here
    · rw [voice_played_other same] at playsOther playsOther'
      exact h.voices other x y playsOther playsOther'

/-- Or in one band alone: the other is then as if it had been played to where it is. -/
theorem played_left (h : band.Pairs R band') {q : Player γ} (plays : band.voice? part = some v)
    (plays' : band'.voice? part = some w) (here : R q.voice w) :
    (band.played part q).Pairs R band' := by
  have both : (band.played part q).Pairs R (band'.played part ⟨w, band'.chance⟩) :=
    h.played plays plays' here
  rwa [played_self plays'] at both

theorem played_right (h : band.Pairs R band') {q' : Player γ'} (plays : band.voice? part = some v)
    (plays' : band'.voice? part = some w) (here : R v q'.voice) :
    band.Pairs R (band'.played part q') := by
  have both : (band.played part ⟨v, band.chance⟩).Pairs R (band'.played part q') :=
    h.played plays plays' here
  rwa [played_self plays] at both

/-- A pair may join. -/
theorem append (h : band.Pairs R band') (here : R v w) :
    Pairs R { band with auxiliaries := band.auxiliaries ++ [v] }
      { band' with auxiliaries := band'.auxiliaries ++ [w] } := by
  refine ⟨?_, fun part x y plays plays' => ?_⟩
  · show (band.auxiliaries ++ [v]).length = (band'.auxiliaries ++ [w]).length
    rw [List.length_append, List.length_append, h.count]
    rfl
  · cases part with
    | master => exact h.voices .master x y plays plays'
    | auxiliary i =>
      change (band.auxiliaries ++ [v])[i]? = some x at plays
      change (band'.auxiliaries ++ [w])[i]? = some y at plays'
      by_cases inside : i < band.auxiliaries.length
      · rw [List.getElem?_append_left inside] at plays
        rw [List.getElem?_append_left (h.count ▸ inside)] at plays'
        exact h.voices (.auxiliary i) x y plays plays'
      · rw [List.getElem?_append_right (Nat.le_of_not_lt inside)] at plays
        rw [List.getElem?_append_right (h.count ▸ Nat.le_of_not_lt inside)] at plays'
        have last : x ∈ [v] := List.mem_of_getElem? plays
        have last' : y ∈ [w] := List.mem_of_getElem? plays'
        rw [List.mem_singleton] at last last'
        rw [last, last']
        exact here

theorem close (h : band.Pairs R band') (closes : ∀ v w, R v w → S v.close w.close)
    (folder folder' : Folder) :
    Pairs S { band.close with folder } { band'.close with folder := folder' } := by
  refine ⟨?_, fun part x y plays plays' => ?_⟩
  · show (band.auxiliaries.map _).length = (band'.auxiliaries.map _).length
    rw [List.length_map, List.length_map, h.count]
  · cases part with
    | master =>
      cases plays
      cases plays'
      exact closes _ _ (h.voices .master _ _ rfl rfl)
    | auxiliary i =>
      change (band.auxiliaries.map Voice.close)[i]? = some x at plays
      change (band'.auxiliaries.map Voice.close)[i]? = some y at plays'
      rw [List.getElem?_map, Option.map_eq_some_iff] at plays plays'
      obtain ⟨v, playsV, rfl⟩ := plays
      obtain ⟨w, playsW, rfl⟩ := plays'
      exact closes v w (h.voices (.auxiliary i) v w playsV playsW)

end Band.Pairs

/-- A move lets the voices of a band evolve, however it ends, and leaves the folder. -/
theorem Perform.ensures_evolved {γ : Type} [ChanceSource γ] (band : Band γ) (part : Part)
    (m : Move) :
    (Perform.on part m.act).Ensures band
      (fun _ b => band.Pairs Voice.Evolved b ∧ b.folder = band.folder)
      fun _ b => band.Pairs Voice.Evolved b ∧ b.folder = band.folder := by
  have unmoved : band.Pairs Voice.Evolved band := .refl .refl band
  refine ensures_on (fun _ _ => ⟨unmoved, rfl⟩) fun v plays => ?_
  have moved : ∀ q : Player γ, v.Evolved q.voice →
      band.Pairs Voice.Evolved (band.played part q) ∧ (band.played part q).folder = band.folder :=
    fun q evolved => ⟨unmoved.played_right plays plays evolved, by cases part <;> rfl⟩
  exact (m.ensures_lasting Voice.Evolved.lasting ⟨v, band.chance⟩).mono (fun _ q => moved q)
    fun _ q => moved q

end Plectrum
