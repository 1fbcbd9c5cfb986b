/-
  Plectrum.Proofs.Channels
  ────────────────────────
  **The channels that auxiliaries are given.**

  An auxiliary that is melodic and asks for no channel gets the one that goes with its number
  in the band.  All auxiliaries before it count, those on drums and those with a channel of
  their own too.  So no two such auxiliaries share a channel, and none has that of the drums.
  The numbers leave channel zero to the master; a master that is configured for another channel
  is met there by the auxiliary whose number goes with it.

  Main results:
    * `Perform.auxiliaryChannel_whole` — the channel that goes with a number, if there is one;
    * `Perform.ensures_join_seated` — who joins is seated by the number of those before;
    * `Session.automatic_channels` — the channels that are given in a session do not collide, but
      for one with the master's own.
-/
import Plectrum.Proofs.Bands
import Plectrum.Proofs.OptionKeys
import Plectrum.Proofs.Parts

namespace Plectrum

/-! ## §1. Channels by number. -/

/-- The channel that goes with a number: the first is next to the default one of a master, and
those from the channel of the drums on are one further. -/
def channelNumber (index : Nat) : Nat := if index < 8 then index + 1 else index + 2

/-- How many channels there are for auxiliaries. -/
def channelCount : Nat := 14

theorem Quantity.same_whole (a b : Int) : (whole a).same (whole b) = decide (a = b) := by
  show decide (Place.value (a : Rat) = Place.value (b : Rat)) = decide (a = b)
  exact decide_eq_decide.2 (by rw [Place.value.injEq, Rat.intCast_inj])

theorem Quantity.same_comm (a b : Quantity) : a.same b = b.same a := by
  unfold same
  cases a.place? <;> cases b.place? <;> try rfl
  exact Bool.beq_comm

/-- What has the same value compares alike. -/
theorem Quantity.same_congr {a b : Quantity} (h : a.same b = true) (c : Quantity) :
    c.same a = c.same b := by
  unfold same at h ⊢
  cases left : a.place? with
  | none =>
    rw [left] at h
    cases h
  | some p =>
    cases right : b.place? with
    | none =>
      rw [left, right] at h
      cases h
    | some q =>
      rw [left, right] at h
      rw [eq_of_beq h]

theorem channelNumber_injective {i j : Nat} (same : channelNumber i = channelNumber j) : i = j := by
  unfold channelNumber at same
  split at same <;> split at same <;> omega

/-- Every channel but the default one of a master and that of the drums goes with one number. -/
theorem exists_channelNumber_iff (n : Nat) :
    (∃ i < channelCount, channelNumber i = n) ↔ 1 ≤ n ∧ n ≤ 15 ∧ n ≠ 9 := by
  unfold channelNumber channelCount
  constructor
  · rintro ⟨i, inside, rfl⟩
    split <;> omega
  · rintro ⟨low, high, drums⟩
    by_cases small : n < 9
    · exact ⟨n - 1, by omega, by rw [if_pos (by omega)]; omega⟩
    · exact ⟨n - 2, by omega, by rw [if_neg (by omega)]; omega⟩

/-- There is a channel for each of the first numbers, and none for the others. -/
theorem Perform.auxiliaryChannel_whole (index : Nat) :
    auxiliaryChannel (.whole index) =
      if index < channelCount then .ok (.whole (channelNumber index))
      else .error (.noChannelLeft (.whole (index + 1))) := by
  have next : (Quantity.whole index).add (.whole 1) = .ok (.whole (index + 1)) :=
    Quantity.add_of_integer rfl rfl
  unfold auxiliaryChannel
  rw [next]
  simp only [Config.percussionChannel, Config.lastChannel, bind, Except.bind, Quantity.le_whole,
    decide_eq_true_eq]
  unfold channelNumber channelCount
  by_cases small : index < 8
  · rw [if_neg (by omega), if_pos (by omega : index < 14), if_pos small]
    simp only [pure, Except.pure, Quantity.lt_whole, decide_eq_true_eq]
    rw [if_neg (by omega)]
    rfl
  · have again : (Quantity.whole (index + 1)).add (.whole 1) = .ok (.whole (index + 1 + 1)) :=
      Quantity.add_of_integer rfl rfl
    rw [if_pos (by omega), if_neg small, again]
    simp only [pure, Except.pure, Quantity.lt_whole, decide_eq_true_eq]
    by_cases inside : index < 14
    · rw [if_neg (by omega), if_pos inside]
      rfl
    · rw [if_pos (by omega), if_neg inside]
      rfl

/-! ## §2. Who joins. -/

/-- Whether options ask for a channel, under either of its names. -/
def Options.asksChannel (options : Options) : Bool := options.has "channel" || options.has "chan"

/-- Settings whose channel goes with a number, if they are melodic and their options asked for no
other. -/
def Config.SeatedAt (c : Config) (options : Options) (index : Nat) : Prop :=
  c.isPercussion = false → options.asksChannel = false →
    index < channelCount ∧ c.channel = .whole (channelNumber index)

namespace Config

/-- A channel that the options give is that of the settings. -/
theorem channel_of_option (options : Options) :
    Yields (ofOptions options) fun c =>
      ∀ q, options.get? "channel" = some (.number q) → c.channel = q := by
  unfold ofOptions
  refine .bind fun settings collected c read q given => ?_
  have there : settings.get? "channel" = some (.number q) :=
    Options.canonical_get? settings collected "channel" _ given
  have channel := (ofSettings_readFrom settings c read).channel
  unfold given? at channel
  rw [there] at channel
  exact (Except.ok.inj channel).symm

/-- Options that make an instrument percussion make it so. -/
theorem isPercussion_of_option (options : Options) :
    Yields (ofOptions options) fun c =>
      ∀ d, options.get? "percussion" = some d → d.isNothing = false → c.isPercussion = true := by
  unfold ofOptions
  refine .bind fun settings collected c read d given something => ?_
  have there : settings.get? "percussion" = some d :=
    Options.canonical_get? settings collected "percussion" _ given
  have asked : settingOr settings "percussion" (.truth false) = d := by
    unfold settingOr
    rw [there]
    rfl
  unfold isPercussion
  rw [(ofSettings_readFrom settings c read).percussion]
  unfold percussionOf
  rw [asked]
  split
  · rfl
  · rw [something]
    rfl

end Config

namespace Perform

/-- A melodic auxiliary that asks for no channel is given one. -/
theorem needsChannel_of_melodic {options : Options} (unasked : options.asksChannel = false)
    (melodic : ∀ d, options.get? "percussion" = some d → d.isNothing = true) :
    needsChannel options = true := by
  unfold Options.asksChannel at unasked
  rw [Bool.or_eq_false_iff] at unasked
  unfold needsChannel
  rw [unasked.1, unasked.2]
  cases given : options.get? "percussion" with
  | none => rfl
  | some d =>
    show (d.isNothing && !false && !false) = true
    rw [melodic d given]
    rfl

/-- What the options of an auxiliary say of anything that it does not share with the master, and
that is not its name or channel, stays. -/
theorem auxiliaryOptions_get? (master : Config) (count : Nat) (options : Options) :
    Yields (auxiliaryOptions master count options) fun full =>
      full.get? "percussion" = options.get? "percussion" ∧
      (needsChannel options = true → ∃ q, auxiliaryChannel (.whole count) = .ok q ∧
        full.get? "channel" = some (.number q)) := by
  unfold auxiliaryOptions
  dsimp only
  split
  · next needs =>
    refine .bind fun q given => .pure ⟨?_, fun _ => ⟨q, given, ?_⟩⟩
    · simp (disch := decide) only [Options.get?_setDefault_other, Options.get?_set_other]
    · rw [Options.get?_setDefault_other (by decide), Options.get?_set_self]
  · next needless =>
    refine .pure ⟨?_, fun needs => absurd needs needless⟩
    simp (disch := decide) only [Options.get?_setDefault_other, Options.get?_set_other]

/-- The settings of an auxiliary are seated by its number. -/
theorem auxiliaryOptions_seated (master : Config) (count : Nat) (options : Options) :
    Yields (auxiliaryOptions master count options) fun full =>
      Yields (Config.ofOptions full) fun c => c.SeatedAt options count := by
  intro full settled c accepted melodic unasked
  obtain ⟨drums, channel⟩ := auxiliaryOptions_get? master count options full settled
  have needs : needsChannel options = true := by
    refine needsChannel_of_melodic unasked fun d given => ?_
    by_contra something
    have percussion := Config.isPercussion_of_option full c accepted d (drums.trans given)
      (Bool.not_eq_true _ ▸ something)
    rw [melodic] at percussion
    cases percussion
  obtain ⟨q, given, there⟩ := channel needs
  rw [auxiliaryChannel_whole] at given
  split at given
  · next inside =>
    cases given
    exact ⟨inside, Config.channel_of_option full c accepted _ there⟩
  · cases given

end Perform

/-! ## §3. Who has joined. -/

/-- The options that a call joins with. -/
def Call.options? : Call → Option Options
  | .join _ options => some options
  | _ => none

/-- A band whose auxiliaries joined with these options, each seated by how many came before. -/
structure Band.Enrolled {γ : Type} (joined : List Options) (band : Band γ) : Prop where
  count : band.auxiliaries.length = joined.length
  seated : ∀ i options (v : Voice), joined[i]? = some options → band.auxiliaries[i]? = some v →
    v.config.SeatedAt options i

variable {γ : Type} {band b : Band γ} {joined : List Options}

namespace Band.Enrolled

/-- Nobody has joined a new band. -/
theorem of_created (new : band.Created) : band.Enrolled [] := by
  have alone : band.auxiliaries = [] := new.new.2.2
  refine ⟨congrArg List.length alone, fun i options v _ plays => ?_⟩
  rw [alone, List.getElem?_nil] at plays
  cases plays

/-- What keeps the settings of all keeps their seats. -/
theorem of_pairs (h : band.Enrolled joined)
    (same : band.Pairs (fun v w => w.config = v.config) b) : b.Enrolled joined := by
  refine ⟨same.count.symm.trans h.count, fun i options w asked plays => ?_⟩
  have inside : i < band.auxiliaries.length := by
    rw [same.count]
    exact (List.getElem?_eq_some_iff.1 plays).1
  have before : band.auxiliaries[i]? = some band.auxiliaries[i] := List.getElem?_eq_getElem inside
  rw [same.voices (.auxiliary i) _ w before plays]
  exact h.seated i options _ asked before

/-- Who joins is the next. -/
theorem append (h : band.Enrolled joined) {options : Options} {aux : Voice}
    (seated : aux.config.SeatedAt options band.auxiliaries.length) :
    Enrolled (joined ++ [options]) { band with auxiliaries := band.auxiliaries ++ [aux] } := by
  refine ⟨?_, fun i asked v joins plays => ?_⟩
  · show (band.auxiliaries ++ [aux]).length = _
    rw [List.length_append, List.length_append, h.count]
    rfl
  · change (band.auxiliaries ++ [aux])[i]? = some v at plays
    by_cases inside : i < band.auxiliaries.length
    · rw [List.getElem?_append_left inside] at plays
      rw [List.getElem?_append_left (h.count ▸ inside)] at joins
      exact h.seated i asked v joins plays
    · have bound := (List.getElem?_eq_some_iff.1 plays).1
      rw [List.length_append, List.length_singleton] at bound
      obtain rfl : i = band.auxiliaries.length := by omega
      rw [List.getElem?_concat_length] at plays
      rw [h.count, List.getElem?_concat_length] at joins
      cases plays
      cases joins
      exact seated

end Band.Enrolled

/-- Who joins is seated by the number of those before. -/
theorem Perform.ensures_join_seated (part : Part) (options : Options) (h : band.Enrolled joined) :
    (join part options).Ensures band (fun _ b => b.Enrolled (joined ++ [options]))
      fun _ b => b.Enrolled joined := by
  refine (ensures_join_settled part options).mono ?_ ?_
  · rintro aux b ⟨v, full, config, tuning, -, -, -, settled, accepted, -, new, -, rfl⟩
    have seated : aux.config.SeatedAt options band.auxiliaries.length := by
      rw [(Voice.create_fresh config tuning true aux new).config]
      exact auxiliaryOptions_seated v.config _ options full settled config accepted
    exact h.append seated
  · rintro _ b rfl
    exact h

variable [ChanceSource γ]

/-- A call that goes well enters its options, if it joins; a call that fails enters nothing. -/
theorem Call.ensures_enrolled (call : Call) (h : band.Enrolled joined) :
    call.perform.Ensures band (fun _ b => b.Enrolled (joined ++ call.options?.toList))
      fun _ b => b.Enrolled joined := by
  have closed : ∀ folder, Band.Enrolled joined { band.close with folder } := by
    intro folder
    refine h.of_pairs ⟨(List.length_map _).symm, fun part v w plays plays' => ?_⟩
    rw [Band.voice?_close band folder part, plays] at plays'
    cases plays'
    rfl
  cases call with
  | move part m =>
    show (Perform.on part m.act).Ensures band (fun _ b => b.Enrolled (joined ++ [])) _
    rw [List.append_nil]
    have moved : ∀ b : Band γ, band.Pairs Voice.Evolved b → b.Enrolled joined := fun b evolved =>
      h.of_pairs ⟨evolved.count, fun part v w plays plays' =>
        (evolved.voices part v w plays plays').config⟩
    exact (Perform.ensures_evolved band part m).mono (fun _ b ends => moved b ends.1)
      fun _ b ends => moved b ends.1
  | join part options =>
    refine (Perform.ensures_join_seated part options h).bind fun _ b enrolled => ?_
    exact (Act.ensures_pure _).2 enrolled
  | finish part midi attribution =>
    show Act.Ensures _ band (fun _ b => b.Enrolled (joined ++ [])) _
    rw [List.append_nil]
    refine ((Perform.ensures_finish part midi attribution).mono (fun _ _ ends => ends) ?_).bind ?_
    · rintro f b (⟨-, rfl⟩ | ⟨v, -, -, -, ⟨-, rfl⟩ | ⟨-, s, folder, -, rfl⟩⟩)
      · exact h
      · exact h
      · exact closed folder
    · rintro song b ⟨v, -, -, ⟨-, -, rfl⟩ | ⟨-, s, folder, -, -, rfl⟩⟩
      · exact (Act.ensures_pure _).2 h
      · exact (Act.ensures_pure _).2 (closed folder)

namespace Session

/-- The options of those who joined, in order. -/
def joinedOptions : List Call → Desk (Band γ) → List Options
  | [], _ => []
  | call :: calls, desk =>
    let (outcome, after) := call.perform.start desk
    (if outcome.toBool then call.options?.toList else []) ++ joinedOptions calls after

/-- Whatever is called, those who joined are the auxiliaries, seated by their numbers. -/
theorem run_enrolled (calls : List Call) {desk : Desk (Band γ)}
    (start : desk.state.Enrolled joined) :
    (run calls desk).state.Enrolled (joined ++ joinedOptions calls desk) := by
  induction calls generalizing desk joined with
  | nil =>
    show desk.state.Enrolled (joined ++ [])
    rw [List.append_nil]
    exact start
  | cons call calls ih =>
    have contract := call.ensures_enrolled start
    show (run calls _).state.Enrolled (joined ++ (_ ++ joinedOptions calls _))
    rw [← List.append_assoc]
    have after : (call.perform.start desk).2.state.Enrolled
        (joined ++ if (call.perform.start desk).1.toBool then call.options?.toList else []) := by
      cases outcome : (call.perform.start desk).1 with
      | ok _ => exact contract.of_ok outcome
      | error f =>
        show (call.perform.start desk).2.state.Enrolled (joined ++ [])
        rw [List.append_nil]
        exact contract.of_error outcome
    exact ih after

end Session

/-! ## §4. The channels that are given. -/

/-- A melodic auxiliary of a band, by its number, that joined without asking for a channel. -/
structure Band.Automatic (joined : List Options) (band : Band γ) (i : Nat) (v : Voice) : Prop where
  plays : band.auxiliaries[i]? = some v
  melodic : v.config.isPercussion = false
  unasked : ∃ options, joined[i]? = some options ∧ options.asksChannel = false

omit [ChanceSource γ] in
/-- It has the channel that goes with its number. -/
theorem Band.Enrolled.automatic (h : band.Enrolled joined) {i : Nat} {v : Voice}
    (here : band.Automatic joined i v) :
    i < channelCount ∧ v.config.channel = .whole (channelNumber i) := by
  obtain ⟨options, joins, unasked⟩ := here.unasked
  exact h.seated i options v joins here.plays here.melodic unasked

/-- The channels that auxiliaries are given in a session, whatever is called: each goes with the
number of those who joined before, so none is that of the drums, no two are the same, and one is
the master's own just if the master is configured for the channel of that number.  It never is,
as long as the master keeps to channel zero or to the drums. -/
theorem Session.automatic_channels (new : band.Created) (calls : List Call) (journal : Journal) :
    let joined := joinedOptions calls ⟨band, journal⟩
    let after := (run calls ⟨band, journal⟩).state
    let own := band.master.config.channel
    after.auxiliaries.length = joined.length ∧ after.master.config.channel = own ∧
    (∀ i v, after.Automatic joined i v →
      i < channelCount ∧ v.config.channel = .whole (channelNumber i) ∧
      v.config.channel.same Config.percussionChannel = false ∧
      (v.config.channel.same own = true ↔ own.same (.whole (channelNumber i)) = true) ∧
      (own.same (.whole 0) = true ∨ own.same Config.percussionChannel = true →
        v.config.channel.same own = false)) ∧
    ∀ i j v w, after.Automatic joined i v → after.Automatic joined j w → i ≠ j →
      v.config.channel.same w.config.channel = false := by
  intro joined after own
  have enrolled : after.Enrolled joined := run_enrolled calls (.of_created new)
  have master : after.master.config.channel = own := by
    have kept : ∃ v, after.voice? .master = some v ∧ v.config = band.master.config :=
      run_config calls ⟨band.master, rfl, rfl⟩
    obtain ⟨v, plays, same⟩ := kept
    obtain rfl : after.master = v := Option.some.inj plays
    exact congrArg Config.channel same
  refine ⟨enrolled.count, master, fun i v here => ?_, fun i j v w here there apart => ?_⟩
  · obtain ⟨inside, channel⟩ := enrolled.automatic here
    obtain ⟨low, -, melodic⟩ := (exists_channelNumber_iff (channelNumber i)).1 ⟨i, inside, rfl⟩
    have drums : v.config.channel.same Config.percussionChannel = false := by
      rw [channel, Config.percussionChannel, Quantity.same_whole, decide_eq_false_iff_not]
      omega
    refine ⟨inside, channel, drums, ?_, ?_⟩
    · rw [channel, Quantity.same_comm]
    · rintro (zero | percussive)
      · rw [Quantity.same_congr zero, channel, Quantity.same_whole, decide_eq_false_iff_not]
        omega
      · rw [Quantity.same_congr percussive]
        exact drums
  · have different : channelNumber i ≠ channelNumber j :=
      fun same => apart (channelNumber_injective same)
    rw [(enrolled.automatic here).2, (enrolled.automatic there).2, Quantity.same_whole,
      decide_eq_false_iff_not]
    omega

/-! ## §5. Bands of several kinds. -/

omit [ChanceSource γ] in
theorem Band.exists_automatic {i : Nat} {kinds asked : List Bool}
    (seen : band.auxiliaries.map (·.config.isPercussion) = kinds)
    (seen' : joined.map Options.asksChannel = asked) (melodic : kinds[i]? = some false)
    (unasked : asked[i]? = some false) : ∃ v, band.Automatic joined i v := by
  rw [← seen, List.getElem?_map] at melodic
  rw [← seen', List.getElem?_map] at unasked
  obtain ⟨v, plays, melodic⟩ := Option.map_eq_some_iff.1 melodic
  exact ⟨v, plays, melodic, Option.map_eq_some_iff.1 unasked⟩

/-- A new master of one string, with no channel of its own. -/
def ensembleStart : Except Fault (Desk (Band Script)) :=
  Session.begin [] [("strings", .list [.whole 40])]

/-- A melodic auxiliary, drums, one with its own channel, and another melodic one; a fifth asks
for a tempo of its own and is refused. -/
def ensembleCalls : List Call :=
  [.join .master [], .join .master [("percussion", .truth true)],
    .join .master [("bpm", .whole 90)], .join .master [("chan", .whole 5)], .join .master []]

/-- The first and the last of the four who joined are given different channels, and neither has
that of the drums or the master's own. -/
theorem ensemble_channels :
    ∃ desk, ensembleStart = .ok desk ∧
      let joined := Session.joinedOptions ensembleCalls desk
      let after := (Session.run ensembleCalls desk).state
      joined.length = 4 ∧ ∃ v w, after.Automatic joined 0 v ∧ after.Automatic joined 3 w ∧
        v.config.channel.same w.config.channel = false ∧
        ∀ x ∈ [v, w], x.config.channel.same Config.percussionChannel = false ∧
          x.config.channel.same after.master.config.channel = false := by
  have seen : (ensembleStart.toOption.map fun desk =>
      let joined := Session.joinedOptions ensembleCalls desk
      let band := (Session.run ensembleCalls desk).state
      (joined.map Options.asksChannel, band.auxiliaries.map (·.config.isPercussion),
        desk.state.master.config.channel)) =
      some ([false, false, true, false], [false, true, false, false], .whole 0) := by
    decide +kernel
  obtain ⟨desk, created, seen⟩ := exists_ok_of_seen seen
  simp only [Prod.mk.injEq] at seen
  obtain ⟨asked, kinds, own⟩ := seen
  obtain ⟨-, kept, given, apart⟩ :=
    Session.automatic_channels (Session.begin_created _ _ desk created) ensembleCalls desk.journal
  have joins : (Session.joinedOptions ensembleCalls desk).length = 4 := by
    have four := congrArg List.length asked
    rwa [List.length_map] at four
  obtain ⟨v, first⟩ := Band.exists_automatic (i := 0) kinds asked rfl rfl
  obtain ⟨w, last⟩ := Band.exists_automatic (i := 3) kinds asked rfl rfl
  have zero : desk.state.master.config.channel.same (.whole 0) = true := by
    rw [own]
    decide
  refine ⟨desk, created, joins, v, w, first, last, apart 0 3 v w first last (by decide), ?_⟩
  have beside := given 0 v first
  have beyond := given 3 w last
  rw [kept, List.forall_mem_cons, List.forall_mem_singleton]
  exact ⟨⟨beside.2.2.1, beside.2.2.2.2 (.inl zero)⟩, beyond.2.2.1, beyond.2.2.2.2 (.inl zero)⟩

/-- A new master with a channel of its own. -/
def clashStart : Except Fault (Desk (Band Script)) :=
  Session.begin [] [("strings", .list [.whole 40]), ("channel", .whole 1)]

/-- The first melodic auxiliary is given the master's own channel, though others are free. -/
theorem clash_same :
    ∃ desk, clashStart = .ok desk ∧
      let calls := [Call.join .master []]
      let after := (Session.run calls desk).state
      ∃ v, after.Automatic (Session.joinedOptions calls desk) 0 v ∧
        v.config.channel.same after.master.config.channel = true := by
  have seen : (clashStart.toOption.map fun desk =>
      let joined := Session.joinedOptions [.join .master []] desk
      let band := (Session.run [.join .master []] desk).state
      (joined.map Options.asksChannel, band.auxiliaries.map (·.config.isPercussion),
        band.auxiliaries.map (·.config.channel), band.master.config.channel)) =
      some ([false], [false], [.whole 1], .whole 1) := by
    decide +kernel
  obtain ⟨desk, created, seen⟩ := exists_ok_of_seen seen
  simp only [Prod.mk.injEq] at seen
  obtain ⟨asked, kinds, channels, own⟩ := seen
  obtain ⟨v, first⟩ := Band.exists_automatic (i := 0) kinds asked rfl rfl
  have channel : v.config.channel = .whole 1 := by
    have here : [Quantity.whole 1][0]? = some v.config.channel := by
      rw [← channels, List.getElem?_map, first.plays]
      rfl
    exact (Option.some.inj here).symm
  refine ⟨desk, created, v, first, ?_⟩
  rw [channel, own]
  decide

end Plectrum
