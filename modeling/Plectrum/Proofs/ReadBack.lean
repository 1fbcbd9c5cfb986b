/-
  Plectrum.Proofs.ReadBack
  ────────────────────────
  **What is written is read back.**

  Each part of the writer is undone by the part of the reader for it, and the bytes after it
  are left alone: quantities, messages with the status that runs on, tracks, chunks, files.
  A message can be read back if its values passed the checks of messages, and if it is one
  that songs are made of: no note starts without force, and the denominator of a time
  signature is a note that may be one beat.

  Main results:
    * `MidiReader.quantity_variableLength` — a quantity of any size is read back;
    * `MidiReader.track_trackBytes` — the messages of a track, and then its end;
    * `MidiReader.file_write` — a whole file, without a byte left.
-/
import Mathlib.Data.List.TakeWhile
import Plectrum.Midi.Reader
import Plectrum.Proofs.Lasting
import Plectrum.Proofs.Tracks

namespace Plectrum

open MidiReader (Content Item)

/-! ## §1. What messages say. -/

/-- The natural number that a datum is. -/
def Datum.natural? (d : Datum) : Option Nat :=
  d.int?.bind fun n => if 0 ≤ n then some n.toNat else none

/-- What a happening says, in plain numbers. -/
def Happening.content? : Happening → Option Content
  | .noteOn channel pitch velocity => do
    return .noteOn (← channel.natural?) (← pitch.natural?) (← velocity.natural?)
  | .noteOff channel pitch velocity => do
    return .noteOff (← channel.natural?) (← pitch.natural?) (← velocity.natural?)
  | .programChange channel program => do
    return .programChange (← channel.natural?) (← program.natural?)
  | .setTempo microseconds => do return .setTempo (← microseconds.natural?)
  | .timeSignature (.list [numerator, denominator]) => do
    return .timeSignature (← numerator.natural?) (← denominator.natural?)
      MidiFile.clocksPerClick MidiFile.notesPerQuarter
  | .trackName (.text name) => some (.trackName name)
  | .text (.text content) => some (.text content)
  | _ => none

/-- What a message says, with its delta. -/
def Message.item? (m : Message) : Option Item := do
  return ⟨← (Datum.number m.delta).natural?, ← m.what.content?⟩

/-- What the messages of a track say, in order. -/
def Track.items? (track : Track) : Option (List Item) := track.mapM Message.item?

/-- The end of a track. -/
def Item.ending : Item := ⟨0, .endOfTrack⟩

/-- A happening of the kinds and values that songs are made of. -/
inductive Happening.InSong : Happening → Prop where
  | note {channel : Datum} {what : Happening} (note : what.IsNote channel) : InSong what
  | programChange (channel program : Datum) : InSong (.programChange channel program)
  | setTempo (microseconds : Datum) : InSong (.setTempo microseconds)
  | timeSignature (beats : Nat) {unit : Nat} (known : unit ∈ Signature.units) :
    InSong (.timeSignature (.list [.whole beats, .whole unit]))
  | trackName (name : Datum) : InSong (.trackName name)
  | text (content : Datum) : InSong (.text content)

/-- A message of a song that passed its checks. -/
structure Message.Sound (m : Message) : Prop where
  checked : check (.number m.delta) m.what = .ok ()
  inSong : m.what.InSong

theorem Datum.natural_of_int {d : Datum} {n : Nat} (whole : d.int? = some (n : Int)) :
    d.natural? = some n := by
  unfold natural?
  rw [whole]
  show (if 0 ≤ (n : Int) then some (n : Int).toNat else none) = some n
  rw [if_pos (Int.natCast_nonneg n), Int.toNat_natCast]

/-! ## §2. What checks say. -/

/-- A datum that is a whole number from zero up to a bound. -/
def Datum.Within (d : Datum) (n high : Nat) : Prop := d.int? = some (n : Int) ∧ n ≤ high

namespace Message

theorem integer_ok {d : Datum} : Yields (integer d) fun n => d.int? = some n := by
  unfold integer
  cases whole : d.int? with
  | none => exact .error _
  | some n => exact .pure rfl

theorem integer_of_int {d : Datum} {n : Int} (whole : d.int? = some n) : integer d = .ok n := by
  unfold integer
  rw [whole]

/-- A value that is checked against zero and a bound is a whole number between them. -/
theorem within_of_ok {d : Datum} {high : Nat} {f : Fault} {u : Unit}
    (passed : (do
      let n ← integer d
      if 0 ≤ n ∧ n ≤ (high : Int) then return () else throw f : Except Fault Unit) = .ok u) :
    ∃ n, d.Within n high := by
  cases whole : integer d with
  | error g =>
    rw [whole] at passed
    cases passed
  | ok n =>
    rw [whole] at passed
    change (if 0 ≤ n ∧ n ≤ (high : Int) then Except.ok () else Except.error f) = .ok u at passed
    split at passed
    · next bounds =>
      obtain ⟨k, rfl⟩ := Int.eq_ofNat_of_zero_le bounds.1
      exact ⟨k, integer_ok _ whole, Int.ofNat_le.1 bounds.2⟩
    · cases passed

theorem checkChannel_ok {d : Datum} {u : Unit} (passed : checkChannel d = .ok u) :
    ∃ n, d.Within n 15 := within_of_ok passed

theorem checkData_ok {d : Datum} {u : Unit} (passed : checkData d = .ok u) :
    ∃ n, d.Within n 127 := within_of_ok passed

theorem checkAttribute_ok {high : Nat} {d : Datum} {u : Unit}
    (passed : checkAttribute 0 high d = .ok u) : ∃ n, d.Within n high := within_of_ok passed

theorem checkText_ok {d : Datum} {u : Unit} (passed : checkText d = .ok u) :
    ∃ t, d = .text t := by
  unfold checkText at passed
  split at passed
  · exact ⟨_, rfl⟩
  · cases passed

end Message

/-! ## §3. Bytes. -/

/-- A byte holds a number below 256. -/
theorem toNat_byte {n : Nat} (small : n < 256) : (UInt8.ofNat n).toNat = n := by
  rw [UInt8.toNat_ofNat']
  omega

namespace MidiReader

/-- The first bytes are read back, whatever follows. -/
theorem first_append {front : List UInt8} {count : Nat} (size : front.length = count)
    (rest : List UInt8) : first count (front ++ rest) = some (front, rest) := by
  subst size
  unfold first
  rw [if_pos (by simp), List.take_left, List.drop_left]

/-- The leading bytes of a quantity are read as the quantity. -/
theorem quantityFrom_leadingBytes (n : Nat) (rest : List UInt8) :
    quantityFrom 0 (MidiFile.leadingBytes n ++ rest) = quantityFrom n rest := by
  -- The groups in front are those of a smaller number, followed by one more byte.
  induction n using Nat.strongRecOn generalizing rest with
  | ind n ih =>
    rw [MidiFile.leadingBytes]
    split
    · next zero => rw [zero, List.nil_append]
    · next positive =>
      have marked : (UInt8.ofNat (128 + n % 128)).toNat = 128 + n % 128 :=
        toNat_byte (by omega)
      have back : 128 * (n / 128) + (128 + n % 128 - 128) = n := by omega
      rw [List.append_assoc, ih (n / 128) (by omega), List.singleton_append, quantityFrom, marked,
        if_neg (by omega), back]

/-- A quantity of any size is read back, and the bytes after it are left. -/
theorem quantity_variableLength (n : Nat) (rest : List UInt8) :
    quantity (MidiFile.variableLength n ++ rest) = some (n, rest) := by
  have last : (UInt8.ofNat (n % 128)).toNat = n % 128 := toNat_byte (by omega)
  have back : 128 * (n / 128) + n % 128 = n := by omega
  unfold quantity MidiFile.variableLength
  rw [List.append_assoc, quantityFrom_leadingBytes, List.singleton_append, quantityFrom, last,
    if_pos (by omega), back]

example : quantity [0x86, 0x05, 0x90] = some (773, [0x90]) := by decide

/-- A text whose letters are bytes is read back. -/
theorem latin_latinBytes {t : Text} {bytes : List UInt8}
    (written : MidiFile.latinBytes t = .ok bytes) : latin bytes = t := by
  have letter : ∀ l : Letter, l.code < 256 →
      Letter.char (Char.ofNat (UInt8.ofNat l.code).toNat) = l := by
    intro l small
    rw [toNat_byte small]
    cases l with
    | char c => exact congrArg Letter.char (Char.ofNat_toNat c)
    | lone place =>
      have large : Letter.firstSurrogate + place.val < 256 := small
      unfold Letter.firstSurrogate at large
      omega
  unfold MidiFile.latinBytes at written
  dsimp only at written
  split at written
  · next fits =>
    cases written
    have small := List.dropWhile_eq_nil_iff.1 fits
    unfold latin
    rw [List.map_map]
    refine (List.map_congr_left fun l here => ?_).trans t.map_id
    exact letter l (of_decide_eq_true (small l here))
  · cases written

end MidiReader

/-! ## §4. Messages. -/

open MidiFile (Encoded encode byteOf)

/-- How an encoded message has to look for its content to be read from it.  A status byte shows
that it is one and belongs to channel messages, and the first byte after it does not. -/
inductive MidiFile.Encoded.Spells (zeroEnds : Bool) : Encoded → Content → Prop where
  | channel {status : UInt8} {values : List UInt8} {content : Content}
      (marked : 128 ≤ status.toNat) (noMeta : status ≠ 0xFF)
      (count : values.length = MidiReader.dataCount (status.toNat / 16))
      (unmarked : ∀ b ∈ values, b.toNat < 128)
      (spells : MidiReader.channelContent zeroEnds (status.toNat / 16) (status.toNat % 16)
        (values.map UInt8.toNat) = some content) :
    Spells zeroEnds (.channel status values) content
  | metaEvent {type : UInt8} {payload : List UInt8} {content : Content}
      (spells : MidiReader.metaContent type.toNat payload = some content) :
    Spells zeroEnds (.metaEvent (MidiFile.metaBytes type payload)) content

namespace MidiReader

theorem channelMessage_append {zeroEnds : Bool} {status : Nat} {values : List UInt8}
    {content : Content} (count : values.length = dataCount (status / 16))
    (unmarked : ∀ b ∈ values, b.toNat < 128)
    (spells : channelContent zeroEnds (status / 16) (status % 16) (values.map UInt8.toNat) =
      some content) (rest : List UInt8) :
    channelMessage zeroEnds status (values ++ rest) = some (content, rest) := by
  have data : values.any (128 ≤ ·.toNat) = false := by
    rw [List.any_eq_false]
    intro b here
    have below := unmarked b here
    rw [decide_eq_true_eq]
    omega
  unfold channelMessage
  rw [first_append count]
  show (if values.any (128 ≤ ·.toNat) then none
    else channelContent zeroEnds (status / 16) (status % 16) (values.map UInt8.toNat) >>=
      fun content => some (content, rest)) = _
  rw [data, spells]
  rfl

theorem metaMessage_append {type : UInt8} {payload : List UInt8} {content : Content}
    (spells : metaContent type.toNat payload = some content) (rest : List UInt8) :
    metaMessage (type :: (MidiFile.variableLength payload.length ++ (payload ++ rest))) =
      some (content, rest) := by
  rw [metaMessage, quantity_variableLength]
  show (first payload.length (payload ++ rest) >>= fun front =>
    metaContent type.toNat front.1 >>= fun content => some (content, front.2)) = _
  rw [first_append rfl]
  show (metaContent type.toNat payload >>= fun content => some (content, rest)) = _
  rw [spells]
  rfl

/-- The content of a message is read back after any status, and the status that runs on is the
one with which the writer goes on. -/
theorem content_bytes {zeroEnds : Bool} {encoded : Encoded} {c : Content}
    (spells : encoded.Spells zeroEnds c) (running : Option UInt8) (rest : List UInt8) :
    content zeroEnds running ((encoded.bytes running).1 ++ rest) =
      some ((c, (encoded.bytes running).2), rest) := by
  cases spells with
  | @channel status values _ marked noMeta count unmarked spells =>
    have read := channelMessage_append count unmarked spells rest
    unfold MidiFile.Encoded.bytes
    dsimp only
    split
    · next same =>
      -- The status byte is left out, so the first byte is a data byte.
      obtain ⟨b, more, rfl⟩ : ∃ b more, values = b :: more := by
        refine List.exists_cons_of_length_pos ?_
        rw [count]
        unfold dataCount
        split <;> decide
      have small := unmarked b List.mem_cons_self
      have noMeta' : b ≠ 0xFF := by
        rintro rfl
        exact absurd small (by decide)
      rw [List.cons_append, content, if_neg noMeta', if_pos small, same]
      rw [List.cons_append] at read
      show (channelMessage zeroEnds status.toNat (b :: (more ++ rest)) >>= fun read =>
        some ((read.1, some status), read.2)) = _
      rw [read]
      rfl
    · rw [List.cons_append, content, if_neg noMeta, if_neg (by omega)]
      show (channelMessage zeroEnds status.toNat (values ++ rest) >>= fun read =>
        some ((read.1, some status), read.2)) = _
      rw [read]
      rfl
  | @metaEvent type payload _ spells =>
    have split : (MidiFile.metaBytes type payload) ++ rest =
        0xFF :: type :: (MidiFile.variableLength payload.length ++ (payload ++ rest)) := by
      unfold MidiFile.metaBytes
      simp only [List.append_assoc, List.cons_append, List.nil_append]
    show content zeroEnds running (MidiFile.metaBytes type payload ++ rest) = _
    rw [split, content, if_pos rfl, metaMessage_append spells]
    rfl

end MidiReader

/-! ## §5. What is encoded. -/

section Encoding

variable {zeroEnds : Bool}

theorem byteOf_eq {d : Datum} {n : Nat} (whole : d.int? = some (n : Int)) :
    byteOf d = .ok (UInt8.ofNat n) := by
  unfold byteOf
  rw [Message.integer_of_int whole]
  rfl

/-- Data values are written as one byte each, and none of them looks like a status. -/
theorem mapM_byteOf {values : List Datum} {ns : List Nat}
    (within : List.Forall₂ (fun d n => d.Within n 127) values ns) :
    values.mapM byteOf = .ok (ns.map UInt8.ofNat) ∧ ∀ n ∈ ns, n < 128 := by
  induction within with
  | nil => exact ⟨rfl, fun _ here => nomatch here⟩
  | cons first _ ih =>
    refine ⟨?_, List.forall_mem_cons.2 ⟨Nat.lt_succ_of_le first.2, ih.2⟩⟩
    rw [List.mapM_cons, byteOf_eq first.1, ih.1]
    rfl

/-- A channel message of data values is encoded, and is read back if its content is what the
reader makes of the values. -/
theorem MidiFile.channelMessage_spells (kind : Nat) {c : Nat} {channel : Datum}
    {values : List Datum} {ns : List Nat} {encoded : Encoded} {content : Content}
    (known : 8 ≤ kind ∧ kind ≤ 14)
    (channelHere : channel.Within c 15)
    (valuesHere : List.Forall₂ (fun d n => d.Within n 127) values ns)
    (count : ns.length = MidiReader.dataCount kind)
    (spells : MidiReader.channelContent zeroEnds kind c ns = some content)
    (encodes : MidiFile.channelMessage ((16 * kind : Nat) : Int) channel values = .ok encoded) :
    encoded.Spells zeroEnds content := by
  obtain ⟨bytes, small⟩ := mapM_byteOf valuesHere
  have back : (ns.map UInt8.ofNat).map UInt8.toNat = ns := by
    rw [List.map_map]
    refine (List.map_congr_left fun n here => ?_).trans ns.map_id
    have below := small n here
    exact toNat_byte (by omega)
  have channelBound := channelHere.2
  have status : (UInt8.ofNat (16 * kind + c)).toNat = 16 * kind + c := toNat_byte (by omega)
  have kindHere : (UInt8.ofNat (16 * kind + c)).toNat / 16 = kind := by omega
  have channelBack : (UInt8.ofNat (16 * kind + c)).toNat % 16 = c := by omega
  have made : encoded = .channel (UInt8.ofNat (16 * kind + c)) (ns.map UInt8.ofNat) := by
    unfold MidiFile.channelMessage at encodes
    rw [Message.integer_of_int channelHere.1, bytes] at encodes
    exact (Except.ok.inj encodes).symm
  rw [made]
  refine .channel (by omega) ?_ ?_ ?_ ?_
  · intro same
    rw [same] at status
    change 255 = 16 * kind + c at status
    omega
  · rw [List.length_map, kindHere, count]
  · intro b here
    obtain ⟨n, inside, rfl⟩ := List.mem_map.1 here
    have below := small n inside
    rw [toNat_byte (by omega)]
    exact below
  · rw [kindHere, channelBack, back, spells]

/-- The values of a note that passed its checks. -/
theorem Message.note_ok {delta channel pitch velocity : Datum} {u : Unit}
    (checked : (do
      checkDelta delta
      checkChannel channel
      checkData pitch
      checkData velocity) = .ok u) :
    ∃ c p v, channel.Within c 15 ∧ pitch.Within p 127 ∧ velocity.Within v 127 := by
  obtain ⟨_, -, checked⟩ := bind_ok checked
  obtain ⟨_, channelChecked, checked⟩ := bind_ok checked
  obtain ⟨_, pitchChecked, velocityChecked⟩ := bind_ok checked
  obtain ⟨c, channelHere⟩ := checkChannel_ok channelChecked
  obtain ⟨p, pitchHere⟩ := checkData_ok pitchChecked
  obtain ⟨v, velocityHere⟩ := checkData_ok velocityChecked
  exact ⟨c, p, v, channelHere, pitchHere, velocityHere⟩

/-- The notes that may be one beat are powers of two, and are found to be. -/
theorem Message.denominatorPower_unit {unit : Nat} (known : unit ∈ Signature.units) :
    ∃ power : Nat, denominatorPower? (unit : Int) = some power ∧ power < 256 ∧
      twoTo power = unit := by
  have found : denominatorPower? 1 = some 0 ∧ denominatorPower? 2 = some 1 ∧
      denominatorPower? 4 = some 2 ∧ denominatorPower? 8 = some 3 ∧
      denominatorPower? 16 = some 4 := by
    decide +kernel
  obtain ⟨one, two, four, eight, sixteen⟩ := found
  simp only [Signature.units, List.mem_cons, List.not_mem_nil, or_false] at known
  rcases known with rfl | rfl | rfl | rfl | rfl
  · exact ⟨0, one, by decide⟩
  · exact ⟨1, two, by decide⟩
  · exact ⟨2, four, by decide⟩
  · exact ⟨3, eight, by decide⟩
  · exact ⟨4, sixteen, by decide⟩

/-- A happening says something, and that is read back from its bytes. -/
def Happening.ReadsBack (what : Happening) (zeroEnds : Bool) (encoded : Encoded) : Prop :=
  ∃ content, what.content? = some content ∧ encoded.Spells zeroEnds content

namespace Message

variable {encoded : Encoded} {delta channel pitch velocity : Datum}

/-- The start of a note is read back: its force is not zero, so both kinds of readers take it
for a start. -/
theorem readsBack_noteOn {n : Int} (low : 1 ≤ n)
    (checked : check delta (.noteOn channel pitch (.whole n)) = .ok ())
    (encodes : encode (.noteOn channel pitch (.whole n)) = .ok encoded) :
    (Happening.noteOn channel pitch (.whole n)).ReadsBack zeroEnds encoded := by
  obtain ⟨c, p, v, channelHere, pitchHere, velocityHere⟩ := note_ok checked
  have heard : ¬(zeroEnds = true ∧ v = 0) := by
    rintro ⟨-, rfl⟩
    have same : n = 0 := Option.some.inj velocityHere.1
    omega
  refine ⟨.noteOn c p v, ?_, ?_⟩
  · simp only [Happening.content?, Datum.natural_of_int channelHere.1,
      Datum.natural_of_int pitchHere.1, Datum.natural_of_int velocityHere.1]
    rfl
  · exact MidiFile.channelMessage_spells 9 (by decide) channelHere
      (.cons pitchHere (.cons velocityHere .nil)) rfl (if_neg heard) encodes

theorem readsBack_noteOff (checked : check delta (.noteOff channel pitch velocity) = .ok ())
    (encodes : encode (.noteOff channel pitch velocity) = .ok encoded) :
    (Happening.noteOff channel pitch velocity).ReadsBack zeroEnds encoded := by
  obtain ⟨c, p, v, channelHere, pitchHere, velocityHere⟩ := note_ok checked
  refine ⟨.noteOff c p v, ?_, ?_⟩
  · simp only [Happening.content?, Datum.natural_of_int channelHere.1,
      Datum.natural_of_int pitchHere.1, Datum.natural_of_int velocityHere.1]
    rfl
  · exact MidiFile.channelMessage_spells 8 (by decide) channelHere
      (.cons pitchHere (.cons velocityHere .nil)) rfl rfl encodes

theorem readsBack_programChange {program : Datum}
    (checked : check delta (.programChange channel program) = .ok ())
    (encodes : encode (.programChange channel program) = .ok encoded) :
    (Happening.programChange channel program).ReadsBack zeroEnds encoded := by
  obtain ⟨_, -, checked⟩ := bind_ok checked
  obtain ⟨_, channelChecked, programChecked⟩ := bind_ok checked
  obtain ⟨c, channelHere⟩ := checkChannel_ok channelChecked
  obtain ⟨p, programHere⟩ := checkData_ok programChecked
  refine ⟨.programChange c p, ?_, ?_⟩
  · simp only [Happening.content?, Datum.natural_of_int channelHere.1,
      Datum.natural_of_int programHere.1]
    rfl
  · exact MidiFile.channelMessage_spells 12 (by decide) channelHere (.cons programHere .nil) rfl rfl
      encodes

/-- A tempo that passed its check fits into three bytes. -/
theorem readsBack_setTempo {microseconds : Datum}
    (checked : check delta (.setTempo microseconds) = .ok ())
    (encodes : encode (.setTempo microseconds) = .ok encoded) :
    (Happening.setTempo microseconds).ReadsBack zeroEnds encoded := by
  obtain ⟨_, tempoChecked, -⟩ := bind_ok checked
  obtain ⟨n, here, small⟩ := checkAttribute_ok tempoChecked
  have back : Bytes.number (Bytes.bigEndian 3 n) = n :=
    Bytes.number_bigEndian_of_lt (Nat.lt_of_le_of_lt small (by decide))
  have made : encoded = .metaEvent (MidiFile.metaBytes 0x51 (Bytes.bigEndian 3 n)) := by
    rw [encode, integer_of_int here] at encodes
    exact (Except.ok.inj encodes).symm
  refine ⟨.setTempo n, ?_, ?_⟩
  · simp only [Happening.content?, Datum.natural_of_int here]
    rfl
  · rw [made]
    refine .metaEvent ?_
    show some (Content.setTempo (Bytes.number (Bytes.bigEndian 3 n))) = _
    rw [back]

theorem readsBack_timeSignature {beats unit : Nat} (known : unit ∈ Signature.units)
    (checked : check delta (.timeSignature (.list [.whole beats, .whole unit])) = .ok ())
    (encodes : encode (.timeSignature (.list [.whole beats, .whole unit])) = .ok encoded) :
    (Happening.timeSignature (.list [.whole beats, .whole unit])).ReadsBack zeroEnds encoded := by
  obtain ⟨_, parts, checked⟩ := bind_ok checked
  cases parts
  obtain ⟨_, beatsChecked, -⟩ := bind_ok checked
  obtain ⟨n, here, small⟩ := checkAttribute_ok beatsChecked
  obtain ⟨power, found, powerSmall, powerIs⟩ := denominatorPower_unit known
  obtain rfl : beats = n := Int.ofNat_inj.1 (Option.some.inj here)
  have made : encoded = .metaEvent (MidiFile.metaBytes 0x58
      [UInt8.ofNat beats, UInt8.ofNat power, 24, 8]) := by
    have written : (Except.ok (Encoded.metaEvent (MidiFile.metaBytes 0x58
        [UInt8.ofNat beats, MidiFile.byte ((denominatorPower? (unit : Int)).getD 0 : Nat), 24,
          8])) : Except Fault Encoded) = .ok encoded := encodes
    rw [found] at written
    exact (Except.ok.inj written).symm
  refine ⟨.timeSignature beats unit 24 8, ?_, ?_⟩
  · simp only [Happening.content?, Datum.natural_of_int (d := .whole beats) rfl,
      Datum.natural_of_int (d := .whole unit) rfl]
    rfl
  · rw [made]
    refine .metaEvent ?_
    show some (Content.timeSignature (UInt8.ofNat beats).toNat (twoTo (UInt8.ofNat power).toNat) 24
      8) = _
    rw [toNat_byte (by omega), toNat_byte powerSmall, powerIs]

/-- A text in a meta message is read back letter by letter. -/
theorem textMessage_spells {type : UInt8} {t : Text} {make : Text → Content}
    (reads : ∀ payload,
      MidiReader.metaContent type.toNat payload = some (make (MidiReader.latin payload)))
    (encodes : MidiFile.textMessage type (.text t) = .ok encoded) :
    encoded.Spells zeroEnds (make t) := by
  obtain ⟨bytes, written, made⟩ := bind_ok encodes
  rw [← Except.ok.inj made]
  refine .metaEvent ?_
  rw [reads, MidiReader.latin_latinBytes written]
  rfl

/-- A sound message says something, and its bytes are read back as that. -/
theorem Sound.readsBack {m : Message} (sound : m.Sound) (encodes : encode m.what = .ok encoded)
    (zeroEnds : Bool) : m.what.ReadsBack zeroEnds encoded := by
  obtain ⟨delta, what⟩ := m
  obtain ⟨checked, inSong⟩ := sound
  dsimp only at checked inSong encodes ⊢
  cases inSong with
  | note note =>
    cases note with
    | start pitch low high => exact readsBack_noteOn low checked encodes
    | stop pitch => exact readsBack_noteOff checked encodes
  | programChange channel program => exact readsBack_programChange checked encodes
  | setTempo microseconds => exact readsBack_setTempo checked encodes
  | timeSignature beats known => exact readsBack_timeSignature known checked encodes
  | trackName name =>
    obtain ⟨_, textChecked, -⟩ := bind_ok checked
    obtain ⟨t, rfl⟩ := checkText_ok textChecked
    exact ⟨.trackName t, rfl, textMessage_spells (fun _ => rfl) encodes⟩
  | text content =>
    obtain ⟨_, textChecked, -⟩ := bind_ok checked
    obtain ⟨t, rfl⟩ := checkText_ok textChecked
    exact ⟨.text t, rfl, textMessage_spells (fun _ => rfl) encodes⟩

end Message
end Encoding

/-! ## §6. Tracks. -/

/-- The end of a track is no happening. -/
theorem Happening.content_ne_end {what : Happening} {c : Content}
    (contents : what.content? = some c) : c ≠ .endOfTrack := by
  rintro rfl
  unfold content? at contents
  split at contents <;>
    simp only [Option.bind_eq_bind, Option.pure_def, Option.bind_eq_some_iff, Option.some.injEq,
      reduceCtorEq, and_false, exists_false] at contents

/-- A delta that is written is a natural number. -/
theorem MidiFile.deltaBytes_ok {delta : Quantity} {bytes : List UInt8}
    (written : deltaBytes delta = .ok bytes) :
    ∃ n : Nat, delta.integer? = some (n : Int) ∧ bytes = variableLength n := by
  unfold deltaBytes at written
  split at written
  · next n whole =>
    split at written
    · cases written
    · next positive =>
      obtain ⟨k, rfl⟩ := Int.eq_ofNat_of_zero_le (Int.not_lt.1 positive)
      exact ⟨k, whole, (Except.ok.inj written).symm⟩
  · cases written

namespace MidiReader

variable (zeroEnds : Bool)

/-- A sound message is read back with its delta, and so is the status that runs on. -/
theorem message_bytes {m : Message} (sound : m.Sound) {delta : List UInt8} {encoded : Encoded}
    (timed : MidiFile.deltaBytes m.delta = .ok delta) (encodes : encode m.what = .ok encoded)
    (running : Option UInt8) (rest : List UInt8) :
    ∃ item, m.item? = some item ∧ item.content ≠ .endOfTrack ∧
      message zeroEnds running (delta ++ (encoded.bytes running).1 ++ rest) =
        some ((item, (encoded.bytes running).2), rest) := by
  obtain ⟨n, whole, rfl⟩ := MidiFile.deltaBytes_ok timed
  obtain ⟨c, contents, spells⟩ := sound.readsBack encodes zeroEnds
  refine ⟨⟨n, c⟩, ?_, Happening.content_ne_end contents, ?_⟩
  · unfold Message.item?
    rw [Datum.natural_of_int (d := .number m.delta) whole, contents]
    rfl
  · unfold message
    rw [List.append_assoc, quantity_variableLength]
    show (content zeroEnds running ((encoded.bytes running).1 ++ rest) >>= fun read =>
      some ((Item.mk n read.1.1, read.1.2), read.2)) = _
    rw [content_bytes spells]
    rfl

theorem track_of_message {running after : Option UInt8} {bytes rest : List UInt8} {item : Item}
    (read : message zeroEnds running bytes = some ((item, after), rest))
    (goesOn : item.content ≠ .endOfTrack) :
    track zeroEnds running bytes = (item :: ·) <$> track zeroEnds after rest := by
  rw [track]
  split
  · next none_ =>
    rw [read] at none_
    cases none_
  · next same =>
    rw [read] at same
    cases same
    rw [if_neg goesOn]

theorem track_endOfTrack (running : Option UInt8) :
    track zeroEnds running MidiFile.endOfTrack = some [Item.ending] := by
  have read : message zeroEnds running MidiFile.endOfTrack = some ((Item.ending, none), []) := rfl
  rw [track]
  split
  · next none_ =>
    rw [read] at none_
    cases none_
  · next same =>
    rw [read] at same
    cases same
    rfl

/-- The messages of a track are read back in order, and then its end.  The status that runs on
is the same for the writer and the reader at every message. -/
theorem track_trackBytes {messages : Track} (sound : ∀ m ∈ messages, m.Sound)
    {running : Option UInt8} {bytes : List UInt8}
    (written : MidiFile.trackBytes running messages = .ok bytes) :
    ∃ items, messages.items? = some items ∧
      track zeroEnds running bytes = some (items ++ [Item.ending]) := by
  -- Each message may change the status that runs on, so it is any status here.
  induction messages generalizing running bytes with
  | nil =>
    cases written
    exact ⟨[], rfl, track_endOfTrack zeroEnds running⟩
  | cons m messages ih =>
    obtain ⟨delta, timed, written⟩ := bind_ok written
    obtain ⟨encoded, encodes, written⟩ := bind_ok written
    change MidiFile.trackBytes (encoded.bytes running).2 messages >>= _ = _ at written
    obtain ⟨tail, tailWritten, made⟩ := bind_ok written
    have whole : delta ++ (encoded.bytes running).1 ++ tail = bytes := Except.ok.inj made
    obtain ⟨items, rest, readRest⟩ :=
      ih (fun m here => sound m (List.mem_cons_of_mem _ here)) tailWritten
    obtain ⟨item, first, goesOn, read⟩ :=
      message_bytes zeroEnds (sound m List.mem_cons_self) timed encodes running tail
    refine ⟨item :: items, ?_, ?_⟩
    · unfold Track.items? at rest ⊢
      rw [List.mapM_cons, first, rest]
      rfl
    · rw [← whole, track_of_message zeroEnds read goesOn, readRest]
      rfl

/-! ## §7. Files. -/

/-- The content of a chunk is read back, if its length fits into four bytes. -/
theorem chunk_chunk {name content : List UInt8} (letters : name.length = 4)
    (fits : content.length < MidiFile.lengthLimit) (rest : List UInt8) :
    chunk name (MidiFile.chunk name content ++ rest) = some (content, rest) := by
  have size : Bytes.number (Bytes.bigEndian 4 content.length) = content.length :=
    Bytes.number_bigEndian_of_lt (Nat.lt_of_lt_of_eq fits rfl)
  unfold chunk MidiFile.chunk
  rw [List.append_assoc, List.append_assoc, first_append letters]
  show (if name ≠ name then none
    else first 4 (Bytes.bigEndian 4 content.length ++ (content ++ rest)) >>= fun read =>
      first (Bytes.number read.1) read.2) = _
  rw [if_neg (not_not_intro rfl), first_append (Bytes.length_bigEndian 4 _)]
  show first (Bytes.number (Bytes.bigEndian 4 content.length)) (content ++ rest) = _
  rw [size, first_append rfl]

/-- All tracks are read back, each up to the end of its chunk. -/
theorem tracks_chunks {all : List Track} (sound : ∀ track ∈ all, ∀ m ∈ track, m.Sound)
    {bytes : List UInt8} (written : MidiFile.chunks all = (bytes, none)) (rest : List UInt8) :
    ∃ items, all.mapM Track.items? = some items ∧
      tracks zeroEnds all.length (bytes ++ rest) =
        some (items.map (· ++ [Item.ending]), rest) := by
  induction all generalizing bytes with
  | nil =>
    cases written
    exact ⟨[], rfl, rfl⟩
  | cons messages all ih =>
    unfold MidiFile.chunks at written
    split at written
    · cases written
    · next content contentWritten =>
      split at written
      · cases written
      · next fits =>
        cases others : MidiFile.chunks all with
        | mk more fault =>
          rw [others] at written
          cases written
          obtain ⟨items, here, read⟩ :=
            track_trackBytes zeroEnds (sound messages List.mem_cons_self)
              contentWritten
          obtain ⟨itemsRest, there, readRest⟩ :=
            ih (fun track inside => sound track (List.mem_cons_of_mem _ inside)) others
          refine ⟨items :: itemsRest, ?_, ?_⟩
          · rw [List.mapM_cons, here, there]
            rfl
          · rw [List.length_cons, tracks, List.append_assoc]
            have chunked : chunk trackLetters
                (MidiFile.chunk trackLetters content ++ (more ++ rest)) = _ :=
              chunk_chunk rfl (Nat.not_le.1 fits) _
            show (chunk trackLetters (MidiFile.chunk trackLetters content ++ (more ++ rest)) >>=
              fun read => track zeroEnds none read.1 >>= fun items =>
                tracks zeroEnds all.length read.2 >>= fun later =>
                  some (items :: later.1, later.2)) = _
            rw [chunked]
            show (track zeroEnds none content >>= fun items =>
              tracks zeroEnds all.length (more ++ rest) >>= fun later =>
                some (items :: later.1, later.2)) = _
            rw [read, readRest]
            rfl

/-- The ticks of a beat are read back with their sign. -/
theorem signed_resolution {ticksPerBeat : Quantity} {ticks : Int}
    (resolved : MidiFile.resolution ticksPerBeat = .ok ticks) :
    ticksPerBeat.integer? = some ticks ∧
      signed (Bytes.number (Bytes.bigEndian 2 (ticks % 65536).toNat)) = ticks := by
  unfold MidiFile.resolution at resolved
  split at resolved
  · next n whole =>
    split at resolved
    · cases resolved
    · split at resolved
      · cases resolved
      · next range =>
        obtain rfl := Except.ok.inj resolved
        refine ⟨whole, ?_⟩
        have small : (n % 65536).toNat < 65536 := by omega
        rw [Bytes.number_bigEndian_of_lt small]
        unfold signed
        split <;> omega
  · cases resolved

/-- A header is read back, and then the tracks that it counts. -/
theorem file_header {zeroEnds : Bool} {count : Nat} (few : count < 65536) (ticks : Nat)
    {bytes : List UInt8} {items : List (List Item)}
    (read : tracks zeroEnds count bytes = some (items, [])) :
    file zeroEnds (MidiFile.chunk headerLetters (Bytes.bigEndian 2 1 ++ Bytes.bigEndian 2 count
      ++ Bytes.bigEndian 2 ticks) ++ bytes) =
      some ⟨1, signed (Bytes.number (Bytes.bigEndian 2 ticks)), items⟩ := by
  have chunked : ∀ numbers : List UInt8, numbers.length = 6 →
      chunk headerLetters (MidiFile.chunk headerLetters numbers ++ bytes) =
        some (numbers, bytes) := by
    intro numbers six
    refine chunk_chunk rfl ?_ bytes
    rw [six]
    decide
  unfold file
  rw [chunked _ rfl]
  show (tracks zeroEnds (Bytes.number (Bytes.bigEndian 2 count)) bytes >>=
    fun read => if read.2.isEmpty then
      some (⟨Bytes.number (Bytes.bigEndian 2 1),
        signed (Bytes.number (Bytes.bigEndian 2 ticks)), read.1⟩ : File)
    else none) = _
  rw [Bytes.number_bigEndian_of_lt few, read]
  rfl

/-- A file that is written without a fault is read back without a byte left: what each track
says, each time with the end of the track, under the ticks of a beat. -/
theorem file_write {song : Song} (sound : ∀ track ∈ song.tracks, ∀ m ∈ track, m.Sound)
    {bytes : List UInt8} (written : MidiFile.write song = (bytes, none)) :
    ∃ ticks items, song.ticksPerBeat.integer? = some ticks ∧
      song.tracks.mapM Track.items? = some items ∧
      ∀ zeroEnds, file zeroEnds bytes = some ⟨1, ticks, items.map (· ++ [Item.ending])⟩ := by
  unfold MidiFile.write MidiFile.header at written
  split at written
  · cases written
  · next head headed =>
    split at headed
    · cases headed
    · next few =>
      obtain ⟨ticks, resolved, made⟩ := bind_ok headed
      cases others : MidiFile.chunks song.tracks with
      | mk more fault =>
        rw [others] at written
        cases written
        obtain ⟨whole, back⟩ := signed_resolution resolved
        -- What the tracks say does not depend on the reader.
        obtain ⟨items, here, -⟩ := tracks_chunks true sound others []
        refine ⟨ticks, items, whole, here, fun zeroEnds => ?_⟩
        obtain ⟨items', here', read⟩ := tracks_chunks zeroEnds sound others []
        obtain rfl : items = items' := Option.some.inj (here.symm.trans here')
        rw [List.append_nil] at read
        have opened := file_header (Nat.lt_of_le_of_lt (Nat.not_lt.1 few) (by decide))
          (ticks % 65536).toNat read
        rw [back] at opened
        rw [← Except.ok.inj made]
        exact opened

end MidiReader
end Plectrum
