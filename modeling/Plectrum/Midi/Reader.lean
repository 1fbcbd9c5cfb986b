/-
  Plectrum.Midi.Reader
  ────────────────────
  **Reading a Standard MIDI File.**

  A reader of the layout of such files, by itself: it knows nothing of how songs are made
  or written.  A quantity of variable length ends at the first byte below 128.  A channel
  message without a status byte has the status of the channel message before it, unless a
  meta message came between.  A track is over at its end-of-track message, which has to
  stand at the end of its chunk, and a file is over after as many track chunks as its
  header counts.  Bytes that are left make it no file.
-/
import Plectrum.Bytes
import Plectrum.Text.Letter

namespace Plectrum.MidiReader

/-! ## §1. What a file says. -/

/-- What a message says, in plain numbers. -/
inductive Content where
  | noteOff (channel pitch velocity : Nat)
  | noteOn (channel pitch velocity : Nat)
  | programChange (channel program : Nat)
  /-- A channel message of another kind. -/
  | otherChannel (kind channel : Nat) (values : List Nat)
  | setTempo (microseconds : Nat)
  | timeSignature (numerator denominator clocksPerClick notesPerQuarter : Nat)
  | trackName (name : Text)
  | text (content : Text)
  | endOfTrack
  /-- A meta message of another type. -/
  | otherMeta (type : Nat) (payload : List UInt8)
  deriving Repr, DecidableEq

/-- A message with the ticks since the one before. -/
structure Item where
  delta : Nat
  content : Content
  deriving Repr, DecidableEq

/-- A file: its type, its ticks for each beat, and its tracks. -/
structure File where
  type : Nat
  ticksPerBeat : Int
  tracks : List (List Item)
  deriving Repr, DecidableEq

/-! ## §2. Parts of messages. -/

/-- What is read from the front of some bytes, with the bytes after it. -/
abbrev Reader (α : Type) := List UInt8 → Option (α × List UInt8)

/-- The rest of a variable-length quantity, of which `n` has been read. -/
def quantityFrom : Nat → Reader Nat
  | _, [] => none
  | n, b :: rest =>
    if b.toNat < 128 then some (128 * n + b.toNat, rest)
    else quantityFrom (128 * n + (b.toNat - 128)) rest

/-- A variable-length quantity, of any length. -/
def quantity : Reader Nat := quantityFrom 0

/-- The first `count` bytes. -/
def first (count : Nat) : Reader (List UInt8) := fun bytes =>
  if count ≤ bytes.length then some (bytes.take count, bytes.drop count) else none

/-- The text of bytes of which each is a letter. -/
def latin (bytes : List UInt8) : Text := bytes.map fun b => .char (Char.ofNat b.toNat)

/-! ## §3. Messages. -/

/-- How many data bytes a channel message has, by its kind. -/
def dataCount (kind : Nat) : Nat := if kind = 0xC ∨ kind = 0xD then 1 else 2

/-- What a channel message says by its values.  Some readers take a note that starts without
force for the end of one; `zeroEnds` says whether this one does. -/
def channelContent (zeroEnds : Bool) (kind channel : Nat) (values : List Nat) : Option Content :=
  match kind, values with
  | 0x8, [pitch, velocity] => some (.noteOff channel pitch velocity)
  | 0x9, [pitch, velocity] =>
    if zeroEnds ∧ velocity = 0 then some (.noteOff channel pitch velocity)
    else some (.noteOn channel pitch velocity)
  | 0xC, [program] => some (.programChange channel program)
  | 0xF, _ => none
  | kind, values => some (.otherChannel kind channel values)

/-- A channel message after its status byte, of data bytes that are below 128. -/
def channelMessage (zeroEnds : Bool) (status : Nat) : Reader Content := fun bytes => do
  let (values, rest) ← first (dataCount (status / 16)) bytes
  if values.any (128 ≤ ·.toNat) then none
  let content ← channelContent zeroEnds (status / 16) (status % 16) (values.map UInt8.toNat)
  return (content, rest)

/-- What a meta message says. -/
def metaContent (type : Nat) (payload : List UInt8) : Option Content :=
  match type, payload with
  | 0x2F, [] => some .endOfTrack
  | 0x2F, _ => none
  | 0x51, [a, b, c] => some (.setTempo (Bytes.number [a, b, c]))
  | 0x51, _ => none
  | 0x58, [numerator, power, clocks, notes] =>
    some (.timeSignature numerator.toNat (twoTo power.toNat) clocks.toNat notes.toNat)
  | 0x58, _ => none
  | 0x03, payload => some (.trackName (latin payload))
  | 0x01, payload => some (.text (latin payload))
  | type, payload => some (.otherMeta type payload)

/-- A meta message after its first byte: a type, a length, and so many bytes. -/
def metaMessage : Reader Content
  | [] => none
  | type :: rest => do
    let (length, rest) ← quantity rest
    let (payload, rest) ← first length rest
    return (← metaContent type.toNat payload, rest)

/-- The content of a message, with the status that runs on after it. -/
def content (zeroEnds : Bool) (running : Option UInt8) : Reader (Content × Option UInt8)
  | [] => none
  | b :: rest =>
    if b = 0xFF then do
      let (content, rest) ← metaMessage rest
      -- No status runs on after a meta message.
      return ((content, none), rest)
    else if b.toNat < 128 then do
      let status ← running
      let (content, rest) ← channelMessage zeroEnds status.toNat (b :: rest)
      return ((content, running), rest)
    else do
      let (content, rest) ← channelMessage zeroEnds b.toNat rest
      return ((content, some b), rest)

/-- A message: its delta, and its content. -/
def message (zeroEnds : Bool) (running : Option UInt8) : Reader (Item × Option UInt8) :=
  fun bytes => do
    let (delta, rest) ← quantity bytes
    let ((content, running), rest) ← content zeroEnds running rest
    return ((⟨delta, content⟩, running), rest)

/-! ## §4. What is read gets shorter. -/

section Shorter

variable {bytes rest : List UInt8}

theorem quantityFrom_shorter {n q : Nat} (read : quantityFrom n bytes = some (q, rest)) :
    rest.length < bytes.length := by
  induction bytes generalizing n with
  | nil => cases read
  | cons b bytes ih =>
    unfold quantityFrom at read
    split at read
    · cases read
      exact Nat.lt_succ_self _
    · exact Nat.lt_succ_of_lt (ih read)

theorem first_length {count : Nat} {front : List UInt8}
    (read : first count bytes = some (front, rest)) : rest.length ≤ bytes.length := by
  unfold first at read
  split at read
  · cases read
    simp
  · cases read

theorem channelMessage_length {zeroEnds : Bool} {status : Nat} {content : Content}
    (read : channelMessage zeroEnds status bytes = some (content, rest)) :
    rest.length ≤ bytes.length := by
  simp only [channelMessage, Option.bind_eq_bind, Option.bind_eq_some_iff, Prod.exists] at read
  obtain ⟨values, after, here, data⟩ := read
  split at data
  · cases data
  · simp only [Option.bind_eq_some_iff] at data
    obtain ⟨_, -, same⟩ := data
    cases same
    exact first_length here

theorem metaMessage_length {content : Content} (read : metaMessage bytes = some (content, rest)) :
    rest.length ≤ bytes.length := by
  cases bytes with
  | nil => cases read
  | cons type bytes =>
    simp only [metaMessage, Option.bind_eq_bind, Option.bind_eq_some_iff, Prod.exists] at read
    obtain ⟨length, middle, size, payload, after, here, _, -, same⟩ := read
    cases same
    have shorter := quantityFrom_shorter size
    have within := first_length here
    rw [List.length_cons]
    omega

theorem content_length {zeroEnds : Bool} {running after : Option UInt8} {c : Content}
    (read : content zeroEnds running bytes = some ((c, after), rest)) :
    rest.length ≤ bytes.length := by
  cases bytes with
  | nil => cases read
  | cons b bytes =>
    rw [content] at read
    split at read
    · simp only [Option.bind_eq_bind, Option.bind_eq_some_iff, Prod.exists] at read
      obtain ⟨_, _, here, same⟩ := read
      cases same
      exact Nat.le_succ_of_le (metaMessage_length here)
    · split at read
      · simp only [Option.bind_eq_bind, Option.bind_eq_some_iff, Prod.exists] at read
        obtain ⟨_, -, _, _, here, same⟩ := read
        cases same
        exact channelMessage_length here
      · simp only [Option.bind_eq_bind, Option.bind_eq_some_iff, Prod.exists] at read
        obtain ⟨_, _, here, same⟩ := read
        cases same
        exact Nat.le_succ_of_le (channelMessage_length here)

/-- A message takes at least the one byte of its delta. -/
theorem message_shorter {zeroEnds : Bool} {running after : Option UInt8} {item : Item}
    (read : message zeroEnds running bytes = some ((item, after), rest)) :
    rest.length < bytes.length := by
  simp only [message, Option.bind_eq_bind, Option.bind_eq_some_iff, Prod.exists] at read
  obtain ⟨delta, middle, first, _, _, _, here, same⟩ := read
  cases same
  exact Nat.lt_of_le_of_lt (content_length here) (quantityFrom_shorter first)

end Shorter

/-! ## §5. Tracks and files. -/

/-- The messages of a track, from the bytes of its chunk on. -/
def track (zeroEnds : Bool) (running : Option UInt8) (bytes : List UInt8) : Option (List Item) :=
  match _read : message zeroEnds running bytes with
  | none => none
  | some ((item, running), rest) =>
    if item.content = .endOfTrack then if rest.isEmpty then some [item] else none
    else (item :: ·) <$> track zeroEnds running rest
termination_by bytes.length
decreasing_by exact message_shorter _read

/-- The content of a chunk: four letters, a length of four bytes, and so many bytes. -/
def chunk (name : List UInt8) : Reader (List UInt8) := fun bytes => do
  let (letters, rest) ← first 4 bytes
  if letters ≠ name then none
  let (length, rest) ← first 4 rest
  first (Bytes.number length) rest

/-- The letters of the header chunk, MThd. -/
def headerLetters : List UInt8 := [0x4D, 0x54, 0x68, 0x64]

/-- The letters of a track chunk, MTrk. -/
def trackLetters : List UInt8 := [0x4D, 0x54, 0x72, 0x6B]

/-- As many tracks as are counted. -/
def tracks (zeroEnds : Bool) : Nat → Reader (List (List Item))
  | 0, bytes => some ([], bytes)
  | count + 1, bytes => do
    let (content, rest) ← chunk trackLetters bytes
    let items ← track zeroEnds none content
    let (more, rest) ← tracks zeroEnds count rest
    return (items :: more, rest)

/-- The number that two bytes are with a sign. -/
def signed (n : Nat) : Int := if n < 32768 then n else n - 65536

/-- Read a file. -/
def file (zeroEnds : Bool) (bytes : List UInt8) : Option File := do
  let (header, rest) ← chunk headerLetters bytes
  match header with
  | [t₁, t₀, n₁, n₀, d₁, d₀] =>
    let (tracks, rest) ← tracks zeroEnds (Bytes.number [n₁, n₀]) rest
    if rest.isEmpty then
      return ⟨Bytes.number [t₁, t₀], signed (Bytes.number [d₁, d₀]), tracks⟩
    else none
  | _ => none

end Plectrum.MidiReader
