/-
  Plectrum.Fault
  ──────────────
  **Everything that can go wrong, by cause.**

  A fault names its cause and carries what the message quotes; the wording is in
  one function, `Fault.wording`.  `Fault.kind` sorts the causes into families.  A
  fault whose message cannot be written is a failure of that number instead.  The
  families of `FaultKind.isMusical` are mistakes in the music, which the command line
  reports; the others are failures of numbers, files and texts.
-/
import Plectrum.Wording

namespace Plectrum

/-! ## §1. Causes. -/

/-- A cause of failure. -/
inductive Fault where
  /-- A string selection that is no list of numbers and ranges. -/
  | badSelection (text : Text)
  /-- A string selection with a number below one. -/
  | stringBelowOne (text : Text)
  | badStrum (spec : Text)
  | badPluck (spec : Text)
  | badAction (token spec : Text)
  | badDisplacement (given : Datum)
  /-- A tab line without a bar, or with something else than cells. -/
  | badTabLine (line : Text)
  | badFret (item chord : Datum)
  | tabLineCount (expected : Datum) (found : Nat)
  | tabBeats (beats : Quantity)
  | misalignedMeasures (line : Text)
  | unevenMeasures (line : Text)
  | measureSize (width : Nat) (line : Text)
  /-- A grid without lines has no first line to measure. -/
  | emptyGrid
  | pitchOutOfRange (pitch : Quantity)
  | unknownNote (name : Text)
  | noteOutOfRange (name : Text)
  /-- A program number, as it was written. -/
  | programOutOfRange (number : Datum)
  | unknownProgram (name : Text)
  | drumOutOfRange (key : Quantity)
  | unknownDrum (name : Text)
  | noStrings
  | badSignature (text : Text)
  | bpmNotPositive (bpm : Quantity)
  | channelOutOfRange (channel : Quantity)
  | volumeOutOfRange (volume : Quantity)
  | timeSpreadOutOfRange (spread : Quantity)
  | volumeSpreadOutOfRange (spread : Quantity)
  | negativeLead (lead : Quantity)
  | resolutionNotPositive (ticks : Quantity)
  | unknownOption (key : Text)
  | repeatedOption (key field : Text)
  /-- A prepared configuration and single options at once. -/
  | configAndOptions
  | tempoNotPositive
  | negativeVolumeFactor
  | rampWithoutLength
  | tempoFactorNotPositive
  | rampWithoutBeats
  | unknownShape (shape : Datum)
  | noChannelLeft (number : Quantity)
  | alreadyFinished (name : Datum)
  | chordSize (count : Nat) (chord : Datum)
  | fretOutOfRange (fret : Int) (pitch : Quantity) (chord : Datum)
  | chordsWithoutPattern
  | notAPattern (kindName : String)
  | patternWithoutChords
  | noTabText
  | tabPitchOutOfRange (line : Nat) (pitch : Quantity)
  | crescendoWithoutMeasures (measures : Quantity)
  | ritardandoWithoutMeasures (measures : Quantity)
  | tempoOfAuxiliary
  | auxiliaryOfAuxiliary
  | sharedOption (key : Text)
  | finishOfAuxiliary
  | badPatternEntry (name : Datum)
  | unknownPatternKind (name kind : Datum)
  | badRampArguments (step : String) (value : Datum)
  | stepNotMapping (number : Nat) (step : Datum)
  | unknownPattern (number : Nat) (name : Datum)
  | unknownStep (number : Nat) (step : Datum)
  | missingDocument (path : Text)
  | documentNotMapping (path : Text)
  /-- An event before the one that precedes it. -/
  | backwards (now delta : Quantity) (kind : Datum) (tick : Quantity)
  | unknownEventKind (kind : Datum)
  /-- A time signature that has not two numbers. -/
  | signatureSize (count : Nat)
  | channelByte
  | dataByte
  | attributeRange (low high : Nat)
  | denominatorNotPower
  /-- More tracks than a header can count. -/
  | tooManyTracks
  /-- A track whose length four bytes cannot hold. -/
  | trackTooLong
  /-- A count of ticks per beat that two bytes cannot hold. -/
  | resolutionRange
  /-- One that eight bytes cannot hold either. -/
  | resolutionTooLarge
  | resolutionNotWhole
  | timeNotWhole
  | timeNegative
  /-- Letters of a text, from a position on, that one byte each cannot hold. -/
  | unencodable (letters : Text) (position : Nat)
  /-- Surrogates of a text that stand alone, from a position on. -/
  | loneSurrogates (letters : Text) (position : Nat)
  | directoryMissing (path : Text)
  | isDirectory (path : Text)
  | notDirectory (path : Text)
  | nameTooLong (path : Text)
  | nullInPath
  /-- A number in place of a path, below zero or of no open file. -/
  | negativeDescriptor
  | badDescriptor
  | tooManyDigits (count : Nat)
  /-- A number that has too many digits to be written. -/
  | numberTooLong
  /-- A text that spells no whole number to a base. -/
  | notAnInteger (base : Nat) (given : Datum)
  /-- A text without characters where a number is spelled. -/
  | emptyNumber
  | notANumber (given : Datum)
  | integerTooLarge
  | quotientTooLarge
  | infinityToInteger
  | nanToInteger
  | infinityToRatio
  | tooManyCopies
  /-- A range of strings that is longer than any list. -/
  | rangeTooLong
  /-- Copies of a text that are longer than any text. -/
  | textTooLong
  /-- Copies of a list that are longer than any list. -/
  | noRoom
  /-- A text where a number is shown with fixed places. -/
  | textWithPlaces
  /-- A blank of a template that does not end. -/
  | openBlank
  /-- A blank that ends with a letter that says nothing. -/
  | unknownBlank (letter : Letter) (position : Nat)
  | widthTooBig
  | precisionTooBig
  /-- A precision that leaves no margin. -/
  | precisionTooLarge
  | divisionByZero
  | badMoment (flaw : MomentFlaw)
  /-- A voice that a band does not have. -/
  | noSuchVoice (number : Nat)
  /-- A stroke on a string before the first one. -/
  | noSuchString
  /-- A shape of the caller's own that failed. -/
  | shapeFailed
  /-- A loop that does not end, so that there is no answer at all. -/
  | endless
  /-- An entry of a list of pairs that has not two parts. -/
  | pairSize (index size : Nat)
  /-- A value of a kind that an operation does not take. -/
  | wrongKind
  /-- A value of a kind that lacks the operation. -/
  | lacksOperation
  /-- A document that breaks the rules of its format. -/
  | documentSyntax
  /-- A word that is no truth value where a document asks for one. -/
  | unknownTruth
  /-- The code of a character beyond the last one, or beyond all codes. -/
  | codeOutOfRange
  | codeTooLarge
  /-- A document whose lists and mappings lie too deep within each other. -/
  | tooDeep
  /-- Bytes that are no text. -/
  | notUnicode
  deriving Repr, Inhabited

/-! ## §2. Families. -/

/-- The family of a cause. -/
inductive FaultKind where
  | parse
  | configuration
  | unknownNote
  | unknownInstrument
  | unknownPercussion
  | format
  | timing
  | value
  | overflow
  | missingFile
  | encoding
  | decoding
  | packing
  | wrongKind
  | lacksOperation
  | index
  | lookup
  | depth
  | memory
  | zeroDivision
  | directory
  | notDirectory
  | system
  | document
  deriving Repr, DecidableEq

/-- Mistakes in the music, its instruments or its score. -/
def FaultKind.isMusical : FaultKind → Bool
  | .parse | .configuration | .unknownNote | .unknownInstrument | .unknownPercussion
  | .format | .timing => true
  | _ => false

/-- Failures of the file system. -/
def FaultKind.isFile : FaultKind → Bool
  | .missingFile | .directory | .notDirectory | .system => true
  | _ => false

namespace Fault

/-- The family that a cause belongs to. -/
def family : Fault → FaultKind
  | .badSelection _ | .stringBelowOne _ | .badStrum _ | .badPluck _ | .badAction _ _
  | .badDisplacement _ | .badTabLine _ | .badFret _ _ => .parse
  | .pitchOutOfRange _ | .unknownNote _ | .noteOutOfRange _ => .unknownNote
  | .programOutOfRange _ | .unknownProgram _ => .unknownInstrument
  | .drumOutOfRange _ | .unknownDrum _ => .unknownPercussion
  | .misalignedMeasures _ | .unevenMeasures _ | .measureSize _ _ => .format
  | .backwards _ _ _ _ => .timing
  | .unknownEventKind _ | .channelByte | .dataByte | .attributeRange _ _ | .denominatorNotPower
  | .timeNotWhole | .timeNegative | .nullInPath | .negativeDescriptor | .tooManyDigits _
  | .numberTooLong | .notAnInteger _ _ | .notANumber _ | .nanToInteger
  | .pairSize _ _ | .signatureSize _ | .badMoment _ | .codeOutOfRange | .textWithPlaces
  | .openBlank | .unknownBlank _ _ | .widthTooBig | .precisionTooBig | .shapeFailed => .value
  | .codeTooLarge | .integerTooLarge | .quotientTooLarge | .infinityToInteger
  | .infinityToRatio | .tooManyCopies | .rangeTooLong | .textTooLong
  | .precisionTooLarge => .overflow
  | .directoryMissing _ => .missingFile
  | .isDirectory _ => .directory
  | .notDirectory _ => .notDirectory
  | .nameTooLong _ | .badDescriptor => .system
  | .unencodable _ _ | .loneSurrogates _ _ => .encoding
  | .tooManyTracks | .trackTooLong | .resolutionRange | .resolutionTooLarge
  | .resolutionNotWhole => .packing
  | .wrongKind => .wrongKind
  | .lacksOperation => .lacksOperation
  | .emptyGrid | .noSuchVoice _ | .noSuchString | .emptyNumber => .index
  | .unknownTruth => .lookup
  | .tooDeep => .depth
  | .noRoom | .endless => .memory
  | .divisionByZero => .zeroDivision
  | .documentSyntax => .document
  | .notUnicode => .decoding
  | _ => .configuration

/-! ## §3. Wording. -/

/-- The text for letters that a code of texts does not take, with where they stand. -/
def unencodableText (code reason : String) (letters : Text) (position : Nat) : String :=
  let place :=
    match letters with
    | [l] =>
      "character '" ++ String.ofList (Text.codeEscape l) ++ "' in position " ++ toString position
    | ls =>
      "characters in position " ++ toString position ++ "-"
        ++ toString (position + ls.length - 1)
  "'" ++ code ++ "' codec can't encode " ++ place ++ ": " ++ reason

/-- A failure of the file system, with its number. -/
def fileText (number : Nat) (reason : String) (path : Text) : String :=
  "[Errno " ++ toString number ++ "] " ++ reason ++ ": " ++ Text.quoted path

/-- A letter as it is shown where only plain characters are. -/
def plainLetter (l : Letter) : Text :=
  if l.is (fun c => 31 ≤ c.toNat && c.toNat ≤ 126) then [l] else "?"

/-- The most characters of a quoted text that is no number. -/
def quoteLimit : Nat := 200

/-- A text or bytes in quotes, cut off after the most characters. -/
def cutQuote (given : Datum) : String := String.ofList (given.written.toList.take quoteLimit)

/-- The wording of a fault; a fault of kind alone has none. -/
def wording : Fault → Wording
  | .badSelection text => ["Range error: ", text]
  | .stringBelowOne text => ["Strings are numbered from 1: ", text]
  | .badStrum spec => ["Invalid strum pattern: ", spec]
  | .badPluck spec => ["Invalid pluck pattern: ", spec]
  | .badAction token spec => ["Invalid strum action: ", token, " (in ", .written (.text spec), ")"]
  | .badDisplacement given => ["Invalid strum displacement: ", .shown given]
  | .badTabLine line => ["Tab format error: ", line]
  | .badFret item chord => ["Invalid fret ", .written item, " in chord ", .written chord]
  | .tabLineCount expected found =>
    ["Number of tab lines must be ", .shown expected, ", got ", found]
  | .tabBeats beats => ["Beats per tab measure must be positive: ", beats]
  | .misalignedMeasures line => ["Tab format error, measures do not line up: ", line]
  | .unevenMeasures line => ["Tab format error, measures differ in size: ", line]
  | .measureSize width line => ["Strange measure size ", width, ": ", line]
  | .pitchOutOfRange pitch => ["Pitch out of range: ", pitch]
  | .unknownNote name => ["Unknown note: ", .written (.text name)]
  | .noteOutOfRange name => ["Note out of range: ", .written (.text name)]
  | .programOutOfRange number => ["Unknown MIDI instrument: ", .shown number]
  | .unknownProgram name => ["Unknown MIDI instrument: ", .written (.text name)]
  | .drumOutOfRange key => ["Unknown percussion instrument: ", key]
  | .unknownDrum name => ["Unknown percussion instrument: ", .written (.text name)]
  | .noStrings => ["At least one string (or percussion instrument) is required"]
  | .badSignature text => ["Invalid time signature: ", text]
  | .bpmNotPositive bpm => ["BPM must be positive: ", bpm]
  | .channelOutOfRange channel => ["MIDI channel must be between 0 and 15: ", channel]
  | .volumeOutOfRange volume => ["Volume must be between 0 and 1.5: ", volume]
  | .timeSpreadOutOfRange spread => ["Time randomizer must be between 0 and 10: ", spread]
  | .volumeSpreadOutOfRange spread => ["Volume randomizer must be between 0 and 6: ", spread]
  | .negativeLead lead => ["Lead-in cannot be negative: ", lead]
  | .resolutionNotPositive ticks => ["Tick resolution must be positive: ", ticks]
  | .unknownOption key => ["Unknown instrument option: ", key]
  | .repeatedOption key field => ["Instrument option given twice: ", key, " (", field, ")"]
  | .configAndOptions => ["Pass either a config or keyword options, not both"]
  | .tempoNotPositive => ["BPM must be positive"]
  | .negativeVolumeFactor => ["Volume factor cannot be negative"]
  | .rampWithoutLength => ["Ramp length must be positive"]
  | .tempoFactorNotPositive => ["Tempo factor must be positive"]
  | .rampWithoutBeats => ["Tempo ramp must last at least one beat"]
  | .unknownShape shape =>
    ["Unknown ramp shape ", .written shape,
     ". Available shapes: \"ease_in\", \"ease_in_out\", \"ease_out\", \"linear\""]
  | .noChannelLeft number => ["No MIDI channel left for auxiliary instrument ", number]
  | .alreadyFinished name => [.shown name, ": instrument already finished"]
  | .chordSize count chord => ["Number of strings must be ", count, ": ", .written chord]
  | .fretOutOfRange fret pitch chord =>
    ["Fret ", fret, " takes pitch ", pitch, " out of MIDI range in chord ", .written chord]
  | .chordsWithoutPattern => ["play() needs a pattern to play chords"]
  | .notAPattern kindName => ["play() requires a compiled Pattern, got ", kindName]
  | .patternWithoutChords => ["play() requires at least one chord"]
  | .noTabText => ["tab() requires tab text"]
  | .tabPitchOutOfRange line pitch =>
    ["Tab line ", line, " reaches pitch ", pitch, ", out of MIDI range"]
  | .crescendoWithoutMeasures measures =>
    ["Crescendo must last at least one measure: ", measures]
  | .ritardandoWithoutMeasures measures =>
    ["Ritardando must last at least one measure: ", measures]
  | .tempoOfAuxiliary => ["Tempo changes belong to the master instrument"]
  | .auxiliaryOfAuxiliary => ["An auxiliary instrument cannot have auxiliaries"]
  | .sharedOption key =>
    ["Auxiliary instruments share ", .written (.text key), " with their master"]
  | .finishOfAuxiliary => ["Auxiliary instruments are finished by their master"]
  | .badPatternEntry name =>
    ["Pattern ", .written name, " must be a mapping with one 'pluck' or 'strum' key"]
  | .unknownPatternKind name kind =>
    ["Pattern ", .written name, ": unknown kind ", .written kind]
  | .badRampArguments step value => [step, " takes [factor, measures]: ", .written value]
  | .stepNotMapping number step =>
    ["Score step ", number, " must be a mapping: ", .written step]
  | .unknownPattern number name =>
    ["Score step ", number, ": unknown pattern ", .written name]
  | .unknownStep number step => ["Score step ", number, ": unknown step ", .written step]
  | .missingDocument path => ["Config file ", path, " not found"]
  | .documentNotMapping path => ["Config file ", path, " must contain a mapping"]
  | .backwards now delta kind tick =>
    ["Negative delta @ ", now, ": ", delta, " (", .shown kind, " at tick ", tick, ")"]
  | .unknownEventKind kind => ["Unknown event kind: ", .shown kind]
  | .signatureSize count =>
    if count < 2 then ["not enough values to unpack (expected 2, got ", count, ")"]
    else ["too many values to unpack (expected 2)"]
  | .channelByte => ["channel must be in range 0..15"]
  | .dataByte => ["data byte must be in range 0..127"]
  | .attributeRange low high => ["attribute must be in range ", low, "..", high]
  | .denominatorNotPower => ["denominator must be a power of 2"]
  | .tooManyTracks | .resolutionRange => ["'h' format requires -32768 <= number <= 32767"]
  | .trackTooLong => ["'L' format requires 0 <= number <= 4294967295"]
  | .resolutionTooLarge => ["argument out of range"]
  | .resolutionNotWhole => ["required argument is not an integer"]
  | .timeNotWhole => ["message time must be int in MIDI file"]
  | .timeNegative => ["message time must be non-negative in MIDI file"]
  | .unencodable letters position =>
    [unencodableText "latin-1" "ordinal not in range(256)" letters position]
  | .loneSurrogates letters position =>
    [unencodableText "utf-8" "surrogates not allowed" letters position]
  | .directoryMissing path => [fileText 2 "No such file or directory" path]
  | .isDirectory path => [fileText 21 "Is a directory" path]
  | .notDirectory path => [fileText 20 "Not a directory" path]
  | .nameTooLong path => [fileText 36 "File name too long" path]
  | .nullInPath => ["embedded null byte"]
  | .negativeDescriptor => ["negative file descriptor"]
  | .badDescriptor => ["[Errno 9] Bad file descriptor"]
  | .tooManyDigits count =>
    ["Exceeds the limit (4300 digits) for integer string conversion: value has ", count,
     " digits; use sys.set_int_max_str_digits() to increase the limit"]
  | .numberTooLong => [Wording.tooLong]
  | .notAnInteger base given =>
    ["invalid literal for int() with base ", base, ": ", cutQuote given]
  | .notANumber given => ["could not convert string to float: ", .written given]
  | .integerTooLarge => ["int too large to convert to float"]
  | .quotientTooLarge => ["integer division result too large for a float"]
  | .infinityToInteger => ["cannot convert float infinity to integer"]
  | .nanToInteger => ["cannot convert float NaN to integer"]
  | .infinityToRatio => ["cannot convert Infinity to integer ratio"]
  | .tooManyCopies => ["cannot fit 'int' into an index-sized integer"]
  | .openBlank => ["incomplete format"]
  | .unknownBlank l position =>
    ["unsupported format character '", plainLetter l, "' (0x",
     String.ofList (Text.hexadecimal 1 l.code), ") at index ", position]
  | .widthTooBig => ["width too big"]
  | .precisionTooBig => ["precision too big"]
  | .precisionTooLarge => ["precision too large"]
  | .rangeTooLong => ["Python int too large to convert to C ssize_t"]
  | .textTooLong => ["repeated string is too long"]
  | .textWithPlaces => ["Unknown format code 'f' for object of type 'str'"]
  | .badMoment flaw => [flaw.message]
  | .codeOutOfRange => ["chr() arg not in range(0x110000)"]
  | .codeTooLarge => ["Python int too large to convert to C int"]
  | .pairSize index size =>
    ["dictionary update sequence element #", index, " has length ", size, "; 2 is required"]
  | .emptyGrid | .noSuchVoice _ | .noSuchString | .shapeFailed | .emptyNumber | .divisionByZero
  | .wrongKind | .lacksOperation | .documentSyntax | .unknownTruth | .tooDeep | .noRoom | .endless
  | .notUnicode => []

/-- The family of a fault.  A fault whose message cannot be written fails as a number does. -/
def kind (f : Fault) : FaultKind := if f.wording.isWritable then f.family else .value

/-- The message of a fault. -/
def message (f : Fault) : Text :=
  if f.wording.isWritable then f.wording.text else Wording.tooLong

end Fault
end Plectrum
