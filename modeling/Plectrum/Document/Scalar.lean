/-
  Plectrum.Document.Scalar
  ────────────────────────
  **What a word of a document means.**

  A word without quotes may be missing, a truth value, a whole number, a double, a
  moment or a text, and its letters alone decide which.  Numbers have ASCII digits with
  low lines anywhere after the first; a leading zero makes a whole number octal, and
  colons make numbers to the base sixty.  A tag may ask for any kind, so every kind
  says what every text means.
-/
import Plectrum.Datum.Reading
import Plectrum.Document.Base64

namespace Plectrum.Document

/-! ## §1. Kinds. -/

/-- The kind of a scalar. -/
inductive ScalarKind where
  | null
  | truth
  | whole
  | double
  | moment
  | bytes
  | text
  /-- As a key, the entries of its value belong to the mapping itself. -/
  | merging
  /-- As a key, a text like others; it has no value. -/
  | equals
  /-- A mark of the format, which has no value either. -/
  | mark
  deriving Repr, DecidableEq

/-- The words for a missing value. -/
def nullWords : List Text := ["", "~", "null", "Null", "NULL"]

def trueWords : List Text :=
  ["yes", "Yes", "YES", "true", "True", "TRUE", "on", "On", "ON"]

def falseWords : List Text :=
  ["no", "No", "NO", "false", "False", "FALSE", "off", "Off", "OFF"]

/-- The marks that a text without quotes cannot begin with, but one with a tag can. -/
def marks : List Text := ["!", "&", "*"]

/-! ## §2. Digits. -/

def isLowLine (l : Letter) : Bool := l == '_'

/-- An ASCII digit. -/
def isPlainDigit (l : Letter) : Bool := l.is Char.isDigit

/-- An ASCII digit up to another one. -/
def isDigitUpTo (last : Char) (l : Letter) : Bool := l.is fun c => '0' ≤ c && c ≤ last

/-- A digit or a low line. -/
def isDigitOrLine (l : Letter) : Bool := isPlainDigit l || isLowLine l

/-- Without low lines. -/
def withoutLines (t : Text) : Text := t.filter (!isLowLine ·)

/-- One place of a number to the base sixty: one digit, or two up to 59. -/
def isSixtieth : Text → Bool
  | [a] => isPlainDigit a
  | [a, b] => isDigitUpTo '5' a && isPlainDigit b
  | _ => false

/-- A run of digits and low lines that begins with a digit. -/
def isNumberRun : Text → Bool
  | [] => false
  | l :: t => isPlainDigit l && t.all isDigitOrLine

/-- The same without a leading zero. -/
def isPlainRun : Text → Bool
  | [] => false
  | l :: t => isPlainDigit l && l != '0' && t.all isDigitOrLine

/-- The places of a number to the base sixty. -/
def sixtieths (t : Text) : List Text := Text.splitWhere (· == ':') t

/-! ## §3. Whole numbers. -/

/-- Whether a word without its sign is a whole number. -/
def isWholeWord (t : Text) : Bool :=
  match t with
  | .char '0' :: .char 'b' :: bits =>
    !bits.isEmpty && bits.all fun l => isDigitUpTo '1' l || isLowLine l
  | .char '0' :: .char 'x' :: digits =>
    !digits.isEmpty && digits.all fun l =>
      isDigitOrLine l || l.is fun c => 'a' ≤ c.toLower && c.toLower ≤ 'f'
  -- With other digits after a leading zero it is no whole number.
  | .char '0' :: digits => digits.all fun l => isDigitUpTo '7' l || isLowLine l
  | t =>
    match sixtieths t with
    | first :: rest => isPlainRun first && rest.all isSixtieth
    | [] => false

/-- The value of a digit of a base: a decimal digit of any script, or a letter. -/
def baseDigit? (base : Nat) (l : Letter) : Option Nat :=
  let value :=
    match Text.digitValue? l with
    | some d => d
    | none =>
      if l.is Char.isAlpha then (l.map Char.toLower).code - 'a'.toNat + 10 else base
  if value < base then some value else none

/-- The letter that announces a base after a zero. -/
def baseMark? (base : Nat) : Option Char :=
  if base = 2 then some 'b' else if base = 8 then some 'o' else if base = 16 then some 'x' else none

/-- Without the announcement of a base. -/
def withoutBase (base : Nat) : Text → Text
  | .char '0' :: .char c :: t =>
    if baseMark? base = some c.toLower then t else .char '0' :: .char c :: t
  | t => t

/-- A whole number to a base, with blanks around it and a sign before it. -/
def readBase (base : Nat) (t : Text) : Except Fault Int :=
  let (negative, body) := Text.signed (Text.trimWhere Text.isNumberBlank t)
  match (withoutBase base body).mapM (baseDigit? base) with
  | some (d :: ds) => .ok (Text.applySign negative ((d :: ds).foldl (fun n d => base * n + d) 0))
  | _ => .error (.notAnInteger base (.text t))

/-- Whether a minus sign stands first, and what follows the sign. -/
def signedWord (t : Text) : Except Fault (Bool × Text) :=
  if t.isEmpty then .error .emptyNumber else .ok (Text.signed t)

/-- The number with places to the base sixty. -/
def sixtyWhole (places : List Int) : Int := places.foldl (fun n place => 60 * n + place) 0

/-- The whole number that a text means. -/
def wholeOf (t : Text) : Except Fault Int := do
  let (negative, body) ← signedWord (withoutLines t)
  let n ←
    match body with
    | [] => throw .emptyNumber
    | [.char '0'] => pure 0
    | .char '0' :: .char 'b' :: bits => readBase 2 bits
    | .char '0' :: .char 'x' :: digits => readBase 16 digits
    | .char '0' :: _ => readBase 8 body
    | _ => sixtyWhole <$> (sixtieths body).mapM Text.readInt
  return if negative then -n else n

/-! ## §4. Doubles. -/

/-- The words for infinity and for NaN, after their sign. -/
def infinityWords : List Text := [".inf", ".Inf", ".INF"]

def nanWords : List Text := [".nan", ".NaN", ".NAN"]

/-- Whether a text is an exponent with a sign, or empty. -/
def isExponent : Text → Bool
  | [] => true
  | l :: sign :: digits =>
    (l == 'e' || l == 'E') && (sign == '-' || sign == '+')
      && !digits.isEmpty && digits.all isPlainDigit
  | _ => false

/-- Whether a word without its sign has a point and digits where a double has them. -/
def isPointedWord (signed : Bool) (t : Text) : Bool :=
  let whole := t.takeWhile (· != .char '.')
  match t.dropWhile (· != .char '.') with
  | [] => false
  | _ :: tail =>
    let fraction := tail.takeWhile isDigitOrLine
    let rest := tail.dropWhile isDigitOrLine
    -- Without digits before the point there is no sign.
    if whole.isEmpty then !signed && isNumberRun fraction && isExponent rest
    else
      match sixtieths whole with
      | [_] => isNumberRun whole && isExponent rest
      | first :: places => isNumberRun first && places.all isSixtieth && rest.isEmpty
      | [] => false

/-- Whether a word without its sign is a double. -/
def isDoubleWord (signed : Bool) (t : Text) : Bool :=
  infinityWords.contains t || (!signed && nanWords.contains t) || isPointedWord signed t

/-- The number with places to the base sixty, added up from the last.  `weight` is what
the first of the places counts. -/
def sixtyDouble : Nat → Binary64 → List Binary64 → Except Fault Binary64
  | _, sum, [] => .ok sum
  | weight, sum, place :: places => do
    let x ← (Quantity.whole weight).toFloat
    sixtyDouble (60 * weight) (sum.add (place.mul x)) places

/-- The double that a text means. -/
def doubleOf (t : Text) : Except Fault Binary64 := do
  let (negative, body) ← signedWord (withoutLines t).toLower
  let x ←
    if body = ".inf" then pure (.infinite false)
    else if body = ".nan" then pure .nan
    else if body.contains ':' then do
      sixtyDouble 1 .zero (← (sixtieths body).mapM Text.readFloat).reverse
    else Text.readFloat body
  return if negative then x.neg else x

/-! ## §5. Moments. -/

/-- Read a number with at least `least` and at most `most` digits. -/
def digits? (least most : Nat) (t : Text) : Option (Nat × Text) :=
  let ds := t.takeWhile isPlainDigit
  if least ≤ ds.length ∧ ds.length ≤ most then
    some (Text.digitsValue ds, t.dropWhile isPlainDigit)
  else none

/-- What follows a mark. -/
def after? (mark : Char) : Text → Option Text
  | [] => none
  | l :: t => if l == mark then some t else none

def isSpaceOrTab (l : Letter) : Bool := l == ' ' || l == '\t'

/-- A zone: none, universal time, or a sign with hours and perhaps minutes. -/
def zone? (t : Text) : Option (Option Int) :=
  if t.isEmpty then some none
  else
    match t.dropWhile isSpaceOrTab with
    | [.char 'Z'] => some (some 0)
    | sign :: rest => do
      if sign ≠ '-' ∧ sign ≠ '+' then none
      let (hours, rest) ← digits? 1 2 rest
      let minutes ←
        if rest.isEmpty then some 0
        else do
          let (minutes, rest) ← digits? 2 2 (← after? ':' rest)
          if rest.isEmpty then some minutes else none
      return some (Text.applySign (sign == '-') (60 * hours + minutes))
    | [] => none

/-- The millionths that the digits after the point of a second stand for; further digits
do not count. -/
def millionths (digits : Text) : Nat :=
  Text.digitsValue ((digits.take 6).rightpad 6 '0')

/-- A time of day, with perhaps a fraction of a second and a zone. -/
def timeOfDay? (t : Text) : Option TimeOfDay := do
  let (hour, rest) ← digits? 1 2 t
  let (minute, rest) ← digits? 2 2 (← after? ':' rest)
  let (second, rest) ← digits? 2 2 (← after? ':' rest)
  let (fraction, rest) :=
    match after? '.' rest with
    | some tail => (tail.takeWhile isPlainDigit, tail.dropWhile isPlainDigit)
    | none => ([], rest)
  return ⟨hour, minute, second, millionths fraction, ← zone? rest⟩

/-- What follows the mark between a day and its time: a letter T, or blanks. -/
def afterDay? : Text → Option Text
  | [] => none
  | l :: t =>
    if l == 'T' || l == 't' then some t
    else if isSpaceOrTab l then some (t.dropWhile isSpaceOrTab)
    else none

/-- A day, with perhaps a time. -/
def moment? (t : Text) : Option Moment := do
  let (year, rest) ← digits? 4 4 t
  let (month, rest) ← digits? 1 2 (← after? '-' rest)
  let (day, rest) ← digits? 1 2 (← after? '-' rest)
  if rest.isEmpty then return ⟨year, month, day, none⟩
  return ⟨year, month, day, some (← timeOfDay? (← afterDay? rest))⟩

/-- Whether a word is a moment: a day alone has two digits for its month and its day. -/
def isMomentWord (t : Text) : Bool :=
  match moment? t with
  | some m => m.time.isSome || t.length == 10
  | none => false

/-- A text without a line feed at its end. -/
def withoutLastBreak (t : Text) : Text :=
  if t.getLast? = some (.char '\n') then t.dropLast else t

/-- The moment that a text means. -/
def momentOf (t : Text) : Except Fault Moment :=
  match moment? (withoutLastBreak t) with
  | none => .error .lacksOperation
  | some m =>
    match m.flaw? with
    | some flaw => .error (.badMoment flaw)
    | none => .ok m

/-! ## §6. All words. -/

namespace ScalarKind

/-- The kind of a word on one line. -/
def ofLine (t : Text) : ScalarKind :=
  let signed := t.head? == some (.char '-') || t.head? == some (.char '+')
  let body := if signed then t.drop 1 else t
  if nullWords.contains t then .null
  else if trueWords.contains t || falseWords.contains t then .truth
  else if isDoubleWord signed body then .double
  else if isWholeWord body then .whole
  else if t = "<<" then .merging
  else if t = "=" then .equals
  else if marks.contains t then .mark
  else if isMomentWord t then .moment
  else .text

/-- The kind of a word without quotes.  A line feed at its end does not count, but alone it is
a text. -/
def ofWord (t : Text) : ScalarKind :=
  let line := withoutLastBreak t
  if line.isEmpty && !t.isEmpty then .text else ofLine line

/-- The bytes that a text of ASCII characters stands for. -/
def bytesOf (t : Text) : Except Fault (List UInt8) :=
  match t.mapM asciiChar? with
  | none => .error .documentSyntax
  | some cs =>
    match Base64.decode? cs with
    | some bs => .ok bs
    | none => .error .documentSyntax
where
  /-- The ASCII character that a letter is. -/
  asciiChar? : Letter → Option Char
    | .char c => if c.toNat < 0x80 then some c else none
    | .lone _ => none

/-- The truth value that a text means, in any case. -/
def truthOf (t : Text) : Except Fault Bool :=
  let word := t.toLower
  if trueWords.contains word then .ok true
  else if falseWords.contains word then .ok false
  else .error .unknownTruth

/-- What a text of a kind means. -/
def datum (kind : ScalarKind) (t : Text) : Except Fault Datum :=
  match kind with
  | .null => .ok .null
  | .truth => do return .truth (← truthOf t)
  | .whole => do return .whole (← wholeOf t)
  | .double => do return .number (.float (← doubleOf t))
  | .moment => do return .moment (← momentOf t)
  | .bytes => do return .bytes (← bytesOf t)
  | .text => .ok (.text t)
  | .merging | .equals | .mark => .error .documentSyntax

end ScalarKind
end Plectrum.Document
