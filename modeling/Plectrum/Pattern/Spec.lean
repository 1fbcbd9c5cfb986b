/-
  Plectrum.Pattern.Spec
  ─────────────────────
  **Compiling pluck and strum specs.**

  A strum spec is a beat offset, a displacement in beats and one or more actions,
  with blanks between them: `1 -1/8 6-1:90`.  An action is a string selection, a
  colon and a velocity.  Without displacement the strings of an action sound
  together; otherwise each strike comes one displacement after the last, into the
  following actions too, and a negative displacement walks each action backwards.
  A pluck spec is a strum spec without a displacement.
-/
import Plectrum.Datum.Reading
import Plectrum.Pattern.Basic
import Plectrum.Pattern.Selection

namespace Plectrum

open Text

/-! ## §1. The parts of a spec. -/

/-- The three parts of a strum spec, as text. -/
structure StrumParts where
  offset : Text
  displacement : Text
  actions : Text
  deriving Repr, DecidableEq

namespace Spec

/-- Digits and, after a point, more digits: the digits and point read, and the rest. -/
def plainDecimal? (t : Text) : Option (Text × Text) :=
  let whole := t.takeWhile isDigit
  if whole.isEmpty then none
  else
    match t.dropWhile isDigit with
    | .char '.' :: tail =>
      let fraction := tail.takeWhile isDigit
      if fraction.isEmpty then some (whole, .char '.' :: tail)
      else some (whole ++ .char '.' :: fraction, tail.dropWhile isDigit)
    | rest => some (whole, rest)

/-- Blanks, at least one: what follows them. -/
def afterBlanks? (t : Text) : Option Text :=
  match t with
  | [] => none
  | l :: _ => if isBlank l then some (t.dropWhile isBlank) else none

/-- A displacement: a sign, digits, and a fraction after a point or a bar. -/
def displacement? (t : Text) : Option (Text × Text) :=
  let isSign := fun (l : Letter) => l == '-' || l == '+'
  let sign := t.takeWhile isSign
  let body := t.dropWhile isSign
  let whole := body.takeWhile isDigit
  if 1 < sign.length ∨ whole.isEmpty then none
  else
    match body.dropWhile isDigit with
    | l :: tail =>
      let part := tail.takeWhile isDigit
      if (l == '.' || l == '/') && !part.isEmpty then
        some (sign ++ whole ++ l :: part, tail.dropWhile isDigit)
      else some (sign ++ whole, l :: tail)
    | [] => some (sign ++ whole, [])

/-- The action text of a spec: all that is left, on one line. -/
def actionText? (t : Text) : Option Text :=
  if t.contains '\n' then none else some t

/-- Take a strum spec without surrounding blanks apart. -/
def strumParts? (t : Text) : Option StrumParts := do
  let (offset, rest) ← plainDecimal? t
  let rest ← afterBlanks? rest
  let (displacement, rest) ← displacement? rest
  let rest ← afterBlanks? rest
  let actions ← actionText? rest
  return ⟨offset, displacement, actions⟩

/-- Take a pluck spec without surrounding blanks apart: offset and actions. -/
def pluckParts? (t : Text) : Option (Text × Text) := do
  let (offset, rest) ← plainDecimal? t
  let rest ← afterBlanks? rest
  let actions ← actionText? rest
  return (offset, actions)

/-! ## §2. Offsets, displacements and actions. -/

/-- The exact value of a plain decimal. -/
def offsetValue (t : Text) : Except Fault Rat := do
  let whole ← naturalOfDigits (t.takeWhile isDigit)
  let places := (t.dropWhile isDigit).drop 1
  let fraction ← naturalOfDigits places
  return (whole : Rat) + (fraction : Rat) / (10 : Rat) ^ places.length

/-- The exact value of a displacement; a zero denominator has none. -/
def displacementValue (t : Text) : Except Fault Rat :=
  match readRatio? t with
  | some q => .ok q
  | none => .error (.badDisplacement (.text t))

/-- The exact value of a double that is a displacement. -/
def displacementOfDouble (x : Binary64) : Except Fault Rat :=
  match x with
  | .infinite _ => .error .infinityToRatio
  | x =>
    match x.toRat? with
    | some q => .ok q
    | none => .error (.badDisplacement (.number (.float x)))

/-- The exact value of a displacement that is a text or a number. -/
def displacementOf (d : Datum) : Except Fault Rat :=
  match d with
  | .text t => displacementValue t
  | .number (.float x) => displacementOfDouble x
  | .number (.ratio q) => .ok q
  | .number q => .ok ((q.integer?.getD 0 : Int) : Rat)
  | _ => .error .wrongKind

/-- The selection and the digits of the velocity of an action. -/
def actionParts? (t : Text) : Option (Text × Text) :=
  let isSelection := fun (l : Letter) => l == '-' || l == ',' || isDigit l
  let selection := t.takeWhile isSelection
  if selection.isEmpty then none
  else
    match t.dropWhile isSelection with
    | .char ':' :: velocity =>
      if !velocity.isEmpty && velocity.all isDigit then some (selection, velocity) else none
    | _ => none

/-- The strokes of one action of the spec `spec`, in written order. -/
def readAction (spec token : Text) : Except Fault (List Stroke) :=
  match actionParts? token with
  | none => .error (.badAction token spec)
  | some (selection, velocityDigits) => do
    -- The velocity is read before the strings.
    let velocity ← naturalOfDigits velocityDigits
    let strings ← Selection.strings selection
    return strings.map fun string => ⟨string, velocity⟩

/-! ## §3. Groups. -/

/-- One group for each stroke, each one step after the last. -/
def spread (step : Rat) (offset : Rat) : List Stroke → List Group
  | [] => []
  | stroke :: strokes => ⟨offset, [stroke]⟩ :: spread step (offset + step) strokes

/-- The size of a rational without its sign. -/
def magnitude (q : Rat) : Rat := if q < 0 then -q else q

/-- The groups of the strokes of one action, and the offset after them. -/
def place (displacement offset : Rat) (strokes : List Stroke) : List Group × Rat :=
  if displacement = 0 then ([⟨offset, strokes⟩], offset)
  else
    let ordered := if displacement < 0 then strokes.reverse else strokes
    let step := magnitude displacement
    -- The next action goes on where this one stops.
    (spread step offset ordered, offset + step * strokes.length)

/-- The groups of the actions of one spec, from an offset on. -/
def placeActions (spec : Text) (displacement : Rat) :
    Rat → List Text → Except Fault (List Group)
  | _, [] => .ok []
  | offset, token :: tokens => do
    let strokes ← readAction spec token
    let (groups, next) := place displacement offset strokes
    return groups ++ (← placeActions spec displacement next tokens)

/-- The groups of one strum spec. -/
def strumGroups (spec : Text) : Except Fault (List Group) :=
  match strumParts? (trim spec) with
  | none => .error (.badStrum spec)
  | some parts => do
    let offset ← offsetValue parts.offset
    let displacement ← displacementValue parts.displacement
    match words parts.actions with
    | [] => .error (.badStrum spec)
    | tokens => placeActions spec displacement offset tokens

/-- A pluck spec as the strum spec it stands for, with displacement zero. -/
def strumOfPluck (spec : Text) : Except Fault Text :=
  match pluckParts? (trim spec) with
  | none => .error (.badPluck spec)
  | some (offset, actions) => .ok (offset ++ " 0 " ++ actions)

end Spec

/-! ## §4. Whole patterns. -/

/-- How the specs of a pattern are read. -/
inductive PatternKind where
  | pluck
  | strum
  deriving Repr, DecidableEq

/-- The specs that a datum lists: one text, or several. -/
def Spec.listOf : Datum → Except Fault (List Datum)
  | .text t => .ok [.text t]
  | d => d.elements

namespace Pattern

/-- Compile strum specs, in order. -/
def ofStrums (specs : List Text) : Except Fault Pattern := do
  return ⟨(← specs.mapM Spec.strumGroups).flatten⟩

/-- Compile pluck specs, in order.  All of them are read before the first is compiled. -/
def ofPlucks (specs : List Text) : Except Fault Pattern := do
  ofStrums (← specs.mapM Spec.strumOfPluck)

/-- Compile specs of a kind, which should be texts. -/
def ofSpecs (kind : PatternKind) (specs : List Datum) : Except Fault Pattern :=
  match kind with
  | .strum => do
    return ⟨(← specs.mapM fun spec => do Spec.strumGroups (← spec.asText)).flatten⟩
  | .pluck => do
    ofStrums (← specs.mapM fun spec => do Spec.strumOfPluck (← spec.asText))

end Pattern
end Plectrum
