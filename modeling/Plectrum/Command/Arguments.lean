/-
  Plectrum.Command.Arguments
  ──────────────────────────
  **The words of a command line.**

  The command takes the path of a score and four switches, in any order.  A switch has
  a short and a long name; the long one may be cut short, and what a switch takes may
  be attached to it.  Two dashes alone end the switches.
-/
import Plectrum.Datum.Basic
import Plectrum.Text.Numeral

namespace Plectrum.Command

/-! ## §1. Switches. -/

/-- A switch. -/
inductive Switch where
  | help
  | output
  | seed
  | verbose
  deriving Repr, DecidableEq

namespace Switch

def all : List Switch := [.help, .output, .seed, .verbose]

/-- The letter of the short name. -/
def letter : Switch → Char
  | .help => 'h'
  | .output => 'o'
  | .seed => 's'
  | .verbose => 'v'

/-- The short name. -/
def short (s : Switch) : Text := [.char '-', .char s.letter]

/-- The long name. -/
def long : Switch → Text
  | .help => "--help"
  | .output => "--output"
  | .seed => "--seed"
  | .verbose => "--verbose"

/-- Whether a switch takes something. -/
def takesValue : Switch → Bool
  | .output | .seed => true
  | .help | .verbose => false

/-- Both names, as messages show them. -/
def title (s : Switch) : Text := s.short ++ .char '/' :: s.long

/-- The switch with a letter. -/
def ofLetter? (l : Letter) : Option Switch := all.find? fun s => s.letter == l

/-- The switch with a name, short or long. -/
def ofName? (t : Text) : Option Switch := all.find? fun s => s.short == t || s.long == t

end Switch

/-! ## §2. Words. -/

/-- A word of the command line. -/
inductive Word where
  | plain (text : Text)
  /-- A switch; `isShort` says that it is written with one dash, and what is attached stands
  after its name. -/
  | switch (s : Switch) (isShort : Bool) (attached : Option Text)
  /-- What looks like a switch but is none. -/
  | unknown (text : Text)
  deriving Repr, DecidableEq

/-- What ends the reading of a command line early. -/
inductive Misuse where
  | ambiguous (word : Text) (matching : List Text)
  | noValue (s : Switch)
  | unwantedValue (s : Switch) (text : Text)
  | badSeed (text : Text)
  | scoreMissing
  | unrecognized (words : List Text)
  deriving Repr, DecidableEq

/-- What stands before and after the first equals sign, if there is one. -/
def atEquals (t : Text) : Text × Option Text :=
  match t.dropWhile (· != .char '=') with
  | [] => (t, none)
  | _ :: after => (t.takeWhile (· != .char '='), some after)

/-- Whether a word is a negative number. -/
def isNegativeNumber (t : Text) : Bool :=
  match if t.getLast? = some (.char '\n') then t.dropLast else t with
  | .char '-' :: body =>
    match body.dropWhile Text.isDigit with
    | [] => !body.isEmpty
    | .char '.' :: fraction => !fraction.isEmpty && fraction.all Text.isDigit
    | _ => false
  | _ => false

/-- A word that begins with a dash and names no switch. -/
def otherWord (t : Text) : Word :=
  if isNegativeNumber t || t.contains ' ' then .plain t else .unknown t

/-- The word that begins with two dashes: a long name may be cut short. -/
def longWord (t : Text) : Except Misuse Word :=
  let (name, value) := atEquals t
  match Switch.all.filter fun s => name.isPrefixOf s.long with
  | [] => .ok (otherWord t)
  | [s] => .ok (.switch s false value)
  | many => .error (.ambiguous t (many.map Switch.long))

/-- The word that begins with one dash: what follows the letter is attached. -/
def shortWord (t : Text) : Word :=
  match t with
  | .char '-' :: l :: after =>
    match Switch.ofLetter? l with
    | some s => .switch s true (some after)
    | none => otherWord t
  | _ => .plain t

/-- Sort one word. -/
def wordOf (t : Text) : Except Misuse Word :=
  match t with
  | .char '-' :: l :: _ =>
    let isShort := l != '-'
    -- A name as it stands comes first, then one in front of an equals sign, then the rest.
    match Switch.ofName? t, atEquals t with
    | some s, _ => .ok (.switch s isShort none)
    | none, (name, some value) =>
      match Switch.ofName? name with
      | some s => .ok (.switch s isShort (some value))
      | none => if isShort then .ok (shortWord t) else longWord t
    | none, (_, none) => if isShort then .ok (shortWord t) else longWord t
  | _ => .ok (.plain t)

/-! ## §3. Reading. -/

/-- What a command line asks for. -/
structure Arguments where
  score : Text
  /-- The file to save; missing when the switch is not given. -/
  output : Datum
  seed : Datum
  verbose : Bool
  deriving Repr

/-- A command line, as far as it has been read. -/
structure Partial where
  score : Option Text
  output : Datum
  seed : Datum
  verbose : Bool
  /-- Words that nothing takes. -/
  extras : List Text
  /-- Whether the last word is the score. -/
  scoreLast : Bool
  deriving Repr

/-- What a command line comes to. -/
inductive Invocation where
  | run (arguments : Arguments)
  | help
  | misuse (m : Misuse)
  deriving Repr

/-- What ends the reading: a mistake, or the wish for help. -/
inductive Stop where
  | help
  | misuse (m : Misuse)
  deriving Repr

/-- A switch with what it takes. -/
abbrev Setting := Switch × Text

/-- Take a plain word: the first is the score. -/
def Partial.take (p : Partial) (text : Text) : Partial :=
  match p.score with
  | none => { p with score := some text, scoreLast := true }
  | some _ => { p with extras := p.extras ++ [text], scoreLast := false }

/-- Two dashes.  Alone they end the switches; attached to a switch they stand for no value. -/
def dashes : Text := "--"

/-- What a switch takes: two dashes leave an empty list in place of a value. -/
def valueOf (readText : Text → Except Stop Datum) (text : Text) : Except Stop Datum :=
  if text = dashes then .ok (.list []) else readText text

/-- Read a seed. -/
def readSeed (text : Text) : Except Stop Datum :=
  match Text.readInt text with
  | .ok n => .ok (.whole n)
  | .error _ => .error (.misuse (.badSeed text))

/-- Apply a switch. -/
def Partial.apply (p : Partial) (setting : Setting) : Except Stop Partial :=
  match setting with
  | (.help, _) => .error .help
  | (.verbose, _) => .ok { p with verbose := true }
  | (.output, text) => do return { p with output := ← valueOf (fun path => .ok (.text path)) text }
  | (.seed, text) => do return { p with seed := ← valueOf readSeed text }

/-- A bundle of switches in one word: its settings, and the switch that still takes the
next word. -/
structure Bundle where
  settings : List Setting
  open? : Option Switch

/-- The last switch of a word: it takes the next word, or nothing. -/
def Bundle.ofLast (s : Switch) : Bundle := if s.takesValue then ⟨[], some s⟩ else ⟨[(s, [])], none⟩

/-- The switches of the letters that follow the letter of `s`, which takes nothing.  What
follows the letter of a switch that takes something is what it takes. -/
def Bundle.ofLetters (s : Switch) : Text → Except Misuse Bundle
  | [] => .error (.unwantedValue s [])
  | l :: after =>
    match Switch.ofLetter? l with
    | none => .error (.unwantedValue s (l :: after))
    | some next => do
      let bundle ←
        if after.isEmpty then pure (ofLast next)
        else if next.takesValue then pure ⟨[(next, after)], none⟩
        else ofLetters next after
      return { bundle with settings := (s, []) :: bundle.settings }

/-- The switches of one word.  Letters attached to a short switch that takes nothing are
switches themselves. -/
def Bundle.ofSwitch (isShort : Bool) (s : Switch) : Option Text → Except Misuse Bundle
  | none => .ok (ofLast s)
  | some attached =>
    if s.takesValue then .ok ⟨[(s, attached)], none⟩
    else if isShort then ofLetters s attached
    else .error (.unwantedValue s attached)

/-- Go on after words that nothing takes, and that are no score. -/
def Partial.pass (p : Partial) (extras : List Text) : Partial :=
  { p with extras := p.extras ++ extras, scoreLast := false }

/-- Read words in order. -/
def readWords : Partial → List Word → Except Stop Partial
  | p, [] => .ok p
  | p, .plain text :: rest => readWords (p.take text) rest
  | p, .unknown text :: rest => readWords (p.pass [text]) rest
  | p, .switch s isShort attached :: rest =>
    match Bundle.ofSwitch isShort s attached with
    | .error m => .error (.misuse m)
    | .ok bundle =>
      match bundle.open?, rest with
      | none, rest => do
        readWords (← bundle.settings.foldlM Partial.apply (p.pass [])) rest
      | some s, .plain value :: rest => do
        readWords (← (bundle.settings ++ [(s, value)]).foldlM Partial.apply (p.pass [])) rest
      | some s, _ => .error (.misuse (.noValue s))

/-- Read the words after two dashes.  The dashes belong to the score if it comes right
before or after them; otherwise nothing takes them. -/
def Partial.takeRest (p : Partial) (rest : List Text) : Partial :=
  match p.score, rest with
  | none, [] => p.pass [dashes]
  | none, first :: more => { p with score := some first, extras := p.extras ++ more }
  | some _, rest =>
    { p with extras := p.extras ++ (if p.scoreLast then rest else dashes :: rest) }

/-- Read all words, those before two dashes and those after. -/
def readLine (words : List Word) (rest : Option (List Text)) : Except Stop Partial := do
  let p ← readWords ⟨none, .null, .null, false, [], false⟩ words
  return (rest.map p.takeRest).getD p

/-- The arguments of a command line that has been read. -/
def Partial.finish (p : Partial) : Except Stop Arguments :=
  match p.score with
  | none => .error (.misuse .scoreMissing)
  | some score =>
    if p.extras.isEmpty then .ok ⟨score, p.output, p.seed, p.verbose⟩
    else .error (.misuse (.unrecognized p.extras))

/-- Read a command line. -/
def read (args : List Text) : Invocation :=
  let front := args.takeWhile (· != dashes)
  let rest := if args.contains dashes then some ((args.dropWhile (· != dashes)).drop 1) else none
  match front.mapM wordOf with
  | .error m => .misuse m
  | .ok words =>
    match readLine words rest >>= Partial.finish with
    | .ok arguments => .run arguments
    | .error .help => .help
    | .error (.misuse m) => .misuse m

end Plectrum.Command
