/-
  Plectrum.Document.Node
  ──────────────────────
  **From tokens to the things of a document, as they are written.**

  A document holds one thing: a scalar, a list or a mapping, written in blocks or in
  brackets.  A thing that is missing is an empty scalar.  An anchor and a tag may stand
  in front of a thing, in either order, and an alias may stand in its place; they
  stay as they are written.
-/
import Plectrum.Document.Outline

namespace Plectrum.Document

/-- A thing of a document, as it is written. -/
inductive Node where
  /-- A text; only a bare one may mean anything else than itself. -/
  | scalar (text : Text) (bare : Bool)
  | list (items : List Node)
  /-- Keys with their values, in order; a key may come more than once. -/
  | mapping (entries : List (Node × Node))
  | alias (name : String)
  /-- A thing with an anchor or a tag in front of it. -/
  | marked (anchor : Option String) (tag : Option Tag) (node : Node)
  deriving Repr, Inhabited

/-- A thing that is missing. -/
def Node.missing : Node := .scalar "" true

/-! ## §1. What stands in front of a thing. -/

/-- An anchor and a tag that a list of tokens begins with, and what follows them. -/
def properties : List Token → Option String × Option Tag × List Token
  | .anchor name :: .tag t :: rest => (some name, some t, rest)
  | .tag t :: .anchor name :: rest => (some name, some t, rest)
  | .anchor name :: rest => (some name, none, rest)
  | .tag t :: rest => (none, some t, rest)
  | toks => (none, none, toks)

/-- A thing behind what stands in front of it.  `rest` are the tokens after the thing. -/
def withProperties (anchor : Option String) (tag : Option Tag)
    (found : Option Node × List Token) : Except Fault (Node × List Token) :=
  match anchor, tag, found with
  | none, none, (some node, rest) => .ok (node, rest)
  | none, none, (none, rest) => .error (faultAt rest)
  -- Nothing need follow an anchor or a tag.
  | _, _, (node, rest) => .ok (.marked anchor tag (node.getD .missing), rest)

/-! ## §2. Things. -/

/-- Where a thing stands. -/
inductive Site where
  /-- After a dash, or at the top. -/
  | entry
  /-- A key or a value of a block, where dashes may stand without deeper indentation. -/
  | keyed
  /-- Within brackets, where no blocks are. -/
  | bracketed
  deriving Repr, DecidableEq

/-- A token that may come in place of a thing. -/
inductive Ending where
  | dash
  | key
  | value
  | comma
  | closeBlock
  | closeBracket
  | closeBrace
  | documentStart
  | documentEnd
  deriving Repr, DecidableEq

/-- The ending that a token is. -/
def Ending.ofToken? : Token → Option Ending
  | .dash => some .dash
  | .key => some .key
  | .value => some .value
  | .comma => some .comma
  | .closeBlock => some .closeBlock
  | .closeBracket => some .closeBracket
  | .closeBrace => some .closeBrace
  | .documentStart => some .documentStart
  | .documentEnd => some .documentEnd
  | _ => none

/-- Whether the next token is one of some endings. -/
def comesOneOf (toks : List Token) (ends : List Ending) : Bool :=
  match toks.head?.bind Ending.ofToken? with
  | some ending => ends.contains ending
  | none => false

mutual

/-- Read a thing, in at most `fuel` steps.  `room` is how many levels of things there may
still be. -/
def thing : Nat → Nat → Site → List Token → Except Fault (Node × List Token)
  | 0, _, _, _ => .error .documentSyntax
  | _, 0, _, _ => .error .tooDeep
  | fuel + 1, room + 1, site, toks =>
    match toks with
    | .alias name :: rest => .ok (.alias name, rest)
    | toks =>
      let (anchor, tag, rest) := properties toks
      do withProperties anchor tag (← content? fuel room site rest)

/-- Read the thing behind its anchor and its tag, if there is one. -/
def content? : Nat → Nat → Site → List Token → Except Fault (Option Node × List Token)
  | 0, _, _, _ => .error .documentSyntax
  | fuel + 1, room, site, toks =>
    match toks with
    | .scalar text bare :: rest => .ok (some (.scalar text bare), rest)
    | .openBracket :: rest => do
      let (items, rest) ← bracketItems fuel room true rest
      return (some (.list items), rest)
    | .openBrace :: rest => do
      let (entries, rest) ← braceEntries fuel room true rest
      return (some (.mapping entries), rest)
    | .openEntries :: rest =>
      if site = .bracketed then .ok (none, toks)
      else do
        let (items, rest) ← blockItems fuel room rest
        return (some (.list items), rest)
    | .openKeys :: rest =>
      if site = .bracketed then .ok (none, toks)
      else do
        let (entries, rest) ← blockEntries fuel room rest
        return (some (.mapping entries), rest)
    -- Dashes at the column of their key open no block of their own.
    | .dash :: _ =>
      if site = .keyed then do
        let (items, rest) ← flatItems fuel room toks
        return (some (.list items), rest)
      else .ok (none, toks)
    | .broken fault :: _ => .error fault
    | _ => .ok (none, toks)

/-- Read a thing, unless one of `ends` comes first: then it is missing. -/
def thingUnless : Nat → Nat → Site → List Ending → List Token →
    Except Fault (Node × List Token)
  | 0, _, _, _, _ => .error .documentSyntax
  | fuel + 1, room, site, ends, toks =>
    if comesOneOf toks ends && room != 0 then .ok (.missing, toks) else thing fuel room site toks

/-- Read the value after a colon, if there is one. -/
def valueUnless : Nat → Nat → Site → List Ending → List Token →
    Except Fault (Node × List Token)
  | 0, _, _, _, _ => .error .documentSyntax
  | fuel + 1, room, site, ends, toks =>
    match toks with
    | .value :: rest => thingUnless fuel room site ends rest
    | toks => .ok (.missing, toks)

/-- Read the entries of a block of dashes. -/
def blockItems : Nat → Nat → List Token → Except Fault (List Node × List Token)
  | 0, _, _ => .error .documentSyntax
  | fuel + 1, room, toks =>
    match toks with
    | .closeBlock :: rest => .ok ([], rest)
    | .dash :: rest => do
      let (item, rest) ← thingUnless fuel room .entry [.dash, .closeBlock] rest
      let (items, rest) ← blockItems fuel room rest
      return (item :: items, rest)
    | toks => .error (faultAt toks)

/-- Read entries after dashes that have no block of their own. -/
def flatItems : Nat → Nat → List Token → Except Fault (List Node × List Token)
  | 0, _, _ => .error .documentSyntax
  | fuel + 1, room, toks =>
    match toks with
    | .dash :: rest => do
      let (item, rest) ← thingUnless fuel room .entry [.dash, .key, .value, .closeBlock] rest
      let (items, rest) ← flatItems fuel room rest
      return (item :: items, rest)
    | toks => .ok ([], toks)

/-- Read the entries of a block of keys. -/
def blockEntries : Nat → Nat → List Token → Except Fault (List (Node × Node) × List Token)
  | 0, _, _ => .error .documentSyntax
  | fuel + 1, room, toks =>
    match toks with
    | .closeBlock :: rest => .ok ([], rest)
    | .key :: rest => do
      let (key, rest) ← thingUnless fuel room .keyed [.key, .value, .closeBlock] rest
      let (value, rest) ← valueUnless fuel room .keyed [.key, .value, .closeBlock] rest
      let (entries, rest) ← blockEntries fuel room rest
      return ((key, value) :: entries, rest)
    | toks => .error (faultAt toks)

/-- Read the items of a list in brackets; every item but the first follows a comma. -/
def bracketItems : Nat → Nat → Bool → List Token → Except Fault (List Node × List Token)
  | 0, _, _, _ => .error .documentSyntax
  | fuel + 1, room, first, toks =>
    match first, toks with
    | _, .closeBracket :: rest => .ok ([], rest)
    | false, .comma :: .closeBracket :: rest => .ok ([], rest)
    | false, .comma :: rest | true, rest => do
      let (item, rest) ← bracketItem fuel room rest
      let (items, rest) ← bracketItems fuel room false rest
      return (item :: items, rest)
    | false, toks => .error (faultAt toks)

/-- Read one item of a list in brackets: a thing, or a mapping with a single key. -/
def bracketItem : Nat → Nat → List Token → Except Fault (Node × List Token)
  | 0, _, _ => .error .documentSyntax
  | fuel + 1, room, toks =>
    match toks with
    | .key :: rest => do
      -- The mapping is a level of its own.
      let (key, rest) ←
        thingUnless fuel (room - 1) .bracketed [.value, .comma, .closeBracket] rest
      let (value, rest) ← valueUnless fuel (room - 1) .bracketed [.comma, .closeBracket] rest
      return (.mapping [(key, value)], rest)
    | toks => thing fuel room .bracketed toks

/-- Read the entries of a mapping in braces; every entry but the first follows a comma. -/
def braceEntries : Nat → Nat → Bool → List Token → Except Fault (List (Node × Node) × List Token)
  | 0, _, _, _ => .error .documentSyntax
  | fuel + 1, room, first, toks =>
    match first, toks with
    | _, .closeBrace :: rest => .ok ([], rest)
    | false, .comma :: .closeBrace :: rest => .ok ([], rest)
    | false, .comma :: rest | true, rest => do
      let (entry, rest) ← braceEntry fuel room rest
      let (entries, rest) ← braceEntries fuel room false rest
      return (entry :: entries, rest)
    | false, toks => .error (faultAt toks)

/-- Read one entry of a mapping in braces; without a colon its value is missing. -/
def braceEntry : Nat → Nat → List Token → Except Fault ((Node × Node) × List Token)
  | 0, _, _ => .error .documentSyntax
  | fuel + 1, room, toks =>
    match toks with
    | .key :: rest => do
      let (key, rest) ← thingUnless fuel room .bracketed [.value, .comma, .closeBrace] rest
      let (value, rest) ← valueUnless fuel room .bracketed [.comma, .closeBrace] rest
      return ((key, value), rest)
    | toks => do
      let (key, rest) ← thing fuel room .bracketed toks
      return ((key, .missing), rest)

end

/-! ## §3. Documents. -/

/-- The most levels of things within each other. -/
def levelLimit : Nat := 492

/-- Enough steps for a list of tokens: no more than four lie between two tokens. -/
def stepsFor (toks : List Token) : Nat := 5 * toks.length + 8

/-- The directives in front of a document, and the tokens after them. -/
def directives : List Token → List Directive × List Token
  | .directive d :: rest => ((directives rest).1.cons d, (directives rest).2)
  | toks => ([], toks)

/-- Read the thing of a document, if there is a document. -/
def root? (toks : List Token) : Except Fault (Option Node × List Token) :=
  match toks with
  | [] => .ok (none, [])
  | .documentStart :: rest => do
    let (node, rest) ←
      if rest.isEmpty then pure (Node.missing, rest)
      else thingUnless (stepsFor rest) levelLimit .entry [.documentStart, .documentEnd] rest
    return (some node, rest)
  | toks => do
    let (node, rest) ← thing (stepsFor toks) levelLimit .entry toks
    return (some node, rest)

/-- A document: what its handles stand for, and its thing. -/
structure Page where
  handles : List (String × String)
  root : Option Node
  deriving Repr

/-- What the handles stand for that need no directive. -/
def plainHandles : List (String × String) := [("!", "!"), ("!!", "tag:yaml.org,2002:")]

/-- What handles stand for after one more directive; no handle is stated twice. -/
def withHandle (handles : List (String × String)) : Directive →
    Except Fault (List (String × String))
  | .handle name meaning =>
    if (handles.lookup name).isSome then .error .documentSyntax
    else .ok ((name, meaning) :: handles)
  | _ => .ok handles

/-- Whether a directive states a version. -/
def Directive.isVersion : Directive → Bool
  | .version _ => true
  | _ => false

/-- What the handles stand for after directives: at most one of them states the version,
which is the first. -/
def handlesOf (ds : List Directive) : Except Fault (List (String × String)) :=
  let versions := ds.filter Directive.isVersion
  if versions.length ≤ 1 ∧ versions.all (· == .version 1) then
    return (← ds.foldlM withHandle []) ++ plainHandles
  else .error .documentSyntax

/-- Whether a tag can be understood: its handle, if it has one, stands for something. -/
def knowsTag (handles : List (String × String)) (tag : Tag) : Bool :=
  tag.handle.all fun handle => (handles.lookup handle).isSome

/-- Whether a name is given once more to the thing behind it; that counts when the thing
begins. -/
def isRepeated (names : List String) (name : String) (rest : List Token) : Bool :=
  names.contains name && !breaksOff rest

/-- The tokens up to the first name or handle that is wrong: an alias of nothing, an anchor
that is there already, a handle that stands for nothing.  `names` are those of the
anchors before. -/
def knownTokens (handles : List (String × String)) : List String → List Token → List Token
  | _, [] => []
  | names, .alias name :: rest =>
    if names.contains name then .alias name :: knownTokens handles names rest
    else [.broken .documentSyntax]
  | names, .anchor name :: .tag tag :: rest =>
    if !knowsTag handles tag || isRepeated names name rest then [.broken .documentSyntax]
    else .anchor name :: .tag tag :: knownTokens handles (name :: names) rest
  | names, .tag tag :: .anchor name :: rest =>
    if !knowsTag handles tag || isRepeated names name rest then [.broken .documentSyntax]
    else .tag tag :: .anchor name :: knownTokens handles (name :: names) rest
  | names, .anchor name :: rest =>
    if isRepeated names name rest then [.broken .documentSyntax]
    else .anchor name :: knownTokens handles (name :: names) rest
  | names, .tag tag :: rest =>
    -- An anchor may follow a tag, so what follows is looked at before the handle is.
    if !knowsTag handles tag && !breaksOff rest then [.broken .documentSyntax]
    else .tag tag :: knownTokens handles names rest
  | names, token :: rest => token :: knownTokens handles names rest

/-- The page that tokens make up.  After directives comes the marker of the start; after
the document comes nothing but markers of its end. -/
def Page.ofTokens (toks : List Token) : Except Fault Page := do
  let (ds, body) := directives toks
  let handles ← handlesOf ds
  if !ds.isEmpty && !(body.head? matches some .documentStart) then throw (faultAt body)
  let (root, rest) ← root? (knownTokens handles [] body)
  let after := rest.dropWhile Token.isDocumentEnd
  if after.isEmpty then return ⟨handles, root⟩
  -- Directives of a further document are looked at before it is refused.
  let (ds, after) := directives after
  let _ ← handlesOf ds
  throw (faultAt after)

end Plectrum.Document
