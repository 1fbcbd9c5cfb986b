/-
  Plectrum.Document.Part
  ──────────────────────
  **What the things of a document hold, once their kinds are settled.**

  A scalar has a value; a list, a mapping, a set and a list of pairs are parts of the
  document.  Parts are settled one after the other, first the thing of the document itself,
  then what was met in it, and so on, every thing once.  So of several faults the one
  that lies least deep counts, and a part is known by its place in that order.
-/
import Plectrum.Document.Merging

namespace Plectrum.Document

/-! ## §1. Faces. -/

/-- A thing as it is met in another one: a value, or a part that is settled later. -/
inductive Face where
  | value (d : Datum)
  /-- The part with a place. -/
  | part (place : Nat)
  deriving Repr

/-- What a part holds. -/
inductive Part where
  | list (items : List Face)
  /-- Keys with their values, in order; a key may come more than once. -/
  | mapping (entries : List (Datum × Face))
  | set (keys : List Datum)
  | pairs (entries : List (Face × Face))
  deriving Repr

/-- What a thing says as a scalar, in at most `steps` steps: a mapping says what its equals sign
stands for. -/
def Graph.textAt (g : Graph) : Nat → Nat → Except Fault Text
  | 0, _ => .error .tooDeep
  | steps + 1, n =>
    match g.shapeAt n with
    | .text t => .ok t
    | .list _ => .error .documentSyntax
    | .mapping entries =>
      match entries.find? fun entry => g.isScalar entry.1 .equals with
      | some (_, value) => g.textAt steps value
      | none => .error .documentSyntax

/-- The value of a thing that is a scalar of some kind. -/
def Graph.scalarAt (g : Graph) (kind : ScalarKind) (n : Nat) : Except Fault Datum := do
  let t ← g.textAt (g.size + 1) n
  match kind, g.shapeAt n with
  -- A moment is read from the thing itself.
  | .moment, .mapping _ => throw .wrongKind
  | kind, _ => kind.datum t

/-! ## §2. Settling. -/

/-- The parts of a document as far as they are settled. -/
structure Settling where
  graph : Graph
  /-- How many steps merging a mapping takes at most. -/
  steps : Nat
  /-- The things that are parts, in the order in which they are met. -/
  met : Array Nat
  /-- The place of every thing that was met. -/
  places : Array (Option Nat)
  /-- The parts that are settled, in their order. -/
  parts : Array Part

namespace Settling

/-- Nothing is met yet. -/
def start (g : Graph) : Settling := ⟨g, g.mergingSteps, #[], Array.replicate g.size none, #[]⟩

/-- The place of a thing that is a part; a new one comes after those that were met. -/
def meet (s : Settling) (n : Nat) : Nat × Settling :=
  match s.places[n]? with
  | some (some place) => (place, s)
  | _ =>
    let place := s.met.size
    (place, { s with met := s.met.push n, places := s.places.setIfInBounds n (some place) })

/-- Meet a thing. -/
def face (s : Settling) (n : Nat) : Except Fault (Face × Settling) :=
  match s.graph.kindAt n with
  | .scalar kind => do return (.value (← s.graph.scalarAt kind n), s)
  | .unknown => .error .documentSyntax
  | _ =>
    let (place, s) := s.meet n
    .ok (.part place, s)

/-- Meet the items of a list. -/
def faces (s : Settling) : List Nat → Except Fault (List Face × Settling)
  | [] => .ok ([], s)
  | n :: ns => do
    let (first, s) ← s.face n
    let (rest, s) ← s.faces ns
    return (first :: rest, s)

/-- Meet the keys and values of a mapping; no part is a key. -/
def entries (s : Settling) : List (Nat × Nat) → Except Fault (List (Datum × Face) × Settling)
  | [] => .ok ([], s)
  | (key, value) :: rest => do
    match ← s.face key with
    | (.part _, _) => throw .documentSyntax
    | (.value key, s) =>
      let (value, s) ← s.face value
      let (rest, s) ← s.entries rest
      return ((key, value) :: rest, s)

/-- Meet the key and the value of each mapping in a list; any thing is a key there. -/
def pairs (s : Settling) : List Nat → Except Fault (List (Face × Face) × Settling)
  | [] => .ok ([], s)
  | n :: ns => do
    match s.graph.entriesAt? n with
    | some [(key, value)] =>
      let (key, s) ← s.face key
      let (value, s) ← s.face value
      let (rest, s) ← s.pairs ns
      return ((key, value) :: rest, s)
    | _ => throw .documentSyntax

/-- The entries of a thing that is to have keys, after it is merged. -/
def keyed (s : Settling) (n : Nat) : Except Fault (List (Datum × Face) × Settling) := do
  if (s.graph.entriesAt? n).isNone then throw .documentSyntax
  let graph ← s.graph.mergeFrom s.steps [] n
  { s with graph }.entries ((graph.entriesAt? n).getD [])

/-- Settle the part that a thing is. -/
def part (s : Settling) (n : Nat) : Except Fault (Part × Settling) :=
  match s.graph.kindAt n, s.graph.shapeAt n with
  | .list, .list items => do
    let (faces, s) ← s.faces items
    return (.list faces, s)
  | .pairs, .list items => do
    let (pairs, s) ← s.pairs items
    return (.pairs pairs, s)
  | .mapping, _ => do
    let (entries, s) ← s.keyed n
    return (.mapping entries, s)
  | .set, _ => do
    let (entries, s) ← s.keyed n
    return (.set (entries.map (·.1)), s)
  -- A tag takes the thing for what it is not.
  | _, _ => .error .documentSyntax

/-- Settle the parts that were met and are not settled, and all that are met in them, at most
`count` of them. -/
def settle : Nat → Settling → Except Fault Settling
  | 0, s => .ok s
  | count + 1, s =>
    match s.met[s.parts.size]? with
    | none => .ok s
    | some n => do
      let (part, s) ← s.part n
      settle count { s with parts := s.parts.push part }

end Settling

/-- What a document is: a face, and the parts that it leads to. -/
structure Settled where
  root : Face
  parts : Array Part

/-- Settle the thing with a number and all that it leads to; every thing is one part at most. -/
def Graph.settle (g : Graph) (root : Nat) : Except Fault Settled := do
  let (face, s) ← (Settling.start g).face root
  return ⟨face, (← Settling.settle g.size s).parts⟩

end Plectrum.Document
