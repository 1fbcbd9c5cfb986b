/-
  Plectrum.Document.Graph
  ───────────────────────
  **The things of a document by number.**

  An alias stands for a thing that is written elsewhere, perhaps around the alias
  itself, so the things of a document make up a graph.  Every thing has a number, in the
  order of where it begins, and a list or a mapping holds the numbers of its things.
  A thing has the kind that its tag says, or else its letters.
-/
import Plectrum.Document.Node
import Plectrum.Document.Scalar

namespace Plectrum.Document

/-! ## §1. Things. -/

/-- What a thing is to be. -/
inductive Kind where
  | scalar (kind : ScalarKind)
  | list
  | mapping
  /-- The keys of a mapping alone. -/
  | set
  /-- A list of mappings with one entry each. -/
  | pairs
  | unknown
  deriving Repr, DecidableEq

/-- How a thing is written.  The things in it are known by their numbers. -/
inductive Shape where
  | text (t : Text)
  | list (items : List Nat)
  /-- Keys with their values, in order; a key may come more than once. -/
  | mapping (entries : List (Nat × Nat))
  deriving Repr, DecidableEq

/-- A thing of a document. -/
structure Thing where
  kind : Kind
  shape : Shape
  deriving Repr, DecidableEq

/-- The things of a document; a thing's place is its number. -/
abbrev Graph : Type := Array Thing

namespace Graph

/-- The kind of the thing with a number. -/
def kindAt (g : Graph) (n : Nat) : Kind :=
  match g[n]? with
  | some thing => thing.kind
  | none => .unknown

/-- The shape of the thing with a number. -/
def shapeAt (g : Graph) (n : Nat) : Shape :=
  match g[n]? with
  | some thing => thing.shape
  | none => .list []

/-- Whether a thing is a scalar of a kind. -/
def isScalar (g : Graph) (n : Nat) (kind : ScalarKind) : Bool := g.kindAt n == .scalar kind

/-- Give a thing another kind. -/
def setKind (g : Graph) (n : Nat) (kind : Kind) : Graph :=
  g.modify n fun thing => { thing with kind }

/-- Give a thing another shape. -/
def setShape (g : Graph) (n : Nat) (shape : Shape) : Graph :=
  g.modify n fun thing => { thing with shape }

@[simp] theorem size_setKind (g : Graph) (n : Nat) (kind : Kind) :
    (g.setKind n kind).size = g.size := Array.size_modify

@[simp] theorem size_setShape (g : Graph) (n : Nat) (shape : Shape) :
    (g.setShape n shape).size = g.size := Array.size_modify

end Graph

/-! ## §2. Tags. -/

/-- The kinds that have tags, by the end of their names. -/
def taggedKinds : List (String × Kind) :=
  [("null", .scalar .null), ("bool", .scalar .truth), ("int", .scalar .whole),
   ("float", .scalar .double), ("timestamp", .scalar .moment), ("binary", .scalar .bytes),
   ("str", .scalar .text), ("merge", .scalar .merging), ("value", .scalar .equals),
   ("yaml", .scalar .mark), ("seq", .list), ("map", .mapping), ("set", .set),
   ("omap", .pairs), ("pairs", .pairs)]

/-- What the name of every such tag begins with. -/
def tagFront : String := "tag:yaml.org,2002:"

/-- The kind that the name of a tag stands for. -/
def kindOfTag (name : String) : Kind :=
  match taggedKinds.find? fun entry => tagFront ++ entry.1 == name with
  | some (_, kind) => kind
  | none => .unknown

/-- The name of a tag: what its handle stands for, and the rest. -/
def nameOfTag (handles : List (String × String)) (tag : Tag) : String :=
  match tag.handle with
  | none => tag.suffix
  | some handle => (handles.lookup handle).getD handle ++ tag.suffix

/-- The kind of a thing without a tag.  Only a bare text may mean anything else than itself. -/
def Shape.kind (shape : Shape) (bare : Bool) : Kind :=
  match shape with
  | .text t => .scalar (if bare then .ofWord t else .text)
  | .list _ => .list
  | .mapping _ => .mapping

/-- The kind of a thing with a tag or without one.  The tag that is an exclamation mark alone
leaves the kind to the letters of a text, also of one in quotes. -/
def Shape.kindWith (handles : List (String × String)) (tag : Option Tag) (bare : Bool)
    (shape : Shape) : Kind :=
  match tag.map (nameOfTag handles) with
  | none => shape.kind bare
  | some name => if name = "!" then shape.kind true else kindOfTag name

/-! ## §3. Numbers. -/

/-- The things that have a number, and what is known by a name, the last name first. -/
structure Numbering where
  graph : Graph
  names : List (String × Nat)

/-- Give the next number to a thing, and perhaps a name. -/
def Numbering.add (s : Numbering) (name : Option String) (thing : Thing) : Nat × Numbering :=
  let n := s.graph.size
  let names :=
    match name with
    | none => s.names
    | some name => (name, n) :: s.names
  (n, ⟨s.graph.push thing, names⟩)

/-- State what a thing that has its number holds. -/
def Numbering.fill (s : Numbering) (n : Nat) (shape : Shape) : Numbering :=
  { s with graph := s.graph.setShape n shape }

mutual

/-- The number of a thing, after the things in it have theirs.  A thing is known by its name
before that, so an alias may lead out to it. -/
def numberOf (handles : List (String × String)) (name : Option String) (tag : Option Tag)
    (s : Numbering) : Node → Nat × Numbering
  | .scalar text bare =>
    let shape := Shape.text text
    s.add name ⟨shape.kindWith handles tag bare, shape⟩
  | .list items =>
    let shape := Shape.list []
    let (n, s) := s.add name ⟨shape.kindWith handles tag true, shape⟩
    let (items, s) := numbersOf handles s items
    (n, s.fill n (.list items))
  | .mapping entries =>
    let shape := Shape.mapping []
    let (n, s) := s.add name ⟨shape.kindWith handles tag true, shape⟩
    let (entries, s) := numberPairsOf handles s entries
    (n, s.fill n (.mapping entries))
  | .alias name => ((s.names.lookup name).getD 0, s)
  | .marked name tag node => numberOf handles name tag s node

/-- The numbers of the items of a list. -/
def numbersOf (handles : List (String × String)) (s : Numbering) :
    List Node → List Nat × Numbering
  | [] => ([], s)
  | node :: nodes =>
    let (n, s) := numberOf handles none none s node
    let (ns, s) := numbersOf handles s nodes
    (n :: ns, s)

/-- The numbers of the keys and values of a mapping. -/
def numberPairsOf (handles : List (String × String)) (s : Numbering) :
    List (Node × Node) → List (Nat × Nat) × Numbering
  | [] => ([], s)
  | (key, value) :: entries =>
    let (key, s) := numberOf handles none none s key
    let (value, s) := numberOf handles none none s value
    let (entries, s) := numberPairsOf handles s entries
    ((key, value) :: entries, s)

end

/-- The graph of a thing, and the number of that thing. -/
def Graph.ofNode (handles : List (String × String)) (node : Node) : Nat × Graph :=
  let (root, s) := numberOf handles none none ⟨#[], []⟩ node
  (root, s.graph)

end Plectrum.Document
