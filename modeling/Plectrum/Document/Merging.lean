/-
  Plectrum.Document.Merging
  ─────────────────────────
  **Mappings that take in the entries of others.**

  The value of a merging key is a mapping, or a list of mappings, whose entries belong to
  the mapping of that key as well.  They come first, so that its own entries replace
  them, and of a list the last mapping comes first.  A mapping whose merging keys are
  gone stays so: it is merged once, also when several others take it in, or it takes
  in itself.
-/
import Plectrum.Document.Graph

namespace Plectrum.Document.Graph

/-- The entries of a thing that is a mapping as it is written. -/
def entriesAt? (g : Graph) (n : Nat) : Option (List (Nat × Nat)) :=
  match g.shapeAt n with
  | .mapping entries => some entries
  | _ => none

/-- The value of the first merging key, and the other entries. -/
def firstMerging? (g : Graph) : List (Nat × Nat) → Option (Nat × List (Nat × Nat))
  | [] => none
  | (key, value) :: entries =>
    if g.isScalar key .merging then some (value, entries)
    else (firstMerging? g entries).map fun (found, others) => (found, (key, value) :: others)

/-- An equals sign is a text like others when it is a key. -/
def settleKeys (g : Graph) (entries : List (Nat × Nat)) : Graph :=
  entries.foldl
    (fun g (key, _) => if g.isScalar key .equals then g.setKind key (.scalar .text) else g) g

/-- Merge some mappings one after the other; their entries, those of the last first. -/
def mergeAll (merge : Graph → Nat → Except Fault Graph) (g : Graph) (ns : List Nat) :
    Except Fault (Graph × List (Nat × Nat)) :=
  ns.foldlM
    (fun (g, entries) n => do
      if (g.entriesAt? n).isNone then throw .documentSyntax
      let g ← merge g n
      return (g, (g.entriesAt? n).getD [] ++ entries))
    (g, [])

/-- The entries that the value of a merging key stands for, after they are merged
themselves. -/
def takenIn (merge : Graph → Nat → Except Fault Graph) (g : Graph) (value : Nat) :
    Except Fault (Graph × List (Nat × Nat)) :=
  match g.shapeAt value with
  | .text _ => .error .documentSyntax
  | .list items => mergeAll merge g items
  | .mapping _ => mergeAll merge g [value]

/-- Merge a mapping, in at most `steps` steps.  `added` are the entries that it has taken in so
far. -/
def mergeFrom : Nat → List (Nat × Nat) → Graph → Nat → Except Fault Graph
  | 0, _, _, _ => .error .tooDeep
  | steps + 1, added, g, n =>
    let entries := (g.entriesAt? n).getD []
    match g.firstMerging? entries with
    | none =>
      let g := g.settleKeys entries
      .ok (if added.isEmpty then g else g.setShape n (.mapping (added ++ entries)))
    | some (value, others) => do
      -- The key is gone before its value is looked at, which may be this mapping again.
      let g := g.setShape n (.mapping others)
      let (g, more) ← g.takenIn (mergeFrom steps []) value
      mergeFrom steps (added ++ more) g n

/-- How many entries the mappings of a graph have. -/
def entryCount (g : Graph) : Nat :=
  g.foldl
    (fun count thing =>
      match thing.shape with
      | .mapping entries => count + entries.length
      | _ => count) 0

/-- Enough steps to merge any mapping: every step takes a merging key away, but the last. -/
def mergingSteps (g : Graph) : Nat := g.entryCount + 1

end Plectrum.Document.Graph
