/-
  Plectrum.Proofs.Mirrors
  ───────────────────────
  **Strumming backwards is writing the strings the other way round.**

  The mirror image of an action lists its spans from the last to the first, and turns each range
  around.  So it means the same strokes in the opposite order; and that is the order in which a
  negative displacement strikes the action itself.

  Main results:
    * `walk_swap` — a range that is turned around is walked the other way;
    * `ActionText.strokes_mirror` — the strokes of a mirror image;
    * `Spec.groupsOf_backwards`, `Spec.offsets_groupsOf` — which groups come out, and where;
    * `Pattern.ofSpecs_backwards` — a whole spec, whether or not its runs can be counted.
-/
import Plectrum.Proofs.Strums

namespace Plectrum

open Text

/-! ## §1. Mirror images. -/

/-- A range is walked back by walking it from its other end. -/
theorem walk_swap (first last : Nat) : walk last first = (walk first last).reverse := by
  rw [← Span.expand_eq_walk ⟨last, first⟩, ← Span.expand_eq_walk ⟨first, last⟩]
  simp only [Span.expand]
  by_cases up : first ≤ last
  · by_cases down : last ≤ first
    · -- A single string is its own mirror image.
      obtain rfl : first = last := by omega
      simp
    · simp [up, down]
  · simp [up, show last ≤ first by omega]

namespace SpanText

/-- The same span from its other end. -/
def mirror : SpanText → SpanText
  | ⟨first, none, fromOne, _⟩ => .single first fromOne
  | ⟨first, some last, fromOne, toOne⟩ => ⟨last, some first, toOne last rfl, by simpa using fromOne⟩

theorem span_mirror (s : SpanText) : s.mirror.span = s.span.flip := by
  obtain ⟨first, last?, fromOne, toOne⟩ := s
  cases last? with
  | none => rfl
  | some last => rfl

theorem walk_mirror (s : SpanText) :
    walk s.mirror.span.first s.mirror.span.last = (walk s.span.first s.span.last).reverse := by
  rw [s.span_mirror]
  exact walk_swap s.span.first s.span.last

theorem counted_mirror (s : SpanText) : s.mirror.Counted ↔ s.Counted := by
  unfold Counted
  rw [s.walk_mirror, List.length_reverse]

end SpanText

namespace ActionText

/-- The spans of an action from the last to the first, each from its other end. -/
def mirror (a : ActionText) : ActionText where
  spans := a.spans.reverse.map SpanText.mirror
  velocity := a.velocity
  some := by simpa using a.some

/-- The mirror image strikes the same strings in the opposite order. -/
theorem strings_mirror (a : ActionText) : a.mirror.strings = a.strings.reverse := by
  calc a.mirror.strings
      = a.spans.reverse.flatMap fun s => (walk s.span.first s.span.last).reverse := by
        simp only [strings, mirror, List.flatMap_map, SpanText.walk_mirror]
    _ = a.strings.reverse := by
        unfold strings
        rw [List.reverse_flatMap]
        rfl

theorem strokes_mirror (a : ActionText) : a.mirror.strokes = a.strokes.reverse := by
  unfold strokes
  rw [a.strings_mirror, List.map_reverse]
  rfl

theorem counted_mirror (a : ActionText) : a.mirror.Counted ↔ a.Counted := by
  unfold Counted mirror
  simp [SpanText.counted_mirror]

end ActionText

/-- The mirror images of the actions of a line, each in its place. -/
def ActionLine.mirror (line : ActionLine) : ActionLine where
  first := line.first.mirror
  rest := line.rest.map fun (gap, a) => (gap, a.mirror)
  oneLine := by
    intro p here
    obtain ⟨q, within, rfl⟩ := List.mem_map.1 here
    exact line.oneLine q within

theorem ActionLine.actions_mirror (line : ActionLine) :
    line.mirror.actions = line.actions.map ActionText.mirror := by
  simp [actions, mirror, Function.comp_def]

namespace StrumText

/-- The same spec with the mirror images of its actions. -/
def mirror (s : StrumText) : StrumText := { s with line := s.line.mirror }

/-- The same spec with another displacement. -/
def displaced (s : StrumText) (displacement : DisplacementText) : StrumText :=
  { s with displacement }

theorem counted_mirror (s : StrumText) : s.mirror.Counted ↔ s.Counted := by
  unfold Counted mirror
  simp [ActionLine.actions_mirror, ActionText.counted_mirror]

end StrumText

/-! ## §2. Groups. -/

namespace Spec

/-- A negative displacement strikes an action as a positive one strikes its mirror image. -/
theorem struck_backwards {displacement : Rat} (forward : 0 < displacement) (a : ActionText) :
    struck (-displacement) a = struck displacement a.mirror := by
  have backward : -displacement < 0 := neg_lt_zero.2 forward
  unfold struck
  rw [if_pos backward, if_neg (not_lt.2 forward.le), a.strokes_mirror]

/-- So the actions come out in the same groups. -/
theorem groupsOf_backwards (offset : Rat) {displacement : Rat} (forward : 0 < displacement)
    (actions : List ActionText) :
    groupsOf offset (-displacement) actions =
      groupsOf offset displacement (actions.map ActionText.mirror) := by
  have moving : displacement ≠ 0 := forward.ne'
  have moving' : -displacement ≠ 0 := neg_ne_zero.2 moving
  have same : struck (-displacement) = fun a => struck displacement a.mirror :=
    funext (struck_backwards forward)
  unfold groupsOf
  rw [if_neg moving, if_neg moving', List.flatMap_map, same]
  unfold strewn
  rw [abs_neg]

/-- The offsets of groups that are strewn depend on their number alone. -/
theorem offsets_groupsOf (offset : Rat) {displacement : Rat} (moving : displacement ≠ 0)
    (actions : List ActionText) :
    (groupsOf offset displacement actions).map Group.offset =
      (List.range (actions.map fun a => a.strokes.length).sum).map
        fun (k : Nat) => offset + k * |displacement| := by
  have count : (actions.flatMap (struck displacement)).length =
      (actions.map fun a => a.strokes.length).sum := by
    simp [List.length_flatMap, length_struck]
  unfold groupsOf strewn
  rw [if_neg moving, List.map_map, ← count, List.range_eq_range', ← List.zipIdx_map_snd,
    List.map_map]
  rfl

end Spec

/-! ## §3. Specs. -/

/-- Where the groups of a pattern are, in order. -/
def Pattern.offsets (p : Pattern) : List Rat := p.groups.map Group.offset

namespace Pattern

/-- What one written spec is compiled to. -/
theorem ofSpecs_strum_write (s : StrumText) : ofSpecs .strum [.text s.write] =
    if s.Counted then .ok ⟨s.groups⟩ else .error .rangeTooLong := by
  rw [ofSpecs_strum_one, s.strumGroups_eq]
  split <;> rfl

/-- A spec with a negative displacement is compiled as its mirror image with the positive one, to
groups at the offsets of the spec itself.  If a run is too long to be counted, it is so in all
three, and none of them is compiled. -/
theorem ofSpecs_backwards (s : StrumText) (back : DisplacementText)
    (forward : 0 < s.displacement.value) (opposite : back.value = -s.displacement.value) :
    let compiled (t : StrumText) := ofSpecs .strum [.text t.write]
    let backwards := compiled (s.displaced back)
    backwards = compiled s.mirror ∧
    backwards.map offsets = (compiled s).map offsets ∧
    (s.Counted → ∃ p, backwards = .ok p) ∧
    (¬ s.Counted → backwards = .error .rangeTooLong) := by
  intro compiled backwards
  have groups : (s.displaced back).groups = s.mirror.groups := by
    show Spec.groupsOf _ back.value _ = Spec.groupsOf _ _ s.line.mirror.actions
    rw [opposite, s.line.actions_mirror]
    exact Spec.groupsOf_backwards _ forward _
  have offsets' : (s.displaced back).groups.map Group.offset = s.groups.map Group.offset := by
    show (Spec.groupsOf _ back.value _).map _ = (Spec.groupsOf _ _ _).map _
    rw [opposite, Spec.offsets_groupsOf _ (neg_ne_zero.2 forward.ne'),
      Spec.offsets_groupsOf _ forward.ne', abs_neg]
    rfl
  have back_eq : backwards = if s.Counted then .ok ⟨(s.displaced back).groups⟩
      else .error .rangeTooLong := ofSpecs_strum_write (s.displaced back)
  have mirror_eq : compiled s.mirror = if s.mirror.Counted then .ok ⟨s.mirror.groups⟩
      else .error .rangeTooLong := ofSpecs_strum_write s.mirror
  have plain_eq : compiled s = if s.Counted then .ok ⟨s.groups⟩ else .error .rangeTooLong :=
    ofSpecs_strum_write s
  rw [back_eq, mirror_eq, plain_eq]
  by_cases counted : s.Counted
  · rw [if_pos counted, if_pos counted, if_pos (s.counted_mirror.2 counted), groups]
    refine ⟨rfl, ?_, fun _ => ⟨_, rfl⟩, fun long => absurd counted long⟩
    rw [← groups]
    exact congrArg Except.ok offsets'
  · -- The runs of a mirror image are as long as those of the spec itself.
    rw [if_neg counted, if_neg counted, if_neg (mt s.counted_mirror.1 counted)]
    exact ⟨rfl, rfl, fun here => absurd here counted, fun _ => rfl⟩

/-- A strum forwards over two actions; the first has a descending range and a single string. -/
def risingStrum : StrumText :=
  fallingStrum.displaced { fallingStrum.displacement with sign := "+", signed := .inr (.inl rfl) }

/-- Backwards it is struck as if each action had been written the other way round. -/
theorem risingStrum_backwards :
    risingStrum.write = " 1 +1/8 \n3-2,5:80 1:0" ∧
      risingStrum.mirror.write = " 1 +1/8 \n5,2-3:80 1:0" ∧
      0 < risingStrum.displacement.value ∧
      fallingStrum.displacement.value = -risingStrum.displacement.value ∧
      ofSpecs .strum [.text " 1 -1/8 \n3-2,5:80 1:0"] =
        ofSpecs .strum [.text " 1 +1/8 \n5,2-3:80 1:0"] := by
  have forward : 0 < risingStrum.displacement.value := by
    decide +kernel
  have opposite : fallingStrum.displacement.value = -risingStrum.displacement.value := by
    decide +kernel
  have mirrored : risingStrum.mirror.write = " 1 +1/8 \n5,2-3:80 1:0" := by
    decide
  have backward : (risingStrum.displaced fallingStrum.displacement).write =
      " 1 -1/8 \n3-2,5:80 1:0" := by
    decide
  refine ⟨by decide, mirrored, forward, opposite, ?_⟩
  rw [← mirrored, ← backward]
  exact (ofSpecs_backwards risingStrum fallingStrum.displacement forward opposite).1

end Pattern
end Plectrum
