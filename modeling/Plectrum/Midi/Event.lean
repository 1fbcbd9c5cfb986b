/-
  Plectrum.Midi.Event
  ───────────────────
  **Events on a timeline, and the time between them.**

  An instrument records events at absolute ticks; a track stores the ticks that
  passed since the event before.  `deltas` goes from the first form to the second and
  refuses to reorder anything; `absolute` goes back.  Events may be written by hand,
  so their values are data of any kind until a track checks them.
-/
import Plectrum.Datum.Arithmetic

namespace Plectrum

/-- What happens at a tick. -/
inductive Happening where
  | noteOn (channel pitch velocity : Datum)
  | noteOff (channel pitch velocity : Datum)
  /-- A tempo in microseconds for each beat. -/
  | setTempo (microseconds : Datum)
  /-- A list of two numbers. -/
  | timeSignature (signature : Datum)
  | trackName (name : Datum)
  | text (content : Datum)
  | programChange (channel program : Datum)
  /-- A kind that no track knows. -/
  | unknown (kind : Datum)
  deriving Repr

/-- The name of the kind of a happening. -/
def Happening.kindName : Happening → Datum
  | .noteOn .. => .text "note_on"
  | .noteOff .. => .text "note_off"
  | .setTempo _ => .text "set_tempo"
  | .timeSignature _ => .text "time_signature"
  | .trackName _ => .text "track_name"
  | .text _ => .text "text"
  | .programChange .. => .text "program_change"
  | .unknown kind => kind

/-- Something that happens at an absolute tick. -/
structure Event where
  tick : Datum
  what : Happening
  deriving Repr

/-- Something at a whole tick. -/
def Event.at (tick : Int) (what : Happening) : Event := ⟨.whole tick, what⟩

namespace Timeline

/-- Pair each event with the ticks since the event before, the first counting from `now`. -/
def deltasFrom : Quantity → List Event → Except Fault (List (Quantity × Event))
  | _, [] => .ok []
  | now, event :: events => do
    let tick ← event.tick.asNumber
    -- The delta is part of the fault, so it is computed first.
    let delta ← tick.sub now
    if tick.lt now then throw (.backwards now delta event.what.kindName tick)
    return (delta, event) :: (← deltasFrom tick events)

/-- Pair each event with the ticks since the event before, or since the start. -/
def deltas (events : List Event) : Except Fault (List (Quantity × Event)) :=
  deltasFrom (.whole 0) events

/-- The ticks that deltas add up to, from `now` on. -/
def absoluteFrom : Quantity → List Datum → Except Fault (List Quantity)
  | _, [] => .ok []
  | now, delta :: rest => do
    let tick ← now.add (← delta.asNumber)
    return tick :: (← absoluteFrom tick rest)

/-- The absolute ticks of a list of deltas. -/
def absolute (ds : List Datum) : Except Fault (List Quantity) :=
  absoluteFrom (.whole 0) ds

end Timeline
end Plectrum
