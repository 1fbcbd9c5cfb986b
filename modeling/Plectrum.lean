import Plectrum.Main
import Plectrum.Proofs.Atomicity
import Plectrum.Proofs.NoteBalance
import Plectrum.Proofs.Overruns
import Plectrum.Proofs.SongTracks
import Plectrum.Proofs.FailedSaves
import Plectrum.Proofs.SavedFile
import Plectrum.Proofs.FinishOrder
import Plectrum.Proofs.Writable
import Plectrum.Proofs.SameNotes
import Plectrum.Proofs.Interleaving
import Plectrum.Proofs.ClockAccount
import Plectrum.Proofs.OpenPitches
import Plectrum.Proofs.Crescendos
import Plectrum.Proofs.ScoreCalls
import Plectrum.Proofs.Channels
import Plectrum.Proofs.Plucks
import Plectrum.Proofs.Spellings
import Plectrum.Proofs.SteadyStrikes
import Plectrum.Proofs.Grids
import Plectrum.Proofs.Mirrors
import Plectrum.Proofs.Layouts
import Plectrum.Proofs.Continued
import Plectrum.Proofs.MonotoneRamps
import Plectrum.Proofs.RampQueries
import Plectrum.Proofs.LastStrokes
import Plectrum.Proofs.ChordTabs
import Plectrum.Proofs.OptionOrder
import Plectrum.Proofs.FailedRamps
import Plectrum.Proofs.Saves
import Plectrum.Proofs.Metronome
import Plectrum.Proofs.NearestTicks
import Plectrum.Proofs.BeatClock
import Plectrum.Proofs.EqualVolumes
import Plectrum.Proofs.ShiftedMeasures
import Plectrum.Proofs.ClosedNames
import Plectrum.Proofs.StrayKeys
import Plectrum.Proofs.SongPaths
import Plectrum.Proofs.RejectedTabs
import Plectrum.Proofs.DeltaTimes
import Plectrum.Proofs.StrayedTicks
import Plectrum.Proofs.Overtaxing
import Plectrum.Proofs.SelectionGrammar
