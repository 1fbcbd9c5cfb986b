/-
  Plectrum.Chance.Twister
  ───────────────────────
  **The Mersenne Twister MT19937.**

  A generator of 32-bit words with a state of 624 words.  A seed is cut into words,
  least significant first, which are mixed into the state twice.  A unit draw takes
  53 bits of two words.
-/
import Plectrum.Chance.Source

namespace Plectrum

/-- The state of a generator: its words, and how many of them are used up. -/
structure Twister where
  words : Array UInt32
  used : Nat
  deriving Repr

namespace Twister

/-! ## §1. Seeding. -/

/-- The number of words of the state. -/
def size : Nat := 624

/-- The word at an index; every state has them all. -/
def word (words : Array UInt32) (i : Nat) : UInt32 := words.getD i 0

/-- A word folded onto itself, as both seeding steps use it. -/
def folded (w : UInt32) : UInt32 := w ^^^ (w >>> 30)

/-- The state that one word seeds. -/
def ofWord (seed : UInt32) : Array UInt32 :=
  (List.range (size - 1)).foldl
    (fun words i => words.push (1812433253 * folded (word words i) + UInt32.ofNat (i + 1)))
    #[seed]

/-- The words of a number, least significant first, at least one. -/
def wordsOfNat (n : Nat) : List UInt32 :=
  if n < twoTo 32 then [UInt32.ofNat n]
  else UInt32.ofNat (n % twoTo 32) :: wordsOfNat (n / twoTo 32)
termination_by n
decreasing_by
  have h1 : 1 < twoTo 32 := by decide
  exact Nat.div_lt_self (by omega) h1

/-- A state being mixed, with the index of the next word. -/
structure Mixing where
  words : Array UInt32
  index : Nat

/-- Put a word at the index and go on; after the last word the first takes its value. -/
def Mixing.put (m : Mixing) (w : UInt32) : Mixing :=
  let words := m.words.setIfInBounds m.index w
  if m.index + 1 < size then ⟨words, m.index + 1⟩
  else ⟨words.setIfInBounds 0 (word words (size - 1)), 1⟩

/-- The word at the index, crossed with a multiple of the word before it. -/
def Mixing.crossed (m : Mixing) (factor : UInt32) : UInt32 :=
  word m.words m.index ^^^ (folded (word m.words (m.index - 1)) * factor)

/-- Mix the words of a key into the state, from the first on again and again, so that
every word of the state and of the key is reached. -/
def mixKey (key : Array UInt32) (m : Mixing) : Mixing :=
  (List.range (max size key.size)).foldl
    (fun m step =>
      let j := step % key.size
      m.put (m.crossed 1664525 + word key j + UInt32.ofNat j))
    m

/-- Mix the state once more, without a key. -/
def mixAgain (m : Mixing) : Mixing :=
  (List.range (size - 1)).foldl
    (fun m _ => m.put (m.crossed 1566083941 - UInt32.ofNat m.index))
    m

/-- The generator with a number as its seed. -/
def ofSeed (seed : Nat) : Twister :=
  let key := (wordsOfNat seed).toArray
  let mixed := mixAgain (mixKey key ⟨ofWord 19650218, 1⟩)
  ⟨mixed.words.setIfInBounds 0 0x80000000, size⟩

/-! ## §2. Drawing. -/

/-- The word that replaces the one at index `i`. -/
def twisted (words : Array UInt32) (i : Nat) : UInt32 :=
  let high := word words i &&& 0x80000000
  let low := word words ((i + 1) % size) &&& 0x7fffffff
  let mixed := high ||| low
  word words ((i + 397) % size) ^^^ (mixed >>> 1)
    ^^^ (if mixed &&& 1 = 1 then 0x9908b0df else 0)

/-- Replace all words, in order. -/
def twist (words : Array UInt32) : Array UInt32 :=
  (List.range size).foldl (fun words i => words.setIfInBounds i (twisted words i)) words

/-- Spread the bits of a word. -/
def tempered (w : UInt32) : UInt32 :=
  let w := w ^^^ (w >>> 11)
  let w := w ^^^ ((w <<< 7) &&& 0x9d2c5680)
  let w := w ^^^ ((w <<< 15) &&& 0xefc60000)
  w ^^^ (w >>> 18)

/-- The next word. -/
def next (t : Twister) : UInt32 × Twister :=
  -- When all words are used up, a new generation takes their place.
  let t := if t.used < size then t else ⟨twist t.words, 0⟩
  (tempered (word t.words t.used), { t with used := t.used + 1 })

/-- The 53 bits of a unit draw. -/
def bits53 (t : Twister) : Nat × Twister :=
  let (a, t) := t.next
  let (b, t) := t.next
  -- 27 bits of the first word and 26 of the second.
  ((a >>> 5).toNat * twoTo 26 + (b >>> 6).toNat, t)

/-- A draw from zero up to, but not including, one. -/
def unit (t : Twister) : Binary64 × Twister :=
  let (bits, t) := t.bits53
  (.finite false (bits * twoTo (1074 - 53)), t)

/-- The point of the interval from `-bound` to `bound` that a unit draw picks. -/
def pick (bound u : Binary64) : Binary64 :=
  bound.neg.add ((bound.sub bound.neg).mul u)

instance : ChanceSource Twister where
  spread bound t :=
    let (u, t) := t.unit
    (pick bound u, t)

end Twister
end Plectrum
