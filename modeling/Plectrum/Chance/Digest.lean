/-
  Plectrum.Chance.Digest
  ──────────────────────
  **The digest SHA-512.**

  A text that seeds a source of chance is mixed by a digest of its bytes, so that
  similar texts seed differently.  The digest cuts the padded bytes into blocks of sixteen
  words; each block drives eighty rounds on eight registers.  The constants are the
  first bits of the fractions of roots of the smallest primes, and are computed as such.
-/
import Plectrum.Bytes

namespace Plectrum.Digest

/-! ## §1. Constants. -/

/-- Whether only one and itself divide a number. -/
def isPrime (n : Nat) : Bool := 2 ≤ n && (List.range n).all fun d => d < 2 || n % d != 0

/-- The eighty smallest primes; the last of them is 409. -/
def primes : List Nat := (List.range 410).filter isPrime

/-- The number of bits of a root with 64 bits after the point. -/
def rootBits : Nat := 68

/-- The largest number whose `k`-th power is at most `n`, bit by bit. -/
def root (k n : Nat) : Nat :=
  (List.range rootBits).reverse.foldl
    (fun r bit => if Nat.pow (r + twoTo bit) k ≤ n then r + twoTo bit else r) 0

/-- The first 64 bits of the fraction of the `k`-th root of `p`. -/
def rootFraction (k p : Nat) : UInt64 := UInt64.ofNat (root k (p * twoTo (64 * k)))

/-- A constant for each round: cube roots. -/
def roundConstants : List UInt64 := primes.map (rootFraction 3)

/-! ## §2. Rounds. -/

/-- Turn the bits of a word to the right. -/
def turned (w : UInt64) (n : UInt64) : UInt64 := (w >>> n) ||| (w <<< (64 - n))

/-- The word at an index of a schedule. -/
def wordAt (schedule : Array UInt64) (i : Nat) : UInt64 := schedule.getD i 0

/-- The next word of a schedule, from those sixteen, fifteen, seven and two before it. -/
def nextWord (schedule : Array UInt64) : UInt64 :=
  let i := schedule.size
  let early := wordAt schedule (i - 15)
  let late := wordAt schedule (i - 2)
  wordAt schedule (i - 16) + (turned early 1 ^^^ turned early 8 ^^^ (early >>> 7))
    + wordAt schedule (i - 7) + (turned late 19 ^^^ turned late 61 ^^^ (late >>> 6))

/-- The words of all rounds: those of the block, then mixed ones. -/
def schedule (block : List UInt64) : List UInt64 :=
  ((List.range (roundConstants.length - block.length)).foldl
    (fun words _ => words.push (nextWord words)) block.toArray).toList

/-- The eight registers. -/
structure Registers where
  a : UInt64
  b : UInt64
  c : UInt64
  d : UInt64
  e : UInt64
  f : UInt64
  g : UInt64
  h : UInt64

/-- One round, with the sum of its constant and its word. -/
def Registers.round (r : Registers) (w : UInt64) : Registers :=
  let choice := (r.e &&& r.f) ^^^ (~~~r.e &&& r.g)
  let majority := (r.a &&& r.b) ^^^ (r.a &&& r.c) ^^^ (r.b &&& r.c)
  let first := r.h + (turned r.e 14 ^^^ turned r.e 18 ^^^ turned r.e 41) + choice + w
  let second := (turned r.a 28 ^^^ turned r.a 34 ^^^ turned r.a 39) + majority
  ⟨first + second, r.a, r.b, r.c, r.d + first, r.e, r.f, r.g⟩

/-- The registers as a list. -/
def Registers.toList (r : Registers) : List UInt64 := [r.a, r.b, r.c, r.d, r.e, r.f, r.g, r.h]

/-- Word by word, the sum of the registers with others. -/
def Registers.plus (r s : Registers) : Registers :=
  ⟨r.a + s.a, r.b + s.b, r.c + s.c, r.d + s.d, r.e + s.e, r.f + s.f, r.g + s.g, r.h + s.h⟩

/-- The registers before the first block: square roots of the first eight primes. -/
def start : Registers :=
  let word := rootFraction 2
  ⟨word 2, word 3, word 5, word 7, word 11, word 13, word 17, word 19⟩

/-- The registers after a block. -/
def absorb (r : Registers) (block : List UInt64) : Registers :=
  r.plus (((roundConstants.zip (schedule block)).map fun (k, w) => k + w).foldl .round r)

/-! ## §3. Blocks. -/

/-- Cut a list into pieces of a size, at most `most` of them. -/
def pieces {α : Type} (size : Nat) : (most : Nat) → List α → List (List α)
  | 0, _ => []
  | most + 1, xs => if xs.isEmpty then [] else xs.take size :: pieces size most (xs.drop size)

/-- The bytes of a block. -/
def blockBytes : Nat := 128

/-- Bytes with one set bit, zeros up to a whole block, and the count of bits at its end. -/
def padded (bytes : List UInt8) : List UInt8 :=
  let zeros := (blockBytes - (bytes.length + 17) % blockBytes) % blockBytes
  bytes ++ 0x80 :: List.replicate zeros 0 ++ Bytes.bigEndian 16 (8 * bytes.length)

/-- The words of a list of bytes. -/
def wordsOf (bytes : List UInt8) : List UInt64 :=
  (pieces 8 bytes.length bytes).map fun piece => UInt64.ofNat (Bytes.number piece)

/-- The 64 bytes of the digest. -/
def sha512 (bytes : List UInt8) : List UInt8 :=
  let words := wordsOf (padded bytes)
  ((pieces 16 words.length words).foldl absorb start).toList.flatMap
    fun w => Bytes.bigEndian 8 w.toNat

end Plectrum.Digest
