/-
  Plectrum.Text.Letter
  ────────────────────
  **Texts, and the letters they consist of.**

  A letter is a character, or a surrogate that stands alone: one of the codes from U+D800
  to U+DFFF, which are halves of characters and no characters.  What is read may hold such
  a half, and it is kept as it is.  A text is a list of letters, so the pieces of a text are
  texts again, and lengths and places count letters.
-/

namespace Plectrum

/-- A letter of a text. -/
inductive Letter where
  | char (c : Char)
  /-- A surrogate that stands alone, by its place among the surrogates. -/
  | lone (place : Fin 0x800)
  deriving Repr, DecidableEq, Inhabited

/-- A text. -/
abbrev Text := List Letter

namespace Letter

instance : Coe Char Letter := ⟨.char⟩

/-! ## §1. Codes. -/

/-- The code of the first surrogate. -/
def firstSurrogate : Nat := 0xD800

/-- The code of a letter. -/
def code : Letter → Nat
  | .char c => c.toNat
  | .lone place => firstSurrogate + place

/-- The letter with a code; beyond the last character there is none. -/
def ofCode? (code : Nat) : Option Letter :=
  if h : code.isValidChar then some (.char (Char.ofNatAux code h))
  else if h : code - firstSurrogate < 0x800 then some (.lone ⟨code - firstSurrogate, h⟩)
  else none

/-- Whether a letter is a surrogate that stands alone. -/
def isLone : Letter → Bool
  | .char _ => false
  | .lone _ => true

/-- A surrogate that stands for a byte which is no text. -/
def isLoneByte (l : Letter) : Bool := 0xDC80 ≤ l.code && l.code ≤ 0xDCFF

example : (ofCode? 0x1F3B8).map code = some 0x1F3B8 := by decide
example : (ofCode? 0xD83C).map isLone = some true := by decide
example : ofCode? 0x110000 = none := by decide

/-! ## §2. Characters. -/

/-- Whether a letter is a character of a class. -/
def is (p : Char → Bool) : Letter → Bool
  | .char c => p c
  | .lone _ => false

/-- Change a letter that is a character. -/
def map (f : Char → Char) : Letter → Letter
  | .char c => .char (f c)
  | l => l

/-- The bytes of a letter.  A surrogate that stands alone has one byte, the last of its code. -/
def bytes : Letter → List UInt8
  | .char c => String.utf8EncodeChar c
  | l => [UInt8.ofNat l.code]

/-- The surrogate that stands for a byte which is no text. -/
def ofByte (b : UInt8) : Letter := .lone ⟨0x400 + b.toNat, by have := b.toNat_lt; omega⟩

end Letter

namespace Text

/-! ## §3. Texts. -/

/-- The text that a string of characters is. -/
def ofString (s : String) : Text := s.toList.map .char

instance : Coe String Text := ⟨ofString⟩

/-- The bytes of a text. -/
def bytes (t : Text) : List UInt8 := t.flatMap Letter.bytes

/-- The text of bytes; a byte that belongs to no character becomes a surrogate. -/
def ofBytes (bytes : List UInt8) : Text :=
  match bytes with
  | [] => []
  | b :: rest =>
    -- No character has more than four bytes.
    match (ByteArray.mk (bytes.take 4).toArray).utf8DecodeChar? 0 with
    | some c => .char c :: ofBytes (rest.drop (c.utf8Size - 1))
    | none => .ofByte b :: ofBytes rest
termination_by bytes.length
decreasing_by all_goals (simp only [List.length_cons, List.length_drop]; omega)

/-- A text with its capital ASCII letters in lower case. -/
def toLower (t : Text) : Text := t.map (Letter.map Char.toLower)

/-- Texts with something between them. -/
def joined (between : Text) : List Text → Text
  | [] => []
  | [t] => t
  | t :: rest => t ++ between ++ joined between rest

/-- The first lone surrogates of a text that are not `allowed`, up to the end of their run,
with where they stand. -/
def loneRun? (allowed : Letter → Bool) (t : Text) : Option (Text × Nat) :=
  let fits := fun l => !l.isLone || allowed l
  match t.dropWhile fits with
  | [] => none
  | rest => some (rest.takeWhile Letter.isLone, (t.takeWhile fits).length)

example : bytes (.ofByte 0xE9 :: "é") = [0xE9, 0xC3, 0xA9] := by decide
example : ofBytes [0xE9, 0xC3, 0xA9] = .ofByte 0xE9 :: ofString "é" := by cbv

end Text
end Plectrum
