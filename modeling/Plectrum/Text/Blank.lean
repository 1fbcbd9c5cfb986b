/-
  Plectrum.Text.Blank
  ───────────────────
  **Blanks, words and lines of a text.**

  Specs, chords and tabs are cut at blanks.  A blank is any letter that
  Unicode counts as white space, together with the four separators U+001C to
  U+001F; a line ends at any of the line and paragraph breaks.  All functions
  work on lists of letters, by structural recursion.
-/
import Plectrum.Text.Letter

namespace Plectrum.Text

/-! ## §1. Character classes. -/

/-- White space. -/
def isBlank (l : Letter) : Bool :=
  let n := l.code
  (9 ≤ n && n ≤ 13) || (28 ≤ n && n ≤ 32) || n == 0x85 || n == 0xA0 || n == 0x1680
    || (0x2000 ≤ n && n ≤ 0x200A) || n == 0x2028 || n == 0x2029 || n == 0x202F
    || n == 0x205F || n == 0x3000

/-- The blanks that may surround a number.  The four separators are not among them. -/
def isNumberBlank (l : Letter) : Bool :=
  isBlank l && !(28 ≤ l.code && l.code ≤ 31)

/-- A letter that ends a line; a carriage return and a line feed end one line together. -/
def isLineBreak (l : Letter) : Bool :=
  let n := l.code
  (10 ≤ n && n ≤ 13) || (28 ≤ n && n ≤ 30) || n == 0x85 || n == 0x2028 || n == 0x2029

/-! ## §2. Trimming. -/

/-- Without the letters of a class at both ends. -/
def trimWhere (p : Letter → Bool) (t : Text) : Text :=
  ((t.dropWhile p).reverse.dropWhile p).reverse

/-- Without blanks at both ends. -/
def trim (t : Text) : Text := trimWhere isBlank t

/-! ## §3. Cutting. -/

/-- Put a letter in front of the first of several pieces. -/
def consPiece (l : Letter) : List Text → List Text
  | [] => [[l]]
  | piece :: pieces => (l :: piece) :: pieces

/-- The pieces between the letters of a class: always one more than there are such letters. -/
def splitWhere (p : Letter → Bool) : Text → List Text
  | [] => [[]]
  | l :: t => if p l then [] :: splitWhere p t else consPiece l (splitWhere p t)

/-- The maximal runs of letters that are not blank. -/
def words (t : Text) : List Text :=
  (splitWhere isBlank t).filter (!·.isEmpty)

/-- The lines of a text.  A line break at the end opens no further line. -/
def lines : Text → List Text
  | [] => []
  | .char '\r' :: .char '\n' :: t => [] :: lines t
  | l :: t => if isLineBreak l then [] :: lines t else consPiece l (lines t)

/-! ## §4. What cutting keeps. -/

theorem splitWhere_ne_nil (p : Letter → Bool) (t : Text) : splitWhere p t ≠ [] := by
  cases t with
  | nil => simp [splitWhere]
  | cons l t =>
    simp only [splitWhere]
    split
    · simp
    · cases splitWhere p t <;> simp [consPiece]

/-- No piece holds a letter of the class. -/
theorem not_of_mem_splitWhere (p : Letter → Bool) (t : Text) :
    ∀ piece ∈ splitWhere p t, ∀ l ∈ piece, p l = false := by
  induction t with
  | nil => simp [splitWhere]
  | cons l t ih =>
    intro piece hpiece d hd
    simp only [splitWhere] at hpiece
    split at hpiece
    · rcases List.mem_cons.1 hpiece with rfl | h
      · simp at hd
      · exact ih piece h d hd
    · rename_i hc
      cases hs : splitWhere p t with
      | nil => exact absurd hs (splitWhere_ne_nil p t)
      | cons first rest =>
        rw [hs, consPiece] at hpiece
        rcases List.mem_cons.1 hpiece with rfl | h
        · rcases List.mem_cons.1 hd with rfl | hd
          · simpa using hc
          · exact ih first (by rw [hs]; exact List.mem_cons_self) d hd
        · exact ih piece (by rw [hs]; exact List.mem_cons_of_mem _ h) d hd

/-- A text without such letters is one piece. -/
theorem splitWhere_of_none {p : Letter → Bool} {t : Text} (h : ∀ l ∈ t, p l = false) :
    splitWhere p t = [t] := by
  induction t with
  | nil => rfl
  | cons l t ih =>
    rw [splitWhere, h l List.mem_cons_self, ih fun d hd => h d (List.mem_cons_of_mem _ hd)]
    rfl

/-- What stands in front of the first such letter is the first piece. -/
theorem splitWhere_append {p : Letter → Bool} {front : Text} {l : Letter}
    (h : ∀ d ∈ front, p d = false) (hc : p l = true) (rest : Text) :
    splitWhere p (front ++ l :: rest) = front :: splitWhere p rest := by
  induction front with
  | nil => simp [splitWhere, hc]
  | cons d front ih =>
    rw [List.cons_append, splitWhere, h d List.mem_cons_self,
      ih fun e he => h e (List.mem_cons_of_mem _ he)]
    rfl

/-- One piece more than there are such letters. -/
theorem length_splitWhere (p : Letter → Bool) (t : Text) :
    (splitWhere p t).length = t.countP p + 1 := by
  induction t with
  | nil => rfl
  | cons l t ih =>
    rw [splitWhere, List.countP_cons]
    cases hc : p l with
    | true => simp [ih]
    | false =>
      cases hs : splitWhere p t with
      | nil => exact absurd hs (splitWhere_ne_nil p t)
      | cons first rest =>
        rw [hs] at ih
        simpa [consPiece] using ih

example : words " a  bc " = (["a", "bc"] : List Text) := by decide
example : lines "a\r\nb\n" = (["a", "b"] : List Text) := by decide

end Plectrum.Text
