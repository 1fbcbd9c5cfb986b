/-
  Plectrum.Proofs.Displacements
  ─────────────────────────────
  **Offsets and displacements, as they are written.**

  An `OffsetText` is a decimal without a sign, a `DisplacementText` a whole number, a decimal or a
  fraction with at most one sign.  Both are read as far as they are written, if a blank follows
  them, and have their exact values.

  Main results:
    * `Spec.IsDecimal.plainDecimal?`, `Spec.displacement?_write` — how far they are read;
    * `Spec.offsetValue_write`, `Spec.displacementValue_write` — what they are read as.
-/
import Mathlib.Algebra.Order.Field.Rat
import Mathlib.Tactic.FieldSimp
import Plectrum.Pattern.Spec
import Plectrum.Proofs.Numerals

namespace Plectrum

open Text

/-! ## §1. Offsets. -/

/-- A decimal without a sign: digits, and after a point more of them. -/
structure OffsetText where
  whole : Numeral
  places : Option Numeral

namespace OffsetText

def write (o : OffsetText) : Text := o.whole.digits ++ marked '.' (o.places.map Numeral.digits)

def value (o : OffsetText) : Rat :=
  o.whole.value + match o.places with
    | none => 0
    | some p => (p.value : Rat) / 10 ^ p.digits.length

/-- An offset begins with a digit. -/
theorem exists_head (o : OffsetText) : ∃ l rest, o.write = l :: rest ∧ isDigit l = true := by
  obtain ⟨l, rest, digits, digit⟩ := o.whole.exists_head
  exact ⟨l, rest ++ _, by rw [write, digits]; rfl, digit⟩

end OffsetText

namespace Spec

/-- What may follow a number: nothing that would go on with it. -/
structure Ends (rest : Text) : Prop where
  digit : Stops isDigit rest
  point : Stops (· == '.') rest
  bar : Stops (· == '/') rest

theorem Ends.of_blank {l : Letter} (blank : isBlank l = true) (rest : Text) : Ends (l :: rest) := by
  refine ⟨stops_cons (isDigit_of_isBlank blank) rest, stops_cons ?_ rest, stops_cons ?_ rest⟩
  · refine beq_eq_false_iff_ne.2 ?_
    rintro rfl
    exact absurd blank (by decide)
  · refine beq_eq_false_iff_ne.2 ?_
    rintro rfl
    exact absurd blank (by decide)

/-- A decimal without a sign: digits, and after a point more of them. -/
structure IsDecimal (t whole : Text) (places? : Option Text) : Prop where
  written : t = whole ++ marked '.' places?
  digits : ∀ run ∈ whole :: places?.toList, IsDigits run

section Decimals

variable {t whole read rest : Text} {places? : Option Text}

/-- A decimal begins with a digit. -/
theorem IsDecimal.exists_head (h : IsDecimal t whole places?) :
    ∃ l rest, t = l :: rest ∧ isDigit l = true := by
  obtain ⟨rfl, runs⟩ := h
  obtain ⟨some, digits⟩ := runs whole List.mem_cons_self
  obtain ⟨l, rest, rfl⟩ := List.exists_cons_of_ne_nil some
  exact ⟨l, rest ++ marked '.' places?, rfl, digits l List.mem_cons_self⟩

/-- A decimal is read as far as it goes. -/
theorem IsDecimal.plainDecimal? (h : IsDecimal read whole places?) (ends : Ends rest) :
    plainDecimal? (read ++ rest) = some (read, rest) := by
  obtain ⟨rfl, runs⟩ := h
  obtain ⟨some, digits⟩ := runs whole List.mem_cons_self
  have filled : whole.isEmpty = false := List.isEmpty_eq_false_iff.2 some
  unfold Spec.plainDecimal?
  cases places? with
  | none =>
    dsimp only [marked]
    rw [List.append_nil, takeWhile_run digits ends.digit, dropWhile_run digits ends.digit, filled]
    split
    · next absurd' => cases absurd'
    · split
      · next tail =>
        have point := ends.point (.char '.') rfl
        cases point
      · rfl
  | some places =>
    obtain ⟨some', digits'⟩ := runs places (by simp)
    have filled' : places.isEmpty = false := List.isEmpty_eq_false_iff.2 some'
    have point : Stops isDigit (.char '.' :: (places ++ rest)) := stops_cons (by decide) _
    dsimp only [marked]
    rw [List.append_assoc, List.cons_append, takeWhile_run digits point,
      dropWhile_run digits point, filled]
    simp only [Bool.false_eq_true, if_false]
    rw [takeWhile_run digits' ends.digit, dropWhile_run digits' ends.digit, filled']
    simp

/-- What a text begins with is a decimal, if one is read there at all. -/
theorem isDecimal_of_plainDecimal? (found : plainDecimal? t = some (read, rest)) :
    (∃ whole places?, IsDecimal read whole places?) ∧ t = read ++ rest := by
  obtain ⟨run, tail, rfl, digits, stops⟩ := exists_run isDigit t
  unfold Spec.plainDecimal? at found
  rw [takeWhile_run digits stops, dropWhile_run digits stops] at found
  dsimp only at found
  split at found
  · cases found
  next filled =>
    have nonempty : run ≠ [] := fun none => filled (List.isEmpty_iff.2 none)
    have alone : IsDecimal run run none :=
      ⟨by simp [marked], by simpa [IsDigits] using ⟨nonempty, digits⟩⟩
    split at found
    · next after =>
      obtain ⟨run', tail', rfl, digits', stops'⟩ := exists_run isDigit after
      rw [takeWhile_run digits' stops', dropWhile_run digits' stops'] at found
      split at found
      · next empty =>
        obtain rfl : run' = [] := List.isEmpty_iff.1 empty
        cases found
        exact ⟨⟨_, _, alone⟩, rfl⟩
      · next filled' =>
        have nonempty' : run' ≠ [] := fun none => filled' (List.isEmpty_iff.2 none)
        cases found
        refine ⟨⟨run, some run', rfl, ?_⟩, by simp⟩
        simpa [IsDigits] using ⟨⟨nonempty, digits⟩, nonempty', digits'⟩
    · cases found
      exact ⟨⟨_, _, alone⟩, rfl⟩

end Decimals

theorem isDecimal_write (o : OffsetText) :
    IsDecimal o.write o.whole.digits (o.places.map Numeral.digits) :=
  ⟨rfl, o.whole.isDigits o.places⟩

/-- An offset is read as far as it is written. -/
theorem plainDecimal?_write (o : OffsetText) {rest : Text} (ends : Ends rest) :
    plainDecimal? (o.write ++ rest) = some (o.write, rest) :=
  (isDecimal_write o).plainDecimal? ends

/-- A decimal without long numbers is an offset. -/
theorem IsDecimal.exists_offset {read whole : Text} {places? : Option Text}
    (h : IsDecimal read whole places?) (short : ShortDigits read) :
    ∃ offset : OffsetText, offset.write = read := by
  obtain ⟨rfl, digits⟩ := h
  obtain ⟨n, n?, rfl, rfl⟩ := Numeral.exists_of_marked (by decide) digits short
  exact ⟨⟨n, n?⟩, rfl⟩

theorem offsetValue_write (o : OffsetText) : offsetValue o.write = .ok o.value := by
  have stops : Stops isDigit (marked '.' (o.places.map Numeral.digits)) :=
    stops_marked (by decide) _
  unfold offsetValue OffsetText.write OffsetText.value
  rw [o.whole.takeWhile stops, o.whole.dropWhile stops, o.whole.read]
  cases o.places with
  | none =>
    show Except.ok ((o.whole.value : Rat) + ((0 : Nat) : Rat) / 10 ^ 0) = _
    simp
  | some p =>
    show (naturalOfDigits p.digits >>= _) = _
    rw [p.read]
    rfl

end Spec

/-! ## §2. Displacements. -/

/-- How far a displacement goes: digits, and after a point or a bar more of them. -/
inductive SizeText where
  | whole (n : Numeral)
  | decimal (n places : Numeral)
  | fraction (n denominator : Numeral) (some : denominator.value ≠ 0)

namespace SizeText

/-- The digits in front, and what follows them. -/
def front : SizeText → Numeral
  | .whole n => n
  | .decimal n _ => n
  | .fraction n _ _ => n

def back : SizeText → Text
  | .whole _ => []
  | .decimal _ places => .char '.' :: places.digits
  | .fraction _ denominator _ => .char '/' :: denominator.digits

def write (s : SizeText) : Text := s.front.digits ++ s.back

def value : SizeText → Rat
  | .whole n => n.value
  | .decimal n places => n.value + (places.value : Rat) / 10 ^ places.digits.length
  | .fraction n denominator _ => (n.value : Rat) / denominator.value

theorem stops_back {p : Letter → Bool} (point : p '.' = false) (bar : p '/' = false)
    (s : SizeText) : Stops p s.back := by
  cases s with
  | whole n => exact stops_nil p
  | decimal n places => exact stops_cons point _
  | fraction n denominator _ => exact stops_cons bar _

end SizeText

/-- The signs of a displacement. -/
def Spec.isSign (l : Letter) : Bool := l == '-' || l == '+'

/-- A displacement: at most one sign, and how far it goes. -/
structure DisplacementText where
  sign : Text
  size : SizeText
  signed : sign = [] ∨ sign = [.char '+'] ∨ sign = [.char '-']

namespace DisplacementText

def write (d : DisplacementText) : Text := d.sign ++ d.size.write

def value (d : DisplacementText) : Rat :=
  if d.sign = [.char '-'] then -d.size.value else d.size.value

def zero : DisplacementText := ⟨"", .whole .zero, .inl rfl⟩

theorem value_zero : zero.value = 0 := by decide +kernel

theorem isSign_of_mem (d : DisplacementText) : ∀ l ∈ d.sign, Spec.isSign l = true := by
  rcases d.signed with none | plus | minus
  · rw [none]
    exact nofun
  · rw [plus]
    decide
  · rw [minus]
    decide

theorem length_sign_le (d : DisplacementText) : d.sign.length ≤ 1 := by
  rcases d.signed with none | plus | minus
  · rw [none]
    decide
  · rw [plus]
    decide
  · rw [minus]
    decide

/-- There are no blanks in a displacement. -/
theorem solid (d : DisplacementText) : ∀ l ∈ d.write, isBlank l = false := by
  have digits : ∀ n : Numeral, ∀ l ∈ n.digits, isBlank l = false :=
    fun n l here => isBlank_of_isDigit (n.decimal l here)
  have back : ∀ l ∈ d.size.back, isBlank l = false := by
    cases d.size with
    | whole n => exact nofun
    | decimal n p => exact List.forall_mem_cons.2 ⟨by decide, digits p⟩
    | fraction n p _ => exact List.forall_mem_cons.2 ⟨by decide, digits p⟩
  have sign : ∀ l, Spec.isSign l = true → isBlank l = false := by
    intro l here
    unfold Spec.isSign at here
    rw [Bool.or_eq_true, beq_iff_eq, beq_iff_eq] at here
    rcases here with rfl | rfl
    · decide
    · decide
  intro l here
  rcases List.mem_append.1 here with here | here
  · exact sign l (d.isSign_of_mem l here)
  · rcases List.mem_append.1 here with here | here
    · exact digits _ l here
    · exact back l here

theorem write_ne_nil (d : DisplacementText) : d.write ≠ [] :=
  List.append_ne_nil_of_right_ne_nil _
    (List.append_ne_nil_of_left_ne_nil d.size.front.nonempty _)

end DisplacementText

namespace Text

/-- Digits go on up to a letter that is neither a digit nor a low line. -/
theorem digitTail_run {run rest : Text} (digits : ∀ l ∈ run, isDigit l = true)
    (stops : Stops isDigit rest) (noLine : Stops (· == '_') rest) :
    digitTail (run ++ rest) = (run, rest) := by
  induction run with
  | nil =>
    rw [List.nil_append]
    match rest with
    | [] => rfl
    | [a] =>
      have other := stops a rfl
      show (if isDigit a then ([a], []) else ([], [a])) = _
      rw [other]
      rfl
    | a :: b :: t =>
      have other := stops a rfl
      have line : a ≠ '_' := by simpa using noLine a rfl
      rw [digitTail, if_neg (Bool.eq_false_iff.1 other), if_neg fun both => line both.1]
  | cons a run ih =>
    have digit := digits a List.mem_cons_self
    have later := ih fun l here => digits l (List.mem_cons_of_mem _ here)
    rw [List.cons_append]
    cases tail : run ++ rest with
    | nil =>
      rw [List.append_eq_nil_iff] at tail
      obtain ⟨rfl, rfl⟩ := tail
      rw [digitTail, if_pos digit]
    | cons b t =>
      rw [digitTail, if_pos digit, ← tail, later]

theorem digitRun?_write (n : Numeral) {rest : Text} (stops : Stops isDigit rest)
    (noLine : Stops (· == '_') rest) : digitRun? (n.digits ++ rest) = some (n.digits, rest) := by
  have tail := n.decimal
  obtain ⟨l, digits, same, digit⟩ := n.exists_head
  rw [same] at tail ⊢
  rw [List.cons_append, digitRun?, if_pos digit,
    digitTail_run (fun d here => tail d (List.mem_cons_of_mem _ here)) stops noLine]

/-- The size of a fraction or a decimal that is read. -/
def ratioSize? (body : Text) : Option Rat :=
  match digitRun? body with
  | some (numerator, .char '/' :: tail) =>
    match digitRun? tail with
    | some (denominator, []) =>
      if digitLimit < numerator.length ∨ digitLimit < denominator.length
          ∨ digitsValue denominator = 0 then none
      else some ((digitsValue numerator : Rat) / (digitsValue denominator : Rat))
    | _ => none
  | _ =>
    (decimal? body).bind fun d =>
      if digitLimit < d.integer.length ∨ digitLimit < d.fraction.length
          ∨ digitLimit < d.exponentSize then none
      else some d.toRat

theorem readRatio?_eq (t : Text) :
    readRatio? t = (ratioSize? (signed (trim t)).2).map fun q =>
      if (signed (trim t)).1 then -q else q := rfl

theorem digitRunOrNone_write (n : Numeral) {rest : Text} (stops : Stops isDigit rest)
    (noLine : Stops (· == '_') rest) : digitRunOrNone (n.digits ++ rest) = (n.digits, rest) := by
  unfold digitRunOrNone
  rw [digitRun?_write n stops noLine]
  rfl

/-- A number with places and no exponent is taken apart as it is written. -/
theorem decimal?_write (n : Numeral) (places : Option Numeral) :
    decimal? (n.digits ++ marked '.' (places.map Numeral.digits)) =
      some ⟨n.digits, (places.map Numeral.digits).getD [], 0, 0⟩ := by
  have run : digitRunOrNone (n.digits ++ marked '.' (places.map Numeral.digits)) =
      (n.digits, marked '.' (places.map Numeral.digits)) :=
    digitRunOrNone_write n (stops_marked (by decide) _) (stops_marked (by decide) _)
  unfold decimal?
  rw [run]
  cases places with
  | none => simp [marked, n.isEmpty_digits, exponent?]
  | some p =>
    have run' := digitRunOrNone_write p (stops_nil _) (stops_nil _)
    rw [List.append_nil] at run'
    simp [marked, run', n.isEmpty_digits, exponent?]

theorem Decimal.toRat_plain (integer fraction : Text) :
    Decimal.toRat ⟨integer, fraction, 0, 0⟩ =
      digitsValue integer + (digitsValue fraction : Rat) / 10 ^ fraction.length := by
  have positive : (10 : Rat) ^ fraction.length ≠ 0 := pow_ne_zero _ (by norm_num)
  have value := digitsValue_append integer fraction
  unfold Decimal.toRat
  dsimp only
  rw [value]
  split
  · next none =>
    obtain rfl : fraction = [] := List.length_eq_zero_iff.1 (by omega)
    simp
  · rw [show (-((0 : Int) - (fraction.length : Int))).toNat = fraction.length by omega]
    push_cast
    field_simp

/-- Its size is read exactly, since none of its runs of digits is too long. -/
theorem decimalSize_write (n : Numeral) (places : Option Numeral) :
    ((decimal? (n.digits ++ marked '.' (places.map Numeral.digits))).bind fun d =>
      if digitLimit < d.integer.length ∨ digitLimit < d.fraction.length
          ∨ digitLimit < d.exponentSize then none
      else some d.toRat) =
      some (n.value + (digitsValue ((places.map Numeral.digits).getD []) : Rat) /
        10 ^ ((places.map Numeral.digits).getD []).length) := by
  have short : ((places.map Numeral.digits).getD []).length ≤ digitLimit := by
    cases places with
    | none => exact Nat.zero_le _
    | some p => exact p.short
  rw [decimal?_write, Option.bind_some, if_neg, Decimal.toRat_plain]
  · rfl
  · rintro (long | long | long)
    · exact Nat.not_lt.2 n.short long
    · exact Nat.not_lt.2 short long
    · exact Nat.not_lt_zero _ long

/-- The size of a displacement is read exactly. -/
theorem ratioSize?_write (s : SizeText) : ratioSize? s.write = some s.value := by
  have stops : Stops isDigit s.back := s.stops_back (by decide) (by decide)
  have noLine : Stops (· == '_') s.back := s.stops_back (by decide) (by decide)
  have run := digitRun?_write s.front stops noLine
  have short : ∀ n : Numeral, ¬ digitLimit < n.digits.length := fun n => Nat.not_lt.2 n.short
  unfold ratioSize? SizeText.write
  rw [run]
  cases s with
  | whole n =>
    have read : (decimal? (n.digits ++ [])).bind _ = _ := decimalSize_write n none
    refine read.trans ?_
    simp [SizeText.value, digitsValue, Numeral.value]
  | decimal n p => exact decimalSize_write n (some p)
  | fraction n d some =>
    have alone := digitRun?_write d (stops_nil _) (stops_nil _)
    rw [List.append_nil] at alone
    show (match digitRun? d.digits with
      | Option.some (denominator, []) => _
      | _ => none) = _
    rw [alone]
    show (if digitLimit < n.digits.length ∨ digitLimit < d.digits.length ∨ d.value = 0 then none
      else _) = _
    rw [if_neg (by simp [short, some])]
    rfl

theorem signed_of_digit {t : Text} {l : Letter} (digit : isDigit l = true) :
    signed (l :: t) = (false, l :: t) := by
  unfold signed
  split
  · next minus =>
    cases minus
    exact absurd digit (by decide)
  · next plus =>
    cases plus
    exact absurd digit (by decide)
  · rfl

/-- A written displacement has its exact value. -/
theorem readRatio?_displacement (d : DisplacementText) : readRatio? d.write = some d.value := by
  obtain ⟨l, rest, digits, digit⟩ := d.size.front.exists_head
  have size : d.size.write = l :: (rest ++ d.size.back) := by
    unfold SizeText.write
    rw [digits]
    rfl
  have value := ratioSize?_write d.size
  rw [readRatio?_eq, trim_of_none d.solid]
  unfold DisplacementText.write DisplacementText.value
  rcases d.signed with none | plus | minus
  · rw [none, List.nil_append, size, signed_of_digit digit, ← size, value]
    rfl
  · rw [plus, List.singleton_append]
    show (ratioSize? d.size.write).map _ = _
    rw [value]
    rfl
  · rw [minus, List.singleton_append]
    show (ratioSize? d.size.write).map _ = _
    rw [value]
    rfl

end Text

namespace Spec

/-- After the sign, a displacement is read as far as it is written. -/
theorem size_write (sign : Text) (s : SizeText) {rest : Text} (ends : Ends rest) :
    (match (s.write ++ rest).dropWhile isDigit with
      | l :: tail =>
        let part := tail.takeWhile isDigit
        if (l == '.' || l == '/') && !part.isEmpty then
          some (sign ++ s.front.digits ++ l :: part, tail.dropWhile isDigit)
        else some (sign ++ s.front.digits, l :: tail)
      | [] => some (sign ++ s.front.digits, [])) = some (sign ++ s.write, rest) := by
  unfold SizeText.write
  rw [List.append_assoc]
  have further : ∀ (n p : Numeral) (mark : Letter), isDigit mark = false →
      (n.digits ++ ((mark :: p.digits) ++ rest)).dropWhile isDigit = mark :: (p.digits ++ rest) :=
    fun n p mark other => n.dropWhile (stops_cons other _)
  cases s with
  | whole n =>
    show (match (n.digits ++ rest).dropWhile isDigit with
      | l :: tail => _
      | [] => _) = some (sign ++ (n.digits ++ []), rest)
    rw [n.dropWhile ends.digit, List.append_nil]
    cases rest with
    | nil => rfl
    | cons l tail =>
      have point : (l == .char '.') = false := ends.point l rfl
      have bar : (l == .char '/') = false := ends.bar l rfl
      simp [point, bar, SizeText.front]
  | decimal n p =>
    show (match (n.digits ++ ((.char '.' :: p.digits) ++ rest)).dropWhile isDigit with
      | l :: tail => _
      | [] => _) = _
    rw [further n p (.char '.') (by decide)]
    simp [p.takeWhile ends.digit, p.dropWhile ends.digit, p.isEmpty_digits, SizeText.front,
      SizeText.back]
  | fraction n p some =>
    show (match (n.digits ++ ((.char '/' :: p.digits) ++ rest)).dropWhile isDigit with
      | l :: tail => _
      | [] => _) = _
    rw [further n p (.char '/') (by decide)]
    simp [p.takeWhile ends.digit, p.dropWhile ends.digit, p.isEmpty_digits, SizeText.front,
      SizeText.back]

/-- A displacement is read as far as it is written. -/
theorem displacement?_write (d : DisplacementText) {rest : Text} (ends : Ends rest) :
    displacement? (d.write ++ rest) = some (d.write, rest) := by
  obtain ⟨l, digits, head, digit⟩ := d.size.front.exists_head
  have body : Stops isSign (d.size.write ++ rest) := by
    have other : isSign l = false := by
      by_contra sign
      unfold isSign at sign
      rw [Bool.not_eq_false, Bool.or_eq_true, beq_iff_eq, beq_iff_eq] at sign
      rcases sign with rfl | rfl
      · exact absurd digit (by decide)
      · exact absurd digit (by decide)
    unfold SizeText.write
    rw [head]
    exact stops_cons other _
  have whole : (d.size.write ++ rest).takeWhile isDigit = d.size.front.digits := by
    unfold SizeText.write
    rw [List.append_assoc]
    refine d.size.front.takeWhile ?_
    cases d.size with
    | whole n => exact ends.digit
    | decimal n p => exact stops_cons (by decide) _
    | fraction n p _ => exact stops_cons (by decide) _
  have front : (d.write ++ rest).takeWhile (fun l : Letter => l == '-' || l == '+') = d.sign := by
    show (d.write ++ rest).takeWhile isSign = d.sign
    unfold DisplacementText.write
    rw [List.append_assoc, takeWhile_run d.isSign_of_mem body]
  have back : (d.write ++ rest).dropWhile (fun l : Letter => l == '-' || l == '+') =
      d.size.write ++ rest := by
    show (d.write ++ rest).dropWhile isSign = _
    unfold DisplacementText.write
    rw [List.append_assoc, dropWhile_run d.isSign_of_mem body]
  unfold displacement?
  dsimp only
  rw [front, back, whole, if_neg]
  · exact size_write d.sign d.size ends
  · rintro (two | none)
    · exact Nat.not_lt.2 d.length_sign_le two
    · rw [d.size.front.isEmpty_digits] at none
      cases none

theorem displacementValue_write (d : DisplacementText) :
    displacementValue d.write = .ok d.value := by
  unfold displacementValue
  rw [readRatio?_displacement]

end Spec
end Plectrum
