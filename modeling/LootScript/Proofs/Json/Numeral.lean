import LootScript.Proofs.Json.Scanning
import LootScript.Proofs.Json.Shortest
import Mathlib.Data.List.TakeWhile

/-!
# Reading numerals back

An integer that has been printed is read as itself, and so is a double: its shortest numeral denotes
it, and none of its numerals has more digits than are weighed. Where the digits stand does not
matter, since zeros at their end count as much as the exponent does.
-/
namespace LootScript

namespace Json

variable {digits whole fraction rest : List Char} {c : Char} {negative : Bool}

/-! ## Digits -/

theorem isDigit_eq (c : Char) : isDigit c = c.isDigit := by
  simp only [isDigit, Char.isDigit, Char.le_def, ge_iff_le, Bool.decide_and]

theorem isLetter_of_isDigit (digit : isDigit c = true) : isLetter c = true := by
  have other (d : Char) (nondigit : isDigit d = false) : c ≠ d := by
    rintro rfl
    rw [digit] at nondigit
    cases nondigit
  have unmarked : punctuation? c = none := by
    unfold punctuation?
    split <;> first | rfl | cases digit
  simp [isLetter, endsWord, isBlank, unmarked, other ' ' rfl, other '\n' rfl, other '\r' rfl,
    other '\t' rfl, other '"' rfl]

theorem isDigit_of_mem_toDigits {n : Nat} (mem : c ∈ Nat.toDigits 10 n) : isDigit c = true := by
  rw [isDigit_eq]
  exact Nat.isDigit_of_mem_toDigits (by decide) (by decide) mem

theorem naturalOf_eq (digits : List Char) : naturalOf digits = Nat.ofDigitChars 10 digits 0 := rfl

theorem naturalOf_toDigits (n : Nat) : naturalOf (Nat.toDigits 10 n) = n := by
  rw [naturalOf_eq, Nat.ofDigitChars_ten_toDigits]

theorem naturalOf_append (digits others : List Char) :
    naturalOf (digits ++ others) = naturalOf digits * 10 ^ others.length + naturalOf others := by
  rw [naturalOf_eq, Nat.ofDigitChars_append, Nat.ofDigitChars_eq_ofDigitChars_zero, Nat.mul_comm]
  rfl

theorem naturalOf_zeros (n : Nat) : naturalOf (List.replicate n '0') = 0 := by
  rw [naturalOf_eq, Nat.ofDigitChars_replicate_zero, Nat.mul_zero]

theorem naturalOf_zeros_append (n : Nat) (digits : List Char) :
    naturalOf (List.replicate n '0' ++ digits) = naturalOf digits := by
  rw [naturalOf_append, naturalOf_zeros, Nat.zero_mul, Nat.zero_add]

theorem naturalOf_append_zeros (digits : List Char) (n : Nat) :
    naturalOf (digits ++ List.replicate n '0') = naturalOf digits * 10 ^ n := by
  rw [naturalOf_append, naturalOf_zeros, List.length_replicate, Nat.add_zero]

/-- Zeros, and what comes after them. -/
theorem exists_zeros_append (digits : List Char) :
    ∃ k, digits = List.replicate k '0' ++ digits.dropWhile (· = '0') := by
  have zeros : digits.takeWhile (· = '0') =
      List.replicate (digits.takeWhile (· = '0')).length '0' :=
    List.eq_replicate_of_mem fun _ mem => by simpa using List.mem_takeWhile_imp mem
  exact ⟨_, by rw [← zeros, List.takeWhile_append_dropWhile]⟩

/-- Zeros, and what comes before them. -/
theorem exists_append_zeros (digits : List Char) :
    ∃ k, digits = (digits.reverse.dropWhile (· == '0')).reverse ++ List.replicate k '0' := by
  obtain ⟨k, parted⟩ := exists_zeros_append digits.reverse
  rw [List.reverse_eq_iff, List.reverse_append, List.reverse_replicate] at parted
  exact ⟨k, parted⟩

theorem naturalOf_dropWhile (digits : List Char) :
    naturalOf (digits.dropWhile (· = '0')) = naturalOf digits := by
  obtain ⟨k, whole⟩ := exists_zeros_append digits
  conv => rhs; rw [whole, naturalOf_zeros_append]

theorem head?_toDigits {n : Nat} (positive : 0 < n) : (Nat.toDigits 10 n).head? ≠ some '0' := by
  induction n using Nat.strongRecOn with
  | ind n ih =>
    rw [Nat.toDigits_eq_if (by decide)]
    split
    · next small =>
      have nonzero : ∀ k < 10, 0 < k → Nat.digitChar k ≠ '0' := by decide
      simpa using nonzero n small positive
    · next large =>
      have leading := ih (n / 10) (by omega) (by omega)
      rwa [List.head?_append_of_ne_nil _ Nat.toDigits_ne_nil]

/-! ## Numerals of integers -/

/-- What a numeral starts with: digits, and no zero before others. -/
structure IsWhole (whole : List Char) : Prop where
  nonempty : whole ≠ []
  digit : ∀ c ∈ whole, isDigit c = true
  unpadded : whole.head? = some '0' → whole.length = 1

theorem isWhole_toDigits (n : Nat) : IsWhole (Nat.toDigits 10 n) where
  nonempty := Nat.toDigits_ne_nil
  digit _ mem := isDigit_of_mem_toDigits mem
  unpadded zero := by
    obtain rfl | positive := Nat.eq_zero_or_pos n
    · rfl
    · exact absurd zero (head?_toDigits positive)

/-- Digits are told from what comes after them. -/
theorem takeWhile_digits (digit : ∀ c ∈ digits, isDigit c = true)
    (stops : rest.takeWhile isDigit = []) :
    (digits ++ rest).takeWhile isDigit = digits ∧ (digits ++ rest).dropWhile isDigit = rest := by
  have whole : rest.dropWhile isDigit = rest := by
    have parted := List.takeWhile_append_dropWhile (p := isDigit) (l := rest)
    rwa [stops, List.nil_append] at parted
  rw [List.takeWhile_append_of_pos digit, List.dropWhile_append_of_pos digit, stops, whole,
    List.append_nil]
  exact ⟨rfl, rfl⟩

/-- The sign of a numeral. -/
def sign (negative : Bool) : List Char := if negative then ['-'] else []

/-- A number is read with the sign before it. -/
theorem word?_signed {value : Json} (read : unsignedNumber? negative rest = some value) :
    word? (sign negative ++ rest) = some value := by
  cases negative with
  | true => exact read
  | false =>
    rw [sign, if_neg nofun, List.nil_append]
    unfold word?
    -- No other word starts with a digit.
    split <;> first | exact read | simp [unsignedNumber?, isDigit] at read

theorem unsignedNumber?_whole (whole : IsWhole digits) :
    unsignedNumber? negative digits =
      ofInteger? (if negative then -naturalOf digits else naturalOf digits) := by
  have nothing : ([] : List Char).takeWhile isDigit = [] := rfl
  obtain ⟨all, none⟩ := takeWhile_digits whole.digit nothing
  rw [List.append_nil] at all none
  have accepted : ¬ (digits.isEmpty ∨ digits.head? = some '0' ∧ digits.length ≠ 1) := by
    simpa [whole.nonempty] using whole.unpadded
  simp only [unsignedNumber?, all, none, if_neg accepted]
  rfl

theorem ofInteger?_value (n : Integer64) : ofInteger? n.value = some (.int n) := dif_pos n.fits

theorem toList_toString (n : Int) :
    (toString n).toList = sign (n < 0) ++ Nat.toDigits 10 n.natAbs := by
  rw [Int.toString_eq_repr, Int.repr_eq_if]
  split
  · next nonnegative =>
    have same : n.toNat = n.natAbs := by omega
    simp [Nat.repr_eq_ofList_toDigits, sign, nonnegative, same]
  · next negative =>
    have same : (-n).toNat = n.natAbs := by omega
    simp [Nat.repr_eq_ofList_toDigits, sign, Int.not_le.mp negative, same]

theorem word?_toString (n : Integer64) : word? (toString n.value).toList = some (.int n) := by
  have value : (if decide (n.value < 0) then -(n.value.natAbs : Int) else n.value.natAbs) =
      n.value := by
    simp only [decide_eq_true_eq]
    split <;> omega
  rw [toList_toString]
  apply word?_signed
  rw [unsignedNumber?_whole (isWhole_toDigits _), naturalOf_toDigits, value, ofInteger?_value]

/-! ## Numerals of doubles -/

theorem double?_of_short (short : ((whole ++ fraction).dropWhile (· = '0')).length ≤ weighedDigits)
    (exponent : Int) : double? negative whole fraction exponent =
      Double.ofDecimal? negative (naturalOf (whole ++ fraction)) (exponent - fraction.length) := by
  have all : isShort ((whole ++ fraction).dropWhile (· = '0')) = true := by
    simp [isShort, short]
  simp only [double?, weighed_of_length_le short, naturalOf_dropWhile, all, sub_self, add_zero,
    true_or, if_true]
  exact bind_pure _

theorem unsignedNumber?_parted {others : List Char} {exponent : Int} (leading : IsWhole whole)
    (more : rest ≠ []) (stops : rest.takeWhile isDigit = [])
    (parted : fraction? rest = some (fraction, others)) (ends : exponent? others = some exponent) :
    unsignedNumber? negative (whole ++ rest) =
      (double? negative whole fraction exponent).map .double := by
  obtain ⟨all, left⟩ := takeWhile_digits leading.digit stops
  have accepted : ¬ (whole.isEmpty ∨ whole.head? = some '0' ∧ whole.length ≠ 1) := by
    simpa [leading.nonempty] using leading.unpadded
  have unfinished : ¬ (rest.isEmpty = true) := by simpa using more
  simp only [unsignedNumber?, all, left, if_neg accepted, if_neg unfinished, parted,
    Option.bind_eq_bind, Option.bind_some, ends]
  exact (Option.map_eq_bind ..).symm

theorem fraction?_point (nonempty : digits ≠ []) (digit : ∀ c ∈ digits, isDigit c = true)
    (stops : rest.takeWhile isDigit = []) :
    fraction? ('.' :: (digits ++ rest)) = some (digits, rest) := by
  obtain ⟨all, left⟩ := takeWhile_digits digit stops
  simp [fraction?, all, left, nonempty]

theorem exponent?_signed (nonempty : digits ≠ []) (digit : ∀ c ∈ digits, isDigit c = true)
    (negative : Bool) : exponent? ('e' :: (if negative then '-' else '+') :: digits) =
      some (if negative then -(naturalOf digits : Int) else naturalOf digits) := by
  have all : digits.all isDigit = true := List.all_eq_true.mpr digit
  cases negative <;> simp [exponent?, nonempty, all]

/-- A numeral with a point: its digits, and the exponent for the last one of them. -/
theorem unsignedNumber?_point {exponent : Int} (leading : IsWhole whole) (nonempty : fraction ≠ [])
    (digit : ∀ c ∈ fraction, isDigit c = true) (stops : rest.takeWhile isDigit = [])
    (ends : exponent? rest = some exponent)
    (short : ((whole ++ fraction).dropWhile (· = '0')).length ≤ weighedDigits) :
    unsignedNumber? negative (whole ++ '.' :: (fraction ++ rest)) =
      (Double.ofDecimal? negative (naturalOf (whole ++ fraction))
        (exponent - fraction.length)).map .double := by
  have parted := fraction?_point nonempty digit stops
  rw [unsignedNumber?_parted leading (List.cons_ne_nil _ _) rfl parted ends, double?_of_short short]

/-- The digits that a double is written with. -/
structure IsCoefficient (digits : List Char) : Prop where
  nonempty : digits ≠ []
  digit : ∀ c ∈ digits, isDigit c = true
  unpadded : digits.head? ≠ some '0'

/-- Whatever part of the digits comes before the point, no zero leads it. -/
theorem IsCoefficient.isWhole (coefficient : IsCoefficient (c :: digits))
    (digit : ∀ c ∈ rest, isDigit c = true) : IsWhole (c :: rest) where
  nonempty := List.cons_ne_nil _ _
  digit := List.forall_mem_cons.mpr ⟨coefficient.digit c List.mem_cons_self, digit⟩
  unpadded zero := absurd zero coefficient.unpadded

/-- Zeros at the front are no digits to weigh. -/
theorem length_dropWhile_zeros_append (k : Nat) (digits : List Char) :
    ((List.replicate k '0' ++ digits).dropWhile (· = '0')).length ≤ digits.length := by
  rw [List.dropWhile_append_of_pos fun _ mem => by simp [List.eq_of_mem_replicate mem]]
  exact List.length_dropWhile_le ..

theorem isDigit_of_mem_zeros {k : Nat} (mem : c ∈ List.replicate k '0') : isDigit c = true := by
  rw [List.eq_of_mem_replicate mem]
  rfl

/-- Below one, zeros fill up the places behind the point. -/
theorem unsignedNumber?_below (coefficient : IsCoefficient digits) {order : Int}
    (small : order < 0) (short : digits.length ≤ weighedDigits) :
    unsignedNumber? negative (Notation10.positional digits order).toList =
      (Double.ofDecimal? negative (naturalOf digits) (order + 1 - digits.length)).map .double := by
  generalize filling : (-order - 1).toNat = k
  have text : (Notation10.positional digits order).toList =
      ['0'] ++ '.' :: (List.replicate k '0' ++ digits ++ []) := by
    simp [Notation10.positional, small, filling]
  have digit : ∀ c ∈ List.replicate k '0' ++ digits, isDigit c = true := by
    intro c mem
    obtain zero | mem := List.mem_append.mp mem
    · exact isDigit_of_mem_zeros zero
    · exact coefficient.digit c mem
  have padded : ['0'] ++ (List.replicate k '0' ++ digits) = List.replicate (k + 1) '0' ++ digits :=
    rfl
  have significant := (length_dropWhile_zeros_append (k + 1) digits).trans short
  have exponent : (0 : Int) - (List.replicate k '0' ++ digits).length =
      order + 1 - digits.length := by
    simp only [List.length_append, List.length_replicate]
    omega
  have zero : IsWhole ['0'] := isWhole_toDigits 0
  rw [text, unsignedNumber?_point zero (by simp [coefficient.nonempty]) digit rfl rfl significant,
    padded, naturalOf_zeros_append, exponent]

/-- From one upwards, the point stands among the digits, or zeros fill up the places before it. -/
theorem unsignedNumber?_above (coefficient : IsCoefficient digits) {order : Int}
    (large : 0 ≤ order) (short : digits.length ≤ weighedDigits)
    (narrow : order + 2 ≤ weighedDigits) :
    unsignedNumber? negative (Notation10.positional digits order).toList =
      (Double.ofDecimal? negative (naturalOf digits) (order + 1 - digits.length)).map .double := by
  obtain ⟨n, rfl⟩ := Int.eq_ofNat_of_zero_le large
  have unbroken : ¬ (n : Int) < 0 := Int.not_lt.mpr large
  obtain ⟨c, others, rfl⟩ := List.exists_cons_of_ne_nil coefficient.nonempty
  have later := (List.forall_mem_cons.mp coefficient.digit).2
  by_cases inside : n < others.length
  · -- The point stands among the digits.
    have text : (Notation10.positional (c :: others) n).toList =
        (c :: others.take n) ++ '.' :: (others.drop n ++ []) := by
      have filled : n + 1 - (others.length + 1) = 0 := by omega
      have behind : others.drop n ≠ [] := by simpa using inside
      obtain ⟨d, ds, more⟩ := List.exists_cons_of_ne_nil behind
      simp [Notation10.positional, unbroken, filled, more]
    have whole : IsWhole (c :: others.take n) :=
      coefficient.isWhole fun d mem => later d (List.mem_of_mem_take mem)
    have parted : (c :: others.take n) ++ others.drop n = c :: others := by simp
    have exponent : (0 : Int) - (others.drop n).length = n + 1 - (c :: others).length := by
      rw [List.length_drop, List.length_cons]
      omega
    rw [text, unsignedNumber?_point whole (by simpa using inside)
      (fun d mem => later d (List.mem_of_mem_drop mem)) rfl rfl
      ((List.length_dropWhile_le ..).trans (by rwa [parted])), parted, exponent]
  · -- All digits stand before the point, and zeros after them.
    generalize filling : n - others.length = k
    have text : (Notation10.positional (c :: others) n).toList =
        (c :: (others ++ List.replicate k '0')) ++ '.' :: (['0'] ++ []) := by
      have used : others.length ≤ n := Nat.le_of_not_lt inside
      simp [Notation10.positional, unbroken, List.drop_eq_nil_of_le used,
        List.take_of_length_le used, filling]
    have whole : IsWhole (c :: (others ++ List.replicate k '0')) := by
      refine coefficient.isWhole fun d mem => ?_
      obtain mem | zero := List.mem_append.mp mem
      · exact later d mem
      · exact isDigit_of_mem_zeros zero
    have padded : (c :: (others ++ List.replicate k '0')) ++ ['0'] =
        (c :: others) ++ List.replicate (k + 1) '0' := by
      simp [List.replicate_succ']
    have exponent : (0 : Int) - ['0'].length + (k + 1 : Nat) = n + 1 - (c :: others).length := by
      simp only [List.length_cons, List.length_nil]
      omega
    have significant : (((c :: (others ++ List.replicate k '0')) ++ ['0']).dropWhile
        (· = '0')).length ≤ weighedDigits := by
      refine (List.length_dropWhile_le ..).trans ?_
      simp only [padded, List.length_append, List.length_replicate, List.length_cons]
      omega
    have zero : ∀ c ∈ ['0'], isDigit c = true := List.all_eq_true.mp rfl
    rw [text, unsignedNumber?_point whole (List.cons_ne_nil _ _) zero rfl rfl significant,
      padded, naturalOf_append_zeros, Double.ofDecimal?_shift, exponent]

/-- With an exponent, the point stands behind the first digit, if there are others. -/
theorem unsignedNumber?_scientific (style : Notation10) (coefficient : IsCoefficient digits)
    (order : Int) (short : digits.length ≤ weighedDigits) :
    unsignedNumber? negative (style.scientific digits order).toList =
      (Double.ofDecimal? negative (naturalOf digits) (order + 1 - digits.length)).map .double := by
  obtain ⟨c, others, rfl⟩ := List.exists_cons_of_ne_nil coefficient.nonempty
  have later := (List.forall_mem_cons.mp coefficient.digit).2
  generalize size : List.replicate (style.exponentWidth - (toString order.natAbs).length) '0' ++
    Nat.toDigits 10 order.natAbs = written
  generalize power : 'e' :: (if order < 0 then '-' else '+') :: written = ending
  have ends : exponent? ending = some order := by
    have digit : ∀ d ∈ written, isDigit d = true := by
      rw [← size]
      intro d mem
      obtain zero | mem := List.mem_append.mp mem
      · exact isDigit_of_mem_zeros zero
      · exact isDigit_of_mem_toDigits mem
    have nonempty : written ≠ [] := by
      rw [← size]
      simp [Nat.toDigits_ne_nil]
    have value : naturalOf written = order.natAbs := by
      rw [← size, naturalOf_zeros_append, naturalOf_toDigits]
    have signed := exponent?_signed nonempty digit (order < 0)
    simp only [decide_eq_true_eq, power, value] at signed
    rw [signed]
    split <;> simp only [Option.some.injEq] <;> omega
  have stops : ending.takeWhile isDigit = [] := by
    rw [← power]
    rfl
  have mark : (if order < 0 then "-" else "+").toList = [if order < 0 then '-' else '+'] := by
    split <;> rfl
  have first : IsWhole [c] := coefficient.isWhole (List.forall_mem_nil _)
  have exponent : order - others.length = order + 1 - (c :: others).length := by
    rw [List.length_cons]
    omega
  rw [← exponent]
  -- A single digit is written without a point.
  cases others with
  | nil =>
    have text : (style.scientific [c] order).toList = [c] ++ ending := by
      rw [← power, ← size]
      simp [Notation10.scientific, mark]
    have parted : fraction? ending = some ([], ending) := by
      rw [← power]
      rfl
    have more : ending ≠ [] := by
      rw [← power]
      exact List.cons_ne_nil _ _
    rw [text, unsignedNumber?_parted first more stops parted ends,
      double?_of_short ((List.length_dropWhile_le ..).trans short)]
    rfl
  | cons d ds =>
    have text : (style.scientific (c :: d :: ds) order).toList =
        [c] ++ '.' :: (d :: ds ++ ending) := by
      rw [← power, ← size]
      simp [Notation10.scientific, mark]
    rw [text, unsignedNumber?_point first (List.cons_ne_nil _ _) later stops ends
      ((List.length_dropWhile_le ..).trans short)]
    rfl

/-- Without the zeros at its end, a positive number is a coefficient. -/
theorem isCoefficient_of_toDigits {n k : Nat} (positive : 0 < n)
    (parted : Nat.toDigits 10 n = digits ++ List.replicate k '0') : IsCoefficient digits := by
  have leading := head?_toDigits positive
  have nonempty : digits ≠ [] := by
    rintro rfl
    have some := Nat.toDigits_ne_nil (n := n) (b := 10)
    rw [parted] at leading some
    cases k with
    | zero => exact some rfl
    | succ k => exact leading rfl
  exact
    { nonempty
      digit c mem := isDigit_of_mem_toDigits (parted ▸ List.mem_append_left _ mem)
      unpadded := by rwa [parted, List.head?_append_of_ne_nil _ nonempty] at leading }

/-- A double is read back from its digits, wherever the notation puts them. -/
theorem unsignedNumber?_written {d : Double} {order : Int} (coefficient : IsCoefficient digits)
    (short : digits.length ≤ weighedDigits)
    (value : Double.ofDecimal? negative (naturalOf digits) (order + 1 - digits.length) = some d) :
    unsignedNumber? negative
      (if numerals.lowest ≤ order ∧ order ≤ numerals.highest then Notation10.positional digits order
        else numerals.scientific digits order).toList = some (.double d) := by
  split
  · next placed =>
    have narrow : order ≤ 15 := placed.2
    obtain below | above := lt_or_ge order 0
    · rw [unsignedNumber?_below coefficient below short, value, Option.map_some]
    · have room : order + 2 ≤ weighedDigits := by
        rw [weighedDigits]
        omega
      rw [unsignedNumber?_above coefficient above short room, value, Option.map_some]
  · rw [unsignedNumber?_scientific numerals coefficient order short, value, Option.map_some]

theorem word?_render (d : Double) : word? (numerals.render d).toList = some (.double d) := by
  have signed : (if d.negative then "-" else "").toList = sign d.negative := by
    rw [sign]
    split <;> rfl
  cases zero : d.isZero with
  | true =>
    have text : (numerals.render d).toList = sign d.negative ++ ['0', '.', '0'] := by
      simp [Notation10.render, zero, signed]
    rw [text]
    apply word?_signed
    obtain ⟨negative, magnitude, finite⟩ := d
    obtain rfl : magnitude = 0 := by simpa [Double.isZero] using zero
    rfl
  | false =>
    have read := Double.isReadFrom_shortest zero
    have few := d.decimalLength_shortest_le
    generalize shortest : d.shortest = n at read few
    generalize trimmed : ((Nat.toDigits 10 n.coefficient).reverse.dropWhile (· == '0')).reverse =
      digits
    generalize place : n.exponent + (Nat.toDigits 10 n.coefficient).length - 1 = order
    have text : (numerals.render d).toList = sign d.negative ++
        (if numerals.lowest ≤ order ∧ order ≤ numerals.highest then
          Notation10.positional digits order else numerals.scientific digits order).toList := by
      simp only [Notation10.render, zero, shortest, trimmed, place, Bool.false_eq_true, if_false,
        String.toList_append, signed]
    obtain ⟨k, parted⟩ := exists_append_zeros (Nat.toDigits 10 n.coefficient)
    rw [trimmed] at parted
    have coefficient : IsCoefficient digits :=
      isCoefficient_of_toDigits (Double.coefficient_pos zero read) parted
    have whole : n.coefficient = naturalOf digits * 10 ^ k := by
      rw [← naturalOf_append_zeros, ← parted, naturalOf_toDigits]
    have length : (Nat.toDigits 10 n.coefficient).length = digits.length + k := by
      rw [parted, List.length_append, List.length_replicate]
    have value := Double.ofDecimal?_of_isReadFrom read
    have exponent : n.exponent + k = order + 1 - digits.length := by
      omega
    -- The zeros that are not written are made up for by the exponent.
    rw [whole, Double.ofDecimal?_shift, exponent] at value
    rw [text]
    refine word?_signed (unsignedNumber?_written coefficient ?_ value)
    rw [Double.decimalLength, length] at few
    rw [weighedDigits]
    omega

/-! ## The letters of words -/

theorem isLetter_or_mem_of_fraction? (read : fraction? digits = some (fraction, rest))
    (mem : c ∈ digits) : isLetter c = true ∨ c ∈ rest := by
  unfold fraction? at read
  split at read
  · next others =>
    dsimp only at read
    split at read
    · cases read
    · obtain ⟨-, rfl⟩ := read
      obtain rfl | mem := List.mem_cons.mp mem
      · exact .inl rfl
      · rw [← List.takeWhile_append_dropWhile (p := isDigit) (l := others)] at mem
        obtain first | later := List.mem_append.mp mem
        · exact .inl (isLetter_of_isDigit (List.mem_takeWhile_imp first))
        · exact .inr later
  · obtain ⟨-, rfl⟩ := read
    exact .inr mem

theorem isLetter_of_exponent? {exponent : Int} (read : exponent? rest = some exponent)
    (mem : c ∈ rest) : isLetter c = true := by
  unfold exponent? at read
  split at read
  · cases mem
  · next mark others =>
    split at read
    next digits parts =>
      rw [Option.ite_none_right_eq_some] at read
      obtain ⟨⟨accepted, -, all⟩, -⟩ := read
      have letter : c ∈ digits → isLetter c = true := fun mem =>
        isLetter_of_isDigit (List.all_eq_true.mp all c mem)
      obtain rfl | mem := List.mem_cons.mp mem
      · obtain rfl | rfl := accepted <;> rfl
      · split at parts <;> cases parts
        · obtain rfl | mem := List.mem_cons.mp mem
          · rfl
          · exact letter mem
        · obtain rfl | mem := List.mem_cons.mp mem
          · rfl
          · exact letter mem
        · exact letter mem

theorem isLetter_of_unsignedNumber? {value : Json}
    (read : unsignedNumber? negative rest = some value) (mem : c ∈ rest) : isLetter c = true := by
  rw [← List.takeWhile_append_dropWhile (p := isDigit) (l := rest)] at mem
  obtain first | later := List.mem_append.mp mem
  · exact isLetter_of_isDigit (List.mem_takeWhile_imp first)
  · simp only [unsignedNumber?] at read
    split at read
    · cases read
    · split at read
      · next ended =>
        rw [List.isEmpty_iff.mp ended] at later
        cases later
      · obtain ⟨⟨fraction, others⟩, parted, read⟩ := Option.bind_eq_some_iff.mp read
        obtain ⟨exponent, ends, -⟩ := Option.bind_eq_some_iff.mp read
        obtain letter | mem := isLetter_or_mem_of_fraction? parted later
        · exact letter
        · exact isLetter_of_exponent? ends mem

theorem isLetter_of_word? {value : Json} (read : word? rest = some value) (mem : c ∈ rest) :
    isLetter c = true := by
  unfold word? at read
  split at read
  · exact List.all_eq_true.mp rfl c mem
  · exact List.all_eq_true.mp rfl c mem
  · exact List.all_eq_true.mp rfl c mem
  · obtain rfl | mem := List.mem_cons.mp mem
    · rfl
    · exact isLetter_of_unsignedNumber? read mem
  · exact isLetter_of_unsignedNumber? read mem

end Json

end LootScript
