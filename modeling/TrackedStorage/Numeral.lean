import TrackedStorage.Bytes

set_option autoImplicit false

namespace TrackedStorage.Numeral

def digit (number : Nat) : UInt8 := UInt8.ofNat (48 + number % 10)

/-- The decimal digits of a number, without leading zeros. -/
def decimal (number : Nat) : Bytes :=
  if number < 10 then [digit number] else decimal (number / 10) ++ [digit number]

def isDigit (byte : UInt8) : Bool := 48 ≤ byte && byte ≤ 57

def value (digits : Bytes) : Nat :=
  digits.foldl (fun front byte => front * 10 + (byte.toNat - 48)) 0

/-- The sign in front of a number, true when it is a minus, and what follows it. -/
def splitSign : Bytes → Bool × Bytes
  | 45 :: rest => (true, rest)
  | 43 :: rest => (false, rest)
  | bytes => (false, bytes)

/-- Reads the longest number at the front, and gives what follows it. Blanks and one sign may
precede the digits, of which there must be one. -/
def readInt? (bytes : Bytes) : Option (Int × Bytes) :=
  let (isNegative, rest) := splitSign (bytes.dropWhile Bytes.isSpace)
  let digits := rest.takeWhile isDigit
  if digits = [] then none
  else
    let magnitude : Int := value digits
    some (if isNegative then -magnitude else magnitude, rest.dropWhile isDigit)

theorem value_append_singleton (digits : Bytes) (byte : UInt8) :
    value (digits ++ [byte]) = value digits * 10 + (byte.toNat - 48) := by
  simp [value, List.foldl_append]

theorem toNat_digit (number : Nat) : (digit number).toNat = 48 + number % 10 := by
  simp only [digit, UInt8.toNat_ofNat']
  omega

theorem isDigit_digit (number : Nat) : isDigit (digit number) = true := by
  have range := toNat_digit number
  simp only [isDigit, Bool.and_eq_true, decide_eq_true_eq, UInt8.le_iff_toNat_le]
  have low : (48 : UInt8).toNat = 48 := rfl
  have high : (57 : UInt8).toNat = 57 := rfl
  omega

/-- Written numbers read back. -/
theorem value_decimal (number : Nat) : value (decimal number) = number := by
  fun_induction decimal number with
  | case1 number small => simp [value, toNat_digit]; omega
  | case2 number large ih =>
      rw [value_append_singleton, ih, toNat_digit]
      omega

theorem decimal_ne_nil (number : Nat) : decimal number ≠ [] := by
  unfold decimal
  split <;> simp

theorem isDigit_of_mem_decimal {number : Nat} {byte : UInt8} (isIn : byte ∈ decimal number) :
    isDigit byte = true := by
  fun_induction decimal number with
  | case1 number small =>
      rw [List.mem_singleton] at isIn
      rw [isIn, isDigit_digit]
  | case2 number large ih =>
      rw [List.mem_append, List.mem_singleton] at isIn
      cases isIn with
      | inl front => exact ih front
      | inr last => rw [last, isDigit_digit]

theorem splitSign_of_isDigit {byte : UInt8} (isOne : isDigit byte = true) (rest : Bytes) :
    splitSign (byte :: rest) = (false, byte :: rest) := by
  have minus : byte ≠ 45 := by
    rintro rfl
    exact absurd isOne (by decide)
  have plus : byte ≠ 43 := by
    rintro rfl
    exact absurd isOne (by decide)
  unfold splitSign
  split
  · rename_i same
    exact absurd (List.cons.inj same).1 minus
  · rename_i same
    exact absurd (List.cons.inj same).1 plus
  · rfl

theorem isSpace_of_isDigit {byte : UInt8} (isOne : isDigit byte = true) :
    Bytes.isSpace byte = false := by
  have low : (48 : UInt8).toNat = 48 := rfl
  have tab : (9 : UInt8).toNat = 9 := rfl
  have cr : (13 : UInt8).toNat = 13 := rfl
  have blank : (32 : UInt8).toNat = 32 := rfl
  simp only [isDigit, Bool.and_eq_true, decide_eq_true_eq, UInt8.le_iff_toNat_le] at isOne
  simp only [Bytes.isSpace, Bool.or_eq_false_iff, beq_eq_false_iff_ne, ne_eq, Bool.and_eq_false_iff,
    decide_eq_false_iff_not, UInt8.le_iff_toNat_le, ← UInt8.toNat_inj]
  omega

end TrackedStorage.Numeral
