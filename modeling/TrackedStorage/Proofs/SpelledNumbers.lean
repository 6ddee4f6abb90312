import Mathlib.Data.List.TakeWhile
import TrackedStorage.Numeral

set_option autoImplicit false

namespace TrackedStorage

namespace Bytes
variable {accepts : UInt8 → Bool} {front back : Bytes}

/-- The longest front of accepted bytes, when it is known where they stop. -/
theorem takeWhile_append_of_stop (all : ∀ byte ∈ front, accepts byte = true)
    (stop : ∀ byte ∈ back.head?, accepts byte = false) :
    (front ++ back).takeWhile accepts = front := by
  rw [List.takeWhile_append_of_pos all]
  cases back with
  | nil => simp
  | cons byte rest => simp [stop byte rfl]

theorem dropWhile_append_of_stop (all : ∀ byte ∈ front, accepts byte = true)
    (stop : ∀ byte ∈ back.head?, accepts byte = false) :
    (front ++ back).dropWhile accepts = back := by
  rw [List.dropWhile_append_of_pos all]
  cases back with
  | nil => rfl
  | cons byte rest => simp [stop byte rfl]

end Bytes

namespace Numeral

/-- The sign in front of the digits of a number, if there is one. -/
inductive Sign where
  | none
  | plus
  | minus
  deriving DecidableEq

namespace Sign

def bytes : Sign → Bytes
  | none => []
  | plus => [43]
  | minus => [45]

def apply (sign : Sign) (magnitude : Nat) : Int :=
  if sign = minus then -magnitude else magnitude

theorem splitSign_append (sign : Sign) {byte : UInt8} (isOne : isDigit byte = true) (rest : Bytes) :
    splitSign (sign.bytes ++ byte :: rest) = (decide (sign = minus), byte :: rest) := by
  cases sign with
  | none => exact splitSign_of_isDigit isOne rest
  | plus => rfl
  | minus => rfl

theorem exists_append_splitSign (text : Bytes) :
    ∃ sign : Sign, text = sign.bytes ++ (splitSign text).2 ∧
      (splitSign text).1 = decide (sign = minus) := by
  unfold splitSign
  split
  · exact ⟨minus, rfl, rfl⟩
  · exact ⟨plus, rfl, rfl⟩
  · exact ⟨none, rfl, rfl⟩

/-- Blanks end where a sign or a digit stands. -/
theorem isSpace_of_head (sign : Sign) {byte : UInt8} (isOne : isDigit byte = true) (rest : Bytes) :
    ∀ first ∈ (sign.bytes ++ byte :: rest).head?, Bytes.isSpace first = false := by
  intro first same
  cases sign with
  | none =>
      cases same
      exact isSpace_of_isDigit isOne
  | plus =>
      cases same
      rfl
  | minus =>
      cases same
      rfl

end Sign

/-- One way to spell a number: blanks, a sign or none, and at least one digit. The digits may begin
with any number of zeros. -/
structure Spelling where
  blanks : Bytes
  sign : Sign
  digits : Bytes
  blank : ∀ byte ∈ blanks, Bytes.isSpace byte = true
  decimal : ∀ byte ∈ digits, isDigit byte = true
  isSome : digits ≠ []

namespace Spelling

def text (spelling : Spelling) : Bytes :=
  spelling.blanks ++ (spelling.sign.bytes ++ spelling.digits)

def number (spelling : Spelling) : Int := spelling.sign.apply (value spelling.digits)

theorem text_ne_nil (spelling : Spelling) : spelling.text ≠ [] := by
  simp [text, spelling.isSome]

def plain (number : Nat) : Spelling where
  blanks := []
  sign := .none
  digits := Numeral.decimal number
  blank := by simp
  decimal _ := isDigit_of_mem_decimal
  isSome := decimal_ne_nil number

@[simp] theorem text_plain (number : Nat) : (plain number).text = Numeral.decimal number := rfl

@[simp] theorem number_plain (number : Nat) : (plain number).number = number :=
  congrArg Int.ofNat (value_decimal number)

/-- Every spelling is read, if no digit behind it makes it a longer one. -/
theorem readInt?_append (spelling : Spelling) {rest : Bytes}
    (stop : ∀ byte ∈ rest.head?, isDigit byte = false) :
    readInt? (spelling.text ++ rest) = some (spelling.number, rest) := by
  obtain ⟨blanks, sign, digits, blank, decimal, isSome⟩ := spelling
  obtain ⟨first, more, rfl⟩ := List.exists_cons_of_ne_nil isSome
  have isOne : isDigit first = true := decimal first List.mem_cons_self
  have dense : ((blanks ++ (sign.bytes ++ first :: more)) ++ rest).dropWhile Bytes.isSpace =
      sign.bytes ++ first :: (more ++ rest) := by
    rw [List.append_assoc, List.append_assoc, List.cons_append]
    exact Bytes.dropWhile_append_of_stop blank (sign.isSpace_of_head isOne _)
  have signed := sign.splitSign_append isOne (more ++ rest)
  have taken := Bytes.takeWhile_append_of_stop decimal stop
  have left := Bytes.dropWhile_append_of_stop decimal stop
  rw [List.cons_append] at taken left
  simp only [readInt?, text, dense, signed, taken, left, number, Sign.apply, decide_eq_true_eq,
    reduceCtorEq, ↓reduceIte]

/-- Whatever is read was spelled. -/
theorem exists_of_readInt? {text rest : Bytes} {number : Int}
    (read : readInt? text = some (number, rest)) :
    ∃ spelling : Spelling, text = spelling.text ++ rest ∧ number = spelling.number ∧
      ∀ byte ∈ rest.head?, isDigit byte = false := by
  obtain ⟨sign, parts, signed⟩ := Sign.exists_append_splitSign (text.dropWhile Bytes.isSpace)
  unfold readInt? at read
  dsimp only at read
  split at read
  · cases read
  · rename_i isSome
    let unsigned := (splitSign (text.dropWhile Bytes.isSpace)).2
    have whole : text.dropWhile Bytes.isSpace =
        sign.bytes ++ (unsigned.takeWhile isDigit ++ unsigned.dropWhile isDigit) := by
      rw [List.takeWhile_append_dropWhile]
      exact parts
    have stop := List.head?_dropWhile_not isDigit unsigned
    rw [Option.some_inj, Prod.mk.injEq] at read
    refine ⟨⟨text.takeWhile Bytes.isSpace, sign, unsigned.takeWhile isDigit,
      fun _ => List.mem_takeWhile_imp, fun _ => List.mem_takeWhile_imp, isSome⟩, ?_, ?_, ?_⟩
    · rw [← read.2, Spelling.text, List.append_assoc, List.append_assoc, ← whole,
        List.takeWhile_append_dropWhile]
    · rw [← read.1, Spelling.number, Sign.apply, signed]
      simp only [decide_eq_true_eq]
      rfl
    · intro byte first
      rw [← read.2, Option.mem_def] at first
      rw [first] at stop
      exact stop

theorem readInt?_eq_some_iff {text rest : Bytes} {number : Int} :
    readInt? text = some (number, rest) ↔
      ∃ spelling : Spelling, text = spelling.text ++ rest ∧ number = spelling.number ∧
        ∀ byte ∈ rest.head?, isDigit byte = false := by
  refine ⟨exists_of_readInt?, ?_⟩
  rintro ⟨spelling, rfl, rfl, stop⟩
  exact spelling.readInt?_append stop

/-- A text is read as a whole exactly if it is a spelling. -/
theorem readInt?_eq_whole_iff {text : Bytes} {number : Int} :
    readInt? text = some (number, []) ↔
      ∃ spelling : Spelling, text = spelling.text ∧ number = spelling.number := by
  simp [readInt?_eq_some_iff]

end Spelling

end Numeral

end TrackedStorage
