import Mathlib.Algebra.Group.Nat.Defs
import TrackedStorage.Header

set_option autoImplicit false

namespace TrackedStorage

namespace BigEndian

theorem weight_eq_pow (count : Nat) : weight count = 256 ^ count := by
  induction count with
  | zero => rfl
  | succ count ih => rw [weight, ih, Nat.pow_succ, Nat.mul_comm]

/-- The byte at a place is the digit that as many others follow as there are places behind it. -/
theorem toNat_getD_digits {count place : Nat} (within : place < count) (number : Nat) :
    ((digits count number).getD place 0).toNat = number / 256 ^ (count - 1 - place) % 256 := by
  induction count generalizing place with
  | zero => exact absurd within (Nat.not_lt_zero place)
  | succ count ih =>
      cases place with
      | zero =>
          rw [digits, List.getD_cons_zero, UInt8.toNat_ofNat', weight_eq_pow]
          rfl
      | succ place =>
          have behind : count + 1 - 1 - (place + 1) = count - 1 - place := by omega
          rw [digits, List.getD_cons_succ, ih (Nat.lt_of_succ_lt_succ within), behind]

theorem value_append (front back : Bytes) :
    value (front ++ back) = value front * weight back.length + value back := by
  induction front with
  | nil => simp [value]
  | cons byte rest ih =>
      have factor : weight (rest ++ back).length = weight rest.length * weight back.length := by
        simp only [weight_eq_pow, List.length_append, Nat.pow_add]
      rw [List.cons_append, value, value, ih, factor, Nat.add_mul, Nat.mul_assoc, Nat.add_assoc]

theorem value_encode (number : UInt64) : value (encode number) = number.toNat := by
  have small : number.toNat < weight width := by
    rw [weight_width]
    exact number.toNat_lt_size
  rw [encode, value_digits, Nat.mod_eq_of_lt small]

/-- The first digit decides between two numbers unless it is the same in both. -/
theorem digit_lt_iff {unit low high : Nat} (first second : Nat) (small : low < unit)
    (bounded : high < unit) :
    first * unit + low < second * unit + high ↔ first < second ∨ first = second ∧ low < high := by
  rcases Nat.lt_trichotomy first second with less | rfl | greater
  · have step := Nat.mul_le_mul_right unit (Nat.succ_le_of_lt less)
    rw [Nat.succ_mul] at step
    omega
  · omega
  · have step := Nat.mul_le_mul_right unit (Nat.succ_le_of_lt greater)
    rw [Nat.succ_mul] at step
    omega

/-- Equally many bytes are ordered as the numbers of which they are the digits. -/
theorem value_lt_value_iff {first second : Bytes} (sized : first.length = second.length) :
    value first < value second ↔ first < second := by
  induction first generalizing second with
  | nil =>
      have none : second = [] := List.length_eq_zero_iff.mp sized.symm
      subst none
      exact iff_of_false (Nat.lt_irrefl _) (List.lt_irrefl [])
  | cons byte rest ih =>
      cases second with
      | nil => cases sized
      | cons other more =>
          have even : rest.length = more.length := Nat.succ.inj sized
          have bounded := value_lt more
          rw [← even] at bounded
          rw [List.cons_lt_cons_iff, ← ih even, value, value, ← even,
            digit_lt_iff _ _ (value_lt rest) bounded, UInt8.lt_iff_toNat_lt, UInt8.toNat_inj]

end BigEndian

namespace Header

/-- The ten bytes of a header are one number of 80 bits, with the length in the upper 64. -/
theorem value_encode (header : Header) : BigEndian.value header.encode =
    header.length.toNat * 65536 + header.command.toNat * 256 + header.status.toNat := by
  have back : BigEndian.value [header.command, header.status] =
      header.command.toNat * 256 + header.status.toNat := by
    simp [BigEndian.value, BigEndian.weight]
  have places : BigEndian.weight [header.command, header.status].length = 65536 := rfl
  rw [encode, BigEndian.value_append, BigEndian.value_encode, back, places, Nat.add_assoc]

/-- Encoded headers are ordered by their lengths, then by their commands, then by their statuses. -/
theorem encode_lt_iff (first second : Header) : first.encode < second.encode ↔
    first.length < second.length ∨ first.length = second.length ∧
      (first.command < second.command ∨
        first.command = second.command ∧ first.status < second.status) := by
  have sized : first.encode.length = second.encode.length := by
    rw [length_encode, length_encode]
  have commands := first.command.toNat_lt
  have others := second.command.toNat_lt
  have statuses := first.status.toNat_lt
  have codes := second.status.toNat_lt
  rw [← BigEndian.value_lt_value_iff sized, value_encode, value_encode]
  simp only [UInt64.lt_iff_toNat_lt, UInt8.lt_iff_toNat_lt, ← UInt64.toNat_inj, ← UInt8.toNat_inj]
  omega

theorem getD_encode_of_lt (header : Header) {place : Nat} (within : place < 8) :
    header.encode.getD place 0 = (BigEndian.encode header.length).getD place 0 := by
  have front : place < (BigEndian.encode header.length).length := by
    rw [BigEndian.length_encode]
    exact within
  rw [encode, List.getD_eq_getElem?_getD, List.getElem?_append_left front,
    List.getD_eq_getElem?_getD]

/-- Headers and strings of ten bytes stand for each other. A header is read back from its bytes, and
ten bytes are those of the header that they are read as. The first eight are the digits of the
length to base 256, the most significant one first; the command and the status follow. So, for the
same command and status, the order of the bytes is the order of the lengths. -/
theorem laid_out_big_endian :
    (∀ header : Header, decode header.encode = header) ∧
    (∀ bytes : Bytes, bytes.length = 10 → (decode bytes).encode = bytes) ∧
    (∀ header : Header, header.encode.length = 10 ∧
      (∀ place < 8, (header.encode.getD place 0).toNat =
        header.length.toNat / 256 ^ (7 - place) % 256) ∧
      header.encode.getD 8 0 = header.command ∧ header.encode.getD 9 0 = header.status) ∧
    ∀ first second : Header, first.command = second.command → first.status = second.status →
      (first.encode < second.encode ↔ first.length < second.length) := by
  have read (header : Header) : decode header.encode = header := by
    have again := decode_encode_append header []
    rwa [List.append_nil] at again
  refine ⟨read, fun bytes sized => encode_decode sized, ?_, ?_⟩
  · intro header
    have command : (decode header.encode).command = header.command := by rw [read]
    have status : (decode header.encode).status = header.status := by rw [read]
    refine ⟨length_encode header, ?_, command, status⟩
    intro place within
    rw [getD_encode_of_lt header within]
    exact BigEndian.toNat_getD_digits within header.length.toNat
  · intro first second command status
    rw [encode_lt_iff, command, status]
    simp only [UInt8.lt_irrefl, and_false, or_false]

/-- Two lengths between which all the lower bytes are carried over, the largest length of all, and
ten bytes that are no header of any request or answer. -/
theorem laid_out_big_endian_at_carry :
    let before : Header := ⟨0x0000ffffffffffff, 11, 0⟩
    let after : Header := ⟨0x0001000000000000, 11, 0⟩
    let bytes : Bytes := [255, 255, 255, 255, 255, 255, 255, 255, 255, 1]
    before.encode < after.encode ∧ ¬ after.encode < before.encode ∧
      (after.encode.getD 1 0).toNat = 1 ∧ (before.encode.getD 1 0).toNat = 0 ∧
      (decode bytes).length.toNat = 2 ^ 64 - 1 ∧ (decode bytes).encode = bytes := by
  intro before after bytes
  obtain ⟨-, written, placed, ordered⟩ := laid_out_big_endian
  refine ⟨?_, ?_, ?_, ?_, by decide +kernel, written bytes rfl⟩
  · exact (ordered before after rfl rfl).mpr (by decide)
  · exact fun less => absurd ((ordered after before rfl rfl).mp less) (by decide)
  · exact ((placed after).2.1 1 (by decide)).trans (by decide)
  · exact ((placed before).2.1 1 (by decide)).trans (by decide)

end Header

end TrackedStorage
