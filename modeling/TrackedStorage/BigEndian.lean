import TrackedStorage.Bytes

set_option autoImplicit false

namespace TrackedStorage.BigEndian

/-- What a digit counts that `count` others follow. -/
def weight : Nat → Nat
  | 0 => 1
  | count + 1 => 256 * weight count

/-- The last `count` base-256 digits of `number`, the most significant one first. -/
def digits : Nat → Nat → Bytes
  | 0, _ => []
  | count + 1, number => UInt8.ofNat (number / weight count) :: digits count number

/-- The number whose base-256 digits are `bytes`. -/
def value : Bytes → Nat
  | [] => 0
  | byte :: rest => byte.toNat * weight rest.length + value rest

def width : Nat := 8

def encode (number : UInt64) : Bytes := digits width number.toNat

def decode (bytes : Bytes) : UInt64 := UInt64.ofNat (value (bytes.take width))

theorem weight_pos (count : Nat) : 0 < weight count := by
  induction count with
  | zero => exact Nat.one_pos
  | succ count ih => exact Nat.mul_pos (by decide) ih

/-- Eight bytes hold every number that is sent. -/
theorem weight_width : weight width = UInt64.size := by
  decide

@[simp] theorem length_digits (count number : Nat) : (digits count number).length = count := by
  induction count with
  | zero => rfl
  | succ count ih => simp [digits, ih]

@[simp] theorem length_encode (number : UInt64) : (encode number).length = 8 :=
  length_digits width number.toNat

/-- Digits read back as the number, as far as they hold it. -/
theorem value_digits (count number : Nat) :
    value (digits count number) = number % weight count := by
  induction count with
  | zero => simp [digits, value, weight, Nat.mod_one]
  | succ count ih =>
      have top : (UInt8.ofNat (number / weight count)).toNat = number / weight count % 256 :=
        UInt8.toNat_ofNat'
      rw [digits, value, ih, length_digits, top, weight, Nat.mul_comm 256, Nat.mod_mul,
        Nat.mul_comm, Nat.add_comm]

theorem decode_encode_append (number : UInt64) (rest : Bytes) :
    decode (encode number ++ rest) = number := by
  have front : (encode number ++ rest).take width = encode number :=
    List.take_left' (length_digits width number.toNat)
  have small : number.toNat < weight width := by
    rw [weight_width]
    exact number.toNat_lt_size
  rw [decode, front, encode, value_digits, Nat.mod_eq_of_lt small]
  exact UInt64.ofNat_toNat

theorem value_lt (bytes : Bytes) : value bytes < weight bytes.length := by
  induction bytes with
  | nil => exact Nat.one_pos
  | cons byte rest ih =>
      have small : byte.toNat < 256 := byte.toNat_lt
      have scaled : (byte.toNat + 1) * weight rest.length ≤ 256 * weight rest.length :=
        Nat.mul_le_mul_right _ small
      rw [Nat.add_mul, Nat.one_mul] at scaled
      rw [value, List.length_cons, weight]
      omega

theorem toNat_decode {bytes : Bytes} (enough : width ≤ bytes.length) :
    (decode bytes).toNat = value (bytes.take width) := by
  have small := value_lt (bytes.take width)
  rw [List.length_take_of_le enough, weight_width] at small
  rw [decode, UInt64.toNat_ofNat_of_lt' small]

/-- Bytes are the digits of their number, whatever stands in front of them. -/
theorem digits_value (front : Nat) (bytes : Bytes) :
    digits bytes.length (front * weight bytes.length + value bytes) = bytes := by
  induction bytes generalizing front with
  | nil => rfl
  | cons byte rest ih =>
      have small := value_lt rest
      have number : front * weight (byte :: rest).length + value (byte :: rest) =
          value rest + weight rest.length * (front * 256 + byte.toNat) := by
        rw [List.length_cons, value, weight, Nat.mul_comm (weight rest.length), Nat.add_mul,
          Nat.mul_assoc]
        omega
      have top : UInt8.ofNat (front * 256 + byte.toNat) = byte := by
        apply UInt8.toNat_inj.mp
        rw [UInt8.toNat_ofNat', Nat.mul_add_mod_of_lt byte.toNat_lt]
      rw [number, List.length_cons, digits, Nat.add_mul_div_left _ _ (weight_pos _),
        Nat.div_eq_of_lt small, Nat.zero_add, top, Nat.add_comm, Nat.mul_comm, ih]

theorem encode_decode_append {bytes : Bytes} (sized : bytes.length = width) (rest : Bytes) :
    encode (decode (bytes ++ rest)) = bytes := by
  have small := value_lt bytes
  have same := digits_value 0 bytes
  rw [sized, weight_width] at small
  rw [Nat.zero_mul, Nat.zero_add, sized] at same
  rw [decode, List.take_left' sized, encode, UInt64.toNat_ofNat_of_lt' small, same]

end TrackedStorage.BigEndian
