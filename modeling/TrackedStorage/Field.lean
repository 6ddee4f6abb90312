import TrackedStorage.BigEndian

set_option autoImplicit false

namespace TrackedStorage

/-- A value to be sent: a number, or a text in a field of `width` bytes. -/
inductive Field where
  | number (value : UInt64)
  | text (value : Bytes) (width : Nat)
  deriving DecidableEq

namespace Field

inductive Kind where
  | number
  | text (width : Nat)
  deriving DecidableEq

inductive Value where
  | number (value : UInt64)
  | text (value : Bytes)
  deriving DecidableEq

/-- A text of exactly `width` bytes: a longer one is cut, a shorter one is filled up with NULs. -/
def padded (value : Bytes) (width : Nat) : Bytes :=
  value.take width ++ List.replicate (width - value.length) 0

/-- The text in a field of `width` bytes, which ends before its first NUL. -/
def unpadded (bytes : Bytes) (width : Nat) : Bytes := Bytes.beforeNul (bytes.take width)

def encode : Field → Bytes
  | number value => BigEndian.encode value
  | text value width => padded value width

/-- Fields follow each other without a gap. -/
def encodeAll (fields : List Field) : Bytes := fields.flatMap encode

def Kind.width : Kind → Nat
  | number => BigEndian.width
  | text width => width

def Kind.parse (bytes : Bytes) : Kind → Value
  | number => .number (BigEndian.decode bytes)
  | text width => .text (unpadded bytes width)

def parseAll : List Kind → Bytes → List Value
  | [], _ => []
  | kind :: kinds, bytes => kind.parse bytes :: parseAll kinds (bytes.drop kind.width)

@[simp] theorem length_padded (value : Bytes) (width : Nat) :
    (padded value width).length = width := by
  simp only [padded, List.length_append, List.length_take, List.length_replicate]
  omega

/-- A text reads back from its field as far as the field holds it, and up to its first NUL. -/
theorem unpadded_padded_append (value : Bytes) (width : Nat) (rest : Bytes) :
    unpadded (padded value width ++ rest) width = Bytes.beforeNul (value.take width) := by
  rw [unpadded, List.take_left' (length_padded value width), padded,
    Bytes.beforeNul_append_replicate]

/-- A field is empty exactly if it begins with a NUL, or is missing. -/
theorem unpadded_drop_eq_nil_iff (bytes : Bytes) (before : Nat) {width : Nat} (wide : width ≠ 0) :
    unpadded (bytes.drop before) width = [] ↔ bytes.getD before 0 = 0 := by
  have front : ((bytes.drop before).take width).headD 0 = (bytes.drop before).headD 0 := by
    rw [List.headD_eq_head?_getD, List.head?_take, if_neg wide, List.headD_eq_head?_getD]
  rw [unpadded, Bytes.beforeNul_eq_nil_iff, front, Bytes.headD_drop]

end Field

end TrackedStorage
