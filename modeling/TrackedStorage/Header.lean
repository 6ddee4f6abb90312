import TrackedStorage.BigEndian
import TrackedStorage.Link

set_option autoImplicit false

namespace TrackedStorage

namespace Command

def upload : UInt8 := 11
def download : UInt8 := 14
def answer : UInt8 := 100
def queryStore : UInt8 := 101
def queryFetch : UInt8 := 102

end Command

structure Header where
  length : UInt64
  command : UInt8
  status : UInt8
  deriving DecidableEq

namespace Header

def width : Nat := 10

def encode (header : Header) : Bytes :=
  BigEndian.encode header.length ++ [header.command, header.status]

def decode (bytes : Bytes) : Header :=
  ⟨BigEndian.decode bytes, bytes.getD 8 0, bytes.getD 9 0⟩

def maxLength : UInt64 := 0x7fffffffffffffff

/-- Accepts the header of a good answer. A wrong command counts before the status, and the status
before the length. -/
def check (header : Header) : Except Fault Header :=
  if header.command ≠ Command.answer then .error (.frame (.unexpectedCommand header.command))
  else if header.status ≠ 0 then .error (.status header.status)
  else if maxLength < header.length then .error (.frame .lengthOutOfRange)
  else .ok header

/-- Sends the header of a request, whose status is zero. -/
def send (length : UInt64) (command : UInt8) : Action Link Unit :=
  Link.write (encode ⟨length, command, 0⟩)

/-- Reads the header of an answer, and nothing beyond it. -/
def receive : Action Link Header := do
  let bytes ← Link.read width
  Action.ofExcept (check (decode bytes))

@[simp] theorem length_encode (header : Header) : header.encode.length = width := by
  simp [encode, width]

/-- Ten bytes are the header that they are read as. -/
theorem encode_decode {bytes : Bytes} (sized : bytes.length = width) :
    encode (decode bytes) = bytes := by
  have front : (bytes.take 8).length = BigEndian.width := by simp [sized, width, BigEndian.width]
  have number := BigEndian.encode_decode_append front (bytes.drop 8)
  have eighth : 8 < bytes.length := by rw [sized]; decide
  have ninth : 9 < bytes.length := by rw [sized]; decide
  have last : bytes.drop 10 = [] := List.drop_eq_nil_of_le (Nat.le_of_eq sized)
  have back : bytes.drop 8 = [bytes.getD 8 0, bytes.getD 9 0] := by
    rw [List.drop_eq_getElem_cons eighth, List.drop_eq_getElem_cons ninth, last]
    simp [eighth, ninth]
  rw [List.take_append_drop] at number
  rw [encode, decode, number, ← back, List.take_append_drop]

/-- A header is read back, whatever follows it. -/
theorem decode_encode_append (header : Header) (rest : Bytes) :
    decode (header.encode ++ rest) = header := by
  have front : header.encode ++ rest =
      BigEndian.encode header.length ++ (header.command :: header.status :: rest) := by
    simp [encode]
  have eighth : (header.encode ++ rest).getD 8 0 = header.command := by
    rw [front, List.getD_eq_getElem?_getD, List.getElem?_append_right (by simp)]
    simp
  have ninth : (header.encode ++ rest).getD 9 0 = header.status := by
    rw [front, List.getD_eq_getElem?_getD, List.getElem?_append_right (by simp)]
    simp
  rw [decode, eighth, ninth, front, BigEndian.decode_encode_append]

end Header

end TrackedStorage
