import TrackedStorage.Proofs.Answers

set_option autoImplicit false

namespace TrackedStorage

open TrackedStorage.Action (Ends)

namespace Header

def lengthIn (bytes : Bytes) : Nat := BigEndian.value (bytes.take 8)

/-- A header is accepted or it has a fault. -/
theorem check_iff (header : Header) :
    (∀ value, check header = .ok value ↔ value = header ∧ header.IsGood) ∧
      ∀ fault, check header = .error fault ↔ header.Refused fault := by
  refine Fault.eq_iff_of_decided ?_ ?_ fun _ => check_of_refused
  · rcases header.isGood_or_refused with good | refused
    · exact .inl ⟨header, rfl, good⟩
    · exact .inr refused
  · rintro value ⟨rfl, good⟩
    exact check_of_good good.command good.status good.short

section
variable {bytes : Bytes} (enough : width ≤ bytes.length)
include enough

theorem toNat_length_decode : (decode bytes).length.toNat = lengthIn bytes :=
  BigEndian.toNat_decode (Nat.le_trans (by decide) enough)

/-- Bytes begin with the header that they are read as. -/
theorem encode_decode_append_drop : bytes = (decode bytes).encode ++ bytes.drop width := by
  have front := encode_decode (List.length_take_of_le enough)
  have read := decode_encode_append (decode (bytes.take width)) (bytes.drop width)
  rw [front, List.take_append_drop] at read
  rw [read, front, List.take_append_drop]

theorem le_maxLength_iff : (decode bytes).length ≤ maxLength ↔ lengthIn bytes ≤ 2 ^ 63 - 1 := by
  have limit : maxLength.toNat = 2 ^ 63 - 1 := rfl
  rw [UInt64.le_iff_toNat_le, toNat_length_decode enough, limit]

/-- Ten bytes are accepted as the header that says what they say. -/
theorem check_decode_eq_ok_iff {header : Header} : check (decode bytes) = .ok header ↔
    (bytes.getD 8 0 = 100 ∧ bytes.getD 9 0 = 0 ∧ lengthIn bytes ≤ 2 ^ 63 - 1) ∧
      header.length.toNat = lengthIn bytes ∧ header.command = 100 ∧ header.status = 0 := by
  rw [(check_iff _).1]
  constructor
  · rintro ⟨rfl, good⟩
    exact ⟨⟨good.command, good.status, (le_maxLength_iff enough).mp good.short⟩,
      toNat_length_decode enough, good.command, good.status⟩
  · rintro ⟨⟨command, status, short⟩, length, named, zero⟩
    have same : header.length = (decode bytes).length := by
      apply UInt64.toNat_inj.mp
      rw [length, toNat_length_decode enough]
    refine ⟨?_, command, status, (le_maxLength_iff enough).mpr short⟩
    calc
      header = ⟨header.length, header.command, header.status⟩ := rfl
      _ = ⟨(decode bytes).length, bytes.getD 8 0, bytes.getD 9 0⟩ := by
        rw [same, named, zero, command, status]

/-- The faults of ten bytes, in the order in which they count. -/
theorem check_decode_eq_error_iff {fault : Fault} : check (decode bytes) = .error fault ↔
    (bytes.getD 8 0 ≠ 100 ∧ fault = .frame (.unexpectedCommand (bytes.getD 8 0))) ∨
    (bytes.getD 8 0 = 100 ∧ bytes.getD 9 0 ≠ 0 ∧ fault = .status (bytes.getD 9 0)) ∨
    (bytes.getD 8 0 = 100 ∧ bytes.getD 9 0 = 0 ∧ 2 ^ 63 - 1 < lengthIn bytes ∧
      fault = .frame .lengthOutOfRange) := by
  have limit := le_maxLength_iff enough
  rw [(check_iff _).2]
  constructor
  · intro refused
    cases refused with
    | command wrong => exact .inl ⟨wrong, rfl⟩
    | status command bad => exact .inr (.inl ⟨command, bad, rfl⟩)
    | length command status long =>
        rw [← UInt64.not_le, limit, Nat.not_le] at long
        exact .inr (.inr ⟨command, status, long, rfl⟩)
  · rintro (⟨wrong, rfl⟩ | ⟨command, bad, rfl⟩ | ⟨command, status, long, rfl⟩)
    · exact .command wrong
    · exact .status command bad
    · rw [← Nat.not_le, ← limit, UInt64.not_le] at long
      exact .length command status long

end

/-- Over an open link that has so much to answer, exactly the ten bytes of a header are taken,
whatever is made of them. -/
theorem ends_receive {link : Link} (opened : link.isOpen = true)
    (enough : width ≤ link.unread.length) :
    Ends receive link (check (decode link.unread)) width := by
  obtain ⟨last, ended, -, -, consumed⟩ :=
    receive_of_encode opened (encode_decode_append_drop enough)
  refine ⟨?_, ?_⟩
  · rw [ended, Action.result_ofExcept]
  · rw [ended, Action.after_ofExcept]
    exact consumed

/-- A header is received exactly over an open link that has ten bytes to answer, of which the ninth
is the command of an answer and the tenth, the status, is zero, and the first eight declare a length
of less than 2^63. The header says this length. Ten bytes that there are are taken whatever they say,
and none beyond them; a wrong command counts before the status, and the status before the length.
Everything else is a failed transfer. -/
theorem received_exactly (link : Link) :
    let bytes := link.unread
    let command := bytes.getD 8 0
    let status := bytes.getD 9 0
    let ended := receive link
    (∀ header, Action.result ended = .ok header ↔
      (link.isOpen = true ∧ 10 ≤ bytes.length ∧ command = 100 ∧ status = 0 ∧
        lengthIn bytes ≤ 2 ^ 63 - 1) ∧
      header.length.toNat = lengthIn bytes ∧ header.command = 100 ∧ header.status = 0) ∧
    (link.isOpen = true → 10 ≤ bytes.length → link.Consumes 10 (Action.after ended) ∧
      ∀ fault, Action.result ended = .error fault ↔
        (command ≠ 100 ∧ fault = .frame (.unexpectedCommand command)) ∨
        (command = 100 ∧ status ≠ 0 ∧ fault = .status status) ∨
        (command = 100 ∧ status = 0 ∧ 2 ^ 63 - 1 < lengthIn bytes ∧
          fault = .frame .lengthOutOfRange)) ∧
    (link.isOpen = true → bytes.length < 10 →
      ∃ cause, Ends receive link (.error (.transfer cause)) bytes.length) ∧
    (link.isOpen = false → ∃ cause, ended = .error (.transfer cause) link) := by
  intro bytes command status ended
  have whole (opened : link.isOpen = true) (enough : 10 ≤ bytes.length) :
      Ends receive link (check (decode bytes)) 10 := ends_receive opened enough
  have cut (opened : link.isOpen = true) (short : bytes.length < 10) :
      ∃ cause, Ends receive link (.error (.transfer cause)) bytes.length := by
    obtain ⟨last, failed, consumed⟩ := Link.read_of_lt opened short
    exact ⟨_, Action.ends_bind_of_error failed consumed _⟩
  have shut (closed : link.isOpen = false) : ∃ cause, ended = .error (.transfer cause) link :=
    ⟨_, Action.bind_of_error (Link.read_of_closed closed width) _⟩
  refine ⟨?_, ?_, cut, shut⟩
  · intro header
    by_cases opened : link.isOpen = true
    · by_cases enough : 10 ≤ bytes.length
      · rw [(whole opened enough).result, check_decode_eq_ok_iff enough]
        simp only [opened, enough, true_and]
        rfl
      · obtain ⟨cause, failed⟩ := cut opened (Nat.not_le.mp enough)
        simp only [ended, failed.result, enough, reduceCtorEq, false_and, and_false]
    · obtain ⟨cause, failed⟩ := shut (by simpa using opened)
      simp only [failed, opened, Action.result, reduceCtorEq, false_and]
  · intro opened enough
    refine ⟨(whole opened enough).consumed, ?_⟩
    intro fault
    rw [(whole opened enough).result]
    exact check_decode_eq_error_iff enough

/-- The greatest length that is accepted with a byte behind it, one more than that, and headers with
two faults and with three. -/
theorem received_exactly_at_limits :
    let link (top command status : UInt8) := Link.inMemory []
      (top :: List.replicate 7 255 ++ [command, status, 7]) none true
    let ended (top command status : UInt8) := receive (link top command status)
    (Action.result (ended 127 100 0) = .ok ⟨0x7fffffffffffffff, 100, 0⟩ ∧
      (Action.after (ended 127 100 0)).unread = [7]) ∧
    Action.result (ended 128 100 0) = .error (.frame .lengthOutOfRange) ∧
    Action.result (ended 128 100 5) = .error (.status 5) ∧
    Action.result (ended 128 99 5) = .error (.frame (.unexpectedCommand 99)) := by
  intro link ended
  have answered (top command status : UInt8) := received_exactly (link top command status)
  have enough (top command status : UInt8) : 10 ≤ (link top command status).unread.length := by
    rw [show (link top command status).unread.length = 11 from rfl]
    decide
  have taken (top command status : UInt8) :=
    (answered top command status).2.1 rfl (enough top command status)
  refine ⟨⟨?_, ?_⟩, ?_, ?_, ?_⟩
  · exact ((answered 127 100 0).1 _).mpr (by decide +kernel)
  · exact (taken 127 100 0).1.unread
  · exact ((taken 128 100 0).2 _).mpr (.inr (.inr (by decide +kernel)))
  · exact ((taken 128 100 5).2 _).mpr (.inr (.inl (by decide)))
  · exact ((taken 128 99 5).2 _).mpr (.inl (by decide))

end Header

end TrackedStorage
