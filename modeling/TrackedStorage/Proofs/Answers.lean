import TrackedStorage.Proofs.Chunks

set_option autoImplicit false

namespace TrackedStorage

/-- From one moment to a later one exactly the next `count` bytes of the response were taken. -/
structure Link.Consumes (count : Nat) (before after : Link) : Prop where
  there : count ≤ before.unread.length
  taken : after.taken = before.taken ++ before.unread.take count
  unread : after.unread = before.unread.drop count

namespace Link

theorem Consumes.refl (link : Link) : Consumes 0 link link :=
  ⟨Nat.zero_le _, (List.append_nil _).symm, rfl⟩

theorem Consumes.trans {first second : Nat} {before middle after : Link}
    (earlier : Consumes first before middle) (later : Consumes second middle after) :
    Consumes (first + second) before after := by
  have enough := later.there
  rw [earlier.unread, List.length_drop] at enough
  refine ⟨?_, ?_, ?_⟩
  · have there := earlier.there
    omega
  · rw [later.taken, earlier.taken, earlier.unread, List.append_assoc, ← List.take_add]
  · rw [later.unread, earlier.unread, List.drop_drop]

theorem Moved.consumes {sent got : Bytes} {before after : Link}
    (moved : Moved sent got before after) :
    Consumes got.length before after := by
  refine ⟨?_, ?_, ?_⟩
  · rw [moved.unread, List.length_append]
    omega
  · rw [moved.taken, moved.unread, List.take_left]
  · rw [moved.unread, List.drop_left]

section
variable {link : Link} {count : Nat} (opened : link.isOpen = true)
include opened

theorem read_of_le (there : count ≤ link.unread.length) :
    ∃ last, read count link = .ok (link.unread.take count) last ∧ last.isOpen = true ∧
      Consumes count link last := by
  have sized : (link.unread.take count).length = count := List.length_take_of_le there
  have done := read_append opened (List.take_append_drop count link.unread).symm
  rw [sized] at done
  exact ⟨_, done, opened, there, rfl, rfl⟩

/-- A read of more than is left takes all of it. -/
theorem read_of_lt (short : link.unread.length < count) :
    ∃ last, read count link = .error (.transfer (link.fall .read).1) last ∧
      Consumes link.unread.length link last := by
  have moved : Moved [] link.unread link link.drained :=
    ⟨(List.append_nil _).symm, rfl, (List.append_nil _).symm⟩
  have consumed := (moved.trans (moved_fall link.drained .read)).consumes
  rw [List.append_nil] at consumed
  exact ⟨_, read_of_drained opened short, consumed⟩

end

theorem exists_write_of_told {link : Link} (opened : link.isOpen = true) {data : Bytes}
    (fits : link.HasRoom data.length) :
    ∃ last, write data link = .ok () last ∧ last.isOpen = true ∧ last.unread = link.unread ∧
      Consumes 0 link last := by
  have done := write_of_hasRoom opened fits
  exact ⟨_, done, opened, rfl, (write_moved done).consumes⟩

/-- Whatever keeps a write from coming through, nothing of the response is taken. -/
theorem exists_write_of_untold {link : Link} {data : Bytes}
    (untold : ¬ (link.isOpen = true ∧ link.HasRoom data.length)) :
    ∃ cause last, write data link = .error (.transfer cause) last ∧ Consumes 0 link last := by
  by_cases opened : link.isOpen = true
  · obtain ⟨last, failed, moved⟩ :=
      exists_write_of_full opened fun fits => untold ⟨opened, fits⟩
    exact ⟨_, last, failed, moved.consumes⟩
  · have closed : link.isOpen = false := by simpa using opened
    exact ⟨_, link, write_of_closed closed data, .refl link⟩

end Link

namespace Action
variable {α β : Type}

/-- Over a link an action ends in `result`, with exactly `count` bytes of the response taken. -/
structure Ends (action : Action Link α) (link : Link) (result : Except Fault α) (count : Nat) :
    Prop where
  result : Action.result (action link) = result
  consumed : link.Consumes count (after (action link))

variable {first : Action Link α} {next : α → Action Link β} {link middle : Link} {inner : α}

theorem eq_error_of_result {σ : Type} {ended : EStateM.Result Fault σ α} {fault : Fault}
    (failed : result ended = .error fault) : ended = .error fault (after ended) := by
  cases ended with
  | ok value state => cases failed
  | error other state =>
      cases failed
      rfl

theorem eq_ok_of_ofExcept {σ : Type} {result : Except Fault α} {value : α} {state last : σ}
    (done : ofExcept result state = .ok value last) : result = .ok value := by
  cases result with
  | ok other =>
      cases done
      rfl
  | error fault => cases done

theorem ends_ofExcept (result : Except Fault α) (link : Link) :
    Ends (ofExcept result) link result 0 := by
  cases result <;> exact ⟨rfl, .refl link⟩

theorem ends_bind {result : Except Fault β} {count more : Nat}
    (done : first link = .ok inner middle) (consumed : link.Consumes count middle)
    (later : Ends (next inner) middle result more) :
    Ends (first >>= next) link result (count + more) := by
  refine ⟨?_, ?_⟩
  · rw [bind_of_ok done, later.result]
  · rw [bind_of_ok done]
    exact consumed.trans later.consumed

/-- A last step that takes nothing. -/
theorem ends_finish {result : Except Fault β} {count : Nat} (done : first link = .ok inner middle)
    (consumed : link.Consumes count middle) (later : Ends (next inner) middle result 0) :
    Ends (first >>= next) link result count :=
  ends_bind done consumed later

theorem ends_bind_of_error {fault : Fault} {count : Nat} (failed : first link = .error fault middle)
    (consumed : link.Consumes count middle) (next : α → Action Link β) :
    Ends (first >>= next) link (.error fault) count := by
  refine ⟨?_, ?_⟩
  · rw [bind_of_error failed, Action.result]
  · rw [bind_of_error failed]
    exact consumed

end Action

open TrackedStorage.Action (Ends)

namespace Header

structure IsGood (header : Header) : Prop where
  command : header.command = Command.answer
  status : header.status = 0
  short : header.length ≤ maxLength

/-- The fault of a header that begins no good answer. A wrong command counts before the status, and
the status before the length. -/
inductive Refused (header : Header) : Fault → Prop
  | command (wrong : header.command ≠ Command.answer) :
      Refused header (.frame (.unexpectedCommand header.command))
  | status (command : header.command = Command.answer) (bad : header.status ≠ 0) :
      Refused header (.status header.status)
  | length (command : header.command = Command.answer) (status : header.status = 0)
      (long : maxLength < header.length) : Refused header (.frame .lengthOutOfRange)

theorem check_of_refused {header : Header} {fault : Fault} (refused : header.Refused fault) :
    check header = .error fault := by
  cases refused with
  | command wrong => simp [check, wrong]
  | status command bad => simp [check, command, bad]
  | length command status long => simp [check, command, status, long]

theorem isGood_or_refused (header : Header) : header.IsGood ∨ ∃ fault, header.Refused fault := by
  by_cases command : header.command = Command.answer
  · by_cases status : header.status = 0
    · by_cases long : maxLength < header.length
      · exact .inr ⟨_, .length command status long⟩
      · exact .inl ⟨command, status, UInt64.not_lt.mp long⟩
    · exact .inr ⟨_, .status command status⟩
  · exact .inr ⟨_, .command command⟩

theorem Refused.not_isGood {header : Header} {fault : Fault} (refused : header.Refused fault) :
    ¬ header.IsGood := by
  rintro ⟨command, status, short⟩
  cases refused with
  | command wrong => exact wrong command
  | status _ bad => exact bad status
  | length _ _ long => exact UInt64.not_lt.mpr short long

theorem isGood_of_receive {header : Header} {link last : Link}
    (done : receive link = .ok header last) : header.IsGood := by
  obtain ⟨bytes, middle, -, checked⟩ := Action.bind_eq_ok done
  rcases (decode bytes).isGood_or_refused with good | ⟨fault, refused⟩
  · rw [check_of_good good.command good.status good.short] at checked
    cases checked
    exact good
  · rw [check_of_refused refused] at checked
    cases checked

section
variable {link : Link} (opened : link.isOpen = true)
include opened

theorem receive_of_short (short : link.unread.length < width) :
    ∃ last, receive link = .error (.transfer (link.fall .read).1) last ∧
      link.Consumes link.unread.length last := by
  obtain ⟨last, failed, consumed⟩ := Link.read_of_lt opened short
  exact ⟨last, Action.bind_of_error failed _, consumed⟩

theorem receive_of_encode {header : Header} {rest : Bytes}
    (left : link.unread = header.encode ++ rest) :
    ∃ last, receive link = Action.ofExcept (check header) last ∧ last.isOpen = true ∧
      last.unread = rest ∧ link.Consumes width last := by
  have there : width ≤ link.unread.length := by
    rw [left, List.length_append, length_encode]
    omega
  have front : link.unread.take width = header.encode := by
    rw [left, List.take_left' (length_encode header)]
  have back : link.unread.drop width = rest := by
    rw [left, List.drop_left' (length_encode header)]
  have same := decode_encode_append header []
  rw [List.append_nil] at same
  obtain ⟨last, taken, still, consumed⟩ := Link.read_of_le opened there
  refine ⟨last, ?_, still, consumed.unread.trans back, consumed⟩
  rw [receive, Action.bind_of_ok taken, front, same]

end

end Header

namespace Frame
variable {α : Type}

/-- Reads an answer: its header and, if the length that it declares is fit, a body of that length,
which is then parsed. -/
def receive (fit : UInt64 → Prop) [DecidablePred fit] (misfit : UInt64 → FrameFault)
    (parse : Bytes → Except Fault α) : Action Link α := do
  let header ← Header.receive
  if fit header.length then
    let body ← Link.read header.length.toNat
    Action.ofExcept (parse body)
  else throw (.frame (misfit header.length))

section
variable {fit : UInt64 → Prop} [DecidablePred fit] {misfit : UInt64 → FrameFault}
  {parse : Bytes → Except Fault α} {link : Link} (opened : link.isOpen = true)
include opened

theorem receive_of_headless (short : link.unread.length < Header.width) :
    ∃ cause, Ends (receive fit misfit parse) link (.error (.transfer cause))
      link.unread.length := by
  obtain ⟨last, failed, consumed⟩ := Header.receive_of_short opened short
  exact ⟨_, Action.ends_bind_of_error failed consumed _⟩

theorem receive_of_refused {header : Header} {rest : Bytes} {fault : Fault}
    (left : link.unread = header.encode ++ rest) (refused : header.Refused fault) :
    Ends (receive fit misfit parse) link (.error fault) Header.width := by
  obtain ⟨last, ended, -, -, consumed⟩ := Header.receive_of_encode opened left
  rw [Header.check_of_refused refused] at ended
  exact Action.ends_bind_of_error ended consumed _

section
variable {header : Header} {rest : Bytes} (left : link.unread = header.encode ++ rest)
  (good : header.IsGood)
include left good

theorem receive_of_misfit (unfit : ¬ fit header.length) :
    Ends (receive fit misfit parse) link (.error (.frame (misfit header.length)))
      Header.width := by
  obtain ⟨last, ended, -, -, consumed⟩ := Header.receive_of_encode opened left
  rw [Header.check_of_good good.command good.status good.short] at ended
  refine Action.ends_finish ended consumed ?_
  rw [if_neg unfit]
  exact ⟨rfl, .refl last⟩

theorem receive_of_cut (fits : fit header.length) (short : rest.length < header.length.toNat) :
    ∃ cause, Ends (receive fit misfit parse) link (.error (.transfer cause))
      link.unread.length := by
  obtain ⟨middle, ended, still, behind, consumed⟩ := Header.receive_of_encode opened left
  rw [Header.check_of_good good.command good.status good.short] at ended
  rw [← behind] at short
  obtain ⟨last, failed, drained⟩ := Link.read_of_lt still short
  have all : link.unread.length = Header.width + middle.unread.length := by
    rw [left, behind, List.length_append, Header.length_encode]
  refine ⟨(middle.fall .read).1, ?_⟩
  rw [all]
  refine Action.ends_bind ended consumed ?_
  rw [if_pos fits]
  exact Action.ends_bind_of_error failed drained _

end

theorem receive_of_whole {answer : Frame} {rest : Bytes}
    (left : link.unread = answer.encode ++ rest)
    (good : answer.header.IsGood) (fits : fit answer.header.length) :
    Ends (receive fit misfit parse) link (parse answer.body)
      (Header.width + answer.body.length) := by
  rw [encode, List.append_assoc] at left
  obtain ⟨middle, ended, still, behind, consumed⟩ := Header.receive_of_encode opened left
  rw [Header.check_of_good good.command good.status good.short] at ended
  have there : answer.header.length.toNat ≤ middle.unread.length := by
    rw [behind, answer.sized, List.length_append]
    omega
  have body : middle.unread.take answer.header.length.toNat = answer.body := by
    rw [behind, List.take_left' answer.sized.symm]
  obtain ⟨last, taken, -, used⟩ := Link.read_of_le still there
  rw [body] at taken
  rw [← answer.sized]
  refine Action.ends_bind ended consumed ?_
  rw [if_pos fits]
  refine Action.ends_finish taken used ?_
  exact Action.ends_ofExcept _ last

/-- The reading of an answer succeeds exactly on a good header that declares a fit length, with at
least so many bytes behind it that parse. -/
theorem receive_eq_ok_iff {value : α} :
    Action.result (receive fit misfit parse link) = .ok value ↔
      ∃ answer rest, link.unread = encode answer ++ rest ∧ answer.header.IsGood ∧
        fit answer.header.length ∧ parse answer.body = .ok value := by
  constructor
  · intro done
    obtain ⟨header, middle, received, later⟩ := Action.bind_eq_ok (Action.eq_ok_of_result done)
    have good := Header.isGood_of_receive received
    obtain ⟨-, -, headed⟩ := Header.receive_moved received
    split at later
    · rename_i fits
      obtain ⟨body, last, taken, parsed⟩ := Action.bind_eq_ok later
      obtain ⟨sized, moved⟩ := Link.read_moved taken
      refine ⟨⟨header, body, sized.symm⟩, last.unread, ?_, good, fits, ?_⟩
      · rw [headed.unread, moved.unread, encode, List.append_assoc]
      · exact Action.eq_ok_of_ofExcept parsed
    · cases later
  · rintro ⟨answer, rest, left, good, fits, parsed⟩
    rw [← parsed]
    exact (receive_of_whole opened left good fits).result

end

end Frame

end TrackedStorage
