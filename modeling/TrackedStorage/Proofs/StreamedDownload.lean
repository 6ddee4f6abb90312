import TrackedStorage.Proofs.Answers
import TrackedStorage.Proofs.Truncation

set_option autoImplicit false

namespace TrackedStorage

open TrackedStorage.Action (Ends IsDialogue)

namespace Sink
variable {room : Option Nat} {kept : Bytes}

/-- A stream stays one. -/
theorem exists_stream_of_write {data : Bytes} {filled : Sink}
    (stored : write data (.stream room kept) = .ok () filled) :
    ∃ left held, filled = .stream left held := by
  cases room with
  | none =>
      cases stored
      exact ⟨_, _, rfl⟩
  | some room =>
      simp only [write] at stored
      split at stored
      · cases stored
        exact ⟨_, _, rfl⟩
      · cases stored

@[simp] theorem write_nil (room : Option Nat) (kept : Bytes) :
    write [] (.stream room kept) = .ok () (.stream room kept) := by
  cases room <;> simp [write]

/-- Two writes in a row do to a stream what one write of their bytes does. -/
theorem write_append (front back : Bytes) (room : Option Nat) (kept : Bytes) :
    write (front ++ back) (.stream room kept) =
      (write front >>= fun _ => write back) (.stream room kept) := by
  cases room with
  | none => simp only [write, bind, EStateM.bind, List.append_assoc]
  | some room =>
      by_cases fits : front.length ≤ room
      · have both : front.length + back.length ≤ room ↔ back.length ≤ room - front.length := by
          omega
        simp only [write, bind, EStateM.bind, fits, both, List.take_append,
          List.take_of_length_le fits, List.append_assoc, List.length_append, Nat.sub_sub,
          ↓reduceIte]
      · have neither : ¬ (front ++ back).length ≤ room := by
          rw [List.length_append]
          omega
        have used : room - (front ++ back).length = room - front.length := by
          rw [List.length_append]
          omega
        have cut : (front ++ back).take room = front.take room :=
          List.take_append_of_le_length (by omega)
        simp only [write, bind, EStateM.bind, fits, neither, used, cut, ↓reduceIte]

theorem result_write_eq_ok_iff (data : Bytes) (room : Nat) (kept : Bytes) :
    Action.result (write data (.stream (some room) kept)) = .ok () ↔ data.length ≤ room := by
  by_cases fits : data.length ≤ room <;> simp [write, fits, Action.result]

theorem delivered_write (data : Bytes) (room : Nat) (kept : Bytes) :
    (Action.after (write data (.stream (some room) kept))).delivered = kept ++ data.take room := by
  by_cases fits : data.length ≤ room <;> simp only [write, fits, ↓reduceIte] <;> rfl

/-- A stream refuses by a fault of transfer. -/
theorem exists_transfer_of_write {data : Bytes} {fault : Fault} {filled : Sink}
    (refused : write data (.stream room kept) = .error fault filled) :
    ∃ cause, fault = .transfer cause := by
  cases room with
  | none => cases refused
  | some room =>
      simp only [write] at refused
      split at refused
      · cases refused
      · cases refused
        exact ⟨_, rfl⟩

end Sink

namespace Download

def receiveChunk (count : Nat) : Action (Link × Sink) Unit := do
  let data ← Action.onFirst (Link.read count)
  Action.onSecond (Sink.write data)

/-- A body is received in one round for each of its chunks. -/
theorem receiveBody_eq_rounds (remaining : Nat) :
    receiveBody remaining = forM (chunkSizes remaining) receiveChunk := by
  induction remaining using receiveBody.induct with
  | case1 =>
      rw [receiveBody, chunkSizes, if_pos rfl, if_pos rfl]
      rfl
  | case2 remaining more count ih =>
      rw [receiveBody, chunkSizes, if_neg more, if_neg more, List.forM_cons, ← ih, receiveChunk]
      simp only [bind_assoc]
      rfl

/-- Over an open link a body is received as by one write of all that comes through: the stream is
left as that write leaves it. This succeeds exactly if that write does and all of the body is
there, of which then nothing is left. -/
theorem receiveBody_as_one_write (remaining : Nat) {link : Link} (opened : link.isOpen = true)
    (room : Option Nat) (kept : Bytes) :
    let stored := Sink.write (link.unread.chunked remaining) (.stream room kept)
    (∃ last, receiveBody remaining (link, .stream room kept) = .ok () (last, Action.after stored) ∧
      Action.result stored = .ok () ∧ link.Consumes remaining last) ∨
    (∃ cause last, receiveBody remaining (link, .stream room kept) =
        .error (.transfer cause) (last, Action.after stored) ∧
      (Action.result stored = .ok () → link.unread.length < remaining)) := by
  induction remaining using Nat.strongRecOn generalizing link room kept with
  | ind remaining ih =>
      dsimp only
      by_cases none : remaining = 0
      · refine .inl ⟨link, ?_, ?_, ?_⟩
        · rw [receiveBody, if_pos none, none, Bytes.chunked_zero, Sink.write_nil]
          rfl
        · rw [none, Bytes.chunked_zero, Sink.write_nil, Action.result]
        · rw [none]
          exact .refl link
      · have fewer : remaining - min chunkSize remaining < remaining := by
          simp only [chunkSize]
          omega
        by_cases filled : min chunkSize remaining ≤ link.unread.length
        · obtain ⟨middle, read, still, consumed⟩ := Link.read_of_le opened filled
          rw [Bytes.chunked_of_filled filled, Sink.write_append, ← consumed.unread]
          cases stored : Sink.write (link.unread.take (min chunkSize remaining))
              (.stream room kept) with
          | error fault filled =>
              rw [Action.bind_of_error stored, receiveBody_of_refused none read stored]
              obtain ⟨cause, rfl⟩ := Sink.exists_transfer_of_write stored
              refine .inr ⟨cause, middle, rfl, ?_⟩
              intro accepted
              cases accepted
          | ok _ filled =>
              obtain ⟨left, held, rfl⟩ := Sink.exists_stream_of_write stored
              rw [Action.bind_of_ok stored, receiveBody_of_stored none read stored]
              rcases ih _ fewer still left held with
                ⟨last, done, accepted, used⟩ | ⟨cause, last, failed, short⟩
              · have all := consumed.trans used
                rw [Nat.add_sub_cancel' (Nat.min_le_right _ _)] at all
                exact .inl ⟨last, done, accepted, all⟩
              · refine .inr ⟨cause, last, failed, ?_⟩
                intro accepted
                have behind := short accepted
                rw [consumed.unread, List.length_drop] at behind
                omega
        · have short : link.unread.length < min chunkSize remaining := by omega
          obtain ⟨last, failed, -⟩ := Link.read_of_lt opened short
          rw [Bytes.chunked_of_unfilled short, Sink.write_nil, receiveBody_of_unread none failed]
          exact .inr ⟨_, last, rfl, fun _ => by omega⟩

theorem send_eq_write (download : Download) : download.send =
    Link.write (Header.encode ⟨download.length, Command.download, 0⟩ ++ download.body) := by
  rw [Link.write_append]
  rfl

section
variable {download : Download} {link told : Link} {header : Header} {body : Bytes}

/-- A request that was sent is accepted, once a good header comes, unless that declares more than
was asked for. -/
theorem request_of_answer (asked : download.send link = .ok () told)
    (answered : link.unread = header.encode ++ body) (good : header.IsGood) :
    ∃ last, last.isOpen = true ∧ last.unread = body ∧ link.Consumes Header.width last ∧
      download.request link =
        if 0 < download.count ∧ download.count < header.length then
          .error (.frame (.downloadLength header.length)) last
        else .ok header.length last := by
  have untaken := (send_moved asked).consumes
  have wrote := asked
  rw [send_eq_write] at wrote
  obtain ⟨opened, -, same⟩ := Link.write_eq_ok wrote
  have still : told.isOpen = true := by rw [same, opened]
  have left : told.unread = header.encode ++ body := by rw [same, answered]
  obtain ⟨last, ended, yet, behind, consumed⟩ := Header.receive_of_encode still left
  rw [Header.check_of_good good.command good.status good.short] at ended
  refine ⟨last, yet, behind, ?_, ?_⟩
  · have both := untaken.trans consumed
    rwa [List.length_nil, Nat.zero_add] at both
  · rw [request, Action.bind_of_ok asked, receiveLength, Action.bind_of_ok ended]
    split <;> rfl

variable {accepted : Link} {length : UInt64}

theorem result_toStream_of_accepted (requested : download.request link = .ok length accepted)
    (sink : Sink) : Action.result (download.toStream (link, sink)) =
      (Action.result (receiveBody length.toNat (accepted, sink))).map fun _ => length := by
  rw [toStream, Action.bind_of_ok (Action.onFirst_of_ok requested sink)]
  exact Action.result_bind_pure (receiveBody length.toNat) (fun _ => length) (accepted, sink)

theorem toStream_of_accepted (requested : download.request link = .ok length accepted)
    (opened : accepted.isOpen = true) (room : Nat) (kept : Bytes) :
    let ended := download.toStream (link, .stream (some room) kept)
    (Action.after ended).2.delivered =
      kept ++ (accepted.unread.chunked length.toNat).take room ∧
    (length.toNat ≤ accepted.unread.length → length.toNat ≤ room →
      Action.result ended = .ok length ∧
        accepted.Consumes length.toNat (Action.after ended).1) ∧
    (accepted.unread.length < length.toNat ∨ room < length.toNat →
      ∃ cause, Action.result ended = .error (.transfer cause)) := by
  intro ended
  have fits := Sink.result_write_eq_ok_iff (accepted.unread.chunked length.toNat) room kept
  have filled := Sink.delivered_write (accepted.unread.chunked length.toNat) room kept
  have left := after_toStream_of_accepted requested (.stream (some room) kept)
  have result := result_toStream_of_accepted requested (.stream (some room) kept)
  rcases receiveBody_as_one_write length.toNat opened (some room) kept with
    ⟨last, done, stored, consumed⟩ | ⟨cause, last, failed, short⟩
  · rw [done] at left result
    have there := consumed.there
    have sized : (accepted.unread.chunked length.toNat).length = length.toNat := by
      rw [Bytes.chunked_of_le there, List.length_take_of_le there]
    rw [fits, sized] at stored
    refine ⟨?_, ?_, ?_⟩
    · rw [left, ← filled]
      rfl
    · intro _ _
      rw [left]
      exact ⟨result, consumed⟩
    · intro either
      omega
  · rw [failed] at left result
    refine ⟨?_, ?_, ?_⟩
    · rw [left, ← filled]
      rfl
    · intro there enough
      rw [fits, Bytes.chunked_of_le there, List.length_take_of_le there] at short
      have behind := short enough
      omega
    · intro _
      exact ⟨cause, result⟩

end

/-- Once a request was sent and a good header came, a download into a stream with room for `room`
bytes fails before the body if more is declared than was asked for. Otherwise it succeeds exactly if
the whole body is there and there is room for it. It then delivers the body and takes no more of the
response; else it fails by a fault of transfer, once it delivered what there was room for of the
body, or of the chunks that are there if the body breaks off. It takes one round for each chunk at
most, and never delivers more than was asked for. -/
theorem streamed_exactly {download : Download} {link told : Link} {header : Header} {body : Bytes}
    (asked : download.send link = .ok () told) (answered : link.unread = header.encode ++ body)
    (good : header.IsGood) (room : Nat) (kept : Bytes) :
    let length := header.length.toNat
    let ended := download.toStream (link, .stream (some room) kept)
    let delivered := (Action.after ended).2.delivered
    (download.count ≠ 0 → download.count < header.length →
      Action.result ended = .error (.frame (.downloadLength header.length)) ∧
        delivered = kept ∧ link.Consumes Header.width (Action.after ended).1) ∧
    (download.count = 0 ∨ header.length ≤ download.count →
      (∀ value, Action.result ended = .ok value ↔
        value = header.length ∧ length ≤ body.length ∧ length ≤ room) ∧
      (length ≤ body.length → length ≤ room → delivered = kept ++ body.take length ∧
        link.Consumes (Header.width + length) (Action.after ended).1) ∧
      (body.length < length ∨ room < length →
        ∃ cause, Action.result ended = .error (.transfer cause)) ∧
      (body.length < length →
        delivered = kept ++ body.take (min room (65536 * (body.length / 65536)))) ∧
      (length ≤ body.length → room < length → delivered = kept ++ body.take room)) ∧
    (receiveBody length = forM (chunkSizes length) receiveChunk ∧
      (chunkSizes length).length = (length + 65535) / 65536) ∧
    (download.count ≠ 0 → ∃ part, delivered = kept ++ part ∧
      part.length ≤ download.count.toNat) := by
  intro length ended delivered
  obtain ⟨accepted, opened, left, consumed, requested⟩ := request_of_answer asked answered good
  have rounds : (chunkSizes length).length = (length + 65535) / 65536 := length_chunkSizes length
  by_cases refused : 0 < download.count ∧ download.count < header.length
  · rw [if_pos refused] at requested
    have failed : ended = _ := toStream_of_refused requested (.stream (some room) kept)
    have untouched : delivered = kept := by
      show (Action.after ended).2.delivered = kept
      rw [failed]
      rfl
    refine ⟨?_, ?_, ⟨receiveBody_eq_rounds length, rounds⟩, ?_⟩
    · intro _ _
      rw [failed]
      exact ⟨rfl, untouched, consumed⟩
    · rintro (all | within)
      · exact absurd all (UInt64.pos_iff_ne_zero.mp refused.1)
      · exact absurd within (UInt64.not_le.mpr refused.2)
    · intro _
      exact ⟨[], by rw [untouched, List.append_nil], Nat.zero_le _⟩
  · rw [if_neg refused] at requested
    obtain ⟨filled, whole, broken⟩ := toStream_of_accepted requested opened room kept
    rw [left] at filled whole broken
    have within : download.count ≠ 0 → header.length ≤ download.count := fun some =>
      UInt64.not_lt.mp fun greater => refused ⟨UInt64.pos_iff_ne_zero.mpr some, greater⟩
    refine ⟨?_, ?_, ⟨receiveBody_eq_rounds length, rounds⟩, ?_⟩
    · intro some greater
      exact absurd (within some) (UInt64.not_le.mpr greater)
    · intro _
      refine ⟨?_, ?_, broken, ?_, ?_⟩
      · intro value
        constructor
        · intro done
          by_cases fits : body.length < length ∨ room < length
          · obtain ⟨cause, failed⟩ := broken fits
            cases done.symm.trans failed
          · have there : length ≤ body.length := by omega
            have enough : length ≤ room := by omega
            cases done.symm.trans (whole there enough).1
            exact ⟨rfl, there, enough⟩
        · rintro ⟨rfl, there, enough⟩
          exact (whole there enough).1
      · intro there enough
        refine ⟨?_, consumed.trans (whole there enough).2⟩
        rw [Bytes.take_chunked_of_le there, Nat.min_eq_right enough] at filled
        exact filled
      · intro short
        rw [Bytes.take_chunked_of_lt short] at filled
        exact filled
      · intro there full
        rw [Bytes.take_chunked_of_le there, Nat.min_eq_left (Nat.le_of_lt full)] at filled
        exact filled
    · intro some
      refine ⟨_, filled, ?_⟩
      have chunks := body.length_chunked_le header.length.toNat
      have limit := UInt64.le_iff_toNat_le.mp (within some)
      rw [List.length_take]
      omega

/-- A stream with room for one byte more than a chunk, and a body that lacks its last byte. -/
theorem streamed_exactly_of_broken_chunk :
    let download : Download := ⟨⟨[103], [102]⟩, 5, 131072⟩
    let link := Link.inMemory []
      (Header.encode ⟨131072, Command.answer, 0⟩ ++ List.replicate 131071 7) none true
    let ended := download.toStream (link, .stream (some 65537) [1])
    (∃ cause, Action.result ended = .error (.transfer cause)) ∧
      (Action.after ended).2.delivered = 1 :: List.replicate 65536 7 := by
  intro download link ended
  obtain ⟨told, asked⟩ : ∃ told, download.send link = .ok () told := by
    rw [send_eq_write]
    exact ⟨_, Link.write_of_room_eq_none rfl rfl _⟩
  have count : (List.replicate 131071 (7 : UInt8)).length = 131071 := List.length_replicate
  have good : Header.IsGood ⟨131072, Command.answer, 0⟩ := ⟨rfl, rfl, by decide⟩
  obtain ⟨-, granted, -⟩ := streamed_exactly asked rfl good 65537 [1]
  obtain ⟨-, -, failed, broken, -⟩ := granted (.inr (by decide))
  have short : (List.replicate 131071 (7 : UInt8)).length < (131072 : UInt64).toNat := by
    rw [count]
    decide
  refine ⟨failed (.inl short), (broken short).trans ?_⟩
  rw [count]
  exact congrArg (1 :: ·) List.take_replicate

end Download

end TrackedStorage
