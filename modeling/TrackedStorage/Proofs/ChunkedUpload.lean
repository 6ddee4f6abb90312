import TrackedStorage.Proofs.Answers

set_option autoImplicit false

namespace TrackedStorage

open TrackedStorage.Action (Ends)

theorem Action.owning_eq_error {σ τ α : Type} {part : τ} {action : Action (σ × τ) α}
    {state last : σ} {fault : Fault} (failed : owning part action state = .error fault last) :
    ∃ left, action (state, part) = .error fault (last, left) := by
  unfold owning at failed
  split at failed
  · cases failed
  · rename_i left ran
    cases failed
    exact ⟨left, ran⟩

namespace Source

variable {content : Bytes} {count : Nat}

theorem read_of_le (there : count ≤ content.length) :
    read count ⟨content, false⟩ = .ok (content.take count) ⟨content.drop count, false⟩ := by
  have sized : (content.take count).length = count := List.length_take_of_le there
  simp [read, sized]

theorem read_of_lt (short : content.length < count) :
    read count ⟨content, false⟩ = .error (.transfer .shortSource) ⟨[], true⟩ := by
  have fewer : (content.take count).length ≠ count := by
    rw [List.length_take]
    omega
  simp only [read, fewer, Bool.false_eq_true, ↓reduceIte]

end Source

theorem Header.decode_take_encode_append (header : Header) (rest : Bytes) :
    decode ((header.encode ++ rest).take 10) = header := by
  have front : (header.encode ++ rest).take 10 = header.encode :=
    List.take_left' header.length_encode
  have same := decode_encode_append header []
  rwa [List.append_nil, ← front] at same

namespace Upload

def send (upload : Upload) : Action (Link × Source) Unit := do
  Action.onFirst upload.sendHeader
  sendContent upload.size.toNat

/-- What is sent for a source that holds `content`: a header that declares 15 bytes more than the
file has, those 15, and as much of `content` as comes through. -/
def frame (upload : Upload) (content : Bytes) : Bytes :=
  Header.encode ⟨15 + upload.size, 11, 0⟩ ++
    (upload.pathIndex :: (BigEndian.encode upload.size ++ Field.padded upload.extension 6)) ++
    content.chunked upload.size.toNat

/-- How much of a response belongs to the answer: a header and, if that is the one of a good answer,
a body of 17 to 144 bytes, as far as they are there. -/
def answerLength (response : Bytes) : Nat :=
  let header := Header.decode (response.take 10)
  let isFollowed := header.command = 100 ∧ header.status = 0 ∧ 16 < header.length.toNat ∧
    header.length.toNat ≤ 144
  min (if isFollowed then 10 + header.length.toNat else 10) response.length

/-- The lengths of answers to an upload: a filename follows the group, and is not too long. -/
def IsFit (length : UInt64) : Prop :=
  FileId.groupWidth < length.toNat ∧ length.toNat ≤ FileId.groupWidth + filenameWidth

instance decidableIsFit : DecidablePred IsFit := fun _ => inferInstanceAs (Decidable (_ ∧ _))

theorem receive_eq : receive = Frame.receive IsFit .uploadLength idOfBody := rfl

/-- No length of an answer to an upload is out of range. -/
theorem isGood_and_isFit_iff {header : Header} : header.IsGood ∧ IsFit header.length ↔
    header.command = 100 ∧ header.status = 0 ∧ 16 < header.length.toNat ∧
      header.length.toNat ≤ 144 := by
  have limit : Header.maxLength.toNat = 2 ^ 63 - 1 := rfl
  constructor
  · rintro ⟨good, fit⟩
    exact ⟨good.command, good.status, fit⟩
  · rintro ⟨command, status, fit⟩
    refine ⟨⟨command, status, ?_⟩, fit⟩
    rw [UInt64.le_iff_toNat_le, limit]
    omega

section
variable {header : Header}

theorem answerLength_of_fit (good : header.IsGood) (fit : IsFit header.length) (rest : Bytes) :
    answerLength (header.encode ++ rest) =
      Header.width + min header.length.toNat rest.length := by
  have followed := isGood_and_isFit_iff.mp ⟨good, fit⟩
  simp only [answerLength, Header.decode_take_encode_append]
  rw [if_pos followed, List.length_append, Header.length_encode, Header.width,
    Nat.add_min_add_left]

theorem answerLength_of_unfit (unfit : ¬ (header.IsGood ∧ IsFit header.length)) (rest : Bytes) :
    answerLength (header.encode ++ rest) = Header.width := by
  have alone := mt isGood_and_isFit_iff.mpr unfit
  simp only [answerLength, Header.decode_take_encode_append]
  rw [if_neg alone, List.length_append, Header.length_encode, Header.width]
  omega

end

theorem answerLength_of_short {response : Bytes} (short : response.length < 10) :
    answerLength response = response.length := by
  simp only [answerLength]
  split <;> omega

section
variable {link : Link} (opened : link.isOpen = true)
include opened

theorem consumes_receive_of_good {header : Header} {rest : Bytes} (good : header.IsGood)
    (left : link.unread = header.encode ++ rest) :
    link.Consumes (answerLength link.unread) (Action.after (receive link)) := by
  rw [receive_eq]
  by_cases fit : IsFit header.length
  · have length := answerLength_of_fit good fit rest
    rw [← left] at length
    by_cases there : header.length.toNat ≤ rest.length
    · -- The body is the front of what follows the header.
      let answer : Frame := ⟨header, rest.take header.length.toNat,
        (List.length_take_of_le there).symm⟩
      have answered : link.unread = answer.encode ++ rest.drop header.length.toNat := by
        rw [left, Frame.encode, List.append_assoc, List.take_append_drop]
      have ended : Ends (Frame.receive IsFit .uploadLength idOfBody) link (idOfBody answer.body)
          (Header.width + answer.body.length) := Frame.receive_of_whole opened answered good fit
      rw [length, Nat.min_eq_left there, answer.sized]
      exact ended.consumed
    · have short := Nat.not_le.mp there
      have whole : link.unread.length = Header.width + rest.length := by
        rw [left, List.length_append, Header.length_encode]
      obtain ⟨cause, ended⟩ :=
        @Frame.receive_of_cut _ IsFit _ .uploadLength idOfBody _ opened _ _ left good fit short
      rw [length, Nat.min_eq_right (Nat.le_of_lt short), ← whole]
      exact ended.consumed
  · have length := answerLength_of_unfit (fun both => fit both.2) rest
    rw [← left] at length
    rw [length]
    exact (Frame.receive_of_misfit opened left good fit).consumed

/-- Reading an answer takes the part of a response that belongs to it, whatever the response. -/
theorem consumes_receive :
    link.Consumes (answerLength link.unread) (Action.after (receive link)) := by
  by_cases headed : Header.width ≤ link.unread.length
  · obtain ⟨header, rest, left⟩ : ∃ header rest, link.unread = Header.encode header ++ rest := by
      refine ⟨Header.decode (link.unread.take Header.width), link.unread.drop Header.width, ?_⟩
      rw [Header.encode_decode (List.length_take_of_le headed), List.take_append_drop]
    rcases header.isGood_or_refused with good | ⟨fault, refused⟩
    · exact consumes_receive_of_good opened good left
    · have length := answerLength_of_unfit (fun both => refused.not_isGood both.1) rest
      rw [← left] at length
      rw [receive_eq, length]
      exact (Frame.receive_of_refused opened left refused).consumed
  · have short := Nat.not_le.mp headed
    obtain ⟨cause, ended⟩ :=
      @Frame.receive_of_headless _ IsFit _ .uploadLength idOfBody _ opened short
    rw [receive_eq, answerLength_of_short short]
    exact ended.consumed

end

theorem metaBytes_eq (upload : Upload) : upload.metaBytes =
    upload.pathIndex :: (BigEndian.encode upload.size ++ Field.padded upload.extension 6) := by
  simp [metaBytes, Field.encodeAll, Field.encode, extensionWidth]

theorem run_eq_send (upload : Upload) :
    upload.run = (upload.send >>= fun _ => Action.onFirst receive) := by
  rw [run, send, bind_assoc]

theorem sendHeader_eq_write (upload : Upload) :
    upload.sendHeader = Link.write (Header.encode ⟨15 + upload.size, 11, 0⟩ ++
      (upload.pathIndex :: (BigEndian.encode upload.size ++ Field.padded upload.extension 6))) := by
  rw [← metaBytes_eq, Link.write_append]
  rfl

/-- What follows a write of `front` chunk by chunk might as well be part of that write. -/
theorem write_sendContent (front content : Bytes) (remaining : Nat) :
    (Link.write front >>= fun _ => Action.owning ⟨content, false⟩ (sendContent remaining)) =
      (Link.write (front ++ content.chunked remaining) >>= fun _ =>
        if remaining ≤ content.length then pure ((), ⟨content.drop remaining, false⟩)
        else throw (.transfer .shortSource)) := by
  induction remaining using Nat.strongRecOn generalizing front content with
  | ind remaining ih =>
      rw [sendContent]
      by_cases none : remaining = 0
      · rw [if_pos none, Action.owning_pure, none, Bytes.chunked_zero, List.append_nil,
          if_pos (Nat.zero_le _), List.drop_zero]
      · rw [if_neg none, Action.owning_bind]
        have fewer : remaining - min chunkSize remaining < remaining := by
          simp only [chunkSize]
          omega
        by_cases filled : min chunkSize remaining ≤ content.length
        · have behind : (remaining - min chunkSize remaining ≤
              (content.drop (min chunkSize remaining)).length) = (remaining ≤ content.length) := by
            rw [List.length_drop, eq_iff_iff]
            omega
          have last : (content.drop (min chunkSize remaining)).drop
              (remaining - min chunkSize remaining) = content.drop remaining := by
            rw [List.drop_drop]
            congr 1
            omega
          rw [Action.owning_onSecond_of_ok (Source.read_of_le filled), pure_bind]
          simp only [Action.owning_bind, Action.owning_onFirst, bind_assoc, pure_bind]
          rw [← bind_assoc, ← Link.write_append, ih _ fewer, Bytes.chunked_of_filled filled,
            List.append_assoc, last]
          simp only [behind]
        · have short : content.length < min chunkSize remaining := by omega
          rw [Action.owning_onSecond_of_error (Source.read_of_lt short),
            Bytes.chunked_of_unfilled short, List.append_nil, if_neg (by omega)]
          rfl

/-- Sending is one write of the whole frame, which then fails if the source was too short. -/
theorem owning_send (upload : Upload) (content : Bytes) :
    Action.owning ⟨content, false⟩ upload.send =
      (Link.write (upload.frame content) >>= fun _ =>
        if upload.size.toNat ≤ content.length then
          pure ((), ⟨content.drop upload.size.toNat, false⟩)
        else throw (.transfer .shortSource)) := by
  rw [send, Action.owning_bind, Action.owning_onFirst, bind_assoc, sendHeader_eq_write]
  simp only [pure_bind]
  rw [write_sendContent, frame]

section
variable {upload : Upload} {content : Bytes} {link : Link} (opened : link.isOpen = true)
include opened

theorem send_of_fits (fits : link.HasRoom (upload.frame content).length)
    (enough : upload.size.toNat ≤ content.length) :
    ∃ sent, upload.send (link, ⟨content, false⟩) =
        .ok () (sent, ⟨content.drop upload.size.toNat, false⟩) ∧
      sent.isOpen = true ∧ Link.Moved (upload.frame content) [] link sent := by
  have wrote := Link.write_of_hasRoom opened fits
  have ended := congrFun (owning_send upload content) link
  rw [Action.bind_of_ok wrote, if_pos enough] at ended
  exact ⟨_, Action.owning_eq_ok ended, opened, Link.write_moved wrote⟩

theorem send_of_short (fits : link.HasRoom (upload.frame content).length)
    (short : content.length < upload.size.toNat) :
    ∃ last left, upload.send (link, ⟨content, false⟩) =
        .error (.transfer .shortSource) (last, left) ∧
      Link.Moved (upload.frame content) [] link last := by
  have wrote := Link.write_of_hasRoom opened fits
  have ended := congrFun (owning_send upload content) link
  rw [Action.bind_of_ok wrote, if_neg (by omega)] at ended
  obtain ⟨left, failed⟩ := Action.owning_eq_error ended
  exact ⟨_, left, failed, Link.write_moved wrote⟩

theorem send_of_full (full : ¬ link.HasRoom (upload.frame content).length) :
    ∃ last left, upload.send (link, ⟨content, false⟩) =
        .error (.transfer (link.fall .write).1) (last, left) ∧
      Link.Moved (link.accepted (upload.frame content)) [] link last := by
  obtain ⟨last, cut, moved⟩ := Link.exists_write_of_full opened full
  have ended := congrFun (owning_send upload content) link
  rw [Action.bind_of_error cut] at ended
  obtain ⟨left, failed⟩ := Action.owning_eq_error ended
  exact ⟨last, left, failed, moved⟩

end

/-- Over an open link an upload writes what one write of its frame would: all of it that the link
accepts. It goes on to read the answer exactly if that was all and the source held the announced
number of bytes. These are then gone from the source, and so is from the response what belongs to
the answer. Otherwise nothing is taken of the response, and the fault is that of the write, if it
came to that, or else the one of a source that is too short. -/
theorem sends_as_one_write (upload : Upload) {source : Source} (running : source.hasEnded = false)
    {link : Link} (opened : link.isOpen = true) :
    let frame := upload.frame source.content
    let sending := upload.send (link, source)
    let ended := upload.run (link, source)
    (Action.after ended).1.written = link.written ++ link.accepted frame ∧
    ((∃ last, sending = .ok () last) ↔
      upload.size.toNat ≤ source.content.length ∧ link.HasRoom frame.length) ∧
    (∀ sent left, sending = .ok () (sent, left) →
      ended = Action.onFirst receive (sent, left) ∧ Link.Moved frame [] link sent ∧
        left = ⟨source.content.drop upload.size.toNat, false⟩) ∧
    (upload.size.toNat ≤ source.content.length → link.HasRoom frame.length →
      link.Consumes (answerLength link.unread) (Action.after ended).1 ∧
        (Action.after ended).2 = ⟨source.content.drop upload.size.toNat, false⟩) ∧
    (¬ link.HasRoom frame.length →
      Action.result ended = .error (.transfer (link.fall .write).1) ∧
        Link.Moved (link.accepted frame) [] link (Action.after ended).1) ∧
    (link.HasRoom frame.length → source.content.length < upload.size.toNat →
      Action.result ended = .error (.transfer .shortSource) ∧
        Link.Moved frame [] link (Action.after ended).1) := by
  intro frame sending ended
  have whole : ended = (upload.send >>= fun _ => Action.onFirst receive) (link, source) :=
    congrFun upload.run_eq_send (link, source)
  obtain ⟨content, rfl⟩ : ∃ content, source = ⟨content, false⟩ :=
    ⟨source.content, by rw [← running]⟩
  by_cases fits : link.HasRoom frame.length
  · by_cases enough : upload.size.toNat ≤ content.length
    · obtain ⟨sent, sentOk, still, moved⟩ := send_of_fits opened fits enough
      rw [Action.bind_of_ok sentOk] at whole
      refine ⟨?_, ⟨fun _ => ⟨enough, fits⟩, fun _ => ⟨_, sentOk⟩⟩, ?_, ?_,
        fun full => absurd fits full, fun _ short => absurd enough (Nat.not_le.mpr short)⟩
      · rw [whole, Link.accepted_of_hasRoom fits, ← moved.written]
        exact Action.keeps_onFirst keeps_written_receive _
      · intro other left same
        cases sentOk.symm.trans same
        exact ⟨whole, moved, rfl⟩
      · intro _ _
        have untaken : sent.unread = link.unread := moved.consumes.unread
        have consumed := moved.consumes.trans (consumes_receive still)
        rw [List.length_nil, Nat.zero_add, untaken] at consumed
        rw [whole, Action.after_onFirst]
        exact ⟨consumed, Action.after_onFirst_snd _ _⟩
    · obtain ⟨last, left, failed, moved⟩ := send_of_short opened fits (Nat.not_le.mp enough)
      rw [Action.bind_of_error failed] at whole
      refine ⟨?_, ⟨?_, fun both => absurd both.1 enough⟩, ?_, fun there => absurd there enough,
        fun full => absurd fits full, ?_⟩
      · rw [whole, Action.after, moved.written, Link.accepted_of_hasRoom fits]
      · rintro ⟨other, same⟩
        cases failed.symm.trans same
      · intro sent left same
        cases failed.symm.trans same
      · intro _ _
        rw [whole]
        exact ⟨rfl, moved⟩
  · obtain ⟨last, left, failed, moved⟩ := send_of_full opened fits
    rw [Action.bind_of_error failed] at whole
    refine ⟨?_, ⟨?_, fun both => absurd both.2 fits⟩, ?_, fun _ room => absurd room fits, ?_,
      fun room => absurd room fits⟩
    · rw [whole, Action.after, moved.written]
    · rintro ⟨other, same⟩
      cases failed.symm.trans same
    · intro sent left same
      cases failed.symm.trans same
    · intro _
      rw [whole]
      exact ⟨rfl, moved⟩

/-- A source one byte short of two chunks, over a link with room for exactly what comes through. And
a short file whose upload is answered, with a byte left of the source and one of the response. -/
theorem sends_as_one_write_of_short_and_long_source :
    let short : Upload := ⟨3, 131072, [116]⟩
    let few := Source.ofContent (List.replicate 131071 7)
    let sent := [0, 0, 0, 0, 0, 2, 0, 15, 11, 0, 3, 0, 0, 0, 0, 0, 2, 0, 0, 116, 0, 0, 0, 0, 0] ++
      List.replicate 65536 7
    let silent := Link.inMemory [] [1, 2] (some sent.length) true
    let long : Upload := ⟨3, 2, [116]⟩
    let many := Source.ofContent [5, 6, 7]
    let response := Header.encode ⟨18, Command.answer, 0⟩ ++ List.replicate 18 103 ++ [9]
    let answering := Link.inMemory [] response none true
    (few.hasEnded = false ∧ silent.isOpen = true ∧
      Action.result (short.run (silent, few)) = .error (.transfer .shortSource) ∧
      (Action.after (short.run (silent, few))).1.written = sent ∧
      (Action.after (short.run (silent, few))).1.unread = [1, 2]) ∧
    many.hasEnded = false ∧ answering.isOpen = true ∧
      (Action.after (long.run (answering, many))).1.written =
        [0, 0, 0, 0, 0, 0, 0, 17, 11, 0, 3, 0, 0, 0, 0, 0, 0, 0, 2, 116, 0, 0, 0, 0, 0, 5, 6] ∧
      (Action.after (long.run (answering, many))).1.unread = [9] ∧
      (Action.after (long.run (answering, many))).2 = ⟨[7], false⟩ := by
  intro short few sent silent long many response answering
  refine ⟨?_, ?_⟩
  · have count : few.content.length = 131071 := List.length_replicate
    have missing : few.content.length < short.size.toNat := by
      rw [count]
      decide
    have through : few.content.chunked short.size.toNat = List.replicate 65536 7 := by
      rw [Bytes.chunked_of_lt missing, count]
      exact List.take_replicate
    have front : Header.encode ⟨15 + short.size, 11, 0⟩ ++ (short.pathIndex ::
        (BigEndian.encode short.size ++ Field.padded short.extension 6)) =
        [0, 0, 0, 0, 0, 2, 0, 15, 11, 0, 3, 0, 0, 0, 0, 0, 2, 0, 0, 116, 0, 0, 0, 0, 0] := by
      decide
    have same : short.frame few.content = sent := by rw [Upload.frame, through, front]
    have fits : silent.HasRoom sent.length := (Link.hasRoom_iff rfl _).mpr (Nat.le_refl _)
    obtain ⟨-, -, -, -, -, failed⟩ := @sends_as_one_write short few rfl silent rfl
    rw [same] at failed
    obtain ⟨result, moved⟩ := failed fits missing
    have untaken := moved.unread
    rw [List.nil_append] at untaken
    exact ⟨rfl, rfl, result, moved.written, untaken.symm⟩
  · obtain ⟨written, -, -, read, -⟩ := @sends_as_one_write long many rfl answering rfl
    obtain ⟨consumed, left⟩ := read (by decide) (Link.hasRoom_of_none rfl _)
    refine ⟨rfl, rfl, ?_, ?_, left⟩
    · rw [written]
      decide
    · rw [consumed.unread]
      decide

end Upload

end TrackedStorage
