import TrackedStorage.Proofs.Answers
import TrackedStorage.Proofs.ChunkedUpload
import TrackedStorage.Proofs.Dialogues

set_option autoImplicit false

namespace TrackedStorage

open TrackedStorage.Action (Ends IsDialogue)

def Frame.IsAssigning (answer : Frame) : Prop :=
  answer.IsAnswer ∧ 16 < answer.body.length ∧ answer.body.length ≤ 144

theorem Frame.isAssigning_iff {answer : Frame} :
    answer.IsAssigning ↔ answer.header.IsGood ∧ Upload.IsFit answer.header.length := by
  rw [IsAssigning, IsAnswer, ← answer.sized, and_assoc]
  exact Upload.isGood_and_isFit_iff.symm

/-- The identifier that a body describes: it begins with the group, and the rest of it is the
filename, whatever bytes that holds. -/
structure FileId.IsDescribed (id : FileId) (body : Bytes) : Prop where
  named : body.getD 0 0 ≠ 0
  group : id.group = Bytes.beforeNul (body.take 16)
  filename : id.filename = body.drop 16

namespace Upload

theorem group_eq_nil_iff (body : Bytes) :
    Field.unpadded body FileId.groupWidth = [] ↔ body.getD 0 0 = 0 :=
  Field.unpadded_drop_eq_nil_iff body 0 (by decide)

theorem idOfBody_of_groupless {body : Bytes} (groupless : body.getD 0 0 = 0) :
    idOfBody body = .error (.frame .emptyGroup) :=
  if_pos ((group_eq_nil_iff body).mpr groupless)

/-- A body is read as the one identifier that it describes. -/
theorem idOfBody_eq_ok_iff {body : Bytes} {id : FileId} :
    idOfBody body = .ok id ↔ id.IsDescribed body := by
  by_cases groupless : body.getD 0 0 = 0
  · rw [idOfBody_of_groupless groupless]
    constructor
    · intro same
      cases same
    · intro assigned
      exact absurd groupless assigned.named
  · have read : idOfBody body =
        .ok ⟨Bytes.beforeNul (body.take 16), body.drop 16⟩ :=
      if_neg fun none => groupless ((group_eq_nil_iff body).mp none)
    rw [read]
    constructor
    · intro same
      cases same
      exact ⟨groupless, rfl, rfl⟩
    · intro assigned
      rw [← assigned.group, ← assigned.filename]

/-- Over its link an upload ends in `result`, with exactly `count` bytes of the response taken. -/
structure Concludes (upload : Upload) (link : Link) (source : Source) (result : Except Fault FileId)
    (count : Nat) : Prop where
  result : Action.result (upload.run (link, source)) = result
  consumed : link.Consumes count (Action.after (upload.run (link, source))).1

section
variable {upload : Upload} {link sent : Link} {source left : Source}

theorem isOpen_of_send (done : upload.send (link, source) = .ok () (sent, left)) :
    sent.isOpen = true ∧ link.Consumes 0 sent := by
  obtain ⟨⟨⟩, _, opening, contentOk⟩ := Action.bind_eq_ok done
  obtain ⟨announced, headerOk, rfl⟩ := Action.on_eq_ok opening
  have opened : announced.isOpen = true := by
    have dialogue : IsDialogue upload.sendHeader := .next (.sent _) fun _ => .sent _
    refine dialogue.isOpen_of_opening ?_ headerOk
    intro other closed
    exact ⟨_, _, Action.bind_of_error (Link.write_of_closed closed _) _⟩
  have owned : Action.owning source (sendContent upload.size.toNat) announced =
      .ok ((), left) sent := by
    simp only [Action.owning, contentOk]
  obtain ⟨content, -, -, moved⟩ := sendContent_moved contentOk
  have still := (isDialogue_sendContent _ source).isOpen_eq owned
  exact ⟨still.trans opened, ((sendHeader_moved headerOk).trans moved).consumes⟩

variable (done : upload.send (link, source) = .ok () (sent, left))
include done

theorem run_of_sent : upload.run (link, source) = Action.onFirst receive (sent, left) := by
  rw [run_eq_send, Action.bind_of_ok done]

/-- What becomes of an upload that was sent is what becomes of its answer. -/
theorem concludes_of_sent {result : Except Fault FileId} {count : Nat}
    (answered : Ends (Frame.receive IsFit .uploadLength idOfBody) sent result count) :
    upload.Concludes link source result count := by
  have consumed := (isOpen_of_send done).2.trans answered.consumed
  rw [Nat.zero_add] at consumed
  refine ⟨?_, ?_⟩
  · rw [run_of_sent done, Action.result_onFirst]
    exact answered.result
  · rw [run_of_sent done, Action.after_onFirst]
    exact consumed

theorem result_run_eq_ok_iff {id : FileId} : Action.result (upload.run (link, source)) = .ok id ↔
    ∃ answer rest, link.unread = Frame.encode answer ++ rest ∧ answer.IsAssigning ∧
      id.IsDescribed answer.body := by
  obtain ⟨still, consumed⟩ := isOpen_of_send done
  rw [run_of_sent done, Action.result_onFirst, receive_eq, Frame.receive_eq_ok_iff still,
    consumed.unread, List.drop_zero]
  refine exists_congr fun answer => exists_congr fun rest => and_congr_right fun _ => ?_
  rw [← and_assoc, ← Frame.isAssigning_iff, idOfBody_eq_ok_iff]

end

/-- Once an upload was sent, it gives an identifier exactly if the link answers with a frame that
describes it, and takes that frame and nothing else. It fails on any other answer: one that is
refused for its header or for its length, however long that is, costs the header only, one without
a group costs its frame, and one that breaks off all there is. -/
theorem assigned_id_exact {upload : Upload} {link sent : Link} {source left : Source}
    (done : upload.send (link, source) = .ok () (sent, left)) :
    (∀ id, Action.result (upload.run (link, source)) = .ok id ↔
      ∃ answer rest, link.unread = Frame.encode answer ++ rest ∧ answer.IsAssigning ∧
        id.IsDescribed answer.body) ∧
    (∀ id, Action.result (upload.run (link, source)) = .ok id →
      1 ≤ id.filename.length ∧ id.filename.length ≤ 128) ∧
    (∀ answer rest, link.unread = Frame.encode answer ++ rest → answer.IsAssigning →
      (∀ id, id.IsDescribed answer.body →
        upload.Concludes link source (.ok id) (Header.width + answer.body.length)) ∧
      (answer.body.getD 0 0 = 0 →
        upload.Concludes link source (.error (.frame .emptyGroup))
          (Header.width + answer.body.length))) ∧
    (∀ header rest, link.unread = Header.encode header ++ rest →
      (∀ fault, header.Refused fault →
        upload.Concludes link source (.error fault) Header.width) ∧
      (header.command = Command.answer → header.status = 0 →
        header.length.toNat < 17 ∨ 144 < header.length.toNat →
        upload.Concludes link source (.error (.frame
          (if Header.maxLength < header.length then .lengthOutOfRange
          else .uploadLength header.length))) Header.width) ∧
      (header.IsGood → 17 ≤ header.length.toNat → header.length.toNat ≤ 144 →
        rest.length < header.length.toNat → ∃ cause,
          upload.Concludes link source (.error (.transfer cause)) link.unread.length)) ∧
    (link.unread.length < Header.width → ∃ cause,
      upload.Concludes link source (.error (.transfer cause)) link.unread.length) := by
  have exact := fun id => @result_run_eq_ok_iff upload link sent source left done id
  obtain ⟨still, consumed⟩ := isOpen_of_send done
  have untaken : sent.unread = link.unread := consumed.unread
  refine ⟨exact, ?_, ?_, ?_, ?_⟩
  · intro id assigned
    obtain ⟨answer, rest, -, ⟨-, long, short⟩, described⟩ := (exact id).mp assigned
    rw [described.filename, List.length_drop]
    omega
  · intro answer rest answered assigning
    obtain ⟨good, fit⟩ := Frame.isAssigning_iff.mp assigning
    rw [← untaken] at answered
    have read : Ends (Frame.receive IsFit .uploadLength idOfBody) sent (idOfBody answer.body)
        (Header.width + answer.body.length) := Frame.receive_of_whole still answered good fit
    refine ⟨?_, ?_⟩
    · intro id described
      rw [idOfBody_eq_ok_iff.mpr described] at read
      exact concludes_of_sent done read
    · intro groupless
      rw [idOfBody_of_groupless groupless] at read
      exact concludes_of_sent done read
  · intro header rest answered
    rw [← untaken] at answered ⊢
    refine ⟨?_, ?_, ?_⟩
    · intro fault refused
      apply concludes_of_sent done
      exact Frame.receive_of_refused still answered refused
    · intro command status outside
      apply concludes_of_sent done
      split
      · rename_i long
        exact Frame.receive_of_refused still answered (.length command status long)
      · rename_i short
        have good : header.IsGood := ⟨command, status, UInt64.not_lt.mp short⟩
        have unfit : ¬ IsFit header.length := by
          rintro ⟨least, most⟩
          simp only [FileId.groupWidth, filenameWidth] at least most
          omega
        exact Frame.receive_of_misfit still answered good unfit
    · intro good least most short
      have fit : IsFit header.length := ⟨least, most⟩
      obtain ⟨cause, read⟩ := Frame.receive_of_cut still answered good fit short
      exact ⟨cause, concludes_of_sent done read⟩
  · intro short
    rw [← untaken] at short ⊢
    obtain ⟨cause, read⟩ :=
      @Frame.receive_of_headless _ IsFit _ .uploadLength idOfBody _ still short
    exact ⟨cause, concludes_of_sent done read⟩

/-- A filename of a NUL and a slash, for a file that leaves a byte of its source unsent. -/
theorem assigned_id_exact_of_odd_filename :
    let upload : Upload := ⟨3, 2, [116]⟩
    let source := Source.ofContent [5, 6, 7]
    let body := [103] ++ List.replicate 15 0 ++ [0, 47]
    let link := Link.inMemory [] (Header.encode ⟨18, Command.answer, 0⟩ ++ body ++ [9]) none true
    ∃ sent left, upload.send (link, source) = .ok () (sent, left) ∧
      upload.Concludes link source (.ok ⟨[103], [0, 47]⟩) 28 := by
  intro upload source body link
  obtain ⟨sent, done, -, -⟩ := @send_of_fits upload source.content link rfl
    (Link.hasRoom_of_none rfl _) (by decide)
  have described : FileId.IsDescribed ⟨[103], [0, 47]⟩ body := ⟨by decide, by decide, by decide⟩
  obtain ⟨-, -, answered, -⟩ := assigned_id_exact done
  obtain ⟨assigned, -⟩ := answered ⟨⟨18, Command.answer, 0⟩, body, by decide⟩ [9] rfl
    ⟨⟨rfl, rfl⟩, by decide, by decide⟩
  exact ⟨sent, _, done, assigned _ described⟩

end Upload

end TrackedStorage
