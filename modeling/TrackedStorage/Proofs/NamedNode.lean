import TrackedStorage.Proofs.Answers

set_option autoImplicit false

namespace TrackedStorage

open TrackedStorage.Action (Ends)

/-- The lengths of a tracker's answers: without a path index and with one. -/
def Query.IsFit (length : UInt64) : Prop :=
  length = StorageNode.fetchLength ∨ length = StorageNode.storeLength

instance Query.decidableIsFit : DecidablePred IsFit := fun _ => inferInstanceAs (Decidable (_ ∨ _))

/-- Whether a frame has the shape of a tracker's answer, which may end in a path index. -/
def Frame.IsNaming (answer : Frame) : Prop :=
  answer.IsAnswer ∧ (answer.body.length = 39 ∨ answer.body.length = 40)

theorem Frame.isNaming_iff {answer : Frame} :
    answer.IsNaming ↔ answer.header.IsGood ∧ Query.IsFit answer.header.length := by
  have fetch : StorageNode.fetchLength.toNat = 39 := rfl
  have store : StorageNode.storeLength.toNat = 40 := rfl
  have limit : Header.maxLength.toNat = 2 ^ 63 - 1 := rfl
  rw [IsNaming, IsAnswer, Query.IsFit, ← answer.sized, ← UInt64.toNat_inj, ← UInt64.toNat_inj,
    fetch, store]
  constructor
  · rintro ⟨⟨command, status⟩, size⟩
    refine ⟨⟨command, status, ?_⟩, size⟩
    rw [UInt64.le_iff_toNat_le, limit]
    omega
  · rintro ⟨good, size⟩
    exact ⟨⟨good.command, good.status⟩, size⟩

namespace StorageNode

def portIn (body : Bytes) : Nat := BigEndian.value ((body.drop 31).take 8)

/-- Whether a body names an endpoint: its network address does not begin with NUL, and its port is
in 1 to 65535. -/
def NamesEndpoint (body : Bytes) : Prop :=
  body.getD 16 0 ≠ 0 ∧ 1 ≤ portIn body ∧ portIn body ≤ 65535

/-- The node that a body describes, each part of it at a fixed place. -/
structure IsDescribed (node : StorageNode) (body : Bytes) : Prop where
  named : NamesEndpoint body
  group : node.group = Bytes.beforeNul (body.take 16)
  host : node.endpoint.host = Bytes.beforeNul ((body.drop 16).take 15)
  port : node.endpoint.port.toNat = portIn body
  pathIndex : node.pathIndex = if body.length = 40 then body.getD 39 0 else 0

/-- The places of the parts in a body. -/
theorem ofBody_eq (body : Bytes) : ofBody body =
    if Field.unpadded (body.drop 16) 15 = [] ∨ BigEndian.decode (body.drop 31) = 0 ∨
        65535 < BigEndian.decode (body.drop 31) then .error (.frame .invalidEndpoint)
    else .ok ⟨Field.unpadded body 16,
      ⟨Field.unpadded (body.drop 16) 15, (BigEndian.decode (body.drop 31)).toUInt16⟩,
      (body.drop 39).headD 0⟩ := by
  simp only [ofBody, List.drop_drop]
  rfl

section
variable {body : Bytes} (sized : body.length = 39 ∨ body.length = 40)
include sized

theorem toNat_port : (BigEndian.decode (body.drop 31)).toNat = portIn body := by
  apply BigEndian.toNat_decode
  rw [List.length_drop, BigEndian.width]
  omega

theorem namesEndpoint_iff : NamesEndpoint body ↔
    ¬ (Field.unpadded (body.drop 16) 15 = [] ∨ BigEndian.decode (body.drop 31) = 0 ∨
      65535 < BigEndian.decode (body.drop 31)) := by
  have port := toNat_port sized
  have limit : (65535 : UInt64).toNat = 65535 := rfl
  rw [NamesEndpoint, Field.unpadded_drop_eq_nil_iff body 16 (by decide), ← port,
    ← UInt64.toNat_inj, UInt64.lt_iff_toNat_lt, limit, UInt64.toNat_zero, not_or, not_or, ne_eq,
    Nat.not_lt, Nat.one_le_iff_ne_zero]

theorem pathIndex_eq : (body.drop 39).headD 0 = if body.length = 40 then body.getD 39 0 else 0 := by
  rw [Bytes.headD_drop]
  rcases sized with fetch | store
  · rw [if_neg (by omega), List.getD_eq_getElem?_getD, List.getElem?_eq_none (by omega)]
    rfl
  · rw [if_pos store]

theorem ofBody_of_unnamed (unnamed : ¬ NamesEndpoint body) :
    ofBody body = .error (.frame .invalidEndpoint) := by
  rw [namesEndpoint_iff sized, Decidable.not_not] at unnamed
  rw [ofBody_eq, if_pos unnamed]

/-- A body is read as the one node that it describes. -/
theorem ofBody_eq_ok_iff {node : StorageNode} :
    ofBody body = .ok node ↔ node.IsDescribed body := by
  by_cases named : NamesEndpoint body
  · have port := toNat_port sized
    have fits : portIn body < UInt16.size := Nat.lt_succ_of_le named.2.2
    rw [ofBody_eq, if_neg ((namesEndpoint_iff sized).mp named)]
    constructor
    · intro same
      cases same
      refine ⟨named, rfl, rfl, ?_, pathIndex_eq sized⟩
      rw [UInt64.toNat_toUInt16, port]
      exact Nat.mod_eq_of_lt fits
    · rintro ⟨-, group, host, number, index⟩
      have same : (BigEndian.decode (body.drop 31)).toUInt16 = node.endpoint.port := by
        apply UInt16.toNat_inj.mp
        rw [UInt64.toNat_toUInt16, port, number]
        exact Nat.mod_eq_of_lt fits
      rw [same, pathIndex_eq sized, ← index, Field.unpadded, Field.unpadded, ← host, ← group]
  · rw [ofBody_of_unnamed sized named]
    constructor
    · intro same
      cases same
    · intro described
      exact absurd described.named named

end

end StorageNode

namespace Query

theorem receive_eq : receive = Frame.receive IsFit .queryLength StorageNode.ofBody := rfl

section
variable {query : Query} {link : Link}

theorem exists_sent (opened : link.isOpen = true) (fits : link.HasRoom query.request.length) :
    ∃ sent, query.send link = .ok () sent ∧ sent.isOpen = true ∧ sent.unread = link.unread ∧
      Link.Consumes 0 link sent := by
  rw [send_eq_write]
  exact Link.exists_write_of_told opened fits

/-- What becomes of a query that was sent is what becomes of its answer. -/
theorem ends_of_sent {sent : Link} {result : Except Fault StorageNode} {count : Nat}
    (done : query.send link = .ok () sent) (consumed : Link.Consumes 0 link sent)
    (answered : Ends (Frame.receive IsFit .queryLength StorageNode.ofBody) sent result count) :
    Ends query.ask link result count := by
  rw [← Nat.zero_add count]
  exact Action.ends_bind done consumed answered

theorem ends_of_untold (untold : ¬ (link.isOpen = true ∧ link.HasRoom query.request.length)) :
    ∃ cause, Ends query.ask link (.error (.transfer cause)) 0 := by
  obtain ⟨cause, last, failed, consumed⟩ := Link.exists_write_of_untold untold
  rw [← send_eq_write] at failed
  exact ⟨cause, Action.ends_bind_of_error failed consumed _⟩

theorem result_ask_eq_ok_iff {node : StorageNode} :
    Action.result (query.ask link) = .ok node ↔
      (link.isOpen = true ∧ link.HasRoom query.request.length) ∧
        ∃ answer rest, link.unread = Frame.encode answer ++ rest ∧ answer.IsNaming ∧
          node.IsDescribed answer.body := by
  by_cases told : link.isOpen = true ∧ link.HasRoom query.request.length
  · obtain ⟨sent, done, still, untaken, -⟩ := exists_sent told.1 told.2
    rw [ask, Action.bind_of_ok done, receive_eq, Frame.receive_eq_ok_iff still, untaken,
      and_iff_right told]
    refine exists_congr fun answer => exists_congr fun rest => and_congr_right fun _ => ?_
    rw [← and_assoc, ← Frame.isNaming_iff]
    exact and_congr_right fun naming => StorageNode.ofBody_eq_ok_iff naming.2
  · obtain ⟨cause, ended⟩ := ends_of_untold told
    rw [ended.result]
    constructor
    · intro named
      cases named
    · intro both
      exact absurd both.1 told

end

end Query

namespace Inquiry

/-- Over a link an inquiry ends in `result` and in `phase`, with exactly `count` bytes of the
response taken. -/
structure Concludes (inquiry : Inquiry) (link : Link) (result : Except Fault StorageNode)
    (phase : Query.Phase) (count : Nat) : Prop where
  result : Action.result (run (inquiry, link)) = result
  left : (Action.after (run (inquiry, link))).1 = { inquiry with phase := phase }
  consumed : link.Consumes count (Action.after (run (inquiry, link))).2

section
variable {inquiry : Inquiry} {link : Link} {count : Nat}

theorem concludes_of_ok {node : StorageNode}
    (ended : Ends inquiry.query.ask link (.ok node) count) :
    inquiry.Concludes link (.ok node) .done count := by
  have ran := run_of_ok (Action.eq_ok_of_result ended.result)
  refine ⟨?_, ?_, ?_⟩ <;> rw [ran]
  · rfl
  · rfl
  · exact ended.consumed

theorem concludes_of_error {fault : Fault}
    (ended : Ends inquiry.query.ask link (.error fault) count) :
    inquiry.Concludes link (.error fault) .failed count := by
  have ran := run_of_error (Action.eq_error_of_result ended.result)
  refine ⟨?_, ?_, ?_⟩ <;> rw [ran]
  · rfl
  · rfl
  · exact ended.consumed

theorem result_run (inquiry : Inquiry) (link : Link) :
    Action.result (run (inquiry, link)) = Action.result (inquiry.query.ask link) := by
  cases asked : inquiry.query.ask link with
  | ok node last => rw [run_of_ok asked, Action.result, Action.result]
  | error fault last => rw [run_of_error asked, Action.result, Action.result]

end

/-- An inquiry, in whatever phase it begins, gives a node exactly if its link is open and has room
for the request, and then answers with a frame that describes the node. It ends in the phase for
that, with exactly the frame taken. Everything else fails it: the request that is not told takes
nothing, the answer that is refused for its header or for its length takes the header only, the one
that names no endpoint takes its frame, and the one that breaks off takes all there is. -/
theorem run_ends_as_answered (inquiry : Inquiry) (link : Link) :
    let told := link.isOpen = true ∧ link.HasRoom inquiry.query.request.length
    (∀ node, Action.result (run (inquiry, link)) = .ok node ↔ told ∧
      ∃ answer rest, link.unread = Frame.encode answer ++ rest ∧ answer.IsNaming ∧
        node.IsDescribed answer.body) ∧
    (∀ fault, Action.result (run (inquiry, link)) = .error fault →
      (Action.after (run (inquiry, link))).1 = { inquiry with phase := .failed }) ∧
    (¬ told → ∃ cause, inquiry.Concludes link (.error (.transfer cause)) .failed 0) ∧
    (told →
      (∀ answer rest, link.unread = Frame.encode answer ++ rest → answer.IsNaming →
        (∀ node, node.IsDescribed answer.body →
          inquiry.Concludes link (.ok node) .done (Header.width + answer.body.length)) ∧
        (¬ StorageNode.NamesEndpoint answer.body →
          inquiry.Concludes link (.error (.frame .invalidEndpoint)) .failed
            (Header.width + answer.body.length))) ∧
      (∀ header rest, link.unread = Header.encode header ++ rest →
        (∀ fault, header.Refused fault →
          inquiry.Concludes link (.error fault) .failed Header.width) ∧
        (header.IsGood → header.length ≠ 39 → header.length ≠ 40 →
          inquiry.Concludes link (.error (.frame (.queryLength header.length))) .failed
            Header.width) ∧
        (header.IsGood → header.length = 39 ∨ header.length = 40 →
          rest.length < header.length.toNat → ∃ cause,
            inquiry.Concludes link (.error (.transfer cause)) .failed link.unread.length)) ∧
      (link.unread.length < Header.width → ∃ cause,
        inquiry.Concludes link (.error (.transfer cause)) .failed link.unread.length)) := by
  intro told
  refine ⟨?_, ?_, ?_, ?_⟩
  · intro node
    rw [result_run]
    exact Query.result_ask_eq_ok_iff
  · intro fault failed
    rw [result_run] at failed
    rw [run_of_error (Action.eq_error_of_result failed), Action.after]
  · intro untold
    obtain ⟨cause, ended⟩ := Query.ends_of_untold untold
    exact ⟨cause, concludes_of_error ended⟩
  · rintro ⟨opened, fits⟩
    obtain ⟨sent, done, still, untaken, consumed⟩ := Query.exists_sent opened fits
    rw [← untaken]
    refine ⟨?_, ?_, ?_⟩
    · intro answer rest answered naming
      obtain ⟨good, fit⟩ := Frame.isNaming_iff.mp naming
      have read : Ends (Frame.receive Query.IsFit .queryLength StorageNode.ofBody) sent
          (StorageNode.ofBody answer.body) (Header.width + answer.body.length) :=
        Frame.receive_of_whole still answered good fit
      refine ⟨?_, ?_⟩
      · intro node described
        rw [(StorageNode.ofBody_eq_ok_iff naming.2).mpr described] at read
        exact concludes_of_ok (Query.ends_of_sent done consumed read)
      · intro unnamed
        rw [StorageNode.ofBody_of_unnamed naming.2 unnamed] at read
        exact concludes_of_error (Query.ends_of_sent done consumed read)
    · intro header rest answered
      refine ⟨?_, ?_, ?_⟩
      · intro fault refused
        apply concludes_of_error
        apply Query.ends_of_sent done consumed
        exact Frame.receive_of_refused still answered refused
      · intro good notFetch notStore
        have unfit : ¬ Query.IsFit header.length := not_or.mpr ⟨notFetch, notStore⟩
        apply concludes_of_error
        apply Query.ends_of_sent done consumed
        exact Frame.receive_of_misfit still answered good unfit
      · intro good sized short
        have fit : Query.IsFit header.length := sized
        obtain ⟨cause, read⟩ := Frame.receive_of_cut still answered good fit short
        exact ⟨cause, concludes_of_error (Query.ends_of_sent done consumed read)⟩
    · intro short
      obtain ⟨cause, read⟩ :=
        @Frame.receive_of_headless _ Query.IsFit _ .queryLength StorageNode.ofBody _ still short
      exact ⟨cause, concludes_of_error (Query.ends_of_sent done consumed read)⟩

/-- A store query that failed, asked again of a link with room for no more than it. -/
theorem run_ends_as_answered_after_failure :
    let inquiry : Inquiry := ⟨.store, .failed⟩
    let body := [103, 49] ++ List.replicate 14 0 ++ [104, 0, 120] ++ List.replicate 12 0 ++
      BigEndian.encode 23000 ++ [2]
    let link := Link.inMemory [] (Header.encode ⟨40, Command.answer, 0⟩ ++ body ++ [7])
      (some 10) true
    inquiry.Concludes link (.ok ⟨[103, 49], ⟨[104], 23000⟩, 2⟩) .done 50 := by
  intro inquiry body link
  have described : StorageNode.IsDescribed ⟨[103, 49], ⟨[104], 23000⟩, 2⟩ body :=
    ⟨⟨by decide, by decide, by decide⟩, by decide, by decide, by decide, by decide⟩
  have fits : link.HasRoom inquiry.query.request.length :=
    (Link.hasRoom_iff rfl _).mpr (by decide)
  obtain ⟨-, -, -, answered⟩ := run_ends_as_answered inquiry link
  obtain ⟨named, -⟩ := (answered ⟨rfl, fits⟩).1 ⟨⟨40, Command.answer, 0⟩, body, by decide⟩ [7] rfl
    ⟨⟨rfl, rfl⟩, .inr (by decide)⟩
  exact named _ described

end Inquiry

end TrackedStorage
