import TrackedStorage.Proofs.LinkReuse
import TrackedStorage.Proofs.Dialogues

set_option autoImplicit false

namespace TrackedStorage

namespace Action
variable {σ τ α β : Type}

/-- What an action takes of the response when it succeeds. Whatever the link has to answer behind
that, the action ends the same, and when anything of it is missing, in a fault of transfer. -/
structure Takes (action : Action Link α) (got : Bytes) (link : Link) (value : α)
    (last : Link) : Prop where
  unread : link.unread = got ++ last.unread
  whole : ∀ rest, action { link with unread := got ++ rest } = .ok value { last with unread := rest }
  short : ∀ cut, cut <+: got → cut ≠ got →
    ∃ cause after, action { link with unread := cut } = .error (.transfer cause) after

/-- An action takes nothing if it ends the same whatever the link has to answer. -/
theorem takes_nil {action : Action Link α} {link last : Link} {value : α}
    (same : last.unread = link.unread)
    (whole : ∀ rest, action { link with unread := rest } = .ok value { last with unread := rest }) :
    Takes action [] link value last := by
  refine ⟨same.symm, whole, ?_⟩
  intro cut isFront differs
  exact absurd (List.prefix_nil.mp isFront) differs

/-- A response that breaks off does so within what is taken, or behind it. -/
theorem Takes.cases {action : Action Link α} {got more cut : Bytes} {link last : Link} {value : α}
    (takes : Takes action got link value last) (isFront : cut <+: got ++ more) :
    (∃ cause after, action { link with unread := cut } = .error (.transfer cause) after) ∨
      ∃ rest, cut = got ++ rest ∧ rest <+: more ∧
        action { link with unread := cut } = .ok value { last with unread := rest } := by
  rcases List.prefix_or_prefix_of_prefix isFront (List.prefix_append got more) with
    early | ⟨rest, rfl⟩
  · by_cases whole : cut = got
    · have ran := takes.whole []
      rw [List.append_nil] at ran
      rw [whole]
      exact .inr ⟨[], (List.append_nil got).symm, List.nil_prefix, ran⟩
    · exact .inl (takes.short cut early whole)
  · exact .inr ⟨rest, rfl, (List.prefix_append_right_inj got).mp isFront, takes.whole rest⟩

theorem Takes.bind {first : Action Link α} {next : α → Action Link β} {got more : Bytes}
    {link middle last : Link} {inner : α} {value : β}
    (earlier : Takes first got link inner middle)
    (later : Takes (next inner) more middle value last) :
    Takes (first >>= next) (got ++ more) link value last := by
  refine ⟨?_, ?_, ?_⟩
  · rw [earlier.unread, later.unread, List.append_assoc]
  · intro rest
    rw [List.append_assoc, bind_of_ok (earlier.whole _), later.whole]
  · intro cut isFront differs
    rcases earlier.cases isFront with ⟨cause, after, failed⟩ | ⟨rest, rfl, isRest, ran⟩
    · exact ⟨cause, after, bind_of_error failed next⟩
    · have fewer : rest ≠ more := fun same => differs (by rw [same])
      obtain ⟨cause, after, failed⟩ := later.short rest isRest fewer
      exact ⟨cause, after, by rw [bind_of_ok ran, failed]⟩

end Action

open TrackedStorage.Action (Takes)

namespace Link

theorem takes_write {data : Bytes} {link last : Link} (done : write data link = .ok () last) :
    Takes (write data) [] link () last := by
  obtain ⟨opened, fits, rfl⟩ := write_eq_ok done
  refine Action.takes_nil rfl ?_
  intro rest
  exact @write_of_hasRoom { link with unread := rest } opened data fits

theorem takes_read {count : Nat} {data : Bytes} {link last : Link}
    (done : read count link = .ok data last) : Takes (read count) data link data last := by
  obtain ⟨sized, moved⟩ := read_moved done
  have opened : link.isOpen = true := by
    by_cases closed : link.isOpen = false
    · rw [read_of_closed closed] at done
      cases done
    · simpa using closed
  refine ⟨moved.unread, ?_, ?_⟩
  · intro rest
    have again := @read_append { link with unread := data ++ rest } data rest opened rfl
    have first := read_append opened moved.unread
    rw [sized] at again first
    have same := (EStateM.Result.ok.inj (first.symm.trans done)).2
    rw [← same]
    exact again
  · intro cut isFront differs
    have short : cut.length < count := by
      rw [← sized]
      exact Nat.lt_of_le_of_ne isFront.length_le fun same => differs (isFront.eq_of_length same)
    exact @read_of_short { link with unread := cut } opened count short

end Link

/-- Every dialogue that succeeds takes some front part of the response. -/
theorem Action.IsDialogue.takes {α : Type} {action : Action Link α} (dialogue : IsDialogue action)
    {link last : Link} {value : α} (done : action link = .ok value last) :
    ∃ got, Takes action got link value last := by
  induction dialogue generalizing link last with
  | done value =>
      cases done
      exact ⟨[], takes_nil rfl fun _ => rfl⟩
  | given fault => cases done
  | sent data => exact ⟨[], Link.takes_write done⟩
  | taken count => exact ⟨_, Link.takes_read done⟩
  | next earlier later ihFirst ihNext =>
      obtain ⟨inner, middle, ran, ended⟩ := bind_eq_ok done
      obtain ⟨got, takes⟩ := ihFirst ran
      obtain ⟨more, takesMore⟩ := ihNext inner ended
      exact ⟨got ++ more, takes.bind takesMore⟩

/-- A write takes nothing back. -/
theorem Sink.delivered_prefix_write (data : Bytes) (sink : Sink) :
    sink.delivered <+: (Action.after (write data sink)).delivered := by
  unfold write
  split
  · exact List.prefix_append _ _
  · dsimp only
    split <;> exact List.prefix_append _ _
  · split <;> exact List.prefix_refl _

namespace Download

theorem delivered_prefix_receiveBody (remaining : Nat) (link : Link) (sink : Sink) :
    sink.delivered <+: (Action.after (receiveBody remaining (link, sink))).2.delivered := by
  induction remaining using receiveBody.induct generalizing link sink with
  | case1 =>
      rw [receiveBody, if_pos rfl]
      exact List.prefix_refl _
  | case2 remaining more count ih =>
      cases taken : Link.read count link with
      | error fault middle =>
          rw [receiveBody_of_unread more taken]
          exact List.prefix_refl _
      | ok data middle =>
          have grown := Sink.delivered_prefix_write data sink
          cases stored : Sink.write data sink with
          | error fault kept =>
              rw [receiveBody_of_refused more taken stored]
              rw [stored] at grown
              exact grown
          | ok _ kept =>
              rw [receiveBody_of_stored more taken stored]
              rw [stored] at grown
              exact grown.trans (ih middle kept)

/-- Of a body that breaks off, no more is delivered than of the whole one. -/
theorem delivered_prefix_of_broken {remaining : Nat} {link last : Link} {sink filled : Sink}
    (done : receiveBody remaining (link, sink) = .ok () (last, filled)) {body cut : Bytes}
    (consumed : link.unread = body ++ last.unread) (isFront : cut <+: body) :
    (Action.after (receiveBody remaining ({ link with unread := cut }, sink))).2.delivered <+:
      filled.delivered := by
  induction remaining using Nat.strongRecOn generalizing link sink body cut with
  | ind remaining ih =>
      by_cases none : remaining = 0
      · rw [receiveBody, if_pos none] at done ⊢
        cases done
        exact List.prefix_refl _
      · have grown := delivered_prefix_receiveBody remaining link sink
        have fewer : remaining - min chunkSize remaining < remaining := by
          simp only [chunkSize]
          omega
        rw [done] at grown
        cases read : Link.read (min chunkSize remaining) link with
        | error fault middle =>
            rw [receiveBody_of_unread none read] at done
            cases done
        | ok data middle =>
            have takes := Link.takes_read read
            cases stored : Sink.write data sink with
            | error fault kept =>
                rw [receiveBody_of_refused none read stored] at done
                cases done
            | ok _ kept =>
                rw [receiveBody_of_stored none read stored] at done
                obtain ⟨others, -, moved⟩ := receiveBody_moved done
                have parts : body = data ++ others := by
                  have whole := takes.unread
                  rw [consumed, moved.unread, ← List.append_assoc] at whole
                  exact List.append_cancel_right whole
                rw [parts] at isFront
                rcases takes.cases isFront with ⟨cause, after, failed⟩ | ⟨rest, -, isRest, again⟩
                · rw [receiveBody_of_unread none failed]
                  exact grown
                · rw [receiveBody_of_stored none again stored]
                  exact ih _ fewer done moved.unread isRest

/-- What a download leaves in its stream, once its request was accepted. -/
theorem after_toStream_of_accepted {download : Download} {link middle : Link} {length : UInt64}
    (accepted : download.request link = .ok length middle) (sink : Sink) :
    Action.after (download.toStream (link, sink)) =
      Action.after (receiveBody length.toNat (middle, sink)) := by
  rw [toStream, Action.bind_of_ok (Action.onFirst_of_ok accepted sink)]
  exact Action.after_bind_pure (receiveBody length.toNat) (fun _ => length) (middle, sink)

theorem toStream_of_refused {download : Download} {link middle : Link} {fault : Fault}
    (refused : download.request link = .error fault middle) (sink : Sink) :
    download.toStream (link, sink) = .error fault (middle, sink) :=
  Action.bind_of_error (Action.onFirst_of_error refused sink) _

theorem toStream_eq_ok {download : Download} {link last : Link} {sink filled : Sink}
    {length : UInt64} (done : download.toStream (link, sink) = .ok length (last, filled)) :
    ∃ middle, download.request link = .ok length middle ∧
      receiveBody length.toNat (middle, sink) = .ok () (last, filled) := by
  obtain ⟨declared, _, accepted, later⟩ := Action.bind_eq_ok done
  obtain ⟨middle, requested, rfl⟩ := Action.on_eq_ok accepted
  obtain ⟨⟨⟩, _, received, same⟩ := Action.bind_eq_ok later
  cases same
  exact ⟨middle, requested, received⟩

/-- If the response breaks off, a download delivers a front part of what it would have delivered. -/
theorem delivered_of_broken {download : Download} {link last : Link} {sink filled : Sink}
    {length : UInt64} (done : download.toStream (link, sink) = .ok length (last, filled))
    {taken cut : Bytes} (consumed : link.unread = taken ++ last.unread) (isFront : cut <+: taken) :
    ∃ body front, filled.delivered = sink.delivered ++ body ∧
      (Action.after (download.toStream ({ link with unread := cut }, sink))).2.delivered =
        sink.delivered ++ front ∧ front <+: body := by
  obtain ⟨middle, requested, received⟩ := toStream_eq_ok done
  have grown := delivered_prefix_receiveBody length.toNat middle sink
  rw [received] at grown
  obtain ⟨body, whole⟩ := grown
  change sink.delivered ++ body = filled.delivered at whole
  obtain ⟨got, takes⟩ := download.isDialogue_request.takes requested
  obtain ⟨more, -, moved⟩ := receiveBody_moved received
  have parts : taken = got ++ more := by
    have all := takes.unread
    rw [consumed, moved.unread, ← List.append_assoc] at all
    exact List.append_cancel_right all
  rw [parts] at isFront
  refine ⟨body, ?_⟩
  rcases takes.cases isFront with ⟨cause, after, failed⟩ | ⟨rest, -, isRest, accepted⟩
  · rw [toStream_of_refused failed]
    exact ⟨[], whole.symm, (List.append_nil _).symm, List.nil_prefix⟩
  · have low := delivered_prefix_receiveBody length.toNat { middle with unread := rest } sink
    have high := delivered_prefix_of_broken received moved.unread isRest
    rw [after_toStream_of_accepted accepted]
    obtain ⟨front, same⟩ := low
    rw [← same, ← whole, List.prefix_append_right_inj] at high
    exact ⟨front, whole.symm, same.symm, high⟩

end Download

namespace Exchange

/-- If an exchange succeeds, it ends in a fault of transfer as soon as any end of what it takes of
the response is missing. A download has then delivered a front part of what it would have
delivered. -/
theorem broken_response_detected {exchange : Exchange} {link last : Link} {outcome : Outcome}
    (done : exchange.run link = .ok outcome last) {taken cut : Bytes}
    (consumed : link.unread = taken ++ last.unread) (isFront : cut <+: taken)
    (differs : cut ≠ taken) :
    let broken := { link with unread := cut }
    (∃ cause, Action.result (exchange.run broken) = .error (.transfer cause)) ∧
    ∀ part sink, exchange = .download part sink → ∃ body front,
      (Action.after (part.toStream (link, sink))).2.delivered = sink.delivered ++ body ∧
      (Action.after (part.toStream (broken, sink))).2.delivered = sink.delivered ++ front ∧
      front <+: body := by
  intro broken
  obtain ⟨got, takes⟩ := exchange.isDialogue_run.takes done
  have same : got = taken := List.append_cancel_right (takes.unread.symm.trans consumed)
  rw [same] at takes
  refine ⟨?_, ?_⟩
  · obtain ⟨cause, after, failed⟩ := takes.short cut isFront differs
    exact ⟨cause, by rw [failed, Action.result]⟩
  · rintro part sink rfl
    obtain ⟨⟨length, filled⟩, middle, fetched, ended⟩ := Action.bind_eq_ok done
    cases ended
    have ran := Action.owning_eq_ok fetched
    obtain ⟨body, front, whole, delivered, isPart⟩ :=
      Download.delivered_of_broken ran consumed isFront
    refine ⟨body, front, ?_, delivered, isPart⟩
    rw [ran]
    exact whole

theorem broken_response_detected_within_body :
    let part : Download := ⟨⟨[103], [102]⟩, 0, 0⟩
    let header := Header.encode ⟨2, Command.answer, 0⟩
    let exchange : Exchange := .download part (.stream none [1])
    let link := Link.inMemory [] (header ++ [7, 8, 5]) none true
    let broken := { link with unread := header ++ [7] }
    Action.result (exchange.run link) = .ok (.fetched 2 (.stream none [1, 7, 8])) ∧
      (∃ cause, Action.result (exchange.run broken) = .error (.transfer cause)) ∧
      ∃ body front,
        (Action.after (part.toStream (link, .stream none [1]))).2.delivered = [1] ++ body ∧
        (Action.after (part.toStream (broken, .stream none [1]))).2.delivered = [1] ++ front ∧
        front <+: body := by
  intro part header exchange link broken
  have fetched : Action.result (exchange.run link) = .ok (.fetched 2 (.stream none [1, 7, 8])) := by
    decide +kernel
  have left : (Action.after (exchange.run link)).unread = [5] := by decide +kernel
  refine ⟨fetched, ?_⟩
  cases ran : exchange.run link with
  | error fault last =>
      rw [ran] at fetched
      cases fetched
  | ok outcome last =>
      rw [ran] at left
      have behind : last.unread = [5] := left
      have consumed : link.unread = (header ++ [7, 8]) ++ last.unread := by
        rw [behind]
        rfl
      have isFront : header ++ [7] <+: header ++ [7, 8] := ⟨[8], rfl⟩
      obtain ⟨failed, delivered⟩ := broken_response_detected ran consumed isFront (by decide)
      exact ⟨failed, delivered part (.stream none [1]) rfl⟩

end Exchange

end TrackedStorage
