import TrackedStorage.Proofs.Exchanges

set_option autoImplicit false

namespace TrackedStorage

/-- An open link that accepts whatever is written. -/
structure Link.IsFree (link : Link) : Prop where
  isOpen : link.isOpen = true
  unlimited : link.room = none

namespace Action
variable {σ τ α β γ : Type}

/-- Runs an action on two states over the first one alone. The second one starts as `part`, and is
handed out with the value. -/
def owning (part : τ) (action : Action (σ × τ) α) : Action σ (α × τ) := fun state =>
  match action (state, part) with
  | .ok value (state, left) => .ok (value, left) state
  | .error fault (state, _) => .error fault state

theorem owning_eq_ok {part left : τ} {action : Action (σ × τ) α} {state last : σ} {value : α}
    (done : owning part action state = .ok (value, left) last) :
    action (state, part) = .ok value (last, left) := by
  unfold owning at done
  split at done
  · rename_i ran
    cases done
    exact ran
  · cases done

theorem after_owning (part : τ) (action : Action (σ × τ) α) (state : σ) :
    after (owning part action state) = (after (action (state, part))).1 := by
  unfold owning
  cases action (state, part) <;> rfl

theorem owning_pure (part : τ) (value : α) :
    owning part (pure value : Action (σ × τ) α) = pure (value, part) := rfl

theorem owning_onFirst (part : τ) (action : Action σ α) :
    owning part (onFirst action) = action >>= fun value => pure (value, part) := by
  funext state
  simp only [owning, onFirst, on, bind, EStateM.bind]
  cases action state <;> rfl

theorem owning_onSecond_of_ok {part left : τ} {action : Action τ α} {value : α}
    (done : action part = .ok value left) :
    owning part (onSecond action : Action (σ × τ) α) = pure (value, left) := by
  funext state
  simp only [owning, onSecond, on, done]
  rfl

theorem owning_onSecond_of_error {part left : τ} {action : Action τ α} {fault : Fault}
    (failed : action part = .error fault left) :
    owning part (onSecond action : Action (σ × τ) α) = throw fault := by
  funext state
  simp only [owning, onSecond, on, failed]
  rfl

theorem owning_bind (part : τ) (first : Action (σ × τ) α) (next : α → Action (σ × τ) β) :
    owning part (first >>= next) =
      owning part first >>= fun ended => owning ended.2 (next ended.1) := by
  funext state
  simp only [owning, bind, EStateM.bind]
  cases first (state, part) <;> rfl

/-- However an action ends, it leaves a part of the state as it was. -/
def Keeps (part : σ → γ) (action : Action σ α) : Prop :=
  ∀ state, part (after (action state)) = part state

variable {part : σ → γ}

theorem keeps_pure (value : α) : Keeps part (pure value : Action σ α) := fun _ => rfl

theorem keeps_throw (fault : Fault) : Keeps part (throw fault : Action σ α) := fun _ => rfl

theorem keeps_ofExcept (result : Except Fault α) : Keeps part (ofExcept result) := by
  intro state
  cases result <;> rfl

theorem keeps_bind {first : Action σ α} {next : α → Action σ β} (earlier : Keeps part first)
    (later : ∀ value, Keeps part (next value)) : Keeps part (first >>= next) := by
  intro state
  have start := earlier state
  rw [after_bind]
  cases ran : first state with
  | ok value middle =>
      rw [ran] at start
      exact (later value middle).trans start
  | error fault middle =>
      rw [ran] at start
      exact start

theorem keeps_ite {condition : Prop} [Decidable condition] {yes no : Action σ α}
    (whenTrue : Keeps part yes) (whenFalse : Keeps part no) :
    Keeps part (if condition then yes else no) := by
  split
  · exact whenTrue
  · exact whenFalse

theorem keeps_onFirst {action : Action σ α} (inner : Keeps part action) :
    Keeps (fun state : σ × τ => part state.1) (onFirst action) := by
  rintro ⟨first, second⟩
  have kept := inner first
  simp only [onFirst, on]
  cases ran : action first <;> rw [ran] at kept <;> exact kept

theorem keeps_onSecond (action : Action τ α) :
    Keeps (fun state : σ × τ => part state.1) (onSecond action) := by
  rintro ⟨first, second⟩
  simp only [onSecond, on]
  cases action second <;> rfl

/-- What a pair is left with in a part of its first state, if only the first step can change it. -/
theorem after_onFirst_bind {first : Action σ α} {next : α → Action (σ × τ) β}
    (later : ∀ value, Keeps (fun both : σ × τ => part both.1) (next value)) (state : σ)
    (second : τ) :
    part (after ((onFirst first >>= next) (state, second))).1 = part (after (first state)) := by
  rw [after_bind]
  simp only [onFirst, on]
  cases first state with
  | ok value middle => exact later value (middle, second)
  | error fault middle => rfl

/-- Over every free link that has `got` to answer, an action sends `sent`, takes `got` and ends in
`value`. The link stays free and leads where it led, and what it would answer after `got` stays
unread. -/
def Carries (sent got : Bytes) (value : α) (action : Action Link α) : Prop :=
  ∀ link rest, link.IsFree → link.unread = got ++ rest →
    ∃ last, action link = .ok value last ∧ last.IsFree ∧ Link.Moved sent got link last ∧
      last.address = link.address

theorem carries_pure (value : α) : Carries [] [] value (pure value) := by
  intro link rest free left
  exact ⟨link, rfl, free, .refl link, rfl⟩

theorem carries_ofExcept {result : Except Fault α} {value : α} (good : result = .ok value) :
    Carries [] [] value (ofExcept result) := by
  intro link rest free left
  refine ⟨link, ?_, free, .refl link, rfl⟩
  rw [good, ofExcept]

theorem carries_bind {sent got more later : Bytes} {value : α} {last : β}
    {first : Action Link α} {next : α → Action Link β} (earlier : Carries sent got value first)
    (afterwards : Carries more later last (next value)) :
    Carries (sent ++ more) (got ++ later) last (first >>= next) := by
  intro link rest free left
  rw [List.append_assoc] at left
  obtain ⟨middle, ran, still, moved, same⟩ := earlier link _ free left
  have ahead : middle.unread = later ++ rest := by
    have parts := moved.unread
    rw [left] at parts
    exact (List.append_cancel_left parts).symm
  obtain ⟨final, ended, free, crossed, leads⟩ := afterwards middle rest still ahead
  exact ⟨final, (bind_of_ok ran next).trans ended, free, moved.trans crossed, leads.trans same⟩

/-- A step that takes nothing in front of one that sends nothing. -/
theorem Carries.ask {sent got : Bytes} {value : α} {last : β} {first : Action Link α}
    {next : α → Action Link β} (earlier : Carries sent [] value first)
    (afterwards : Carries [] got last (next value)) : Carries sent got last (first >>= next) := by
  have both := carries_bind earlier afterwards
  rwa [List.append_nil, List.nil_append] at both

/-- Steps that only send. -/
theorem Carries.send {sent more : Bytes} {value : α} {last : β} {first : Action Link α}
    {next : α → Action Link β} (earlier : Carries sent [] value first)
    (afterwards : Carries more [] last (next value)) :
    Carries (sent ++ more) [] last (first >>= next) :=
  carries_bind earlier afterwards

/-- Steps that only take. -/
theorem Carries.take {got later : Bytes} {value : α} {last : β} {first : Action Link α}
    {next : α → Action Link β} (earlier : Carries [] got value first)
    (afterwards : Carries [] later last (next value)) :
    Carries [] (got ++ later) last (first >>= next) :=
  carries_bind earlier afterwards

/-- A last step that moves nothing. -/
theorem Carries.finish {sent got : Bytes} {value : α} {last : β} {first : Action Link α}
    {next : α → Action Link β} (earlier : Carries sent got value first)
    (afterwards : Carries [] [] last (next value)) : Carries sent got last (first >>= next) := by
  have both := carries_bind earlier afterwards
  rwa [List.append_nil, List.append_nil] at both

theorem Carries.owning_onFirst {sent got : Bytes} {value : α} {action : Action Link α}
    (carries : Carries sent got value action) (part : τ) :
    Carries sent got (value, part) (owning part (onFirst action)) := by
  rw [Action.owning_onFirst]
  exact carries.finish (carries_pure _)

/-- Over every free link an action sends `sent` and nothing else, however it ends. -/
def Sends (sent : Bytes) (action : Action Link α) : Prop :=
  ∀ link, link.IsFree → (after (action link)).written = link.written ++ sent

theorem sends_bind {sent more : Bytes} {value : α} {first : Action Link α}
    {next : α → Action Link β} (earlier : Carries sent [] value first)
    (later : Sends more (next value)) : Sends (sent ++ more) (first >>= next) := by
  intro link free
  obtain ⟨middle, ran, still, moved, -⟩ := earlier link link.unread free rfl
  rw [bind_of_ok ran, later middle still, moved.written, List.append_assoc]

theorem sends_then {sent : Bytes} {value : α} {first : Action Link α} {next : α → Action Link β}
    (earlier : Carries sent [] value first) (later : Keeps Link.written (next value)) :
    Sends sent (first >>= next) := by
  intro link free
  obtain ⟨middle, ran, -, moved, -⟩ := earlier link link.unread free rfl
  rw [bind_of_ok ran, later middle, moved.written]

end Action

open TrackedStorage.Action (Carries Keeps Sends)

namespace Link

theorem carries_write (data : Bytes) : Carries data [] () (write data) := by
  intro link rest free left
  exact ⟨_, write_of_room_eq_none free.isOpen free.unlimited data, ⟨free.isOpen, free.unlimited⟩,
    write_moved (write_of_room_eq_none free.isOpen free.unlimited data), rfl⟩

theorem carries_read (data : Bytes) : Carries [] data data (read data.length) := by
  intro link rest free left
  have done := read_append free.isOpen left
  exact ⟨_, done, ⟨free.isOpen, free.unlimited⟩, (read_moved done).2, rfl⟩

theorem keeps_written_read (count : Nat) : Keeps written (read count) := by
  intro link
  unfold read
  dsimp only
  split
  · split
    · rfl
    · exact (crossed_fall _ .read).1
  · rfl

end Link

/-- Reading an answer sends nothing. -/
theorem Header.keeps_written_receive : Keeps Link.written receive :=
  Action.keeps_bind (Link.keeps_written_read width) fun _ => Action.keeps_ofExcept _

theorem Header.check_of_good {header : Header} (command : header.command = Command.answer)
    (status : header.status = 0) (short : header.length ≤ maxLength) :
    check header = .ok header := by
  have fits : ¬ maxLength < header.length := UInt64.not_lt.mpr short
  simp [check, command, status, fits]

theorem Header.carries_receive {header : Header} (command : header.command = Command.answer)
    (status : header.status = 0) (short : header.length ≤ maxLength) :
    Carries [] header.encode header receive := by
  have taken := Link.carries_read header.encode
  rw [length_encode] at taken
  refine taken.finish (Action.carries_ofExcept ?_)
  have read : decode header.encode = header := by
    have whole := decode_encode_append header []
    rwa [List.append_nil] at whole
  rw [read]
  exact check_of_good command status short

namespace Query

theorem carries_send (query : Query) :
    Carries (Header.encode ⟨query.length, query.command, 0⟩ ++ query.body) [] () query.send := by
  refine (Link.carries_write _).send ?_
  unfold body
  cases query.target with
  | none => exact Action.carries_pure ()
  | some id => exact Link.carries_write _

theorem keeps_written_receive : Keeps Link.written receive := by
  apply Action.keeps_bind Header.keeps_written_receive
  intro header
  apply Action.keeps_ite
  · exact Action.keeps_bind (Link.keeps_written_read _) fun _ => Action.keeps_ofExcept _
  · exact Action.keeps_throw _

theorem carries_receive {answer : Frame} (isAnswer : answer.IsAnswer) {node : StorageNode}
    (sized : answer.header.length = StorageNode.fetchLength ∨
      answer.header.length = StorageNode.storeLength)
    (named : StorageNode.ofBody answer.body = .ok node) :
    Carries [] answer.encode node receive := by
  have short : answer.header.length ≤ Header.maxLength := by
    rcases sized with fetch | store
    · rw [fetch]
      decide
    · rw [store]
      decide
  refine (Header.carries_receive isAnswer.1 isAnswer.2 short).take ?_
  rw [if_pos sized, answer.sized]
  exact (Link.carries_read answer.body).finish (Action.carries_ofExcept named)

theorem carries_ask (query : Query) {got : Bytes} {node : StorageNode}
    (answered : Carries [] got node receive) :
    Carries (Header.encode ⟨query.length, query.command, 0⟩ ++ query.body) got node query.ask :=
  query.carries_send.ask answered

theorem sends_ask (query : Query) :
    Sends (Header.encode ⟨query.length, query.command, 0⟩ ++ query.body) query.ask :=
  Action.sends_then query.carries_send keeps_written_receive

end Query

theorem Source.read_of_append {data rest : Bytes} :
    read data.length ⟨data ++ rest, false⟩ = .ok data ⟨rest, false⟩ := by
  simp [read]

namespace Upload

theorem carries_sendHeader (upload : Upload) :
    Carries (Header.encode ⟨upload.length, Command.upload, 0⟩ ++ upload.metaBytes) [] ()
      upload.sendHeader :=
  (Link.carries_write _).send (Link.carries_write _)

/-- A source that holds enough is sent up to the announced size, and keeps the rest. -/
theorem carries_sendContent (content rest : Bytes) :
    Carries content [] ((), (⟨rest, false⟩ : Source))
      (Action.owning ⟨content ++ rest, false⟩ (sendContent content.length)) := by
  induction remaining : content.length using Nat.strongRecOn generalizing content with
  | ind _ ih =>
      subst remaining
      rw [sendContent]
      by_cases none : content.length = 0
      · rw [if_pos none, List.length_eq_zero_iff.mp none, Action.owning_pure]
        exact Action.carries_pure _
      · have fewer : (content.drop chunkSize).length < content.length := by
          rw [List.length_drop, chunkSize]
          omega
        have left : content.length - min chunkSize content.length =
            (content.drop chunkSize).length := by
          rw [List.length_drop]
          omega
        have loaded := @Source.read_of_append (content.take chunkSize)
          (content.drop chunkSize ++ rest)
        rw [← List.append_assoc, List.take_append_drop, List.length_take] at loaded
        have both := ((Link.carries_write (content.take chunkSize)).owning_onFirst
          (⟨content.drop chunkSize ++ rest, false⟩ : Source))
        have later := ih _ fewer _ rfl
        rw [if_neg none, Action.owning_bind, Action.owning_onSecond_of_ok loaded, left]
        conv =>
          arg 1
          rw [← List.take_append_drop chunkSize content]
        show Carries _ [] _ (Action.owning _ (Action.onFirst _ >>= fun _ => sendContent _))
        rw [Action.owning_bind]
        exact both.send later

theorem keeps_written_receive : Keeps Link.written receive := by
  apply Action.keeps_bind Header.keeps_written_receive
  intro header
  apply Action.keeps_ite
  · exact Action.keeps_bind (Link.keeps_written_read _) fun _ => Action.keeps_ofExcept _
  · exact Action.keeps_throw _

theorem carries_receive {answer : Frame} (isAnswer : answer.IsAnswer) {id : FileId}
    (long : FileId.groupWidth < answer.body.length)
    (short : answer.body.length ≤ FileId.groupWidth + filenameWidth)
    (named : idOfBody answer.body = .ok id) : Carries [] answer.encode id receive := by
  have declared : answer.header.length ≤ Header.maxLength := by
    rw [UInt64.le_iff_toNat_le, answer.sized]
    exact Nat.le_trans short (by decide)
  refine (Header.carries_receive isAnswer.1 isAnswer.2 declared).take ?_
  simp only [answer.sized, long, short, and_self, ↓reduceIte]
  exact (Link.carries_read answer.body).finish (Action.carries_ofExcept named)

theorem carries_run (upload : Upload) {content : Bytes}
    (sized : content.length = upload.size.toNat) (rest : Bytes) {got : Bytes} {id : FileId}
    (answered : Carries [] got id receive) :
    Carries (Header.encode ⟨upload.length, Command.upload, 0⟩ ++ upload.metaBytes ++ content) got
      (id, (⟨rest, false⟩ : Source)) (Action.owning ⟨content ++ rest, false⟩ upload.run) := by
  rw [run, Action.owning_bind, ← List.nil_append got]
  apply Action.carries_bind (upload.carries_sendHeader.owning_onFirst _)
  rw [Action.owning_bind, ← sized]
  exact (carries_sendContent content rest).ask (answered.owning_onFirst _)

theorem sends_run (upload : Upload) {content : Bytes}
    (sized : content.length = upload.size.toNat) (rest : Bytes) :
    Sends (Header.encode ⟨upload.length, Command.upload, 0⟩ ++ upload.metaBytes ++ content)
      (Action.owning ⟨content ++ rest, false⟩ upload.run) := by
  rw [run, Action.owning_bind]
  apply Action.sends_bind (upload.carries_sendHeader.owning_onFirst _)
  rw [Action.owning_bind, ← sized]
  apply Action.sends_then (carries_sendContent content rest)
  rw [Action.owning_onFirst]
  exact Action.keeps_bind keeps_written_receive fun _ => Action.keeps_pure _

end Upload

namespace Download

theorem carries_send (download : Download) :
    Carries (Header.encode ⟨download.length, Command.download, 0⟩ ++ download.body) [] ()
      download.send :=
  (Link.carries_write _).send (Link.carries_write _)

theorem keeps_written_receiveLength (download : Download) :
    Keeps Link.written download.receiveLength := by
  apply Action.keeps_bind Header.keeps_written_receive
  intro header
  exact Action.keeps_ite (Action.keeps_throw _) (Action.keeps_pure _)

theorem keeps_written_receiveBody (remaining : Nat) :
    Keeps (fun both : Link × Sink => both.1.written) (receiveBody remaining) := by
  induction remaining using receiveBody.induct with
  | case1 =>
      rw [receiveBody, if_pos rfl]
      exact Action.keeps_pure ()
  | case2 remaining more count ih =>
      rw [receiveBody, if_neg more]
      apply Action.keeps_bind (Action.keeps_onFirst (Link.keeps_written_read _))
      intro data
      apply Action.keeps_bind (Action.keeps_onSecond _)
      intro _
      exact ih

theorem carries_request (download : Download) {header : Header}
    (command : header.command = Command.answer) (status : header.status = 0)
    (short : header.length ≤ Header.maxLength)
    (within : download.count = 0 ∨ header.length ≤ download.count) :
    Carries (Header.encode ⟨download.length, Command.download, 0⟩ ++ download.body)
      header.encode header.length download.request := by
  have asked : ¬ (0 < download.count ∧ download.count < header.length) := by
    rintro ⟨some, greater⟩
    rcases within with all | fits
    · exact absurd all (UInt64.pos_iff_ne_zero.mp some)
    · exact absurd fits (UInt64.not_le.mpr greater)
  apply download.carries_send.ask
  refine (Header.carries_receive command status short).finish ?_
  rw [if_neg asked]
  exact Action.carries_pure _

/-- A stream without a limit takes the whole body. -/
theorem carries_receiveBody (body kept : Bytes) :
    Carries [] body ((), Sink.stream none (kept ++ body))
      (Action.owning (Sink.stream none kept) (receiveBody body.length)) := by
  induction remaining : body.length using Nat.strongRecOn generalizing body kept with
  | ind _ ih =>
      subst remaining
      rw [receiveBody]
      by_cases none : body.length = 0
      · rw [if_pos none, List.length_eq_zero_iff.mp none, List.append_nil, Action.owning_pure]
        exact Action.carries_pure _
      · have fewer : (body.drop chunkSize).length < body.length := by
          rw [List.length_drop, chunkSize]
          omega
        have left : body.length - min chunkSize body.length = (body.drop chunkSize).length := by
          rw [List.length_drop]
          omega
        have taken := (Link.carries_read (body.take chunkSize)).owning_onFirst
          (Sink.stream Option.none kept)
        have later := ih _ fewer _ (kept ++ body.take chunkSize) rfl
        rw [List.append_assoc, List.take_append_drop] at later
        rw [List.length_take] at taken
        rw [if_neg none, Action.owning_bind, left]
        conv =>
          arg 2
          rw [← List.take_append_drop chunkSize body]
        apply taken.take
        have stored : Sink.write (body.take chunkSize) (.stream Option.none kept) =
            .ok () (.stream Option.none (kept ++ body.take chunkSize)) := rfl
        rw [Action.owning_bind, Action.owning_onSecond_of_ok stored]
        exact later

theorem sends_request (download : Download) :
    Sends (Header.encode ⟨download.length, Command.download, 0⟩ ++ download.body)
      download.request :=
  Action.sends_then download.carries_send download.keeps_written_receiveLength

/-- Everything that a download writes is its request. -/
theorem written_toStream (download : Download) (link : Link) (sink : Sink) :
    (Action.after (download.toStream (link, sink))).1.written =
      (Action.after (download.request link)).written := by
  apply Action.after_onFirst_bind
  intro length
  exact Action.keeps_bind (keeps_written_receiveBody _) fun _ => Action.keeps_pure _

theorem written_toFile (download : Download) (path : Bytes) (link : Link) (tree : FileTree) :
    (Action.after (download.toFile path (link, tree))).1.written =
      (Action.after (download.request link)).written := by
  unfold toFile
  dsimp only
  cases download.request link with
  | error fault last => rfl
  | ok length accepted =>
      cases tree.create? path with
      | none => rfl
      | some opened =>
          have kept := keeps_written_receiveBody length.toNat (accepted, sinkOf opened.1)
          dsimp only
          cases ran : receiveBody length.toNat (accepted, sinkOf opened.1) with
          | error fault last =>
              rw [ran] at kept
              exact kept
          | ok done last =>
              rw [ran] at kept
              dsimp only
              split <;> exact kept

end Download

end TrackedStorage
