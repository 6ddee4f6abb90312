import TrackedStorage.Proofs.DownloadedFile

set_option autoImplicit false

namespace TrackedStorage

namespace Download

/-- Whatever a stream without a limit already holds, a transfer ends in `result`, leaves its link as
`last`, and appends exactly `content` to the stream. -/
def Appends {α : Type} (transfer : Action (Link × Sink) α) (link : Link)
    (result : Except Fault α) (last : Link) (content : Bytes) : Prop :=
  ∀ kept, Action.result (transfer (link, .stream none kept)) = result ∧
    Action.after (transfer (link, .stream none kept)) = (last, .stream none (kept ++ content))

/-- What of a body is received does not depend on what was received before. -/
theorem exists_appends_receiveBody (remaining : Nat) (link : Link) :
    ∃ result last content, Appends (receiveBody remaining) link result last content := by
  induction remaining using receiveBody.induct generalizing link with
  | case1 =>
      refine ⟨.ok (), link, [], fun kept => ?_⟩
      rw [receiveBody, if_pos rfl, List.append_nil]
      exact ⟨rfl, rfl⟩
  | case2 remaining more count ih =>
      cases read : Link.read count link with
      | error fault middle =>
          refine ⟨.error fault, middle, [], fun kept => ?_⟩
          rw [receiveBody_of_unread more read, List.append_nil]
          exact ⟨rfl, rfl⟩
      | ok data middle =>
          obtain ⟨result, last, content, appends⟩ := ih middle
          refine ⟨result, last, data ++ content, fun kept => ?_⟩
          have stored : Sink.write data (.stream none kept) = .ok () (.stream none (kept ++ data)) :=
            rfl
          rw [receiveBody_of_stored more read stored, ← List.append_assoc]
          exact appends (kept ++ data)

section
variable {download : Download} {link accepted last : Link} {length : UInt64}
  {result : Except Fault Unit} {content : Bytes}
  (requested : download.request link = .ok length accepted)
  (appends : Appends (receiveBody length.toNat) accepted result last content)
include requested appends

theorem appends_toStream :
    Appends download.toStream link (result.map fun _ => length) last content := by
  intro kept
  obtain ⟨ended, left⟩ := appends kept
  rw [result_toStream_of_accepted requested, after_toStream_of_accepted requested, ended, left]
  exact ⟨rfl, rfl⟩

theorem toFile_of_created {tree opened : FileTree} {path : Bytes} {location : Location}
    (created : tree.create? path = some (.file location, opened)) :
    Action.result (download.toFile path (link, tree)) = result.map (fun _ => length) ∧
      Action.after (download.toFile path (link, tree)) =
        (last, opened.put location (.file content)) := by
  obtain ⟨ended, left⟩ := appends []
  cases received : receiveBody length.toNat (accepted, .stream none []) with
  | ok value state =>
      rw [received] at ended left
      subst ended left
      simp only [toFile, requested, created, sinkOf, received, Action.after]
      exact ⟨rfl, rfl⟩
  | error fault state =>
      rw [received] at ended left
      subst ended left
      simp only [toFile, requested, created, sinkOf, received, Action.after]
      exact ⟨rfl, rfl⟩

end

/-- A download into a local file and one into a stream that never fails do the same to the link and
end the same. Before a node accepts the request neither the file nor the stream changes. After that
the file at the path, and no other, comes to hold exactly the bytes that the stream receives, if it
can be created; else the download fails, once it told the same request and took the header of the
answer and no more. -/
theorem file_filled_as_stream (download : Download) (link : Link) (tree : FileTree)
    (path kept : Bytes) :
    let streamed := download.toStream (link, .stream none kept)
    let filed := download.toFile path (link, tree)
    ((∀ header sent, ¬ download.Accepts link header sent) →
      Action.result filed = Action.result streamed ∧
      (Action.after filed).1 = (Action.after streamed).1 ∧
      (Action.after filed).2 = tree ∧ (Action.after streamed).2 = .stream none kept) ∧
    ∀ header sent, download.Accepts link header sent →
      (∀ location opened, tree.create? path = some (.file location, opened) →
        Action.result filed = Action.result streamed ∧
        (Action.after filed).1 = (Action.after streamed).1 ∧
        ∃ content, (Action.after streamed).2 = .stream none (kept ++ content) ∧
          (Action.after filed).2.read? path = some content ∧
          FileTree.Rewrites location content tree (Action.after filed).2) ∧
      (tree.create? path = none →
        Action.result filed = .error (.transfer (.uncreatable path)) ∧
        (Action.after filed).2 = tree ∧
        link.Consumes Header.width (Action.after filed).1 ∧
        (Action.after filed).1.written = link.written ++
          (Header.encode ⟨download.length, Command.download, 0⟩ ++ download.body) ∧
        (Action.after filed).1.written = (Action.after streamed).1.written) := by
  intro streamed filed
  refine ⟨?_, ?_⟩
  · intro unaccepted
    obtain ⟨fault, last, refused⟩ := request_of_unaccepted unaccepted
    have first : filed = .error fault (last, tree) := by
      simp only [filed, toFile, refused]
    have second : streamed = .error fault (last, .stream none kept) :=
      toStream_of_refused refused _
    rw [first, second]
    exact ⟨rfl, rfl, rfl, rfl⟩
  · intro header sent accepts
    obtain ⟨accepted, requested, -, -⟩ := request_of_accepts accepts
    refine ⟨?_, ?_⟩
    · intro location opened created
      obtain ⟨result, last, content, appends⟩ :=
        exists_appends_receiveBody header.length.toNat accepted
      obtain ⟨first, left⟩ := toFile_of_created requested appends created
      obtain ⟨second, right⟩ := appends_toStream requested appends kept
      have same : Action.result filed = Action.result streamed := first.trans second.symm
      refine ⟨same, ?_, content, ?_, ?_, ?_⟩
      · rw [left, right]
      · rw [right]
      · rw [left]
        exact FileTree.read?_put_of_create? created content
      · rw [left]
        exact FileTree.rewrites_of_create? created content
    · intro uncreatable
      obtain ⟨answer, -, -, -, moved⟩ := request_moved requested
      have failed : filed = .error (.transfer (.uncreatable path)) (accepted, tree) := by
        simp only [filed, toFile, requested, uncreatable]
      have told : (Action.after streamed).1.written = accepted.written := by
        rw [written_toStream, requested, Action.after]
      have consumed := moved.consumes
      rw [Header.length_encode] at consumed
      rw [failed, told]
      exact ⟨rfl, rfl, consumed, moved.written, rfl⟩

/-- A body that lacks its last byte, and one with a byte behind it, into a file that held more; and
the same to where no file can be. -/
theorem file_filled_as_stream_over_stale_file :
    let download : Download := ⟨⟨[103], [102]⟩, 0, 0⟩
    let tree := FileTree.blank.writeFile [121] [9, 9, 9, 9, 9]
    let link (body : Bytes) :=
      Link.inMemory [] (Header.encode ⟨3, Command.answer, 0⟩ ++ body) none true
    let streamed (body : Bytes) := download.toStream (link body, .stream none [5])
    let filed (path body : Bytes) := download.toFile path (link body, tree)
    (Action.result (streamed [1, 2, 3, 4]) = .ok 3 ∧
      Action.result (filed [121] [1, 2, 3, 4]) = .ok 3 ∧
      (Action.after (filed [121] [1, 2, 3, 4])).2.read? [121] = some [1, 2, 3]) ∧
    (Action.result (filed [121] [1, 2]) = Action.result (streamed [1, 2]) ∧
      (Action.after (filed [121] [1, 2])).1 = (Action.after (streamed [1, 2])).1 ∧
      (Action.after (filed [121] [1, 2])).2.read? [121] = some []) ∧
    Action.result (filed [] [1, 2, 3, 4]) = .error (.transfer (.uncreatable [])) ∧
      (link [1, 2, 3, 4]).Consumes 10 (Action.after (filed [] [1, 2, 3, 4])).1 := by
  intro download tree link streamed filed
  have accepts (body : Bytes) : download.Accepts (link body) ⟨3, Command.answer, 0⟩ body := by
    refine ⟨rfl, ?_, rfl, rfl, rfl, by decide, .inl rfl⟩
    exact Link.hasRoom_of_none rfl _
  have created : tree.create? [121] = some (.file [Bytes.ofText "work", [121]],
      tree.put [Bytes.ofText "work", [121]] (.file [])) := by decide
  have both (body : Bytes) :=
    ((file_filled_as_stream download (link body) tree [121] [5]).2 _ _ (accepts body)).1 _ _ created
  have neither :=
    ((file_filled_as_stream download (link [1, 2, 3, 4]) tree [] [5]).2 _ _ (accepts _)).2 rfl
  obtain ⟨same, -, content, held, stored, -⟩ := both [1, 2, 3, 4]
  obtain ⟨broken, left, kept, part, partly, -⟩ := both [1, 2]
  have done : Action.result (streamed [1, 2, 3, 4]) = .ok 3 := by decide +kernel
  have whole : (Action.after (streamed [1, 2, 3, 4])).2 = .stream none [5, 1, 2, 3] := by
    decide +kernel
  have none : (Action.after (streamed [1, 2])).2 = .stream none [5] := by decide +kernel
  cases whole.symm.trans held
  cases none.symm.trans part
  exact ⟨⟨done, same.trans done, stored⟩, ⟨broken, left, partly⟩, neither.1, neither.2.2.1⟩

end Download

end TrackedStorage
