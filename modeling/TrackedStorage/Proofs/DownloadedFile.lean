import TrackedStorage.Proofs.Operations
import TrackedStorage.Proofs.StreamedDownload

set_option autoImplicit false

namespace TrackedStorage

/-- Nothing happens to the files but that one comes to hold `content`. -/
structure FileTree.Rewrites (location : Location) (content : Bytes) (before after : FileTree) :
    Prop where
  written : after.lookup location = some (.file content)
  others : ∀ other ≠ location, after.lookup other = before.lookup other
  start : after.start = before.start

theorem FileTree.rewrites_of_create? {tree opened : FileTree} {path : Bytes} {location : Location}
    (created : tree.create? path = some (.file location, opened)) (content : Bytes) :
    Rewrites location content tree (opened.put location (.file content)) := by
  have emptied : opened = tree.put location (.file []) := by
    unfold create? at created
    split at created <;> cases created <;> rfl
  refine ⟨lookup_put_self _ _ _, ?_, by rw [emptied]; rfl⟩
  intro other differs
  rw [lookup_put_of_ne _ _ differs, emptied, lookup_put_of_ne _ _ differs]

namespace Download

/-- Whether a node accepts a request over a link: the link has room for all of it, and answers with
a good header that declares no more than was asked for. What the link has to answer after the
header is `sent`. -/
structure Accepts (download : Download) (link : Link) (header : Header) (sent : Bytes) :
    Prop where
  isOpen : link.isOpen = true
  room : link.HasRoom (Header.width + download.body.length)
  answered : link.unread = header.encode ++ sent
  command : header.command = Command.answer
  status : header.status = 0
  short : header.length ≤ Header.maxLength
  within : download.count = 0 ∨ header.length ≤ download.count

section
variable {download : Download} {link : Link} {header : Header} {sent : Bytes}

theorem request_of_accepts (accepts : download.Accepts link header sent) :
    ∃ accepted, download.request link = .ok header.length accepted ∧ accepted.isOpen = true ∧
      accepted.unread = sent := by
  have fits : link.HasRoom
      (Header.encode ⟨download.length, Command.download, 0⟩ ++ download.body).length := by
    rw [List.length_append, Header.length_encode]
    exact accepts.room
  have unexceeded : ¬ (0 < download.count ∧ download.count < header.length) := by
    rintro ⟨some, greater⟩
    rcases accepts.within with all | fits
    · exact absurd all (UInt64.pos_iff_ne_zero.mp some)
    · exact absurd fits (UInt64.not_le.mpr greater)
  obtain ⟨told, asked, -⟩ := Link.exists_write_of_told accepts.isOpen fits
  rw [← send_eq_write] at asked
  obtain ⟨accepted, yet, left, -, requested⟩ := request_of_answer asked accepts.answered
    ⟨accepts.command, accepts.status, accepts.short⟩
  rw [if_neg unexceeded] at requested
  exact ⟨accepted, requested, yet, left⟩

theorem accepts_of_request {length : UInt64} {accepted : Link}
    (done : download.request link = .ok length accepted) :
    ∃ header, header.length = length ∧ download.Accepts link header accepted.unread := by
  obtain ⟨⟨⟩, told, sending, answered⟩ := Action.bind_eq_ok done
  obtain ⟨header, middle, received, declared⟩ := Action.bind_eq_ok answered
  have good := Header.isGood_of_receive received
  obtain ⟨-, -, moved⟩ := Header.receive_moved received
  have left : link.unread = told.unread := (send_moved sending).unread
  rw [send_eq_write] at sending
  obtain ⟨opened, room, -⟩ := Link.write_eq_ok sending
  rw [List.length_append, Header.length_encode] at room
  split at declared
  · cases declared
  · rename_i within
    cases declared
    refine ⟨header, rfl, opened, room, ?_, good.command, good.status, good.short, ?_⟩
    · rw [left, moved.unread]
    · by_cases all : download.count = 0
      · exact .inl all
      · have some : 0 < download.count := UInt64.pos_iff_ne_zero.mpr all
        exact .inr (UInt64.not_lt.mp fun greater => within ⟨some, greater⟩)

end

section
variable {remaining : Nat} {link : Link} (opened : link.isOpen = true)
include opened

theorem receiveBody_of_whole (come : remaining ≤ link.unread.length) (kept : Bytes) :
    ∃ last, receiveBody remaining (link, .stream none kept) =
      .ok () (last, .stream none (kept ++ link.unread.take remaining)) := by
  rcases receiveBody_as_one_write remaining opened none kept with
    ⟨last, done, -⟩ | ⟨cause, last, -, short⟩
  · rw [Bytes.chunked_of_le come] at done
    exact ⟨last, done⟩
  · have behind := short rfl
    omega

/-- Of a body that breaks off, the stream takes all chunks that are complete. -/
theorem receiveBody_of_part (short : link.unread.length < remaining) (kept : Bytes) :
    ∃ cause last, receiveBody remaining (link, .stream none kept) =
      .error (.transfer cause) (last, .stream none
        (kept ++ link.unread.take (chunkSize * (link.unread.length / chunkSize)))) := by
  rcases receiveBody_as_one_write remaining opened none kept with
    ⟨last, -, -, consumed⟩ | ⟨cause, last, failed, -⟩
  · have there := consumed.there
    omega
  · rw [Bytes.chunked_of_lt short] at failed
    exact ⟨cause, last, failed⟩

end

section
variable {download : Download} {link : Link} {tree opened : FileTree} {path : Bytes}

theorem request_of_unaccepted (unaccepted : ∀ header sent, ¬ download.Accepts link header sent) :
    ∃ fault last, download.request link = .error fault last := by
  cases requested : download.request link with
  | error fault last => exact ⟨fault, last, rfl⟩
  | ok length accepted =>
      obtain ⟨header, -, accepts⟩ := accepts_of_request requested
      exact absurd accepts (unaccepted header _)

/-- A request that no node accepts leaves the files as they are. -/
theorem toFile_of_unaccepted (unaccepted : ∀ header sent, ¬ download.Accepts link header sent) :
    ∃ fault last, download.toFile path (link, tree) = .error fault (last, tree) := by
  obtain ⟨fault, last, refused⟩ := request_of_unaccepted unaccepted
  exact ⟨fault, last, by simp only [toFile, refused]⟩

section
variable {header : Header} {sent : Bytes} (accepts : download.Accepts link header sent)
include accepts

/-- So does a path at which no file can be created. -/
theorem toFile_of_uncreatable (uncreatable : tree.create? path = none) :
    ∃ last, download.toFile path (link, tree) =
      .error (.transfer (.uncreatable path)) (last, tree) := by
  obtain ⟨accepted, requested, -⟩ := request_of_accepts accepts
  exact ⟨accepted, by simp only [toFile, requested, uncreatable]⟩

theorem files_toFile_of_fullDevice (created : tree.create? path = some (.fullDevice, opened)) :
    (Action.after (download.toFile path (link, tree))).2 = tree := by
  obtain ⟨accepted, requested, -⟩ := request_of_accepts accepts
  have same : opened = tree := by
    unfold FileTree.create? at created
    split at created <;> cases created
    rfl
  simp only [toFile, requested, created, settle, same]
  split
  · rfl
  · split <;> rfl

theorem toFile_of_whole {location : Location}
    (created : tree.create? path = some (.file location, opened))
    (come : header.length.toNat ≤ sent.length) :
    ∃ last, download.toFile path (link, tree) = .ok header.length
      (last, opened.put location (.file (sent.take header.length.toNat))) := by
  obtain ⟨accepted, requested, still, left⟩ := request_of_accepts accepts
  rw [← left] at come ⊢
  obtain ⟨last, received⟩ := receiveBody_of_whole still come []
  refine ⟨last, ?_⟩
  simp only [toFile, requested, created, sinkOf, received, settle, Sink.delivered, Sink.canClose,
    List.nil_append, ↓reduceIte]

theorem toFile_of_part {location : Location}
    (created : tree.create? path = some (.file location, opened))
    (short : sent.length < header.length.toNat) :
    ∃ cause last, download.toFile path (link, tree) = .error (.transfer cause)
      (last, opened.put location (.file (sent.take (chunkSize * (sent.length / chunkSize))))) := by
  obtain ⟨accepted, requested, still, left⟩ := request_of_accepts accepts
  rw [← left] at short ⊢
  obtain ⟨cause, last, failed⟩ := receiveBody_of_part still short []
  refine ⟨cause, last, ?_⟩
  simp only [toFile, requested, created, sinkOf, failed, settle, Sink.delivered, List.nil_append]

end

end

end Download

namespace World

/-- Whether a download comes to a link over which a storage node accepts it. -/
def Accepted (text : Bytes) (offset count : UInt64) (world : World) (header : Header)
    (sent : Bytes) : Prop :=
  ∃ id ref link lent, FileId.parse text = .ok id ∧
    reachNode (.fetch id) world = .ok (ref, ⟨some link⟩) lent ∧
    Download.Accepts ⟨id, offset, count⟩ (lent.board.link link) header sent

section
variable {text path : Bytes} {offset count : UInt64} {world : World}

theorem download_of_unparsed {fault : Fault} (malformed : FileId.parse text = .error fault) :
    World.download text path offset count world = .error fault world := by
  rw [World.download, malformed]
  rfl

theorem download_of_unreached {id : FileId} {fault : Fault} {last : World}
    (parsed : FileId.parse text = .ok id)
    (failed : reachNode (.fetch id) world = .error fault last) :
    World.download text path offset count world = .error fault last := by
  rw [download_eq_operation parsed]
  refine Action.bind_of_error ?_ _
  exact (congrFun (operation_eq_reachNode _ _) world).trans (Action.bind_of_error failed _)

/-- A download over a link that was reached ends as the exchange over the link does. -/
theorem download_of_reached {id : FileId} {ref : Client.PoolRef} {link : LinkId} {lent : World}
    (parsed : FileId.parse text = .ok id)
    (reached : reachNode (.fetch id) world = .ok (ref, ⟨some link⟩) lent) :
    let ended := World.download text path offset count world
    let exchanged := Download.toFile ⟨id, offset, count⟩ path (lent.board.link link, world.files)
    Action.result ended = (Action.result exchanged).map (fun _ => ()) ∧
      (Action.after ended).files = (Action.after exchanged).2 := by
  intro ended exchanged
  have files : lent.files = world.files := by
    have kept := keeps_files_reachNode (.fetch id) world
    rw [reached] at kept
    exact kept
  have operated : operation (.fetch id) (fun _ => Download.toFile ⟨id, offset, count⟩ path) world =
      onLease ref ⟨some link⟩ (Download.toFile ⟨id, offset, count⟩ path) lent :=
    (congrFun (operation_eq_reachNode _ _) world).trans (Action.bind_of_ok reached _)
  obtain ⟨result, after⟩ := onLease_ends ref link (Download.toFile ⟨id, offset, count⟩ path) lent
  rw [files] at result after
  have whole : ended = ((operation (.fetch id) fun _ =>
      Download.toFile ⟨id, offset, count⟩ path) >>= fun _ => pure ()) world := by
    show World.download text path offset count world = _
    rw [download_eq_operation parsed]
    rfl
  rw [whole, Action.after_bind_pure, Action.result_bind_pure, operated, result]
  exact ⟨rfl, after⟩

/-- A download that no node accepts fails and leaves the files as they are. -/
theorem download_of_unaccepted
    (unaccepted : ∀ header sent, ¬ Accepted text offset count world header sent) :
    let ended := World.download text path offset count world
    (∃ fault, Action.result ended = .error fault) ∧ (Action.after ended).files = world.files := by
  intro ended
  cases parsed : FileId.parse text with
  | error fault =>
      have failed : ended = .error fault world := download_of_unparsed parsed
      rw [failed]
      exact ⟨⟨fault, rfl⟩, rfl⟩
  | ok id =>
      have kept := keeps_files_reachNode (.fetch id) world
      cases reached : reachNode (.fetch id) world with
      | error fault last =>
          have failed : ended = .error fault last := download_of_unreached parsed reached
          rw [reached] at kept
          rw [failed]
          exact ⟨⟨fault, rfl⟩, kept⟩
      | ok value lent =>
          obtain ⟨ref, lease⟩ := value
          obtain ⟨link, rfl⟩ := held_of_reachNode reached
          obtain ⟨result, files⟩ :=
            @download_of_reached text path offset count _ _ _ _ _ parsed reached
          have refused : ∃ fault last, Download.toFile ⟨id, offset, count⟩ path
              (lent.board.link link, world.files) = .error fault (last, world.files) :=
            Download.toFile_of_unaccepted fun header sent accepts =>
              unaccepted header sent ⟨id, ref, link, lent, parsed, reached, accepts⟩
          obtain ⟨fault, last, failed⟩ := refused
          rw [failed] at result files
          exact ⟨⟨fault, result⟩, files⟩

end

/-- What a download does to the local files in any state of the client. Unless a storage node
accepts it, it fails and no file changes, and neither does one when no file can be created at the
path. Otherwise the file at the path, and no other, comes to hold the body as the node announced
it, or all full chunks of a body that breaks off, which is a failed transfer. -/
theorem download_rewrites_only_named_file (world : World) (text path : Bytes)
    (offset count : UInt64) :
    let ended := World.download text path offset count world
    let files := (Action.after ended).files
    ((∀ header sent, ¬ Accepted text offset count world header sent) →
      (∃ fault, Action.result ended = .error fault) ∧ files = world.files) ∧
    ∀ header sent, Accepted text offset count world header sent →
      (world.files.create? path = none →
        Action.result ended = .error (.transfer (.uncreatable path)) ∧ files = world.files) ∧
      (∀ opened, world.files.create? path = some (.fullDevice, opened) → files = world.files) ∧
      ∀ location opened, world.files.create? path = some (.file location, opened) →
        ∃ content, FileTree.Rewrites location content world.files files ∧
          files.read? path = some content ∧
          (count ≠ 0 → content.length ≤ count.toNat) ∧
          (header.length.toNat ≤ sent.length →
            Action.result ended = .ok () ∧ content = sent.take header.length.toNat) ∧
          (sent.length < header.length.toNat →
            (∃ cause, Action.result ended = .error (.transfer cause)) ∧
              content = sent.take (chunkSize * (sent.length / chunkSize))) := by
  intro ended files
  refine ⟨download_of_unaccepted, ?_⟩
  rintro header sent ⟨id, ref, link, lent, parsed, reached, accepts⟩
  obtain ⟨result, same⟩ := @download_of_reached text path offset count _ _ _ _ _ parsed reached
  refine ⟨?_, ?_, ?_⟩
  · intro uncreatable
    obtain ⟨last, failed⟩ := Download.toFile_of_uncreatable accepts uncreatable
    rw [failed] at result same
    exact ⟨result, same⟩
  · intro opened created
    exact same.trans (Download.files_toFile_of_fullDevice accepts created)
  · intro location opened created
    have written (content : Bytes) (put : files = opened.put location (.file content)) :
        FileTree.Rewrites location content world.files files ∧
          files.read? path = some content := by
      rw [put]
      exact ⟨FileTree.rewrites_of_create? created content,
        FileTree.read?_put_of_create? created content⟩
    have bounded : count ≠ 0 → header.length.toNat ≤ count.toNat := by
      intro some
      rcases accepts.within with all | fits
      · exact absurd all some
      · exact UInt64.le_iff_toNat_le.mp fits
    rcases Nat.lt_or_ge sent.length header.length.toNat with short | whole
    · obtain ⟨cause, last, failed⟩ := Download.toFile_of_part accepts created short
      rw [failed] at result same
      obtain ⟨rewrites, stored⟩ := written _ same
      refine ⟨_, rewrites, stored, ?_, ?_, fun _ => ⟨⟨cause, result⟩, rfl⟩⟩
      · intro some
        have limit := bounded some
        rw [List.length_take]
        omega
      · intro whole
        exact absurd short (Nat.not_lt.mpr whole)
    · obtain ⟨last, done⟩ := Download.toFile_of_whole accepts created whole
      rw [done] at result same
      obtain ⟨rewrites, stored⟩ := written _ same
      refine ⟨_, rewrites, stored, ?_, fun _ => ⟨result, rfl⟩, ?_⟩
      · intro some
        exact Nat.le_trans (List.length_take_le _ _) (bounded some)
      · intro short
        exact absurd short (Nat.not_lt.mpr whole)

theorem download_rewrites_only_named_file_on_break :
    let path := Bytes.ofText "y"
    let text := Bytes.ofText "g/f"
    let named := Header.encode ⟨39, Command.answer, 0⟩ ++ Field.padded (Bytes.ofText "g") 16 ++
      Field.padded (Bytes.ofText "s") 15 ++ BigEndian.encode 7
    let header : Header := ⟨3, Command.answer, 0⟩
    let start (sent : Bytes) : World :=
      ⟨⟨[⟨Bytes.ofText "t:1", 1, [], 0, false⟩], [], 1, .disk⟩,
        .ofDialer (.script ⟨[], [.link named none true, .link (header.encode ++ sent) none true]⟩),
        FileTree.blank.writeFile path [9, 9], 0, 0, 0⟩
    let ended (sent : Bytes) := World.download text path 0 0 (start sent)
    (start []).files.read? path = some [9, 9] ∧
      (Action.result (ended [1, 2, 3, 4]) = .ok () ∧
        (Action.after (ended [1, 2, 3, 4])).files.read? path = some [1, 2, 3]) ∧
      (∃ cause, Action.result (ended [1, 2]) = .error (.transfer cause)) ∧
        (Action.after (ended [1, 2])).files.read? path = some [] := by
  intro path text named header start ended
  let id : FileId := ⟨Bytes.ofText "g", Bytes.ofText "f"⟩
  have accepted (sent : Bytes)
      (reached : Action.result (reachNode (.fetch id) (start sent)) = .ok (.storage 0, ⟨some 1⟩))
      (waiting : (Action.after (reachNode (.fetch id) (start sent))).board.link 1 =
        .inMemory (Bytes.ofText "s:7") (header.encode ++ sent) none true) :
      Accepted text 0 0 (start sent) header sent := by
    refine ⟨id, .storage 0, 1, _, by decide, Action.eq_ok_of_result reached, ?_⟩
    rw [waiting]
    refine ⟨rfl, ?_, rfl, rfl, rfl, by decide, .inl rfl⟩
    intro room limited
    cases limited
  have created (sent : Bytes) : (start sent).files.create? path =
      some (.file [Bytes.ofText "work", path],
        (start []).files.put [Bytes.ofText "work", path] (.file [])) :=
    show (start []).files.create? path = _ by decide
  obtain ⟨content, -, stored, -, whole, -⟩ :=
    ((download_rewrites_only_named_file (start [1, 2, 3, 4]) text path 0 0).2 header _
      (accepted _ (by decide +kernel) (by decide +kernel))).2.2 _ _ (created _)
  obtain ⟨done, rfl⟩ := whole (by decide)
  obtain ⟨kept, -, left, -, -, part⟩ :=
    ((download_rewrites_only_named_file (start [1, 2]) text path 0 0).2 header _
      (accepted _ (by decide +kernel) (by decide +kernel))).2.2 _ _ (created _)
  obtain ⟨failed, rfl⟩ := part (by decide)
  exact ⟨by decide, ⟨done, stored⟩, failed, left⟩

end World

end TrackedStorage
