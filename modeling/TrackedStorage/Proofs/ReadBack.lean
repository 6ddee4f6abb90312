import TrackedStorage.Proofs.DownloadedFile
import TrackedStorage.Proofs.TrackerFailover

set_option autoImplicit false

namespace TrackedStorage

/-- The bytes for which a request asks: the group in a field of 16 bytes, and the filename. -/
def FileId.spelled (id : FileId) : Bytes :=
  id.group ++ List.replicate (16 - id.group.length) 0 ++ id.filename

theorem FileId.IsAssigned.padded_group {id : FileId} (assigned : id.IsAssigned) :
    Field.padded id.group groupWidth = id.group ++ List.replicate (16 - id.group.length) 0 := by
  rw [Field.padded, List.take_of_length_le assigned.short, groupWidth]

theorem Query.request_fetch {id : FileId} (assigned : id.IsAssigned) :
    (Query.fetch id).request =
      Header.encode ⟨UInt64.ofNat (16 + id.filename.length), 102, 0⟩ ++ id.spelled := by
  rw [FileId.spelled, ← assigned.padded_group]
  rfl

namespace Download

/-- All that a download writes is its request. -/
theorem written_toFile_eq (download : Download) (path : Bytes) (link : Link) (tree : FileTree) :
    (Action.after (download.toFile path (link, tree))).1.written = link.written ++ link.passed
      (Header.encode ⟨download.length, Command.download, 0⟩ ++ download.body) := by
  rw [written_toFile, request, Action.written_bind fun _ => download.keeps_written_receiveLength,
    send_eq_write, Link.written_write]

theorem body_of_assigned {id : FileId} (assigned : id.IsAssigned) (offset count : UInt64) :
    body ⟨id, offset, count⟩ = id.spelled ++ BigEndian.encode offset ++ BigEndian.encode count := by
  rw [body, FileId.spelled, ← assigned.padded_group]
  simp [Field.encodeAll, Field.encode]

end Download

namespace World

theorem lt_length_of_reachNode {query : Query} {world lent : World} {ref : Client.PoolRef}
    {id : LinkId} (reached : reachNode query world = .ok (ref, ⟨some id⟩) lent) :
    id < lent.board.links.length := by
  obtain ⟨node, asked, -, pooling⟩ := Action.bind_eq_ok reached
  obtain ⟨other, found, -, leasing⟩ := Action.bind_eq_ok pooling
  obtain ⟨taken, last, took, ending⟩ := Action.bind_eq_ok leasing
  cases ending
  obtain ⟨desk, acquired, rfl⟩ := acquire_of_take took
  exact Pool.lt_length_of_acquire acquired

section
variable {text path : Bytes} {offset count : UInt64} {world lent : World} {id : FileId}
variable {ref : Client.PoolRef} {asked used : LinkId}

/-- What a download writes to the link that it is lent for the storage node. -/
theorem written_download (parsed : FileId.parse text = .ok id)
    (reached : reachNode (.fetch id) world = .ok (ref, ⟨some used⟩) lent) :
    ((Action.after (World.call (.download text path offset count) world)).board.link used).written =
      (lent.board.link used).written ++ (lent.board.link used).passed
        (Header.encode ⟨Download.length ⟨id, offset, count⟩, Command.download, 0⟩ ++
          Download.body ⟨id, offset, count⟩) := by
  have operated : operation (.fetch id) (fun _ => Download.toFile ⟨id, offset, count⟩ path) world =
      onLease ref ⟨some used⟩ (Download.toFile ⟨id, offset, count⟩ path) lent :=
    (congrFun (operation_eq_reachNode _ _) world).trans (Action.bind_of_ok reached _)
  have whole : Action.after (World.download text path offset count world) =
      Action.after (onLease ref ⟨some used⟩ (Download.toFile ⟨id, offset, count⟩ path) lent) := by
    rw [download_eq_operation parsed, ← operated]
    exact Action.after_bind_pure _ _ world
  rw [World.call, Action.after_bind_pure, whole,
    written_onLease ref (lt_length_of_reachNode reached), Download.written_toFile_eq]

variable {settings : Settings} {dialer : Dialer} {accessor : Option Accessor} {files : FileTree}
variable {start : World}

/-- What a call writes to the link that a tracker lends for its query. -/
theorem written_lender (created : create settings dialer accessor files = .ok start)
    (history : List Event) {call : Call} {query : Query}
    (asking : asks call (run start history) = some (query, run start history))
    (leased : leaseAnyTracker (run start history) = .ok (ref, ⟨some asked⟩) lent) :
    ((Action.after (World.call call (run start history))).board.link asked).written =
      (lent.board.link asked).written ++ (lent.board.link asked).passed query.request := by
  obtain ⟨-, some⟩ := trackers_run created history
  rcases Pool.refused_or_lender some (run start history).board with
    ⟨faults, fault, gone, board, refusals⟩ | ⟨⟨first⟩⟩
  · cases (leaseAnyTracker_of_refusals refusals rfl rfl).symm.trans leased
  · cases (leaseAnyTracker_of_lender first rfl rfl).symm.trans leased
    obtain ⟨-, -, wrote, -⟩ := call_of_lender asking first
    have request := wrote first.link (Pool.lt_length_of_acquire first.acquired)
      (unlent_of_lender (tidy_run created history) first)
    rw [if_pos rfl, ← first.written] at request
    exact request

end

end World

/-- An identifier that an upload ends in reads back from its text exactly if no slash is in its
group, which nothing checks. Then a later download asks for it: whatever the client has done before,
the requests to the tracker that lends a link and to the storage node that is reached are written
with the group and the filename that the storage node assigned. And whatever the group, requests for
the identifier hold that group and that filename. -/
theorem uploaded_id_reads_back_iff {id : FileId}
    (stored : (∃ (upload : Upload) (before after : Link × Source),
        upload.run before = .ok id after) ∨
      ∃ path world after, World.upload path world = .ok id after) :
    (FileId.parse id.toBytes = .ok id ↔ FileId.slash ∉ id.group) ∧
    (FileId.slash ∉ id.group → ∀ path offset count,
      World.download id.toBytes path offset count = (do
        let node ← World.query (.fetch id)
        let _ ← World.onStorage node (Download.toFile ⟨id, offset, count⟩ path)
        pure ())) ∧
    (FileId.slash ∉ id.group → ∀ settings dialer accessor files start,
      World.create settings dialer accessor files = .ok start → ∀ history path offset count,
      let world := World.run start history
      let last := Action.after (World.call (.download id.toBytes path offset count) world)
      (∀ ref asked lent, World.leaseAnyTracker world = .ok (ref, ⟨some asked⟩) lent →
        (last.board.link asked).written =
          (lent.board.link asked).written ++ (lent.board.link asked).passed
            (Header.encode ⟨UInt64.ofNat (16 + id.filename.length), 102, 0⟩ ++ id.spelled)) ∧
      ∀ ref used lent, World.reachNode (.fetch id) world = .ok (ref, ⟨some used⟩) lent →
        (last.board.link used).written =
          (lent.board.link used).written ++ (lent.board.link used).passed
            (Header.encode ⟨UInt64.ofNat (32 + id.filename.length), 14, 0⟩ ++
              (id.spelled ++ BigEndian.encode offset ++ BigEndian.encode count))) ∧
    FileId.ofBody? (Query.fetch id).body = some id ∧
    ∀ offset count,
      Download.ofBody? (Download.mk id offset count).body = some ⟨id, offset, count⟩ := by
  have assigned : id.IsAssigned := by
    rcases stored with ⟨upload, before, after, done⟩ | ⟨path, world, after, done⟩
    · exact Upload.isAssigned_of_run done
    · exact World.isAssigned_of_upload done
  refine ⟨assigned.parse_toBytes_iff, ?_, ?_, ?_, ?_⟩
  · intro unslashed path offset count
    exact World.download_of_parse (assigned.parse_toBytes_iff.mpr unslashed) offset count
  · intro unslashed settings dialer accessor files start created history path offset
      count world last
    have parsed := assigned.parse_toBytes_iff.mpr unslashed
    refine ⟨?_, ?_⟩
    · intro ref asked lent leased
      have asking : World.asks (.download id.toBytes path offset count) world =
          some (.fetch id, world) := by
        simp only [World.asks, parsed]
      rw [← Query.request_fetch assigned]
      exact World.written_lender created history asking leased
    · intro ref used lent reached
      have declared : Download.length ⟨id, offset, count⟩ =
          UInt64.ofNat (32 + id.filename.length) := by
        rw [Download.length, FileId.groupWidth, BigEndian.width, Nat.add_right_comm]
      rw [← Download.body_of_assigned assigned, ← declared]
      exact World.written_download parsed reached
  · have read := FileId.ofBody?_eq id.group id.filename
    rwa [assigned.group_eq] at read
  · intro offset count
    have read := Download.ofBody?_eq ⟨id, offset, count⟩
    rwa [assigned.group_eq] at read

/-- A file of one byte is stored, and asked for by the text of its identifier. -/
theorem uploaded_id_reads_back_from_plain_group :
    let endpoint := Field.padded (Bytes.ofText "s") 15 ++ BigEndian.encode 7
    let named := Header.encode ⟨40, Command.answer, 0⟩ ++ Field.padded (Bytes.ofText "g") 16 ++
      endpoint ++ [0]
    let sought := Header.encode ⟨39, Command.answer, 0⟩ ++ Field.padded (Bytes.ofText "g") 16 ++
      endpoint
    let assigned := Header.encode ⟨17, Command.answer, 0⟩ ++
      Field.padded (Bytes.ofText "g") 16 ++ Bytes.ofText "f"
    let dialer : Dialer :=
      .script ⟨[], [.link (named ++ sought) none true, .link assigned none true]⟩
    let accessor : Accessor := .catalogue [(Bytes.ofText "x", ⟨1, [], .ofContent [7]⟩)]
    let settings : Settings := ⟨[Bytes.ofText "t:1"], 1, 5, 30, [], []⟩
    let start : World := ⟨⟨[⟨Bytes.ofText "t:1", 1, [], 0, false⟩], [], 1, accessor⟩,
      .ofDialer dialer, .blank, 0, 0, 0⟩
    let id : FileId := ⟨Bytes.ofText "g", Bytes.ofText "f"⟩
    let world := World.run start [.call (.upload (Bytes.ofText "x"))]
    let last := Action.after (World.call (.download id.toBytes (Bytes.ofText "y") 0 2) world)
    World.create settings dialer (some accessor) .blank = .ok start ∧
      Action.result (World.upload (Bytes.ofText "x") start) = .ok id ∧
      FileId.parse id.toBytes = .ok id ∧
      (last.board.link 0).written = Header.encode ⟨0, 101, 0⟩ ++
        (Header.encode ⟨17, 102, 0⟩ ++ (103 :: List.replicate 15 0 ++ [102])) ∧
      (last.board.link 1).written = Header.encode ⟨16, 11, 0⟩ ++
        (0 :: BigEndian.encode 1 ++ List.replicate 6 0 ++ [7]) ++
        (Header.encode ⟨33, 14, 0⟩ ++ (103 :: List.replicate 15 0 ++ [102] ++
          BigEndian.encode 0 ++ BigEndian.encode 2)) := by
  intro endpoint named sought assigned dialer accessor settings start id world last
  have created : World.create settings dialer (some accessor) .blank = .ok start := by
    decide +kernel
  have uploaded : Action.result (World.upload (Bytes.ofText "x") start) = .ok id := by
    decide +kernel
  obtain ⟨reads, -, writes, -⟩ := uploaded_id_reads_back_iff
    (.inr ⟨_, start, _, Action.eq_ok_of_result uploaded⟩)
  obtain ⟨toTracker, toNode⟩ := writes (by decide) _ _ _ _ _ created
    [.call (.upload (Bytes.ofText "x"))] (Bytes.ofText "y") 0 2
  have leased : Action.result (World.leaseAnyTracker world) = .ok (.tracker 0, ⟨some 0⟩) := by
    decide +kernel
  have reached : Action.result (World.reachNode (.fetch id) world) =
      .ok (.storage 0, ⟨some 1⟩) := by
    decide +kernel
  refine ⟨created, uploaded, reads.mpr (by decide), ?_, ?_⟩
  · rw [toTracker _ _ _ (Action.eq_ok_of_result leased)]
    decide +kernel
  · rw [toNode _ _ _ (Action.eq_ok_of_result reached)]
    decide +kernel

/-- A storage node that names a group with a slash gets its file stored under an identifier whose
text is read as another one: the file `f` of the group `a/b` is later asked for as `b/f` of `a`. -/
theorem uploaded_id_read_as_another :
    let tracker := Bytes.ofText "t:1"
    let endpoint := Field.padded (Bytes.ofText "s") 15 ++ BigEndian.encode 7
    let named := Header.encode ⟨40, Command.answer, 0⟩ ++ Field.padded (Bytes.ofText "g") 16 ++
      endpoint ++ [0]
    let sought := Header.encode ⟨39, Command.answer, 0⟩ ++ Field.padded (Bytes.ofText "g") 16 ++
      endpoint
    let assigned := Header.encode ⟨17, Command.answer, 0⟩ ++
      Field.padded (Bytes.ofText "a/b") 16 ++ Bytes.ofText "f"
    let sent := Header.encode ⟨2, Command.answer, 0⟩ ++ Bytes.ofText "ok"
    let dialer : Dialer := .script
      ⟨[], [.link (named ++ sought) none true, .link (assigned ++ sent) none true]⟩
    let accessor : Accessor := .catalogue [(Bytes.ofText "x", ⟨1, [], .ofContent [7]⟩)]
    let start : World := ⟨⟨[⟨tracker, 1, [], 0, false⟩], [], 1, accessor⟩, .ofDialer dialer,
      .blank, 0, 0, 0⟩
    let stored := World.call (.upload (Bytes.ofText "x")) start
    let id : FileId := ⟨Bytes.ofText "a/b", Bytes.ofText "f"⟩
    let other : FileId := ⟨Bytes.ofText "a", Bytes.ofText "b/f"⟩
    World.create ⟨[tracker], 1, 5, 30, [], []⟩ dialer (some accessor) .blank = .ok start ∧
      Action.result stored = .ok (.stored id) ∧
      FileId.parse id.toBytes = .ok other ∧ other ≠ id ∧
      (((Action.after stored).happen
          (.call (.download id.toBytes (Bytes.ofText "y") 0 0))).board.link 0).written =
        Header.encode ⟨0, Command.queryStore, 0⟩ ++
          (Header.encode ⟨19, Command.queryFetch, 0⟩ ++ (Query.fetch other).body) := by
  decide +kernel

end TrackedStorage
