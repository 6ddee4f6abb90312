import TrackedStorage.Proofs.DownloadedFile

set_option autoImplicit false

namespace TrackedStorage

namespace Switchboard

@[simp] theorem setLink_link (board : Switchboard) (id : LinkId) :
    board.setLink id (board.link id) = board := by
  rcases Nat.lt_or_ge id board.links.length with isThere | outside
  · simp [setLink, link, isThere]
  · simp [setLink, List.set_eq_of_length_le outside]

theorem close_of_closed {board : Switchboard} {id : LinkId} (closed : board.isOpen id = false) :
    board.close id = board := by
  rw [close, Link.close_of_closed closed, setLink_link]

theorem foldl_close_of_closed {board : Switchboard} (closed : ∀ id, board.isOpen id = false)
    (ids : List LinkId) : ids.foldl close board = board := by
  induction ids with
  | nil => rfl
  | cons id rest ih => rw [List.foldl_cons, close_of_closed (closed id), ih]

end Switchboard

namespace World

/-- No tracker lends a link any more, and no link is open. -/
structure Shut (world : World) : Prop where
  trackers : ∀ pool ∈ world.client.trackers, pool.isDestroyed = true
  links : ∀ id, world.board.isOpen id = false

/-- Whatever happened to a client, no link of it is open once it is destroyed. -/
theorem shut_destroy {world : World} (tidy : Tidy world) : Shut world.destroy := by
  refine ⟨?_, ?_⟩
  · intro pool isIn
    rw [destroy_eq] at isIn
    obtain ⟨before, -, rfl⟩ := List.mem_map.mp isIn
    exact Pool.isDestroyed_destroyed before
  · intro id
    cases opened : world.destroy.board.isOpen id with
    | false => rfl
    | true =>
        -- An open link would be idle in some pool, but destroyed pools have no idle links.
        obtain ⟨ref, isIdle⟩ := (tidy_destroy tidy).shut id opened
        rw [idle_destroy tidy] at isIdle
        cases isIdle

/-- What a call to a destroyed client leaves alone. -/
structure Untouched (world after : World) : Prop where
  board : after.board = world.board
  trackers : after.client.trackers = world.client.trackers
  files : after.files = world.files

section
variable {world : World}

theorem take_of_destroyed {ref : Client.PoolRef}
    (gone : (world.client.pool ref).isDestroyed = true) :
    onDesk ref Lease.take world = .error (.exhausted (world.client.pool ref).address) world := by
  have same : world.setDesk ref (world.client.pool ref, world.board) = world := by simp [setDesk]
  simp only [onDesk, Action.on, Lease.take, desk, Pool.acquire_of_destroyed gone, same]

/-- Trackers that are destroyed are all passed, and nothing changes. -/
theorem leaseTracker_of_destroyed {indices : List Nat}
    (gone : ∀ index ∈ indices, (world.client.pool (.tracker index)).isDestroyed = true)
    (reason : Bytes) :
    ∃ text, leaseTracker reason indices world = .error (.noTrackerAvailable text) world := by
  induction indices generalizing reason with
  | nil => exact ⟨reason, rfl⟩
  | cons index rest ih =>
      have refused := take_of_destroyed (gone index List.mem_cons_self)
      rw [leaseTracker_cons_of_error refused, isUnavailable, if_pos rfl]
      exact ih (fun other isIn => gone other (List.mem_cons_of_mem index isIn)) _

theorem Shut.query (shut : Shut world) (query : Query) :
    ∃ text, World.query query world = .error (.noTrackerAvailable text) world := by
  have gone (index : Nat) (isIn : index ∈ List.range world.client.trackers.length) :
      (world.client.pool (.tracker index)).isDestroyed = true := by
    have isThere := List.mem_range.mp isIn
    apply shut.trackers
    rw [Client.pool, List.getD_eq_getElem _ _ isThere]
    exact List.getElem_mem isThere
  obtain ⟨text, leased⟩ :=
    leaseTracker_of_destroyed gone (Bytes.ofText "no tracker pool could be used")
  exact ⟨text, Action.bind_of_error leased _⟩

theorem Shut.counted (shut : Shut world) (asked staged unstaged : Nat) :
    Shut { world with asked := asked, staged := staged, unstaged := unstaged } :=
  ⟨shut.trackers, shut.links⟩

/-- A local file that could be opened is closed again, and none of it is sent. -/
theorem Shut.upload (shut : Shut world) {path : Bytes} {file : StagedFile}
    (found : world.client.accessor.stage world.files path = .ok file) :
    ∃ text, World.upload path world = .error (.noTrackerAvailable text)
      { world with
        asked := world.asked + 1
        staged := world.staged + 1
        unstaged := world.unstaged + 1 } := by
  have staged : stage path world =
      .ok file { world with asked := world.asked + 1, staged := world.staged + 1 } := by
    simp only [stage, found]
  obtain ⟨text, asked⟩ :=
    (shut.counted (world.asked + 1) (world.staged + 1) world.unstaged).query .store
  refine ⟨text, ?_⟩
  rw [World.upload, Action.bind_of_ok staged, thenUnstage, Action.bind_of_error asked]

theorem Shut.download (shut : Shut world) {text : Bytes} {id : FileId}
    (parsed : FileId.parse text = .ok id) (path : Bytes) (offset count : UInt64) :
    ∃ reason, World.download text path offset count world =
      .error (.noTrackerAvailable reason) world := by
  obtain ⟨reason, asked⟩ := shut.query (.fetch id)
  refine ⟨reason, ?_⟩
  rw [World.download, parsed]
  exact Action.bind_of_error asked _

/-- No call to a destroyed client touches a link, a tracker or a local file. -/
theorem Shut.untouched_call (shut : Shut world) (call : Call) :
    Untouched world (Action.after (World.call call world)) := by
  cases call with
  | upload path =>
      rw [World.call, Action.after_bind_pure]
      cases found : world.client.accessor.stage world.files path with
      | error fault =>
          rw [upload_of_unstaged found]
          exact ⟨rfl, rfl, rfl⟩
      | ok file =>
          obtain ⟨text, failed⟩ := shut.upload found
          rw [failed]
          exact ⟨rfl, rfl, rfl⟩
  | download text path offset count =>
      rw [World.call, Action.after_bind_pure]
      cases parsed : FileId.parse text with
      | error fault =>
          rw [download_of_unparsed parsed]
          exact ⟨rfl, rfl, rfl⟩
      | ok id =>
          obtain ⟨reason, failed⟩ := shut.download parsed path offset count
          rw [failed]
          exact ⟨rfl, rfl, rfl⟩
  | storagePool address =>
      rw [World.call, Action.after_bind]
      cases pooled : storagePool address world with
      | error fault after =>
          obtain ⟨rfl, -⟩ := storagePool_eq_error pooled
          exact ⟨rfl, rfl, rfl⟩
      | ok ref found =>
          rcases storagePool_eq_ok pooled with ⟨index, -, -, rfl⟩ | ⟨pool, -, -, -, rfl⟩ <;>
            exact ⟨rfl, rfl, rfl⟩
  | destroy =>
      have same : world.client.trackers.map Pool.destroyed = world.client.trackers := by
        refine (List.map_congr_left ?_).trans (List.map_id _)
        intro pool isIn
        rw [Pool.destroyed, if_pos (shut.trackers pool isIn), id]
      change Untouched world world.destroy
      rw [destroy_eq, same, Switchboard.foldl_close_of_closed shut.links]
      exact ⟨rfl, rfl, rfl⟩
  | drop id =>
      simp only [World.call, World.drop]
      split
      · exact ⟨Switchboard.close_of_closed (shut.links id), rfl, rfl⟩
      · exact ⟨rfl, rfl, rfl⟩

theorem Shut.run (shut : Shut world) (later : List Event) :
    Shut (World.run world later) ∧ (World.run world later).board = world.board := by
  induction later generalizing world with
  | nil => exact ⟨shut, rfl⟩
  | cons event rest ih =>
      have next : Shut (world.happen event) ∧ (world.happen event).board = world.board := by
        cases event with
        | surroundings files accessor => exact ⟨⟨shut.trackers, shut.links⟩, rfl⟩
        | call call =>
            have untouched := shut.untouched_call call
            refine ⟨⟨?_, ?_⟩, untouched.board⟩
            · rw [happen, untouched.trackers]
              exact shut.trackers
            · rw [happen, untouched.board]
              exact shut.links
      obtain ⟨still, same⟩ := ih next.1
      exact ⟨still, same.trans next.2⟩

end

/-- The destruction of a client is final. Whatever was done before, no link is open right after it.
In all that may be done later the dialer is not called and no link is written to, read from or
changed in any other way, so that every upload and every download fails: for want of a tracker, or
because its local file cannot be opened or its identifier is malformed, which comes first. No call
changes a local file. -/
theorem nothing_reached_after_destroy {settings : Settings} {dialer : Dialer}
    {accessor : Option Accessor} {files : FileTree} {start : World}
    (created : create settings dialer accessor files = .ok start) (history later : List Event) :
    let world := run start (history ++ [.call .destroy])
    let last := run world later
    (∀ id, world.board.isOpen id = false) ∧ last.board = world.board ∧
    (∀ path,
      let ended := World.call (.upload path) last
      (∀ fault, last.client.accessor.stage last.files path = .error fault →
        Action.result ended = .error fault) ∧
      ∀ file, last.client.accessor.stage last.files path = .ok file →
        ∃ reason, Action.result ended = .error (.noTrackerAvailable reason)) ∧
    (∀ text path offset count,
      let ended := World.call (.download text path offset count) last
      (∀ fault, FileId.parse text = .error fault → Action.result ended = .error fault) ∧
      ∀ id, FileId.parse text = .ok id →
        ∃ reason, Action.result ended = .error (.noTrackerAvailable reason)) ∧
    ∀ call,
      let after := Action.after (World.call call last)
      after.board = world.board ∧ after.files = last.files := by
  intro world last
  have ends : world = (run start history).destroy := by
    simp only [world, run, List.foldl_append]
    rfl
  have shut : Shut world := by
    rw [ends]
    exact shut_destroy (tidy_run created history)
  obtain ⟨still, same⟩ := shut.run later
  refine ⟨shut.links, same, ?_, ?_, ?_⟩
  · intro path ended
    have result : Action.result ended = (Action.result (World.upload path last)).map Reply.stored :=
      Action.result_bind_pure _ _ _
    rw [result]
    refine ⟨?_, ?_⟩
    · intro fault refused
      rw [upload_of_unstaged refused]
      rfl
    · intro file found
      obtain ⟨reason, failed⟩ := still.upload found
      rw [failed]
      exact ⟨reason, rfl⟩
  · intro text path offset count ended
    have result : Action.result ended =
        (Action.result (World.download text path offset count last)).map fun _ => Reply.done :=
      Action.result_bind_pure _ _ _
    rw [result]
    refine ⟨?_, ?_⟩
    · intro fault malformed
      rw [download_of_unparsed malformed]
      rfl
    · intro id parsed
      obtain ⟨reason, failed⟩ := still.download parsed path offset count
      rw [failed]
      exact ⟨reason, rfl⟩
  · intro call after
    have untouched := still.untouched_call call
    exact ⟨untouched.board.trans same, untouched.files⟩

theorem nothing_reached_after_destroy_of_used_client :
    let settings : Settings := ⟨[Bytes.ofText "t:1"], 1, 5, 30, [], []⟩
    let named := Header.encode ⟨40, Command.answer, 0⟩ ++ Field.padded (Bytes.ofText "g") 16 ++
      Field.padded (Bytes.ofText "s") 15 ++ BigEndian.encode 7 ++ [0]
    let dialer : Dialer := .script ⟨[], [.link named none true, .link [] none true]⟩
    let accessor : Accessor := .catalogue [([120], ⟨1, [], .ofContent [7]⟩)]
    let start : World := ⟨⟨[⟨Bytes.ofText "t:1", 1, [], 0, false⟩], [], 1, accessor⟩,
      .ofDialer dialer, .blank, 0, 0, 0⟩
    let used := run start [.call (.upload [120])]
    let world := run start ([.call (.upload [120])] ++ [.call .destroy])
    let last := run world [.call (.storagePool (Bytes.ofText "z:9")), .call (.upload [120])]
    create settings dialer (some accessor) .blank = .ok start ∧
      used.board.isOpen 0 = true ∧ (∀ id, world.board.isOpen id = false) ∧
      last.client.storages.map Pool.isDestroyed = [true, false] ∧ last.board = world.board ∧
      (∃ reason, Action.result (World.call (.upload [120]) last) =
        .error (.noTrackerAvailable reason)) ∧
      Action.result (World.call (.upload [121]) last) =
        .error (.transfer (.noSuchFile [121])) ∧
      (∃ reason, Action.result (World.call (.download (Bytes.ofText "g/f") [122] 0 0) last) =
        .error (.noTrackerAvailable reason)) := by
  intro settings named dialer accessor start used world last
  have created : create settings dialer (some accessor) .blank = .ok start := by decide +kernel
  obtain ⟨closed, same, uploads, downloads, -⟩ :=
    nothing_reached_after_destroy created [.call (.upload [120])]
      [.call (.storagePool (Bytes.ofText "z:9")), .call (.upload [120])]
  have found : last.client.accessor.stage last.files [120] = .ok ⟨1, [], .ofContent [7]⟩ := by
    decide +kernel
  have absent : last.client.accessor.stage last.files [121] =
      .error (.transfer (.noSuchFile [121])) := by decide +kernel
  have parsed : FileId.parse (Bytes.ofText "g/f") =
      .ok ⟨Bytes.ofText "g", Bytes.ofText "f"⟩ := by decide +kernel
  exact ⟨created, by decide +kernel, closed, by decide +kernel, same, (uploads [120]).2 _ found,
    (uploads [121]).1 _ absent, (downloads (Bytes.ofText "g/f") [122] 0 0).2 _ parsed⟩

end World

end TrackedStorage
