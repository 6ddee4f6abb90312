import TrackedStorage.Proofs.Operations

set_option autoImplicit false

namespace TrackedStorage.World

open TrackedStorage.Action (Keeps)

/-- How many local files were asked for, opened and closed. -/
def streams (world : World) : Nat × Nat × Nat := (world.asked, world.staged, world.unstaged)

theorem keeps_streams_onDesk {α : Type} (ref : Client.PoolRef) (action : Action Desk α) :
    Keeps streams (onDesk ref action) :=
  keeps_onDesk (fun _ _ => rfl) action

theorem keeps_streams_onLease {α : Type} (ref : Client.PoolRef) (lease : Lease)
    (exchange : Action (Link × FileTree) α) : Keeps streams (onLease ref lease exchange) := by
  refine keeps_onLease (fun _ _ => rfl) (fun id => ?_) lease
  intro world
  rw [onLink, Action.on]
  cases exchange (world.board.link id, world.files) <;> rfl

theorem keeps_streams_query (query : Query) : Keeps streams (World.query query) :=
  keeps_query (fun index => keeps_streams_onDesk (.tracker index) Lease.take)
    fun ref lease => keeps_streams_onLease ref lease _

theorem keeps_streams_storagePool (address : Bytes) : Keeps streams (storagePool address) :=
  keeps_storagePool (fun _ _ => rfl) address

/-- Neither a tracker nor a storage node has a hand in local streams, however an operation ends. -/
theorem keeps_streams_operation {α : Type} (query : Query)
    (exchange : StorageNode → Action (Link × FileTree) α) :
    Keeps streams (operation query exchange) := by
  refine Action.keeps_bind (keeps_streams_query query) fun node => ?_
  refine Action.keeps_bind (keeps_streams_storagePool node.address) fun ref => ?_
  refine Action.keeps_bind (keeps_streams_onDesk ref Lease.take) fun lease => ?_
  exact keeps_streams_onLease ref lease (exchange node)

theorem keeps_streams_download (text path : Bytes) (offset count : UInt64) :
    Keeps streams (World.download text path offset count) := by
  intro world
  cases parsed : FileId.parse text with
  | error fault =>
      rw [World.download, parsed]
      rfl
  | ok id =>
      rw [download_eq_operation parsed, Action.after_bind_pure]
      exact keeps_streams_operation (.fetch id) _ world

def opened (world : World) : World :=
  { world with asked := world.asked + 1, staged := world.staged + 1 }

/-- What an upload does while its file is open. -/
def sending (file : StagedFile) : Action World FileId :=
  operation .store fun node => Action.onFirst (sendFile node file)

/-- A file that could be opened stays open until its operation is over, and is then closed. -/
theorem upload_of_staged {world : World} {path : Bytes} {file : StagedFile}
    (found : world.client.accessor.stage world.files path = .ok file) :
    let ended := Action.after (sending file world.opened)
    ended.streams = (world.asked + 1, world.staged + 1, world.unstaged) ∧
      Action.after (World.upload path world) = { ended with unstaged := world.unstaged + 1 } := by
  intro ended
  have kept : ended.streams = world.opened.streams := keeps_streams_operation .store _ world.opened
  have still : ended.unstaged = world.unstaged := (Prod.mk.inj (Prod.mk.inj kept).2).2
  have staged : stage path world = .ok file world.opened := by simp only [stage, found, opened]
  refine ⟨kept, ?_⟩
  rw [World.upload, Action.bind_of_ok staged, ← still]
  exact after_thenUnstage (sending file) world.opened

theorem keeps_streams_call {call : Call} (otherwise : ∀ path, call ≠ .upload path) :
    Keeps streams (World.call call) := by
  cases call with
  | upload path => exact absurd rfl (otherwise path)
  | download text path offset count =>
      exact Action.keeps_bind (keeps_streams_download text path offset count) fun _ =>
        Action.keeps_pure Reply.done
  | storagePool address =>
      refine Action.keeps_bind (keeps_streams_storagePool address) fun ref => ?_
      exact Action.keeps_bind (fun _ => rfl) fun found => Action.keeps_pure _
  | destroy =>
      intro world
      change streams world.destroy = streams world
      rw [destroy_eq]
      rfl
  | drop id =>
      intro world
      simp only [World.call, World.drop]
      split <;> rfl

/-- Each call closes as many files as it opens. -/
theorem settled_call {world : World} (settled : world.unstaged = world.staged) (call : Call) :
    (Action.after (World.call call world)).unstaged =
      (Action.after (World.call call world)).staged := by
  by_cases uploads : ∃ path, call = .upload path
  · obtain ⟨path, rfl⟩ := uploads
    rw [World.call, Action.after_bind_pure]
    cases found : world.client.accessor.stage world.files path with
    | error fault =>
        rw [upload_of_unstaged found]
        exact settled
    | ok file =>
        obtain ⟨kept, closed⟩ := upload_of_staged found
        have once : (Action.after (sending file world.opened)).staged = world.staged + 1 :=
          (Prod.mk.inj (Prod.mk.inj kept).2).1
        rw [closed, once, settled]
  · have kept := keeps_streams_call (not_exists.mp uploads) world
    simp only [streams, Prod.mk.injEq] at kept
    rw [kept.2.1, kept.2.2, settled]

theorem settled_create {settings : Settings} {dialer : Dialer} {accessor : Option Accessor}
    {files : FileTree} {start : World}
    (created : create settings dialer accessor files = .ok start) :
    start.unstaged = start.staged := by
  unfold create at created
  cases made : Client.create settings (some dialer) accessor with
  | error fault =>
      rw [made] at created
      cases created
  | ok client =>
      rw [made] at created
      cases created
      rfl

theorem settled_run {world : World} (settled : world.unstaged = world.staged)
    (history : List Event) : (run world history).unstaged = (run world history).staged := by
  induction history generalizing world with
  | nil => exact settled
  | cons event rest ih =>
      cases event with
      | call call => exact ih (settled_call settled call)
      | surroundings files accessor => exact ih settled

/-- A local stream is closed exactly once. After whatever history of a client, before and after its
destruction, as many streams were closed as the accessor handed out. An upload asks the accessor
once. If it is given no stream, it fails for that reason. If it is given one, that stream stays open
until the upload is done with tracker and storage node, however far it came with them, and is closed
as the last thing that the upload does. No other call asks for a stream, or closes one. -/
theorem local_streams_closed_once {settings : Settings} {dialer : Dialer}
    {accessor : Option Accessor} {files : FileTree} {start : World}
    (created : create settings dialer accessor files = .ok start) (history : List Event) :
    let world := run start history
    world.unstaged = world.staged ∧
    (∀ path,
      let ended := World.call (.upload path) world
      (∀ fault, world.client.accessor.stage world.files path = .error fault →
        Action.result ended = .error fault ∧
        (Action.after ended).streams = (world.asked + 1, world.staged, world.unstaged)) ∧
      ∀ file, world.client.accessor.stage world.files path = .ok file →
        let used := Action.after (sending file world.opened)
        used.streams = (world.asked + 1, world.staged + 1, world.unstaged) ∧
        Action.after ended = { used with unstaged := world.unstaged + 1 }) ∧
    ∀ call, (∀ path, call ≠ .upload path) →
      (Action.after (World.call call world)).streams = world.streams := by
  intro world
  refine ⟨settled_run (settled_create created) history, ?_,
    fun call otherwise => keeps_streams_call otherwise world⟩
  intro path ended
  have result : Action.result ended =
      (Action.result (World.upload path world)).map Reply.stored :=
    Action.result_bind_pure _ _ _
  have after : Action.after ended = Action.after (World.upload path world) :=
    Action.after_bind_pure _ _ _
  refine ⟨?_, ?_⟩
  · intro fault refused
    rw [result, after, upload_of_unstaged refused]
    exact ⟨rfl, rfl⟩
  · intro file found
    rw [after]
    exact upload_of_staged found

theorem local_streams_closed_once_after_destroy :
    let settings : Settings := ⟨[Bytes.ofText "t:1"], 1, 5, 30, [], []⟩
    let named := Header.encode ⟨40, Command.answer, 0⟩ ++ Field.padded (Bytes.ofText "g") 16 ++
      Field.padded (Bytes.ofText "s") 15 ++ BigEndian.encode 7 ++ [0]
    let dialer : Dialer := .script ⟨[], [.link named none true, .link [] none true]⟩
    let file : StagedFile := ⟨1, [], .ofContent [7]⟩
    let accessor : Accessor := .catalogue [([120], file)]
    let start : World := ⟨⟨[⟨Bytes.ofText "t:1", 1, [], 0, false⟩], [], 1, accessor⟩,
      .ofDialer dialer, .blank, 0, 0, 0⟩
    let world := run start [.call (.upload [120]), .call .destroy, .call (.upload [121])]
    let ended := World.call (.upload [120]) world
    create settings dialer (some accessor) .blank = .ok start ∧
      world.asked = 2 ∧ world.staged = 1 ∧ world.unstaged = world.staged ∧
      (Action.after (sending file world.opened)).streams = (3, 2, 1) ∧
      (Action.after ended).unstaged = 2 ∧
      Action.result ended = .error (.noTrackerAvailable
        (Fault.exhausted (Bytes.ofText "t:1")).shown) := by
  intro settings named dialer file accessor start world ended
  have created : create settings dialer (some accessor) .blank = .ok start := by decide +kernel
  obtain ⟨settled, uploads, -⟩ := local_streams_closed_once created
    [.call (.upload [120]), .call .destroy, .call (.upload [121])]
  have asked : world.asked = 2 := by decide +kernel
  have staged : world.staged = 1 := by decide +kernel
  have found : world.client.accessor.stage world.files [120] = .ok file := by decide +kernel
  obtain ⟨used, closed⟩ := (uploads [120]).2 file found
  have unstaged : world.unstaged = 1 := settled.trans staged
  refine ⟨created, asked, staged, settled, ?_, ?_, by decide +kernel⟩
  · exact used.trans (by rw [asked, staged, unstaged])
  · rw [closed, unstaged]

end TrackedStorage.World
