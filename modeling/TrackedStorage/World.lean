import TrackedStorage.Client
import TrackedStorage.Download
import TrackedStorage.Query

set_option autoImplicit false

namespace TrackedStorage

/-- A client with everything it acts on. -/
structure World where
  client : Client
  board : Switchboard
  files : FileTree
  /-- How often a local file was asked for. -/
  asked : Nat
  /-- How many local files were opened. -/
  staged : Nat
  /-- How many of them were closed again. -/
  unstaged : Nat
  deriving DecidableEq

namespace World

def create (settings : Settings) (dialer : Dialer) (accessor : Option Accessor)
    (files : FileTree) : Except Fault World := do
  let client ← Client.create settings (some dialer) accessor
  pure ⟨client, .ofDialer dialer, files, 0, 0, 0⟩

def desk (world : World) (ref : Client.PoolRef) : Desk := (world.client.pool ref, world.board)

def setDesk (world : World) (ref : Client.PoolRef) (desk : Desk) : World :=
  { world with client := world.client.setPool ref desk.1, board := desk.2 }

def onDesk {α : Type} (ref : Client.PoolRef) (action : Action Desk α) : Action World α :=
  Action.on (·.desk ref) (fun desk world => world.setDesk ref desk) action

def onLink {α : Type} (id : LinkId) (action : Action (Link × FileTree) α) : Action World α :=
  Action.on (fun world => (world.board.link id, world.files))
    (fun (link, files) world => { world with board := world.board.setLink id link, files := files })
    action

/-- Uses a leased link for one exchange. The lease ends with the exchange: the link goes back to
its pool if the exchange succeeded, and is discarded otherwise. -/
def onLease {α : Type} (ref : Client.PoolRef) (lease : Lease)
    (exchange : Action (Link × FileTree) α) : Action World α := fun world =>
  match lease.held with
  | none => .error (.exhausted (world.client.pool ref).address) world
  | some id =>
      match onLink id exchange world with
      | .ok value world =>
          let (lease, desk) := lease.release (world.desk ref)
          .ok value (world.setDesk ref (lease.finish desk))
      | .error fault world => .error fault (world.setDesk ref (lease.finish (world.desk ref)))

/-- Faults of one tracker that make the client turn to the next one. -/
def isUnavailable : Fault → Bool
  | .exhausted _ | .dial _ _ => true
  | _ => false

/-- Takes a lease from the first of some tracker pools that lends a link. When none does, the
fault quotes the last of them, or `reason` if there is none. -/
def leaseTracker (reason : Bytes) : List Nat → Action World (Client.PoolRef × Lease)
  | [] => throw (.noTrackerAvailable reason)
  | index :: rest => fun world =>
      match onDesk (.tracker index) Lease.take world with
      | .ok lease world => .ok (.tracker index, lease) world
      | .error fault world =>
          if isUnavailable fault then leaseTracker fault.shown rest world else .error fault world

def leaseAnyTracker : Action World (Client.PoolRef × Lease) := fun world =>
  leaseTracker (Bytes.ofText "no tracker pool could be used")
    (List.range world.client.trackers.length) world

/-- Asks a tracker for a storage node. Only one tracker is asked. -/
def query (query : Query) : Action World StorageNode := do
  let (ref, lease) ← leaseAnyTracker
  onLease ref lease (Action.onFirst query.ask)

/-- The pool for a storage address, which is created when it is first asked for. -/
def storagePool (address : Bytes) : Action World Client.PoolRef := fun world =>
  let storages := world.client.storages
  match storages.findIdx? (·.address == address) with
  | some index => .ok (.storage index) world
  | none =>
      match Pool.create address world.client.capacity (some world.board.dialer) with
      | .error fault => .error fault world
      | .ok pool =>
          .ok (.storage storages.length) { world with client := world.client.addStorage pool }

def onStorage {α : Type} (node : StorageNode) (exchange : Action (Link × FileTree) α) :
    Action World α := do
  let ref ← storagePool node.address
  let lease ← onDesk ref Lease.take
  onLease ref lease exchange

def stage (path : Bytes) : Action World StagedFile := fun world =>
  let world := { world with asked := world.asked + 1 }
  match world.client.accessor.stage world.files path with
  | .ok file => .ok file { world with staged := world.staged + 1 }
  | .error fault => .error fault world

/-- Closes the local file that an upload used, however the upload ends. -/
def thenUnstage {α : Type} (action : Action World α) : Action World α := fun world =>
  match action world with
  | .ok value world => .ok value { world with unstaged := world.unstaged + 1 }
  | .error fault world => .error fault { world with unstaged := world.unstaged + 1 }

/-- Sends a staged file to a storage node, and drops what is left of it. -/
def sendFile (node : StorageNode) (file : StagedFile) : Action Link FileId := fun link =>
  let upload : Upload := ⟨node.pathIndex, file.size, file.extension⟩
  match upload.run (link, file.source) with
  | .ok id (link, _) => .ok id link
  | .error fault (link, _) => .error fault link

/-- Uploads a local file, and gives the identifier under which it is stored. -/
def upload (path : Bytes) : Action World FileId := do
  let file ← stage path
  thenUnstage do
    let node ← query .store
    onStorage node (Action.onFirst (sendFile node file))

/-- Downloads `count` bytes of a stored file from `offset` on into a local file, or everything
when `count` is zero. -/
def download (id path : Bytes) (offset count : UInt64) : Action World Unit := do
  let id ← Action.ofExcept (FileId.parse id)
  let node ← query (.fetch id)
  let download : Download := ⟨id, offset, count⟩
  let _ ← onStorage node (download.toFile path)
  pure ()

/-- Destroys all pools. Pools for further storage addresses can still be had. -/
def destroy (world : World) : World :=
  let (trackers, board) := Client.destroyPools world.client.trackers world.board
  let (storages, board) := Client.destroyPools world.client.storages board
  { world with
    client := { world.client with trackers := trackers, storages := storages }
    board := board }

/-- A link turns closed by itself. Tells whether there is such a link. -/
def drop (id : LinkId) (world : World) : Bool × World :=
  if id < world.board.links.length then (true, { world with board := world.board.close id })
  else (false, world)

inductive Call where
  | upload (path : Bytes)
  | download (id path : Bytes) (offset count : UInt64)
  | storagePool (address : Bytes)
  | destroy
  | drop (id : LinkId)
  deriving DecidableEq

inductive Reply where
  | stored (id : FileId)
  | pool (pool : Pool)
  | done
  /-- There is nothing for the call to act on. -/
  | nothing
  deriving DecidableEq

/-- What a call answers, and what it leaves behind whether it succeeds or not. -/
def call : Call → Action World Reply
  | .upload path => do
      let id ← upload path
      pure (.stored id)
  | .download id path offset count => do
      download id path offset count
      pure .done
  | .storagePool address => do
      let ref ← storagePool address
      let world ← get
      pure (.pool (world.client.pool ref))
  | .destroy => fun world => .ok .done world.destroy
  | .drop id => fun world =>
      let (isThere, world) := world.drop id
      .ok (if isThere then .done else .nothing) world

section
variable {address : Bytes} {world after : World}

theorem storagePool_of_known {index : Nat}
    (known : world.client.storages.findIdx? (·.address == address) = some index) :
    storagePool address world = .ok (.storage index) world := by
  simp only [storagePool, known]

theorem storagePool_of_created {pool : Pool}
    (absent : world.client.storages.findIdx? (·.address == address) = none)
    (created : Pool.create address world.client.capacity (some world.board.dialer) = .ok pool) :
    storagePool address world = .ok (.storage world.client.storages.length)
      { world with client := world.client.addStorage pool } := by
  simp only [storagePool, absent, created]

/-- A pool that is given out was there before, or is a new one behind all others. -/
theorem storagePool_eq_ok {ref : Client.PoolRef} (done : storagePool address world = .ok ref after) :
    (∃ index, world.client.storages.findIdx? (·.address == address) = some index ∧
      ref = .storage index ∧ after = world) ∨
    ∃ pool, world.client.storages.findIdx? (·.address == address) = none ∧
      Pool.create address world.client.capacity (some world.board.dialer) = .ok pool ∧
      ref = .storage world.client.storages.length ∧
      after = { world with client := world.client.addStorage pool } := by
  unfold storagePool at done
  dsimp only at done
  split at done
  · rename_i index known
    cases done
    exact .inl ⟨index, known, rfl, rfl⟩
  · rename_i absent
    split at done
    · cases done
    · rename_i pool created
      cases done
      exact .inr ⟨pool, absent, created, rfl, rfl⟩

/-- No pool is given out if there is none and none can be made, which changes nothing. -/
theorem storagePool_eq_error {fault : Fault}
    (failed : storagePool address world = .error fault after) :
    after = world ∧
      Pool.create address world.client.capacity (some world.board.dialer) = .error fault := by
  unfold storagePool at failed
  dsimp only at failed
  split at failed
  · cases failed
  · split at failed
    · rename_i refused
      cases failed
      exact ⟨rfl, refused⟩
    · cases failed

end

end World

end TrackedStorage
