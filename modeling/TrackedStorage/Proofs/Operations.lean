import TrackedStorage.Proofs.FileStore

set_option autoImplicit false

namespace TrackedStorage.World

open TrackedStorage.Action (Keeps)

/-- Asks a tracker for a storage node, and runs one exchange with the node. -/
def operation {α : Type} (query : Query) (exchange : StorageNode → Action (Link × FileTree) α) :
    Action World α := do
  let node ← World.query query
  onStorage node (exchange node)

/-- What a call asks a tracker, and the world in which it does so, if it comes to that. -/
def asks : Call → World → Option (Query × World)
  | .upload path, world =>
      match stage path world with
      | .error _ _ => none
      | .ok _ staged => some (.store, staged)
  | .download text _ _ _, world =>
      match FileId.parse text with
      | .error _ => none
      | .ok id => some (.fetch id, world)
  | .storagePool _, _ => none
  | .destroy, _ => none
  | .drop _, _ => none

def Call.IsOperation (call : Call) : Prop :=
  (∃ path, call = .upload path) ∨
    ∃ text path offset count, call = .download text path offset count

/-- Two results that differ in no more than the value and what has no client, link or fault in it. -/
structure EndsAs {α β : Type} (operated : EStateM.Result Fault World α)
    (ended : EStateM.Result Fault World β) : Prop where
  client : (Action.after ended).client = (Action.after operated).client
  board : (Action.after ended).board = (Action.after operated).board
  fault : ∀ fault, Action.result ended = .error fault ↔ Action.result operated = .error fault

section
variable {α β γ : Type} {operated : EStateM.Result Fault World α} {action : Action World β}
variable {world : World}

theorem endsAs_self (operated : EStateM.Result Fault World α) : EndsAs operated operated :=
  ⟨rfl, rfl, fun _ => Iff.rfl⟩

theorem EndsAs.shaped (ends : EndsAs operated (action world)) (shape : β → γ) :
    EndsAs operated ((action >>= fun value => pure (shape value)) world) := by
  refine ⟨?_, ?_, ?_⟩
  · rw [Action.after_bind_pure, ends.client]
  · rw [Action.after_bind_pure, ends.board]
  · intro fault
    rw [← ends.fault fault, Action.result_bind_pure]
    cases Action.result (action world) <;> simp [Except.map]

theorem EndsAs.unstaged (ends : EndsAs operated (action world)) :
    EndsAs operated (thenUnstage action world) := by
  refine ⟨?_, ?_, ?_⟩
  · rw [after_thenUnstage, ← ends.client]
  · rw [after_thenUnstage, ← ends.board]
  · intro fault
    rw [← ends.fault fault, thenUnstage]
    cases action world <;> exact Iff.rfl

/-- An upload of a file that was opened ends as its operation. -/
theorem endsAs_upload {path : Bytes} {file : StagedFile} {opened : World}
    (staged : stage path world = .ok file opened) :
    EndsAs (operation .store (fun node => Action.onFirst (sendFile node file)) opened)
      (World.call (.upload path) world) := by
  refine EndsAs.shaped ?_ Reply.stored
  rw [World.upload, Action.bind_of_ok staged]
  exact (endsAs_self _).unstaged

/-- A download under a good identifier ends as its operation. -/
theorem endsAs_download {text path : Bytes} {offset count : UInt64} {id : FileId}
    (parsed : FileId.parse text = .ok id) :
    EndsAs (operation (.fetch id) (fun _ => Download.toFile ⟨id, offset, count⟩ path) world)
      (World.call (.download text path offset count) world) := by
  refine EndsAs.shaped ?_ fun _ => Reply.done
  rw [download_eq_operation parsed]
  exact (endsAs_self _).shaped fun _ => ()

/-- A call that asks a tracker is an operation, which is begun with the client and the links that
the call finds. -/
theorem exists_operation {call : Call} {query : Query} {begun : World}
    (asking : asks call world = some (query, begun)) :
    begun.client = world.client ∧ begun.board = world.board ∧
      ∃ (α : Type) (exchange : StorageNode → Action (Link × FileTree) α),
        (∀ node, Action.FailsBy Fault.isOfExchange (exchange node)) ∧
        EndsAs (operation query exchange begun) (World.call call world) := by
  cases call with
  | upload path =>
      rw [asks] at asking
      cases staged : stage path world with
      | error fault after =>
          rw [staged] at asking
          cases asking
      | ok file opened =>
          rw [staged] at asking
          cases asking
          have ends := endsAs_upload staged
          obtain ⟨-, rfl⟩ := stage_eq_ok staged
          exact ⟨rfl, rfl, FileId, _, fun node => Action.failsBy_on (failsBy_sendFile node file),
            ends⟩
  | download text path offset count =>
      rw [asks] at asking
      cases parsed : FileId.parse text with
      | error fault =>
          rw [parsed] at asking
          cases asking
      | ok id =>
          rw [parsed] at asking
          cases asking
          exact ⟨rfl, rfl, UInt64, _, fun _ => Download.failsBy_toFile _ path,
            endsAs_download parsed⟩
  | storagePool address => cases asking
  | destroy => cases asking
  | drop id => cases asking

theorem upload_of_unstaged {path : Bytes} {fault : Fault}
    (refused : world.client.accessor.stage world.files path = .error fault) :
    World.upload path world = .error fault { world with asked := world.asked + 1 } := by
  have unstaged : stage path world = .error fault { world with asked := world.asked + 1 } := by
    simp only [stage, refused]
  exact Action.bind_of_error unstaged _

end

section
variable {α γ : Type} {part : World → γ} {ref : Client.PoolRef}

theorem keeps_onDesk (put : ∀ world desk, part (world.setDesk ref desk) = part world)
    (action : Action Desk α) : Keeps part (onDesk ref action) := by
  intro world
  rw [onDesk, Action.on]
  cases action (world.desk ref) <;> exact put world _

theorem keeps_onLease {exchange : Action (Link × FileTree) α}
    (put : ∀ world desk, part (world.setDesk ref desk) = part world)
    (use : ∀ id, Keeps part (onLink id exchange)) (lease : Lease) :
    Keeps part (onLease ref lease exchange) := by
  intro world
  unfold onLease
  cases lease.held with
  | none => rfl
  | some id =>
      have used := use id world
      dsimp only
      cases ran : onLink id exchange world with
      | ok value after =>
          rw [ran] at used
          exact (put after _).trans used
      | error fault after =>
          rw [ran] at used
          exact (put after _).trans used

theorem keeps_leaseTracker (take : ∀ index, Keeps part (onDesk (.tracker index) Lease.take))
    (reason : Bytes) (indices : List Nat) : Keeps part (leaseTracker reason indices) := by
  intro world
  induction indices generalizing reason world with
  | nil => rfl
  | cons index rest ih =>
      have kept := take index world
      cases taken : onDesk (.tracker index) Lease.take world with
      | ok lease lent =>
          rw [taken] at kept
          rw [leaseTracker_cons_of_ok taken]
          exact kept
      | error fault after =>
          rw [taken] at kept
          rw [leaseTracker_cons_of_error taken]
          split
          · exact (ih _ after).trans kept
          · exact kept

theorem keeps_query {query : Query}
    (take : ∀ index, Keeps part (onDesk (.tracker index) Lease.take))
    (use : ∀ ref lease, Keeps part (onLease ref lease (Action.onFirst query.ask))) :
    Keeps part (World.query query) := by
  refine Action.keeps_bind ?_ fun (ref, lease) => use ref lease
  intro world
  exact keeps_leaseTracker take _ _ world

end

theorem keeps_storagePool {γ : Type} {part : World → γ}
    (add : ∀ world pool, part { world with client := world.client.addStorage pool } = part world)
    (address : Bytes) : Keeps part (storagePool address) := by
  intro world
  cases pooled : storagePool address world with
  | ok ref found =>
      rcases storagePool_eq_ok pooled with ⟨_, -, -, rfl⟩ | ⟨pool, -, -, -, rfl⟩
      · rfl
      · exact add world pool
  | error fault after =>
      obtain ⟨rfl, -⟩ := storagePool_eq_error pooled
      rfl

/-- A query to a tracker does nothing to the local files. -/
theorem keeps_files_query (query : Query) : Keeps World.files (World.query query) := by
  refine keeps_query (fun index => keeps_onDesk (fun _ _ => rfl) _) fun ref lease => ?_
  refine keeps_onLease (fun _ _ => rfl) (fun id => ?_) lease
  intro world
  rw [onLink, Action.on, Action.onFirst, Action.on]
  cases query.ask (world.board.link id) <;> rfl

/-- Leads an operation to a link to the storage node that a tracker names. -/
def reachNode (query : Query) : Action World (Client.PoolRef × Lease) := do
  let node ← World.query query
  let ref ← storagePool node.address
  let lease ← onDesk ref Lease.take
  pure (ref, lease)

theorem operation_eq_reachNode {α : Type} (query : Query)
    (exchange : Action (Link × FileTree) α) :
    operation query (fun _ => exchange) =
      reachNode query >>= fun (ref, lease) => onLease ref lease exchange := by
  simp only [operation, reachNode, onStorage, bind_assoc, pure_bind]

theorem keeps_files_reachNode (query : Query) : Keeps World.files (reachNode query) := by
  refine Action.keeps_bind (keeps_files_query query) fun node => ?_
  refine Action.keeps_bind (keeps_storagePool (fun _ _ => rfl) node.address) fun ref => ?_
  refine Action.keeps_bind (keeps_onDesk (fun _ _ => rfl) _) fun lease => ?_
  exact Action.keeps_pure (ref, lease)

theorem held_of_reachNode {query : Query} {world lent : World} {ref : Client.PoolRef}
    {lease : Lease} (reached : reachNode query world = .ok (ref, lease) lent) :
    ∃ id, lease = ⟨some id⟩ := by
  obtain ⟨node, asked, -, pooling⟩ := Action.bind_eq_ok reached
  obtain ⟨other, found, -, leasing⟩ := Action.bind_eq_ok pooling
  obtain ⟨taken, last, took, ending⟩ := Action.bind_eq_ok leasing
  cases ending
  exact held_of_take took

/-- An exchange over a leased link ends as it does over the link. -/
theorem onLease_ends {α : Type} (ref : Client.PoolRef) (id : LinkId)
    (exchange : Action (Link × FileTree) α) (world : World) :
    let ended := exchange (world.board.link id, world.files)
    Action.result (onLease ref ⟨some id⟩ exchange world) = Action.result ended ∧
      (Action.after (onLease ref ⟨some id⟩ exchange world)).files = (Action.after ended).2 := by
  intro ended
  cases ran : exchange (world.board.link id, world.files) with
  | ok value last =>
      simp only [onLease, onLink, Action.on, ended, ran]
      exact ⟨rfl, rfl⟩
  | error fault last =>
      simp only [onLease, onLink, Action.on, ended, ran]
      exact ⟨rfl, rfl⟩

end TrackedStorage.World
