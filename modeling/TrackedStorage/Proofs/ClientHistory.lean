import TrackedStorage.World
import TrackedStorage.Proofs.PoolOperations

set_option autoImplicit false

namespace TrackedStorage.World

/-- What may happen to a client and to its surroundings. -/
inductive Event where
  | call (call : Call)
  /-- Local files change, or the files that are offered for uploads. -/
  | surroundings (files : FileTree) (accessor : Accessor)

/-- What an event leaves behind, whether a call succeeds or not. -/
def happen (world : World) : Event → World
  | .call call => Action.after (World.call call world)
  | .surroundings files accessor =>
      { world with files := files, client := { world.client with accessor := accessor } }

def run (world : World) (history : List Event) : World := history.foldl happen world

/-- A condition on all calls of a history, each in the world in which it is made. -/
def Along (holds : World → Call → Prop) : World → List Event → Prop
  | _, [] => True
  | world, event :: rest =>
      (∀ call, event = .call call → holds world call) ∧ Along holds (world.happen event) rest

theorem Along.imp {holds also : World → Call → Prop}
    (implies : ∀ world call, holds world call → also world call) {world : World}
    {history : List Event} (along : Along holds world history) : Along also world history := by
  induction history generalizing world with
  | nil => trivial
  | cons event rest ih =>
      obtain ⟨first, later⟩ := along
      exact ⟨fun call same => implies world call (first call same), ih later⟩

/-- One exchange: the pool that lent the link, the link, and whether the exchange succeeded. -/
structure Trial where
  ref : Client.PoolRef
  link : LinkId
  isOk : Bool
  deriving DecidableEq

def leaseTrials {α : Type} (ref : Client.PoolRef) (lease : Lease)
    (exchange : Action (Link × FileTree) α) (world : World) : List Trial :=
  match lease.held with
  | none => []
  | some id => [⟨ref, id, (Action.result (onLink id exchange world)).isOk⟩]

def queryTrials (query : Query) (world : World) : List Trial :=
  match leaseAnyTracker world with
  | .error _ _ => []
  | .ok (ref, lease) lent => leaseTrials ref lease (Action.onFirst query.ask) lent

def storageTrials {α : Type} (node : StorageNode) (exchange : Action (Link × FileTree) α)
    (world : World) : List Trial :=
  match storagePool node.address world with
  | .error _ _ => []
  | .ok ref found =>
      match onDesk ref Lease.take found with
      | .error _ _ => []
      | .ok lease lent => leaseTrials ref lease exchange lent

/-- The exchanges of an operation: one with a tracker, then one with the node that it names. -/
def operationTrials {α : Type} (query : Query)
    (exchange : StorageNode → Action (Link × FileTree) α) (world : World) : List Trial :=
  queryTrials query world ++
    match World.query query world with
    | .error _ _ => []
    | .ok node asked => storageTrials node (exchange node) asked

/-- The exchanges that a call makes, in order. -/
def trials : Call → World → List Trial
  | .upload path, world =>
      match stage path world with
      | .error _ _ => []
      | .ok file staged =>
          operationTrials .store (fun node => Action.onFirst (sendFile node file)) staged
  | .download id path offset count, world =>
      match FileId.parse id with
      | .error _ => []
      | .ok id =>
          operationTrials (.fetch id) (fun _ => Download.toFile ⟨id, offset, count⟩ path) world
  | .storagePool _, _ => []
  | .destroy, _ => []
  | .drop _, _ => []

/-- A condition on what a client does: whether it may be destroyed, and which exchanges the links
of each pool may be used for. -/
structure Permission where
  destruction : Prop
  exchange : Client.PoolRef → {α : Type} → Action (Link × FileTree) α → Prop

/-- One step of a client. A link that is lent is given back within the step. -/
inductive Step (permitted : Permission) : List Trial → World → World → Prop
  | counted (world : World) (asked staged unstaged : Nat) :
      Step permitted [] world
        { world with asked := asked, staged := staged, unstaged := unstaged }
  | surrounded (world : World) (files : FileTree) (accessor : Accessor) :
      Step permitted [] world (world.happen (.surroundings files accessor))
  | opened (world : World) (address : Bytes) (pool : Pool)
      (absent : ∀ other ∈ world.client.storages, other.address ≠ address)
      (created : Pool.create address world.client.capacity (some world.board.dialer) = .ok pool) :
      Step permitted [] world { world with client := world.client.addStorage pool }
  | refused {world after : World} (ref : Client.PoolRef) (fault : Fault)
      (taken : onDesk ref Lease.take world = .error fault after) : Step permitted [] world after
  | served {α : Type} {world lent used : World} (ref : Client.PoolRef) (id : LinkId)
      (exchange : Action (Link × FileTree) α) (value : α)
      (taken : onDesk ref Lease.take world = .ok ⟨some id⟩ lent)
      (allowed : permitted.exchange ref exchange)
      (done : onLink id exchange lent = .ok value used) :
      Step permitted [⟨ref, id, true⟩] world
        (used.setDesk ref (Pool.release (some id) (used.desk ref)))
  | failed {α : Type} {world lent used : World} (ref : Client.PoolRef) (id : LinkId)
      (exchange : Action (Link × FileTree) α) (fault : Fault)
      (taken : onDesk ref Lease.take world = .ok ⟨some id⟩ lent)
      (allowed : permitted.exchange ref exchange)
      (done : onLink id exchange lent = .error fault used) :
      Step permitted [⟨ref, id, false⟩] world
        (used.setDesk ref (Pool.discard (some id) (used.desk ref)))
  | destroyed (world : World) (allowed : permitted.destruction) :
      Step permitted [] world world.destroy
  | dropped (world : World) (id : LinkId) :
      Step permitted [] world { world with board := world.board.close id }

inductive Steps (permitted : Permission) : List Trial → World → World → Prop
  | none (world : World) : Steps permitted [] world world
  | next {first rest : List Trial} {world middle after : World}
      (step : Step permitted first world middle) (later : Steps permitted rest middle after) :
      Steps permitted (first ++ rest) world after

section
variable {permitted : Permission}

theorem Steps.single {trials : List Trial} {world after : World}
    (step : Step permitted trials world after) : Steps permitted trials world after := by
  simpa using Steps.next step (.none after)

theorem Steps.trans {first rest : List Trial} {world middle after : World}
    (earlier : Steps permitted first world middle) (later : Steps permitted rest middle after) :
    Steps permitted (first ++ rest) world after := by
  induction earlier with
  | none => exact later
  | next step _ ih =>
      rw [List.append_assoc]
      exact .next step (ih later)

/-- What holds of a world and is kept by every step holds after any steps. -/
theorem Steps.preserve {holds : World → Prop} {trials : List Trial} {world after : World}
    (steps : Steps permitted trials world after) (start : holds world)
    (kept : ∀ {trials world after}, Step permitted trials world after → holds world →
      holds after) : holds after := by
  induction steps with
  | none => exact start
  | next step _ ih => exact ih (kept step start)

theorem held_of_take {ref : Client.PoolRef} {lease : Lease} {world lent : World}
    (taken : onDesk ref Lease.take world = .ok lease lent) : ∃ id, lease = ⟨some id⟩ := by
  obtain ⟨desk, took, -⟩ := Action.on_eq_ok taken
  unfold Lease.take at took
  split at took
  · cases took
    exact ⟨_, rfl⟩
  · cases took

theorem onLease_steps {α : Type} {ref : Client.PoolRef} {lease : Lease} {world lent : World}
    {exchange : Action (Link × FileTree) α}
    (taken : onDesk ref Lease.take world = .ok lease lent)
    (allowed : permitted.exchange ref exchange) :
    Steps permitted (leaseTrials ref lease exchange lent) world
      (Action.after (onLease ref lease exchange lent)) := by
  obtain ⟨id, rfl⟩ := held_of_take taken
  cases done : onLink id exchange lent with
  | ok value used =>
      have step := Steps.single (.served ref id exchange value taken allowed done)
      simp only [leaseTrials, onLease, done]
      exact step
  | error fault used =>
      have step := Steps.single (.failed ref id exchange fault taken allowed done)
      simp only [leaseTrials, onLease, done]
      exact step

theorem leaseTracker_cons_of_ok {index : Nat} {lease : Lease} {world lent : World}
    (taken : onDesk (.tracker index) Lease.take world = .ok lease lent) (reason : Bytes)
    (rest : List Nat) :
    leaseTracker reason (index :: rest) world = .ok (.tracker index, lease) lent := by
  simp only [leaseTracker, taken]

theorem leaseTracker_cons_of_error {index : Nat} {fault : Fault} {world after : World}
    (taken : onDesk (.tracker index) Lease.take world = .error fault after) (reason : Bytes)
    (rest : List Nat) :
    leaseTracker reason (index :: rest) world =
      if isUnavailable fault then leaseTracker fault.shown rest after else .error fault after := by
  simp only [leaseTracker, taken]

/-- The trackers that refuse a link are tried without an exchange. -/
theorem leaseTracker_ok_steps (permitted : Permission) {reason : Bytes} {indices : List Nat}
    {world lent : World} {ref : Client.PoolRef} {lease : Lease}
    (leased : leaseTracker reason indices world = .ok (ref, lease) lent) :
    ∃ index middle, ref = .tracker index ∧ Steps permitted [] world middle ∧
      onDesk ref Lease.take middle = .ok lease lent := by
  induction indices generalizing reason world with
  | nil => cases leased
  | cons index rest ih =>
      cases taken : onDesk (.tracker index) Lease.take world with
      | ok first after =>
          rw [leaseTracker_cons_of_ok taken] at leased
          cases leased
          exact ⟨index, world, rfl, .none world, taken⟩
      | error fault after =>
          rw [leaseTracker_cons_of_error taken] at leased
          split at leased
          · obtain ⟨tracker, middle, same, steps, took⟩ := ih leased
            have first : Steps permitted [] world after := .single (.refused _ fault taken)
            exact ⟨tracker, middle, same, first.trans steps, took⟩
          · cases leased

theorem leaseTracker_error_steps {reason : Bytes} {indices : List Nat} {world last : World}
    {fault : Fault} (failed : leaseTracker reason indices world = .error fault last) :
    Steps permitted [] world last := by
  induction indices generalizing reason world with
  | nil =>
      cases failed
      exact .none last
  | cons index rest ih =>
      cases taken : onDesk (.tracker index) Lease.take world with
      | ok first after =>
          rw [leaseTracker_cons_of_ok taken] at failed
          cases failed
      | error cause after =>
          have first : Steps permitted [] world after := .single (.refused _ cause taken)
          rw [leaseTracker_cons_of_error taken] at failed
          split at failed
          · exact first.trans (ih failed)
          · cases failed
            exact first

theorem query_steps {query : Query}
    (allowed : ∀ index, permitted.exchange (.tracker index) (Action.onFirst query.ask))
    (world : World) :
    Steps permitted (queryTrials query world) world
      (Action.after (World.query query world)) := by
  rw [World.query, Action.after_bind, queryTrials]
  cases leased : leaseAnyTracker world with
  | error fault after => exact leaseTracker_error_steps leased
  | ok value lent =>
      obtain ⟨ref, lease⟩ := value
      obtain ⟨index, middle, rfl, steps, taken⟩ := leaseTracker_ok_steps permitted leased
      exact steps.trans (onLease_steps taken (allowed index))

theorem storagePool_steps (permitted : Permission) {address : Bytes} {world found : World}
    {ref : Client.PoolRef}
    (done : storagePool address world = .ok ref found) :
    (∃ index, ref = .storage index) ∧ Steps permitted [] world found := by
  rcases storagePool_eq_ok done with
    ⟨index, known, rfl, rfl⟩ | ⟨pool, absent, created, rfl, rfl⟩
  · exact ⟨⟨index, rfl⟩, .none found⟩
  · refine ⟨⟨_, rfl⟩, .single (.opened world address pool ?_ created)⟩
    intro other isIn same
    have found := List.findIdx?_eq_none_iff.mp absent other isIn
    simp [same] at found

theorem onStorage_steps {α : Type} {node : StorageNode} {exchange : Action (Link × FileTree) α}
    (allowed : ∀ index, permitted.exchange (.storage index) exchange) (world : World) :
    Steps permitted (storageTrials node exchange world) world
      (Action.after (onStorage node exchange world)) := by
  rw [onStorage, Action.after_bind, storageTrials]
  cases pooled : storagePool node.address world with
  | error fault after =>
      rw [(storagePool_eq_error pooled).1]
      exact .none world
  | ok ref found =>
      obtain ⟨⟨index, rfl⟩, opened⟩ := storagePool_steps permitted pooled
      dsimp only
      rw [Action.after_bind]
      cases taken : onDesk (.storage index) Lease.take found with
      | error fault after => exact opened.trans (.single (.refused _ fault taken))
      | ok lease lent => exact opened.trans (onLease_steps taken (allowed index))

theorem operation_steps {α : Type} {query : Query}
    {exchange : StorageNode → Action (Link × FileTree) α}
    (asking : ∀ index, permitted.exchange (.tracker index) (Action.onFirst query.ask))
    (storing : ∀ index node, permitted.exchange (.storage index) (exchange node)) (world : World) :
    Steps permitted (operationTrials query exchange world) world
      (Action.after ((do
        let node ← World.query query
        onStorage node (exchange node)) world)) := by
  have asked := query_steps asking world
  rw [Action.after_bind, operationTrials]
  cases answered : World.query query world with
  | error fault after =>
      rw [answered] at asked
      rw [List.append_nil]
      exact asked
  | ok node after =>
      rw [answered] at asked
      exact asked.trans (onStorage_steps (fun index => storing index node) after)

/-- Whether all that a call can do is permitted. -/
def Permits (permitted : Permission) (world : World) : Call → Prop
  | .upload path =>
      (∀ index, permitted.exchange (.tracker index) (Action.onFirst Query.store.ask)) ∧
        ∀ file, world.client.accessor.stage world.files path = .ok file →
          ∀ index node, permitted.exchange (.storage index) (Action.onFirst (sendFile node file))
  | .download text path offset count =>
      ∀ id, FileId.parse text = .ok id →
        (∀ index, permitted.exchange (.tracker index) (Action.onFirst (Query.fetch id).ask)) ∧
          ∀ index, permitted.exchange (.storage index) (Download.toFile ⟨id, offset, count⟩ path)
  | .storagePool _ => True
  | .destroy => permitted.destruction
  | .drop _ => True

theorem after_thenUnstage {α : Type} (action : Action World α) (world : World) :
    Action.after (thenUnstage action world) =
      { Action.after (action world) with
        unstaged := (Action.after (action world)).unstaged + 1 } := by
  unfold thenUnstage
  cases action world <;> rfl

theorem stage_eq_ok {path : Bytes} {world after : World} {file : StagedFile}
    (staged : stage path world = .ok file after) :
    world.client.accessor.stage world.files path = .ok file ∧
      after = { world with asked := world.asked + 1, staged := world.staged + 1 } := by
  unfold stage at staged
  dsimp only at staged
  split at staged
  · rename_i found
    cases staged
    exact ⟨found, rfl⟩
  · cases staged

theorem stage_eq_error {path : Bytes} {world after : World} {fault : Fault}
    (failed : stage path world = .error fault after) :
    world.client.accessor.stage world.files path = .error fault ∧
      after = { world with asked := world.asked + 1 } := by
  unfold stage at failed
  dsimp only at failed
  split at failed
  · cases failed
  · rename_i found
    cases failed
    exact ⟨found, rfl⟩

theorem upload_steps {world : World} {path : Bytes}
    (permits : Permits permitted world (.upload path)) :
    Steps permitted (trials (.upload path) world) world (Action.after (upload path world)) := by
  rw [upload, Action.after_bind, trials]
  cases ran : stage path world with
  | error fault after =>
      obtain ⟨-, rfl⟩ := stage_eq_error ran
      exact .single (.counted world _ _ _)
  | ok file after =>
      obtain ⟨found, rfl⟩ := stage_eq_ok ran
      dsimp only
      rw [after_thenUnstage]
      have counted : Steps permitted [] world
          { world with asked := world.asked + 1, staged := world.staged + 1 } :=
        .single (.counted world _ _ _)
      have operated := operation_steps permits.1
        (fun index node => permits.2 file found index node)
        { world with asked := world.asked + 1, staged := world.staged + 1 }
      rw [← List.append_nil (operationTrials _ _ _)]
      exact counted.trans (operated.trans (.single (.counted _ _ _ _)))

theorem download_steps {world : World} {text path : Bytes} {offset count : UInt64}
    (permits : Permits permitted world (.download text path offset count)) :
    Steps permitted (trials (.download text path offset count) world) world
      (Action.after (download text path offset count world)) := by
  rw [download, Action.after_bind, trials]
  cases parsed : FileId.parse text with
  | error fault =>
      simp only [Action.ofExcept]
      exact .none world
  | ok id =>
      obtain ⟨asking, storing⟩ := permits id parsed
      have operated := operation_steps asking (fun index _ => storing index) world
      rw [Action.after_bind] at operated
      simp only [Action.ofExcept]
      rw [Action.after_bind]
      cases answered : World.query (.fetch id) world with
      | error fault after =>
          rw [answered] at operated
          exact operated
      | ok node after =>
          rw [answered] at operated
          dsimp only
          rw [Action.after_bind_pure]
          exact operated

/-- Every call consists of steps, in which its exchanges are made. -/
theorem call_steps {world : World} {call : Call} (permits : Permits permitted world call) :
    Steps permitted (trials call world) world (world.happen (.call call)) := by
  cases call with
  | upload path =>
      rw [happen, World.call, Action.after_bind_pure]
      exact upload_steps permits
  | download id path offset count =>
      rw [happen, World.call, Action.after_bind_pure]
      exact download_steps permits
  | storagePool address =>
      rw [happen, World.call, Action.after_bind]
      cases pooled : storagePool address world with
      | ok ref after => exact (storagePool_steps permitted pooled).2
      | error fault after =>
          rw [(storagePool_eq_error pooled).1]
          exact .none world
  | destroy => exact .single (.destroyed world permits)
  | drop id =>
      simp only [happen, World.call, World.drop]
      split
      · exact .single (.dropped world id)
      · exact .none world

/-- What holds of a world and is kept by every step holds after any history. -/
theorem run_preserve {holds : World → Prop} {world : World} {history : List Event}
    (permits : Along (Permits permitted) world history) (start : holds world)
    (kept : ∀ {trials world after}, Step permitted trials world after → holds world →
      holds after) : holds (run world history) := by
  induction history generalizing world with
  | nil => exact start
  | cons event rest ih =>
      obtain ⟨first, later⟩ := permits
      refine ih later ?_
      cases event with
      | call call => exact (call_steps (first call rfl)).preserve start kept
      | surroundings files accessor => exact kept (.surrounded world files accessor) start

end

end TrackedStorage.World
