import TrackedStorage.Proofs.ClientSettled
import TrackedStorage.Proofs.ExchangeFaults
import TrackedStorage.Proofs.WrittenNames

set_option autoImplicit false

namespace TrackedStorage

def Fault.isShortage : Fault → Bool
  | .exhausted _ | .noTrackerAvailable _ => true
  | _ => false

theorem Fault.not_isShortage {fault : Fault} (ofExchange : fault.isOfExchange = true) :
    fault.isShortage = false := by
  cases fault <;> first | rfl | cases ofExchange

/-- Dials for some addresses, one right after the other, that all fail. -/
inductive Switchboard.DialsFailed : List Bytes → Switchboard → Switchboard → Prop
  | none (board : Switchboard) : DialsFailed [] board board
  | next {address : Bytes} {rest : List Bytes} {board middle after : Switchboard}
      {outcome : Except Fault (Option LinkId)} (dialed : board.dial address = (outcome, middle))
      (unmade : ∀ id, outcome ≠ .ok (some id)) (later : DialsFailed rest middle after) :
      DialsFailed (address :: rest) board after

theorem Client.has_setPool (client : Client) (ref other : PoolRef) (pool : Pool) :
    (client.setPool ref pool).Has other ↔ client.Has other := by
  cases ref <;> cases other <;> simp [Has, setPool]

theorem Client.exists_ref (client : Client) {pool : Pool}
    (isIn : pool ∈ client.trackers ++ client.storages) : ∃ ref, client.pool ref = pool := by
  rcases List.mem_append.mp isIn with isTracker | isStorage
  · obtain ⟨index, bound, same⟩ := List.mem_iff_getElem.mp isTracker
    exact ⟨.tracker index, (List.getD_eq_getElem _ _ bound).trans same⟩
  · obtain ⟨index, bound, same⟩ := List.mem_iff_getElem.mp isStorage
    exact ⟨.storage index, (List.getD_eq_getElem _ _ bound).trans same⟩

namespace World

/-- No pool is destroyed, and none is in use. -/
structure Ready (world : World) : Prop where
  tidy : Tidy world
  running : ∀ ref, world.client.Has ref → (world.client.pool ref).isDestroyed = false

theorem running_setDesk {world : World} {ref : Client.PoolRef} {pool : Pool}
    {board : Switchboard}
    (running : ∀ ref, world.client.Has ref → (world.client.pool ref).isDestroyed = false)
    (has : world.client.Has ref) (stays : pool.isDestroyed = false) (other : Client.PoolRef)
    (stillHas : (world.setDesk ref (pool, board)).client.Has other) :
    ((world.setDesk ref (pool, board)).client.pool other).isDestroyed = false :=
  forall_pool_setDesk (fun other pool => world.client.Has other → pool.isDestroyed = false) has
    (fun _ => stays) (fun other _ => running other) other
    ((Client.has_setPool world.client ref other pool).mp stillHas)

theorem Loan.running_settle {ref : Client.PoolRef} {id : LinkId} {world lent : World}
    (loan : Loan ref id world lent)
    (running : ∀ ref, world.client.Has ref → (world.client.pool ref).isDestroyed = false)
    (link : Link) (files : FileTree) (other : Client.PoolRef)
    (has : (settle ref id link files lent).client.Has other) :
    ((settle ref id link files lent).client.pool other).isDestroyed = false := by
  rw [loan.settle_eq] at has ⊢
  have elsewhere : ∀ ref, ({ world with files := files } : World).client.Has ref →
      (({ world with files := files } : World).client.pool ref).isDestroyed = false := running
  refine running_setDesk elsewhere (Client.has_of_running loan.running) ?_ other has
  exact loan.running

/-- Only the destruction of a client destroys a pool. -/
theorem ready_step {permitted : Permission} (spared : ¬ permitted.destruction)
    {trials : List Trial} {world after : World} (step : Step permitted trials world after)
    (ready : Ready world) : Ready after := by
  refine ⟨tidy_step step ready.tidy, ?_⟩
  obtain ⟨tidy, running⟩ := ready
  cases step with
  | counted => exact running
  | surrounded => exact running
  | opened _ address pool absent created =>
      intro ref has
      rw [Client.pool_addStorage]
      split
      · rw [(Pool.create_eq created).1]
      · rename_i differs
        apply running
        cases ref with
        | tracker index => exact has
        | storage index =>
            have bound : index < (world.client.storages ++ [pool]).length := has
            have other : index ≠ world.client.storages.length := fun same => differs (by rw [same])
            rw [List.length_append, List.length_singleton] at bound
            change index < world.client.storages.length
            omega
  | refused ref fault taken =>
      have refusal := tidy.refusal taken
      cases refusal with
      | destroyed => exact running
      | failed outcome address reason board stays shut dialed unmade =>
          exact running_setDesk running (Client.has_of_running stays) stays
  | served ref id exchange value taken allowed done =>
      obtain ⟨link, files, -, same⟩ := (tidy.loan taken).served_eq done
      rw [same]
      exact (tidy.loan taken).running_settle running link files
  | failed ref id exchange fault taken allowed done =>
      obtain ⟨link, files, -, same⟩ := (tidy.loan taken).failed_eq done
      rw [same]
      exact (tidy.loan taken).running_settle running link.close files
  | destroyed _ allowed => exact absurd allowed spared
  | dropped => exact running

theorem Refusal.pool_address {world after : World} {ref : Client.PoolRef} {fault : Fault}
    (refusal : Refusal ref world fault after) (other : Client.PoolRef) :
    (after.client.pool other).address = (world.client.pool other).address := by
  cases refusal with
  | destroyed => rfl
  | failed outcome address reason board running shut dialed unmade =>
      refine forall_pool_setDesk
        (fun other pool => pool.address = (world.client.pool other).address)
        (Client.has_of_running running) ?_ (fun _ _ => rfl) other
      rfl

theorem Refusal.has {world after : World} {ref : Client.PoolRef} {fault : Fault}
    (refusal : Refusal ref world fault after) (other : Client.PoolRef)
    (has : world.client.Has other) : after.client.Has other := by
  cases refusal with
  | destroyed => exact has
  | failed => exact (Client.has_setPool _ _ _ _).mpr has

/-- Every exchange is permitted, but perhaps no destruction. -/
def anyExchange (destruction : Prop) : Permission := ⟨destruction, fun _ _ _ => True⟩

theorem permits_anyExchange {destruction : Prop} {call : Call}
    (called : call = .destroy → destruction) (world : World) :
    Permits (anyExchange destruction) world call := by
  cases call with
  | upload path => exact ⟨fun _ => trivial, fun _ _ _ _ => trivial⟩
  | download text path offset count => exact fun _ _ => ⟨fun _ => trivial, fun _ => trivial⟩
  | storagePool address => trivial
  | destroy => exact called rfl
  | drop id => trivial

theorem along_anyExchange {destruction : Prop} {history : List Event}
    (called : .call .destroy ∈ history → destruction) (world : World) :
    Along (Permits (anyExchange destruction)) world history := by
  induction history generalizing world with
  | nil => trivial
  | cons event rest ih =>
      refine ⟨?_, ih (fun later => called (List.mem_cons_of_mem event later)) _⟩
      rintro call rfl
      apply permits_anyExchange
      rintro rfl
      exact called List.mem_cons_self

theorem leaseTracker_shortage {reason : Bytes} {indices : List Nat} {world after : World}
    {fault : Fault} (ready : Ready world)
    (there : ∀ index ∈ indices, world.client.Has (.tracker index))
    (failed : leaseTracker reason indices world = .error fault after) :
    (∃ text, fault = .noTrackerAvailable text) ∧
      Switchboard.DialsFailed
        (indices.map fun index => (world.client.pool (.tracker index)).address)
        world.board after.board := by
  -- A tracker that refuses leaves all pools ready and keeps their addresses.
  induction indices generalizing reason world with
  | nil =>
      cases failed
      exact ⟨⟨_, rfl⟩, .none _⟩
  | cons index rest ih =>
      cases taken : onDesk (.tracker index) Lease.take world with
      | ok lease lent =>
          rw [leaseTracker_cons_of_ok taken] at failed
          cases failed
      | error cause middle =>
          have step : Step (anyExchange False) [] world middle :=
            .refused (.tracker index) cause taken
          have next : Ready middle := ready_step id step ready
          have refusal := ready.tidy.refusal taken
          have addresses := refusal.pool_address
          have stays (other : Nat) (isIn : other ∈ rest) : middle.client.Has (.tracker other) :=
            refusal.has _ (there other (List.mem_cons_of_mem index isIn))
          have running := ready.running _ (there index List.mem_cons_self)
          rw [leaseTracker_cons_of_error taken] at failed
          cases refusal with
          | destroyed gone => cases running.symm.trans gone
          | failed outcome address text board _ shut dialed unmade =>
              obtain ⟨named, later⟩ := ih next stays failed
              simp only [addresses] at later
              exact ⟨named, .next dialed unmade later⟩

theorem leaseAnyTracker_shortage {world after : World} {fault : Fault} (ready : Ready world)
    (failed : leaseAnyTracker world = .error fault after) :
    (∃ text, fault = .noTrackerAvailable text) ∧
      Switchboard.DialsFailed (world.client.trackers.map (·.address)) world.board after.board := by
  have there (index : Nat) (isIn : index ∈ List.range world.client.trackers.length) :
      world.client.Has (.tracker index) := List.mem_range.mp isIn
  have addresses : ((List.range world.client.trackers.length).map fun index =>
      (world.client.pool (.tracker index)).address) = world.client.trackers.map (·.address) := by
    apply List.ext_getElem
    · simp
    · intro index _ bound
      have isThere : index < world.client.trackers.length := by simpa using bound
      simp [Client.pool, isThere]
  have shortage := leaseTracker_shortage ready there failed
  rwa [addresses] at shortage

/-- Whatever goes wrong with a leased link, the exchange is to blame. -/
theorem failsBy_onLease {α : Type} {kind : Fault → Bool} {exchange : Action (Link × FileTree) α}
    (inner : Action.FailsBy kind exchange) (ref : Client.PoolRef) (id : LinkId) :
    Action.FailsBy kind (onLease ref ⟨some id⟩ exchange) := by
  intro world fault after failed
  unfold onLease at failed
  dsimp only at failed
  split at failed
  · cases failed
  · rename_i done
    cases failed
    exact Action.failsBy_on inner world _ _ done

theorem query_shortage {query : Query} {world after : World} {fault : Fault}
    (failed : World.query query world = .error fault after) (short : fault.isShortage = true) :
    leaseAnyTracker world = .error fault after := by
  rcases Action.bind_eq_error failed with refused | ⟨⟨ref, lease⟩, lent, leased, asked⟩
  · exact refused
  · obtain ⟨index, middle, -, -, taken⟩ :=
      leaseTracker_ok_steps (anyExchange False) leased
    obtain ⟨id, rfl⟩ := held_of_take taken
    have ofExchange :=
      failsBy_onLease (Action.failsBy_on query.failsBy_ask) ref id _ _ _ asked
    cases (Fault.not_isShortage ofExchange).symm.trans short

theorem has_of_storagePool {address : Bytes} {world found : World} {ref : Client.PoolRef}
    (done : storagePool address world = .ok ref found) : found.client.Has ref := by
  rcases storagePool_eq_ok done with ⟨index, known, rfl, rfl⟩ | ⟨pool, -, -, rfl, rfl⟩
  · exact (List.findIdx?_eq_some_iff_getElem.mp known).1
  · change world.client.storages.length < (world.client.storages ++ [pool]).length
    simp

theorem not_isShortage_of_create {address : Bytes} {capacity : UInt64} {dialer : Option Dialer}
    {fault : Fault} (failed : Pool.create address capacity dialer = .error fault) :
    fault.isShortage = false := by
  unfold Pool.create at failed
  split at failed
  · cases failed
    rfl
  · split at failed
    · cases failed
      rfl
    · split at failed
      · rename_i reason malformed
        cases failed
        obtain ⟨cause, rfl⟩ := Endpoint.setting_of_error malformed
        rfl
      · cases failed

theorem not_isShortage_of_storagePool {address : Bytes} {world after : World} {fault : Fault}
    (failed : storagePool address world = .error fault after) : fault.isShortage = false :=
  not_isShortage_of_create (storagePool_eq_error failed).2

theorem not_isShortage_of_onStorage {α : Type} {node : StorageNode}
    {exchange : Action (Link × FileTree) α} {world after : World} {fault : Fault}
    (ready : Ready world) (inner : Action.FailsBy Fault.isOfExchange exchange)
    (failed : onStorage node exchange world = .error fault after) : fault.isShortage = false := by
  rcases Action.bind_eq_error failed with refused | ⟨ref, found, pooled, failed⟩
  · exact not_isShortage_of_storagePool refused
  · rcases Action.bind_eq_error failed with refused | ⟨lease, lent, taken, failed⟩
    · have opened := (storagePool_steps (anyExchange False) pooled).2
      have still : Ready found := opened.preserve ready (ready_step id)
      have running := still.running ref (has_of_storagePool pooled)
      have refusal := still.tidy.refusal refused
      cases refusal with
      | destroyed gone => cases running.symm.trans gone
      | failed => rfl
    · obtain ⟨id, rfl⟩ := held_of_take taken
      exact Fault.not_isShortage (failsBy_onLease inner ref id _ _ _ failed)

/-- An operation runs short of links only before it has asked a tracker. -/
theorem operation_shortage {α : Type} {query : Query}
    {exchange : StorageNode → Action (Link × FileTree) α} {world after : World} {fault : Fault}
    (ready : Ready world) (inner : ∀ node, Action.FailsBy Fault.isOfExchange (exchange node))
    (failed : (do
      let node ← World.query query
      onStorage node (exchange node)) world = .error fault after)
    (short : fault.isShortage = true) : leaseAnyTracker world = .error fault after := by
  rcases Action.bind_eq_error failed with refused | ⟨node, asked, answered, failed⟩
  · exact query_shortage refused short
  · have steps : Steps (anyExchange False) (queryTrials query world) world
        (Action.after (World.query query world)) := query_steps (fun _ => trivial) world
    rw [answered] at steps
    have still : Ready asked := steps.preserve ready (ready_step id)
    cases (not_isShortage_of_onStorage still (inner node) failed).symm.trans short

theorem not_isShortage_of_stage {path : Bytes} {world after : World} {fault : Fault}
    (failed : stage path world = .error fault after) : fault.isShortage = false := by
  have refused := (stage_eq_error failed).1
  unfold Accessor.stage at refused
  split at refused
  · unfold FileTree.stage at refused
    split at refused
    · cases refused
      rfl
    · cases refused
    · cases refused
      rfl
  · split at refused
    · cases refused
    · cases refused
      rfl

theorem thenUnstage_eq_error {α : Type} {action : Action World α} {world after : World}
    {fault : Fault} (failed : thenUnstage action world = .error fault after) :
    ∃ inner, action world = .error fault inner ∧ after.board = inner.board := by
  unfold thenUnstage at failed
  split at failed
  · cases failed
  · rename_i inner ran
    cases failed
    exact ⟨inner, ran, rfl⟩

theorem upload_shortage {path : Bytes} {world after : World} {fault : Fault}
    (ready : Ready world) (failed : upload path world = .error fault after)
    (short : fault.isShortage = true) :
    (∃ text, fault = .noTrackerAvailable text) ∧
      Switchboard.DialsFailed (world.client.trackers.map (·.address)) world.board after.board := by
  rcases Action.bind_eq_error failed with refused | ⟨file, staged, opened, failed⟩
  · cases (not_isShortage_of_stage refused).symm.trans short
  · obtain ⟨inner, ran, sameBoard⟩ := thenUnstage_eq_error failed
    obtain ⟨-, rfl⟩ := stage_eq_ok opened
    have step : Step (anyExchange False) [] world
        { world with asked := world.asked + 1, staged := world.staged + 1 } := .counted world _ _ _
    have counted := ready_step id step ready
    have unleased := operation_shortage counted
      (fun node => Action.failsBy_on (failsBy_sendFile node file)) ran short
    have shortage := leaseAnyTracker_shortage counted unleased
    rw [sameBoard]
    exact shortage

theorem download_shortage {text path : Bytes} {offset count : UInt64} {world after : World}
    {fault : Fault} (ready : Ready world)
    (failed : download text path offset count world = .error fault after)
    (short : fault.isShortage = true) :
    (∃ text, fault = .noTrackerAvailable text) ∧
      Switchboard.DialsFailed (world.client.trackers.map (·.address)) world.board after.board := by
  rcases Action.bind_eq_error failed with refused | ⟨id, read, parsed, later⟩
  · cases parsing : FileId.parse text with
    | ok id =>
        rw [parsing] at refused
        cases refused
    | error reason =>
        rw [parsing] at refused
        cases refused
        obtain ⟨cause, rfl⟩ := FileId.setting_of_error parsing
        cases short
  · have same : read = world := by
      cases parsing : FileId.parse text <;> rw [parsing] at parsed <;> cases parsed
      rfl
    subst same
    rcases Action.bind_eq_error later with refused | ⟨node, asked, answered, stored⟩
    · exact leaseAnyTracker_shortage ready (query_shortage refused short)
    · rcases Action.bind_eq_error stored with refused | ⟨_, _, _, ended⟩
      · have ran := (Action.bind_of_ok answered
          fun node => onStorage node (Download.toFile ⟨id, offset, count⟩ path)).trans refused
        exact leaseAnyTracker_shortage ready
          (operation_shortage ready (fun _ => Download.failsBy_toFile _ path) ran short)
      · cases ended

theorem call_shortage {call : Call} {world after : World} {fault : Fault} (ready : Ready world)
    (failed : World.call call world = .error fault after) (short : fault.isShortage = true) :
    (∃ text, fault = .noTrackerAvailable text) ∧
      Switchboard.DialsFailed (world.client.trackers.map (·.address)) world.board after.board := by
  cases call with
  | upload path =>
      rcases Action.bind_eq_error failed with refused | ⟨_, _, _, ended⟩
      · exact upload_shortage ready refused short
      · cases ended
  | download id path offset count =>
      rcases Action.bind_eq_error failed with refused | ⟨_, _, _, ended⟩
      · exact download_shortage ready refused short
      · cases ended
  | storagePool address =>
      rcases Action.bind_eq_error failed with refused | ⟨_, _, _, ended⟩
      · cases (not_isShortage_of_storagePool refused).symm.trans short
      · cases ended
  | destroy => cases failed
  | drop id => cases failed

theorem tidy_run {settings : Settings} {dialer : Dialer} {accessor : Option Accessor}
    {files : FileTree} {start : World}
    (created : create settings dialer accessor files = .ok start) (history : List Event) :
    Tidy (run start history) :=
  run_preserve (along_anyExchange (fun _ => trivial) start) (tidy_create created) tidy_step

theorem ready_run {settings : Settings} {dialer : Dialer} {accessor : Option Accessor}
    {files : FileTree} {start : World}
    (created : create settings dialer accessor files = .ok start) {history : List Event}
    (spared : .call .destroy ∉ history) : Ready (run start history) := by
  refine run_preserve (along_anyExchange spared start) ⟨tidy_create created, ?_⟩ (ready_step id)
  intro ref has
  rcases (create_eq created).2 ref with ⟨absent, -⟩ | ⟨address, new⟩
  · exact absurd has absent
  · rw [(Pool.create_eq new).1]

/-- After every call, whether it succeeds or not, each pool counts its idle links, of which there is
one at most. Until the client is destroyed no call finds a pool exhausted, and one that finds no
tracker has dialed all of them in vain. -/
theorem pools_settled_after_calls {settings : Settings} {dialer : Dialer}
    {accessor : Option Accessor} {files : FileTree} {start : World}
    (created : create settings dialer accessor files = .ok start) (history : List Event) :
    let world := run start history
    (∀ pool ∈ world.client.trackers ++ world.client.storages,
      pool.live.toNat = pool.idle.length ∧ pool.idle.length ≤ 1) ∧
    (.call .destroy ∉ history → ∀ call,
      (∀ address, Action.result (World.call call world) ≠ .error (.exhausted address)) ∧
      ∀ reason, Action.result (World.call call world) = .error (.noTrackerAvailable reason) →
        Switchboard.DialsFailed (world.client.trackers.map (·.address)) world.board
          (Action.after (World.call call world)).board) := by
  intro world
  have tidy : Tidy world := tidy_run created history
  refine ⟨?_, ?_⟩
  · intro pool isIn
    obtain ⟨ref, rfl⟩ := world.client.exists_ref isIn
    exact tidy.settled ref
  · intro spared call
    have ready : Ready world := ready_run created spared
    cases ran : World.call call world with
    | ok reply after =>
        refine ⟨?_, ?_⟩
        · intro address same
          cases same
        · intro reason same
          cases same
    | error fault after =>
        refine ⟨?_, ?_⟩
        · intro address same
          cases same
          obtain ⟨⟨text, other⟩, -⟩ := call_shortage ready ran rfl
          cases other
        · intro reason same
          cases same
          exact (call_shortage ready ran rfl).2

theorem pools_settled_after_refused_upload :
    let settings : Settings := ⟨[Bytes.ofText "t:1"], 1, 5, 30, [], []⟩
    let dialer : Dialer := .script ⟨[], [.link [] none true, .refused none [33]]⟩
    let accessor : Accessor := .catalogue [([120], ⟨1, [], .ofContent [7]⟩)]
    let start : World := ⟨⟨[⟨Bytes.ofText "t:1", 1, [], 0, false⟩], [], 1, accessor⟩,
      .ofDialer dialer, .blank, 0, 0, 0⟩
    let world := run start [.call (.upload [120])]
    create settings dialer (some accessor) .blank = .ok start ∧
      (∀ pool ∈ world.client.trackers, pool.live.toNat = pool.idle.length) ∧
      Switchboard.DialsFailed [Bytes.ofText "t:1"] world.board
        (Action.after (World.call (.upload [120]) world)).board := by
  intro settings dialer accessor start world
  have created : create settings dialer (some accessor) .blank = .ok start := by decide
  obtain ⟨settled, operating⟩ := pools_settled_after_calls created [.call (.upload [120])]
  have spared : Event.call .destroy ∉ [Event.call (.upload [120])] := by simp
  have unavailable : Action.result (World.call (.upload [120]) world) =
      .error (.noTrackerAvailable (Bytes.ofText "Dial to t:1 failed: !")) := by decide
  have addresses : world.client.trackers.map (·.address) = [Bytes.ofText "t:1"] := by decide
  rw [← addresses]
  refine ⟨created, ?_, (operating spared (.upload [120])).2 _ unavailable⟩
  intro pool isIn
  exact (settled pool (List.mem_append_left _ isIn)).1

end World

end TrackedStorage
