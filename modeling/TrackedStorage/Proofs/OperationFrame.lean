import TrackedStorage.Proofs.DownloadedFile
import TrackedStorage.Proofs.StoragePools
import TrackedStorage.Proofs.TrackerFailover

set_option autoImplicit false

namespace TrackedStorage

namespace Pool

/-- How many of some pools are asked for a link, in order, until one of them lends it. -/
def tries : List Pool → Switchboard → Nat
  | [], _ => 0
  | pool :: rest, board =>
      match acquire (pool, board) with
      | .ok _ _ => 1
      | .error _ (_, after) => tries rest after + 1

section
variable {pools front gone : List Pool} {board middle : Switchboard} {faults : List Fault}

theorem Refusals.tries_append (refusals : Refusals front board faults gone middle)
    (back : List Pool) : tries (front ++ back) board = front.length + tries back middle := by
  induction refusals with
  | none => simp
  | next refused later ih =>
      rw [List.cons_append, tries, refused]
      dsimp only
      rw [ih, List.length_cons]
      omega

theorem Refusals.tries_eq (refusals : Refusals pools board faults gone middle) :
    tries pools board = pools.length := by
  have whole := refusals.tries_append []
  rwa [List.append_nil, tries, Nat.add_zero] at whole

theorem FirstLender.tries_eq (first : FirstLender pools board) :
    tries pools board = first.front.length + 1 := by
  calc tries pools board = tries (first.front ++ first.pool :: first.back) board :=
        congrArg (tries · board) first.listed
    _ = first.front.length + 1 := by rw [first.refusals.tries_append, tries, first.acquired]

end

end Pool

namespace World

section
variable {world : World} {board : Switchboard} {front back gone : List Pool} {faults : List Fault}

/-- Of trackers that refuse one after the other, none behind them is touched. -/
theorem spares_refusals {start : Switchboard} {pools : List Pool}
    (refusals : Pool.Refusals pools start faults gone board) (begins : world.board = start)
    (listed : world.client.trackers = front ++ (pools ++ back)) :
    Spares (fun ref => ∃ index < front.length + pools.length, ref = .tracker index) world
      (world.withTrackers (front ++ (gone ++ back)) board) := by
  induction refusals generalizing world front with
  | none start =>
      refine spares_of_same ?_ begins.symm
      rw [withTrackers, ← listed]
  | @next pool left rest gone start middle after fault faults refused later ih =>
      rw [List.cons_append] at listed
      rw [← begins] at refused
      have first := spares_take_error (take_tracker_of_error listed refused)
      have others := @ih (world.withTrackers (front ++ left :: (rest ++ back)) middle)
        (front ++ [left]) rfl (List.append_cons front left (rest ++ back))
      have lists : front ++ [left] ++ (gone ++ back) = front ++ (left :: gone ++ back) := by simp
      rw [lists] at others
      refine (first.mono ?_).trans (others.mono ?_)
      · rintro ref rfl
        exact ⟨front.length, by simp, rfl⟩
      · rintro ref ⟨index, bound, rfl⟩
        exact ⟨index, by simp at bound ⊢; omega, rfl⟩

/-- A query touches the trackers that are asked for a link. -/
theorem spares_query (query : Query) (world : World) :
    Spares (fun ref => ∃ index < Pool.tries world.client.trackers world.board,
      ref = .tracker index) world (Action.after (World.query query world)) := by
  rcases Pool.refusals_or_lender world.client.trackers world.board with
    ⟨faults, gone, board, refusals⟩ | ⟨⟨first⟩⟩
  · have whole : world.client.trackers = [] ++ (world.client.trackers ++ []) := by simp
    have passed := leaseTracker_of_refusals refusals rfl whole
      (Bytes.ofText "no tracker pool could be used") 0
    have leased : leaseAnyTracker world = _ :=
      (congrArg (leaseTracker _ · world) List.range_eq_range').trans passed
    have spares := spares_refusals refusals rfl whole
    rw [refusals.tries_eq, World.query, Action.bind_of_error leased]
    exact spares.mono fun ref => by simp
  · have listed : world.client.trackers = [] ++ (first.front ++ first.pool :: first.back) :=
      first.listed
    have front := spares_refusals first.refusals rfl listed
    have taken : onDesk (.tracker first.gone.length) Lease.take
        (world.withTrackers (first.gone ++ first.pool :: first.back) first.middle) =
          .ok ⟨some first.link⟩
            (world.withTrackers (first.gone ++ first.lent :: first.back) first.after) :=
      take_tracker_of_ok rfl first.acquired
    rw [first.refusals.length_eq.2] at taken
    have lender := spares_loan taken (Action.onFirst query.ask)
    rw [query_of_lender first rfl rfl, first.tries_eq]
    refine (front.mono ?_).trans (lender.mono ?_)
    · rintro ref ⟨index, bound, rfl⟩
      exact ⟨index, by simp at bound; omega, rfl⟩
    · rintro ref rfl
      exact ⟨_, Nat.lt_succ_self _, rfl⟩

end

section
variable {world found : World} {address : Bytes} {ref : Client.PoolRef}

theorem idxOf_addresses (world : World) (address : Bytes) :
    world.addresses.idxOf address = world.client.storages.findIdx (·.address == address) := by
  rw [List.idxOf, addresses, List.findIdx_map]
  rfl

/-- The pool for an address is where the address is, or at the end if there is none. -/
theorem place_of_storagePool (pooled : storagePool address world = .ok ref found) :
    ref = .storage (world.addresses.idxOf address) := by
  rw [idxOf_addresses]
  rcases storagePool_eq_ok pooled with ⟨index, known, rfl, rfl⟩ | ⟨pool, absent, created, rfl, rfl⟩
  · obtain ⟨-, place⟩ := List.findIdx?_eq_some_iff_findIdx_eq.mp known
    rw [place]
  · rw [List.findIdx?_eq_none_iff_findIdx_eq.mp absent]

/-- An exchange with a storage node touches the pool for its address. -/
theorem spares_onStorage {α : Type} (node : StorageNode) (exchange : Action (Link × FileTree) α)
    (world : World) :
    Spares (· = .storage (world.addresses.idxOf node.address)) world
      (Action.after (onStorage node exchange world)) :=
  spares_onStorage_of_pool node exchange fun _ _ => place_of_storagePool

end

theorem storages_query (query : Query) (world : World) :
    (Action.after (World.query query world)).client.storages = world.client.storages := by
  have spares := spares_query query world
  have addresses := addresses_query query world
  generalize Action.after (World.query query world) = after at spares addresses ⊢
  have lengths : after.client.storages.length = world.client.storages.length := by
    have same := congrArg List.length addresses
    rwa [World.addresses, World.addresses, List.length_map, List.length_map] at same
  apply List.ext_getElem lengths
  intro index here there
  have same := spares.pools (.storage index) (by simp)
  rwa [Client.pool, Client.pool, List.getD_eq_getElem _ _ here,
    List.getD_eq_getElem _ _ there] at same

/-- The pools that an operation may change: the trackers that are asked for a link, up to the one
that lends it, and the pool for the address of the node that this tracker names. The place of a pool
that is not there yet is behind all others. -/
def Touches (call : Call) (world : World) : Client.PoolRef → Prop
  | .tracker index =>
      (asks call world).isSome ∧ index < Pool.tries world.client.trackers world.board
  | .storage index => ∃ node ∈ named call world, world.addresses.idxOf node.address = index

instance (call : Call) (world : World) (ref : Client.PoolRef) :
    Decidable (Touches call world ref) :=
  match ref with
  | .tracker _ => inferInstanceAs (Decidable (_ ∧ _))
  | .storage _ => inferInstanceAs (Decidable (∃ node ∈ named call world, _))

section
variable {world begun : World} {call : Call} {query : Query}

theorem spares_of_asks (asking : asks call world = some (query, begun)) :
    Spares (Touches call world) world (world.happen (.call call)) := by
  obtain ⟨client, links, α, exchange, -, ends⟩ := exists_operation asking
  have start : Spares (Touches call world) world begun := spares_of_same client links
  have finish : Spares (Touches call world) (Action.after (operation query exchange begun))
      (world.happen (.call call)) := spares_of_same ends.client ends.board
  have asked : Spares (Touches call world) begun (Action.after (World.query query begun)) := by
    refine (spares_query query begun).mono ?_
    rintro ref ⟨index, bound, rfl⟩
    rw [client, links] at bound
    exact ⟨by rw [asking]; rfl, bound⟩
  refine (start.trans ?_).trans finish
  cases ran : World.query query begun with
  | error fault last =>
      rw [ran] at asked
      rw [operation, Action.bind_of_error ran]
      exact asked
  | ok node last =>
      have addresses := addresses_query query begun
      rw [ran] at asked addresses
      change last.addresses = _ at addresses
      rw [operation, Action.bind_of_ok ran]
      refine asked.trans ((spares_onStorage node (exchange node) last).mono ?_)
      rintro ref rfl
      refine ⟨node, by simp [named, asking, ran], ?_⟩
      rw [addresses, World.addresses, World.addresses, client]

theorem spares_operation (operates : call.IsOperation) :
    Spares (Touches call world) world (world.happen (.call call)) := by
  cases asking : asks call world with
  | some asked => exact spares_of_asks asking
  | none =>
      obtain ⟨client, board⟩ := same_of_unasked asking operates
      exact spares_of_same client board

/-- Where no tracker names a node, the storage pools stay as they are. -/
theorem storages_of_unnamed (operates : call.IsOperation) (unnamed : named call world = []) :
    (world.happen (.call call)).client.storages = world.client.storages := by
  cases asking : asks call world with
  | none => rw [(same_of_unasked asking operates).1]
  | some asked =>
      obtain ⟨query, begun⟩ := asked
      obtain ⟨client, -, α, exchange, -, ends⟩ := exists_operation asking
      have kept := storages_query query begun
      cases ran : World.query query begun with
      | error fault last =>
          rw [ran] at kept
          rw [happen, ends.client, operation, Action.bind_of_error ran]
          exact kept.trans (congrArg Client.storages client)
      | ok node last => simp [named, asking, ran] at unnamed

/-- The pool that a named node touches is the one for its address. -/
theorem address_of_named (capable : world.client.capacity ≠ 0) {node : StorageNode}
    (isNamed : node ∈ named call world) :
    (world.happen (.call call)).addresses[world.addresses.idxOf node.address]? =
      some node.address := by
  unfold named at isNamed
  cases asking : asks call world with
  | none => simp [asking] at isNamed
  | some asked =>
      obtain ⟨query, begun⟩ := asked
      obtain ⟨client, -, α, exchange, -, ends⟩ := exists_operation asking
      cases ran : World.query query begun with
      | error fault last => simp [asking, ran] at isNamed
      | ok other last =>
          obtain rfl : node = other := by simpa [asking, ran] using isNamed
          obtain ⟨ref, found, pooled⟩ := storagePool_of_asks capable asking ran
          obtain rfl := place_of_storagePool pooled
          have kept := addresses_query query begun
          rw [ran] at kept
          change last.addresses = _ at kept
          have start : begun.addresses = world.addresses := by rw [addresses, client, addresses]
          have finish : (world.happen (.call call)).addresses = found.addresses := by
            rw [addresses, happen, ends.client, operation, Action.bind_of_ok ran]
            exact addresses_onStorage pooled (exchange node)
          have has := has_of_storagePool pooled
          have address := address_of_storagePool pooled
          rw [kept, start] at has address
          rw [Client.pool, List.getD_eq_getElem _ _ has] at address
          rw [finish, addresses, List.getElem?_map, List.getElem?_eq_getElem has, Option.map_some,
            address]

end

/-- What one upload or download changes, however it ends. Of the pools these are the trackers that
are asked for a link, up to the one that lends it, and the one for the address of the node that this
tracker names: every other pool keeps its idle links and its count, and its links stay as they are.
So does every link that is idle in none of the pools that are touched. If no node is named the
storage pools are left alone, and if the local file cannot be opened or the identifier is malformed
nothing changes at all. -/
theorem operation_changes_asked_pools_only {settings : Settings} {dialer : Dialer}
    {accessor : Option Accessor} {files : FileTree} {start : World}
    (created : create settings dialer accessor files = .ok start) (history : List Event)
    {call : Call} (operates : call.IsOperation) :
    let world := run start history
    let last := Action.after (World.call call world)
    (∀ ref, ¬ Touches call world ref →
      last.client.pool ref = world.client.pool ref ∧
        ∀ id ∈ (world.client.pool ref).idle, last.board.link id = world.board.link id) ∧
    (∀ id < world.board.links.length,
      (∀ ref, Touches call world ref → id ∉ (world.client.pool ref).idle) →
        last.board.link id = world.board.link id) ∧
    (∀ node ∈ named call world,
      last.addresses[world.addresses.idxOf node.address]? = some node.address) ∧
    (named call world = [] → last.client.storages = world.client.storages) ∧
    (∀ path fault, call = .upload path →
      world.client.accessor.stage world.files path = .error fault →
        World.call call world = .error fault { world with asked := world.asked + 1 }) ∧
    ∀ text path offset count fault, call = .download text path offset count →
      FileId.parse text = .error fault → World.call call world = .error fault world := by
  intro world last
  have tidy := tidy_run created history
  have spares : Spares (Touches call world) world last := spares_operation operates
  have capable : world.client.capacity ≠ 0 := by
    rw [(keepsPools_run start history).capacity]
    exact capacity_of_create created
  refine ⟨?_, spares.links, ?_, storages_of_unnamed operates, ?_, ?_⟩
  · intro ref aside
    refine ⟨spares.pools ref aside, ?_⟩
    intro id isIdle
    refine spares.links id (tidy.numbered ref id isIdle) ?_
    intro other isTouched isIn
    rw [tidy.apart ref other id isIdle isIn] at isTouched
    exact aside isTouched
  · intro node isNamed
    exact address_of_named capable isNamed
  · rintro path fault rfl refused
    exact Action.bind_of_error (upload_of_unstaged refused) _
  · rintro text path offset count fault rfl malformed
    exact Action.bind_of_error (download_of_unparsed malformed) _

theorem operation_changes_asked_pools_only_after_refusal :
    let settings : Settings :=
      ⟨[Bytes.ofText "a:1", Bytes.ofText "b:1", Bytes.ofText "c:1"], 1, 5, 30, [], []⟩
    let named (host : Bytes) := Header.encode ⟨40, Command.answer, 0⟩ ++
      Field.padded (Bytes.ofText "g") 16 ++ Field.padded host 15 ++ BigEndian.encode 7 ++ [0]
    let stored := Header.encode ⟨17, Command.answer, 0⟩ ++ Field.padded (Bytes.ofText "g") 16 ++
      Bytes.ofText "f"
    let dialer : Dialer := .script ⟨[
      (Bytes.ofText "a:1", [.refused none [33], .refused none [33]]),
      (Bytes.ofText "b:1", [.refused none [33], .link (named (Bytes.ofText "t")) none true]),
      (Bytes.ofText "c:1", [.link (named (Bytes.ofText "s")) none true]),
      (Bytes.ofText "s:7", [.link stored none true])], [.link [] none true]⟩
    let accessor : Accessor := .catalogue [([120], ⟨1, [], .ofContent [7]⟩)]
    let start : World := ⟨⟨[⟨Bytes.ofText "a:1", 1, [], 0, false⟩,
      ⟨Bytes.ofText "b:1", 1, [], 0, false⟩, ⟨Bytes.ofText "c:1", 1, [], 0, false⟩], [], 1,
      accessor⟩, .ofDialer dialer, .blank, 0, 0, 0⟩
    let world := run start [.call (.upload [120])]
    let last := Action.after (World.call (.upload [120]) world)
    create settings dialer (some accessor) .blank = .ok start ∧
      last.addresses = [Bytes.ofText "s:7", Bytes.ofText "t:7"] ∧
      (world.client.pool (.tracker 2)).idle = [0] ∧
      last.client.pool (.tracker 2) = world.client.pool (.tracker 2) ∧
      last.board.link 0 = world.board.link 0 ∧
      (world.client.pool (.storage 0)).idle = [1] ∧
      last.client.pool (.storage 0) = world.client.pool (.storage 0) ∧
      last.board.link 1 = world.board.link 1 := by
  intro settings named stored dialer accessor start world last
  have created : create settings dialer (some accessor) .blank = .ok start := by decide +kernel
  obtain ⟨untouched, -⟩ := operation_changes_asked_pools_only created [.call (.upload [120])]
    (.inl ⟨[120], rfl⟩ : (Call.upload [120]).IsOperation)
  have trackerIdle : (world.client.pool (.tracker 2)).idle = [0] := by decide +kernel
  have storageIdle : (world.client.pool (.storage 0)).idle = [1] := by decide +kernel
  obtain ⟨tracker, trackerLinks⟩ := untouched (.tracker 2) (by decide +kernel)
  obtain ⟨storage, storageLinks⟩ := untouched (.storage 0) (by decide +kernel)
  exact ⟨created, by decide +kernel, trackerIdle, tracker,
    trackerLinks 0 (by rw [trackerIdle]; exact List.mem_singleton_self 0), storageIdle, storage,
    storageLinks 1 (by rw [storageIdle]; exact List.mem_singleton_self 1)⟩

end World

end TrackedStorage
