import TrackedStorage.Proofs.Operations
import TrackedStorage.Proofs.PoolIdentity
import TrackedStorage.Proofs.Untouched

set_option autoImplicit false

namespace TrackedStorage

namespace Client

/-- Pools with different addresses stay in ascending order when another one is inserted. -/
theorem sorted_insertByAddress {pool : Pool} {pools : List Pool}
    (sorted : pools.Pairwise fun one other => one.address < other.address)
    (absent : ∀ other ∈ pools, other.address ≠ pool.address) :
    (insertByAddress pool pools).Pairwise fun one other => one.address < other.address := by
  induction pools with
  | nil => exact List.pairwise_singleton _ pool
  | cons first rest ih =>
      obtain ⟨least, ordered⟩ := List.pairwise_cons.mp sorted
      rw [insertByAddress]
      split
      · rename_i less
        refine List.pairwise_cons.mpr ⟨?_, ih ordered fun other isIn => ?_⟩
        · intro other isIn
          rcases mem_insertByAddress isIn with rfl | before
          · exact less
          · exact least other before
        · exact absent other (List.mem_cons_of_mem first isIn)
      · rename_i notLess
        have less : pool.address < first.address :=
          Std.lt_of_le_of_ne (Std.not_lt.mp notLess) (absent first List.mem_cons_self).symm
        refine List.pairwise_cons.mpr ⟨?_, sorted⟩
        intro other isIn
        rcases List.mem_cons.mp isIn with rfl | later
        · exact less
        · exact List.lt_trans less (least other later)

/-- A client starts with trackers in ascending order, and none of them twice. -/
theorem sorted_of_create {settings : Settings} {dialer : Option Dialer}
    {accessor : Option Accessor} {client : Client}
    (created : create settings dialer accessor = .ok client) :
    client.trackers.Pairwise fun one other => one.address < other.address := by
  obtain ⟨-, -, added⟩ := addTrackers_of_create created
  refine addTrackers_induction
    (fun pools => pools.Pairwise fun one other => one.address < other.address) ?_ added .nil
  intro address _ pools after sorted one
  unfold addTracker at one
  split at one
  · cases one
    exact sorted
  · rename_i absent
    split at one
    · cases one
    · rename_i pool new
      cases one
      refine sorted_insertByAddress sorted ?_
      intro other isIn same
      rw [(Pool.create_eq new).1] at same
      exact absent (List.any_eq_true.mpr ⟨other, isIn, beq_iff_eq.mpr same⟩)

end Client

namespace Pool

/-- Pools that are asked for a link, one after the other and each in vain. -/
inductive Refusals : List Pool → Switchboard → List Fault → List Pool → Switchboard → Prop
  | none (board : Switchboard) : Refusals [] board [] [] board
  | next {pool left : Pool} {rest gone : List Pool} {board middle after : Switchboard}
      {fault : Fault} {faults : List Fault}
      (refused : acquire (pool, board) = .error fault (left, middle))
      (later : Refusals rest middle faults gone after) :
      Refusals (pool :: rest) board (fault :: faults) (left :: gone) after

/-- The first of some pools that lends a link when they are asked in order, after those in front of
it refused. The pools behind it are not asked. -/
structure FirstLender (pools : List Pool) (board : Switchboard) where
  front : List Pool
  pool : Pool
  back : List Pool
  faults : List Fault
  /-- What the pools in front have become. -/
  gone : List Pool
  middle : Switchboard
  link : LinkId
  /-- What the pool has become that lends the link. -/
  lent : Pool
  after : Switchboard
  listed : pools = front ++ pool :: back
  refusals : Refusals front board faults gone middle
  acquired : acquire (pool, middle) = .ok link (lent, after)

section
variable {pool : Pool} {pools front back gone : List Pool} {board middle after : Switchboard}
variable {faults : List Fault}

/-- A pool that lends nothing is exhausted or failed to dial, whatever its dialer did. -/
theorem isUnavailable_of_acquire {fault : Fault} {last : Desk}
    (refused : acquire (pool, board) = .error fault last) :
    World.isUnavailable fault = true := by
  have acquired := acquire_acquired pool board
  rw [refused] at acquired
  cases acquired <;> rfl

theorem Refusals.isUnavailable (refusals : Refusals pools board faults gone after) :
    ∀ fault ∈ faults, World.isUnavailable fault = true := by
  induction refusals with
  | none => simp
  | next refused later ih =>
      intro fault isIn
      rcases List.mem_cons.mp isIn with rfl | behind
      · exact isUnavailable_of_acquire refused
      · exact ih fault behind

theorem Refusals.length_eq (refusals : Refusals pools board faults gone after) :
    faults.length = pools.length ∧ gone.length = pools.length := by
  induction refusals with
  | none => exact ⟨rfl, rfl⟩
  | next refused later ih => simp [ih.1, ih.2]

theorem dialed_acquire (pool : Pool) (board : Switchboard) :
    (Action.after (acquire (pool, board))).2.dialed = board.dialed ∨
      (Action.after (acquire (pool, board))).2.dialed = board.dialed ++ [pool.address] := by
  have acquired := acquire_acquired pool board
  generalize acquire (pool, board) = ended at acquired ⊢
  cases acquired with
  | destroyed => exact .inl rfl
  | reused => exact .inl rfl
  | full => exact .inl rfl
  | made id after running shut room dialed =>
      exact .inr (Switchboard.Dialed.of_dial dialed).dialed_eq
  | failed outcome address reason after running shut room dialed =>
      exact .inr (Switchboard.Dialed.of_dial dialed).dialed_eq

/-- Of pools that refuse, each is dialed at most once, in their order. -/
theorem Refusals.dialed (refusals : Refusals pools board faults gone after) :
    ∃ dials, dials.Sublist (pools.map (·.address)) ∧ after.dialed = board.dialed ++ dials := by
  induction refusals with
  | none board => exact ⟨[], .slnil, (List.append_nil _).symm⟩
  | @next pool left rest gone board middle after fault faults refused later ih =>
      obtain ⟨dials, sublist, dialed⟩ := ih
      have once := dialed_acquire pool board
      rw [refused] at once
      change middle.dialed = _ ∨ middle.dialed = _ at once
      rcases once with silent | loud
      · exact ⟨dials, sublist.cons _, by rw [dialed, silent]⟩
      · refine ⟨pool.address :: dials, sublist.cons_cons _, ?_⟩
        rw [dialed, loud, List.append_assoc]
        rfl

/-- Pools that refuse have nothing written over any link. -/
theorem Refusals.written (refusals : Refusals pools board faults gone after) (id : LinkId) :
    (after.link id).written = (board.link id).written := by
  induction refusals with
  | none => rfl
  | @next pool left rest gone board middle after fault faults refused later ih =>
      have first := written_acquire pool board id
      rw [refused] at first
      exact ih.trans first

theorem Refusals.length_le (refusals : Refusals pools board faults gone after) :
    board.links.length ≤ after.links.length := by
  induction refusals with
  | none => exact Nat.le_refl _
  | @next pool left rest gone board middle after fault faults refused later ih =>
      have first := (acquire_spares pool board).1
      rw [refused] at first
      exact Nat.le_trans first ih

/-- Pools of which one lends a link do not all refuse. -/
theorem Refusals.not_all (refusals : Refusals front board faults gone middle) {id : LinkId}
    {last : Desk} (acquired : acquire (pool, middle) = .ok id last) {others : List Fault}
    {left : List Pool} : ¬ Refusals (front ++ pool :: back) board others left after := by
  intro all
  induction refusals generalizing others left with
  | none =>
      cases all with
      | next refused later => cases refused.symm.trans acquired
  | next refused later ih =>
      cases all with
      | next again behind =>
          cases refused.symm.trans again
          exact ih acquired behind

/-- Of pools that are asked in order, all refuse or there is a first one that lends a link. -/
theorem refusals_or_lender (pools : List Pool) (board : Switchboard) :
    (∃ faults gone after, Refusals pools board faults gone after) ∨
      Nonempty (FirstLender pools board) := by
  induction pools generalizing board with
  | nil => exact .inl ⟨[], [], board, .none board⟩
  | cons pool rest ih =>
      cases acquired : acquire (pool, board) with
      | ok link last =>
          exact .inr ⟨⟨[], pool, rest, [], [], board, link, last.1, last.2, rfl, .none board,
            acquired⟩⟩
      | error fault last =>
          rcases ih last.2 with ⟨faults, gone, after, all⟩ | ⟨⟨first⟩⟩
          · exact .inl ⟨_, _, after, .next acquired all⟩
          · exact .inr ⟨{ first with
              front := pool :: first.front
              faults := fault :: first.faults
              gone := last.1 :: first.gone
              listed := congrArg (pool :: ·) first.listed
              refusals := .next acquired first.refusals }⟩

/-- Of pools of which there are some, the last one has a reason if all refuse. -/
theorem refused_or_lender {pools : List Pool} (some : pools ≠ []) (board : Switchboard) :
    (∃ faults fault gone after, Refusals pools board (faults ++ [fault]) gone after) ∨
      Nonempty (FirstLender pools board) := by
  rcases refusals_or_lender pools board with ⟨faults, gone, after, refusals⟩ | lender
  · have more : faults ≠ [] := by
      apply List.ne_nil_of_length_pos
      rw [refusals.length_eq.1]
      exact List.length_pos_iff.mpr some
    refine .inl ⟨faults.dropLast, faults.getLast more, gone, after, ?_⟩
    rwa [List.dropLast_concat_getLast]
  · exact .inr lender

theorem FirstLender.not_refusals (first : FirstLender pools board) :
    ¬ Refusals pools board faults gone after := by
  rw [first.listed]
  exact first.refusals.not_all first.acquired

theorem FirstLender.dialed (first : FirstLender pools board) :
    ∃ dials, dials.Sublist ((first.front ++ [first.pool]).map (·.address)) ∧
      first.after.dialed = board.dialed ++ dials := by
  obtain ⟨dials, sublist, dialed⟩ := first.refusals.dialed
  have once := dialed_acquire first.pool first.middle
  rw [first.acquired] at once
  change first.after.dialed = _ ∨ first.after.dialed = _ at once
  rw [List.map_append]
  rcases once with silent | loud
  · exact ⟨dials, List.sublist_append_of_sublist_left sublist, silent.trans dialed⟩
  · refine ⟨dials ++ [first.pool.address], sublist.append (.refl _), ?_⟩
    rw [loud, dialed, List.append_assoc]

theorem FirstLender.written (first : FirstLender pools board) (id : LinkId) :
    (first.after.link id).written = (board.link id).written := by
  have last := written_acquire first.pool first.middle id
  rw [first.acquired] at last
  exact last.trans (first.refusals.written id)

theorem FirstLender.length_le (first : FirstLender pools board) :
    board.links.length ≤ first.after.links.length := by
  have last := (acquire_spares first.pool first.middle).1
  rw [first.acquired] at last
  exact Nat.le_trans first.refusals.length_le last

/-- A link that is lent waited in its pool, or is a new one. -/
theorem FirstLender.origin (first : FirstLender pools board) :
    first.link ∈ first.pool.idle ∨ board.links.length ≤ first.link := by
  have acquired := acquire_acquired first.pool first.middle
  rw [first.acquired] at acquired
  have links := first.refusals.length_le
  generalize first.after = after, first.lent = lent at acquired
  cases acquired with
  | reused closed id rest running idle =>
      rw [idle]
      exact .inl (List.mem_append_right closed List.mem_cons_self)
  | made id after running shut room dialed =>
      rw [(Switchboard.Dialed.of_dial dialed).eq_length]
      exact .inr links

end

end Pool

namespace World

def withTrackers (world : World) (trackers : List Pool) (board : Switchboard) : World :=
  { world with client := { world.client with trackers := trackers }, board := board }

section
variable {world : World} {pool lent : Pool} {front back gone : List Pool}
variable {board : Switchboard} {faults : List Fault}

theorem desk_tracker (listed : world.client.trackers = front ++ pool :: back) :
    world.desk (.tracker front.length) = (pool, world.board) := by
  simp [desk, Client.pool, listed]

theorem setDesk_tracker (listed : world.client.trackers = front ++ pool :: back) (desk : Desk) :
    world.setDesk (.tracker front.length) desk =
      world.withTrackers (front ++ desk.1 :: back) desk.2 := by
  simp [setDesk, Client.setPool, listed, withTrackers]

theorem take_tracker_of_ok {id : LinkId}
    (listed : world.client.trackers = front ++ pool :: back)
    (acquired : Pool.acquire (pool, world.board) = .ok id (lent, board)) :
    onDesk (.tracker front.length) Lease.take world =
      .ok ⟨some id⟩ (world.withTrackers (front ++ lent :: back) board) := by
  simp only [onDesk, Action.on, Lease.take, desk_tracker listed, acquired,
    setDesk_tracker listed]

theorem take_tracker_of_error {fault : Fault} {left : Pool}
    (listed : world.client.trackers = front ++ pool :: back)
    (refused : Pool.acquire (pool, world.board) = .error fault (left, board)) :
    onDesk (.tracker front.length) Lease.take world =
      .error fault (world.withTrackers (front ++ left :: back) board) := by
  simp only [onDesk, Action.on, Lease.take, desk_tracker listed, refused,
    setDesk_tracker listed]

/-- Trackers that refuse are passed one by one, and the last of them gives the reason. -/
theorem leaseTracker_of_refusals {start : Switchboard} {pools : List Pool}
    (refusals : Pool.Refusals pools start faults gone board) (begins : world.board = start)
    (listed : world.client.trackers = front ++ (pools ++ back)) (reason : Bytes) (more : Nat) :
    leaseTracker reason (List.range' front.length (pools.length + more)) world =
      leaseTracker ((faults.map Fault.shown).getLastD reason)
        (List.range' (front.length + pools.length) more)
        (world.withTrackers (front ++ (gone ++ back)) board) := by
  induction refusals generalizing world front reason with
  | none start =>
      have same : world.withTrackers (front ++ back) start = world := by
        rw [List.nil_append] at listed
        rw [withTrackers, ← listed, ← begins]
      simp [same]
  | @next pool left rest gone start middle after fault faults refused later ih =>
      rw [List.cons_append] at listed
      rw [← begins] at refused
      have taken := take_tracker_of_error listed refused
      have passed := @ih (world.withTrackers (front ++ left :: (rest ++ back)) middle)
        (front ++ [left]) rfl (List.append_cons front left (rest ++ back)) fault.shown
      have index : (front ++ [left]).length = front.length + 1 := List.length_append
      have behind : front.length + 1 + rest.length = front.length + (rest.length + 1) := by omega
      have lists : front ++ [left] ++ (gone ++ back) = front ++ (left :: gone ++ back) := by simp
      rw [index, behind, lists] at passed
      rw [List.length_cons, Nat.add_right_comm, List.range'_succ,
        leaseTracker_cons_of_error taken, if_pos (Pool.isUnavailable_of_acquire refused),
        List.map_cons, List.getLastD_cons]
      exact passed

theorem leaseAnyTracker_of_refusals {pools : List Pool} {start : Switchboard} {fault : Fault}
    (refusals : Pool.Refusals pools start (faults ++ [fault]) gone board)
    (listed : world.client.trackers = pools) (begins : world.board = start) :
    leaseAnyTracker world =
      .error (.noTrackerAvailable fault.shown) (world.withTrackers gone board) := by
  have whole : world.client.trackers = [] ++ (pools ++ []) := by simp [listed]
  have passed := leaseTracker_of_refusals refusals begins whole
    (Bytes.ofText "no tracker pool could be used") 0
  rw [leaseAnyTracker, List.range_eq_range', listed]
  refine passed.trans ?_
  simp only [List.map_append, List.map_cons, List.map_nil, List.getLastD_concat,
    List.range'_zero, List.append_nil, List.nil_append]
  rfl

theorem leaseAnyTracker_of_lender {pools : List Pool} {start : Switchboard}
    (first : Pool.FirstLender pools start) (listed : world.client.trackers = pools)
    (begins : world.board = start) :
    leaseAnyTracker world = .ok (.tracker first.front.length, ⟨some first.link⟩)
      (world.withTrackers (first.gone ++ first.lent :: first.back) first.after) := by
  have apart : world.client.trackers = [] ++ (first.front ++ first.pool :: first.back) :=
    listed.trans first.listed
  have passed := leaseTracker_of_refusals first.refusals begins apart
    (Bytes.ofText "no tracker pool could be used") (first.back.length + 1)
  have taken : onDesk (.tracker first.gone.length) Lease.take
      (world.withTrackers (first.gone ++ first.pool :: first.back) first.middle) =
        .ok ⟨some first.link⟩
          (world.withTrackers (first.gone ++ first.lent :: first.back) first.after) :=
    take_tracker_of_ok rfl first.acquired
  rw [first.refusals.length_eq.2] at taken
  rw [leaseAnyTracker, List.range_eq_range', apart, List.nil_append, List.length_append,
    List.length_cons]
  refine passed.trans ?_
  rw [List.length_nil, Nat.zero_add, List.range'_succ]
  exact leaseTracker_cons_of_ok taken _ _

/-- The query goes to the first tracker that lends a link. -/
theorem query_of_lender {pools : List Pool} {start : Switchboard}
    (first : Pool.FirstLender pools start) (listed : world.client.trackers = pools)
    (begins : world.board = start) (query : Query) :
    World.query query world =
      onLease (.tracker first.front.length) ⟨some first.link⟩ (Action.onFirst query.ask)
        (world.withTrackers (first.gone ++ first.lent :: first.back) first.after) :=
  Action.bind_of_ok (leaseAnyTracker_of_lender first listed begins) _

/-- A pool that is asked for a link comes back in its place, after at most one dial. -/
theorem exists_setDesk_of_take (ref : Client.PoolRef) (world : World) :
    ∃ desk : Desk, Action.after (onDesk ref Lease.take world) = world.setDesk ref desk ∧
      (desk.2.dialed = world.board.dialed ∨
        desk.2.dialed = world.board.dialed ++ [(world.client.pool ref).address]) := by
  refine ⟨Action.after (Pool.acquire (world.client.pool ref, world.board)), ?_,
    Pool.dialed_acquire _ _⟩
  simp only [onDesk, Action.on, Lease.take, World.desk]
  cases Pool.acquire (world.client.pool ref, world.board) <;> rfl

/-- A query ends as its exchange does, and of the trackers changes none but the one that is asked.
Its request goes over the link that this one lends, and nothing goes over any other. -/
theorem query_leaves {pools : List Pool} {start : Switchboard}
    (first : Pool.FirstLender pools start) (listed : world.client.trackers = pools)
    (begins : world.board = start) (query : Query) :
    let asked := World.query query world
    Action.result asked = Action.result (query.ask (first.after.link first.link)) ∧
      (∃ used, (Action.after asked).client.trackers = first.gone ++ used :: first.back) ∧
      (Action.after asked).board.dialed = first.after.dialed ∧
      (Action.after asked).client.storages = world.client.storages ∧
      (Action.after asked).board.links.length = first.after.links.length ∧
      ∀ id, ((Action.after asked).board.link id).written = (first.after.link id).written ++
        if id = first.link then (first.after.link first.link).passed query.request else [] := by
  intro asked
  have leased : asked = _ := query_of_lender first listed begins query
  obtain ⟨result, -⟩ := onLease_ends (.tracker first.front.length) first.link
    (Action.onFirst query.ask)
    (world.withTrackers (first.gone ++ first.lent :: first.back) first.after)
  obtain ⟨used, desk, left, same, receives⟩ := exists_receives_of_onLease
    (.tracker first.front.length) first.link (Action.onFirst query.ask)
    (world.withTrackers (first.gone ++ first.lent :: first.back) first.after)
  have wrote := @written_onLease _ (.tracker first.front.length) first.link
    (world.withTrackers (first.gone ++ first.lent :: first.back) first.after)
    (Pool.lt_length_of_acquire first.acquired) (Action.onFirst query.ask)
  rw [Action.after_onFirst, left] at wrote
  rw [← first.refusals.length_eq.2, setDesk_tracker (congrArg Client.trackers same),
    first.refusals.length_eq.2] at left
  rw [Action.result_onFirst] at result
  rw [leased, left]
  have storages : used.client.storages = world.client.storages := by rw [same, withTrackers]
  refine ⟨result, ⟨desk.1, rfl⟩, receives.dialed, storages, receives.length, fun id => ?_⟩
  by_cases isLent : id = first.link
  · rw [if_pos isLent, isLent, ← query.written_ask]
    exact wrote
  · rw [if_neg isLent, List.append_nil]
    exact congrArg Link.written (receives.links id isLent)

/-- An exchange with a storage node leaves the trackers alone, and dials the node at most once. -/
theorem onStorage_aside {α : Type} (node : StorageNode) (exchange : Action (Link × FileTree) α)
    (world : World) :
    let last := Action.after (onStorage node exchange world)
    last.client.trackers = world.client.trackers ∧
      (last.board.dialed = world.board.dialed ∨
        last.board.dialed = world.board.dialed ++ [node.address]) := by
  rw [onStorage, Action.after_bind]
  cases pooled : storagePool node.address world with
  | error fault after =>
      obtain ⟨rfl, -⟩ := storagePool_eq_error pooled
      exact ⟨rfl, .inl rfl⟩
  | ok ref found =>
      have address := address_of_storagePool pooled
      have aside : (∃ index, ref = .storage index) ∧
          found.client.trackers = world.client.trackers ∧ found.board = world.board := by
        rcases storagePool_eq_ok pooled with ⟨index, -, rfl, rfl⟩ | ⟨pool, -, -, rfl, rfl⟩
        · exact ⟨⟨index, rfl⟩, rfl, rfl⟩
        · exact ⟨⟨_, rfl⟩, rfl, rfl⟩
      obtain ⟨⟨index, rfl⟩, trackers, board⟩ := aside
      obtain ⟨desk, same, dialed⟩ := exists_setDesk_of_take (.storage index) found
      rw [address, board] at dialed
      dsimp only
      rw [Action.after_bind]
      cases taken : onDesk (.storage index) Lease.take found with
      | error fault after =>
          rw [taken] at same
          change after = found.setDesk _ desk at same
          subst same
          exact ⟨trackers, dialed⟩
      | ok lease lent =>
          rw [taken] at same
          change lent = found.setDesk _ desk at same
          subst same
          obtain ⟨id, rfl⟩ := held_of_take taken
          obtain ⟨used, last, ended, client, receives⟩ := exists_receives_of_onLease
            (.storage index) id exchange (found.setDesk (.storage index) desk)
          have kept : used.client.trackers = world.client.trackers :=
            (congrArg Client.trackers client).trans trackers
          have silent : last.2.dialed = desk.2.dialed := receives.dialed
          rw [← silent] at dialed
          dsimp only
          rw [ended]
          exact ⟨kept, dialed⟩

theorem onStorage_ne_noTracker {α : Type} {node : StorageNode}
    {exchange : Action (Link × FileTree) α} (inner : Action.FailsBy Fault.isOfExchange exchange)
    (world : World) (reason : Bytes) :
    Action.result (onStorage node exchange world) ≠ .error (.noTrackerAvailable reason) := by
  intro same
  cases ran : onStorage node exchange world with
  | ok value after =>
      rw [ran] at same
      cases same
  | error fault after =>
      rw [ran] at same
      cases same
      rcases Action.bind_eq_error ran with refused | ⟨ref, found, -, failed⟩
      · cases not_isShortage_of_storagePool refused
      · rcases Action.bind_eq_error failed with refused | ⟨lease, lent, taken, failed⟩
        · obtain ⟨desk, acquired, -⟩ := acquire_of_take_error refused
          cases Pool.isUnavailable_of_acquire acquired
        · obtain ⟨id, rfl⟩ := held_of_take taken
          cases failsBy_onLease inner ref id _ _ _ failed

end

section
variable {world begun : World} {call : Call} {query : Query}

/-- A call fails for want of a tracker if all of them refuse, the last of which is quoted. -/
theorem call_of_refusals (asking : asks call world = some (query, begun)) {faults : List Fault}
    {fault : Fault} {gone : List Pool} {board : Switchboard}
    (refusals : Pool.Refusals world.client.trackers world.board (faults ++ [fault]) gone board) :
    let ended := World.call call world
    Action.result ended = .error (.noTrackerAvailable fault.shown) ∧
      (Action.after ended).client.trackers = gone ∧ (Action.after ended).board = board := by
  intro ended
  obtain ⟨client, links, α, exchange, -, ends⟩ := exists_operation asking
  have leased := leaseAnyTracker_of_refusals refusals (congrArg Client.trackers client) links
  have operated : operation query exchange begun =
      .error (.noTrackerAvailable fault.shown) (begun.withTrackers gone board) :=
    Action.bind_of_error (Action.bind_of_error leased _) _
  rw [operated] at ends
  exact ⟨(ends.fault _).mpr rfl, congrArg Client.trackers ends.client, ends.board⟩

/-- The first tracker that lends a link is the only one that is asked. Those behind it are left as
they are, and what goes wrong with the query is what the call fails with. -/
theorem call_of_lender (asking : asks call world = some (query, begun))
    (first : Pool.FirstLender world.client.trackers world.board) :
    let ended := World.call call world
    (∀ reason, Action.result ended ≠ .error (.noTrackerAvailable reason)) ∧
      (∃ used, (Action.after ended).client.trackers = first.gone ++ used :: first.back) ∧
      (∀ id < first.after.links.length,
        (∀ index, id ∉ (world.client.pool (.storage index)).idle) →
        ((Action.after ended).board.link id).written = (world.board.link id).written ++
          if id = first.link then (first.after.link first.link).passed query.request else []) ∧
      (∀ fault, Action.result (query.ask (first.after.link first.link)) = .error fault →
        Action.result ended = .error fault ∧
          (Action.after ended).board.dialed = first.after.dialed) ∧
      ∀ node, Action.result (query.ask (first.after.link first.link)) = .ok node →
        (Action.after ended).board.dialed = first.after.dialed ∨
          (Action.after ended).board.dialed = first.after.dialed ++ [node.address] := by
  intro ended
  obtain ⟨client, links, α, exchange, inner, ends⟩ := exists_operation asking
  have listed := congrArg Client.trackers client
  obtain ⟨result, left, silent, storages, length, wrote⟩ := query_leaves first listed links query
  simp only [first.written] at wrote
  rw [← result, ends.client, ends.board]
  cases ran : World.query query begun with
  | error fault last =>
      have leased := query_of_lender first listed links query
      have ofExchange : fault.isOfExchange = true :=
        failsBy_onLease (Action.failsBy_on query.failsBy_ask) _ _ _ _ _ (leased.symm.trans ran)
      have operated : operation query exchange begun = .error fault last :=
        Action.bind_of_error ran _
      rw [ran] at left silent wrote
      rw [operated] at ends ⊢
      refine ⟨?_, left, fun id _ _ => wrote id, ?_, ?_⟩
      · intro reason short
        cases (ends.fault _).mp short
        cases ofExchange
      · intro other same
        cases same
        exact ⟨(ends.fault fault).mpr rfl, silent⟩
      · intro node same
        cases same
  | ok node last =>
      have operated : operation query exchange begun = onStorage node (exchange node) last :=
        Action.bind_of_ok ran _
      obtain ⟨trackers, dialed⟩ := onStorage_aside node (exchange node) last
      have spares := spares_onStorage_storages node (exchange node) last
      rw [ran] at left silent storages length wrote
      change last.board.dialed = first.after.dialed at silent
      change last.client.storages = begun.client.storages at storages
      change last.board.links.length = first.after.links.length at length
      rw [silent] at dialed
      rw [operated] at ends ⊢
      rw [trackers]
      refine ⟨?_, left, ?_, ?_, ?_⟩
      · intro reason short
        exact onStorage_ne_noTracker (inner node) _ reason ((ends.fault _).mp short)
      · intro id isThere unlent
        have same := spares.links id (length.symm ▸ isThere) (by
          rintro ref ⟨index, rfl⟩
          rw [Client.pool, storages, client]
          exact unlent index)
        rw [same]
        exact wrote id
      · intro other same
        cases same
      · intro other same
        cases same
        exact dialed

end

section
variable {settings : Settings} {dialer : Dialer} {accessor : Option Accessor} {files : FileTree}
variable {start : World}

/-- The trackers of a client stay in ascending order of their addresses, and there always are
some. -/
theorem trackers_run (created : create settings dialer accessor files = .ok start)
    (history : List Event) :
    ((run start history).client.trackers.map (·.address)).Pairwise (· < ·) ∧
      (run start history).client.trackers ≠ [] := by
  have made := (client_of_create created).1
  have kept := keepsPools_run start history
  refine ⟨?_, ?_⟩
  · rw [kept.trackers_eq, List.pairwise_map]
    exact Client.sorted_of_create made
  · apply List.ne_nil_of_length_pos
    rw [kept.trackers]
    exact List.length_pos_iff.mpr (Client.trackers_of_create made).1

/-- A link that a tracker's pool lends is not one of a storage pool. -/
theorem unlent_of_lender {world : World} (tidy : Tidy world)
    (first : Pool.FirstLender world.client.trackers world.board) (index : Nat) :
    first.link ∉ (world.client.pool (.storage index)).idle := by
  intro isIdle
  rcases first.origin with waited | fresh
  · have lender : world.client.pool (.tracker first.front.length) = first.pool :=
      congrArg Prod.fst (desk_tracker first.listed)
    rw [← lender] at waited
    cases tidy.apart _ _ _ isIdle waited
  · exact Nat.lt_irrefl _ (Nat.lt_of_lt_of_le (tidy.numbered _ _ isIdle) fresh)

/-- How trackers stand in for one another. They are tried in ascending order of their addresses.
Either each of them lends nothing, because its pool is exhausted or its dial fails, and the call
fails with what the last one says. Or a first one lends a link: it alone is asked, no pool behind it
is touched or dialed, and a fault of the query is the fault of the call. The request goes over the
link that it lends, and of all links that there are by then nothing goes over any other one, but for
those of storage pools. -/
theorem first_willing_tracker_asked (created : create settings dialer accessor files = .ok start)
    (history : List Event) :
    let world := run start history
    (world.client.trackers.map (·.address)).Pairwise (· < ·) ∧
    ∀ call query begun, asks call world = some (query, begun) →
      let ended := World.call call world
      let last := Action.after ended
      ((∃ reason, Action.result ended = .error (.noTrackerAvailable reason)) ↔
        ∃ faults gone board,
          Pool.Refusals world.client.trackers world.board faults gone board) ∧
      ((∃ faults fault gone board,
          Pool.Refusals world.client.trackers world.board (faults ++ [fault]) gone board ∧
          (∀ cause ∈ faults ++ [fault], isUnavailable cause = true) ∧
          (∃ dials, dials.Sublist (world.client.trackers.map (·.address)) ∧
            board.dialed = world.board.dialed ++ dials) ∧
          Action.result ended = .error (.noTrackerAvailable fault.shown) ∧
          last.client.trackers = gone ∧ last.board = board ∧
          ∀ id, (last.board.link id).written = (world.board.link id).written) ∨
        ∃ first : Pool.FirstLender world.client.trackers world.board,
          (∀ cause ∈ first.faults, isUnavailable cause = true) ∧
          (∃ dials, dials.Sublist ((first.front ++ [first.pool]).map (·.address)) ∧
            first.after.dialed = world.board.dialed ++ dials) ∧
          World.query query begun =
            onLease (.tracker first.front.length) ⟨some first.link⟩ (Action.onFirst query.ask)
              (begun.withTrackers (first.gone ++ first.lent :: first.back) first.after) ∧
          (last.board.link first.link).written = (world.board.link first.link).written ++
            (first.after.link first.link).passed query.request ∧
          (∀ id < first.after.links.length, id ≠ first.link →
            (∀ index, id ∉ (world.client.pool (.storage index)).idle) →
            (last.board.link id).written = (world.board.link id).written) ∧
          (∃ used, last.client.trackers = first.gone ++ used :: first.back) ∧
          (∀ fault, Action.result (query.ask (first.after.link first.link)) = .error fault →
            Action.result ended = .error fault ∧ last.board.dialed = first.after.dialed) ∧
          ∀ node, Action.result (query.ask (first.after.link first.link)) = .ok node →
            last.board.dialed = first.after.dialed ∨
              last.board.dialed = first.after.dialed ++ [node.address]) := by
  intro world
  obtain ⟨sorted, some⟩ := trackers_run created history
  have tidy : Tidy world := tidy_run created history
  refine ⟨sorted, ?_⟩
  intro call query begun asking ended last
  rcases Pool.refused_or_lender some world.board with
    ⟨before, fault, gone, board, refusals⟩ | ⟨⟨first⟩⟩
  · obtain ⟨failed, trackers, links⟩ := call_of_refusals asking refusals
    have unwritten (id : LinkId) : (last.board.link id).written = (world.board.link id).written := by
      rw [show last.board = board from links]
      exact refusals.written id
    exact ⟨⟨fun _ => ⟨_, _, _, refusals⟩, fun _ => ⟨_, failed⟩⟩,
      .inl ⟨before, fault, gone, board, refusals, refusals.isUnavailable, refusals.dialed, failed,
        trackers, links, unwritten⟩⟩
  · obtain ⟨served, trackers, wrote, broken, answered⟩ := call_of_lender asking first
    obtain ⟨client, links, -⟩ := exists_operation asking
    have request := wrote first.link (Pool.lt_length_of_acquire first.acquired)
      (unlent_of_lender tidy first)
    rw [if_pos rfl] at request
    refine ⟨⟨?_, ?_⟩, .inr ⟨first, first.refusals.isUnavailable, first.dialed,
      query_of_lender first (congrArg Client.trackers client) links query, request, ?_, trackers,
      broken, answered⟩⟩
    · rintro ⟨reason, short⟩
      exact absurd short (served reason)
    · rintro ⟨faults, gone, board, refusals⟩
      exact absurd refusals first.not_refusals
    · intro id isThere differs unlent
      have nothing := wrote id isThere unlent
      rwa [if_neg differs, List.append_nil] at nothing

theorem first_willing_tracker_asked_after_refusal :
    let settings : Settings :=
      ⟨[Bytes.ofText "u:1", Bytes.ofText "t:1", Bytes.ofText "u:1"], 1, 5, 30, [], []⟩
    let dialer : Dialer :=
      .script ⟨[(Bytes.ofText "t:1", [.refused none [33]])], [.link [] none true]⟩
    let accessor : Accessor := .catalogue [([120], ⟨1, [], .ofContent [7]⟩)]
    let start : World := ⟨⟨[⟨Bytes.ofText "t:1", 1, [], 0, false⟩,
      ⟨Bytes.ofText "u:1", 1, [], 0, false⟩], [], 1, accessor⟩, .ofDialer dialer, .blank, 0, 0, 0⟩
    let ended := World.call (.upload [120]) start
    create settings dialer (some accessor) .blank = .ok start ∧
      (Action.after ended).board.dialed = [Bytes.ofText "t:1", Bytes.ofText "u:1"] ∧
      Action.result ended = .error (.transfer (.shortInMemory .read)) ∧
      ∃ first : Pool.FirstLender start.client.trackers start.board,
        (∀ cause ∈ first.faults, isUnavailable cause = true) ∧
          ((Action.after ended).board.link first.link).written =
            (first.after.link first.link).passed Query.store.request ∧
          ∃ used, (Action.after ended).client.trackers = first.gone ++ used :: first.back := by
  intro settings dialer accessor start ended
  have created : create settings dialer (some accessor) .blank = .ok start := by decide +kernel
  have failed : Action.result ended = .error (.transfer (.shortInMemory .read)) := by
    decide +kernel
  obtain ⟨-, calls⟩ := first_willing_tracker_asked created []
  obtain ⟨-, outcome⟩ := calls (.upload [120]) .store { start with asked := 1, staged := 1 } rfl
  refine ⟨created, by decide +kernel, failed, ?_⟩
  rcases outcome with ⟨faults, fault, gone, board, -, -, -, other, -⟩ |
    ⟨first, before, -, -, request, -, behind, -⟩
  · cases failed.symm.trans other
  · exact ⟨first, before, request, behind⟩

end

end World

end TrackedStorage
