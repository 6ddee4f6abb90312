import TrackedStorage.Proofs.ClientHistory
import Mathlib.Data.List.GetD

set_option autoImplicit false

namespace TrackedStorage

namespace Client

theorem mem_insertByAddress {pool other : Pool} {pools : List Pool}
    (isIn : other ∈ insertByAddress pool pools) : other = pool ∨ other ∈ pools := by
  induction pools with
  | nil => exact .inl (List.mem_singleton.mp isIn)
  | cons first rest ih =>
      rw [insertByAddress] at isIn
      split at isIn
      · rcases List.mem_cons.mp isIn with rfl | later
        · exact .inr List.mem_cons_self
        · exact (ih later).imp_right (List.mem_cons_of_mem first)
      · exact List.mem_cons.mp isIn

/-- What holds of some pools still does after trackers were added, if none of them changes that. -/
theorem addTrackers_induction (holds : List Pool → Prop) {capacity : UInt64}
    {dialer : Option Dialer} {addresses : List Bytes} {pools after : List Pool}
    (step : ∀ address ∈ addresses, ∀ pools after, holds pools →
      addTracker capacity dialer pools address = .ok after → holds after)
    (added : addresses.foldlM (addTracker capacity dialer) pools = .ok after)
    (start : holds pools) : holds after := by
  induction addresses generalizing pools with
  | nil =>
      cases added
      exact start
  | cons address rest ih =>
      rw [List.foldlM_cons] at added
      cases first : addTracker capacity dialer pools address with
      | error fault =>
          rw [first] at added
          cases added
      | ok middle =>
          rw [first] at added
          have early := step address List.mem_cons_self pools middle start first
          refine ih ?_ added early
          intro other isIn
          exact step other (List.mem_cons_of_mem address isIn)

/-- Every tracker pool that a client starts with is new. -/
theorem new_of_addTrackers {capacity : UInt64} {dialer : Option Dialer} {addresses : List Bytes}
    {pools after : List Pool}
    (added : addresses.foldlM (addTracker capacity dialer) pools = .ok after)
    (start : ∀ pool ∈ pools, ∃ address, Pool.create address capacity dialer = .ok pool) :
    ∀ pool ∈ after, ∃ address, Pool.create address capacity dialer = .ok pool := by
  refine addTrackers_induction
    (fun pools => ∀ pool ∈ pools, ∃ address, Pool.create address capacity dialer = .ok pool)
    ?_ added start
  intro address _ pools after early one
  unfold addTracker at one
  split at one
  · cases one
    exact early
  · split at one
    · cases one
    · rename_i new created
      cases one
      intro pool isIn
      rcases mem_insertByAddress isIn with rfl | before
      · exact ⟨address, created⟩
      · exact early pool before

/-- A new client has no storage pool, and a tracker pool for each tracker of its settings. -/
theorem addTrackers_of_create {settings : Settings} {dialer : Option Dialer}
    {accessor : Option Accessor} {client : Client}
    (created : create settings dialer accessor = .ok client) :
    settings.trackers ≠ [] ∧ client.storages = [] ∧
      settings.trackers.foldlM (addTracker client.capacity dialer) [] = .ok client.trackers := by
  unfold create at created
  cases valid : settings.validate with
  | error fault =>
      rw [valid] at created
      cases created
  | ok _ =>
      rw [valid] at created
      cases accessor with
      | none => cases created
      | some accessor =>
          cases added : settings.trackers.foldlM (addTracker settings.maxConnections dialer) [] with
          | error fault =>
              simp only [added] at created
              cases created
          | ok trackers =>
              simp only [added] at created
              cases created
              refine ⟨?_, rfl, added⟩
              intro none
              simp [Settings.validate, none] at valid

theorem create_eq {settings : Settings} {dialer : Option Dialer} {accessor : Option Accessor}
    {client : Client} (created : create settings dialer accessor = .ok client) :
    client.storages = [] ∧
      ∀ pool ∈ client.trackers,
        ∃ address, Pool.create address client.capacity dialer = .ok pool := by
  obtain ⟨-, none, added⟩ := addTrackers_of_create created
  exact ⟨none, new_of_addTrackers added (fun _ isIn => by cases isIn)⟩

def closing (pools : List Pool) : List LinkId :=
  (pools.filter fun pool => !pool.isDestroyed).flatMap Pool.idle

theorem destroyPools_eq (pools : List Pool) (board : Switchboard) :
    destroyPools pools board =
      (pools.map Pool.destroyed, (closing pools).foldl Switchboard.close board) := by
  induction pools generalizing board with
  | nil => rfl
  | cons pool rest ih =>
      simp only [destroyPools, Pool.destroy_eq, ih, closing]
      cases gone : pool.isDestroyed <;> simp [gone]

theorem mem_closing {pools : List Pool} {pool : Pool} (isIn : pool ∈ pools)
    (running : pool.isDestroyed = false) {id : LinkId} (isIdle : id ∈ pool.idle) :
    id ∈ closing pools := by
  simp only [closing, List.mem_flatMap, List.mem_filter]
  exact ⟨pool, ⟨isIn, by simp [running]⟩, isIdle⟩

end Client

namespace World

/-- No link is on loan, no pool has lost count, and only idle links are open. -/
structure Tidy (world : World) : Prop where
  settled : ∀ ref, (world.client.pool ref).live.toNat = (world.client.pool ref).idle.length ∧
    (world.client.pool ref).idle.length ≤ 1
  numbered : ∀ ref, ∀ id ∈ (world.client.pool ref).idle, id < world.board.links.length
  apart : ∀ ref other id, id ∈ (world.client.pool ref).idle →
    id ∈ (world.client.pool other).idle → other = ref
  shut : ∀ id, world.board.isOpen id = true → ∃ ref, id ∈ (world.client.pool ref).idle
  capable : ∀ ref, (world.client.pool ref).isDestroyed = false →
    0 < (world.client.pool ref).capacity
  emptied : ∀ ref, (world.client.pool ref).isDestroyed = true →
    (world.client.pool ref).idle = []

theorem Tidy.live_eq {world : World} (tidy : Tidy world) (ref : Client.PoolRef) :
    (world.client.pool ref).live = UInt64.ofNat (world.client.pool ref).idle.length := by
  rw [← (tidy.settled ref).1, UInt64.ofNat_toNat]

/-- What a loan comes to: the pool has no other link, and no other link is touched. -/
structure Loan (ref : Client.PoolRef) (id : LinkId) (world lent : World) : Prop where
  running : (world.client.pool ref).isDestroyed = false
  same : lent = world.setDesk ref
    ({ world.client.pool ref with idle := [], live := 1 }, lent.board)
  grown : world.board.links.length ≤ lent.board.links.length
  isThere : id < lent.board.links.length
  kept : ∀ other < world.board.links.length, lent.board.link other = world.board.link other
  mine : ∀ other, id ∈ (world.client.pool other).idle → other = ref
  others : ∀ other ≠ id, lent.board.isOpen other = true →
    world.board.isOpen other = true ∧ other ∉ (world.client.pool ref).idle
  origin : id ∈ (world.client.pool ref).idle ∨ (world.board.links.length ≤ id ∧
    (lent.board.link id).written = [] ∧ (lent.board.link id).taken = [])

theorem desk_eq (world : World) (ref : Client.PoolRef) :
    world.desk ref = (world.client.pool ref, world.board) := rfl

theorem acquire_of_take {ref : Client.PoolRef} {id : LinkId} {world lent : World}
    (taken : onDesk ref Lease.take world = .ok ⟨some id⟩ lent) :
    ∃ desk, Pool.acquire (world.desk ref) = .ok id desk ∧ lent = world.setDesk ref desk := by
  obtain ⟨desk, took, rfl⟩ := Action.on_eq_ok taken
  unfold Lease.take at took
  split at took
  · rename_i acquired
    cases took
    exact ⟨desk, acquired, rfl⟩
  · cases took

theorem acquire_of_take_error {ref : Client.PoolRef} {fault : Fault} {world after : World}
    (taken : onDesk ref Lease.take world = .error fault after) :
    ∃ desk, Pool.acquire (world.desk ref) = .error fault desk ∧
      after = world.setDesk ref desk := by
  obtain ⟨desk, took, rfl⟩ := Action.on_eq_error taken
  unfold Lease.take at took
  split at took
  · cases took
  · rename_i acquired
    cases took
    exact ⟨desk, acquired, rfl⟩

theorem Tidy.loan {world lent : World} (tidy : Tidy world) {ref : Client.PoolRef} {id : LinkId}
    (taken : onDesk ref Lease.take world = .ok ⟨some id⟩ lent) : Loan ref id world lent := by
  obtain ⟨desk, acquire, rfl⟩ := acquire_of_take taken
  have acquired := Pool.acquire_acquired (world.client.pool ref) world.board
  have live := tidy.live_eq ref
  rw [← desk_eq, acquire] at acquired
  cases acquired with
  | reused closed id rest running idle shut opened =>
      -- One link at most is idle: none was dropped in front of it, and none is left behind it.
      have single := (tidy.settled ref).2
      rw [idle, List.length_append, List.length_cons] at single
      have none : closed = [] := List.length_eq_zero_iff.mp (by omega)
      have last : rest = [] := List.length_eq_zero_iff.mp (by omega)
      subst none last
      rw [idle] at live
      have isIdle : id ∈ (world.client.pool ref).idle := by simp [idle]
      refine ⟨running, ?_, Nat.le_refl _, tidy.numbered ref id isIdle, fun _ _ => rfl,
        fun other isIn => tidy.apart ref other id isIdle isIn, ?_, .inl isIdle⟩
      · have one : (world.client.pool ref).live - UInt64.ofNat ([] : List LinkId).length = 1 := by
          simp [live]
        rw [one]
        rfl
      · intro other differs isOpen
        refine ⟨isOpen, ?_⟩
        rw [idle]
        simpa using differs
  | made id after running shut room dialed =>
      have dial := Switchboard.Dialed.of_dial dialed
      have fresh : world.board.links.length ≤ id := Nat.le_of_eq dial.eq_length.symm
      refine ⟨running, ?_, dial.length_le, dial.lt_length, fun _ isThere => dial.link_of_lt isThere,
        ?_, ?_, .inr ⟨fresh, dial.untouched⟩⟩
      · rw [live, UInt64.sub_self, UInt64.zero_add]
        rfl
      · intro other isIdle
        exact absurd (tidy.numbered other id isIdle) (Nat.not_lt.mpr fresh)
      · intro other differs isOpen
        have unmade : Except.ok (some id) ≠ (.ok (some other) : Except Fault (Option LinkId)) := by
          simpa using differs.symm
        have before : world.board.isOpen other = true :=
          (dial.isOpen_of_unmade unmade).symm.trans isOpen
        refine ⟨before, ?_⟩
        intro isIdle
        rw [shut other isIdle] at before
        cases before

/-- A pool that is put back changes nothing for the others. -/
theorem pool_setDesk_self {world : World} {ref : Client.PoolRef} (has : world.client.Has ref)
    (pool : Pool) (board : Switchboard) :
    (world.setDesk ref (pool, board)).client.pool ref = pool :=
  Client.pool_setPool_self has pool

theorem pool_setDesk_of_ne {world : World} {ref other : Client.PoolRef} (differs : other ≠ ref)
    (pool : Pool) (board : Switchboard) :
    (world.setDesk ref (pool, board)).client.pool other = world.client.pool other :=
  Client.pool_setPool_of_ne world.client differs pool

theorem forall_pool_setDesk (holds : Client.PoolRef → Pool → Prop) {world : World}
    {ref : Client.PoolRef} {pool : Pool} {board : Switchboard} (has : world.client.Has ref)
    (mine : holds ref pool) (rest : ∀ other ≠ ref, holds other (world.client.pool other))
    (other : Client.PoolRef) :
    holds other ((world.setDesk ref (pool, board)).client.pool other) := by
  by_cases same : other = ref
  · rw [same, pool_setDesk_self has]
    exact mine
  · rw [pool_setDesk_of_ne same]
    exact rest other same

/-- A client stays tidy if the pool that is put back is, and only its own links were opened. -/
theorem tidy_setDesk {world : World} (tidy : Tidy world) {ref : Client.PoolRef} {pool : Pool}
    {board : Switchboard}
    (settled : pool.live.toNat = pool.idle.length ∧ pool.idle.length ≤ 1)
    (grown : world.board.links.length ≤ board.links.length)
    (numbered : ∀ id ∈ pool.idle, id < board.links.length)
    (mine : ∀ id ∈ pool.idle, ∀ other, id ∈ (world.client.pool other).idle → other = ref)
    (shut : ∀ id, board.isOpen id = true → id ∈ pool.idle ∨
      (world.board.isOpen id = true ∧ id ∉ (world.client.pool ref).idle))
    (capable : pool.isDestroyed = false → 0 < pool.capacity)
    (emptied : pool.isDestroyed = true → pool.idle = [])
    (has : world.client.Has ref) : Tidy (world.setDesk ref (pool, board)) := by
  have self := pool_setDesk_self has pool board
  have rest (other : Client.PoolRef) (differs : other ≠ ref) :
      (world.setDesk ref (pool, board)).client.pool other = world.client.pool other :=
    pool_setDesk_of_ne differs pool board
  refine ⟨?_, ?_, ?_, ?_, ?_, ?_⟩
  · exact forall_pool_setDesk
      (fun _ pool => pool.live.toNat = pool.idle.length ∧ pool.idle.length ≤ 1)
      has settled fun other _ => tidy.settled other
  · refine forall_pool_setDesk (fun _ pool => ∀ id ∈ pool.idle, id < board.links.length)
      has numbered ?_
    intro other _ id isIdle
    exact Nat.lt_of_lt_of_le (tidy.numbered other id isIdle) grown
  · intro one other id inOne inOther
    by_cases sameOne : one = ref
    · by_cases sameOther : other = ref
      · rw [sameOne, sameOther]
      · rw [sameOne, self] at inOne
        rw [rest other sameOther] at inOther
        rw [sameOne]
        exact mine id inOne other inOther
    · by_cases sameOther : other = ref
      · rw [sameOther, self] at inOther
        rw [rest one sameOne] at inOne
        exact absurd (mine id inOther one inOne) sameOne
      · rw [rest one sameOne] at inOne
        rw [rest other sameOther] at inOther
        exact tidy.apart one other id inOne inOther
  · intro id isOpen
    rcases shut id isOpen with isIdle | ⟨wasOpen, notIdle⟩
    · refine ⟨ref, ?_⟩
      rw [self]
      exact isIdle
    · obtain ⟨other, isIdle⟩ := tidy.shut id wasOpen
      have differs : other ≠ ref := by
        rintro rfl
        exact notIdle isIdle
      refine ⟨other, ?_⟩
      rw [rest other differs]
      exact isIdle
  · exact forall_pool_setDesk (fun _ pool => pool.isDestroyed = false → 0 < pool.capacity)
      has capable fun other _ => tidy.capable other
  · exact forall_pool_setDesk (fun _ pool => pool.isDestroyed = true → pool.idle = [])
      has emptied fun other _ => tidy.emptied other

/-- What is left when a loan ends: the link is idle if it is open. -/
def settle (ref : Client.PoolRef) (id : LinkId) (link : Link) (files : FileTree)
    (lent : World) : World :=
  { lent with files := files }.setDesk ref
    ({ lent.client.pool ref with
        idle := if link.isOpen then [id] else []
        live := if link.isOpen then 1 else 0 },
      lent.board.setLink id link)

theorem Loan.pool_eq {ref : Client.PoolRef} {id : LinkId} {world lent : World}
    (loan : Loan ref id world lent) :
    lent.client.pool ref = { world.client.pool ref with idle := [], live := 1 } := by
  rw [loan.same]
  exact Client.pool_setPool_self (Client.has_of_running loan.running) _

theorem Loan.settle_eq {ref : Client.PoolRef} {id : LinkId} {world lent : World}
    (loan : Loan ref id world lent) (link : Link) (files : FileTree) :
    settle ref id link files lent = { world with files := files }.setDesk ref
      ({ world.client.pool ref with
          idle := if link.isOpen then [id] else []
          live := if link.isOpen then 1 else 0 },
        lent.board.setLink id link) := by
  rw [settle, loan.pool_eq]
  generalize lent.board.setLink id link = board
  rw [loan.same]
  simp [setDesk]

theorem Loan.lent_running {ref : Client.PoolRef} {id : LinkId} {world lent : World}
    (loan : Loan ref id world lent) : (lent.client.pool ref).isDestroyed = false := by
  rw [loan.pool_eq]
  exact loan.running

/-- A link that comes back after a good exchange is kept unless it is closed. -/
theorem Loan.release_eq {ref : Client.PoolRef} {id : LinkId} {world lent : World}
    (loan : Loan ref id world lent) (link : Link) (files : FileTree) :
    let used : World := { lent with board := lent.board.setLink id link, files := files }
    used.setDesk ref (Pool.release (some id) (used.desk ref)) =
      settle ref id link files lent := by
  intro used
  have same : used.desk ref = (lent.client.pool ref, lent.board.setLink id link) := rfl
  have isOpen : (lent.board.setLink id link).isOpen id = link.isOpen := by
    rw [Switchboard.isOpen, Switchboard.link_setLink_self loan.isThere]
  rw [same, settle]
  by_cases opened : link.isOpen = true
  · rw [Pool.release_of_open loan.lent_running (isOpen.trans opened), opened, loan.pool_eq]
    rfl
  · have closed : link.isOpen = false := by simpa using opened
    rw [Pool.release_of_closed (isOpen.trans closed), closed, loan.pool_eq,
      Switchboard.close_setLink loan.isThere, Link.close_of_closed closed]
    simp only [UInt64.sub_self]
    rfl

/-- A link that comes back after a fault is closed. -/
theorem Loan.discard_eq {ref : Client.PoolRef} {id : LinkId} {world lent : World}
    (loan : Loan ref id world lent) (link : Link) (files : FileTree) :
    let used : World := { lent with board := lent.board.setLink id link, files := files }
    used.setDesk ref (Pool.discard (some id) (used.desk ref)) =
      settle ref id link.close files lent := by
  intro used
  have same : used.desk ref = (lent.client.pool ref, lent.board.setLink id link) := rfl
  rw [same, settle, Pool.discard, Switchboard.close_setLink loan.isThere, loan.pool_eq]
  simp only [UInt64.sub_self]
  rfl

theorem Loan.tidy_settle {ref : Client.PoolRef} {id : LinkId} {world lent : World}
    (loan : Loan ref id world lent) (tidy : Tidy world) (link : Link) (files : FileTree) :
    Tidy (settle ref id link files lent) := by
  have elsewhere : Tidy { world with files := files } :=
    ⟨tidy.settled, tidy.numbered, tidy.apart, tidy.shut, tidy.capable, tidy.emptied⟩
  have single (other : LinkId) (isIdle : other ∈ if link.isOpen then [id] else []) :
      other = id := by
    split at isIdle
    · exact List.mem_singleton.mp isIdle
    · cases isIdle
  rw [loan.settle_eq]
  refine tidy_setDesk elsewhere ?_ ?_ ?_ ?_ ?_ (tidy.capable ref) ?_
    (Client.has_of_running loan.running)
  · cases link.isOpen with
    | true => exact ⟨rfl, Nat.le_refl 1⟩
    | false => exact ⟨rfl, Nat.zero_le 1⟩
  · rw [Switchboard.length_setLink]
    exact loan.grown
  · intro other isIdle
    rw [single other isIdle, Switchboard.length_setLink]
    exact loan.isThere
  · intro other isIdle pool isIn
    rw [single other isIdle] at isIn
    exact loan.mine pool isIn
  · intro other isOpen
    by_cases same : other = id
    · left
      rw [same, Switchboard.isOpen, Switchboard.link_setLink_self loan.isThere] at isOpen
      simp [same, isOpen]
    · rw [Switchboard.isOpen, Switchboard.link_setLink_of_ne _ same] at isOpen
      exact .inr (loan.others other same isOpen)
  · intro gone
    cases loan.running.symm.trans gone

/-- Why a tidy pool lends nothing: it is destroyed, or it has no open link and its dial failed. -/
inductive Refusal (ref : Client.PoolRef) (world : World) : Fault → World → Prop
  | destroyed (gone : (world.client.pool ref).isDestroyed = true) :
      Refusal ref world (.exhausted (world.client.pool ref).address) world
  | failed (outcome : Except Fault (Option LinkId)) (address reason : Bytes)
      (board : Switchboard) (running : (world.client.pool ref).isDestroyed = false)
      (shut : ∀ id ∈ (world.client.pool ref).idle, world.board.isOpen id = false)
      (dialed : world.board.dial (world.client.pool ref).address = (outcome, board))
      (unmade : ∀ id, outcome ≠ .ok (some id)) :
      Refusal ref world (.dial address reason)
        (world.setDesk ref ({ world.client.pool ref with idle := [], live := 0 }, board))

theorem Tidy.refusal {world after : World} (tidy : Tidy world) {ref : Client.PoolRef}
    {fault : Fault} (taken : onDesk ref Lease.take world = .error fault after) :
    Refusal ref world fault after := by
  obtain ⟨desk, acquire, rfl⟩ := acquire_of_take_error taken
  have acquired := Pool.acquire_acquired (world.client.pool ref) world.board
  have none : (world.client.pool ref).live -
      UInt64.ofNat (world.client.pool ref).idle.length = 0 := by
    rw [tidy.live_eq ref, UInt64.sub_self]
  rw [← desk_eq, acquire] at acquired
  cases acquired with
  | destroyed gone =>
      have same : world.setDesk ref (world.client.pool ref, world.board) = world := by
        simp [setDesk]
      rw [same]
      exact .destroyed gone
  | full running shut full =>
      have room := tidy.capable ref running
      rw [none] at full
      exact absurd room (UInt64.not_lt.mpr full)
  | failed outcome address reason board running shut room dialed unmade =>
      rw [none]
      exact .failed outcome address reason board running shut dialed unmade

theorem Refusal.tidy {world after : World} {ref : Client.PoolRef} {fault : Fault}
    (refusal : Refusal ref world fault after) (tidy : Tidy world) : Tidy after := by
  cases refusal with
  | destroyed => exact tidy
  | failed outcome address reason board running shut dialed unmade =>
      have dial := Switchboard.Dialed.of_dial dialed
      refine tidy_setDesk tidy ⟨rfl, Nat.zero_le 1⟩ dial.length_le ?_ ?_ ?_ (tidy.capable ref)
        (fun _ => rfl) (Client.has_of_running running)
      · intro id isIdle
        cases isIdle
      · intro id isIdle
        cases isIdle
      · intro id isOpen
        have before : world.board.isOpen id = true :=
          (dial.isOpen_of_unmade (unmade id)).symm.trans isOpen
        refine .inr ⟨before, ?_⟩
        intro isIdle
        rw [shut id isIdle] at before
        cases before

/-- A good exchange ends with the link back in its pool, and a failed one with the link closed. -/
theorem Loan.served_eq {α : Type} {ref : Client.PoolRef} {id : LinkId} {world lent used : World}
    {exchange : Action (Link × FileTree) α} {value : α} (loan : Loan ref id world lent)
    (done : onLink id exchange lent = .ok value used) :
    ∃ link files, exchange (lent.board.link id, lent.files) = .ok value (link, files) ∧
      used.setDesk ref (Pool.release (some id) (used.desk ref)) =
        settle ref id link files lent := by
  obtain ⟨⟨link, files⟩, ran, rfl⟩ := Action.on_eq_ok done
  exact ⟨link, files, ran, loan.release_eq link files⟩

theorem Loan.failed_eq {α : Type} {ref : Client.PoolRef} {id : LinkId} {world lent used : World}
    {exchange : Action (Link × FileTree) α} {fault : Fault} (loan : Loan ref id world lent)
    (done : onLink id exchange lent = .error fault used) :
    ∃ link files, exchange (lent.board.link id, lent.files) = .error fault (link, files) ∧
      used.setDesk ref (Pool.discard (some id) (used.desk ref)) =
        settle ref id link.close files lent := by
  obtain ⟨⟨link, files⟩, ran, rfl⟩ := Action.on_eq_error done
  exact ⟨link, files, ran, loan.discard_eq link files⟩

def closing (world : World) : List LinkId :=
  Client.closing world.client.trackers ++ Client.closing world.client.storages

theorem destroy_eq (world : World) :
    world.destroy = { world with
      client := { world.client with
        trackers := world.client.trackers.map Pool.destroyed
        storages := world.client.storages.map Pool.destroyed }
      board := world.closing.foldl Switchboard.close world.board } := by
  simp only [destroy, Client.destroyPools_eq, closing, List.foldl_append]

theorem pool_destroy (world : World) (ref : Client.PoolRef) :
    world.destroy.client.pool ref = (world.client.pool ref).destroyed := by
  rw [destroy_eq]
  cases ref with
  | tracker index => exact List.getD_map world.client.trackers Client.noPool Pool.destroyed
  | storage index => exact List.getD_map world.client.storages Client.noPool Pool.destroyed

theorem mem_closing {world : World} {ref : Client.PoolRef}
    (running : (world.client.pool ref).isDestroyed = false) {id : LinkId}
    (isIdle : id ∈ (world.client.pool ref).idle) : id ∈ world.closing := by
  have has := Client.has_of_running running
  rw [closing, List.mem_append]
  cases ref with
  | tracker index =>
      refine .inl (Client.mem_closing ?_ running isIdle)
      rw [Client.pool, List.getD_eq_getElem _ _ has]
      exact List.getElem_mem has
  | storage index =>
      refine .inr (Client.mem_closing ?_ running isIdle)
      rw [Client.pool, List.getD_eq_getElem _ _ has]
      exact List.getElem_mem has

theorem idle_destroy {world : World} (tidy : Tidy world) (ref : Client.PoolRef) :
    (world.destroy.client.pool ref).idle = [] := by
  rw [pool_destroy, Pool.destroyed]
  split
  · exact tidy.emptied ref (by assumption)
  · rfl

theorem tidy_destroy {world : World} (tidy : Tidy world) : Tidy world.destroy := by
  have idle := idle_destroy tidy
  have live (ref : Client.PoolRef) : (world.destroy.client.pool ref).live = 0 := by
    rw [pool_destroy, Pool.destroyed]
    split
    · rename_i gone
      rw [tidy.live_eq, tidy.emptied ref gone]
      rfl
    · change (world.client.pool ref).live - UInt64.ofNat (world.client.pool ref).idle.length = 0
      rw [tidy.live_eq, UInt64.sub_self]
  have gone (ref : Client.PoolRef) : (world.destroy.client.pool ref).isDestroyed = true := by
    rw [pool_destroy, Pool.isDestroyed_destroyed]
  refine ⟨?_, ?_, ?_, ?_, ?_, fun ref _ => idle ref⟩
  · intro ref
    rw [idle, live]
    exact ⟨rfl, Nat.zero_le 1⟩
  · intro ref id isIdle
    rw [idle] at isIdle
    cases isIdle
  · intro ref other id isIdle
    rw [idle] at isIdle
    cases isIdle
  · intro id isOpen
    rw [destroy_eq, Switchboard.isOpen_foldl_close] at isOpen
    split at isOpen
    · cases isOpen
    · rename_i kept
      obtain ⟨ref, isIdle⟩ := tidy.shut id isOpen
      cases running : (world.client.pool ref).isDestroyed with
      | false => exact absurd (mem_closing running isIdle) kept
      | true =>
          rw [tidy.emptied ref running] at isIdle
          cases isIdle
  · intro ref running
    cases (gone ref).symm.trans running

/-- A new pool brings no link with it. -/
theorem mem_idle_of_addStorage {client : Client} {address : Bytes} {dialer : Option Dialer}
    {pool : Pool} (created : Pool.create address client.capacity dialer = .ok pool)
    {ref : Client.PoolRef} {id : LinkId}
    (isIdle : id ∈ ((client.addStorage pool).pool ref).idle) : id ∈ (client.pool ref).idle := by
  rw [Client.pool_addStorage] at isIdle
  split at isIdle
  · rw [(Pool.create_eq created).1] at isIdle
    cases isIdle
  · exact isIdle

theorem tidy_opened {world : World} (tidy : Tidy world) {address : Bytes} {pool : Pool}
    (created : Pool.create address world.client.capacity (some world.board.dialer) = .ok pool) :
    Tidy { world with client := world.client.addStorage pool } := by
  have idle {ref : Client.PoolRef} {id : LinkId} := @mem_idle_of_addStorage _ _ _ _ created ref id
  obtain ⟨rfl, positive⟩ := Pool.create_eq created
  refine ⟨?_, ?_, ?_, ?_, ?_, ?_⟩
  · intro ref
    rw [Client.pool_addStorage]
    split
    · exact ⟨rfl, Nat.zero_le 1⟩
    · exact tidy.settled ref
  · intro ref id isIdle
    exact tidy.numbered ref id (idle isIdle)
  · intro ref other id isIn isInOther
    exact tidy.apart ref other id (idle isIn) (idle isInOther)
  · intro id isOpen
    obtain ⟨ref, isIdle⟩ := tidy.shut id isOpen
    refine ⟨ref, ?_⟩
    rw [Client.pool_addStorage, if_neg]
    · exact isIdle
    · rintro rfl
      simp [Client.pool, Client.noPool] at isIdle
  · intro ref
    rw [Client.pool_addStorage]
    split
    · intro _
      exact UInt64.pos_iff_ne_zero.mpr positive
    · exact tidy.capable ref
  · intro ref
    rw [Client.pool_addStorage]
    split
    · intro _
      rfl
    · exact tidy.emptied ref

theorem tidy_step {permitted : Permission} {trials : List Trial} {world after : World}
    (step : Step permitted trials world after) (tidy : Tidy world) : Tidy after := by
  cases step with
  | counted =>
      exact ⟨tidy.settled, tidy.numbered, tidy.apart, tidy.shut, tidy.capable, tidy.emptied⟩
  | surrounded =>
      exact ⟨tidy.settled, tidy.numbered, tidy.apart, tidy.shut, tidy.capable, tidy.emptied⟩
  | opened _ address pool absent created => exact tidy_opened tidy created
  | refused ref fault taken => exact (tidy.refusal taken).tidy tidy
  | served ref id exchange value taken allowed done =>
      obtain ⟨link, files, -, same⟩ := (tidy.loan taken).served_eq done
      rw [same]
      exact (tidy.loan taken).tidy_settle tidy link files
  | failed ref id exchange fault taken allowed done =>
      obtain ⟨link, files, -, same⟩ := (tidy.loan taken).failed_eq done
      rw [same]
      exact (tidy.loan taken).tidy_settle tidy link.close files
  | destroyed => exact tidy_destroy tidy
  | dropped =>
      refine ⟨tidy.settled, ?_, tidy.apart, ?_, tidy.capable, tidy.emptied⟩
      · intro ref other isIdle
        rw [Switchboard.length_close]
        exact tidy.numbered ref other isIdle
      · intro other isOpen
        rw [Switchboard.isOpen_close] at isOpen
        split at isOpen
        · cases isOpen
        · exact tidy.shut other isOpen

theorem client_of_create {settings : Settings} {dialer : Dialer} {accessor : Option Accessor}
    {files : FileTree} {start : World}
    (created : create settings dialer accessor files = .ok start) :
    Client.create settings (some dialer) accessor = .ok start.client ∧
      start.board = .ofDialer dialer := by
  unfold create at created
  cases made : Client.create settings (some dialer) accessor with
  | error fault =>
      rw [made] at created
      cases created
  | ok client =>
      rw [made] at created
      cases created
      exact ⟨rfl, rfl⟩

/-- A new client has new pools only, and no link. -/
theorem create_eq {settings : Settings} {dialer : Dialer} {accessor : Option Accessor}
    {files : FileTree} {start : World}
    (created : create settings dialer accessor files = .ok start) :
    start.board = .ofDialer dialer ∧ ∀ ref,
      (¬ start.client.Has ref ∧ start.client.pool ref = Client.noPool) ∨
        ∃ address, Pool.create address start.client.capacity (some dialer) =
          .ok (start.client.pool ref) := by
  obtain ⟨made, board⟩ := client_of_create created
  obtain ⟨none, new⟩ := Client.create_eq made
  refine ⟨board, ?_⟩
  intro ref
  cases ref with
  | tracker index =>
      rcases Nat.lt_or_ge index start.client.trackers.length with isThere | outside
      · right
        refine new _ ?_
        rw [Client.pool, List.getD_eq_getElem _ _ isThere]
        exact List.getElem_mem isThere
      · exact .inl ⟨Nat.not_lt.mpr outside, List.getD_eq_default _ _ outside⟩
  | storage index =>
      left
      simp [Client.Has, Client.pool, none]

theorem tidy_create {settings : Settings} {dialer : Dialer} {accessor : Option Accessor}
    {files : FileTree} {start : World}
    (created : create settings dialer accessor files = .ok start) : Tidy start := by
  obtain ⟨blank, pools⟩ := create_eq created
  have idle (ref : Client.PoolRef) : (start.client.pool ref).idle = [] := by
    rcases pools ref with ⟨-, none⟩ | ⟨address, new⟩
    · rw [none]
      rfl
    · rw [(Pool.create_eq new).1]
  have live (ref : Client.PoolRef) : (start.client.pool ref).live = 0 := by
    rcases pools ref with ⟨-, none⟩ | ⟨address, new⟩
    · rw [none]
      rfl
    · rw [(Pool.create_eq new).1]
  refine ⟨?_, ?_, ?_, ?_, ?_, fun ref _ => idle ref⟩
  · intro ref
    rw [idle, live]
    exact ⟨rfl, Nat.zero_le 1⟩
  · intro ref id isIdle
    rw [idle] at isIdle
    cases isIdle
  · intro ref other id isIdle
    rw [idle] at isIdle
    cases isIdle
  · intro id isOpen
    rw [blank] at isOpen
    cases isOpen
  · intro ref running
    rcases pools ref with ⟨-, none⟩ | ⟨address, new⟩
    · rw [none] at running
      cases running
    · obtain ⟨same, positive⟩ := Pool.create_eq new
      rw [same]
      exact UInt64.pos_iff_ne_zero.mpr positive

end World

end TrackedStorage
