import TrackedStorage.Lease
import TrackedStorage.LocalFile
import TrackedStorage.Settings

set_option autoImplicit false

namespace TrackedStorage

/-- What a client keeps from one operation to the next. -/
structure Client where
  /-- The pools of the trackers, in ascending order of their addresses. -/
  trackers : List Pool
  /-- The pools of storage nodes, in the order of their creation. -/
  storages : List Pool
  /-- The capacity of every pool. -/
  capacity : UInt64
  accessor : Accessor
  deriving DecidableEq

namespace Client

/-- Puts a pool in front of the first one whose address is not smaller. -/
def insertByAddress (pool : Pool) : List Pool → List Pool
  | [] => [pool]
  | first :: rest =>
      if first.address < pool.address then first :: insertByAddress pool rest
      else pool :: first :: rest

/-- Adds a pool for a tracker, unless it has one. -/
def addTracker (capacity : UInt64) (dialer : Option Dialer) (pools : List Pool) (address : Bytes) :
    Except Fault (List Pool) :=
  if pools.any (·.address == address) then .ok pools
  else match Pool.create address capacity dialer with
    | .error fault => .error fault
    | .ok pool => .ok (insertByAddress pool pools)

/-- A client without a link. Its dialer is not called. -/
def create (settings : Settings) (dialer : Option Dialer) (accessor : Option Accessor) :
    Except Fault Client := do
  settings.validate
  match accessor with
  | none => throw (.setting .noAccessor)
  | some accessor =>
      let trackers ← settings.trackers.foldlM (addTracker settings.maxConnections dialer) []
      pure ⟨trackers, [], settings.maxConnections, accessor⟩

inductive PoolRef where
  | tracker (index : Nat)
  | storage (index : Nat)
  deriving DecidableEq

/-- A pool that lends nothing. It stands for a pool that there is not. -/
def noPool : Pool := ⟨[], 0, [], 0, true⟩

def pool (client : Client) : PoolRef → Pool
  | .tracker index => client.trackers.getD index noPool
  | .storage index => client.storages.getD index noPool

def setPool (client : Client) (ref : PoolRef) (pool : Pool) : Client :=
  match ref with
  | .tracker index => { client with trackers := client.trackers.set index pool }
  | .storage index => { client with storages := client.storages.set index pool }

def addStorage (client : Client) (pool : Pool) : Client :=
  { client with storages := client.storages ++ [pool] }

def destroyPools : List Pool → Switchboard → List Pool × Switchboard
  | [], board => ([], board)
  | pool :: rest, board =>
      let (pool, board) := Pool.destroy (pool, board)
      let (rest, board) := destroyPools rest board
      (pool :: rest, board)

def Has (client : Client) : PoolRef → Prop
  | .tracker index => index < client.trackers.length
  | .storage index => index < client.storages.length

theorem pool_setPool_self {client : Client} {ref : PoolRef} (has : client.Has ref)
    (pool : Pool) : (client.setPool ref pool).pool ref = pool := by
  cases ref with
  | tracker index => simp [Client.pool, setPool, show index < client.trackers.length from has]
  | storage index => simp [Client.pool, setPool, show index < client.storages.length from has]

theorem pool_setPool_of_ne (client : Client) {ref other : PoolRef} (differs : other ≠ ref)
    (pool : Pool) : (client.setPool ref pool).pool other = client.pool other := by
  cases ref <;> cases other <;> simp_all [Client.pool, setPool, eq_comm]

theorem pool_addStorage (client : Client) (pool : Pool) (ref : PoolRef) :
    (client.addStorage pool).pool ref =
      if ref = .storage client.storages.length then pool else client.pool ref := by
  cases ref with
  | tracker index => rfl
  | storage index =>
      rcases Nat.lt_trichotomy index client.storages.length with isThere | rfl | outside
      · simp [Client.pool, addStorage, List.getElem?_append_left isThere, Nat.ne_of_lt isThere]
      · simp [Client.pool, addStorage]
      · have absent : client.storages[index]? = none :=
          List.getElem?_eq_none (Nat.le_of_lt outside)
        have stillAbsent : (client.storages ++ [pool])[index]? = none := by
          apply List.getElem?_eq_none
          rw [List.length_append]
          exact outside
        simp [Client.pool, addStorage, absent, stillAbsent, Nat.ne_of_gt outside]

@[simp] theorem setPool_setPool (client : Client) (ref : PoolRef) (first second : Pool) :
    (client.setPool ref first).setPool ref second = client.setPool ref second := by
  cases ref <;> simp [setPool]

@[simp] theorem setPool_pool (client : Client) (ref : PoolRef) :
    client.setPool ref (client.pool ref) = client := by
  cases ref with
  | tracker index =>
      rcases Nat.lt_or_ge index client.trackers.length with isThere | outside
      · simp [setPool, Client.pool, isThere]
      · simp [setPool, List.set_eq_of_length_le outside]
  | storage index =>
      rcases Nat.lt_or_ge index client.storages.length with isThere | outside
      · simp [setPool, Client.pool, isThere]
      · simp [setPool, List.set_eq_of_length_le outside]

/-- A pool that there is not lends nothing. -/
theorem has_of_running {client : Client} {ref : PoolRef}
    (running : (client.pool ref).isDestroyed = false) : client.Has ref := by
  cases ref with
  | tracker index =>
      rcases Nat.lt_or_ge index client.trackers.length with isThere | outside
      · exact isThere
      · simp [Client.pool, outside, noPool] at running
  | storage index =>
      rcases Nat.lt_or_ge index client.storages.length with isThere | outside
      · exact isThere
      · simp [Client.pool, outside, noPool] at running

end Client

end TrackedStorage
