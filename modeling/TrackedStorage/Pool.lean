import TrackedStorage.Switchboard

set_option autoImplicit false

namespace TrackedStorage

/-- The links to one address, but for those that are lent. -/
structure Pool where
  address : Bytes
  /-- How many links may be lent or idle at a time. -/
  capacity : UInt64
  /-- The links that wait to be lent, the one that came back last first. -/
  idle : List LinkId
  /-- The count of links that are lent or idle. It wraps when links come back that were never
  lent. -/
  live : UInt64
  isDestroyed : Bool
  deriving DecidableEq

/-- A pool together with the links it works on. -/
abbrev Desk := Pool × Switchboard

namespace Pool

/-- A pool that has no link yet. An address that no dial could use is refused at once. -/
def create (address : Bytes) (capacity : UInt64) (dialer : Option Dialer) : Except Fault Pool :=
  if capacity = 0 then .error (.setting .zeroCapacity)
  else if dialer.isNone then .error (.setting .noDialer)
  else match Endpoint.ofAddress address with
    | .error fault => .error fault
    | .ok _ => .ok ⟨address, capacity, [], 0, false⟩

/-- The fault that the pool reports when its dialer raises one. -/
def dialFault (pool : Pool) : Fault → Fault
  | .dial address reason => .dial address reason
  | fault => .dial pool.address fault.shown

/-- Makes a new link, unless that would exceed the capacity. -/
def grow : Action Desk LinkId := fun (pool, board) =>
  if pool.capacity ≤ pool.live then .error (.exhausted pool.address) (pool, board)
  else
    let (outcome, board) := board.dial pool.address
    match outcome with
    | .ok (some id) => .ok id ({ pool with live := pool.live + 1 }, board)
    | .ok none =>
        .error (.dial pool.address (Bytes.ofText "dialer returned no connection")) (pool, board)
    | .error fault => .error (pool.dialFault fault) (pool, board)

/-- Lends the open idle link that came back last, or else a new one. Idle links that are found
closed are dropped. -/
def acquire : Action Desk LinkId := fun (pool, board) =>
  if pool.isDestroyed then .error (.exhausted pool.address) (pool, board)
  else
    let closed := pool.idle.takeWhile (fun id => !board.isOpen id)
    let live := pool.live - UInt64.ofNat closed.length
    match pool.idle.dropWhile (fun id => !board.isOpen id) with
    | id :: rest => .ok id ({ pool with idle := rest, live := live }, board)
    | [] => grow ({ pool with idle := [], live := live }, board)

/-- Takes back a link that is fit for further use. It is kept if it is open and the pool is not
destroyed. -/
def release (returned : Option LinkId) : Desk → Desk := fun (pool, board) =>
  match returned with
  | none => (pool, board)
  | some id =>
      if pool.isDestroyed || !board.isOpen id then
        ({ pool with live := pool.live - 1 }, board.close id)
      else ({ pool with idle := id :: pool.idle }, board)

/-- Takes back a link that is not to be used again, and closes it. -/
def discard (returned : Option LinkId) : Desk → Desk := fun (pool, board) =>
  match returned with
  | none => (pool, board)
  | some id => ({ pool with live := pool.live - 1 }, board.close id)

/-- Closes all idle links and stops lending. A second time changes nothing. -/
def destroy : Desk → Desk := fun (pool, board) =>
  if pool.isDestroyed then (pool, board)
  else
    ({ pool with
        idle := []
        live := pool.live - UInt64.ofNat pool.idle.length
        isDestroyed := true },
      pool.idle.foldl Switchboard.close board)

end Pool

end TrackedStorage
