import TrackedStorage.Endpoint
import TrackedStorage.Link

set_option autoImplicit false

namespace TrackedStorage

abbrev Queues (α : Type) := List (Bytes × List α)

def Queues.next? {α : Type} (queues : Queues α) (key : Bytes) : Option α × Queues α :=
  match queues.lookup key with
  | some (item :: rest) =>
      (some item, queues.map fun (other, items) => (other, if other = key then rest else items))
  | _ => (none, queues)

inductive Attempt where
  | completes
  | fails (reason : Bytes)
  /-- Nothing happens until the deadline. -/
  | hangs
  deriving DecidableEq

inductive Connection where
  | made
  | failed (reason : Bytes)
  /-- Nothing happens, and no deadline ends that. -/
  | endless
  deriving DecidableEq

/-- What waits at the other end of a socket. -/
structure Peer where
  /-- Why the host is not found, or empty if it is. -/
  resolveFault : Bytes
  attempt : Attempt
  response : Bytes
  atEnd : Stall
  room : Option Nat
  atLimit : Stall
  deriving DecidableEq

/-- The timeouts of attempts to connect and of transfers, in milliseconds. -/
structure Timeouts where
  connect : Nat
  transfer : Nat
  deriving DecidableEq

namespace Peer

/-- What is met where nobody listens. -/
def unknown : Peer where
  resolveFault := Bytes.ofText "Host not found (authoritative)"
  attempt := .completes
  response := []
  atEnd := .fails (Bytes.ofText "End of file")
  room := none
  atLimit := .fails (Bytes.ofText "Broken pipe")

def stall (peer : Peer) : Direction → Stall
  | .write => peer.atLimit
  | .read => peer.atEnd

def link (peer : Peer) (address endpoint : Bytes) (timeouts : Timeouts) : Link where
  address := address
  isOpen := false
  unread := peer.response
  taken := []
  written := []
  room := peer.room
  medium := .socket
    { endpoint := endpoint
      isConnected := false
      timeout := timeouts.transfer
      atEnd := peer.atEnd
      atLimit := peer.atLimit
      connectDeadline := none
      transferDeadline := none
      isStuck := false }

/-- The link after an attempt to connect within a deadline. -/
def attemptedLink (peer : Peer) (address endpoint : Bytes) (timeouts : Timeouts) : Link :=
  let link := peer.link address endpoint timeouts
  { link with
    isOpen := peer.attempt = .completes
    medium := match link.medium with
      | .memory => .memory
      | .socket wire => .socket { wire with
          isConnected := peer.attempt = .completes
          connectDeadline := some (.ofTimeout timeouts.connect) } }

def connect (peer : Peer) (address endpoint : Bytes) (timeouts : Timeouts) : Connection × Link :=
  if peer.resolveFault ≠ [] then (.failed peer.resolveFault, peer.link address endpoint timeouts)
  else
    let link := peer.attemptedLink address endpoint timeouts
    match peer.attempt, Deadline.ofTimeout timeouts.connect with
    | .completes, _ => (.made, link)
    | .fails reason, _ => (.failed reason, link)
    | .hangs, .after _ => (.failed (Bytes.ofText "connect timed out"), link)
    | .hangs, .never => (.endless, link.stick)

/-- The peer decides how transfers end that it does not complete. -/
theorem silence?_link (peer : Peer) (address endpoint : Bytes) (timeouts : Timeouts)
    (way : Direction) : (peer.link address endpoint timeouts).medium.silence? way =
      if peer.stall way = .hangs then some timeouts.transfer else none := by
  cases way <;> rfl

theorem silence?_attemptedLink (peer : Peer) (address endpoint : Bytes) (timeouts : Timeouts)
    (way : Direction) : (peer.attemptedLink address endpoint timeouts).medium.silence? way =
      if peer.stall way = .hangs then some timeouts.transfer else none := by
  cases way <;> rfl

inductive Connects (peer : Peer) (address endpoint : Bytes) (timeouts : Timeouts) :
    Connection × Link → Prop
  | lost (lost : peer.resolveFault ≠ []) :
      Connects peer address endpoint timeouts
        (.failed peer.resolveFault, peer.link address endpoint timeouts)
  | made (found : peer.resolveFault = []) (completes : peer.attempt = .completes) :
      Connects peer address endpoint timeouts
        (.made, peer.attemptedLink address endpoint timeouts)
  | refused (reason : Bytes) (found : peer.resolveFault = []) (fails : peer.attempt ≠ .completes)
      (ends : peer.attempt = .hangs → timeouts.connect ≠ 0) :
      Connects peer address endpoint timeouts
        (.failed reason, peer.attemptedLink address endpoint timeouts)
  | endless (found : peer.resolveFault = []) (hangs : peer.attempt = .hangs)
      (untimed : timeouts.connect = 0) :
      Connects peer address endpoint timeouts
        (.endless, (peer.attemptedLink address endpoint timeouts).stick)

theorem connect_connects (peer : Peer) (address endpoint : Bytes) (timeouts : Timeouts) :
    Connects peer address endpoint timeouts (peer.connect address endpoint timeouts) := by
  unfold connect
  by_cases lost : peer.resolveFault ≠ []
  · rw [if_pos lost]
    exact .lost lost
  · have found : peer.resolveFault = [] := by simpa using lost
    rw [if_neg lost]
    cases attempt : peer.attempt with
    | completes => exact .made found attempt
    | fails reason => exact .refused reason found (by simp [attempt]) (by simp [attempt])
    | hangs =>
        by_cases untimed : timeouts.connect = 0
        · simp only [Deadline.ofTimeout, if_pos untimed]
          exact .endless found attempt untimed
        · simp only [Deadline.ofTimeout, if_neg untimed]
          exact .refused _ found (by simp [attempt]) fun _ => untimed

theorem isOpen_attemptedLink {peer : Peer} (fails : peer.attempt ≠ .completes)
    (address endpoint : Bytes) (timeouts : Timeouts) :
    (peer.attemptedLink address endpoint timeouts).isOpen = false :=
  decide_eq_false fails

/-- An attempt to connect moves no byte, and leaves a closed link unless it succeeds. -/
theorem Connects.leaves {peer : Peer} {address endpoint : Bytes} {timeouts : Timeouts}
    {connection : Connection} {link : Link}
    (connects : Connects peer address endpoint timeouts (connection, link)) :
    link.address = address ∧ link.written = [] ∧ link.taken = [] ∧
      (connection ≠ .made → link.isOpen = false) := by
  cases connects with
  | lost => exact ⟨rfl, rfl, rfl, fun _ => rfl⟩
  | made => exact ⟨rfl, rfl, rfl, fun unmade => absurd rfl unmade⟩
  | refused reason found fails =>
      exact ⟨rfl, rfl, rfl, fun _ => isOpen_attemptedLink fails address endpoint timeouts⟩
  | endless found hangs =>
      have fails : peer.attempt ≠ .completes := by simp [hangs]
      exact ⟨rfl, rfl, rfl, fun _ => isOpen_attemptedLink fails address endpoint timeouts⟩

end Peer

/-- The peers that are met at each `host:port`. -/
abbrev Network := Queues Peer

def Network.lookUp (network : Network) (endpoint : Endpoint) : Peer × Network :=
  match Queues.next? network endpoint.address with
  | (some peer, rest) => (peer, rest)
  | (none, rest) => (Peer.unknown, rest)

inductive DialOutcome where
  /-- A link in memory. -/
  | link (response : Bytes) (room : Option Nat) (isOpen : Bool)
  /-- No link, and no fault either. -/
  | nothing
  /-- A failed dial, to the dialed address unless another one is given. -/
  | refused (address : Option Bytes) (reason : Bytes)
  | raised (fault : Fault)
  deriving DecidableEq

/-- Outcomes by address, and those shared by all addresses without outcomes of their own. -/
structure DialScript where
  listed : Queues DialOutcome
  shared : List DialOutcome
  deriving DecidableEq

def DialScript.next? (script : DialScript) (address : Bytes) : Option DialOutcome × DialScript :=
  match script.listed.lookup address, script.shared with
  | some _, _ =>
      let (outcome, listed) := Queues.next? script.listed address
      (outcome, { script with listed := listed })
  | none, outcome :: rest => (some outcome, { script with shared := rest })
  | none, [] => (none, script)

inductive Dialer where
  | script (script : DialScript)
  | network (timeouts : Timeouts) (network : Network)
  deriving DecidableEq

end TrackedStorage
