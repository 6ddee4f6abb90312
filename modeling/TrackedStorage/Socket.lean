import TrackedStorage.Dialing

set_option autoImplicit false

namespace TrackedStorage

/-- A client's end of a connection, and the peers it meets. -/
structure Socket where
  address : Bytes
  endpoint : Endpoint
  timeouts : Timeouts
  network : Network
  /-- The links to all peers that were looked up, in order. -/
  links : List Link
  /-- The link in use. -/
  current : Option Nat
  deriving DecidableEq

namespace Socket

def create (address : Bytes) (timeouts : Timeouts) (network : Network) : Except Fault Socket := do
  let endpoint ← Endpoint.ofAddress address
  pure ⟨address, endpoint, timeouts, network, [], none⟩

/-- The link in use, or a closed one. -/
def link (socket : Socket) : Link :=
  let unused := Peer.unknown.link socket.address socket.endpoint.address socket.timeouts
  match socket.current with
  | some index => socket.links.getD index unused
  | none => unused

def isOpen (socket : Socket) : Bool := socket.link.isOpen

def setLink (socket : Socket) (link : Link) : Socket :=
  match socket.current with
  | some index => { socket with links := socket.links.set index link }
  | none => socket

def close (socket : Socket) : Socket := socket.setLink socket.link.close

/-- Connects to the next peer of the address. A link in use is given up as soon as the peer is
found. -/
def connect : Action Socket Unit := fun socket =>
  let (peer, network) := socket.network.lookUp socket.endpoint
  let (connection, link) := peer.connect socket.address socket.endpoint.address socket.timeouts
  let socket := { socket with network := network }
  let socket :=
    if peer.resolveFault ≠ [] then { socket with links := socket.links ++ [link] }
    else
      { socket.close with
        links := socket.close.links ++ [link]
        current := some socket.links.length }
  match connection with
  | .made => .ok () socket
  | .failed reason => .error (.dial socket.address reason) socket
  | .endless => .error (.transfer (.endless socket.address)) socket

def onLink {α : Type} (action : Action Link α) : Action Socket α :=
  Action.on link (fun link socket => socket.setLink link) action

def write (data : Bytes) : Action Socket Unit := onLink (Link.write data)

def read (count : Nat) : Action Socket Bytes := onLink (Link.read count)

inductive Call where
  | connect
  | write (data : Bytes)
  | read (count : Nat)
  | close
  deriving DecidableEq

/-- What a call answers: the bytes it read, if it was to read. -/
def call : Call → Action Socket (Option Bytes)
  | .connect => do
      connect
      pure none
  | .write data => do
      write data
      pure none
  | .read count => do
      let data ← read count
      pure (some data)
  | .close => fun socket => .ok none socket.close

end Socket

end TrackedStorage
