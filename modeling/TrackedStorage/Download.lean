import TrackedStorage.LocalFile

set_option autoImplicit false

namespace TrackedStorage

inductive Sink where
  /-- Takes as many bytes as it has room for, or any number when there is no limit. -/
  | stream (room : Option Nat) (delivered : Bytes)
  /-- Takes nothing, but refuses only when it has to pass on what it holds. -/
  | full (held : Nat)
  deriving DecidableEq

namespace Sink

/-- A write of fewer bytes than this is held back until the sink is closed. -/
def holdLimit : Nat := 1024

def delivered : Sink → Bytes
  | stream _ bytes => bytes
  | full _ => []

/-- Takes what fits, and fails unless that is all. -/
def write (data : Bytes) : Action Sink Unit
  | stream none bytes => .ok () (stream none (bytes ++ data))
  | stream (some room) bytes =>
      let sink := stream (some (room - data.length)) (bytes ++ data.take room)
      if data.length ≤ room then .ok () sink else .error (.transfer .sinkRefused) sink
  | full held =>
      if data.length < holdLimit then .ok () (full (held + data.length))
      else .error (.transfer .sinkRefused) (full held)

def canClose : Sink → Bool
  | stream _ _ => true
  | full held => held == 0

end Sink

/-- A part of a stored file: `count` bytes from `offset` on, or all of them when it is zero. -/
structure Download where
  id : FileId
  offset : UInt64
  count : UInt64
  deriving DecidableEq

namespace Download

def length (download : Download) : UInt64 :=
  UInt64.ofNat (FileId.groupWidth + download.id.filename.length + 2 * BigEndian.width)

def body (download : Download) : Bytes :=
  Field.padded download.id.group FileId.groupWidth ++ download.id.filename ++
    Field.encodeAll [.number download.offset, .number download.count]

def send (download : Download) : Action Link Unit := do
  Header.send download.length Command.download
  Link.write download.body

/-- Reads the header of the answer, and gives the length of the body that follows. A node must not
send more than it was asked for. -/
def receiveLength (download : Download) : Action Link UInt64 := do
  let header ← Header.receive
  if 0 < download.count ∧ download.count < header.length then
    throw (.frame (.downloadLength header.length))
  else pure header.length

def request (download : Download) : Action Link UInt64 := do
  download.send
  download.receiveLength

/-- Moves the next `remaining` bytes from the link to the sink, chunk by chunk. -/
def receiveBody (remaining : Nat) : Action (Link × Sink) Unit :=
  if remaining = 0 then pure ()
  else do
    let count := min chunkSize remaining
    let data ← Action.onFirst (Link.read count)
    Action.onSecond (Sink.write data)
    receiveBody (remaining - count)
termination_by remaining
decreasing_by
  simp only [chunkSize]
  omega

/-- The whole exchange into a stream. Gives the number of bytes. -/
def toStream (download : Download) : Action (Link × Sink) UInt64 := do
  let length ← Action.onFirst download.request
  receiveBody length.toNat
  pure length

def sinkOf : Outlet → Sink
  | .file _ => .stream none []
  | .fullDevice => .full 0

/-- The tree once a sink has been emptied into the file that it stands for. -/
def settle (outlet : Outlet) (sink : Sink) (tree : FileTree) : FileTree :=
  match outlet with
  | .file location => tree.put location (.file sink.delivered)
  | .fullDevice => tree

/-- The whole exchange into a local file, which is created or emptied once the node has accepted
the request, and keeps whatever was written. -/
def toFile (download : Download) (path : Bytes) : Action (Link × FileTree) UInt64 :=
  fun (link, tree) =>
    match download.request link with
    | .error fault link => .error fault (link, tree)
    | .ok length link =>
        match tree.create? path with
        | none => .error (.transfer (.uncreatable path)) (link, tree)
        | some (outlet, tree) =>
            match receiveBody length.toNat (link, sinkOf outlet) with
            | .error fault (link, sink) => .error fault (link, settle outlet sink tree)
            | .ok () (link, sink) =>
                let tree := settle outlet sink tree
                if sink.canClose then .ok length (link, tree)
                else .error (.transfer (.unclosable path)) (link, tree)

section
variable {remaining : Nat} {link middle : Link} {sink kept : Sink} {data : Bytes} {fault : Fault}

/-- A chunk that does not come ends the transfer. -/
theorem receiveBody_of_unread (more : remaining ≠ 0)
    (failed : Link.read (min chunkSize remaining) link = .error fault middle) :
    receiveBody remaining (link, sink) = .error fault (middle, sink) := by
  rw [receiveBody, if_neg more]
  simp only [bind, EStateM.bind, Action.onFirst, Action.on, failed]

/-- So does a chunk that the sink refuses. -/
theorem receiveBody_of_refused (more : remaining ≠ 0)
    (taken : Link.read (min chunkSize remaining) link = .ok data middle)
    (refused : Sink.write data sink = .error fault kept) :
    receiveBody remaining (link, sink) = .error fault (middle, kept) := by
  rw [receiveBody, if_neg more]
  simp only [bind, EStateM.bind, Action.onFirst, Action.onSecond, Action.on, taken, refused]

theorem receiveBody_of_stored (more : remaining ≠ 0)
    (taken : Link.read (min chunkSize remaining) link = .ok data middle)
    (stored : Sink.write data sink = .ok () kept) :
    receiveBody remaining (link, sink) =
      receiveBody (remaining - min chunkSize remaining) (middle, kept) := by
  rw [receiveBody, if_neg more]
  simp only [bind, EStateM.bind, Action.onFirst, Action.onSecond, Action.on, taken, stored]

end

end Download

end TrackedStorage
