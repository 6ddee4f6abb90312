import TrackedStorage.Program
import Std.Internal.UV.DNS
import Std.Internal.UV.TCP

set_option autoImplicit false

namespace TrackedStorage.CommandLine

open Std.Internal.UV (TCP.Socket)

/-- A peer that was looked up, as far as it is known. -/
structure Conversation where
  endpoint : Bytes
  peer : Peer
  socket : Option TCP.Socket
  /-- How many bytes were sent. -/
  sent : Nat
  /-- Nothing more comes from the peer. -/
  isOver : Bool

/-- All that is known to a run. -/
structure Knowledge where
  arguments : List Bytes
  input : Bytes
  files : FileTree
  conversations : Array Conversation

def addPeer (network : Network) (conversation : Conversation) : Network :=
  let key := conversation.endpoint
  (key, (network.lookup key).getD [] ++ [conversation.peer]) :: network.filter (·.1 != key)

/-- Where no deadline is set the waiting is done here, so no peer is known to be silent. -/
def Knowledge.run (known : Knowledge) : Program.Outcome :=
  Program.course .usual known.arguments known.input
    ⟨known.files, known.conversations.foldl addPeer [], []⟩

/-- Whether the run would read on if one peer sent one byte more. -/
def Knowledge.wantsMore (known : Knowledge) (index : Nat) (taken : Nat) : Bool :=
  let longer := known.conversations.modify index fun conversation =>
    { conversation with
      peer := { conversation.peer with response := conversation.peer.response ++ [0] } }
  match ({ known with conversations := longer }.run).scene.links[index]? with
  | some link => taken < link.taken.length
  | none => false

def toText (bytes : Bytes) : String :=
  (String.fromUTF8? (ByteArray.mk bytes.toArray)).getD ""

def ofError (error : IO.Error) : Bytes := Bytes.ofText (toString error)

def waitFor {α : Type} (task : Task α) : Nat → IO (Option α)
  | 0 => do if ← IO.hasFinished task then return some (← IO.wait task) else return none
  | milliseconds + 1 => do
      if ← IO.hasFinished task then return some (← IO.wait task)
      else
        IO.sleep 1
        waitFor task milliseconds

def within {α : Type} (deadline : Deadline) (promise : IO.Promise (Except IO.Error α)) :
    IO (Option (Except IO.Error α)) := do
  let kept := promise.result?.map fun result =>
    result.getD (.error (IO.userError "Operation canceled"))
  match deadline with
  | .never => return some (← IO.wait kept)
  | .after milliseconds => waitFor kept milliseconds

def portOf (endpoint : Bytes) : UInt16 :=
  match Endpoint.ofAddress endpoint with
  | .ok endpoint => endpoint.port
  | .error _ => 0

def socketAddress (host : Std.Net.IPAddr) (port : UInt16) : Std.Net.SocketAddress :=
  match host with
  | .v4 host => .v4 ⟨host, port⟩
  | .v6 host => .v6 ⟨host, port⟩

def connectAny (deadline : Deadline) (port : UInt16) (conversation : Conversation) :
    List Std.Net.IPAddr → IO Conversation
  | [] => pure conversation
  | host :: rest => do
      let socket ← TCP.Socket.new
      let promise ← socket.connect (socketAddress host port)
      match ← within deadline promise with
      | none =>
          pure { conversation with peer := { conversation.peer with attempt := .hangs } }
      | some (.error error) =>
          connectAny deadline port
            { conversation with
              peer := { conversation.peer with attempt := .fails (ofError error) } } rest
      | some (.ok ()) => do
          socket.noDelay
          pure { conversation with
            peer := { conversation.peer with attempt := .completes }
            socket := some socket
            isOver := false }

/-- Looks up the endpoint of a link and connects to it. -/
def converse (link : Link) (timeout : Nat) : IO Conversation := do
  let endpoint := link.endpoint
  let peer := { Peer.unknown with resolveFault := [] }
  let fresh : Conversation := ⟨endpoint, peer, none, 0, true⟩
  let host := match endpoint.splitLast Endpoint.colon with
    | some (host, _) => toText host
    | none => ""
  let promise ← Std.Internal.UV.DNS.getAddrInfo host "" 0
  match ← within .never promise with
  | some (.ok hosts) =>
      connectAny (.ofTimeout timeout) (portOf endpoint) fresh hosts.toList
  | some (.error error) =>
      pure { fresh with peer := { peer with resolveFault := ofError error } }
  | none => pure { fresh with peer := Peer.unknown }

def transferTimeout (link : Link) : Nat :=
  match link.medium with
  | .memory => 0
  | .socket wire => wire.timeout

def send (link : Link) (conversation : Conversation) : IO Conversation := do
  let data := link.written.drop conversation.sent
  match conversation.socket with
  | none => pure conversation
  | some socket =>
      if data = [] then pure conversation
      else do
        let promise ← socket.send #[ByteArray.mk data.toArray]
        let stop := fun (stall : Stall) =>
          { conversation with
            isOver := true
            peer := { conversation.peer with room := some conversation.sent, atLimit := stall } }
        match ← within (.ofTimeout (transferTimeout link)) promise with
        | some (.ok ()) => pure { conversation with sent := link.written.length }
        | some (.error error) => pure (stop (.fails (ofError error)))
        | none => pure (stop .hangs)

/-- Fetches what a peer sends next. -/
def receive (link : Link) (conversation : Conversation) : IO Conversation := do
  match conversation.socket with
  | none => pure { conversation with isOver := true }
  | some socket => do
      let stop := fun (stall : Stall) =>
        { conversation with isOver := true, peer := { conversation.peer with atEnd := stall } }
      let promise ← socket.recv? 65536
      match ← within (.ofTimeout (transferTimeout link)) promise with
      | some (.ok (some data)) =>
          pure { conversation with
            peer := { conversation.peer with
              response := conversation.peer.response ++ data.data.toList } }
      | some (.ok none) => pure (stop Peer.unknown.atEnd)
      | some (.error error) => pure (stop (.fails (ofError error)))
      | none => pure (stop .hangs)

def connectTimeout (known : Knowledge) : Nat :=
  match Program.Options.ofArguments known.arguments with
  | .error _ => 0
  | .ok options =>
      match Settings.load known.files options.settingsPath with
      | .error _ => 0
      | .ok settings => (Program.timeouts settings).connect

/-- Sends over every link, and fetches more for the first one on which the run waits. Tells whether
anything new became known. -/
def exchange (known : Knowledge) (links : List Link) : IO (Bool × Knowledge) := do
  let mut known := known
  for (link, index) in links.zipIdx do
    if let some conversation := known.conversations[index]? then
      let conversation ← send link conversation
      known := { known with conversations := known.conversations.set! index conversation }
      if conversation.sent < link.written.length && conversation.isOver &&
          conversation.peer.room.isSome then
        return (true, known)
      if !conversation.isOver && known.wantsMore index link.taken.length then
        let conversation ← receive link conversation
        return (true, { known with
          conversations := known.conversations.set! index conversation })
  return (false, known)

/-- Runs until nothing more is to be fetched. -/
partial def settle (known : Knowledge) : IO (Program.Outcome × Knowledge) := do
  let outcome := known.run
  match outcome.scene.links[known.conversations.size]? with
  | some link => do
      let conversation ← converse link (connectTimeout known)
      settle { known with conversations := known.conversations.push conversation }
  | none => do
      let (isNew, known) ← exchange known outcome.scene.links
      if isNew then settle known else pure (outcome, known)

def load (files : FileTree) (path : Bytes) : IO FileTree := do
  let place := (← IO.currentDir) / toText path
  if path = [] then pure files
  else if ← place.isDir then pure (files.makeFolder path)
  else
    let files ← match path.splitLast FileId.slash with
      | some (front, _) =>
          if ← ((← IO.currentDir) / toText front).isDir then pure (files.makeFolder front)
          else pure files
      | none => pure files
    if ← place.pathExists then pure (files.writeFile path (← IO.FS.readBinFile place).data.toList)
    else pure files

/-- Stores the files that a run changed. -/
def save (before after : FileTree) : IO Unit := do
  for (location, entry) in after.entries do
    match entry with
    | .file content =>
        if before.lookup location != some entry then
          IO.FS.writeBinFile ("/" ++ "/".intercalate (location.map toText))
            (ByteArray.mk content.toArray)
    | _ => pure ()

def put (stream : IO.FS.Stream) (bytes : Bytes) : IO Unit := do
  stream.write (ByteArray.mk bytes.toArray)
  stream.flush

/-- Runs the commands of the input line by line, until it ends or a line is not answered. -/
partial def serve (known : Knowledge) (shown : Nat) : IO Program.Outcome := do
  let (outcome, known) ← settle known
  put (← IO.getStdout) (outcome.output.drop shown)
  save known.files outcome.scene.files
  let isAnswered := shown < outcome.output.length
  let line ← if isAnswered && outcome.errors = [] then (← IO.getStdin).getLine else pure ""
  if line.isEmpty then pure outcome
  else
    let text := Bytes.ofText line
    let files ← (Bytes.words text).foldlM load known.files
    serve { known with input := known.input ++ text, files := files } outcome.output.length

end TrackedStorage.CommandLine

open TrackedStorage in
/-- Runs the program on its command line. -/
def main (arguments : List String) : IO UInt32 := do
  let arguments := arguments.map Bytes.ofText
  let start := (Bytes.split (· == FileId.slash) (Bytes.ofText (toString (← IO.currentDir)))).filter
    (· != [])
  let tree := { FileTree.blank with start := [] }.makeFolders [] start
  let files ← arguments.foldlM CommandLine.load { tree with start := start }
  let known : CommandLine.Knowledge := ⟨arguments, [], files, #[]⟩
  let isShell := match Program.Options.ofArguments arguments with
    | .ok options => options.command.isEmpty
    | .error _ => false
  let outcome ← if isShell then CommandLine.serve known 0
    else do
      let (outcome, known) ← CommandLine.settle known
      CommandLine.put (← IO.getStdout) outcome.output
      CommandLine.save known.files outcome.scene.files
      pure outcome
  CommandLine.put (← IO.getStderr) outcome.errors
  return outcome.exitCode.toUInt32
