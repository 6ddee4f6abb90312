import TrackedStorage.Endpoint
import TrackedStorage.Field
import TrackedStorage.FileId
import TrackedStorage.Header

set_option autoImplicit false

namespace TrackedStorage

structure StorageNode where
  group : Bytes
  endpoint : Endpoint
  /-- The path of the node that a new file is to go to. -/
  pathIndex : UInt8
  deriving DecidableEq

namespace StorageNode

/-- The address under which a node is dialed and its pool is kept. -/
def address (node : StorageNode) : Bytes := node.endpoint.address

def ipWidth : Nat := 15

/-- The length of the answer to a fetch query: group, network address and port. -/
def fetchLength : UInt64 := 39

/-- The length of the answer to a store query, which ends in a path index. -/
def storeLength : UInt64 := 40

/-- Reads the body of an answer. A path index that is missing counts as zero. -/
def ofBody (body : Bytes) : Except Fault StorageNode :=
  let group := Field.unpadded body FileId.groupWidth
  let body := body.drop FileId.groupWidth
  let ip := Field.unpadded body ipWidth
  let body := body.drop ipWidth
  let port := BigEndian.decode body
  let body := body.drop BigEndian.width
  if ip = [] ∨ port = 0 ∨ 65535 < port then .error (.frame .invalidEndpoint)
  else .ok ⟨group, ⟨ip, port.toUInt16⟩, body.headD 0⟩

end StorageNode

/-- A query for a new file, or for the stored file that is its target. -/
structure Query where
  command : UInt8
  target : Option FileId
  deriving DecidableEq

namespace Query

def store : Query := ⟨Command.queryStore, none⟩

def fetch (id : FileId) : Query := ⟨Command.queryFetch, some id⟩

/-- The declared length of the request: the filename runs to its end. -/
def length (query : Query) : UInt64 :=
  match query.target with
  | none => 0
  | some id => UInt64.ofNat (FileId.groupWidth + id.filename.length)

/-- Sends the request. A query with a target has a body. -/
def send (query : Query) : Action Link Unit := do
  Header.send query.length query.command
  match query.target with
  | none => pure ()
  | some id => Link.write (Field.padded id.group FileId.groupWidth ++ id.filename)

/-- Reads the answer, whose length tells whether it ends in a path index. -/
def receive : Action Link StorageNode := do
  let header ← Header.receive
  if header.length = StorageNode.fetchLength ∨ header.length = StorageNode.storeLength then
    let body ← Link.read header.length.toNat
    Action.ofExcept (StorageNode.ofBody body)
  else throw (.frame (.queryLength header.length))

def ask (query : Query) : Action Link StorageNode := do
  query.send
  receive

/-- Reads the body of an answer, if it has one of the lengths that there are. -/
def receiveBody (length : UInt64) : Action Link Bytes :=
  if length = StorageNode.fetchLength ∨ length = StorageNode.storeLength then
    Link.read length.toNat
  else throw (.frame (.queryLength length))

inductive Phase where
  | created
  | headerSent
  | headerReceived
  | bodyReceived
  | done
  | failed
  deriving DecidableEq

end Query

/-- A query together with how it went. -/
structure Inquiry where
  query : Query
  phase : Query.Phase
  deriving DecidableEq

namespace Inquiry

/-- Takes one step over the link, which brings the inquiry to a phase if it succeeds. -/
def advance {α : Type} (phase : Query.Phase) (step : Action Link α) : Action (Inquiry × Link) α :=
  do
    let value ← Action.onSecond step
    modify fun (inquiry, link) => ({ inquiry with phase := phase }, link)
    pure value

/-- The steps of an inquiry, from the request to the node. -/
def steps (query : Query) : Action (Inquiry × Link) StorageNode := do
  advance .headerSent query.send
  let header ← advance .headerReceived Header.receive
  let body ← advance .bodyReceived (Query.receiveBody header.length)
  Action.ofExcept (StorageNode.ofBody body)

/-- Asks the query, whatever became of it before. -/
def run : Action (Inquiry × Link) StorageNode := fun (inquiry, link) =>
  match steps inquiry.query (inquiry, link) with
  | .ok node (inquiry, link) => .ok node ({ inquiry with phase := .done }, link)
  | .error fault (inquiry, link) => .error fault ({ inquiry with phase := .failed }, link)

section
variable {α : Type} {inquiry : Inquiry} {phase : Query.Phase} {link last : Link}

theorem advance_of_ok {step : Action Link α} {value : α} (done : step link = .ok value last) :
    advance phase step (inquiry, link) = .ok value ({ inquiry with phase := phase }, last) := by
  have first : Action.onSecond step (inquiry, link) = .ok value (inquiry, last) := by
    simp only [Action.onSecond, Action.on, done]
  rw [advance, Action.bind_of_ok first]
  rfl

theorem advance_of_error {step : Action Link α} {fault : Fault}
    (failed : step link = .error fault last) :
    advance phase step (inquiry, link) = .error fault (inquiry, last) := by
  have first : Action.onSecond step (inquiry, link) = .error fault (inquiry, last) := by
    simp only [Action.onSecond, Action.on, failed]
  rw [advance, Action.bind_of_error first]

/-- The steps of an inquiry are those of the exchange, with phases noted on the way. -/
theorem steps_eq_ask (inquiry : Inquiry) (link : Link) :
    ∃ phase, steps inquiry.query (inquiry, link) =
      match inquiry.query.ask link with
      | .ok node last => .ok node (⟨inquiry.query, phase⟩, last)
      | .error fault last => .error fault (⟨inquiry.query, phase⟩, last) := by
  unfold steps Query.ask
  cases sent : inquiry.query.send link with
  | error fault last =>
      rw [Action.bind_of_error (advance_of_error sent), Action.bind_of_error sent]
      exact ⟨inquiry.phase, rfl⟩
  | ok value told =>
      rw [Action.bind_of_ok (advance_of_ok sent), Action.bind_of_ok sent, Query.receive]
      cases headed : Header.receive told with
      | error fault last =>
          rw [Action.bind_of_error (advance_of_error headed), Action.bind_of_error headed]
          exact ⟨.headerSent, rfl⟩
      | ok header begun =>
          rw [Action.bind_of_ok (advance_of_ok headed), Action.bind_of_ok headed]
          by_cases fit : header.length = StorageNode.fetchLength ∨
              header.length = StorageNode.storeLength
          · rw [Query.receiveBody, if_pos fit, if_pos fit]
            cases read : Link.read header.length.toNat begun with
            | error fault last =>
                rw [Action.bind_of_error (advance_of_error read), Action.bind_of_error read]
                exact ⟨.headerReceived, rfl⟩
            | ok body last =>
                rw [Action.bind_of_ok (advance_of_ok read), Action.bind_of_ok read]
                refine ⟨.bodyReceived, ?_⟩
                cases StorageNode.ofBody body <;> rfl
          · rw [Query.receiveBody, if_neg fit, if_neg fit]
            exact ⟨.headerReceived, rfl⟩

theorem run_of_ok {node : StorageNode} (asked : inquiry.query.ask link = .ok node last) :
    run (inquiry, link) = .ok node ({ inquiry with phase := .done }, last) := by
  obtain ⟨phase, same⟩ := inquiry.steps_eq_ask link
  rw [asked] at same
  simp only [run, same]

theorem run_of_error {fault : Fault} (asked : inquiry.query.ask link = .error fault last) :
    run (inquiry, link) = .error fault ({ inquiry with phase := .failed }, last) := by
  obtain ⟨phase, same⟩ := inquiry.steps_eq_ask link
  rw [asked] at same
  simp only [run, same]

end

end Inquiry

end TrackedStorage
