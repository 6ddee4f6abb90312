import TrackedStorage.Field
import TrackedStorage.FileId
import TrackedStorage.Header

set_option autoImplicit false

namespace TrackedStorage

/-- How many bytes of a file are moved at a time. -/
def chunkSize : Nat := 65536

/-- A local stream of bytes. Once it ended too early it gives nothing more. -/
structure Source where
  content : Bytes
  hasEnded : Bool
  deriving DecidableEq

namespace Source

def ofContent (content : Bytes) : Source := ⟨content, false⟩

/-- Reads `count` bytes. When fewer are left they are lost. -/
def read (count : Nat) : Action Source Bytes := fun source =>
  let data := source.content.take count
  if source.hasEnded then .error (.transfer .shortSource) source
  else if data.length = count then .ok data ⟨source.content.drop count, false⟩
  else .error (.transfer .shortSource) ⟨[], true⟩

end Source

/-- A file to be stored: where on the node, how many bytes, and which extension. -/
structure Upload where
  pathIndex : UInt8
  size : UInt64
  /-- The extension, at most `Upload.extensionWidth` bytes of it are sent. -/
  extension : Bytes
  deriving DecidableEq

namespace Upload

def extensionWidth : Nat := 6

/-- The longest name that a storage node may give to a file. -/
def filenameWidth : Nat := 128

/-- The length of what precedes the content: path index, size and extension. -/
def metaLength : Nat := 1 + BigEndian.width + extensionWidth

/-- The declared length of the request, modulo 2^64. -/
def length (upload : Upload) : UInt64 := UInt64.ofNat metaLength + upload.size

def metaBytes (upload : Upload) : Bytes :=
  upload.pathIndex :: Field.encodeAll [.number upload.size, .text upload.extension extensionWidth]

def sendHeader (upload : Upload) : Action Link Unit := do
  Header.send upload.length Command.upload
  Link.write upload.metaBytes

/-- Sends the next `remaining` bytes of the source, chunk by chunk. A chunk that the source does
not fill is not sent. -/
def sendContent (remaining : Nat) : Action (Link × Source) Unit :=
  if remaining = 0 then pure ()
  else do
    let count := min chunkSize remaining
    let data ← Action.onSecond (Source.read count)
    Action.onFirst (Link.write data)
    sendContent (remaining - count)
termination_by remaining
decreasing_by
  simp only [chunkSize]
  omega

/-- Reads the body of an answer: the group in its field, then the name up to the end. -/
def idOfBody (body : Bytes) : Except Fault FileId :=
  let group := Field.unpadded body FileId.groupWidth
  if group = [] then .error (.frame .emptyGroup)
  else .ok ⟨group, body.drop FileId.groupWidth⟩

/-- Reads the answer. Its body holds a group and a filename of at least one byte. -/
def receive : Action Link FileId := do
  let header ← Header.receive
  let length := header.length.toNat
  if FileId.groupWidth < length ∧ length ≤ FileId.groupWidth + filenameWidth then
    let body ← Link.read length
    Action.ofExcept (idOfBody body)
  else throw (.frame (.uploadLength header.length))

/-- The whole exchange: announces the file, sends `size` bytes of the source, and gives the
identifier that the node chose. -/
def run (upload : Upload) : Action (Link × Source) FileId := do
  Action.onFirst upload.sendHeader
  sendContent upload.size.toNat
  Action.onFirst receive

end Upload

end TrackedStorage
