import TrackedStorage.Proofs.Identifiers

set_option autoImplicit false

namespace TrackedStorage

inductive Request where
  /-- Where to store a new file. -/
  | store
  /-- Where a stored file is. -/
  | fetch (id : FileId)
  | upload (upload : Upload) (content : Bytes)
  | download (download : Download)
  deriving DecidableEq

namespace Request

/-- What a frame asks for, which its command tells. -/
def ofFrame? (frame : Frame) : Option Request :=
  if frame.header.command = Command.queryStore then some store
  else if frame.header.command = Command.queryFetch then (FileId.ofBody? frame.body).map fetch
  else if frame.header.command = Command.upload then
    (Upload.ofBody? frame.body).map fun (announced, content) => upload announced content
  else if frame.header.command = Command.download then
    (Download.ofBody? frame.body).map download
  else none

/-- Reads bytes that are one request and nothing else. -/
def read? (bytes : Bytes) : Option Request :=
  match Frame.read? bytes with
  | some (frame, []) => ofFrame? frame
  | _ => none

def IsQuery : Request → Prop
  | store => True
  | fetch _ => True
  | upload _ _ => False
  | download _ => False

theorem ofFrame?_store (fits : Query.store.body.length < 2 ^ 64) :
    ofFrame? (Frame.request Command.queryStore Query.store.body fits) = some store := rfl

theorem ofFrame?_fetch {id : FileId} (fits : (Query.fetch id).body.length < 2 ^ 64) :
    ∃ other, ofFrame? (Frame.request Command.queryFetch (Query.fetch id).body fits) =
      some (fetch other) := by
  have read : FileId.ofBody? (Query.fetch id).body = some _ := Query.ofBody?_body rfl
  refine ⟨⟨Bytes.beforeNul (id.group.take FileId.groupWidth), id.filename⟩, ?_⟩
  show (FileId.ofBody? (Query.fetch id).body).map fetch = _
  rw [read]
  rfl

theorem ofFrame?_upload {announced : Upload} {content : Bytes}
    (fits : (announced.metaBytes ++ content).length < 2 ^ 64) :
    ∃ extension, ofFrame? (Frame.request Command.upload (announced.metaBytes ++ content) fits) =
      some (upload ⟨announced.pathIndex, announced.size, extension⟩ content) := by
  have read := announced.ofBody?_eq content
  refine ⟨Bytes.beforeNul (announced.extension.take Upload.extensionWidth), ?_⟩
  show (Upload.ofBody? (announced.metaBytes ++ content)).map _ = _
  rw [read]
  rfl

theorem ofFrame?_download {part : Download} (fits : part.body.length < 2 ^ 64) :
    ∃ group, ofFrame? (Frame.request Command.download part.body fits) =
      some (download ⟨⟨group, part.id.filename⟩, part.offset, part.count⟩) := by
  have read := part.ofBody?_eq
  refine ⟨Bytes.beforeNul (part.id.group.take FileId.groupWidth), ?_⟩
  show (Download.ofBody? part.body).map download = _
  rw [read]
  rfl

theorem read?_of_asked {request : Frame} {before after : Link}
    (asked : Link.Asked request before after) :
    read? (after.written.drop before.written.length) = ofFrame? request := by
  have whole := asked.delimited []
  rw [List.append_nil] at whole
  rw [asked.written, List.drop_left, read?, whole]

end Request

/-- The response to a request: a status and a body. -/
structure Answer where
  status : UInt8
  body : Bytes
  deriving DecidableEq

namespace Answer

def header (answer : Answer) : Header :=
  ⟨UInt64.ofNat answer.body.length, Command.answer, answer.status⟩

def encode (answer : Answer) : Bytes := answer.header.encode ++ answer.body

theorem length_header {answer : Answer} (fits : answer.body.length < 2 ^ 64) :
    answer.header.length.toNat = answer.body.length := by
  rw [header, UInt64.toNat_ofNat', Nat.mod_eq_of_lt fits]

/-- An answer that is short enough for its length to be declared. -/
def frame (answer : Answer) (fits : answer.body.length < 2 ^ 64) : Frame where
  header := answer.header
  body := answer.body
  sized := length_header fits

end Answer

/-- A link that leads to an address and accepts whatever is written, over which all that was sent
has been read. -/
structure Link.InStep (address sent : Bytes) (link : Link) : Prop where
  address : link.address = address
  read : link.taken = sent
  unlimited : link.room = none

/-- A link before and after an exchange in which one answer was read and nothing else. -/
structure Link.Took (answer : Answer) (before after : Link) : Prop where
  free : after.IsFree
  read : after.taken = before.taken ++ answer.encode
  address : after.address = before.address

theorem Link.InStep.took {address sent : Bytes} {answer : Answer} {before after : Link}
    (inStep : before.InStep address sent) (took : Took answer before after) :
    after.InStep address (sent ++ answer.encode) := by
  refine ⟨?_, ?_, took.free.unlimited⟩
  · rw [took.address, inStep.address]
  · rw [took.read, inStep.read]

/-- The part of a content that a download asks for. -/
def Download.partOf (download : Download) (content : Bytes) : Bytes :=
  let rest := content.drop download.offset.toNat
  if download.count = 0 then rest else rest.take download.count.toNat

theorem Download.length_partOf_le (download : Download) (content : Bytes) :
    (download.partOf content).length ≤ content.length := by
  simp only [partOf]
  split
  · rw [List.length_drop]
    omega
  · rw [List.length_take, List.length_drop]
    omega

theorem Download.length_partOf_le_count (download : Download) (content : Bytes) :
    download.count = 0 ∨ (download.partOf content).length ≤ download.count.toNat := by
  by_cases all : download.count = 0
  · exact .inl all
  · right
    simp only [partOf, all, ↓reduceIte]
    exact List.length_take_le _ _

/-- What a storage node keeps: the content of each file under its name. -/
abbrev Store := List (Bytes × Bytes)

structure Site where
  /-- The addresses of the trackers. -/
  trackers : List Bytes
  /-- The storage node as every tracker describes it. -/
  node : StorageNode
  /-- The group in which the node keeps its files. -/
  group : Bytes

namespace Site

/-- The node can be dialed, and its group can be part of an identifier. -/
structure IsValid (site : Site) : Prop where
  hosted : site.node.endpoint.host ≠ []
  hostFits : site.node.endpoint.host.length ≤ StorageNode.ipWidth
  hostClean : 0 ∉ site.node.endpoint.host
  port : site.node.endpoint.port ≠ 0
  named : site.group ≠ []
  groupFits : site.group.length ≤ FileId.groupWidth
  groupClean : 0 ∉ site.group
  unslashed : FileId.slash ∉ site.group

/-- What the server at an address answers. A tracker answers every query. The node answers uploads
of as much content as they announce, and downloads that have a filename. -/
def Takes (site : Site) (address : Bytes) : Request → Prop
  | .store => address ∈ site.trackers
  | .fetch _ => address ∈ site.trackers
  | .upload announced content =>
      address = site.node.address ∧ content.length = announced.size.toNat
  | .download part => address = site.node.address ∧ part.id.filename ≠ []

def description (site : Site) : Bytes :=
  Field.padded site.node.group FileId.groupWidth ++
    (Field.padded site.node.endpoint.host StorageNode.ipWidth ++
      BigEndian.encode site.node.endpoint.port.toUInt64)

/-- How a request is answered, and what the node keeps then. A new file gets a name of its own, of
1 to 128 bytes. -/
inductive Serves (site : Site) (store : Store) : Request → Answer → Store → Prop
  | store : Serves site store .store ⟨0, site.description ++ [site.node.pathIndex]⟩ store
  | fetch (id : FileId) : Serves site store (.fetch id) ⟨0, site.description⟩ store
  | upload (announced : Upload) (content name : Bytes)
      (fresh : store.lookup name = none) (filed : name ≠ [])
      (short : name.length ≤ Upload.filenameWidth) :
      Serves site store (.upload announced content)
        ⟨0, Field.padded site.group FileId.groupWidth ++ name⟩ ((name, content) :: store)
  | unknown (part : Download) (absent : store.lookup part.id.filename = none) :
      Serves site store (.download part) ⟨2, []⟩ store
  | beyond (part : Download) (content : Bytes)
      (found : store.lookup part.id.filename = some content)
      (beyond : content.length < part.offset.toNat) :
      Serves site store (.download part) ⟨22, []⟩ store
  | part (part : Download) (content : Bytes)
      (found : store.lookup part.id.filename = some content)
      (within : part.offset.toNat ≤ content.length) :
      Serves site store (.download part) ⟨0, part.partOf content⟩ store

variable {site : Site} {store next : Store} {request : Request} {answer : Answer}

theorem length_description (site : Site) : site.description.length = 39 := by
  simp [description, FileId.groupWidth, StorageNode.ipWidth]

/-- A client reads the description of a valid node as its endpoint. -/
theorem IsValid.ofBody_description (valid : site.IsValid) (rest : Bytes) :
    ∃ group, StorageNode.ofBody (site.description ++ rest) =
      .ok ⟨group, site.node.endpoint, rest.headD 0⟩ := by
  have host : Bytes.beforeNul (site.node.endpoint.host.take StorageNode.ipWidth) =
      site.node.endpoint.host := by
    rw [List.take_of_length_le valid.hostFits, Bytes.beforeNul_of_zero_not_mem valid.hostClean]
  have positive : site.node.endpoint.port.toUInt64 ≠ 0 := by
    intro zero
    apply valid.port
    have same := congrArg UInt64.toNat zero
    rw [UInt16.toNat_toUInt64] at same
    exact UInt16.toNat_inj.mp same
  have small : ¬ 65535 < site.node.endpoint.port.toUInt64 := by
    have bound := site.node.endpoint.port.toNat_lt
    have top : (65535 : UInt64).toNat = 65535 := rfl
    rw [UInt64.lt_iff_toNat_lt, UInt16.toNat_toUInt64]
    omega
  have port : (BigEndian.encode site.node.endpoint.port.toUInt64).length = BigEndian.width :=
    BigEndian.length_encode _
  refine ⟨Field.unpadded (site.description ++ rest) FileId.groupWidth, ?_⟩
  simp only [StorageNode.ofBody, description, List.append_assoc,
    List.drop_left' (Field.length_padded _ _), Field.unpadded_padded_append, host,
    BigEndian.decode_encode_append, List.drop_left' port, valid.hosted, positive, small, or_self,
    ↓reduceIte, UInt16.toUInt16_toUInt64]

theorem takes_of_query (isQuery : request.IsQuery) {address : Bytes}
    (isTracker : address ∈ site.trackers) : site.Takes address request := by
  cases request with
  | store => exact isTracker
  | fetch id => exact isTracker
  | upload announced content => exact isQuery.elim
  | download part => exact isQuery.elim

theorem Serves.of_query (serves : site.Serves store request answer next)
    (isQuery : request.IsQuery) :
    next = store ∧ ∃ rest : Bytes, rest.length ≤ 1 ∧ answer = ⟨0, site.description ++ rest⟩ := by
  cases serves with
  | store => exact ⟨rfl, [site.node.pathIndex], Nat.le_refl 1, rfl⟩
  | fetch id => exact ⟨rfl, [], Nat.zero_le 1, by rw [List.append_nil]⟩
  | upload => exact isQuery.elim
  | unknown => exact isQuery.elim
  | beyond => exact isQuery.elim
  | part => exact isQuery.elim

/-- A query that is answered by the site names its node. -/
theorem ask_of_served (valid : site.IsValid) (serves : site.Serves store request answer next)
    (isQuery : request.IsQuery) {link : Link} (free : link.IsFree)
    (answered : answer.encode <+: link.unread) (query : Query) :
    next = store ∧ ∃ node last, query.ask link = .ok node last ∧
      node.endpoint = site.node.endpoint ∧ Link.Took answer link last := by
  obtain ⟨same, rest, brief, rfl⟩ := serves.of_query isQuery
  refine ⟨same, ?_⟩
  obtain ⟨after, left⟩ := answered
  obtain ⟨group, named⟩ := valid.ofBody_description rest
  have long : (site.description ++ rest).length = 39 + rest.length := by
    rw [List.length_append, length_description]
  have fits : (site.description ++ rest).length < 2 ^ 64 := by omega
  have sized : UInt64.ofNat (site.description ++ rest).length = StorageNode.fetchLength ∨
      UInt64.ofNat (site.description ++ rest).length = StorageNode.storeLength := by
    rw [long]
    have count : rest.length = 0 ∨ rest.length = 1 := by omega
    rcases count with none | one
    · left
      rw [none]
      rfl
    · right
      rw [one]
      rfl
  have received := @Query.carries_receive (Answer.frame ⟨0, _⟩ fits) ⟨rfl, rfl⟩ _ sized named
  obtain ⟨last, asked, still, moved, leads⟩ :=
    query.carries_ask received link after free left.symm
  exact ⟨_, last, asked, rfl, still, moved.taken, leads⟩

/-- An upload that is answered by the site ends in an identifier of its group with a new name. -/
theorem run_of_served (valid : site.IsValid) {announced : Upload} {kept : Bytes}
    (serves : site.Serves store (.upload announced kept) answer next) {link : Link}
    (free : link.IsFree) (answered : answer.encode <+: link.unread) {upload : Upload}
    {content : Bytes} (sized : content.length = upload.size.toNat) (rest : Bytes) :
    ∃ name last, store.lookup name = none ∧ name ≠ [] ∧ next = (name, kept) :: store ∧
      upload.run (link, ⟨content ++ rest, false⟩) =
        .ok ⟨site.group, name⟩ (last, ⟨rest, false⟩) ∧ Link.Took answer link last := by
  cases serves with
  | upload _ _ name fresh filed short =>
      obtain ⟨after, left⟩ := answered
      have length : (Field.padded site.group FileId.groupWidth ++ name).length =
          FileId.groupWidth + name.length := by
        rw [List.length_append, Field.length_padded]
      have some : 0 < name.length := List.length_pos_iff.mpr filed
      have fits : (Field.padded site.group FileId.groupWidth ++ name).length < 2 ^ 64 := by
        rw [length]
        simp only [FileId.groupWidth, Upload.filenameWidth] at short ⊢
        omega
      have group : Bytes.beforeNul (site.group.take FileId.groupWidth) = site.group := by
        rw [List.take_of_length_le valid.groupFits,
          Bytes.beforeNul_of_zero_not_mem valid.groupClean]
      have named : Upload.idOfBody (Field.padded site.group FileId.groupWidth ++ name) =
          .ok ⟨site.group, name⟩ := by
        rw [Upload.idOfBody, Field.unpadded_padded_append, group,
          List.drop_left' (Field.length_padded _ _)]
        exact if_neg valid.named
      have long : FileId.groupWidth <
          (Field.padded site.group FileId.groupWidth ++ name).length := by omega
      have brief : (Field.padded site.group FileId.groupWidth ++ name).length ≤
          FileId.groupWidth + Upload.filenameWidth := by omega
      have received :=
        @Upload.carries_receive (Answer.frame ⟨0, _⟩ fits) ⟨rfl, rfl⟩ _ long brief named
      obtain ⟨last, ran, still, moved, leads⟩ :=
        upload.carries_run sized rest received link after free left.symm
      exact ⟨name, last, fresh, filed, rfl, Action.owning_eq_ok ran, still, moved.taken, leads⟩

end Site

/-- The status of an answer counts before everything but its command. -/
theorem Header.receive_of_status {header : Header} (command : header.command = Command.answer)
    (bad : header.status ≠ 0) {link : Link} (free : link.IsFree)
    (answered : header.encode <+: link.unread) :
    ∃ last, receive link = .error (.status header.status) last := by
  obtain ⟨rest, left⟩ := answered
  have taken := Link.carries_read header.encode
  rw [length_encode] at taken
  obtain ⟨middle, ran, -⟩ := taken link rest free left.symm
  have whole := decode_encode_append header []
  rw [List.append_nil] at whole
  refine ⟨middle, ?_⟩
  rw [receive, Action.bind_of_ok ran, whole]
  simp only [Action.ofExcept, check, command, ne_eq, not_true_eq_false, ↓reduceIte, bad,
    not_false_eq_true]

namespace Download
variable {download : Download} {link : Link} {tree : FileTree} {path : Bytes}

/-- An answer with another status than zero leaves the files as they are. -/
theorem toFile_of_status {status : UInt8} (bad : status ≠ 0) (free : link.IsFree)
    (answered : Answer.encode ⟨status, []⟩ <+: link.unread) :
    ∃ last, download.toFile path (link, tree) = .error (.status status) (last, tree) := by
  obtain ⟨middle, sent, still, moved, -⟩ := download.carries_send link link.unread free rfl
  have ahead : Header.encode (Answer.header ⟨status, []⟩) <+: middle.unread := by
    have same : link.unread = middle.unread := moved.unread
    rw [← same]
    exact (List.prefix_append _ _).trans answered
  obtain ⟨last, refused⟩ := Header.receive_of_status rfl bad still ahead
  have failed : download.request link = .error (.status status) last := by
    rw [request, Action.bind_of_ok sent, receiveLength, Action.bind_of_error refused]
    rfl
  exact ⟨last, by simp only [toFile, failed]⟩

/-- A file that can be created takes the body of a good answer. -/
theorem toFile_of_body {body : Bytes} (short : body.length < 2 ^ 63)
    (within : download.count = 0 ∨ body.length ≤ download.count.toNat) (free : link.IsFree)
    (answered : Answer.encode ⟨0, body⟩ <+: link.unread) {location : Location}
    {opened : FileTree} (created : tree.create? path = some (.file location, opened)) :
    ∃ length last, download.toFile path (link, tree) =
      .ok length (last, opened.put location (.file body)) ∧ Link.Took ⟨0, body⟩ link last := by
  have fits : body.length < 2 ^ 64 := by omega
  have declared : (UInt64.ofNat body.length).toNat = body.length := by
    rw [UInt64.toNat_ofNat', Nat.mod_eq_of_lt fits]
  have small : UInt64.ofNat body.length ≤ Header.maxLength := by
    rw [UInt64.le_iff_toNat_le, declared]
    exact Nat.le_of_lt_succ short
  have enough : download.count = 0 ∨ UInt64.ofNat body.length ≤ download.count := by
    rw [UInt64.le_iff_toNat_le, declared]
    exact within
  obtain ⟨rest, left⟩ := answered
  rw [Answer.encode, List.append_assoc] at left
  obtain ⟨middle, requested, still, moved, leads⟩ :=
    download.carries_request rfl rfl small enough link _ free left.symm
  have ahead : middle.unread = body ++ rest := by
    have parts := moved.unread
    rw [← left] at parts
    exact (List.append_cancel_left parts).symm
  obtain ⟨last, received, yet, crossed, same⟩ := carries_receiveBody body [] middle rest still ahead
  have filled := Action.owning_eq_ok received
  have accepted : download.request link = .ok (UInt64.ofNat body.length) middle := requested
  have taken : last.taken = link.taken ++ Answer.encode ⟨0, body⟩ := (moved.trans crossed).taken
  refine ⟨UInt64.ofNat body.length, last, ?_, yet, taken, same.trans leads⟩
  simp only [toFile, accepted, created, sinkOf, declared, filled, settle, Sink.delivered,
    Sink.canClose, List.nil_append, ↓reduceIte]

end Download

end TrackedStorage
