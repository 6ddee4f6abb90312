import TrackedStorage.Proofs.Carrying

set_option autoImplicit false

namespace TrackedStorage

/-- The frame at the front of a stream, and what follows it. Its header alone tells where it
ends. -/
def Frame.read? (bytes : Bytes) : Option (Frame × Bytes) :=
  let header := Header.decode bytes
  let rest := bytes.drop Header.width
  if complete : Header.width ≤ bytes.length ∧ header.length.toNat ≤ rest.length then
    some (⟨header, rest.take header.length.toNat, (List.length_take_of_le complete.2).symm⟩,
      rest.drop header.length.toNat)
  else none

/-- What a fetch query asks for: a group in its field, and a filename that runs to the end. -/
def FileId.ofBody? (body : Bytes) : Option FileId :=
  if groupWidth ≤ body.length then some ⟨Field.unpadded body groupWidth, body.drop groupWidth⟩
  else none

/-- What an upload announces, and the content that follows. -/
def Upload.ofBody? (body : Bytes) : Option (Upload × Bytes) :=
  if metaLength ≤ body.length then
    let numbers := body.drop 1
    some (⟨body.headD 0, BigEndian.decode numbers,
      Field.unpadded (numbers.drop BigEndian.width) extensionWidth⟩, body.drop metaLength)
  else none

/-- What a download asks for. Offset and count are the last two numbers of the body, and the
filename is what lies between them and the group. -/
def Download.ofBody? (body : Bytes) : Option Download :=
  let named := body.length - 2 * BigEndian.width
  let numbers := body.drop named
  if FileId.groupWidth ≤ named then
    some ⟨⟨Field.unpadded body FileId.groupWidth, (body.take named).drop FileId.groupWidth⟩,
      BigEndian.decode numbers, BigEndian.decode (numbers.drop BigEndian.width)⟩
  else none

theorem Frame.read?_encode_append (frame : Frame) (rest : Bytes) :
    read? (frame.encode ++ rest) = some (frame, rest) := by
  have header : Header.decode (frame.encode ++ rest) = frame.header := by
    rw [encode, List.append_assoc, Header.decode_encode_append]
  have behind : (frame.encode ++ rest).drop Header.width = frame.body ++ rest := by
    rw [encode, List.append_assoc, List.drop_left' (Header.length_encode _)]
  have enough : Header.width ≤ (frame.encode ++ rest).length := by
    simp only [encode, List.length_append, Header.length_encode]
    omega
  have body : (frame.body ++ rest).take frame.header.length.toNat = frame.body :=
    List.take_left' frame.sized.symm
  have after : (frame.body ++ rest).drop frame.header.length.toNat = rest :=
    List.drop_left' frame.sized.symm
  have fits : frame.header.length.toNat ≤ (frame.body ++ rest).length := by
    rw [frame.sized, List.length_append]
    omega
  simp only [read?, header, behind, body, after, enough, fits, and_self, ↓reduceDIte]

theorem FileId.ofBody?_eq (group filename : Bytes) :
    ofBody? (Field.padded group groupWidth ++ filename) =
      some ⟨Bytes.beforeNul (group.take groupWidth), filename⟩ := by
  have enough : groupWidth ≤ (Field.padded group groupWidth ++ filename).length := by
    rw [List.length_append, Field.length_padded]
    omega
  rw [ofBody?, if_pos enough, Field.unpadded_padded_append,
    List.drop_left' (Field.length_padded group groupWidth)]

theorem Upload.ofBody?_eq (upload : Upload) (content : Bytes) :
    ofBody? (upload.metaBytes ++ content) =
      some (⟨upload.pathIndex, upload.size,
        Bytes.beforeNul (upload.extension.take extensionWidth)⟩, content) := by
  have enough : metaLength ≤ (upload.metaBytes ++ content).length := by
    rw [List.length_append, length_metaBytes]
    omega
  have numbers : (upload.metaBytes ++ content).drop 1 = BigEndian.encode upload.size ++
      (Field.padded upload.extension extensionWidth ++ content) := by
    simp [metaBytes, Field.encodeAll, Field.encode]
  have width : (BigEndian.encode upload.size).length = BigEndian.width :=
    BigEndian.length_encode _
  have extension : (BigEndian.encode upload.size ++
      (Field.padded upload.extension extensionWidth ++ content)).drop BigEndian.width =
      Field.padded upload.extension extensionWidth ++ content := List.drop_left' width
  rw [ofBody?, if_pos enough, List.drop_left' upload.length_metaBytes]
  simp only [numbers, BigEndian.decode_encode_append, extension, Field.unpadded_padded_append]
  rfl

theorem Download.ofBody?_eq (download : Download) :
    ofBody? download.body =
      some ⟨⟨Bytes.beforeNul (download.id.group.take FileId.groupWidth), download.id.filename⟩,
        download.offset, download.count⟩ := by
  have offset : (BigEndian.encode download.offset).length = BigEndian.width :=
    BigEndian.length_encode _
  have count := BigEndian.decode_encode_append download.count []
  rw [List.append_nil] at count
  have parts : download.body =
      (Field.padded download.id.group FileId.groupWidth ++ download.id.filename) ++
        (BigEndian.encode download.offset ++ BigEndian.encode download.count) := by
    simp [body, Field.encodeAll, Field.encode]
  have front : (Field.padded download.id.group FileId.groupWidth ++
      download.id.filename).length = download.body.length - 2 * BigEndian.width := by
    rw [length_body, List.length_append, Field.length_padded]
    omega
  have enough : FileId.groupWidth ≤ download.body.length - 2 * BigEndian.width := by
    rw [length_body]
    omega
  have named : download.body.take (download.body.length - 2 * BigEndian.width) =
      Field.padded download.id.group FileId.groupWidth ++ download.id.filename := by
    conv => lhs; arg 2; rw [parts]
    exact List.take_left' front
  have numbers : download.body.drop (download.body.length - 2 * BigEndian.width) =
      BigEndian.encode download.offset ++ BigEndian.encode download.count := by
    conv => lhs; arg 2; rw [parts]
    exact List.drop_left' front
  have group : Field.unpadded download.body FileId.groupWidth =
      Bytes.beforeNul (download.id.group.take FileId.groupWidth) := by
    rw [parts, List.append_assoc, Field.unpadded_padded_append]
  simp only [ofBody?, if_pos enough, named, numbers, group, BigEndian.decode_encode_append,
    List.drop_left' offset, count, List.drop_left' (Field.length_padded _ _)]

/-- Nothing is written between two moments but one request, which its receiver tells apart from
whatever may follow it. -/
structure Link.Asked (request : Frame) (before after : Link) : Prop where
  written : after.written = before.written ++ request.encode
  status : request.header.status = 0
  delimited : ∀ rest, Frame.read? (request.encode ++ rest) = some (request, rest)

theorem Link.asked_of_written {command : UInt8} {body : Bytes} (fits : body.length < 2 ^ 64)
    {before after : Link}
    (written : after.written =
      before.written ++ (Header.encode ⟨UInt64.ofNat body.length, command, 0⟩ ++ body)) :
    Asked (Frame.request command body fits) before after :=
  ⟨written, rfl, Frame.read?_encode_append _⟩

theorem Query.asked {query : Query} (fits : query.body.length < 2 ^ 64) {link : Link}
    (free : link.IsFree) :
    Link.Asked (Frame.request query.command query.body fits) link
      (Action.after (query.ask link)) := by
  have sent := query.sends_ask link free
  rw [query.length_eq] at sent
  exact Link.asked_of_written fits sent

theorem Query.ofBody?_body {query : Query} {id : FileId} (target : query.target = some id) :
    FileId.ofBody? query.body =
      some ⟨Bytes.beforeNul (id.group.take FileId.groupWidth), id.filename⟩ := by
  rw [body, target]
  exact FileId.ofBody?_eq id.group id.filename

theorem Upload.asked {upload : Upload} {content : Bytes}
    (sized : content.length = upload.size.toNat)
    (fits : (upload.metaBytes ++ content).length < 2 ^ 64) (rest : Bytes) {link : Link}
    (free : link.IsFree) :
    Link.Asked (Frame.request Command.upload (upload.metaBytes ++ content) fits) link
      (Action.after (upload.run (link, ⟨content ++ rest, false⟩))).1 := by
  have sent := upload.sends_run sized rest link free
  rw [Action.after_owning, Upload.length_eq sized, List.append_assoc (Header.encode _)] at sent
  exact Link.asked_of_written fits sent

theorem Download.asked {download : Download} (fits : download.body.length < 2 ^ 64) {link : Link}
    (free : link.IsFree) :
    Link.Asked (Frame.request Command.download download.body fits) link
      (Action.after (download.request link)) := by
  have sent := download.sends_request link free
  rw [download.length_eq] at sent
  exact Link.asked_of_written fits sent

theorem Download.asked_toFile {download : Download} (fits : download.body.length < 2 ^ 64)
    (path : Bytes) {link : Link} (free : link.IsFree) (tree : FileTree) :
    Link.Asked (Frame.request Command.download download.body fits) link
      (Action.after (download.toFile path (link, tree))).1 := by
  have asked := Download.asked fits free
  exact ⟨(download.written_toFile path link tree).trans asked.written, rfl, asked.delimited⟩

/-- Whatever is asked over a free link, and however that ends, one request is sent, from which its
receiver reads back what was asked: a group cut to its field and at its first NUL, a filename byte
for byte, every number, and the announced part of a content. A header declares lengths below 2^64,
so that longer filenames cannot be sent. -/
theorem requests_readable {link : Link} (free : link.IsFree) :
    (∀ (query : Query) (id : FileId), query.target = some id → query.body.length < 2 ^ 64 →
      ∃ request, Link.Asked request link (Action.after (query.ask link)) ∧
        request.header.command = query.command ∧
        FileId.ofBody? request.body =
          some ⟨Bytes.beforeNul (id.group.take FileId.groupWidth), id.filename⟩) ∧
    (∀ (upload : Upload) (source : Source), source.hasEnded = false →
      upload.size.toNat ≤ source.content.length → upload.size.toNat < 2 ^ 64 - 15 →
      ∃ request, Link.Asked request link (Action.after (upload.run (link, source))).1 ∧
        request.header.command = Command.upload ∧
        Upload.ofBody? request.body = some
          (⟨upload.pathIndex, upload.size,
            Bytes.beforeNul (upload.extension.take Upload.extensionWidth)⟩,
            source.content.take upload.size.toNat)) ∧
    ∀ (download : Download), download.body.length < 2 ^ 64 →
      ∃ request,
        (∀ sink, Link.Asked request link (Action.after (download.toStream (link, sink))).1) ∧
        (∀ path tree,
          Link.Asked request link (Action.after (download.toFile path (link, tree))).1) ∧
        request.header.command = Command.download ∧
        Download.ofBody? request.body = some
          ⟨⟨Bytes.beforeNul (download.id.group.take FileId.groupWidth), download.id.filename⟩,
            download.offset, download.count⟩ := by
  refine ⟨?_, ?_, ?_⟩
  · intro query id target fits
    exact ⟨_, Query.asked fits free, rfl, Query.ofBody?_body target⟩
  · rintro upload ⟨content, hasEnded⟩ rfl enough small
    have sized : (content.take upload.size.toNat).length = upload.size.toNat :=
      List.length_take_of_le enough
    have fits : upload.size.toNat + Upload.metaLength < 2 ^ 64 := by
      simp only [Upload.metaLength, Upload.extensionWidth, BigEndian.width]
      omega
    have asked := Upload.asked sized (Upload.length_request_lt fits sized)
      (content.drop upload.size.toNat) free
    rw [List.take_append_drop] at asked
    exact ⟨_, asked, rfl, upload.ofBody?_eq _⟩
  · intro download fits
    have asked := Download.asked fits free
    refine ⟨_, ?_, fun path => Download.asked_toFile fits path free, rfl, download.ofBody?_eq⟩
    intro sink
    exact ⟨(download.written_toStream link sink).trans asked.written, rfl, asked.delimited⟩

theorem requests_readable_with_nuls :
    let link := Link.inMemory [] [] none true
    let id : FileId := ⟨[103, 0, 104], [102, 0, 47]⟩
    let upload : Upload := ⟨255, 2, [112, 110, 103, 0, 0, 0, 9]⟩
    let download : Download := ⟨id, 5, 0⟩
    link.IsFree ∧
    (∃ request, Link.Asked request link (Action.after ((Query.fetch id).ask link)) ∧
      FileId.ofBody? request.body = some ⟨[103], [102, 0, 47]⟩) ∧
    (∃ request, Link.Asked request link
        (Action.after (upload.run (link, .ofContent [1, 2, 3]))).1 ∧
      Upload.ofBody? request.body = some (⟨255, 2, [112, 110, 103]⟩, [1, 2])) ∧
    ∃ request, Link.Asked request link
        (Action.after (download.toStream (link, .stream none []))).1 ∧
      Download.ofBody? request.body = some ⟨⟨[103], [102, 0, 47]⟩, 5, 0⟩ := by
  intro link id upload download
  have free : link.IsFree := ⟨rfl, rfl⟩
  obtain ⟨querying, uploading, downloading⟩ := requests_readable free
  obtain ⟨query, asked, -, sought⟩ := querying (.fetch id) id rfl (by decide)
  obtain ⟨store, announced, -, stored⟩ :=
    uploading upload (.ofContent [1, 2, 3]) rfl (by decide) (by decide)
  obtain ⟨fetch, streamed, -, -, fetched⟩ := downloading download (by decide)
  exact ⟨free, ⟨query, asked, sought⟩, ⟨store, announced, stored⟩, fetch, streamed _, fetched⟩

end TrackedStorage
