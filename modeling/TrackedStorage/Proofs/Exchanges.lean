import TrackedStorage.World
import Mathlib.Algebra.Group.Nat.Defs

set_option autoImplicit false

namespace TrackedStorage

/-- A header with a body of the length that it declares. -/
structure Frame where
  header : Header
  body : Bytes
  sized : header.length.toNat = body.length

namespace Frame

def encode (frame : Frame) : Bytes := frame.header.encode ++ frame.body

def IsRequest (commands : List UInt8) (frame : Frame) : Prop :=
  frame.header.command ∈ commands ∧ frame.header.status = 0

/-- Whether a frame is the answer to a request that was served. -/
def IsAnswer (frame : Frame) : Prop :=
  frame.header.command = Command.answer ∧ frame.header.status = 0

def request (command : UInt8) (body : Bytes) (fits : body.length < 2 ^ 64) : Frame where
  header := ⟨UInt64.ofNat body.length, command, 0⟩
  body := body
  sized := by rw [UInt64.toNat_ofNat', Nat.mod_eq_of_lt fits]

end Frame

/-- What crossed a link from one moment to a later one. -/
structure Link.Moved (sent got : Bytes) (before after : Link) : Prop where
  written : after.written = before.written ++ sent
  taken : after.taken = before.taken ++ got
  unread : before.unread = got ++ after.unread

namespace Link

theorem Moved.refl (link : Link) : Moved [] [] link link :=
  ⟨(List.append_nil _).symm, (List.append_nil _).symm, rfl⟩

theorem Moved.trans {sent more got rest : Bytes} {before middle after : Link}
    (earlier : Moved sent got before middle) (later : Moved more rest middle after) :
    Moved (sent ++ more) (got ++ rest) before after := by
  refine ⟨?_, ?_, ?_⟩
  · rw [later.written, earlier.written, List.append_assoc]
  · rw [later.taken, earlier.taken, List.append_assoc]
  · rw [earlier.unread, later.unread, List.append_assoc]

theorem write_moved {data : Bytes} {link after : Link}
    (done : write data link = .ok () after) : Moved data [] link after := by
  obtain ⟨-, -, rfl⟩ := write_eq_ok done
  exact ⟨rfl, (List.append_nil _).symm, rfl⟩

theorem read_moved {count : Nat} {data : Bytes} {link after : Link}
    (done : read count link = .ok data after) :
    data.length = count ∧ Moved [] data link after := by
  unfold read at done
  dsimp only at done
  split at done
  · split at done
    · rename_i whole
      cases done
      exact ⟨whole, (List.append_nil _).symm, rfl, (List.take_append_drop count _).symm⟩
    · cases done
  · cases done

end Link

open Link (Moved)

theorem Header.check_eq_ok {header checked : Header} (good : check header = .ok checked) :
    checked = header ∧ header.command = Command.answer ∧ header.status = 0 := by
  unfold check at good
  split at good
  · cases good
  · rename_i command
    split at good
    · cases good
    · rename_i status
      split at good
      · cases good
      · cases good
        exact ⟨rfl, Decidable.of_not_not command, Decidable.of_not_not status⟩

theorem Header.receive_moved {header : Header} {link after : Link}
    (done : receive link = .ok header after) :
    header.command = Command.answer ∧ header.status = 0 ∧ Moved [] header.encode link after := by
  obtain ⟨bytes, middle, taken, checked⟩ := Action.bind_eq_ok done
  obtain ⟨sized, moved⟩ := Link.read_moved taken
  cases good : check (decode bytes) with
  | error fault =>
      rw [good] at checked
      cases checked
  | ok checkedHeader =>
      rw [good] at checked
      cases checked
      obtain ⟨rfl, command, status⟩ := check_eq_ok good
      rw [encode_decode sized]
      exact ⟨command, status, moved⟩

/-- An answer whose body is read after its header. -/
theorem moved_answer {header : Header} {body : Bytes} {link middle after : Link}
    (good : header.command = Command.answer ∧ header.status = 0 ∧
      Moved [] header.encode link middle)
    (sized : body.length = header.length.toNat) (moved : Moved [] body middle after) :
    ∃ answer : Frame, answer.IsAnswer ∧ answer.header = header ∧ answer.body = body ∧
      Moved [] answer.encode link after :=
  ⟨⟨header, body, sized.symm⟩, ⟨good.1, good.2.1⟩, rfl, rfl, good.2.2.trans moved⟩

namespace FileId

theorem length_lt_of_parse {text : Bytes} {id : FileId} (parsed : parse text = .ok id) :
    id.filename.length < text.length := by
  unfold parse at parsed
  split at parsed
  · cases parsed
  · rename_i group filename isSplit
    split at parsed
    · cases parsed
    · split at parsed
      · cases parsed
      · cases parsed
        rw [(Bytes.eq_append_of_splitFirst isSplit).1]
        simp
        omega

end FileId

namespace Query

def body (query : Query) : Bytes :=
  match query.target with
  | none => []
  | some id => Field.padded id.group FileId.groupWidth ++ id.filename

theorem length_eq (query : Query) : query.length = UInt64.ofNat query.body.length := by
  unfold length body
  cases query.target with
  | none => rfl
  | some id => rw [List.length_append, Field.length_padded]

theorem length_fetch_lt {id : FileId} (short : id.filename.length < 2 ^ 63) :
    (fetch id).body.length < 2 ^ 64 := by
  simp only [body, fetch, List.length_append, Field.length_padded, FileId.groupWidth]
  omega

theorem send_moved {query : Query} {link after : Link} (done : query.send link = .ok () after) :
    Moved (Header.encode ⟨query.length, query.command, 0⟩ ++ query.body) [] link after := by
  obtain ⟨⟨⟩, middle, announced, told⟩ := Action.bind_eq_ok done
  have header := Link.write_moved announced
  unfold body
  cases target : query.target with
  | none =>
      rw [target] at told
      cases told
      rw [List.append_nil]
      exact header
  | some id =>
      rw [target] at told
      exact header.trans (Link.write_moved told)

theorem receive_moved {node : StorageNode} {link after : Link}
    (done : receive link = .ok node after) :
    ∃ answer : Frame, answer.IsAnswer ∧ StorageNode.ofBody answer.body = .ok node ∧
      Moved [] answer.encode link after := by
  obtain ⟨header, middle, received, rest⟩ := Action.bind_eq_ok done
  have good := Header.receive_moved received
  split at rest
  · obtain ⟨body, last, taken, read⟩ := Action.bind_eq_ok rest
    obtain ⟨sized, moved⟩ := Link.read_moved taken
    cases named : StorageNode.ofBody body with
    | error fault =>
        rw [named] at read
        cases read
    | ok found =>
        rw [named] at read
        cases read
        obtain ⟨answer, isAnswer, -, rfl, crossed⟩ := moved_answer good sized moved
        exact ⟨answer, isAnswer, named, crossed⟩
  · cases rest

/-- A query that is answered sends one request and takes one answer. -/
theorem ask_moved {query : Query} (fits : query.body.length < 2 ^ 64) {node : StorageNode}
    {link after : Link} (done : query.ask link = .ok node after) :
    ∃ answer : Frame, answer.IsAnswer ∧ StorageNode.ofBody answer.body = .ok node ∧
      Moved (Frame.request query.command query.body fits).encode answer.encode link after := by
  obtain ⟨⟨⟩, middle, sent, received⟩ := Action.bind_eq_ok done
  have asked := send_moved sent
  obtain ⟨answer, isAnswer, named, answered⟩ := receive_moved received
  rw [length_eq] at asked
  have crossed := asked.trans answered
  rw [List.append_nil] at crossed
  exact ⟨answer, isAnswer, named, crossed⟩

end Query

theorem Source.read_eq_ok {count : Nat} {data : Bytes} {source rest : Source}
    (done : read count source = .ok data rest) :
    data.length = count ∧ source.content = data ++ rest.content := by
  unfold read at done
  dsimp only at done
  split at done
  · cases done
  · split at done
    · rename_i whole
      cases done
      exact ⟨whole, (List.take_append_drop count _).symm⟩
    · cases done

namespace Upload

theorem length_metaBytes (upload : Upload) : upload.metaBytes.length = metaLength := by
  simp [metaBytes, Field.encodeAll, Field.encode, metaLength, BigEndian.width]
  omega

theorem length_eq {upload : Upload} {content : Bytes}
    (sized : content.length = upload.size.toNat) :
    upload.length = UInt64.ofNat (upload.metaBytes ++ content).length := by
  rw [length, List.length_append, length_metaBytes, sized, UInt64.ofNat_add, UInt64.ofNat_toNat]

theorem sendHeader_moved {upload : Upload} {link after : Link}
    (done : upload.sendHeader link = .ok () after) :
    Moved (Header.encode ⟨upload.length, Command.upload, 0⟩ ++ upload.metaBytes) [] link after := by
  obtain ⟨⟨⟩, middle, announced, told⟩ := Action.bind_eq_ok done
  exact (Link.write_moved announced).trans (Link.write_moved told)

/-- The chunks that are sent make up the front of the source. -/
theorem sendContent_moved {remaining : Nat} {link after : Link} {source rest : Source}
    (done : sendContent remaining (link, source) = .ok () (after, rest)) :
    ∃ content, content.length = remaining ∧ source.content = content ++ rest.content ∧
      Moved content [] link after := by
  induction remaining using Nat.strongRecOn generalizing link source with
  | ind remaining ih =>
      rw [sendContent] at done
      by_cases none : remaining = 0
      · rw [if_pos none] at done
        cases done
        exact ⟨[], none.symm, rfl, .refl _⟩
      · rw [if_neg none] at done
        obtain ⟨data, _, loaded, later⟩ := Action.bind_eq_ok done
        obtain ⟨unread, readOk, rfl⟩ := Action.on_eq_ok loaded
        obtain ⟨⟨⟩, _, stored, last⟩ := Action.bind_eq_ok later
        obtain ⟨sent, writeOk, rfl⟩ := Action.on_eq_ok stored
        have fewer : remaining - min chunkSize remaining < remaining := by
          simp only [chunkSize]
          omega
        obtain ⟨content, sized, back, moved⟩ := ih _ fewer last
        obtain ⟨full, front⟩ := Source.read_eq_ok readOk
        refine ⟨data ++ content, ?_, ?_, (Link.write_moved writeOk).trans moved⟩
        · rw [List.length_append, full, sized]
          omega
        · change source.content = data ++ unread.content at front
          change unread.content = content ++ rest.content at back
          rw [front, back, List.append_assoc]

theorem receive_moved {id : FileId} {link after : Link} (done : receive link = .ok id after) :
    ∃ answer : Frame, answer.IsAnswer ∧ idOfBody answer.body = .ok id ∧
      Moved [] answer.encode link after := by
  obtain ⟨header, middle, received, rest⟩ := Action.bind_eq_ok done
  have good := Header.receive_moved received
  dsimp only at rest
  split at rest
  · obtain ⟨body, last, taken, read⟩ := Action.bind_eq_ok rest
    obtain ⟨sized, moved⟩ := Link.read_moved taken
    cases named : idOfBody body with
    | error fault =>
        rw [named] at read
        cases read
    | ok found =>
        rw [named] at read
        cases read
        obtain ⟨answer, isAnswer, -, rfl, crossed⟩ := moved_answer good sized moved
        exact ⟨answer, isAnswer, named, crossed⟩
  · cases rest

theorem length_request_lt {upload : Upload} {content : Bytes}
    (fits : upload.size.toNat + metaLength < 2 ^ 64)
    (sized : content.length = upload.size.toNat) :
    (upload.metaBytes ++ content).length < 2 ^ 64 := by
  rw [List.length_append, length_metaBytes, sized]
  omega

/-- An upload that succeeds sends one request, which ends in the front of the source, and takes one
answer. -/
theorem run_moved {upload : Upload} (fits : upload.size.toNat + metaLength < 2 ^ 64)
    {id : FileId} {link after : Link} {source rest : Source}
    (done : upload.run (link, source) = .ok id (after, rest)) :
    ∃ content, source.content = content ++ rest.content ∧
      ∃ small : (upload.metaBytes ++ content).length < 2 ^ 64,
      ∃ answer : Frame, answer.IsAnswer ∧ idOfBody answer.body = .ok id ∧
      Moved (Frame.request Command.upload (upload.metaBytes ++ content) small).encode
        answer.encode link after := by
  obtain ⟨⟨⟩, _, opened, later⟩ := Action.bind_eq_ok done
  obtain ⟨announced, headerOk, rfl⟩ := Action.on_eq_ok opened
  obtain ⟨⟨⟩, ⟨sent, left⟩, contentOk, last⟩ := Action.bind_eq_ok later
  obtain ⟨received, answerOk, same⟩ := Action.on_eq_ok last
  cases same
  obtain ⟨content, sized, split, moved⟩ := sendContent_moved contentOk
  obtain ⟨answer, isAnswer, named, answered⟩ := receive_moved answerOk
  have crossed := ((sendHeader_moved headerOk).trans moved).trans answered
  have small := length_request_lt fits sized
  refine ⟨content, split, small, answer, isAnswer, named, ?_⟩
  rw [length_eq sized, List.append_nil, List.append_assoc] at crossed
  exact crossed

end Upload

namespace Download

theorem length_body (download : Download) :
    download.body.length =
      FileId.groupWidth + download.id.filename.length + 2 * BigEndian.width := by
  simp only [body, Field.encodeAll, Field.encode, List.flatMap_cons, List.flatMap_nil,
    List.append_nil, List.length_append, Field.length_padded, BigEndian.length_encode,
    BigEndian.width]

theorem length_eq (download : Download) :
    download.length = UInt64.ofNat download.body.length := by
  rw [length, length_body]

theorem length_body_lt {download : Download} (short : download.id.filename.length < 2 ^ 63) :
    download.body.length < 2 ^ 64 := by
  rw [length_body]
  simp only [FileId.groupWidth, BigEndian.width]
  omega

theorem send_moved {download : Download} {link after : Link}
    (done : download.send link = .ok () after) :
    Moved (Header.encode ⟨download.length, Command.download, 0⟩ ++ download.body) []
      link after := by
  obtain ⟨⟨⟩, middle, announced, told⟩ := Action.bind_eq_ok done
  exact (Link.write_moved announced).trans (Link.write_moved told)

theorem receiveLength_moved {download : Download} {length : UInt64} {link after : Link}
    (done : download.receiveLength link = .ok length after) :
    ∃ header : Header, header.length = length ∧ header.command = Command.answer ∧
      header.status = 0 ∧ Moved [] header.encode link after := by
  obtain ⟨header, middle, received, rest⟩ := Action.bind_eq_ok done
  split at rest
  · cases rest
  · cases rest
    exact ⟨header, rfl, Header.receive_moved received⟩

theorem request_moved {download : Download} {length : UInt64} {link after : Link}
    (done : download.request link = .ok length after) :
    ∃ header : Header, header.length = length ∧ header.command = Command.answer ∧
      header.status = 0 ∧
      Moved (Header.encode ⟨download.length, Command.download, 0⟩ ++ download.body) header.encode
        link after := by
  obtain ⟨⟨⟩, middle, sent, answered⟩ := Action.bind_eq_ok done
  obtain ⟨header, declared, command, status, moved⟩ := receiveLength_moved answered
  have crossed := (send_moved sent).trans moved
  rw [List.append_nil] at crossed
  exact ⟨header, declared, command, status, crossed⟩

/-- The chunks that are taken make up a body. -/
theorem receiveBody_moved {remaining : Nat} {link after : Link} {sink filled : Sink}
    (done : receiveBody remaining (link, sink) = .ok () (after, filled)) :
    ∃ body : Bytes, body.length = remaining ∧ Moved [] body link after := by
  induction remaining using Nat.strongRecOn generalizing link sink with
  | ind remaining ih =>
      rw [receiveBody] at done
      by_cases none : remaining = 0
      · rw [if_pos none] at done
        cases done
        exact ⟨[], none.symm, .refl _⟩
      · rw [if_neg none] at done
        obtain ⟨data, _, taken, later⟩ := Action.bind_eq_ok done
        obtain ⟨read, readOk, rfl⟩ := Action.on_eq_ok taken
        obtain ⟨⟨⟩, _, stored, last⟩ := Action.bind_eq_ok later
        obtain ⟨kept, writeOk, rfl⟩ := Action.on_eq_ok stored
        have fewer : remaining - min chunkSize remaining < remaining := by
          simp only [chunkSize]
          omega
        obtain ⟨body, sized, moved⟩ := ih _ fewer last
        obtain ⟨full, first⟩ := Link.read_moved readOk
        refine ⟨data ++ body, ?_, first.trans moved⟩
        rw [List.length_append, full, sized]
        omega

/-- A download that succeeds sends one request and takes one answer. -/
theorem toFile_moved {download : Download} (fits : download.body.length < 2 ^ 64) {path : Bytes}
    {length : UInt64} {link after : Link} {tree kept : FileTree}
    (done : download.toFile path (link, tree) = .ok length (after, kept)) :
    ∃ answer : Frame, answer.IsAnswer ∧ answer.header.length = length ∧
      Moved (Frame.request Command.download download.body fits).encode answer.encode
        link after := by
  unfold toFile at done
  dsimp only at done
  split at done
  · cases done
  · rename_i declared accepted requested
    split at done
    · cases done
    · split at done
      · cases done
      · rename_i outlet opened _ filled sink received
        split at done
        · cases done
          obtain ⟨⟨⟩, middle, sent, answered⟩ := Action.bind_eq_ok requested
          obtain ⟨header, rfl, good⟩ := receiveLength_moved answered
          obtain ⟨body, sized, moved⟩ := receiveBody_moved received
          obtain ⟨answer, isAnswer, rfl, -, replied⟩ := moved_answer good sized moved
          have crossed := (send_moved sent).trans replied
          rw [length_eq, List.append_nil] at crossed
          exact ⟨answer, isAnswer, rfl, crossed⟩
        · cases done

end Download

end TrackedStorage
