import TrackedStorage.Proofs.ChunkedUpload
import TrackedStorage.Proofs.LocalStreams
import TrackedStorage.Proofs.Untouched

set_option autoImplicit false

namespace TrackedStorage

/-- The name at the end of a path, behind its last slash, and the suffix at the end of the name,
behind its last dot. A name without a dot has an empty suffix. -/
structure HasSuffix (path name suffix : Bytes) : Prop where
  named : (47 ∉ path ∧ name = path) ∨ ∃ folder, path = folder ++ 47 :: name ∧ 47 ∉ name
  suffixed : (46 ∉ name ∧ suffix = []) ∨ ∃ stem, name = stem ++ 46 :: suffix ∧ 46 ∉ suffix

namespace HasSuffix

theorem exists_of_path (path : Bytes) : ∃ name suffix, HasSuffix path name suffix := by
  obtain ⟨name, named⟩ : ∃ name, (47 ∉ path ∧ name = path) ∨
      ∃ folder, path = folder ++ 47 :: name ∧ 47 ∉ name := by
    cases parts : path.splitLast 47 with
    | none => exact ⟨path, .inl ⟨Bytes.splitLast_eq_none_iff.mp parts, rfl⟩⟩
    | some pair => exact ⟨pair.2, .inr ⟨pair.1, Bytes.eq_append_of_splitLast parts⟩⟩
  cases parts : name.splitLast 46 with
  | none => exact ⟨name, [], named, .inl ⟨Bytes.splitLast_eq_none_iff.mp parts, rfl⟩⟩
  | some pair => exact ⟨name, pair.2, named, .inr ⟨pair.1, Bytes.eq_append_of_splitLast parts⟩⟩

variable {path name suffix : Bytes}

/-- Of the suffix as much is sent as fits into the field. -/
theorem extensionOf_eq (has : HasSuffix path name suffix) : extensionOf path = suffix.take 6 := by
  rcases has.suffixed with ⟨undotted, rfl⟩ | ⟨stem, rfl, undotted⟩
  · rcases has.named with ⟨absent, rfl⟩ | ⟨folder, rfl, absent⟩
    · simp only [extensionOf, Bytes.splitLast_eq_none_iff.mpr absent,
        Bytes.splitLast_eq_none_iff.mpr undotted, List.take_nil]
    · simp only [extensionOf, Bytes.splitLast_append folder absent,
        Bytes.splitLast_eq_none_iff.mpr undotted, List.take_nil]
  · rcases has.named with ⟨absent, rfl⟩ | ⟨folder, rfl, absent⟩
    · simp only [extensionOf, Bytes.splitLast_eq_none_iff.mpr absent,
        Bytes.splitLast_append stem undotted, Upload.extensionWidth]
    · simp only [extensionOf, Bytes.splitLast_append folder absent,
        Bytes.splitLast_append stem undotted, Upload.extensionWidth]

/-- The folders in front of a path have no part in its name. -/
theorem in_folder (has : HasSuffix path name suffix) (folder : Bytes) :
    HasSuffix (folder ++ 47 :: path) name suffix := by
  refine ⟨.inr ?_, has.suffixed⟩
  rcases has.named with ⟨absent, rfl⟩ | ⟨inner, rfl, absent⟩
  · exact ⟨folder, rfl, absent⟩
  · exact ⟨folder ++ 47 :: inner, by simp, absent⟩

theorem slash_not_mem (has : HasSuffix path name suffix) : 47 ∉ suffix := by
  have unslashed : 47 ∉ name := by
    rcases has.named with ⟨absent, rfl⟩ | ⟨folder, -, absent⟩
    · exact absent
    · exact absent
  rcases has.suffixed with ⟨-, rfl⟩ | ⟨stem, rfl, -⟩
  · exact List.not_mem_nil
  · exact fun isIn => unslashed (List.mem_append_right stem (List.mem_cons_of_mem 46 isIn))

theorem dot_not_mem (has : HasSuffix path name suffix) : 46 ∉ suffix := by
  rcases has.suffixed with ⟨-, rfl⟩ | ⟨stem, -, absent⟩
  · exact List.not_mem_nil
  · exact absent

end HasSuffix

/-- Cutting a text to the width of its field beforehand makes no difference. -/
theorem Field.padded_take (value : Bytes) (width : Nat) :
    padded (value.take width) width = padded value width := by
  rw [padded, padded, List.take_take, Nat.min_self, List.length_take]
  congr 2
  omega

theorem Field.not_mem_padded {byte : UInt8} {value : Bytes} (absent : byte ∉ value)
    (some : byte ≠ 0) (width : Nat) : byte ∉ padded value width := by
  rw [padded, List.mem_append, List.mem_replicate]
  rintro (taken | ⟨-, zero⟩)
  · exact absent (List.mem_of_mem_take taken)
  · exact some zero

theorem extensionOf_in_folder (folder path : Bytes) :
    extensionOf (folder ++ 47 :: path) = extensionOf path := by
  obtain ⟨name, suffix, has⟩ := HasSuffix.exists_of_path path
  rw [has.extensionOf_eq, (has.in_folder folder).extensionOf_eq]

namespace FileTree
variable {tree : FileTree} {path : Bytes}

theorem stage_of_file {location : Location} {content : Bytes}
    (found : tree.find path = .found location (.file content)) (filled : content ≠ []) :
    tree.stage path =
      .ok ⟨UInt64.ofNat content.length, extensionOf path, .ofContent content⟩ := by
  cases content with
  | nil => exact absurd rfl filled
  | cons byte rest => rw [stage, found]

/-- What does not lead to a file with a byte in it cannot be opened. -/
theorem exists_stage_of_unfilled (unfilled : ∀ location content,
    tree.find path = .found location (.file content) → content = []) :
    ∃ cause, tree.stage path = .error (.transfer cause) := by
  cases leads : tree.find path with
  | found location entry =>
      cases entry with
      | file content =>
          rw [stage, leads, unfilled location content leads]
          exact ⟨_, rfl⟩
      | folder => exact ⟨.noSuchFile path, by rw [stage, leads]⟩
      | fullDevice => exact ⟨.noSuchFile path, by rw [stage, leads]⟩
  | vacant location => exact ⟨.noSuchFile path, by rw [stage, leads]⟩
  | nowhere => exact ⟨.noSuchFile path, by rw [stage, leads]⟩

end FileTree

/-- The declared length does not wrap for any file that fits behind the description. -/
theorem Upload.toNat_length {upload : Upload} (short : upload.size.toNat < 2 ^ 64 - 15) :
    upload.length.toNat = 15 + upload.size.toNat := by
  have front : (UInt64.ofNat metaLength).toNat = 15 := rfl
  rw [length, UInt64.toNat_add, front, Nat.mod_eq_of_lt (by omega)]

theorem HasSuffix.metaBytes_eq {path name suffix : Bytes} (has : HasSuffix path name suffix)
    (index : UInt8) (size : UInt64) : Upload.metaBytes ⟨index, size, extensionOf path⟩ =
      index :: (BigEndian.encode size ++ Field.padded suffix 6) := by
  rw [← Field.padded_take suffix, ← has.extensionOf_eq, Upload.metaBytes_eq]

/-- Of the request for a file that is there as a whole, an open link passes on what it accepts. -/
theorem Upload.written_run {upload : Upload} {content : Bytes}
    (sized : upload.size.toNat = content.length) {link : Link} (opened : link.isOpen = true) :
    (Action.after (upload.run (link, ⟨content, false⟩))).1.written = link.written ++
      link.accepted
        (Header.encode ⟨upload.length, Command.upload, 0⟩ ++ (upload.metaBytes ++ content)) := by
  have whole : upload.frame content =
      Header.encode ⟨upload.length, Command.upload, 0⟩ ++ (upload.metaBytes ++ content) := by
    rw [frame, ← metaBytes_eq, Bytes.chunked_of_le (Nat.le_of_eq sized), sized, List.take_length,
      List.append_assoc]
    rfl
  rw [run_eq_send, ← whole]
  by_cases fits : link.HasRoom (upload.frame content).length
  · obtain ⟨sent, done, -, moved⟩ := send_of_fits opened fits (Nat.le_of_eq sized)
    have unsaid := Action.keeps_onFirst (τ := Source) keeps_written_receive
      (sent, ⟨content.drop upload.size.toNat, false⟩)
    rw [Action.bind_of_ok done]
    refine unsaid.trans ?_
    rw [Link.accepted_of_hasRoom fits, ← moved.written]
  · obtain ⟨last, left, failed, moved⟩ := send_of_full opened fits
    rw [Action.bind_of_error failed, Action.after, moved.written]

namespace World

/-- Leads an upload to a link to the storage node that a tracker names. -/
def reachStore : Action World (StorageNode × Client.PoolRef × Lease) := do
  let node ← World.query .store
  let ref ← storagePool node.address
  let lease ← onDesk ref Lease.take
  pure (node, ref, lease)

theorem sending_eq_reachStore (file : StagedFile) :
    sending file = reachStore >>= fun (node, ref, lease) =>
      onLease ref lease (Action.onFirst (sendFile node file)) := by
  simp only [sending, operation, reachStore, onStorage, bind_assoc, pure_bind]

/-- What an upload writes to the link that it is lent. -/
theorem written_upload {world lent : World} {path : Bytes} {file : StagedFile}
    {node : StorageNode} {ref : Client.PoolRef} {id : LinkId}
    (staged : world.client.accessor.stage world.files path = .ok file)
    (reached : reachStore world.opened = .ok (node, ref, ⟨some id⟩) lent)
    (opened : lent.board.isOpen id = true) :
    ((Action.after (World.call (.upload path) world)).board.link id).written =
      (Action.after (sendFile node file (lent.board.link id))).written := by
  have sent : sending file world.opened =
      onLease ref ⟨some id⟩ (Action.onFirst (sendFile node file)) lent := by
    rw [sending_eq_reachStore, Action.bind_of_ok reached]
  rw [World.call, Action.after_bind_pure, (upload_of_staged staged).2, sent]
  have used := written_onLease ref (Switchboard.lt_length_of_isOpen opened)
    (Action.onFirst (sendFile node file))
  rwa [Action.after_onFirst] at used

end World

/-- From a path to the wire. A path that leads to a file of at least one byte, and of fewer than
2^64 - 15, can be opened. The request for its upload declares 15 bytes more than there are in the
file, gives the size of the file, the first six bytes of the suffix of its name, filled up with
zeros, and then the file byte for byte. That is what an upload writes, as far as the link accepts
it: over any open link, and so over the one that a client is lent for the node that a tracker names.
There is no dot and no slash in the extension, and folders in front of the path do not change it.
Any other path is refused with a fault of the transfer, before anyone is asked for anything. -/
theorem path_to_wire (tree : FileTree) (path : Bytes) :
    (∀ location content, tree.find path = .found location (.file content) → content ≠ [] →
      content.length < 2 ^ 64 - 15 →
      ∃ file name suffix, Accessor.disk.stage tree path = .ok file ∧
        HasSuffix path name suffix ∧ extensionOf path = suffix.take 6 ∧
        46 ∉ Field.padded suffix 6 ∧ 47 ∉ Field.padded suffix 6 ∧
        ∀ node : StorageNode, ∃ length size : UInt64,
          length.toNat = 15 + content.length ∧ size.toNat = content.length ∧
          let request := Header.encode ⟨length, Command.upload, 0⟩ ++
            (node.pathIndex :: (BigEndian.encode size ++ Field.padded suffix 6) ++ content)
          (∀ link : Link, link.isOpen = true →
            (Action.after (World.sendFile node file link)).written =
              link.written ++ link.accepted request) ∧
          ∀ (world : World) ref id, world.client.accessor = .disk → world.files = tree →
            Action.result (World.reachStore world.opened) = .ok (node, ref, ⟨some id⟩) →
            let link := (Action.after (World.reachStore world.opened)).board.link id
            link.isOpen = true →
            ((Action.after (World.call (.upload path) world)).board.link id).written =
              link.written ++ link.accepted request) ∧
    (∀ folder, extensionOf (folder ++ 47 :: path) = extensionOf path) ∧
    ((∀ location content, tree.find path = .found location (.file content) → content = []) →
      ∃ cause, Accessor.disk.stage tree path = .error (.transfer cause) ∧
        ∀ world : World, world.client.accessor = .disk → world.files = tree →
          World.call (.upload path) world =
            .error (.transfer cause) { world with asked := world.asked + 1 }) := by
  refine ⟨?_, fun folder => extensionOf_in_folder folder path, ?_⟩
  · intro location content found filled short
    obtain ⟨name, suffix, has⟩ := HasSuffix.exists_of_path path
    have staged := FileTree.stage_of_file found filled
    refine ⟨_, name, suffix, staged, has, has.extensionOf_eq,
      Field.not_mem_padded has.dot_not_mem (by decide) 6,
      Field.not_mem_padded has.slash_not_mem (by decide) 6, fun node => ?_⟩
    let upload : Upload := ⟨node.pathIndex, UInt64.ofNat content.length, extensionOf path⟩
    have sized : upload.size.toNat = content.length := by
      rw [UInt64.toNat_ofNat', Nat.mod_eq_of_lt (by omega)]
    have declared : upload.length.toNat = 15 + content.length := by
      rw [Upload.toNat_length (by rw [sized]; exact short), sized]
    have writes (link : Link) (opened : link.isOpen = true) :
        (Action.after (World.sendFile node ⟨UInt64.ofNat content.length, extensionOf path,
          .ofContent content⟩ link)).written = link.written ++ link.accepted
            (Header.encode ⟨upload.length, Command.upload, 0⟩ ++
              (node.pathIndex :: (BigEndian.encode upload.size ++ Field.padded suffix 6) ++
                content)) := by
      rw [World.after_sendFile, ← has.metaBytes_eq]
      exact Upload.written_run sized opened
    refine ⟨upload.length, upload.size, declared, sized, writes, ?_⟩
    rintro world ref id onDisk rfl named link opened
    have reached : World.reachStore world.opened =
        .ok (node, ref, ⟨some id⟩) (Action.after (World.reachStore world.opened)) :=
      Action.eq_ok_of_result named
    have opens : world.client.accessor.stage world.files path =
        .ok ⟨UInt64.ofNat content.length, extensionOf path, .ofContent content⟩ := by
      rw [onDisk]
      exact staged
    rw [World.written_upload opens reached opened]
    exact writes link opened
  · intro unfilled
    obtain ⟨cause, refused⟩ := FileTree.exists_stage_of_unfilled unfilled
    refine ⟨cause, refused, ?_⟩
    rintro world onDisk rfl
    have unstaged : world.client.accessor.stage world.files path = .error (.transfer cause) := by
      rw [onDisk]
      exact refused
    exact Action.bind_of_error (World.upload_of_unstaged unstaged) _

theorem path_to_wire_of_hidden_file :
    let folder := Bytes.ofText "a.d"
    let path := folder ++ 47 :: Bytes.ofText ".x.tar.jpegxyz"
    let files := (FileTree.blank.makeFolder folder).writeFile path [7, 8]
    let named := Header.encode ⟨40, Command.answer, 0⟩ ++ Field.padded (Bytes.ofText "g") 16 ++
      Field.padded (Bytes.ofText "s") 15 ++ BigEndian.encode 7 ++ [3]
    let start : World := ⟨⟨[⟨Bytes.ofText "t:1", 1, [], 0, false⟩], [], 1, .disk⟩,
      .ofDialer (.script ⟨[], [.link named none true, .link [] none true]⟩), files, 0, 0, 0⟩
    files.find path = .found [Bytes.ofText "work", folder, Bytes.ofText ".x.tar.jpegxyz"]
      (.file [7, 8]) ∧
      ((Action.after (World.call (.upload path) start)).board.link 1).written =
        Header.encode ⟨17, Command.upload, 0⟩ ++
          (3 :: (BigEndian.encode 2 ++ Bytes.ofText "jpegxy") ++ [7, 8]) ∧
      extensionOf (folder ++ 47 :: path) = Bytes.ofText "jpegxy" ∧
      ∃ cause, World.call (.upload folder) start =
        .error (.transfer cause) { start with asked := 1 } := by
  intro folder path files named start
  have found : files.find path =
      .found [Bytes.ofText "work", folder, Bytes.ofText ".x.tar.jpegxyz"] (.file [7, 8]) := by
    decide +kernel
  have isFolder : files.find folder = .found [Bytes.ofText "work", folder] .folder := by
    decide +kernel
  have ended : extensionOf path = Bytes.ofText "jpegxy" := by decide +kernel
  obtain ⟨sends, behind, -⟩ := path_to_wire files path
  obtain ⟨file, name, suffix, -, -, cut, -, -, requests⟩ :=
    sends _ [7, 8] found (by decide) (by decide)
  let node : StorageNode := ⟨Bytes.ofText "g", ⟨Bytes.ofText "s", 7⟩, 3⟩
  obtain ⟨length, size, declared, sized, -, uploads⟩ := requests node
  have wrote := uploads start (.storage 0) 1 rfl rfl (by decide +kernel) (by decide +kernel)
  have fresh : (Action.after (World.reachStore start.opened)).board.link 1 =
      .inMemory (Bytes.ofText "s:7") [] none true := by
    decide +kernel
  have seventeen : length = 17 := UInt64.toNat_inj.mp declared
  have two : size = 2 := UInt64.toNat_inj.mp sized
  rw [fresh, ← Field.padded_take suffix, ← cut, ended, seventeen, two] at wrote
  obtain ⟨cause, -, refused⟩ := (path_to_wire files folder).2.2 fun location content leads => by
    rw [isFolder] at leads
    cases leads
  exact ⟨found, wrote, (behind folder).trans ended, cause, refused start rfl rfl⟩

end TrackedStorage
