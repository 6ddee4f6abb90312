import TrackedStorage.Proofs.Hosting

set_option autoImplicit false

namespace TrackedStorage

namespace World

/-- Uploads of what a local file holds, of less than 2^63 bytes, and downloads to where a file can
be created, by a text that is no longer than memory can hold. -/
def Orderly (world : World) : Call → Prop
  | .upload path => ∃ content extension, content.length < 2 ^ 63 ∧
      world.client.accessor.stage world.files path =
        .ok ⟨UInt64.ofNat content.length, extension, .ofContent content⟩
  | .download text path _ _ => text.length < 2 ^ 63 ∧
      ∃ location opened, world.files.create? path = some (.file location, opened)
  | .storagePool _ => False
  | .destroy => False
  | .drop _ => False

/-- The identifier that an upload ends in, and the content that it had to upload. -/
def shelved (world : World) : Event → List (FileId × Bytes)
  | .call (.upload path) =>
      match World.upload path world, world.client.accessor.stage world.files path with
      | .ok id _, .ok file => [(id, file.source.content)]
      | _, _ => []
  | _ => []

/-- All identifiers that the uploads of a history end in, with what was uploaded. -/
def shelf (world : World) : List Event → List (FileId × Bytes)
  | [] => []
  | event :: rest => world.shelved event ++ shelf (world.happen event) rest

/-- What a store does for a call when some files are on its shelf. An upload ends in a new
identifier. A download puts the part that it asks for into the local file, unless the part begins
behind the end of the content. -/
def Fulfils (shelf : List (FileId × Bytes)) (world : World) : Call → Prop
  | .upload path => ∃ id, Action.result (World.upload path world) = .ok id ∧
      ∀ content, (id, content) ∉ shelf
  | .download text path offset count => ∀ id content, (id, content) ∈ shelf → text = id.toBytes →
      let ended := World.download text path offset count world
      if content.length < offset.toNat then
        Action.result ended = .error (.status 22) ∧ (Action.after ended).files = world.files
      else
        Action.result ended = .ok () ∧ (Action.after ended).files.read? path =
          some (Download.partOf ⟨id, offset, count⟩ content)
  | .storagePool _ => True
  | .destroy => True
  | .drop _ => True

theorem mem_of_lookup {store : Store} {name content : Bytes}
    (found : store.lookup name = some content) : (name, content) ∈ store := by
  obtain ⟨front, rest, rfl, -⟩ := List.lookup_eq_some_iff.mp found
  exact List.mem_append_right front List.mem_cons_self

section
variable {site : Site} {ledger last : Ledger} {world : World}

theorem thenUnstage_of_ok {α : Type} {action : Action World α} {value : α} {after : World}
    (done : action world = .ok value after) :
    thenUnstage action world = .ok value { after with unstaged := after.unstaged + 1 } := by
  simp only [thenUnstage, done]

theorem sendFile_of_ok {node : StorageNode} {file : StagedFile} {link after : Link}
    {source : Source} {id : FileId}
    (done : Upload.run ⟨node.pathIndex, file.size, file.extension⟩ (link, file.source) =
      .ok id (after, source)) : sendFile node file link = .ok id after := by
  simp only [sendFile, done]

theorem after_sendFile (node : StorageNode) (file : StagedFile) (link : Link) :
    Action.after (sendFile node file link) = (Action.after
      (Upload.run ⟨node.pathIndex, file.size, file.extension⟩ (link, file.source))).1 := by
  unfold sendFile
  dsimp only
  cases Upload.run ⟨node.pathIndex, file.size, file.extension⟩ (link, file.source) <;> rfl

/-- An upload ends in an identifier of the site's group, under whose filename the content is kept
from then on and nothing was kept before. -/
theorem Equipped.upload (equipped : Equipped site ledger world) (valid : site.IsValid)
    {path content extension : Bytes} (short : content.length < 2 ^ 63)
    (staged : world.client.accessor.stage world.files path =
      .ok ⟨UInt64.ofNat content.length, extension, .ofContent content⟩)
    (answers : site.Answers ledger (uses (.upload path) world) last) :
    ∃ name after, World.upload path world = .ok ⟨site.group, name⟩ after ∧
      ledger.store.lookup name = none ∧ name ≠ [] ∧
      last.store = (name, content) :: ledger.store ∧ Equipped site last after := by
  have opened : stage path world =
      .ok ⟨UInt64.ofNat content.length, extension, .ofContent content⟩
        { world with asked := world.asked + 1, staged := world.staged + 1 } := by
    simp only [stage, staged]
  have counted := equipped.counted (world.asked + 1) (world.staged + 1) world.unstaged
  simp only [uses, opened] at answers
  obtain ⟨node, ref, id, found, lent, middle, same, nodeLoan, -, storing, operated⟩ :=
    counted.operation valid (by decide) (Request.ofFrame?_store (by decide)) trivial answers
  rw [Action.after_onFirst, after_sendFile] at storing
  have sized : content.length =
      (Upload.mk node.pathIndex (UInt64.ofNat content.length) extension).size.toNat := by
    rw [UInt64.toNat_ofNat', Nat.mod_eq_of_lt (Nat.lt_trans short (by decide))]
  have fits : (Upload.metaBytes ⟨node.pathIndex, UInt64.ofNat content.length, extension⟩ ++
      content).length < 2 ^ 64 := by
    rw [List.length_append, Upload.length_metaBytes]
    simp only [Upload.metaLength, Upload.extensionWidth, BigEndian.width]
    omega
  have announced := Upload.asked sized fits [] nodeLoan.free
  rw [List.append_nil] at announced
  obtain ⟨cut, read⟩ := Request.ofFrame?_upload fits
  obtain ⟨answer, next, serves, answered, later⟩ :=
    served_of_answers storing nodeLoan.inStep ((Request.read?_of_asked announced).trans read)
      ⟨nodeLoan.leads, sized⟩
  rw [same] at serves
  obtain ⟨name, link, fresh, filed, rfl, ran, took⟩ :=
    Site.run_of_served valid serves nodeLoan.free answered sized []
  rw [List.append_nil] at ran
  have sent : sendFile node ⟨UInt64.ofNat content.length, extension, .ofContent content⟩
      (lent.board.link id) = .ok ⟨site.group, name⟩ link := sendFile_of_ok ran
  have settled := nodeLoan.loan.onLease_of_ok (Action.onFirst_of_ok sent lent.files)
  have kept := nodeLoan.settle_of_took took ((name, content) :: ledger.store) lent.files
  cases later with
  | done =>
      have ended := thenUnstage_of_ok (operated.trans settled)
      refine ⟨name, _, (Action.bind_of_ok opened _).trans ended, fresh, filed, rfl, ?_⟩
      exact kept.counted _ _ _

/-- A download ends as its operation does, whose value is dropped. -/
theorem download_eq_operation {text path : Bytes} {id : FileId} {offset count : UInt64}
    (parsed : FileId.parse text = .ok id) :
    World.download text path offset count =
      ((World.query (.fetch id) >>= fun node =>
        onStorage node (Download.toFile ⟨id, offset, count⟩ path)) >>= fun _ => pure ()) := by
  rw [download_of_parse parsed, bind_assoc]

/-- A download leaves the store as it is. Of a file that is kept it fetches the part that it asks
for, unless that begins behind the end. -/
theorem Equipped.download (equipped : Equipped site ledger world) (valid : site.IsValid)
    (small : ∀ file ∈ ledger.store, file.2.length < 2 ^ 63)
    {text path : Bytes} {id : FileId} {offset count : UInt64}
    (parsed : FileId.parse text = .ok id) (short : text.length < 2 ^ 63)
    {location : Location} {opened : FileTree}
    (created : world.files.create? path = some (.file location, opened))
    (answers : site.Answers ledger (uses (.download text path offset count) world) last) :
    let ended := World.download text path offset count world
    last.store = ledger.store ∧ Equipped site last (Action.after ended) ∧
      ∀ content, ledger.store.lookup id.filename = some content →
        if content.length < offset.toNat then
          Action.result ended = .error (.status 22) ∧ (Action.after ended).files = world.files
        else
          Action.result ended = .ok () ∧ (Action.after ended).files.read? path =
            some (Download.partOf ⟨id, offset, count⟩ content) := by
  intro ended
  have readable := FileId.parse_eq_ok_iff.mp parsed
  have named := Nat.lt_trans (FileId.length_lt_of_parse parsed) short
  have sought := Query.length_fetch_lt named
  have fits : (Download.mk id offset count).body.length < 2 ^ 64 := Download.length_body_lt named
  obtain ⟨other, fetching⟩ := Request.ofFrame?_fetch sought
  simp only [uses, parsed] at answers
  obtain ⟨node, ref, link, found, lent, middle, same, nodeLoan, files, storing, operated⟩ :=
    equipped.operation valid sought fetching trivial answers
  have requested := Download.asked_toFile fits path nodeLoan.free lent.files
  obtain ⟨group, read⟩ := Request.ofFrame?_download fits
  obtain ⟨answer, next, serves, answered, later⟩ :=
    served_of_answers storing nodeLoan.inStep ((Request.read?_of_asked requested).trans read)
      ⟨nodeLoan.leads, readable.2.filed⟩
  have final : last = middle.send link answer next := by
    cases later
    rfl
  rw [same] at serves
  rw [← files] at created
  have ended_of_ok {value : UInt64} {used : Link} {tree : FileTree}
      (ran : Download.toFile ⟨id, offset, count⟩ path (lent.board.link link, lent.files) =
        .ok value (used, tree)) : ended = .ok () (settle ref link used tree lent) := by
    show World.download text path offset count world = _
    rw [download_eq_operation parsed]
    exact Action.bind_of_ok (operated.trans (nodeLoan.loan.onLease_of_ok ran)) _
  have ended_of_error {fault : Fault} {used : Link} {tree : FileTree}
      (ran : Download.toFile ⟨id, offset, count⟩ path (lent.board.link link, lent.files) =
        .error fault (used, tree)) :
      ended = .error fault (settle ref link used.close tree lent) := by
    show World.download text path offset count world = _
    rw [download_eq_operation parsed]
    exact Action.bind_of_error (operated.trans (nodeLoan.loan.onLease_of_error ran)) _
  rw [final]
  cases serves with
  | unknown _ absent =>
      obtain ⟨used, ran⟩ := Download.toFile_of_status (by decide) nodeLoan.free answered
      rw [ended_of_error ran]
      refine ⟨rfl, nodeLoan.settle_of_close used _ lent.files, ?_⟩
      intro content found
      cases absent.symm.trans found
  | beyond _ content found beyond =>
      obtain ⟨used, ran⟩ := Download.toFile_of_status (by decide) nodeLoan.free answered
      rw [ended_of_error ran]
      refine ⟨rfl, nodeLoan.settle_of_close used _ lent.files, ?_⟩
      intro content' found'
      cases found.symm.trans found'
      rw [if_pos beyond]
      exact ⟨rfl, files⟩
  | part _ content found within =>
      have length := Download.length_partOf_le ⟨id, offset, count⟩ content
      have bounded := small _ (mem_of_lookup found)
      obtain ⟨declared, used, ran, took⟩ :=
        Download.toFile_of_body (Nat.lt_of_le_of_lt length bounded)
          (Download.length_partOf_le_count ⟨id, offset, count⟩ content) nodeLoan.free answered
          created
      rw [ended_of_ok ran]
      refine ⟨rfl, nodeLoan.settle_of_took took _ _, ?_⟩
      intro content' found'
      cases found.symm.trans found'
      rw [if_neg (Nat.not_lt.mpr within)]
      exact ⟨rfl, FileTree.read?_put_of_create? created _⟩

/-- What a site keeps is short enough to be sent, and what is on a shelf is kept under the name that
its identifier leads to. -/
structure Kept (store : Store) (shelf : List (FileId × Bytes)) : Prop where
  small : ∀ file ∈ store, file.2.length < 2 ^ 63
  held : ∀ id content, (id, content) ∈ shelf →
    id.IsReadable ∧ store.lookup id.filename = some content

variable {store : Store} {shelf : List (FileId × Bytes)}

theorem Kept.not_mem_of_fresh (kept : Kept store shelf) {id : FileId}
    (fresh : store.lookup id.filename = none) (content : Bytes) : (id, content) ∉ shelf := by
  intro isIn
  have found := (kept.held id content isIn).2
  cases fresh.symm.trans found

theorem Kept.add (kept : Kept store shelf) {id : FileId} {content : Bytes}
    (readable : id.IsReadable) (fresh : store.lookup id.filename = none)
    (short : content.length < 2 ^ 63) :
    Kept ((id.filename, content) :: store) (shelf ++ [(id, content)]) := by
  refine ⟨?_, ?_⟩
  · intro file isIn
    rcases List.mem_cons.mp isIn with rfl | before
    · exact short
    · exact kept.small file before
  · intro other held isIn
    rcases List.mem_append.mp isIn with before | new
    · obtain ⟨read, found⟩ := kept.held other held before
      have differs : other.filename ≠ id.filename := by
        intro same
        rw [same] at found
        cases fresh.symm.trans found
      refine ⟨read, ?_⟩
      rw [List.lookup_cons, beq_false_of_ne differs]
      exact found
    · cases List.mem_singleton.mp new
      exact ⟨readable, List.lookup_cons_self⟩

/-- One call of an equipped client is served as by a store, and leaves the client equipped. -/
theorem Equipped.fulfils (equipped : Equipped site ledger world) (valid : site.IsValid)
    (kept : Kept ledger.store shelf) {call : Call} (orderly : Orderly world call)
    (answers : site.Answers ledger (uses call world) last) :
    Fulfils shelf world call ∧ Equipped site last (world.happen (.call call)) ∧
      Kept last.store (shelf ++ world.shelved (.call call)) := by
  cases call with
  | upload path =>
      obtain ⟨content, extension, short, staged⟩ := orderly
      obtain ⟨name, after, stored, fresh, filed, same, still⟩ :=
        equipped.upload valid short staged answers
      have readable : FileId.IsReadable ⟨site.group, name⟩ :=
        ⟨valid.named, valid.groupFits, valid.unslashed, filed⟩
      refine ⟨⟨⟨site.group, name⟩, ?_, ?_⟩, ?_, ?_⟩
      · rw [stored]
        rfl
      · exact kept.not_mem_of_fresh fresh
      · rw [happen, World.call, Action.after_bind_pure, stored]
        exact still
      · simp only [shelved, stored, staged]
        rw [same]
        exact kept.add readable fresh short
  | download text path offset count =>
      obtain ⟨short, location, opened, created⟩ := orderly
      have nothing : shelf ++ world.shelved (.call (.download text path offset count)) = shelf :=
        List.append_nil shelf
      rw [nothing, happen, World.call, Action.after_bind_pure]
      cases parsed : FileId.parse text with
      | error fault =>
          simp only [uses, parsed] at answers
          have unread : World.download text path offset count world = .error fault world := by
            rw [World.download, parsed]
            rfl
          rw [unread]
          cases answers with
          | done =>
              refine ⟨?_, equipped, kept⟩
              rintro id content isIn rfl
              have read := FileId.parse_eq_ok_iff.mpr ⟨rfl, (kept.held id content isIn).1⟩
              cases parsed.symm.trans read
      | ok id =>
          obtain ⟨same, still, fetched⟩ :=
            equipped.download valid kept.small parsed short created answers
          rw [same]
          refine ⟨?_, still, kept⟩
          rintro other content isIn rfl
          obtain ⟨readable, found⟩ := kept.held other content isIn
          have read := FileId.parse_eq_ok_iff.mpr ⟨rfl, readable⟩
          cases parsed.symm.trans read
          exact fetched content found
  | storagePool address => exact orderly.elim
  | destroy => exact orderly.elim
  | drop id => exact orderly.elim

/-- Every call of a history is served as by a store in which all uploads before it are on the
shelf. -/
theorem fulfils_run {history : List Event} (hosts : site.Hosts ledger world history)
    (valid : site.IsValid) (equipped : Equipped site ledger world)
    (kept : Kept ledger.store shelf) (orderly : Along Orderly world history)
    {before after : List Event} {call : Call} (parts : history = before ++ .call call :: after) :
    Fulfils (shelf ++ World.shelf world before) (run world before) call := by
  -- The shelf holds what the events before this point have put there.
  induction hosts generalizing shelf before with
  | done => simp at parts
  | surrounded files accessor later ih =>
      cases before with
      | nil => cases parts
      | cons event rest =>
          cases parts
          exact ih (equipped.surrounded files accessor) kept orderly.2 rfl
  | called other answers later ih =>
      obtain ⟨served, still, keeps⟩ :=
        equipped.fulfils valid kept (orderly.1 other rfl) answers
      cases before with
      | nil =>
          cases parts
          rw [World.shelf, List.append_nil]
          exact served
      | cons event rest =>
          cases parts
          rw [World.shelf, ← List.append_assoc]
          exact ih still keeps orderly.2 rfl

end

/-- A client with honest servers is a store of files. Every upload ends in an identifier that no
upload before it ended in. Every download of an identifier that an upload ended in puts exactly the
part that it asks for of what was uploaded into the local file, or ends with status 22 if that part
begins behind the end, and then leaves all files as they are. -/
theorem calls_served_as_by_store {settings : Settings} {dialer : Dialer}
    {accessor : Option Accessor} {files : FileTree} {start : World}
    (created : create settings dialer accessor files = .ok start) {site : Site}
    (valid : site.IsValid) (listed : ∀ address ∈ settings.trackers, address ∈ site.trackers)
    {store : Store} (small : ∀ file ∈ store, file.2.length < 2 ^ 63) {history : List Event}
    (orderly : Along Orderly start history) (hosts : site.Hosts (.unsent store) start history) :
    ∀ before call after, history = before ++ .call call :: after →
      Fulfils (shelf start before) (run start before) call := by
  intro before call after parts
  have kept : Kept store [] := by
    refine ⟨small, ?_⟩
    intro id content isIn
    cases isIn
  exact fulfils_run hosts valid (equipped_create created listed store) kept orderly parts

/-- A file is uploaded, a part of it is downloaded over the same links, and a part behind its end
is refused. -/
theorem calls_served_as_by_store_after_upload :
    let site : Site := ⟨[Bytes.ofText "t:1"], ⟨[103], ⟨[115], 7⟩, 0⟩, [103]⟩
    let named : Answer := ⟨0, site.description ++ [0]⟩
    let sought : Answer := ⟨0, site.description⟩
    let assigned : Answer := ⟨0, Field.padded [103] 16 ++ [102]⟩
    let part : Answer := ⟨0, [2, 3]⟩
    let refusal : Answer := ⟨22, []⟩
    let dialer : Dialer := .script ⟨[],
      [.link (named.encode ++ sought.encode ++ sought.encode) none true,
        .link (assigned.encode ++ part.encode ++ refusal.encode) none true]⟩
    let settings : Settings := ⟨[Bytes.ofText "t:1"], 1, 5, 30, [], []⟩
    let accessor : Accessor := .catalogue [([120], ⟨4, [], .ofContent [1, 2, 3, 4]⟩)]
    let start : World := ⟨⟨[⟨Bytes.ofText "t:1", 1, [], 0, false⟩], [], 1, accessor⟩,
      .ofDialer dialer, .blank, 0, 0, 0⟩
    let upload : Call := .upload [120]
    let within : Call := .download (Bytes.ofText "g/f") [121] 1 2
    let behind : Call := .download (Bytes.ofText "g/f") [121] 9 0
    let history : List Event := [.call upload, .call within, .call behind]
    create settings dialer (some accessor) .blank = .ok start ∧ site.IsValid ∧
      (∀ address ∈ settings.trackers, address ∈ site.trackers) ∧ Along Orderly start history ∧
      site.Hosts (.unsent []) start history ∧
      (Action.after (World.download (Bytes.ofText "g/f") [121] 1 2
        (run start [.call upload]))).files.read? [121] = some [2, 3] ∧
      Action.result (World.download (Bytes.ofText "g/f") [121] 9 0
        (run start [.call upload, .call within])) = .error (.status 22) := by
  intro site named sought assigned part refusal dialer settings accessor start upload within behind
    history
  let id : FileId := ⟨[103], [102]⟩
  let stored := start.happen (.call upload)
  let fetched := stored.happen (.call within)
  let asking := Header.encode ⟨0, Command.queryStore, 0⟩
  let seeking := Header.encode ⟨17, Command.queryFetch, 0⟩ ++ (Query.fetch id).body
  let sending :=
    Header.encode ⟨19, Command.upload, 0⟩ ++ (Upload.metaBytes ⟨0, 4, []⟩ ++ [1, 2, 3, 4])
  let taking (offset count : UInt64) :=
    Header.encode ⟨33, Command.download, 0⟩ ++ Download.body ⟨id, offset, count⟩
  let tracker (unread taken written : Bytes) : Link :=
    ⟨Bytes.ofText "t:1", true, unread, taken, written, none, .memory⟩
  let storage (unread taken written : Bytes) : Link :=
    ⟨Bytes.ofText "s:7", true, unread, taken, written, none, .memory⟩
  let kept : Store := [([102], [1, 2, 3, 4])]
  let first : Ledger := ((Ledger.unsent []).send 0 named []).send 1 assigned kept
  let second : Ledger := (first.send 0 sought kept).send 1 part kept
  let third : Ledger := (second.send 0 sought kept).send 1 refusal kept
  have created : create settings dialer (some accessor) .blank = .ok start := by decide +kernel
  have valid : site.IsValid := by constructor <;> decide
  have listed : ∀ address ∈ settings.trackers, address ∈ site.trackers := fun _ isIn => isIn
  have orderly : Along Orderly start history := by
    refine ⟨?_, ?_, ?_, trivial⟩
    · rintro _ ⟨⟩
      exact ⟨[1, 2, 3, 4], [], by decide, by decide +kernel⟩
    · rintro _ ⟨⟩
      exact ⟨by decide, [Bytes.ofText "work", [121]],
        stored.files.put [Bytes.ofText "work", [121]] (.file []), by decide +kernel⟩
    · rintro _ ⟨⟩
      exact ⟨by decide, [Bytes.ofText "work", [121]],
        fetched.files.put [Bytes.ofText "work", [121]] (.file []), by decide +kernel⟩
  have uploading : uses upload start =
      [.lent 0 (tracker (named.encode ++ sought.encode ++ sought.encode) [] [])
          (tracker (sought.encode ++ sought.encode) named.encode asking),
        .lent 1 (storage (assigned.encode ++ part.encode ++ refusal.encode) [] [])
          (storage (part.encode ++ refusal.encode) assigned.encode sending)] := by decide +kernel
  have reading : uses within stored =
      [.lent 0 (tracker (sought.encode ++ sought.encode) named.encode asking)
          (tracker sought.encode (named.encode ++ sought.encode) (asking ++ seeking)),
        .lent 1 (storage (part.encode ++ refusal.encode) assigned.encode sending)
          (storage refusal.encode (assigned.encode ++ part.encode) (sending ++ taking 1 2))] := by
    decide +kernel
  have missing : uses behind fetched =
      [.lent 0 (tracker sought.encode (named.encode ++ sought.encode) (asking ++ seeking))
          (tracker [] (named.encode ++ sought.encode ++ sought.encode)
            (asking ++ seeking ++ seeking)),
        .lent 1 (storage refusal.encode (assigned.encode ++ part.encode) (sending ++ taking 1 2))
          (storage [] (assigned.encode ++ part.encode ++ refusal.encode)
            (sending ++ taking 1 2 ++ taking 9 0))] := by decide +kernel
  have free {address unread taken written : Bytes} : written = [] → taken = [] →
      Link.IsFree ⟨address, true, unread, taken, written, none, .memory⟩ :=
    fun _ _ => ⟨rfl, rfl⟩
  have isTracker : Bytes.ofText "t:1" ∈ site.trackers := List.mem_singleton_self _
  have isNode : Bytes.ofText "s:7" = site.node.address := by decide +kernel
  have hosts : site.Hosts (.unsent []) start history := by
    have uploaded : site.Answers (.unsent []) (uses upload start) first := by
      rw [uploading]
      refine .served free (by decide +kernel : Request.read? _ = some .store) isTracker .store
        (by decide +kernel) ?_
      exact .served free (by decide +kernel : Request.read? _ =
        some (.upload ⟨0, 4, []⟩ [1, 2, 3, 4])) ⟨isNode, rfl⟩
        (.upload _ _ [102] rfl (by decide) (by decide)) (by decide +kernel) (.done first)
    have read : site.Answers first (uses within stored) second := by
      rw [reading]
      refine .served free (by decide +kernel : Request.read? _ = some (.fetch id)) isTracker
        (.fetch id) (by decide +kernel) ?_
      exact .served free (by decide +kernel : Request.read? _ = some (.download ⟨id, 1, 2⟩))
        ⟨isNode, List.cons_ne_nil _ _⟩ (.part _ [1, 2, 3, 4] rfl (by decide)) (by decide +kernel)
        (.done second)
    have refused : site.Answers second (uses behind fetched) third := by
      rw [missing]
      refine .served free (by decide +kernel : Request.read? _ = some (.fetch id)) isTracker
        (.fetch id) (by decide +kernel) ?_
      exact .served free (by decide +kernel : Request.read? _ = some (.download ⟨id, 9, 0⟩))
        ⟨isNode, List.cons_ne_nil _ _⟩ (.beyond _ [1, 2, 3, 4] rfl (by decide))
        (by decide +kernel) (.done third)
    exact .called upload uploaded (.called within read (.called behind refused (.done third _)))
  have small : ∀ file ∈ ([] : Store), file.2.length < 2 ^ 63 := by simp
  have shelved : (id, [1, 2, 3, 4]) ∈ shelf start [.call upload] := by decide +kernel
  have still : (id, [1, 2, 3, 4]) ∈ shelf start [.call upload, .call within] := by decide +kernel
  have partly := calls_served_as_by_store created valid listed small orderly hosts
    [.call upload] within [.call behind] rfl id [1, 2, 3, 4] shelved (by decide)
  have nothing := calls_served_as_by_store created valid listed small orderly hosts
    [.call upload, .call within] behind [] rfl id [1, 2, 3, 4] still (by decide)
  exact ⟨created, valid, listed, orderly, hosts, partly.2, nothing.1⟩

end World

end TrackedStorage
