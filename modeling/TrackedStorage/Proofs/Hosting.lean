import TrackedStorage.Proofs.HonestServers

set_option autoImplicit false

namespace TrackedStorage

/-- An attempt of a client to use a link: the fault for which it got none, or the number of the link
with the link as it was lent and as the exchange left it. -/
inductive Use where
  | refused (fault : Fault)
  | lent (id : LinkId) (before after : Link)
  deriving DecidableEq

namespace World

def leaseUses {α : Type} (ref : Client.PoolRef) (exchange : Action (Link × FileTree) α)
    (world : World) : List Use :=
  match onDesk ref Lease.take world with
  | .error fault _ => [.refused fault]
  | .ok lease lent => lease.held.toList.map fun id =>
      .lent id (lent.board.link id) (Action.after (exchange (lent.board.link id, lent.files))).1

/-- The trackers that refuse a link, and the one that is asked. -/
def trackerUses (query : Query) : List Nat → World → List Use
  | [], _ => []
  | index :: rest, world =>
      leaseUses (.tracker index) (Action.onFirst query.ask) world ++
        match onDesk (.tracker index) Lease.take world with
        | .error fault after => if isUnavailable fault then trackerUses query rest after else []
        | .ok _ _ => []

def storageUses {α : Type} (node : StorageNode) (exchange : Action (Link × FileTree) α)
    (world : World) : List Use :=
  match storagePool node.address world with
  | .error _ _ => []
  | .ok ref found => leaseUses ref exchange found

def operationUses {α : Type} (query : Query)
    (exchange : StorageNode → Action (Link × FileTree) α) (world : World) : List Use :=
  trackerUses query (List.range world.client.trackers.length) world ++
    match World.query query world with
    | .error _ _ => []
    | .ok node asked => storageUses node (exchange node) asked

/-- All attempts of a call to use a link, in order. -/
def uses : Call → World → List Use
  | .upload path, world =>
      match stage path world with
      | .error _ _ => []
      | .ok file staged =>
          operationUses .store (fun node => Action.onFirst (sendFile node file)) staged
  | .download id path offset count, world =>
      match FileId.parse id with
      | .error _ => []
      | .ok id =>
          operationUses (.fetch id) (fun _ => Download.toFile ⟨id, offset, count⟩ path) world
  | .storagePool _, _ => []
  | .destroy, _ => []
  | .drop _, _ => []

end World

/-- What the servers keep, and what they have sent over each link so far. -/
structure Ledger where
  store : Store
  sent : LinkId → Bytes

namespace Ledger

/-- Servers that nobody has asked anything. -/
def unsent (store : Store) : Ledger := ⟨store, fun _ => []⟩

def send (ledger : Ledger) (id : LinkId) (answer : Answer) (next : Store) : Ledger where
  store := next
  sent other := if other = id then ledger.sent id ++ answer.encode else ledger.sent other

variable (ledger : Ledger) (id : LinkId) (answer : Answer) (next : Store)

theorem sent_send_self : (ledger.send id answer next).sent id = ledger.sent id ++ answer.encode :=
  if_pos rfl

theorem sent_send_of_ne {other : LinkId} (differs : other ≠ id) :
    (ledger.send id answer next).sent other = ledger.sent other := if_neg differs

end Ledger

/-- Whether all dials succeed and all requests are answered as the site does. No dial fails, and a
link on which nothing happened yet is free. All that comes over a link begins with what was sent
over it before, and then with the answer to the request if the server at its address takes it. -/
inductive Site.Answers (site : Site) : Ledger → List Use → Ledger → Prop
  | done (ledger : Ledger) : Answers site ledger [] ledger
  | refused {ledger last : Ledger} {rest : List Use} (fault : Fault)
      (dialed : ∀ address reason, fault ≠ .dial address reason)
      (later : Answers site ledger rest last) : Answers site ledger (.refused fault :: rest) last
  | served {ledger last : Ledger} {next : Store} {rest : List Use} {id : LinkId}
      {before after : Link} {request : Request} {answer : Answer}
      (new : before.written = [] → before.taken = [] → before.IsFree)
      (read : Request.read? (after.written.drop before.written.length) = some request)
      (takes : site.Takes before.address request)
      (serves : site.Serves ledger.store request answer next)
      (answered : ledger.sent id ++ answer.encode <+: before.taken ++ before.unread)
      (later : Answers site (ledger.send id answer next) rest last) :
      Answers site ledger (.lent id before after :: rest) last
  | ignored {ledger last : Ledger} {rest : List Use} {id : LinkId} {before after : Link}
      (new : before.written = [] → before.taken = [] → before.IsFree)
      (unread : ∀ request, Request.read? (after.written.drop before.written.length) =
        some request → ¬ site.Takes before.address request)
      (later : Answers site ledger rest last) :
      Answers site ledger (.lent id before after :: rest) last

/-- Whether all dials of a history succeed, and the site answers all requests in it. -/
inductive Site.Hosts (site : Site) : Ledger → World → List World.Event → Prop
  | done (ledger : Ledger) (world : World) : Hosts site ledger world []
  | surrounded {ledger : Ledger} {world : World} {rest : List World.Event} (files : FileTree)
      (accessor : Accessor)
      (later : Hosts site ledger (world.happen (.surroundings files accessor)) rest) :
      Hosts site ledger world (.surroundings files accessor :: rest)
  | called {ledger next : Ledger} {world : World} {rest : List World.Event} (call : World.Call)
      (answers : site.Answers ledger (world.uses call) next)
      (later : Hosts site next (world.happen (.call call)) rest) :
      Hosts site ledger world (.call call :: rest)

namespace World

/-- A client that can serve. Nothing is destroyed or on loan, the first pool is a tracker's, every
pool may have links, and over those that wait all that was sent has been read. -/
structure Equipped (site : Site) (ledger : Ledger) (world : World) : Prop where
  ready : Ready world
  capable : world.client.capacity ≠ 0
  tracked : world.client.Has (.tracker 0)
  listed : (world.client.pool (.tracker 0)).address ∈ site.trackers
  inStep : ∀ ref, ∀ id ∈ (world.client.pool ref).idle,
    (world.board.link id).InStep (world.client.pool ref).address (ledger.sent id)
  unsent : ∀ id, world.board.links.length ≤ id → ledger.sent id = []

theorem Loan.onLease_of_ok {α : Type} {ref : Client.PoolRef} {id : LinkId} {world lent : World}
    (loan : Loan ref id world lent) {exchange : Action (Link × FileTree) α} {value : α}
    {link : Link} {files : FileTree}
    (done : exchange (lent.board.link id, lent.files) = .ok value (link, files)) :
    onLease ref ⟨some id⟩ exchange lent = .ok value (settle ref id link files lent) := by
  have used : onLink id exchange lent =
      .ok value { lent with board := lent.board.setLink id link, files := files } := by
    simp only [onLink, Action.on, done]
  simp only [onLease, used]
  exact congrArg (EStateM.Result.ok value) (loan.release_eq link files)

theorem Loan.onLease_of_error {α : Type} {ref : Client.PoolRef} {id : LinkId}
    {world lent : World} (loan : Loan ref id world lent)
    {exchange : Action (Link × FileTree) α} {fault : Fault} {link : Link} {files : FileTree}
    (failed : exchange (lent.board.link id, lent.files) = .error fault (link, files)) :
    onLease ref ⟨some id⟩ exchange lent = .error fault (settle ref id link.close files lent) := by
  have used : onLink id exchange lent =
      .error fault { lent with board := lent.board.setLink id link, files := files } := by
    simp only [onLink, Action.on, failed]
  simp only [onLease, used]
  exact congrArg (EStateM.Result.error fault) (loan.discard_eq link files)

/-- How a pool comes to lend a link: it waited open, or none did and it was dialed right now. -/
inductive Lends (ref : Client.PoolRef) (id : LinkId) (world lent : World) : Prop
  | waited (isIdle : id ∈ (world.client.pool ref).idle) (isOpen : world.board.isOpen id = true)
      (same : lent.board = world.board)
  | dialed (fresh : id = world.board.links.length)
      (shut : ∀ other ∈ (world.client.pool ref).idle, world.board.isOpen other = false)
      (called : lent.board.dialed = world.board.dialed ++ [(world.client.pool ref).address])
      (leads : (lent.board.link id).address = (world.client.pool ref).address)
      (unwritten : (lent.board.link id).written = []) (untaken : (lent.board.link id).taken = [])
      (made : world.board.made? (world.client.pool ref).address = some id)

theorem lends_of_take {ref : Client.PoolRef} {id : LinkId} {world lent : World}
    (taken : onDesk ref Lease.take world = .ok ⟨some id⟩ lent) : Lends ref id world lent := by
  obtain ⟨desk, acquire, rfl⟩ := acquire_of_take taken
  have acquired := Pool.acquire_acquired (world.client.pool ref) world.board
  rw [← desk_eq, acquire] at acquired
  cases acquired with
  | reused closed id rest running idle shut opened =>
      refine .waited ?_ opened rfl
      rw [idle]
      exact List.mem_append_right _ List.mem_cons_self
  | made id after running shut room dialed =>
      have dial := Switchboard.Dialed.of_dial dialed
      exact .dialed dial.eq_length shut dial.dialed_eq (Switchboard.address_of_dial dialed)
        dial.untouched.1 dial.untouched.2 (Switchboard.made?_of_dial dialed)

section
variable {site : Site} {ledger last : Ledger} {world : World}

/-- Where no dial fails a pool that is not destroyed lends a free link to its address, over which
all that was sent has been read. -/
theorem Equipped.lend {α : Type} (equipped : Equipped site ledger world) {ref : Client.PoolRef}
    (has : world.client.Has ref) {exchange : Action (Link × FileTree) α} {rest : List Use}
    (answers : site.Answers ledger (leaseUses ref exchange world ++ rest) last) :
    ∃ id lent, onDesk ref Lease.take world = .ok ⟨some id⟩ lent ∧ Loan ref id world lent ∧
      (lent.board.link id).IsFree ∧
      (lent.board.link id).InStep (world.client.pool ref).address (ledger.sent id) ∧
      leaseUses ref exchange world = [.lent id (lent.board.link id)
        (Action.after (exchange (lent.board.link id, lent.files))).1] := by
  have tidy := equipped.ready.tidy
  cases taken : onDesk ref Lease.take world with
  | error fault after =>
      have refusal := tidy.refusal taken
      simp only [leaseUses, taken] at answers
      cases refusal with
      | destroyed gone => cases (equipped.ready.running ref has).symm.trans gone
      | failed outcome address reason board running shut dialed unmade =>
          cases answers with
          | refused _ undialed later => exact absurd rfl (undialed address reason)
  | ok lease lent =>
      obtain ⟨id, rfl⟩ := held_of_take taken
      have same : leaseUses ref exchange world = [.lent id (lent.board.link id)
          (Action.after (exchange (lent.board.link id, lent.files))).1] := by
        simp only [leaseUses, taken, Option.toList_some, List.map_cons, List.map_nil]
      have new : (lent.board.link id).written = [] → (lent.board.link id).taken = [] →
          (lent.board.link id).IsFree := by
        rw [same] at answers
        cases answers with
        | served new => exact new
        | ignored new => exact new
      refine ⟨id, lent, rfl, tidy.loan taken, ?_⟩
      cases lends_of_take taken with
      | waited isIdle isOpen board =>
          have inStep := equipped.inStep ref id isIdle
          rw [← board] at inStep isOpen
          exact ⟨⟨isOpen, inStep.unlimited⟩, inStep, same⟩
      | dialed fresh shut called leads unwritten untaken =>
          subst fresh
          have free := new unwritten untaken
          have unsent := equipped.unsent world.board.links.length (Nat.le_refl _)
          exact ⟨free, ⟨leads, untaken.trans unsent.symm, free.unlimited⟩, same⟩

/-- A request that the server takes is served, and the answer is what a link in step has to answer
next. -/
theorem served_of_answers {id : LinkId} {before after : Link} {rest : List Use}
    {request : Request} {address : Bytes}
    (answers : site.Answers ledger (.lent id before after :: rest) last)
    (inStep : before.InStep address (ledger.sent id))
    (read : Request.read? (after.written.drop before.written.length) = some request)
    (takes : site.Takes address request) :
    ∃ answer next, site.Serves ledger.store request answer next ∧
      answer.encode <+: before.unread ∧
      site.Answers (ledger.send id answer next) rest last := by
  rw [← inStep.address] at takes
  cases answers with
  | served new other _ serves answered later =>
      rw [read] at other
      cases other
      rw [inStep.read, List.prefix_append_right_inj] at answered
      exact ⟨_, _, serves, answered, later⟩
  | ignored new unread later => exact absurd takes (unread request read)

theorem Loan.address_settle {ref : Client.PoolRef} {id : LinkId} {lent : World}
    (loan : Loan ref id world lent) (link : Link) (files : FileTree) (other : Client.PoolRef) :
    ((settle ref id link files lent).client.pool other).address =
      (world.client.pool other).address := by
  have elsewhere : ({ world with files := files } : World).client.Has ref :=
    Client.has_of_running loan.running
  rw [loan.settle_eq]
  refine forall_pool_setDesk
    (fun other pool => pool.address = (world.client.pool other).address) elsewhere ?_
    (fun _ _ => rfl) other
  rfl

/-- A loan that ends leaves the client equipped, if its link is in step again or closed. -/
theorem Loan.equipped_settle {ref : Client.PoolRef} {id : LinkId} {lent : World}
    (loan : Loan ref id world lent) (equipped : Equipped site ledger world) {link : Link}
    {answer : Answer} (next : Store)
    (still : link.isOpen = true →
      link.InStep (world.client.pool ref).address (ledger.sent id ++ answer.encode))
    (files : FileTree) :
    Equipped site (ledger.send id answer next) (settle ref id link files lent) := by
  have tidy := equipped.ready.tidy
  have ready : Ready (settle ref id link files lent) :=
    ⟨loan.tidy_settle tidy link files, loan.running_settle equipped.ready.running link files⟩
  have elsewhere : ({ world with files := files } : World).client.Has ref :=
    Client.has_of_running loan.running
  refine ⟨ready, ?_, ?_, ?_, ?_, ?_⟩
  · rw [loan.settle_eq]
    have same (pool : Pool) :
        (world.client.setPool ref pool).capacity = world.client.capacity := by
      cases ref <;> rfl
    show (world.client.setPool ref _).capacity ≠ 0
    rw [same]
    exact equipped.capable
  · rw [loan.settle_eq]
    exact (Client.has_setPool world.client ref _ _).mpr equipped.tracked
  · rw [loan.address_settle link files]
    exact equipped.listed
  · rw [loan.settle_eq]
    refine forall_pool_setDesk
      (fun _ pool => ∀ other ∈ pool.idle, ((lent.board.setLink id link).link other).InStep
        pool.address ((ledger.send id answer next).sent other)) elsewhere ?_ ?_
    · intro other isIdle
      cases opened : link.isOpen with
      | false =>
          rw [opened] at isIdle
          cases isIdle
      | true =>
          rw [opened] at isIdle
          rw [List.mem_singleton.mp isIdle, Switchboard.link_setLink_self loan.isThere,
            ledger.sent_send_self]
          exact still opened
    · intro other differs one isIdle
      have isOther : one ≠ id := by
        rintro rfl
        exact differs (loan.mine other isIdle)
      rw [Switchboard.link_setLink_of_ne _ isOther, loan.kept one (tidy.numbered other one isIdle),
        ledger.sent_send_of_ne _ _ _ isOther]
      exact equipped.inStep other one isIdle
  · intro other outside
    rw [loan.settle_eq] at outside
    have beyond : lent.board.links.length ≤ other := by
      rw [← Switchboard.length_setLink lent.board id link]
      exact outside
    rw [ledger.sent_send_of_ne _ _ _ (Nat.ne_of_gt (Nat.lt_of_lt_of_le loan.isThere beyond))]
    exact equipped.unsent other (Nat.le_trans loan.grown beyond)

/-- The trackers of an equipped client name the node of the site. -/
theorem Equipped.query (equipped : Equipped site ledger world) (valid : site.IsValid)
    {query : Query} {request : Request} {rest : List Use} (fits : query.body.length < 2 ^ 64)
    (read : Request.ofFrame? (Frame.request query.command query.body fits) = some request)
    (isQuery : request.IsQuery)
    (answers : site.Answers ledger
      (trackerUses query (List.range world.client.trackers.length) world ++ rest) last) :
    ∃ node asked next, World.query query world = .ok node asked ∧
      node.endpoint = site.node.endpoint ∧ next.store = ledger.store ∧
      Equipped site next asked ∧ asked.files = world.files ∧ site.Answers next rest last := by
  have some : 0 < world.client.trackers.length := equipped.tracked
  obtain ⟨count, length⟩ := Nat.exists_eq_succ_of_ne_zero (Nat.ne_of_gt some)
  rw [length, List.range_succ_eq_map] at answers
  rw [trackerUses, List.append_assoc] at answers
  obtain ⟨id, lent, taken, loan, free, inStep, used⟩ := equipped.lend equipped.tracked answers
  rw [used, taken] at answers
  have asked := Query.asked fits free
  rw [← Action.after_onFirst query.ask _ lent.files] at asked
  have takes := Site.takes_of_query isQuery equipped.listed
  obtain ⟨answer, next, serves, answered, later⟩ :=
    served_of_answers answers inStep ((Request.read?_of_asked asked).trans read) takes
  obtain ⟨same, node, link, named, endpoint, took⟩ :=
    Site.ask_of_served valid serves isQuery free answered query
  have settled := loan.onLease_of_ok (Action.onFirst_of_ok named lent.files)
  have leased : leaseAnyTracker world = .ok (.tracker 0, ⟨Option.some id⟩) lent := by
    rw [leaseAnyTracker, length, List.range_succ_eq_map]
    exact leaseTracker_cons_of_ok taken _ _
  refine ⟨node, _, _, (Action.bind_of_ok leased _).trans settled, endpoint, same,
    loan.equipped_settle equipped next (fun _ => inStep.took took) lent.files, ?_, later⟩
  rw [loan.same]
  rfl

theorem address_of_storagePool {address : Bytes} {found : World} {ref : Client.PoolRef}
    (done : World.storagePool address world = .ok ref found) :
    (found.client.pool ref).address = address := by
  rcases storagePool_eq_ok done with ⟨index, known, rfl, rfl⟩ | ⟨pool, -, created, rfl, rfl⟩
  · obtain ⟨isThere, same, -⟩ := List.findIdx?_eq_some_iff_getElem.mp known
    rw [Client.pool, List.getD_eq_getElem _ _ isThere]
    exact beq_iff_eq.mp same
  · rw [Client.pool_addStorage, if_pos rfl, (Pool.create_eq created).1]

/-- The pool for a valid node is there, or can be made. -/
theorem Equipped.storagePool (equipped : Equipped site ledger world) {node : StorageNode}
    (named : node.endpoint.host ≠ []) (positive : node.endpoint.port ≠ 0) :
    ∃ ref found, World.storagePool node.address world = .ok ref found ∧
      Equipped site ledger found ∧ found.files = world.files := by
  have addressed : Endpoint.ofAddress node.address = .ok node.endpoint :=
    Endpoint.ofAddress_address named positive
  obtain ⟨pool, created⟩ :
      ∃ pool, Pool.create node.address world.client.capacity (some world.board.dialer) =
        .ok pool := by
    rw [Pool.create_of_capable equipped.capable, addressed]
    exact ⟨_, rfl⟩
  cases known : world.client.storages.findIdx? (·.address == node.address) with
  | some index =>
      exact ⟨.storage index, world, storagePool_of_known known, equipped, rfl⟩
  | none =>
      have pooled := storagePool_of_created known created
      have steps := (storagePool_steps (anyExchange False) pooled).2
      have ready := steps.preserve equipped.ready (ready_step id)
      refine ⟨_, _, pooled, ⟨ready, equipped.capable, equipped.tracked, equipped.listed, ?_,
        equipped.unsent⟩, rfl⟩
      intro ref id isIdle
      have before := mem_idle_of_addStorage created isIdle
      rw [Client.pool_addStorage] at isIdle ⊢
      split at isIdle
      · rw [(Pool.create_eq created).1] at isIdle
        cases isIdle
      · rename_i other
        rw [if_neg other]
        exact equipped.inStep ref id isIdle

/-- A loan of a link to the node of a site, over which all that was sent has been read. -/
structure NodeLoan (site : Site) (ledger : Ledger) (ref : Client.PoolRef) (id : LinkId)
    (found lent : World) : Prop where
  equipped : Equipped site ledger found
  loan : Loan ref id found lent
  free : (lent.board.link id).IsFree
  leads : (found.client.pool ref).address = site.node.address
  inStep : (lent.board.link id).InStep (found.client.pool ref).address (ledger.sent id)

section
variable {ref : Client.PoolRef} {id : LinkId} {found lent : World} {answer : Answer}

/-- A loan that ends after one answer was read leaves the client equipped. -/
theorem NodeLoan.settle_of_took (nodeLoan : NodeLoan site ledger ref id found lent) {link : Link}
    (took : Link.Took answer (lent.board.link id) link) (next : Store) (files : FileTree) :
    Equipped site (ledger.send id answer next) (settle ref id link files lent) :=
  nodeLoan.loan.equipped_settle nodeLoan.equipped next (fun _ => nodeLoan.inStep.took took) files

/-- So does a loan whose link is closed, whatever was read. -/
theorem NodeLoan.settle_of_close (nodeLoan : NodeLoan site ledger ref id found lent) (link : Link)
    (next : Store) (files : FileTree) :
    Equipped site (ledger.send id answer next) (settle ref id link.close files lent) := by
  refine nodeLoan.loan.equipped_settle nodeLoan.equipped next ?_ files
  intro isOpen
  cases isOpen

end

/-- An operation of an equipped client comes to its exchange with the node of the site. -/
theorem Equipped.operation {α : Type} (equipped : Equipped site ledger world)
    (valid : site.IsValid) {query : Query} {request : Request} (fits : query.body.length < 2 ^ 64)
    (read : Request.ofFrame? (Frame.request query.command query.body fits) = some request)
    (isQuery : request.IsQuery) {exchange : StorageNode → Action (Link × FileTree) α}
    (answers : site.Answers ledger (operationUses query exchange world) last) :
    ∃ node ref id found lent next, next.store = ledger.store ∧
      NodeLoan site next ref id found lent ∧ lent.files = world.files ∧
      site.Answers next [.lent id (lent.board.link id)
        (Action.after (exchange node (lent.board.link id, lent.files))).1] last ∧
      (World.query query >>= fun node => onStorage node (exchange node)) world =
        onLease ref ⟨some id⟩ (exchange node) lent := by
  obtain ⟨node, asked, next, named, endpoint, same, still, sameFiles, later⟩ :=
    equipped.query valid fits read isQuery answers
  have address : node.address = site.node.address := congrArg Endpoint.address endpoint
  have hosted : node.endpoint.host ≠ [] := by
    rw [endpoint]
    exact valid.hosted
  have positive : node.endpoint.port ≠ 0 := by
    rw [endpoint]
    exact valid.port
  obtain ⟨ref, found, pooled, ready, kept⟩ := still.storagePool hosted positive
  have leads := (address_of_storagePool pooled).trans address
  simp only [named, storageUses, pooled] at later
  rw [← List.append_nil (leaseUses _ _ _)] at later
  obtain ⟨id, lent, taken, loan, free, inStep, used⟩ :=
    ready.lend (has_of_storagePool pooled) later
  rw [used, List.append_nil] at later
  have files : lent.files = found.files := by
    rw [loan.same]
    rfl
  refine ⟨node, ref, id, found, lent, next, same, ⟨ready, loan, free, leads, inStep⟩, ?_, later,
    ?_⟩
  · rw [files, kept, sameFiles]
  · rw [Action.bind_of_ok named, onStorage, Action.bind_of_ok pooled, Action.bind_of_ok taken]

theorem Equipped.counted (equipped : Equipped site ledger world) (asked staged unstaged : Nat) :
    Equipped site ledger { world with asked := asked, staged := staged, unstaged := unstaged } := by
  have step : Step (anyExchange False) [] world
      { world with asked := asked, staged := staged, unstaged := unstaged } :=
    .counted world asked staged unstaged
  exact ⟨ready_step id step equipped.ready, equipped.capable, equipped.tracked, equipped.listed,
    equipped.inStep, equipped.unsent⟩

theorem Equipped.surrounded (equipped : Equipped site ledger world) (files : FileTree)
    (accessor : Accessor) :
    Equipped site ledger (world.happen (.surroundings files accessor)) := by
  have step : Step (anyExchange False) [] world
      (world.happen (.surroundings files accessor)) := .surrounded world files accessor
  exact ⟨ready_step id step equipped.ready, equipped.capable, equipped.tracked, equipped.listed,
    equipped.inStep, equipped.unsent⟩

end

end World

namespace Client

theorem addTracker_eq {capacity : UInt64} {dialer : Option Dialer} {address : Bytes}
    {pools after : List Pool} (added : addTracker capacity dialer pools address = .ok after) :
    (after = pools ∧ pools ≠ []) ∨
      after = insertByAddress ⟨address, capacity, [], 0, false⟩ pools := by
  unfold addTracker at added
  split at added
  · rename_i found
    cases added
    left
    refine ⟨rfl, ?_⟩
    rintro rfl
    cases found
  · split at added
    · cases added
    · rename_i pool created
      cases added
      rw [(Pool.create_eq created).1]
      exact .inr rfl

theorem insertByAddress_ne_nil (pool : Pool) (pools : List Pool) :
    insertByAddress pool pools ≠ [] := by
  cases pools with
  | nil => simp [insertByAddress]
  | cons first rest =>
      rw [insertByAddress]
      split <;> simp

theorem ne_nil_of_addTracker {capacity : UInt64} {dialer : Option Dialer} {address : Bytes}
    {pools after : List Pool} (added : addTracker capacity dialer pools address = .ok after) :
    after ≠ [] := by
  rcases addTracker_eq added with ⟨rfl, some⟩ | rfl
  · exact some
  · exact insertByAddress_ne_nil _ pools

/-- A client starts with the trackers of its settings, of which there is one. -/
theorem trackers_of_create {settings : Settings} {dialer : Option Dialer}
    {accessor : Option Accessor} {client : Client}
    (created : create settings dialer accessor = .ok client) :
    client.trackers ≠ [] ∧ ∀ pool ∈ client.trackers, pool.address ∈ settings.trackers := by
  obtain ⟨listed, -, added⟩ := addTrackers_of_create created
  refine ⟨?_, ?_⟩
  · obtain ⟨first, rest, same⟩ := List.exists_cons_of_ne_nil listed
    rw [same, List.foldlM_cons] at added
    cases one : addTracker client.capacity dialer [] first with
    | error fault =>
        rw [one] at added
        cases added
    | ok pools =>
        rw [one] at added
        refine addTrackers_induction (fun pools => pools ≠ []) ?_ added (ne_nil_of_addTracker one)
        intro address _ pools after _ another
        exact ne_nil_of_addTracker another
  · refine addTrackers_induction
      (fun pools => ∀ pool ∈ pools, pool.address ∈ settings.trackers) ?_ added ?_
    · intro address isListed pools after early another pool isIn
      rcases addTracker_eq another with ⟨rfl, -⟩ | rfl
      · exact early pool isIn
      · rcases mem_insertByAddress isIn with rfl | before
        · exact isListed
        · exact early pool before
    · intro pool isIn
      cases isIn

end Client

namespace World

theorem capacity_of_create {settings : Settings} {dialer : Dialer} {accessor : Option Accessor}
    {files : FileTree} {start : World}
    (created : create settings dialer accessor files = .ok start) :
    start.client.capacity ≠ 0 := by
  have some := (Client.trackers_of_create (client_of_create created).1).1
  rcases (create_eq created).2 (.tracker 0) with ⟨absent, -⟩ | ⟨address, new⟩
  · exact absurd (List.length_pos_iff.mpr some) absent
  · exact (Pool.create_eq new).2

theorem equipped_create {settings : Settings} {dialer : Dialer} {accessor : Option Accessor}
    {files : FileTree} {start : World}
    (created : create settings dialer accessor files = .ok start) {site : Site}
    (listed : ∀ address ∈ settings.trackers, address ∈ site.trackers) (store : Store) :
    Equipped site (.unsent store) start := by
  have ready : Ready (run start []) := ready_run created (by simp)
  have pools := (create_eq created).2
  have trackers := Client.trackers_of_create (client_of_create created).1
  have tracked : start.client.Has (.tracker 0) := List.length_pos_iff.mpr trackers.1
  refine ⟨ready, capacity_of_create created, tracked, ?_, ?_, fun _ _ => rfl⟩
  · apply listed
    apply trackers.2
    rw [Client.pool, List.getD_eq_getElem _ _ tracked]
    exact List.getElem_mem tracked
  · intro ref id isIdle
    rcases pools ref with ⟨-, none⟩ | ⟨address, new⟩
    · rw [none] at isIdle
      cases isIdle
    · rw [(Pool.create_eq new).1] at isIdle
      cases isIdle

end World

end TrackedStorage
