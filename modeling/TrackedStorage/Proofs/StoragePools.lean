import TrackedStorage.Proofs.Operations
import TrackedStorage.Proofs.PoolIdentity

set_option autoImplicit false

namespace TrackedStorage

open TrackedStorage.Action (Keeps)

/-- A node that is read from an answer has an endpoint whose address leads back to it. -/
theorem StorageNode.ofAddress_of_ofBody {body : Bytes} {node : StorageNode}
    (read : ofBody body = .ok node) : Endpoint.ofAddress node.address = .ok node.endpoint := by
  unfold ofBody at read
  dsimp only at read
  split at read
  · cases read
  · rename_i valid
    cases read
    obtain ⟨named, range⟩ := not_or.mp valid
    obtain ⟨positive, small⟩ := not_or.mp range
    refine Endpoint.ofAddress_address named ?_
    intro zero
    have none := congrArg UInt16.toNat zero
    have low := UInt64.le_iff_toNat_le.mp (UInt64.not_lt.mp small)
    rw [UInt64.toNat_toUInt16] at none
    refine positive (UInt64.toNat_inj.mp ?_)
    change _ ≤ 65535 at low
    change _ = 0 at none
    change _ = 0
    omega

/-- Whether some tracker can answer some inquiry with a node. -/
def StorageNode.IsReturned (node : StorageNode) : Prop :=
  ∃ before after, Inquiry.run before = .ok node after

theorem StorageNode.isReturned_of_ask {query : Query} {link last : Link} {node : StorageNode}
    (done : query.ask link = .ok node last) : node.IsReturned :=
  ⟨(⟨query, .created⟩, link), _, Inquiry.run_of_ok done⟩

theorem StorageNode.IsReturned.ofAddress {node : StorageNode} (returned : node.IsReturned) :
    Endpoint.ofAddress node.address = .ok node.endpoint := by
  obtain ⟨⟨inquiry, link⟩, after, ran⟩ := returned
  cases done : inquiry.query.ask link with
  | error fault last =>
      rw [Inquiry.run_of_error done] at ran
      cases ran
  | ok other last =>
      rw [Inquiry.run_of_ok done] at ran
      cases ran
      obtain ⟨⟨⟩, middle, -, received⟩ := Action.bind_eq_ok done
      obtain ⟨answer, -, read, -⟩ := Query.receive_moved received
      exact ofAddress_of_ofBody read

/-- Nodes with different endpoints are dialed under different addresses. -/
theorem StorageNode.IsReturned.endpoint_eq {node other : StorageNode} (returned : node.IsReturned)
    (also : other.IsReturned) (same : node.address = other.address) :
    node.endpoint = other.endpoint := by
  have addressed := returned.ofAddress
  rw [same, also.ofAddress] at addressed
  exact (Except.ok.inj addressed).symm

namespace World

def addresses (world : World) : List Bytes := world.client.storages.map (·.address)

def named (call : Call) (world : World) : List StorageNode :=
  match asks call world with
  | none => []
  | some (query, begun) =>
      match World.query query begun with
      | .ok node _ => [node]
      | .error _ _ => []

def namedAlong : World → List Event → List StorageNode
  | _, [] => []
  | world, .call call :: rest => named call world ++ namedAlong (world.happen (.call call)) rest
  | world, .surroundings files accessor :: rest =>
      namedAlong (world.happen (.surroundings files accessor)) rest

section
variable {world found after : World} {address : Bytes} {ref : Client.PoolRef}

theorem KeepsPools.addresses_eq (keeps : KeepsPools world after)
    (same : after.client.storages.length = world.client.storages.length) :
    after.addresses = world.addresses := by
  refine (keeps.storages_prefix.eq_of_length ?_).symm
  rw [List.length_map, List.length_map, same]

/-- The number of storage pools, which only the creation of one changes. -/
def poolCount (world : World) : Nat := world.client.storages.length

theorem poolCount_setDesk (world : World) (ref : Client.PoolRef) (desk : Desk) :
    (world.setDesk ref desk).poolCount = world.poolCount := by
  cases ref <;> simp [poolCount, setDesk, Client.setPool]

theorem keeps_poolCount_take (ref : Client.PoolRef) :
    Keeps poolCount (onDesk ref Lease.take) :=
  keeps_onDesk (fun world desk => poolCount_setDesk world ref desk) _

theorem keeps_poolCount_onLease {α : Type} (ref : Client.PoolRef) (lease : Lease)
    (exchange : Action (Link × FileTree) α) : Keeps poolCount (onLease ref lease exchange) := by
  refine keeps_onLease (fun world desk => poolCount_setDesk world ref desk) (fun id => ?_) lease
  intro world
  rw [onLink, Action.on]
  cases exchange (world.board.link id, world.files) <;> rfl

theorem keepsPools_query (query : Query) (world : World) :
    KeepsPools world (Action.after (World.query query world)) := by
  have steps : Steps (anyExchange True) (queryTrials query world) world
      (Action.after (World.query query world)) := query_steps (fun _ => trivial) world
  exact keepsPools_steps steps

theorem addresses_query (query : Query) (world : World) :
    (Action.after (World.query query world)).addresses = world.addresses := by
  refine (keepsPools_query query world).addresses_eq ?_
  exact keeps_query (fun index => keeps_poolCount_take _)
    (fun ref lease => keeps_poolCount_onLease ref lease _) world

/-- Of an exchange with a storage node, only the search for its pool can add a pool. -/
theorem addresses_onStorage {α : Type} {node : StorageNode}
    (pooled : storagePool node.address world = .ok ref found)
    (exchange : Action (Link × FileTree) α) :
    (Action.after (onStorage node exchange world)).addresses = found.addresses := by
  have counted := Action.keeps_bind (keeps_poolCount_take ref)
    (fun lease => keeps_poolCount_onLease ref lease exchange) found
  rw [onStorage, Action.bind_of_ok pooled]
  refine KeepsPools.addresses_eq ?_ counted
  rw [Action.after_bind]
  cases taken : onDesk ref Lease.take found with
  | error fault last => exact keepsPools_take taken
  | ok lease lent =>
      have steps : Steps (anyExchange True) (leaseTrials ref lease exchange lent) found
          (Action.after (onLease ref lease exchange lent)) := onLease_steps taken trivial
      exact keepsPools_steps steps

/-- Between two worlds pools are added for some addresses, each unless there is one. -/
structure Adds (new : Bytes → Prop) (world after : World) : Prop where
  nodup : world.addresses.Nodup → after.addresses.Nodup
  mem : ∀ address, address ∈ after.addresses ↔ address ∈ world.addresses ∨ new address

theorem adds_none {new : Bytes → Prop} (none : ∀ address, ¬ new address)
    (same : after.addresses = world.addresses) : Adds new world after := by
  refine ⟨fun nodup => same ▸ nodup, ?_⟩
  intro address
  rw [same]
  exact (or_iff_left (none address)).symm

section
variable (capable : world.client.capacity ≠ 0)
include capable

/-- The search for a pool fails for a malformed address only. -/
theorem ofAddress_of_storagePool_error {fault : Fault}
    (failed : storagePool address world = .error fault after) :
    Endpoint.ofAddress address = .error fault := by
  have refused := (storagePool_eq_error failed).2
  rw [Pool.create_of_capable capable] at refused
  cases addressed : Endpoint.ofAddress address with
  | error cause =>
      rw [addressed] at refused
      cases refused
      rfl
  | ok endpoint =>
      rw [addressed] at refused
      cases refused

theorem exists_storagePool {endpoint : Endpoint}
    (addressed : Endpoint.ofAddress address = .ok endpoint) :
    ∃ ref found, storagePool address world = .ok ref found := by
  cases pooled : storagePool address world with
  | ok ref found => exact ⟨ref, found, rfl⟩
  | error fault after =>
      cases addressed.symm.trans (ofAddress_of_storagePool_error capable pooled)

theorem adds_storagePool (pooled : storagePool address world = .ok ref found) :
    Adds (fun other => other = address ∧ ∃ endpoint, Endpoint.ofAddress other = .ok endpoint)
      world found := by
  rcases storagePool_eq_ok pooled with ⟨index, known, -, rfl⟩ | ⟨pool, absent, created, -, rfl⟩
  · refine ⟨id, ?_⟩
    intro other
    refine ⟨.inl, ?_⟩
    rintro (before | ⟨rfl, -⟩)
    · exact before
    · obtain ⟨isThere, same, -⟩ := List.findIdx?_eq_some_iff_getElem.mp known
      exact List.mem_map.mpr ⟨_, List.getElem_mem isThere, beq_iff_eq.mp same⟩
  · have new : pool.address = address := by rw [(Pool.create_eq created).1]
    have longer : addresses { world with client := world.client.addStorage pool } =
        world.addresses ++ [address] := by
      simp [addresses, Client.addStorage, new]
    rw [Pool.create_of_capable capable] at created
    have valid : ∃ endpoint, Endpoint.ofAddress address = .ok endpoint := by
      cases addressed : Endpoint.ofAddress address with
      | ok endpoint => exact ⟨endpoint, rfl⟩
      | error fault =>
          rw [addressed] at created
          cases created
    refine ⟨?_, ?_⟩
    · intro nodup
      rw [longer]
      refine List.nodup_append.mpr ⟨nodup, List.pairwise_singleton _ _, ?_⟩
      intro other isIn last isLast same
      obtain ⟨pool, isPool, rfl⟩ := List.mem_map.mp isIn
      rw [List.mem_singleton] at isLast
      have differs := List.findIdx?_eq_none_iff.mp absent pool isPool
      simp [same, isLast] at differs
    · intro other
      rw [longer, List.mem_append, List.mem_singleton]
      refine or_congr_right ⟨?_, And.left⟩
      rintro rfl
      exact ⟨rfl, valid⟩

end

theorem isReturned_of_query {query : Query} {node : StorageNode}
    (answered : World.query query world = .ok node after) : node.IsReturned := by
  obtain ⟨⟨ref, lease⟩, lent, -, used⟩ := Action.bind_eq_ok answered
  obtain ⟨link, files, last, ran⟩ := onLease_eq_ok used
  obtain ⟨middle, asked, -⟩ := Action.on_eq_ok ran
  exact StorageNode.isReturned_of_ask asked

/-- The node that a tracker names to a call has a pool, or gets one. -/
theorem storagePool_of_asks (capable : world.client.capacity ≠ 0) {call : Call} {query : Query}
    {begun : World} (asking : asks call world = some (query, begun)) {node : StorageNode}
    (answered : World.query query begun = .ok node after) :
    ∃ ref found, storagePool node.address after = .ok ref found := by
  obtain ⟨client, -, -⟩ := exists_operation asking
  have kept := (keepsPools_query query begun).capacity
  rw [answered] at kept
  change after.client.capacity = _ at kept
  refine exists_storagePool ?_ (isReturned_of_query answered).ofAddress
  rw [kept, client]
  exact capable

/-- The addresses for which a call has a pool made unless there is one. -/
def Wants (world : World) (call : Call) (address : Bytes) : Prop :=
  (∃ node ∈ named call world, node.address = address) ∨
    (call = .storagePool address ∧ ∃ endpoint, Endpoint.ofAddress address = .ok endpoint)

theorem not_wants {call : Call} (unnamed : named call world = [])
    (indirect : call ≠ .storagePool address) : ¬ Wants world call address := by
  rintro (⟨node, isNamed, -⟩ | ⟨direct, -⟩)
  · rw [unnamed] at isNamed
    cases isNamed
  · exact indirect direct

theorem adds_of_asks (capable : world.client.capacity ≠ 0) {call : Call} {query : Query}
    {begun : World} (asking : asks call world = some (query, begun)) :
    Adds (Wants world call) world (world.happen (.call call)) := by
  obtain ⟨client, -, α, exchange, -, ends⟩ := exists_operation asking
  have same : (world.happen (.call call)).addresses =
      (Action.after (operation query exchange begun)).addresses :=
    congrArg (fun client : Client => client.storages.map Pool.address) ends.client
  have start : begun.addresses = world.addresses :=
    congrArg (fun client : Client => client.storages.map Pool.address) client
  have kept := addresses_query query begun
  have indirect (address : Bytes) : call ≠ .storagePool address := by
    rintro rfl
    cases asking
  cases ran : World.query query begun with
  | error fault last =>
      have operated : operation query exchange begun = .error fault last :=
        Action.bind_of_error ran _
      have unnamed : named call world = [] := by simp only [named, asking, ran]
      rw [ran] at kept
      rw [operated] at same
      exact adds_none (fun address => not_wants unnamed (indirect address))
        (same.trans (kept.trans start))
  | ok node last =>
      obtain ⟨ref, found, pooled⟩ := storagePool_of_asks capable asking ran
      have operated : operation query exchange begun = onStorage node (exchange node) last :=
        Action.bind_of_ok ran _
      have nodes : named call world = [node] := by simp only [named, asking, ran]
      have capacity := (keepsPools_query query begun).capacity
      rw [ran] at kept capacity
      change last.client.capacity = begun.client.capacity at capacity
      change last.addresses = begun.addresses at kept
      rw [operated, addresses_onStorage pooled] at same
      rw [client] at capacity
      obtain ⟨nodup, mem⟩ := adds_storagePool (capacity ▸ capable) pooled
      rw [kept, start, ← same] at nodup
      refine ⟨nodup, ?_⟩
      intro address
      rw [same, mem, kept, start, Wants, nodes]
      refine or_congr_right ⟨?_, ?_⟩
      · rintro ⟨rfl, -⟩
        exact .inl ⟨node, List.mem_singleton_self node, rfl⟩
      · rintro (⟨other, isNamed, rfl⟩ | ⟨direct, -⟩)
        · cases List.mem_singleton.mp isNamed
          exact ⟨rfl, _, (isReturned_of_query ran).ofAddress⟩
        · exact absurd direct (indirect address)

/-- An upload or a download that does not come to asking a tracker leaves the client and its links
alone. -/
theorem same_of_unasked {call : Call} (unasked : asks call world = none)
    (operates : call.IsOperation) :
    (world.happen (.call call)).client = world.client ∧
      (world.happen (.call call)).board = world.board := by
  rcases operates with ⟨path, rfl⟩ | ⟨text, path, offset, count, rfl⟩
  · rw [happen, World.call, Action.after_bind_pure, World.upload]
    rw [asks] at unasked
    cases staged : stage path world with
    | ok file opened =>
        rw [staged] at unasked
        cases unasked
    | error fault after =>
        obtain ⟨-, rfl⟩ := stage_eq_error staged
        rw [Action.bind_of_error staged]
        exact ⟨rfl, rfl⟩
  · rw [happen, World.call, Action.after_bind_pure, World.download]
    rw [asks] at unasked
    cases parsed : FileId.parse text with
    | ok id =>
        rw [parsed] at unasked
        cases unasked
    | error fault => exact ⟨rfl, rfl⟩

theorem adds_of_unasked {call : Call} (unasked : asks call world = none)
    (operates : call.IsOperation) :
    Adds (Wants world call) world (world.happen (.call call)) := by
  refine adds_none (fun address => not_wants (by simp only [named, unasked]) ?_) ?_
  · rintro rfl
    simp [Call.IsOperation] at operates
  · rw [addresses, (same_of_unasked unasked operates).1, addresses]

theorem adds_direct (capable : world.client.capacity ≠ 0) (address : Bytes) :
    Adds (Wants world (.storagePool address)) world
      (world.happen (.call (.storagePool address))) := by
  have wants (other : Bytes) : Wants world (.storagePool address) other ↔
      other = address ∧ ∃ endpoint, Endpoint.ofAddress other = .ok endpoint := by
    simp [Wants, named, asks, eq_comm]
  rw [happen, World.call, Action.after_bind]
  cases pooled : storagePool address world with
  | ok ref found =>
      obtain ⟨nodup, mem⟩ := adds_storagePool capable pooled
      exact ⟨nodup, fun other => (mem other).trans (or_congr_right (wants other).symm)⟩
  | error fault after =>
      obtain ⟨rfl, -⟩ := storagePool_eq_error pooled
      refine adds_none (fun other wanted => ?_) rfl
      obtain ⟨rfl, endpoint, addressed⟩ := (wants other).mp wanted
      cases addressed.symm.trans (ofAddress_of_storagePool_error capable pooled)

theorem adds_call (capable : world.client.capacity ≠ 0) (call : Call) :
    Adds (Wants world call) world (world.happen (.call call)) := by
  cases asking : asks call world with
  | some asked => exact adds_of_asks capable asking
  | none =>
      cases call with
      | upload path => exact adds_of_unasked asking (.inl ⟨path, rfl⟩)
      | download text path offset count =>
          exact adds_of_unasked asking (.inr ⟨text, path, offset, count, rfl⟩)
      | storagePool address => exact adds_direct capable address
      | destroy =>
          refine adds_none (fun address => not_wants rfl (by simp)) ?_
          exact (keepsPools_destroy world).addresses_eq (by simp [destroy_eq])
      | drop id =>
          refine adds_none (fun address => not_wants rfl (by simp)) ?_
          simp only [happen, World.call, World.drop]
          split <;> rfl

theorem Adds.trans {new more : Bytes → Prop} (first : Adds new world found)
    (later : Adds more found after) : Adds (fun address => new address ∨ more address) world after := by
  refine ⟨fun nodup => later.nodup (first.nodup nodup), ?_⟩
  intro address
  rw [later.mem, first.mem, or_assoc]

/-- The addresses for which the calls of a history have pools made. -/
def WantsAlong (world : World) (history : List Event) (address : Bytes) : Prop :=
  (∃ node ∈ namedAlong world history, node.address = address) ∨
    (.call (.storagePool address) ∈ history ∧
      ∃ endpoint, Endpoint.ofAddress address = .ok endpoint)

theorem adds_run (capable : world.client.capacity ≠ 0) (history : List Event) :
    Adds (WantsAlong world history) world (run world history) := by
  induction history generalizing world with
  | nil => exact adds_none (by simp [WantsAlong, namedAlong]) rfl
  | cons event rest ih =>
      have capacity : (world.happen event).client.capacity = world.client.capacity :=
        (keepsPools_run world [event]).capacity
      have later : Adds (WantsAlong (world.happen event) rest) (world.happen event)
          (run (world.happen event) rest) := ih (capacity ▸ capable)
      cases event with
      | surroundings files accessor =>
          refine ⟨later.nodup, fun address => (later.mem address).trans (or_congr_right ?_)⟩
          simp [WantsAlong, namedAlong]
      | call call =>
          obtain ⟨nodup, mem⟩ := (adds_call capable call).trans later
          refine ⟨nodup, fun address => (mem address).trans (or_congr_right ?_)⟩
          simp only [Wants, WantsAlong, namedAlong, List.mem_append, List.mem_cons, or_and_right,
            exists_or, Event.call.injEq, eq_comm (b := call)]
          exact or_or_or_comm

/-- Once there is a pool for an address, it is found whatever happens later. -/
theorem KeepsPools.storagePool_again (keeps : KeepsPools found after)
    (pooled : storagePool address world = .ok ref found) :
    storagePool address after = .ok ref after := by
  have known : ∃ index, ref = .storage index ∧
      found.client.storages.findIdx? (·.address == address) = some index := by
    rcases storagePool_eq_ok pooled with ⟨index, known, rfl, rfl⟩ | ⟨pool, absent, created, rfl, rfl⟩
    · exact ⟨index, rfl, known⟩
    · refine ⟨_, rfl, ?_⟩
      have new : pool.address = address := by rw [(Pool.create_eq created).1]
      simp [Client.addStorage, List.findIdx?_append, absent, new]
  obtain ⟨index, rfl, known⟩ := known
  have byAddress (world : World) : world.client.storages.findIdx? (·.address == address) =
      (world.client.storages.map (·.address)).findIdx? (· == address) := by
    rw [List.findIdx?_map]
    rfl
  obtain ⟨more, longer⟩ := keeps.storages_prefix
  refine storagePool_of_known ?_
  rw [byAddress] at known ⊢
  rw [← longer, List.findIdx?_append, known]
  rfl

end

end World

end TrackedStorage
