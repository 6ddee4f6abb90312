import Mathlib.Data.List.Basic
import TrackedStorage.Proofs.Chunks
import TrackedStorage.Proofs.Hosting

set_option autoImplicit false

namespace TrackedStorage

theorem Client.pool_of_not_has {client : Client} {ref : PoolRef} (absent : ¬ client.Has ref) :
    client.pool ref = noPool := by
  cases ref <;> exact List.getD_eq_default _ _ (Nat.not_lt.mp absent)

theorem Client.mem_idle_of_setPool {client : Client} {ref : PoolRef} {pool : Pool} {id : LinkId}
    (isIdle : id ∈ ((client.setPool ref pool).pool ref).idle) : id ∈ pool.idle := by
  by_cases has : client.Has ref
  · rwa [pool_setPool_self has] at isIdle
  · have absent : ¬ (client.setPool ref pool).Has ref := by rwa [has_setPool]
    rw [pool_of_not_has absent] at isIdle
    cases isIdle

namespace Pool

/-- What a link that comes back changes: itself, and whether it is idle. -/
structure Receives (id : LinkId) (desk after : Desk) : Prop where
  length : after.2.links.length = desk.2.links.length
  links : ∀ other ≠ id, after.2.link other = desk.2.link other
  idle : ∀ other ∈ after.1.idle, other = id ∨ other ∈ desk.1.idle
  dialed : after.2.dialed = desk.2.dialed

theorem receives_discard (id : LinkId) (desk : Desk) : Receives id desk (discard (some id) desk) :=
  ⟨Switchboard.length_close _ _, fun _ differs => Switchboard.link_close_of_ne _ differs,
    fun _ => .inr, rfl⟩

theorem receives_release (id : LinkId) (desk : Desk) :
    Receives id desk (release (some id) desk) := by
  unfold release
  dsimp only
  split
  · exact receives_discard id desk
  · exact ⟨rfl, fun _ _ => rfl, fun _ => List.mem_cons.mp, rfl⟩

theorem written_release (id : LinkId) (desk : Desk) :
    ((release (some id) desk).2.link id).written = (desk.2.link id).written := by
  unfold release
  dsimp only
  split
  · exact desk.2.written_close id id
  · rfl

/-- A pool that is asked for a link changes none that is there, and gets no idle link by it. -/
theorem acquire_spares (pool : Pool) (board : Switchboard) :
    let last := Action.after (acquire (pool, board))
    board.links.length ≤ last.2.links.length ∧
      (∀ id < board.links.length, last.2.link id = board.link id) ∧
      ∀ id ∈ last.1.idle, id ∈ pool.idle := by
  have acquired := acquire_acquired pool board
  generalize acquire (pool, board) = ended at acquired ⊢
  cases acquired with
  | destroyed => exact ⟨Nat.le_refl _, fun _ _ => rfl, fun _ isIdle => isIdle⟩
  | reused closed id rest running idle shut opened =>
      refine ⟨Nat.le_refl _, fun _ _ => rfl, ?_⟩
      intro other isLeft
      rw [idle]
      exact List.mem_append_right _ (List.mem_cons_of_mem id isLeft)
  | full => exact ⟨Nat.le_refl _, fun _ _ => rfl, fun _ isIdle => absurd isIdle List.not_mem_nil⟩
  | made id after running shut room dialed =>
      have dial := Switchboard.Dialed.of_dial dialed
      exact ⟨dial.length_le, fun _ => dial.link_of_lt,
        fun _ isIdle => absurd isIdle List.not_mem_nil⟩
  | failed outcome address reason after running shut room dialed =>
      have dial := Switchboard.Dialed.of_dial dialed
      exact ⟨dial.length_le, fun _ => dial.link_of_lt,
        fun _ isIdle => absurd isIdle List.not_mem_nil⟩

end Pool

namespace World

/-- The end of a lease puts the pool back in its place that lent the link. -/
theorem exists_receives_of_onLease {α : Type} (ref : Client.PoolRef) (id : LinkId)
    (exchange : Action (Link × FileTree) α) (world : World) :
    ∃ (used : World) (desk : Desk),
      Action.after (onLease ref ⟨some id⟩ exchange world) = used.setDesk ref desk ∧
        used.client = world.client ∧ Pool.Receives id (world.desk ref) desk := by
  have onto (link : Link) {desk : Desk}
      (receives : Pool.Receives id
        (world.client.pool ref, world.board.setLink id link) desk) :
      Pool.Receives id (world.desk ref) desk := by
    refine ⟨receives.length.trans (Switchboard.length_setLink _ _ _), ?_, receives.idle,
      receives.dialed⟩
    intro other differs
    exact (receives.links other differs).trans (Switchboard.link_setLink_of_ne _ differs link)
  cases ran : exchange (world.board.link id, world.files) with
  | ok value last =>
      simp only [onLease, onLink, Action.on, ran, Lease.release, Lease.finish]
      exact ⟨_, _, rfl, rfl, onto last.1 (Pool.receives_release id _)⟩
  | error fault last =>
      simp only [onLease, onLink, Action.on, ran, Lease.finish]
      exact ⟨_, _, rfl, rfl, onto last.1 (Pool.receives_discard id _)⟩

/-- What crossed a link stays with it when its lease ends. -/
theorem written_onLease {α : Type} (ref : Client.PoolRef) {id : LinkId} {world : World}
    (isThere : id < world.board.links.length) (exchange : Action (Link × FileTree) α) :
    ((Action.after (onLease ref ⟨some id⟩ exchange world)).board.link id).written =
      (Action.after (exchange (world.board.link id, world.files))).1.written := by
  have put (link : Link) : ((world.board.setLink id link).link id).written = link.written := by
    rw [Switchboard.link_setLink_self isThere]
  cases ran : exchange (world.board.link id, world.files) with
  | ok value last =>
      simp only [onLease, onLink, Action.on, ran]
      exact (Pool.written_release id (world.client.pool ref, _)).trans (put last.1)
  | error fault last =>
      simp only [onLease, onLink, Action.on, ran]
      exact (Switchboard.written_close _ id id).trans (put last.1)

/-- Between two worlds no pool but some changes, and no link but those that were idle in them. -/
structure Spares (touched : Client.PoolRef → Prop) (world after : World) : Prop where
  pools : ∀ ref, ¬ touched ref → after.client.pool ref = world.client.pool ref
  grown : world.board.links.length ≤ after.board.links.length
  links : ∀ id < world.board.links.length,
    (∀ ref, touched ref → id ∉ (world.client.pool ref).idle) →
      after.board.link id = world.board.link id
  idle : ∀ ref, ∀ id ∈ (after.client.pool ref).idle,
    id ∈ (world.client.pool ref).idle ∨ world.board.links.length ≤ id

section
variable {touched more : Client.PoolRef → Prop} {world middle after : World}

theorem spares_of_same (client : after.client = world.client) (board : after.board = world.board) :
    Spares touched world after := by
  refine ⟨fun ref _ => by rw [client], by rw [board], fun id _ _ => by rw [board], ?_⟩
  intro ref id isIdle
  rw [client] at isIdle
  exact .inl isIdle

theorem Spares.mono (spares : Spares touched world after) (wider : ∀ ref, touched ref → more ref) :
    Spares more world after where
  pools ref aside := spares.pools ref fun isTouched => aside (wider ref isTouched)
  grown := spares.grown
  links id isThere aside := spares.links id isThere fun ref isTouched =>
    aside ref (wider ref isTouched)
  idle := spares.idle

theorem Spares.trans (earlier : Spares touched world middle) (later : Spares touched middle after) :
    Spares touched world after where
  pools ref aside := (later.pools ref aside).trans (earlier.pools ref aside)
  grown := Nat.le_trans earlier.grown later.grown
  links id isThere aside := by
    refine (later.links id (Nat.lt_of_lt_of_le isThere earlier.grown) ?_).trans
      (earlier.links id isThere aside)
    intro ref isTouched isIdle
    rcases earlier.idle ref id isIdle with before | new
    · exact aside ref isTouched before
    · exact Nat.lt_irrefl _ (Nat.lt_of_lt_of_le isThere new)
  idle ref id isIdle := by
    rcases later.idle ref id isIdle with before | new
    · exact earlier.idle ref id before
    · exact .inr (Nat.le_trans earlier.grown new)

/-- A pool that is put back with its links changes nothing else. -/
theorem spares_setDesk {ref : Client.PoolRef} {desk : Desk} (client : middle.client = world.client)
    (grown : world.board.links.length ≤ desk.2.links.length)
    (links : ∀ id < world.board.links.length, id ∉ (world.client.pool ref).idle →
      desk.2.link id = world.board.link id)
    (idle : ∀ id ∈ desk.1.idle,
      id ∈ (world.client.pool ref).idle ∨ world.board.links.length ≤ id) :
    Spares (· = ref) world (middle.setDesk ref desk) := by
  have rest (other : Client.PoolRef) (differs : other ≠ ref) :
      (middle.setDesk ref desk).client.pool other = world.client.pool other := by
    rw [pool_setDesk_of_ne differs desk.1 desk.2, client]
  refine ⟨rest, grown, fun id isThere aside => links id isThere (aside ref rfl), ?_⟩
  intro other id isIdle
  by_cases same : other = ref
  · subst same
    exact idle id (Client.mem_idle_of_setPool isIdle)
  · rw [rest other same] at isIdle
    exact .inl isIdle

/-- A pool that lends nothing is the only one that changes, and no link does. -/
theorem spares_take_error {ref : Client.PoolRef} {fault : Fault}
    (taken : onDesk ref Lease.take world = .error fault after) : Spares (· = ref) world after := by
  obtain ⟨desk, acquired, rfl⟩ := acquire_of_take_error taken
  obtain ⟨grown, kept, idle⟩ := Pool.acquire_spares (world.client.pool ref) world.board
  rw [← desk_eq, acquired] at grown kept idle
  exact spares_setDesk rfl grown (fun id isThere _ => kept id isThere) fun id isIdle =>
    .inl (idle id isIdle)

/-- A pool that lends a link for an exchange is the only one that changes, and so is the link. -/
theorem spares_loan {α : Type} {ref : Client.PoolRef} {lease : Lease}
    (taken : onDesk ref Lease.take world = .ok lease middle)
    (exchange : Action (Link × FileTree) α) :
    Spares (· = ref) world (Action.after (onLease ref lease exchange middle)) := by
  obtain ⟨id, rfl⟩ := held_of_take taken
  have origin : id ∈ (world.client.pool ref).idle ∨ world.board.links.length ≤ id := by
    cases lends_of_take taken with
    | waited isIdle => exact .inl isIdle
    | dialed fresh => exact .inr (Nat.le_of_eq fresh.symm)
  obtain ⟨lent, acquired, rfl⟩ := acquire_of_take taken
  obtain ⟨grown, kept, idle⟩ := Pool.acquire_spares (world.client.pool ref) world.board
  rw [← desk_eq, acquired] at grown kept idle
  obtain ⟨used, desk, ended, client, receives⟩ :=
    exists_receives_of_onLease ref id exchange (world.setDesk ref lent)
  have again : used.setDesk ref desk = { used with client := world.client }.setDesk ref desk := by
    simp [setDesk, client]
  rw [ended, again]
  refine spares_setDesk rfl ?_ ?_ ?_
  · rw [receives.length]
    exact grown
  · intro other isThere aside
    refine (receives.links other ?_).trans (kept other isThere)
    rintro rfl
    rcases origin with before | new
    · exact aside before
    · exact Nat.lt_irrefl _ (Nat.lt_of_lt_of_le isThere new)
  · intro other isIdle
    rcases receives.idle other isIdle with rfl | left
    · exact origin
    · exact .inl (idle other (Client.mem_idle_of_setPool left))

/-- A storage pool that is looked up may be new, and changes nothing else. -/
theorem spares_of_storagePool {address : Bytes} {ref : Client.PoolRef}
    (pooled : storagePool address world = .ok ref after) : Spares (· = ref) world after := by
  rcases storagePool_eq_ok pooled with ⟨index, known, rfl, rfl⟩ | ⟨pool, absent, created, rfl, rfl⟩
  · exact spares_of_same rfl rfl
  · refine ⟨?_, Nat.le_refl _, fun _ _ _ => rfl, ?_⟩
    · intro other differs
      exact (Client.pool_addStorage _ pool other).trans (if_neg differs)
    · intro other id isIdle
      exact .inl (mem_idle_of_addStorage created isIdle)

/-- An exchange with a storage node touches no pool but the one that is looked up for it. -/
theorem spares_onStorage_of_pool {α : Type} (node : StorageNode)
    (exchange : Action (Link × FileTree) α) {world : World}
    (looked : ∀ ref found, storagePool node.address world = .ok ref found → touched ref) :
    Spares touched world (Action.after (onStorage node exchange world)) := by
  cases pooled : storagePool node.address world with
  | error fault after =>
      obtain ⟨rfl, -⟩ := storagePool_eq_error pooled
      rw [onStorage, Action.bind_of_error pooled]
      exact spares_of_same rfl rfl
  | ok ref found =>
      have opened := spares_of_storagePool pooled
      have only : ∀ other, other = ref → touched other := by
        rintro other rfl
        exact looked _ _ pooled
      rw [onStorage, Action.after_bind, pooled]
      dsimp only
      rw [Action.after_bind]
      cases taken : onDesk ref Lease.take found with
      | error fault after => exact (opened.trans (spares_take_error taken)).mono only
      | ok lease lent => exact (opened.trans (spares_loan taken exchange)).mono only

/-- An exchange with a storage node touches storage pools only. -/
theorem spares_onStorage_storages {α : Type} (node : StorageNode)
    (exchange : Action (Link × FileTree) α) (world : World) :
    Spares (fun ref => ∃ index, ref = .storage index) world
      (Action.after (onStorage node exchange world)) :=
  spares_onStorage_of_pool node exchange fun _ _ pooled =>
    (storagePool_steps (anyExchange True) pooled).1

end

end World

end TrackedStorage
