import TrackedStorage.Proofs.FrameBoundary

set_option autoImplicit false

namespace TrackedStorage

namespace Pool

/-- What becomes of a pool by its own operations, one after the other. -/
inductive Evolves (pool : Pool) : Pool → Prop
  | unchanged : Evolves pool pool
  | acquired {before : Pool} (earlier : Evolves pool before) (board : Switchboard) :
      Evolves pool (Action.after (acquire (before, board))).1
  | released {before : Pool} (earlier : Evolves pool before) (returned : Option LinkId)
      (board : Switchboard) : Evolves pool (release returned (before, board)).1
  | discarded {before : Pool} (earlier : Evolves pool before) (returned : Option LinkId)
      (board : Switchboard) : Evolves pool (discard returned (before, board)).1
  | destroyed {before : Pool} (earlier : Evolves pool before) : Evolves pool before.destroyed

theorem Evolves.trans {pool middle after : Pool} (earlier : Evolves pool middle)
    (later : Evolves middle after) : Evolves pool after := by
  induction later with
  | unchanged => exact earlier
  | acquired _ board ih => exact .acquired ih board
  | released _ returned board ih => exact .released ih returned board
  | discarded _ returned board ih => exact .discarded ih returned board
  | destroyed _ ih => exact .destroyed ih

/-- What no operation of a pool changes, but for its destruction. -/
structure Resembles (pool after : Pool) : Prop where
  address : after.address = pool.address
  capacity : after.capacity = pool.capacity
  isDestroyed : pool.isDestroyed = true → after.isDestroyed = true

theorem resembles_acquire (pool : Pool) (board : Switchboard) :
    Resembles pool (Action.after (acquire (pool, board))).1 := by
  have acquired := acquire_acquired pool board
  generalize acquire (pool, board) = ended at acquired ⊢
  cases acquired <;> exact ⟨rfl, rfl, id⟩

theorem resembles_release (pool : Pool) (returned : Option LinkId) (board : Switchboard) :
    Resembles pool (release returned (pool, board)).1 := by
  cases returned with
  | none => exact ⟨rfl, rfl, id⟩
  | some link =>
      unfold release
      dsimp only
      split <;> exact ⟨rfl, rfl, id⟩

theorem resembles_discard (pool : Pool) (returned : Option LinkId) (board : Switchboard) :
    Resembles pool (discard returned (pool, board)).1 := by
  cases returned <;> exact ⟨rfl, rfl, id⟩

theorem resembles_destroyed (pool : Pool) : Resembles pool pool.destroyed := by
  unfold destroyed
  split
  · exact ⟨rfl, rfl, id⟩
  · exact ⟨rfl, rfl, fun _ => rfl⟩

theorem Resembles.trans {pool middle after : Pool} (earlier : Resembles pool middle)
    (later : Resembles middle after) : Resembles pool after :=
  ⟨later.address.trans earlier.address, later.capacity.trans earlier.capacity,
    fun gone => later.isDestroyed (earlier.isDestroyed gone)⟩

theorem Evolves.resembles {pool after : Pool} (evolves : Evolves pool after) :
    Resembles pool after := by
  induction evolves with
  | unchanged => exact ⟨rfl, rfl, id⟩
  | acquired _ board ih => exact ih.trans (resembles_acquire _ board)
  | released _ returned board ih => exact ih.trans (resembles_release _ returned board)
  | discarded _ returned board ih => exact ih.trans (resembles_discard _ returned board)
  | destroyed _ ih => exact ih.trans (resembles_destroyed _)

end Pool

namespace World

/-- Every pool keeps its name and changes by its own operations only. There are no new trackers. -/
structure KeepsPools (world after : World) : Prop where
  evolves : ∀ ref, world.client.Has ref → (world.client.pool ref).Evolves (after.client.pool ref)
  trackers : after.client.trackers.length = world.client.trackers.length
  storages : world.client.storages.length ≤ after.client.storages.length
  capacity : after.client.capacity = world.client.capacity

section
variable {world middle after : World}

theorem KeepsPools.has (keeps : KeepsPools world after) {ref : Client.PoolRef}
    (has : world.client.Has ref) : after.client.Has ref := by
  cases ref with
  | tracker index => exact Nat.lt_of_lt_of_eq has keeps.trackers.symm
  | storage index => exact Nat.lt_of_lt_of_le has keeps.storages

theorem KeepsPools.trans (earlier : KeepsPools world middle) (later : KeepsPools middle after) :
    KeepsPools world after where
  evolves ref has := (earlier.evolves ref has).trans (later.evolves ref (earlier.has has))
  trackers := later.trackers.trans earlier.trackers
  storages := Nat.le_trans earlier.storages later.storages
  capacity := later.capacity.trans earlier.capacity

theorem keepsPools_of_same (trackers : after.client.trackers = world.client.trackers)
    (storages : after.client.storages = world.client.storages)
    (capacity : after.client.capacity = world.client.capacity) : KeepsPools world after := by
  refine ⟨?_, by rw [trackers], by rw [storages], capacity⟩
  intro ref _
  have same : after.client.pool ref = world.client.pool ref := by
    cases ref with
    | tracker index => rw [Client.pool, Client.pool, trackers]
    | storage index => rw [Client.pool, Client.pool, storages]
  rw [same]
  exact .unchanged

theorem keepsPools_setDesk {ref : Client.PoolRef} {desk : Desk}
    (evolves : (world.client.pool ref).Evolves desk.1) :
    KeepsPools world (world.setDesk ref desk) := by
  refine ⟨?_, ?_, ?_, ?_⟩
  · intro other has
    by_cases same : other = ref
    · subst same
      rw [pool_setDesk_self has]
      exact evolves
    · rw [pool_setDesk_of_ne same]
      exact .unchanged
  · cases ref <;> simp [setDesk, Client.setPool]
  · cases ref <;> simp [setDesk, Client.setPool]
  · cases ref <;> rfl

theorem keepsPools_destroy (world : World) : KeepsPools world world.destroy := by
  refine ⟨?_, ?_, ?_, ?_⟩
  · intro ref _
    rw [pool_destroy]
    exact .destroyed .unchanged
  · simp [destroy_eq]
  · simp [destroy_eq]
  · rw [destroy_eq]

theorem keepsPools_addStorage (world : World) (pool : Pool) :
    KeepsPools world { world with client := world.client.addStorage pool } := by
  refine ⟨?_, rfl, ?_, rfl⟩
  · intro ref has
    rw [Client.pool_addStorage, if_neg]
    · exact .unchanged
    · rintro rfl
      exact Nat.lt_irrefl _ has
  · simp [Client.addStorage]

theorem keepsPools_take {ref : Client.PoolRef} {ended : EStateM.Result Fault World Lease}
    (taken : onDesk ref Lease.take world = ended) : KeepsPools world (Action.after ended) := by
  have evolves : (world.client.pool ref).Evolves _ := .acquired .unchanged world.board
  subst taken
  simp only [onDesk, Action.on, Lease.take, desk]
  cases acquired : Pool.acquire (world.client.pool ref, world.board) with
  | ok link desk =>
      rw [acquired] at evolves
      exact keepsPools_setDesk evolves
  | error fault desk =>
      rw [acquired] at evolves
      exact keepsPools_setDesk evolves

theorem keepsPools_onLink {α : Type} {id : LinkId} {exchange : Action (Link × FileTree) α}
    {ended : EStateM.Result Fault World α} (used : onLink id exchange world = ended) :
    KeepsPools world (Action.after ended) := by
  subst used
  simp only [onLink, Action.on]
  cases exchange (world.board.link id, world.files) <;> exact keepsPools_of_same rfl rfl rfl

theorem keepsPools_step {permitted : Permission} {trials : List Trial}
    (step : Step permitted trials world after) : KeepsPools world after := by
  cases step with
  | counted => exact keepsPools_of_same rfl rfl rfl
  | surrounded => exact keepsPools_of_same rfl rfl rfl
  | opened _ address pool => exact keepsPools_addStorage world pool
  | refused ref fault taken => exact keepsPools_take taken
  | served ref id exchange value taken allowed done =>
      exact ((keepsPools_take taken).trans (keepsPools_onLink done)).trans
        (keepsPools_setDesk (.released .unchanged _ _))
  | failed ref id exchange fault taken allowed done =>
      exact ((keepsPools_take taken).trans (keepsPools_onLink done)).trans
        (keepsPools_setDesk (.discarded .unchanged _ _))
  | destroyed => exact keepsPools_destroy world
  | dropped => exact keepsPools_of_same rfl rfl rfl

theorem keepsPools_steps {permitted : Permission} {trials : List Trial}
    (steps : Steps permitted trials world after) : KeepsPools world after :=
  steps.preserve (keepsPools_of_same rfl rfl rfl) fun step kept => kept.trans (keepsPools_step step)

theorem keepsPools_run (world : World) (history : List Event) :
    KeepsPools world (run world history) :=
  run_preserve (along_anyExchange (fun _ => trivial) world) (keepsPools_of_same rfl rfl rfl)
    fun step kept => kept.trans (keepsPools_step step)

theorem KeepsPools.trackers_eq (keeps : KeepsPools world after) :
    after.client.trackers.map (·.address) = world.client.trackers.map (·.address) := by
  apply List.ext_getElem
  · simp [keeps.trackers]
  · intro index left right
    have here : index < after.client.trackers.length := by simpa using left
    have there : index < world.client.trackers.length := by simpa using right
    have same := (keeps.evolves (.tracker index) there).resembles.address
    rw [Client.pool, Client.pool, List.getD_eq_getElem _ _ here,
      List.getD_eq_getElem _ _ there] at same
    simpa using same

theorem KeepsPools.storages_prefix (keeps : KeepsPools world after) :
    world.client.storages.map (·.address) <+: after.client.storages.map (·.address) := by
  rw [List.prefix_iff_getElem]
  refine ⟨by simpa using keeps.storages, ?_⟩
  intro index bound
  have there : index < world.client.storages.length := by simpa using bound
  have here := Nat.lt_of_lt_of_le there keeps.storages
  have same := (keeps.evolves (.storage index) there).resembles.address
  rw [Client.pool, Client.pool, List.getD_eq_getElem _ _ here,
    List.getD_eq_getElem _ _ there] at same
  simpa using same.symm

end

end World

end TrackedStorage
