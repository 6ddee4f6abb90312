import TrackedStorage.Proofs.PoolAccount

set_option autoImplicit false

namespace TrackedStorage

namespace Pool

/-- A pool without an open idle link drops all that are idle, and makes a new one. -/
theorem acquire_of_shut {pool : Pool} {board : Switchboard} (running : pool.isDestroyed = false)
    (shut : ∀ other ∈ pool.idle, board.isOpen other = false) :
    acquire (pool, board) =
      grow
        ({ pool with idle := [], live := pool.live - UInt64.ofNat pool.idle.length }, board) := by
  have dropped : ∀ other ∈ pool.idle, (!board.isOpen other) = true := by simpa using shut
  have front : pool.idle.takeWhile (fun other => !board.isOpen other) = pool.idle :=
    List.takeWhile_eq_self_iff.mpr dropped
  have back : pool.idle.dropWhile (fun other => !board.isOpen other) = [] :=
    List.dropWhile_eq_nil_iff.mpr dropped
  simp only [acquire, running, Bool.false_eq_true, ↓reduceIte, front, back]

/-- A failed dial is reported as it is, and anything else that a dialer raises as a failed dial. -/
theorem dialFault_cases (pool : Pool) (fault : Fault) :
    ∃ named reason, pool.dialFault fault = .dial named reason ∧
      (fault = .dial named reason ∨
        (∀ other text, fault ≠ .dial other text) ∧ named = pool.address ∧
          reason = fault.shown) := by
  cases fault with
  | dial named reason => exact ⟨named, reason, rfl, .inl rfl⟩
  | _ => exact ⟨pool.address, _, rfl, .inr ⟨by simp, rfl, rfl⟩⟩

/-- What the result of a dial makes of a request for a link, by a pool that has room for it. -/
def ofDial (pool : Pool) (outcome : Except Fault (Option LinkId)) (after : Switchboard) :
    EStateM.Result Fault Desk LinkId :=
  match outcome with
  | .ok (some id) => .ok id ({ pool with live := pool.live + 1 }, after)
  | .ok none =>
      .error (.dial pool.address (Bytes.ofText "dialer returned no connection")) (pool, after)
  | .error fault => .error (pool.dialFault fault) (pool, after)

theorem grow_of_full {pool : Pool} (full : pool.capacity ≤ pool.live) (board : Switchboard) :
    grow (pool, board) = .error (.exhausted pool.address) (pool, board) := by
  rw [grow, if_pos full]

theorem grow_of_room {pool : Pool} (room : pool.live < pool.capacity) (board : Switchboard) :
    grow (pool, board) =
      pool.ofDial (board.dial pool.address).1 (board.dial pool.address).2 := by
  rw [grow, if_neg (UInt64.not_le.mpr room)]
  rcases board.dial pool.address with ⟨_ | _ | id, after⟩ <;> rfl

end Pool

namespace Account

theorem toNat_sub_ofNat {live : UInt64} {less : Nat} (within : less ≤ live.toNat) :
    (live - UInt64.ofNat less).toNat + less = live.toNat := by
  have bound := live.toNat_lt
  have physical : less % 2 ^ 64 = less := Nat.mod_eq_of_lt (by omega)
  rw [UInt64.toNat_sub, UInt64.toNat_ofNat', physical]
  omega

/-- Links that are handed back are lent ones, and so none of the idle ones. -/
theorem Sound.not_idle_of_release {account : Account} (sound : Sound account) {event : Event}
    (lawful : (account.step event).strays = account.strays) {id : LinkId}
    (isIdle : id ∈ account.pool.idle) : event ≠ .release (some id) := by
  rintro rfl
  have placed := sound.placed id
  have idle := List.count_pos_iff.mpr isIdle
  have lent := List.count_pos_iff.mpr (mem_lent_of_strike lawful)
  split at placed <;> omega

/-- In this history two links were handed back for further use, and the second one not again after
the first one. -/
def ReleasedAfter (history : List Event) (id other : LinkId) : Prop :=
  ∃ early late, history = early ++ .release (some id) :: late ∧
    .release (some other) ∈ early ∧ .release (some other) ∉ late

theorem ReleasedAfter.concat {history : List Event} {id other : LinkId} {event : Event}
    (ordered : ReleasedAfter history id other) (differs : event ≠ .release (some other)) :
    ReleasedAfter (history ++ [event]) id other := by
  obtain ⟨early, late, rfl, before, absent⟩ := ordered
  refine ⟨early, late ++ [event], by simp, before, ?_⟩
  simp only [List.mem_append, List.mem_singleton, not_or]
  exact ⟨absent, differs.symm⟩

/-- The idle links of a pool were all released, and stand in that order, the last one first. -/
structure Stacked (history : List Event) (account : Account) : Prop where
  released : ∀ id ∈ account.pool.idle, .release (some id) ∈ history
  ordered : account.pool.idle.Pairwise (ReleasedAfter history)

/-- Idle links go from the front, and come to the front when they are released. -/
theorem idle_step (account : Account) (event : Event) :
    (account.step event).pool.idle.Sublist account.pool.idle ∨
      ∃ id, event = .release (some id) ∧
        (account.step event).pool.idle = id :: account.pool.idle := by
  cases event with
  | acquire =>
      have acquired := Pool.acquire_acquired account.pool account.board
      simp only [step]
      generalize Pool.acquire account.desk = result at acquired
      cases acquired with
      | destroyed gone => exact .inl (List.Sublist.refl _)
      | reused closed id rest running idle shut opened =>
          refine .inl ?_
          change rest.Sublist account.pool.idle
          rw [idle]
          exact (List.sublist_cons_self id rest).trans (List.sublist_append_right closed _)
      | full running shut full => exact .inl (List.nil_sublist _)
      | made id after running shut room dialed => exact .inl (List.nil_sublist _)
      | failed outcome address reason after running shut room dialed unmade =>
          exact .inl (List.nil_sublist _)
  | release returned =>
      cases returned with
      | none => exact .inl (List.Sublist.refl _)
      | some id =>
          simp only [step, Pool.release]
          split
          · exact .inl (List.Sublist.refl _)
          · exact .inr ⟨id, rfl, rfl⟩
  | discard returned => cases returned <;> exact .inl (List.Sublist.refl _)
  | destroy =>
      simp only [step, Pool.destroy]
      split
      · exact .inl (List.Sublist.refl _)
      · exact .inl (List.nil_sublist _)
  | drop id => exact .inl (List.Sublist.refl _)
  | foreign link => exact .inl (List.Sublist.refl _)

theorem stacked_step {account : Account} {history : List Event} {event : Event}
    (sound : Sound account) (lawful : (account.step event).strays = account.strays)
    (stacked : Stacked history account) : Stacked (history ++ [event]) (account.step event) := by
  have released : ∀ id ∈ account.pool.idle, .release (some id) ∈ history ++ [event] := by
    intro id isIdle
    exact List.mem_append_left _ (stacked.released id isIdle)
  -- A link that is handed back was lent, so the idle ones keep their last releases.
  have ordered : account.pool.idle.Pairwise (ReleasedAfter (history ++ [event])) := by
    refine stacked.ordered.imp_of_mem ?_
    intro id other _ isIdle before
    exact before.concat (sound.not_idle_of_release lawful isIdle)
  rcases account.idle_step event with fewer | ⟨id, rfl, idle⟩
  · exact ⟨fun id isIdle => released id (fewer.subset isIdle), ordered.sublist fewer⟩
  · refine ⟨?_, ?_⟩
    · rw [idle]
      exact List.forall_mem_cons.mpr ⟨by simp, released⟩
    · rw [idle]
      refine List.pairwise_cons.mpr ⟨?_, ordered⟩
      intro other isIdle
      exact ⟨history, [], rfl, stacked.released other isIdle, List.not_mem_nil⟩

theorem stacked_run {account : Account} {past history : List Event} (sound : Sound account)
    (lawful : (account.run history).strays = account.strays) (stacked : Stacked past account) :
    Stacked (past ++ history) (account.run history) := by
  induction history generalizing account past with
  | nil =>
      rw [List.append_nil]
      exact stacked
  | cons event rest ih =>
      have first := account.strays_le_step event
      have later := (account.step event).strays_le_run rest
      change ((account.step event).run rest).strays = account.strays at lawful
      have same : (account.step event).strays = account.strays := by omega
      rw [← List.singleton_append, ← List.append_assoc]
      exact ih (sound_step sound same) (lawful.trans same.symm) (stacked_step sound same stacked)

section
variable {address : Bytes} {capacity : UInt64} {dialer : Option Dialer} {pool : Pool}
variable (created : Pool.create address capacity dialer = .ok pool) (board : Switchboard)
include created

theorem sound_opened : Sound (opened pool board) := by
  obtain ⟨rfl, -⟩ := Pool.create_eq created
  refine ⟨?_, ?_, ?_, fun _ => rfl⟩
  · intro id
    simp [opened]
  · intro id isMade
    cases isMade
  · intro id isRetired
    cases isRetired

theorem balanced_opened : Balanced capacity (opened pool board) := by
  obtain ⟨rfl, -⟩ := Pool.create_eq created
  exact ⟨⟨rfl, fun _ => Nat.zero_le _⟩, rfl⟩

theorem stacked_opened : Stacked [] (opened pool board) := by
  obtain ⟨rfl, -⟩ := Pool.create_eq created
  exact ⟨fun _ isIdle => absurd isIdle List.not_mem_nil, List.Pairwise.nil⟩

end

/-- What every lawful history makes of a pool: it counts the idle and the lent links, which are no
more than its capacity. -/
structure Regular (capacity : UInt64) (history : List Event) (account : Account) : Prop where
  sized : account.pool.capacity = capacity
  counted : account.pool.live.toNat = account.pool.idle.length + account.lent.length
  bounded : account.pool.live.toNat ≤ capacity.toNat
  stacked : Stacked history account

theorem regular_run {address : Bytes} {capacity : UInt64} {dialer : Option Dialer} {pool : Pool}
    (created : Pool.create address capacity dialer = .ok pool) {board : Switchboard}
    {history : List Event} (lawful : ((opened pool board).run history).strays = 0) :
    Regular capacity history ((opened pool board).run history) := by
  have balanced := balanced_run (balanced_opened created board) history
  have balance := balanced.balance
  rw [lawful] at balance
  refine ⟨balanced.sized, balance.exact, ?_, ?_⟩
  · rw [balance.exact]
    exact balance.bounded rfl
  · exact stacked_run (sound_opened created board) lawful (stacked_opened created board)

section
variable {capacity : UInt64} {history : List Event} {account : Account}

/-- Without the idle links, the lent ones are left of the count. -/
theorem Regular.toNat_emptied (regular : Regular capacity history account) :
    (account.pool.live - UInt64.ofNat account.pool.idle.length).toNat = account.lent.length := by
  have counted := regular.counted
  have left : (account.pool.live - UInt64.ofNat account.pool.idle.length).toNat +
      account.pool.idle.length = account.pool.live.toNat := toNat_sub_ofNat (by omega)
  omega

/-- When no idle link is open, the links that are lent decide whether there is room for another. -/
theorem Regular.room_iff (regular : Regular capacity history account) :
    account.pool.live - UInt64.ofNat account.pool.idle.length < account.pool.capacity ↔
      account.lent.length < capacity.toNat := by
  rw [UInt64.lt_iff_toNat_lt, regular.sized, regular.toNat_emptied]

theorem Regular.lent_le (regular : Regular capacity history account) :
    account.lent.length ≤ capacity.toNat := by
  have counted := regular.counted
  have bounded := regular.bounded
  omega

theorem Regular.reused (regular : Regular capacity history account)
    (running : account.pool.isDestroyed = false)
    (usable : ∃ id ∈ account.pool.idle, account.board.isOpen id = true) :
    ∃ closed id rest live, account.pool.idle = closed ++ id :: rest ∧
      (∀ other ∈ closed, account.board.isOpen other = false ∧ ReleasedAfter history other id) ∧
      account.board.isOpen id = true ∧ (∀ other ∈ rest, ReleasedAfter history id other) ∧
      live.toNat + closed.length = account.pool.live.toNat ∧
      Pool.acquire account.desk =
        .ok id ({ account.pool with idle := rest, live := live }, account.board) := by
  have unshut : ¬ ∀ other ∈ account.pool.idle, account.board.isOpen other = false := by
    simpa using usable
  have acquired := Pool.acquire_acquired account.pool account.board
  generalize Pool.acquire account.desk = result at acquired ⊢
  cases acquired with
  | destroyed gone => exact absurd gone (by simp [running])
  | reused closed id rest running idle shut opened =>
      have counted := regular.counted
      rw [idle, List.length_append] at counted
      have ordered := regular.stacked.ordered
      rw [idle] at ordered
      obtain ⟨-, older, newer⟩ := List.pairwise_append.mp ordered
      refine ⟨closed, id, rest, _, idle, ?_, opened, (List.pairwise_cons.mp older).1,
        toNat_sub_ofNat (by omega), rfl⟩
      intro other isClosed
      exact ⟨shut other isClosed, newer other isClosed id List.mem_cons_self⟩
  | full _ shut => exact absurd shut unshut
  | made _ _ _ shut => exact absurd shut unshut
  | failed _ _ _ _ _ shut => exact absurd shut unshut

/-- Idle links that are closed take no room. -/
theorem Regular.dialed (regular : Regular capacity history account)
    (running : account.pool.isDestroyed = false)
    (shut : ∀ other ∈ account.pool.idle, account.board.isOpen other = false)
    (room : account.lent.length < capacity.toNat) :
    ∃ live, live.toNat + account.pool.idle.length = account.pool.live.toNat ∧
      (live + 1).toNat = live.toNat + 1 ∧
      Pool.acquire account.desk =
        Pool.ofDial { account.pool with idle := [], live := live }
          (account.board.dial account.pool.address).1
          (account.board.dial account.pool.address).2 := by
  have counted := regular.counted
  have emptied := regular.toNat_emptied
  have physical := capacity.toNat_lt
  refine ⟨account.pool.live - UInt64.ofNat account.pool.idle.length, by omega, ?_, ?_⟩
  · rw [UInt64.toNat_add]
    exact Nat.mod_eq_of_lt (by change _ + 1 < _; omega)
  · rw [Pool.acquire_of_shut running shut]
    exact Pool.grow_of_room (regular.room_iff.mpr room) account.board

/-- A pool all of whose links are lent has no idle link to drop. -/
theorem Regular.refused (regular : Regular capacity history account)
    (full : account.lent.length = capacity.toNat) :
    Pool.acquire account.desk = .error (.exhausted account.pool.address) account.desk := by
  cases gone : account.pool.isDestroyed with
  | true => exact Pool.acquire_of_destroyed gone account.board
  | false =>
      have counted := regular.counted
      have bounded := regular.bounded
      have none : account.pool.idle = [] := List.length_eq_zero_iff.mp (by omega)
      have noRoom := mt regular.room_iff.mp (Nat.not_lt.mpr (Nat.le_of_eq full.symm))
      rw [none, List.length_nil, show UInt64.ofNat 0 = 0 from rfl, UInt64.sub_zero,
        UInt64.not_lt] at noRoom
      rw [Pool.acquire_of_shut gone (by simp [none]), none, List.length_nil,
        show UInt64.ofNat 0 = 0 from rfl, UInt64.sub_zero, ← none]
      exact Pool.grow_of_full noRoom account.board

/-- All ways in which a request can fail. -/
theorem Regular.error_cases (regular : Regular capacity history account) {fault : Fault}
    {after : Desk} (failed : Pool.acquire account.desk = .error fault after) :
    (fault = .exhausted account.pool.address ∧ after = account.desk ∧
      (account.pool.isDestroyed = true ∨ account.lent.length = capacity.toNat)) ∨
    ∃ named reason, fault = .dial named reason := by
  have acquired := Pool.acquire_acquired account.pool account.board
  generalize ended : Pool.acquire account.desk = result at acquired
  cases acquired with
  | destroyed gone =>
      cases ended.symm.trans failed
      exact .inl ⟨rfl, rfl, .inl gone⟩
  | reused => cases ended.symm.trans failed
  | full running shut full =>
      have counted := regular.counted
      have bounded := regular.bounded
      have noRoom := mt regular.room_iff.mpr (UInt64.not_lt.mpr full)
      have lent : account.lent.length = capacity.toNat := by omega
      cases (regular.refused lent).symm.trans failed
      exact .inl ⟨rfl, rfl, .inr lent⟩
  | made => cases ended.symm.trans failed
  | failed outcome address reason after running shut room dialed unmade =>
      cases ended.symm.trans failed
      exact .inr ⟨address, reason, rfl⟩

end

/-- In every state that a pool comes to while only lent links are handed back, a request lends the
open idle link that was released last, and drops those that were released after it, or else dials
once and lends the new link. It is refused exactly when the pool is destroyed or has lent as many
links as it may, and fails otherwise only as a dial that gives no link. -/
theorem acquire_exact {address : Bytes} {capacity : UInt64} {dialer : Option Dialer}
    {pool : Pool} (created : Pool.create address capacity dialer = .ok pool) (board : Switchboard)
    (history : List Event) (lawful : ((opened pool board).run history).strays = 0) :
    let account := (opened pool board).run history
    let pool := account.pool
    let board := account.board
    let ended := Pool.acquire account.desk
    (pool.isDestroyed = false → (∃ id ∈ pool.idle, board.isOpen id = true) →
      ∃ closed id rest live, pool.idle = closed ++ id :: rest ∧
        (∀ other ∈ closed, board.isOpen other = false ∧ ReleasedAfter history other id) ∧
        board.isOpen id = true ∧ (∀ other ∈ rest, ReleasedAfter history id other) ∧
        live.toNat + closed.length = pool.live.toNat ∧
        ended = .ok id ({ pool with idle := rest, live := live }, board)) ∧
    (pool.isDestroyed = false → (∀ id ∈ pool.idle, board.isOpen id = false) →
      account.lent.length ≠ capacity.toNat →
      let outcome := (board.dial pool.address).1
      let after := (board.dial pool.address).2
      after.dialed = board.dialed ++ [pool.address] ∧
      ∃ live, live.toNat + pool.idle.length = pool.live.toNat ∧
        let emptied := { pool with idle := [], live := live }
        (∀ id, outcome = .ok (some id) → ∃ more, more.toNat = live.toNat + 1 ∧
          ended = .ok id ({ emptied with live := more }, after)) ∧
        (outcome = .ok none →
          ∃ reason, ended = .error (.dial pool.address reason) (emptied, after)) ∧
        ∀ fault, outcome = .error fault →
          ∃ named reason, ended = .error (.dial named reason) (emptied, after) ∧
            (fault = .dial named reason ∨
              (∀ other text, fault ≠ .dial other text) ∧ named = pool.address ∧
                reason = fault.shown)) ∧
    ((∃ named after, ended = .error (.exhausted named) after) ↔
      pool.isDestroyed = true ∨ account.lent.length = capacity.toNat) ∧
    ∀ fault after, ended = .error fault after →
      fault = .exhausted pool.address ∧ after = account.desk ∨
        ∃ named reason, fault = .dial named reason := by
  intro account pool board ended
  have regular := regular_run created lawful
  refine ⟨regular.reused, ?_, ⟨?_, ?_⟩, ?_⟩
  · intro running shut unfull outcome after
    obtain ⟨live, left, more, same⟩ := regular.dialed running shut
      (Nat.lt_of_le_of_ne regular.lent_le unfull)
    refine ⟨(Switchboard.dial_dialed board pool.address).dialed_eq, live, left, ?_⟩
    change Pool.acquire account.desk = Pool.ofDial _ outcome after at same
    refine ⟨?_, ?_, ?_⟩
    · intro id made
      rw [made] at same
      exact ⟨_, more, same⟩
    · intro unmade
      rw [unmade] at same
      exact ⟨_, same⟩
    · intro fault raised
      obtain ⟨named, reason, shown, cause⟩ :=
        Pool.dialFault_cases { pool with idle := [], live := live } fault
      rw [raised, Pool.ofDial, shown] at same
      exact ⟨named, reason, same, cause⟩
  · rintro ⟨named, after, failed⟩
    rcases regular.error_cases failed with ⟨-, -, cause⟩ | ⟨named, reason, same⟩
    · exact cause
    · cases same
  · rintro (gone | full)
    · exact ⟨_, _, Pool.acquire_of_destroyed gone board⟩
    · exact ⟨_, _, regular.refused full⟩
  · intro fault after failed
    rcases regular.error_cases failed with ⟨same, still, -⟩ | dialed
    · exact .inl ⟨same, still⟩
    · exact .inr dialed

theorem acquire_exact_with_closed_idle :
    let pool : Pool := ⟨Bytes.ofText "t:1", 2, [], 0, false⟩
    let dialer : Dialer := .script ⟨[], [.link [] none true, .link [] none true,
      .raised (.exhausted (Bytes.ofText "t:9"))]⟩
    let first := (opened pool (.ofDialer dialer)).run [.acquire, .acquire]
    let later := (opened pool (.ofDialer dialer)).run
      [.acquire, .acquire, .release (some 1), .drop 1]
    Pool.create (Bytes.ofText "t:1") 2 (some dialer) = .ok pool ∧
      first.strays = 0 ∧ later.strays = 0 ∧ later.pool.idle = [1] ∧ later.pool.live = 2 ∧
      (∃ named after, Pool.acquire first.desk = .error (.exhausted named) after) ∧
      ∃ live named reason, live.toNat = 1 ∧
        Pool.acquire later.desk = .error (.dial named reason)
          ({ later.pool with idle := [], live := live },
            (later.board.dial later.pool.address).2) := by
  intro pool dialer first later
  have created : Pool.create (Bytes.ofText "t:1") 2 (some dialer) = .ok pool := by decide
  have lawful : first.strays = 0 := by decide
  have still : later.strays = 0 := by decide
  have idle : later.pool.idle = [1] := by decide
  have count : later.pool.live = 2 := by decide
  obtain ⟨-, -, refused, -⟩ := acquire_exact created (.ofDialer dialer) [.acquire, .acquire] lawful
  obtain ⟨-, dialed, -, -⟩ := acquire_exact created (.ofDialer dialer)
    [.acquire, .acquire, .release (some 1), .drop 1] still
  obtain ⟨-, live, left, -, -, raised⟩ := dialed (by decide) (by decide) (by decide)
  obtain ⟨named, reason, failed, -⟩ := raised (.exhausted (Bytes.ofText "t:9")) (by decide)
  change live.toNat + later.pool.idle.length = later.pool.live.toNat at left
  rw [idle, count] at left
  exact ⟨created, lawful, still, idle, count, refused.mpr (.inr (by decide)), live, named, reason,
    Nat.succ.inj left, failed⟩

end Account

end TrackedStorage
