import TrackedStorage.Proofs.PoolOperations
import Mathlib.Data.Int.ModEq

set_option autoImplicit false

namespace TrackedStorage

/-- A pool at its desk, and the account that an onlooker keeps of its links. -/
structure Account where
  desk : Desk
  /-- The links that the pool lent and that were not handed back yet. -/
  lent : List LinkId
  /-- How often a link was handed over that was not lent. -/
  strays : Nat
  /-- The links that the dialer made for the pool. -/
  made : List LinkId
  /-- The links that the pool let go of. -/
  retired : List LinkId

namespace Account

abbrev pool (account : Account) : Pool := account.desk.1

abbrev board (account : Account) : Switchboard := account.desk.2

/-- A new pool. Links that other dials made may be on the board already. -/
def opened (pool : Pool) (board : Switchboard) : Account := ⟨(pool, board), [], 0, [], []⟩

inductive Event where
  | acquire
  /-- Hands a link over for further use, or none. -/
  | release (returned : Option LinkId)
  /-- Hands a link over to be closed, or none. -/
  | discard (returned : Option LinkId)
  | destroy
  /-- A link turns closed by itself. -/
  | drop (id : LinkId)
  /-- A link is made that is not the pool's. -/
  | foreign (link : Link)
  deriving DecidableEq

/-- Strikes a link that is handed over off the lent ones, or counts it as a stray. -/
def strike (returned : Option LinkId) (account : Account) : Account :=
  match returned with
  | none => account
  | some id =>
      if id ∈ account.lent then { account with lent := account.lent.erase id }
      else { account with strays := account.strays + 1 }

/-- Retires those of some links that are neither idle nor lent any more. -/
def retire (links : List LinkId) (account : Account) : Account :=
  { account with
    retired := account.retired ++
      links.filter fun id => id ∉ account.pool.idle ∧ id ∉ account.lent }

/-- The links that the dialer makes in the calls of it that lead to a desk, whatever comes of
them. -/
def makes (account : Account) (desk : Desk) : List LinkId :=
  account.board.madeFor (desk.2.dialed.drop account.board.dialed.length)

def step (account : Account) : Event → Account
  | .acquire =>
      match Pool.acquire account.desk with
      | .error _ desk =>
          { account with
            desk := desk
            made := account.makes desk ++ account.made }.retire account.pool.idle
      | .ok id desk =>
          { account with
            desk := desk
            lent := id :: account.lent
            made := account.makes desk ++ account.made }.retire account.pool.idle
  | .release returned =>
      { account.strike returned with
        desk := Pool.release returned account.desk }.retire returned.toList
  | .discard returned =>
      { account.strike returned with
        desk := Pool.discard returned account.desk }.retire returned.toList
  | .destroy => { account with desk := Pool.destroy account.desk }.retire account.pool.idle
  | .drop id => { account with desk := (account.pool, account.board.close id) }
  | .foreign link => { account with desk := (account.pool, (account.board.add link).2) }

def run (account : Account) (history : List Event) : Account := history.foldl step account

/-- A count of `total` links, but for `strays` that it lost. Without strays it is exact, and within
the capacity. -/
structure Balance (capacity live : UInt64) (total strays : Nat) : Prop where
  congruent : live + UInt64.ofNat strays = UInt64.ofNat total
  bounded : strays = 0 → total ≤ capacity.toNat

theorem Balance.exact {capacity live : UInt64} {total : Nat}
    (balance : Balance capacity live total 0) : live.toNat = total := by
  have congruent := balance.congruent
  have fits := balance.bounded rfl
  have physical := capacity.toNat_lt
  rw [show UInt64.ofNat 0 = 0 from rfl, UInt64.add_zero] at congruent
  rw [congruent, UInt64.toNat_ofNat', Nat.mod_eq_of_lt (by omega)]

theorem Balance.int_modEq {capacity live : UInt64} {total strays : Nat}
    (balance : Balance capacity live total strays) :
    (live.toNat : Int) ≡ total - strays [ZMOD 2 ^ 64] := by
  have numbers := congrArg UInt64.toNat balance.congruent
  rw [UInt64.toNat_add, UInt64.toNat_ofNat', UInt64.toNat_ofNat'] at numbers
  rw [Int.modEq_iff_dvd]
  omega

/-- What is taken off the count and off the links alike keeps them in balance. -/
theorem Balance.sub {capacity live : UInt64} {total strays total' strays' less : Nat}
    (balance : Balance capacity live total strays)
    (same : total + strays' = total' + less + strays) (rising : strays ≤ strays') :
    Balance capacity (live - UInt64.ofNat less) total' strays' := by
  obtain ⟨congruent, bounded⟩ := balance
  refine ⟨?_, ?_⟩
  · have cast := congrArg UInt64.ofNat same
    simp only [UInt64.ofNat_add] at cast
    grind
  · intro clean
    have fits := bounded (by omega)
    omega

theorem Balance.grow {capacity live : UInt64} {total strays : Nat}
    (balance : Balance capacity live total strays) (room : live < capacity) :
    Balance capacity (live + 1) (total + 1) strays := by
  obtain ⟨congruent, bounded⟩ := balance
  refine ⟨?_, ?_⟩
  · rw [UInt64.ofNat_add, ← congruent]
    grind
  · rintro rfl
    rw [UInt64.lt_iff_toNat_lt, Balance.exact ⟨congruent, bounded⟩] at room
    omega

/-- The pool's count agrees with the account. -/
structure Balanced (capacity : UInt64) (account : Account) : Prop where
  balance : Balance capacity account.pool.live
    (account.pool.idle.length + account.lent.length) account.strays
  sized : account.pool.capacity = capacity

theorem balanced_acquire {capacity : UInt64} {account : Account}
    (balanced : Balanced capacity account) : Balanced capacity (account.step .acquire) := by
  obtain ⟨balance, sized⟩ := balanced
  have acquired := Pool.acquire_acquired account.pool account.board
  have emptied : Balance capacity
      (account.pool.live - UInt64.ofNat account.pool.idle.length) (0 + account.lent.length)
      account.strays :=
    balance.sub (by omega) (Nat.le_refl _)
  simp only [step]
  generalize Pool.acquire account.desk = result at acquired
  cases acquired with
  | destroyed gone => exact ⟨balance, sized⟩
  | reused closed id rest running idle shut opened =>
      refine ⟨balance.sub ?_ (Nat.le_refl _), sized⟩
      change account.pool.idle.length + account.lent.length + account.strays =
        rest.length + (account.lent.length + 1) + closed.length + account.strays
      simp only [idle, List.length_append, List.length_cons]
      omega
  | full running shut full => exact ⟨emptied, sized⟩
  | made id after running shut room dialed =>
      rw [sized] at room
      exact ⟨emptied.grow room, sized⟩
  | failed outcome address reason after running shut room dialed unmade => exact ⟨emptied, sized⟩

theorem strike_some_length (account : Account) (id : LinkId) :
    (account.strike (some id)).lent.length + 1 + account.strays =
      account.lent.length + (account.strike (some id)).strays := by
  unfold strike
  by_cases lent : id ∈ account.lent
  · have positive := List.length_pos_of_mem lent
    simp only [lent, ↓reduceIte, List.length_erase_of_mem lent]
    omega
  · simp only [lent, ↓reduceIte]
    omega

theorem strays_le_strike (account : Account) (returned : Option LinkId) :
    account.strays ≤ (account.strike returned).strays := by
  unfold strike
  split
  · exact Nat.le_refl _
  · split
    · exact Nat.le_refl _
    · exact Nat.le_succ _

/-- A link that is handed over is taken off the count, unless the pool keeps it. -/
theorem balanced_strike {capacity : UInt64} {account : Account}
    (balanced : Balanced capacity account) (id : LinkId) :
    Balance capacity (account.pool.live - 1)
        (account.pool.idle.length + (account.strike (some id)).lent.length)
        (account.strike (some id)).strays ∧
      Balance capacity account.pool.live
        (account.pool.idle.length + 1 + (account.strike (some id)).lent.length)
        (account.strike (some id)).strays := by
  have struck := account.strike_some_length id
  have rising := account.strays_le_strike (some id)
  have same : account.pool.idle.length + account.lent.length +
      (account.strike (some id)).strays =
        account.pool.idle.length + (account.strike (some id)).lent.length + 1 + account.strays := by
    omega
  refine ⟨balanced.balance.sub same rising, ?_⟩
  have kept : Balance capacity (account.pool.live - UInt64.ofNat 0)
      (account.pool.idle.length + 1 + (account.strike (some id)).lent.length)
      (account.strike (some id)).strays :=
    balanced.balance.sub (by omega) rising
  rwa [show UInt64.ofNat 0 = 0 from rfl, UInt64.sub_zero] at kept

theorem balanced_step {capacity : UInt64} {account : Account}
    (balanced : Balanced capacity account) (event : Event) :
    Balanced capacity (account.step event) := by
  cases event with
  | acquire => exact balanced_acquire balanced
  | release returned =>
      cases returned with
      | none => exact ⟨balanced.balance, balanced.sized⟩
      | some id =>
          obtain ⟨dropped, kept⟩ := balanced_strike balanced id
          simp only [step, Pool.release]
          split
          · exact ⟨dropped, balanced.sized⟩
          · exact ⟨kept, balanced.sized⟩
  | discard returned =>
      cases returned with
      | none => exact ⟨balanced.balance, balanced.sized⟩
      | some id => exact ⟨(balanced_strike balanced id).1, balanced.sized⟩
  | destroy =>
      obtain ⟨balance, sized⟩ := balanced
      simp only [step, Pool.destroy]
      split
      · exact ⟨balance, sized⟩
      · refine ⟨balance.sub ?_ (Nat.le_refl _), sized⟩
        change account.pool.idle.length + account.lent.length + account.strays =
          0 + account.lent.length + account.pool.idle.length + account.strays
        omega
  | drop id => exact ⟨balanced.balance, balanced.sized⟩
  | foreign link => exact ⟨balanced.balance, balanced.sized⟩

theorem balanced_run {capacity : UInt64} {account : Account}
    (balanced : Balanced capacity account) (history : List Event) :
    Balanced capacity (account.run history) := by
  induction history generalizing account with
  | nil => exact balanced
  | cons event rest ih => exact ih (balanced_step balanced event)

/-- Every link that was made for the pool is in one place, and the retired ones are closed. -/
structure Sound (account : Account) : Prop where
  placed : ∀ id, account.pool.idle.count id + account.lent.count id + account.retired.count id =
    if id ∈ account.made then 1 else 0
  numbered : ∀ id ∈ account.made, id < account.board.links.length
  shut : ∀ id ∈ account.retired, account.board.isOpen id = false
  emptied : account.pool.isDestroyed = true → account.pool.idle = []

theorem count_retire (account : Account) (links : List LinkId) (id : LinkId) :
    (account.retire links).retired.count id = account.retired.count id +
      if id ∈ account.pool.idle ∨ id ∈ account.lent then 0 else links.count id := by
  simp only [retire, List.count_append]
  congr 1
  by_cases kept : id ∈ account.pool.idle ∨ id ∈ account.lent
  · rw [if_pos kept, List.count_eq_zero]
    simp only [List.mem_filter, decide_eq_true_eq, not_and]
    tauto
  · rw [if_neg kept, List.count_filter]
    simpa using kept

/-- What is neither idle nor lent after a call has to be closed by it. -/
theorem sound_retire {account : Account} {links : List LinkId}
    (placed : ∀ id, (if id ∈ account.pool.idle ∨ id ∈ account.lent
        then account.pool.idle.count id + account.lent.count id else links.count id) +
      account.retired.count id = if id ∈ account.made then 1 else 0)
    (numbered : ∀ id ∈ account.made, id < account.board.links.length)
    (shut : ∀ id ∈ account.retired, account.board.isOpen id = false)
    (dropped : ∀ id ∈ links, id ∉ account.pool.idle → id ∉ account.lent →
      account.board.isOpen id = false)
    (emptied : account.pool.isDestroyed = true → account.pool.idle = []) :
    Sound (account.retire links) := by
  refine ⟨?_, numbered, ?_, emptied⟩
  · intro id
    have before := placed id
    change account.pool.idle.count id + account.lent.count id +
      (account.retire links).retired.count id = if id ∈ account.made then 1 else 0
    rw [count_retire, ← before]
    by_cases kept : id ∈ account.pool.idle ∨ id ∈ account.lent
    · rw [if_pos kept, if_pos kept]
      omega
    · rw [if_neg kept, if_neg kept]
      have notIdle := List.count_eq_zero_of_not_mem (not_or.mp kept).1
      have notLent := List.count_eq_zero_of_not_mem (not_or.mp kept).2
      omega
  · intro id isRetired
    simp only [retire, List.mem_append, List.mem_filter, decide_eq_true_eq] at isRetired
    rcases isRetired with before | ⟨isIn, notIdle, notLent⟩
    · exact shut id before
    · exact dropped id isIn notIdle notLent

theorem Sound.lt_of_idle {account : Account} (sound : Sound account) {id : LinkId}
    (isIdle : id ∈ account.pool.idle) : id < account.board.links.length := by
  have placed := sound.placed id
  have positive := List.count_pos_iff.mpr isIdle
  by_cases isMade : id ∈ account.made
  · exact sound.numbered id isMade
  · rw [if_neg isMade] at placed
    omega

theorem Sound.lt_of_retired {account : Account} (sound : Sound account) {id : LinkId}
    (isRetired : id ∈ account.retired) : id < account.board.links.length := by
  have placed := sound.placed id
  have positive := List.count_pos_iff.mpr isRetired
  by_cases isMade : id ∈ account.made
  · exact sound.numbered id isMade
  · rw [if_neg isMade] at placed
    omega

theorem Sound.not_mem_made {account : Account} (sound : Sound account) {address : Bytes}
    {id : LinkId} {after : Switchboard}
    (dial : Switchboard.Dialed account.board address (.ok (some id), after)) :
    id ∉ account.made := by
  intro isMade
  have before := sound.numbered id isMade
  rw [dial.eq_length] at before
  exact Nat.lt_irrefl _ before

/-- Idle links that were all found closed are retired when no link is lent. -/
theorem sound_emptied {account : Account} (sound : Sound account) {after : Switchboard}
    (grown : account.board.links.length ≤ after.links.length)
    (kept : ∀ id, after.isOpen id = account.board.isOpen id)
    (shut : ∀ id ∈ account.pool.idle, account.board.isOpen id = false) (live : UInt64) :
    Sound ({ account with
      desk := ({ account.pool with idle := [], live := live }, after)
      }.retire account.pool.idle) := by
  refine sound_retire ?_ ?_ ?_ ?_ ?_
  · intro other
    have placed := sound.placed other
    simp only [pool] at placed ⊢
    grind
  · intro other isMade
    exact Nat.lt_of_lt_of_le (sound.numbered other isMade) grown
  · intro other isRetired
    exact (kept other).trans (sound.shut other isRetired)
  · intro other wasIdle _ _
    exact (kept other).trans (shut other wasIdle)
  · intro _
    rfl

/-- They are retired as well when a new link is lent in their place. -/
theorem sound_made {account : Account} (sound : Sound account) {address : Bytes} {id : LinkId}
    {after : Switchboard}
    (dial : Switchboard.Dialed account.board address (.ok (some id), after))
    (shut : ∀ id ∈ account.pool.idle, account.board.isOpen id = false) (live : UInt64) :
    Sound ({ account with
      desk := ({ account.pool with idle := [], live := live }, after)
      lent := id :: account.lent
      made := id :: account.made }.retire account.pool.idle) := by
  have fresh := sound.not_mem_made dial
  have unplaced := sound.placed id
  rw [if_neg fresh] at unplaced
  refine sound_retire ?_ ?_ ?_ ?_ ?_
  · intro other
    have placed := sound.placed other
    simp only [pool] at placed unplaced ⊢
    grind
  · intro other isMade
    rcases List.mem_cons.mp isMade with rfl | before
    · exact dial.lt_length
    · exact Nat.lt_of_lt_of_le (sound.numbered other before) dial.length_le
  · intro other isRetired
    rw [Switchboard.isOpen, dial.link_of_lt (sound.lt_of_retired isRetired)]
    exact sound.shut other isRetired
  · intro other wasIdle _ _
    rw [Switchboard.isOpen, dial.link_of_lt (sound.lt_of_idle wasIdle)]
    exact shut other wasIdle
  · intro _
    rfl

/-- Where the dialer is not called no link is made. -/
theorem makes_of_silent (account : Account) (pool : Pool) :
    account.makes (pool, account.board) = [] :=
  Switchboard.madeFor_of_silent rfl

theorem sound_acquire {account : Account} (sound : Sound account) :
    Sound (account.step .acquire) := by
  have acquired := Pool.acquire_acquired account.pool account.board
  simp only [step]
  generalize Pool.acquire account.desk = result at acquired
  cases acquired with
  | destroyed gone =>
      dsimp only
      rw [makes_of_silent, List.nil_append]
      refine sound_retire ?_ sound.numbered sound.shut ?_ sound.emptied
      · intro other
        have placed := sound.placed other
        grind
      · intro other isIdle notIdle
        exact absurd isIdle notIdle
  | reused closed id rest running idle shut opened =>
      dsimp only
      rw [makes_of_silent, List.nil_append]
      refine sound_retire ?_ sound.numbered sound.shut ?_ ?_
      · intro other
        have placed := sound.placed other
        simp only [pool, idle] at placed ⊢
        grind
      · intro other wasIdle notIdle notLent
        rw [idle] at wasIdle
        simp only [List.mem_append, List.mem_cons, not_or] at wasIdle notIdle notLent
        exact shut other (by tauto)
      · intro gone
        rw [running] at gone
        cases gone
  | full running shut full =>
      dsimp only
      rw [makes_of_silent, List.nil_append]
      exact sound_emptied sound (Nat.le_refl _) (fun _ => rfl) shut _
  | made id after running shut room dialed =>
      have dial := Switchboard.Dialed.of_dial dialed
      dsimp only
      rw [makes, Switchboard.madeFor_of_dial dialed, Switchboard.made?_of_dial dialed]
      exact sound_made sound dial shut _
  | failed outcome address reason after running shut room dialed unmade =>
      have dial := Switchboard.Dialed.of_dial dialed
      dsimp only
      rw [makes, Switchboard.madeFor_of_dial dialed, Switchboard.made?_eq_none dialed unmade]
      exact sound_emptied sound dial.length_le (fun id => dial.isOpen_of_unmade (unmade id)) shut _

theorem strike_of_mem {account : Account} {id : LinkId} (isLent : id ∈ account.lent) :
    account.strike (some id) = { account with lent := account.lent.erase id } := by
  rw [strike]
  exact if_pos isLent

theorem retire_nil (account : Account) : account.retire [] = account := by
  rw [retire, List.filter_nil, List.append_nil]

theorem mem_lent_of_strike {account : Account} {id : LinkId}
    (lawful : (account.strike (some id)).strays = account.strays) : id ∈ account.lent := by
  by_contra absent
  simp only [strike, absent, ↓reduceIte] at lawful
  omega

/-- A lent link that is handed back and closed is retired. -/
theorem sound_closed {account : Account} (sound : Sound account) {id : LinkId}
    (isLent : id ∈ account.lent) (live : UInt64) :
    Sound ({ account.strike (some id) with
      desk := ({ account.pool with live := live }, account.board.close id) }.retire [id]) := by
  rw [strike_of_mem isLent]
  have positive := List.count_pos_iff.mpr isLent
  have here := sound.placed id
  refine sound_retire ?_ ?_ ?_ ?_ sound.emptied
  · intro other
    have placed := sound.placed other
    simp only [pool] at placed here ⊢
    grind
  · intro other isMade
    rw [board, Switchboard.length_close]
    exact sound.numbered other isMade
  · intro other isRetired
    rw [Switchboard.isOpen_close]
    split
    · rfl
    · exact sound.shut other isRetired
  · intro other isIn _ _
    rw [Switchboard.isOpen_close, if_pos (List.mem_singleton.mp isIn)]

/-- An open link that is handed back becomes the newest idle one. -/
theorem sound_kept {account : Account} (sound : Sound account) {id : LinkId}
    (isLent : id ∈ account.lent) (running : account.pool.isDestroyed = false) :
    Sound ({ account.strike (some id) with
      desk := ({ account.pool with idle := id :: account.pool.idle }, account.board)
      }.retire [id]) := by
  rw [strike_of_mem isLent]
  have positive := List.count_pos_iff.mpr isLent
  have here := sound.placed id
  refine sound_retire ?_ sound.numbered sound.shut ?_ ?_
  · intro other
    have placed := sound.placed other
    simp only [pool] at placed here ⊢
    grind
  · intro other isIn notIdle _
    rw [List.mem_singleton.mp isIn] at notIdle
    exact absurd List.mem_cons_self notIdle
  · intro gone
    rw [running] at gone
    cases gone

theorem sound_destroy {account : Account} (sound : Sound account) :
    Sound (account.step .destroy) := by
  simp only [step, Pool.destroy]
  split
  · refine sound_retire ?_ sound.numbered sound.shut ?_ sound.emptied
    · intro other
      have placed := sound.placed other
      grind
    · intro other isIdle notIdle
      exact absurd isIdle notIdle
  · refine sound_retire ?_ ?_ ?_ ?_ ?_
    · intro other
      have placed := sound.placed other
      simp only [pool] at placed ⊢
      grind
    · intro other isMade
      rw [board, Switchboard.length_foldl_close]
      exact sound.numbered other isMade
    · intro other isRetired
      rw [Switchboard.isOpen_foldl_close]
      split
      · rfl
      · exact sound.shut other isRetired
    · intro other wasIdle _ _
      rw [Switchboard.isOpen_foldl_close, if_pos wasIdle]
    · intro _
      rfl

theorem sound_step {account : Account} (sound : Sound account) {event : Event}
    (lawful : (account.step event).strays = account.strays) : Sound (account.step event) := by
  cases event with
  | acquire => exact sound_acquire sound
  | release returned =>
      cases returned with
      | none =>
          rw [step, Option.toList_none, retire_nil]
          exact sound
      | some id =>
          have isLent := mem_lent_of_strike lawful
          simp only [step, Pool.release, Option.toList_some]
          split
          · exact sound_closed sound isLent _
          · rename_i kept
            simp only [Bool.or_eq_true, Bool.not_eq_true', not_or, Bool.not_eq_true] at kept
            exact sound_kept sound isLent kept.1
  | discard returned =>
      cases returned with
      | none =>
          rw [step, Option.toList_none, retire_nil]
          exact sound
      | some id => exact sound_closed sound (mem_lent_of_strike lawful) _
  | destroy => exact sound_destroy sound
  | drop id =>
      refine ⟨sound.placed, ?_, ?_, sound.emptied⟩
      · intro other isMade
        rw [step, board, Switchboard.length_close]
        exact sound.numbered other isMade
      · intro other isRetired
        rw [step, Switchboard.isOpen_close]
        split
        · rfl
        · exact sound.shut other isRetired
  | foreign link =>
      refine ⟨sound.placed, ?_, ?_, sound.emptied⟩
      · intro other isMade
        change other < (account.board.links ++ [link]).length
        rw [List.length_append]
        exact Nat.lt_add_right _ (sound.numbered other isMade)
      · intro other isRetired
        change ((account.board.add link).2.link other).isOpen = false
        rw [Switchboard.link_add_of_lt (sound.lt_of_retired isRetired)]
        exact sound.shut other isRetired

theorem strays_le_step (account : Account) (event : Event) :
    account.strays ≤ (account.step event).strays := by
  cases event with
  | acquire =>
      simp only [step]
      split <;> exact Nat.le_refl _
  | release returned => exact account.strays_le_strike returned
  | discard returned => exact account.strays_le_strike returned
  | destroy => exact Nat.le_refl _
  | drop id => exact Nat.le_refl _
  | foreign link => exact Nat.le_refl _

theorem strays_le_run (account : Account) (history : List Event) :
    account.strays ≤ (account.run history).strays := by
  induction history generalizing account with
  | nil => exact Nat.le_refl _
  | cons event rest ih => exact Nat.le_trans (account.strays_le_step event) (ih _)

theorem sound_run {account : Account} (sound : Sound account) {history : List Event}
    (lawful : (account.run history).strays = account.strays) : Sound (account.run history) := by
  induction history generalizing account with
  | nil => exact sound
  | cons event rest ih =>
      have first := account.strays_le_step event
      have later := (account.step event).strays_le_run rest
      change ((account.step event).run rest).strays = account.strays at lawful
      have same : (account.step event).strays = account.strays := by omega
      exact ih (sound_step sound same) (lawful.trans same.symm)

theorem isDestroyed_step {account : Account} (gone : account.pool.isDestroyed = true)
    (event : Event) : (account.step event).pool.isDestroyed = true := by
  cases event with
  | acquire =>
      have acquired := Pool.acquire_acquired account.pool account.board
      simp only [step]
      generalize Pool.acquire account.desk = result at acquired
      cases acquired <;> exact gone
  | release returned =>
      cases returned with
      | none => exact gone
      | some id =>
          simp only [step, Pool.release]
          split <;> exact gone
  | discard returned => cases returned <;> exact gone
  | destroy => exact Pool.isDestroyed_destroy account.desk
  | drop id => exact gone
  | foreign link => exact gone

theorem isDestroyed_run {account : Account} {history : List Event}
    (called : account.pool.isDestroyed = true ∨ .destroy ∈ history) :
    (account.run history).pool.isDestroyed = true := by
  induction history generalizing account with
  | nil => exact called.resolve_right List.not_mem_nil
  | cons event rest ih =>
      apply ih
      rcases called with gone | called
      · exact .inl (isDestroyed_step gone event)
      · rcases List.mem_cons.mp called with rfl | later
        · exact .inl (Pool.isDestroyed_destroy account.desk)
        · exact .inr later

theorem Sound.fresh_of_acquire {account : Account} (sound : Sound account) {id : LinkId}
    {desk : Desk} (lent : Pool.acquire account.desk = .ok id desk) :
    id ∉ account.retired ∧ id ∉ account.lent := by
  have acquired := Pool.acquire_acquired account.pool account.board
  have placed := sound.placed id
  rw [show (account.pool, account.board) = account.desk from rfl, lent] at acquired
  have unplaced : account.retired.count id = 0 ∧ account.lent.count id = 0 := by
    cases acquired with
    | reused closed id rest running idle shut opened =>
        have isIdle : id ∈ account.pool.idle := by simp [idle]
        have positive := List.count_pos_iff.mpr isIdle
        split at placed <;> omega
    | made id after running shut room dialed =>
        have dial := Switchboard.Dialed.of_dial dialed
        rw [if_neg (sound.not_mem_made dial)] at placed
        omega
  exact ⟨List.count_eq_zero.mp unplaced.1, List.count_eq_zero.mp unplaced.2⟩

/-- After every history the pool counts its idle and its lent links, but for the strays, and without
strays it counts them exactly and never beyond its capacity. -/
theorem live_eq_idle_add_lent {address : Bytes} {capacity : UInt64} {dialer : Option Dialer}
    {pool : Pool} (created : Pool.create address capacity dialer = .ok pool)
    (board : Switchboard) (history : List Event) :
    let account := (opened pool board).run history
    (account.pool.live.toNat : Int) ≡
        account.pool.idle.length + account.lent.length - account.strays [ZMOD 2 ^ 64] ∧
      (account.strays = 0 →
        account.pool.live.toNat = account.pool.idle.length + account.lent.length ∧
        account.pool.live ≤ capacity) := by
  intro account
  obtain ⟨rfl, -⟩ := Pool.create_eq created
  have started : Balanced capacity (opened ⟨address, capacity, [], 0, false⟩ board) :=
    ⟨⟨rfl, fun _ => Nat.zero_le _⟩, rfl⟩
  have balance : Balance capacity account.pool.live
      (account.pool.idle.length + account.lent.length) account.strays :=
    (balanced_run started history).balance
  refine ⟨?_, ?_⟩
  · have congruent := balance.int_modEq
    push_cast at congruent
    exact congruent
  · intro clean
    rw [clean] at balance
    refine ⟨balance.exact, ?_⟩
    rw [UInt64.le_iff_toNat_le, balance.exact]
    exact balance.bounded rfl

theorem live_eq_idle_add_lent_after_stray :
    let pool : Pool := ⟨Bytes.ofText "t:1", 2, [], 0, false⟩
    let dialer : Dialer := .script ⟨[], [.link [] none true, .link [] none true]⟩
    let history :=
      [.acquire, .foreign (.inMemory [] [] none true), .acquire, .release (some 0),
        .release (some 1)]
    let account := (opened pool (.ofDialer dialer)).run history
    Pool.create (Bytes.ofText "t:1") 2 (some dialer) = .ok pool ∧ account.strays = 1 ∧
      (account.pool.live.toNat : Int) ≡
        account.pool.idle.length + account.lent.length - account.strays [ZMOD 2 ^ 64] := by
  intro pool dialer history account
  have created : Pool.create (Bytes.ofText "t:1") 2 (some dialer) = .ok pool := by decide
  exact ⟨created, by decide, (live_eq_idle_add_lent created (.ofDialer dialer) history).1⟩

/-- Every link that the dialer made for the pool is idle once, lent once or retired for good. A
retired link is closed, and neither a retired nor a lent one is lent again. A destroyed pool keeps
no link, lends none, and closes those that come back. -/
theorem links_idle_or_lent_or_retired {address : Bytes} {capacity : UInt64}
    {dialer : Option Dialer} {pool : Pool}
    (created : Pool.create address capacity dialer = .ok pool) (board : Switchboard)
    (history : List Event) (lawful : ((opened pool board).run history).strays = 0) :
    let account := (opened pool board).run history
    (∀ id, account.pool.idle.count id + account.lent.count id + account.retired.count id =
        if id ∈ account.made then 1 else 0) ∧
      (∀ id ∈ account.retired, account.board.isOpen id = false) ∧
      (∀ id desk, Pool.acquire account.desk = .ok id desk →
        id ∉ account.retired ∧ id ∉ account.lent) ∧
      (.destroy ∈ history →
        account.pool.idle = [] ∧
        Pool.acquire account.desk = .error (.exhausted account.pool.address) account.desk ∧
        ∀ id ∈ account.lent,
          (account.step (.release (some id))).board.isOpen id = false ∧
          (account.step (.discard (some id))).board.isOpen id = false) := by
  intro account
  obtain ⟨rfl, -⟩ := Pool.create_eq created
  have sound : Sound account := by
    refine sound_run ⟨?_, ?_, ?_, ?_⟩ lawful
    · intro id
      simp [opened]
    · intro id isMade
      cases isMade
    · intro id isRetired
      cases isRetired
    · intro _
      rfl
  refine ⟨sound.placed, sound.shut, fun id desk lent => sound.fresh_of_acquire lent, ?_⟩
  intro called
  have gone : account.pool.isDestroyed = true := isDestroyed_run (.inr called)
  refine ⟨sound.emptied gone, Pool.acquire_of_destroyed gone account.board, ?_⟩
  intro id _
  have released := Pool.release_of_destroyed gone account.board id
  refine ⟨?_, ?_⟩
  · change (Pool.release (some id) (account.pool, account.board)).2.isOpen id = false
    rw [released, Switchboard.isOpen_close, if_pos rfl]
  · change (account.board.close id).isOpen id = false
    rw [Switchboard.isOpen_close, if_pos rfl]

theorem links_idle_or_lent_or_retired_after_destroy :
    let pool : Pool := ⟨Bytes.ofText "t:1", 2, [], 0, false⟩
    let dialer : Dialer := .script ⟨[], [.link [] none true, .link [] none true]⟩
    let history := [.acquire, .acquire, .release (some 0), .destroy]
    let account := (opened pool (.ofDialer dialer)).run history
    Pool.create (Bytes.ofText "t:1") 2 (some dialer) = .ok pool ∧ account.strays = 0 ∧
      account.lent = [1] ∧ account.pool.idle = [] ∧ account.retired = [0] ∧
      account.board.isOpen 0 = false ∧
      Pool.acquire account.desk = .error (.exhausted account.pool.address) account.desk := by
  intro pool dialer history account
  have created : Pool.create (Bytes.ofText "t:1") 2 (some dialer) = .ok pool := by decide
  have lawful : account.strays = 0 := by decide
  have retired : account.retired = [0] := by decide
  have isRetired : 0 ∈ account.retired := by simp [retired]
  obtain ⟨-, shut, -, gone⟩ :=
    links_idle_or_lent_or_retired created (.ofDialer dialer) history lawful
  obtain ⟨emptied, refused, -⟩ := gone (by decide)
  exact ⟨created, lawful, by decide, emptied, retired, shut 0 isRetired, refused⟩

end Account

end TrackedStorage
