import TrackedStorage.Pool
import Mathlib.Data.List.TakeWhile

set_option autoImplicit false

namespace TrackedStorage

namespace Switchboard

/-- What a dial can come to. Only a dial that succeeds puts an open link on the board. -/
inductive Dialed (board : Switchboard) (address : Bytes) :
    Except Fault (Option LinkId) × Switchboard → Prop
  | made (link : Link) (dialer : Dialer) (unwritten : link.written = [])
      (untaken : link.taken = []) :
      Dialed board address (.ok (some board.links.length),
        ⟨board.links ++ [link], dialer, board.dialed ++ [address]⟩)
  | failed (outcome : Except Fault (Option LinkId)) (links : List Link) (dialer : Dialer)
      (unmade : ∀ id, outcome ≠ .ok (some id)) (shut : ∀ link ∈ links, link.isOpen = false)
      (blank : ∀ link ∈ links, link.written = []) :
      Dialed board address (outcome, ⟨board.links ++ links, dialer, board.dialed ++ [address]⟩)

theorem Dialed.unlinked {board : Switchboard} {address : Bytes}
    {outcome : Except Fault (Option LinkId)} (unmade : ∀ id, outcome ≠ .ok (some id))
    (dialer : Dialer) :
    Dialed board address (outcome, ⟨board.links, dialer, board.dialed ++ [address]⟩) := by
  have bare := @Dialed.failed board address outcome [] dialer unmade
    (fun link isIn => absurd isIn List.not_mem_nil) (fun link isIn => absurd isIn List.not_mem_nil)
  rwa [List.append_nil] at bare

theorem error_ne_ok_some (fault : Fault) (id : LinkId) :
    (Except.error fault : Except Fault (Option LinkId)) ≠ .ok (some id) := by
  intro same
  cases same

theorem dialScript_dialed (board : Switchboard) (script : DialScript) (address : Bytes) :
    Dialed board address
      ({ board with dialed := board.dialed ++ [address] }.dialScript script address) := by
  unfold dialScript
  rcases script.next? address with ⟨outcome, rest⟩
  rcases outcome with _ | ⟨response, room, isOpen⟩ | _ | ⟨other, reason⟩ | fault
  · exact .unlinked (error_ne_ok_some _) (.script rest)
  · exact .made (.inMemory address response room isOpen) (.script rest) rfl rfl
  · exact .unlinked (by simp) (.script rest)
  · exact .unlinked (error_ne_ok_some _) (.script rest)
  · exact .unlinked (error_ne_ok_some fault) (.script rest)

theorem dialNetwork_dialed (board : Switchboard) (timeouts : Timeouts) (network : Network)
    (address : Bytes) :
    Dialed board address
      ({ board with
          dialed := board.dialed ++ [address] }.dialNetwork timeouts network address) := by
  unfold dialNetwork
  cases Endpoint.ofAddress address with
  | error fault => exact .unlinked (error_ne_ok_some fault) board.dialer
  | ok endpoint =>
      rcases found : network.lookUp endpoint with ⟨peer, rest⟩
      have connects := peer.connect_connects address endpoint.address timeouts
      rcases tried : peer.connect address endpoint.address timeouts with ⟨connection, link⟩
      rw [tried] at connects
      obtain ⟨-, unwritten, untaken, shut⟩ := connects.leaves
      simp only [found, tried]
      have unmade (fault : Fault) (closed : link.isOpen = false) : Dialed board address
          (.error fault, ⟨board.links ++ [link], .network timeouts rest,
            board.dialed ++ [address]⟩) :=
        .failed _ [link] (.network timeouts rest) (error_ne_ok_some _) (by simpa using closed)
          (by simpa using unwritten)
      cases connection with
      | made => exact .made link (.network timeouts rest) unwritten untaken
      | failed reason => exact unmade _ (shut (by simp))
      | endless => exact unmade _ (shut (by simp))

theorem dial_dialed (board : Switchboard) (address : Bytes) :
    Dialed board address (board.dial address) := by
  dsimp only [dial]
  split
  · exact dialScript_dialed board _ address
  · exact dialNetwork_dialed board _ _ address

/-- A link that is made leads to the address that was dialed. -/
theorem address_of_dial {board after : Switchboard} {address : Bytes} {id : LinkId}
    (made : board.dial address = (.ok (some id), after)) : (after.link id).address = address := by
  unfold dial at made
  dsimp only at made
  split at made
  · unfold dialScript at made
    dsimp only at made
    split at made <;> cases made
    rw [link_add_self]
    rfl
  · rename_i timeouts network _
    unfold dialNetwork at made
    cases named : Endpoint.ofAddress address with
    | error fault =>
        simp only [named] at made
        cases made
    | ok endpoint =>
        rcases found : network.lookUp endpoint with ⟨peer, rest⟩
        have connects := peer.connect_connects address endpoint.address timeouts
        rcases tried : peer.connect address endpoint.address timeouts with ⟨connection, link⟩
        rw [tried] at connects
        simp only [named, found, tried] at made
        cases connection with
        | made =>
            cases made
            rw [link_add_self]
            exact connects.leaves.1
        | failed reason => cases made
        | endless => cases made

theorem Dialed.of_dial {board after : Switchboard} {address : Bytes}
    {outcome : Except Fault (Option LinkId)} (dialed : board.dial address = (outcome, after)) :
    Dialed board address (outcome, after) := by
  rw [← dialed]
  exact dial_dialed board address

/-- A new link takes the next number. -/
theorem Dialed.eq_length {board after : Switchboard} {address : Bytes} {id : LinkId}
    (dialed : Dialed board address (.ok (some id), after)) : id = board.links.length := by
  cases dialed with
  | made => rfl
  | failed _ _ _ unmade => exact absurd rfl (unmade id)

theorem Dialed.lt_length {board after : Switchboard} {address : Bytes} {id : LinkId}
    (dialed : Dialed board address (.ok (some id), after)) : id < after.links.length := by
  cases dialed with
  | made => simp
  | failed _ _ _ unmade => exact absurd rfl (unmade id)

theorem Dialed.untouched {board after : Switchboard} {address : Bytes} {id : LinkId}
    (dialed : Dialed board address (.ok (some id), after)) :
    (after.link id).written = [] ∧ (after.link id).taken = [] := by
  cases dialed with
  | made link dialer unwritten untaken => simpa [Switchboard.link] using ⟨unwritten, untaken⟩
  | failed _ _ _ unmade => exact absurd rfl (unmade id)

theorem Dialed.dialed_eq {board after : Switchboard} {address : Bytes}
    {outcome : Except Fault (Option LinkId)} (dialed : Dialed board address (outcome, after)) :
    after.dialed = board.dialed ++ [address] := by
  cases dialed <;> rfl

theorem Dialed.length_le {board after : Switchboard} {address : Bytes}
    {outcome : Except Fault (Option LinkId)} (dialed : Dialed board address (outcome, after)) :
    board.links.length ≤ after.links.length := by
  cases dialed <;> simp

/-- A dial leaves the links that are there as they are. -/
theorem Dialed.link_of_lt {board after : Switchboard} {address : Bytes}
    {outcome : Except Fault (Option LinkId)} (dialed : Dialed board address (outcome, after))
    {id : LinkId} (isThere : id < board.links.length) : after.link id = board.link id := by
  cases dialed <;> simp [link, List.getElem?_append_left isThere]

theorem Dialed.isOpen_of_unmade {board after : Switchboard} {address : Bytes}
    {outcome : Except Fault (Option LinkId)} (dialed : Dialed board address (outcome, after))
    {id : LinkId} (unmade : outcome ≠ .ok (some id)) : after.isOpen id = board.isOpen id := by
  by_cases isThere : id < board.links.length
  · rw [isOpen, dialed.link_of_lt isThere, isOpen]
  · have absent : board.links.length ≤ id := Nat.not_lt.mp isThere
    rw [isOpen, isOpen, link_of_length_le absent]
    cases dialed with
    | made new dialer =>
        have later : board.links.length < id := by
          refine Nat.lt_of_le_of_ne absent ?_
          rintro rfl
          exact unmade rfl
        rw [link_of_length_le (by simpa using Nat.succ_le_of_lt later)]
    | failed _ new dialer _ shut =>
        simp only [link, List.getD_eq_getElem?_getD, List.getElem?_append_right absent]
        cases found : new[id - board.links.length]? with
        | none => rfl
        | some link => exact shut link (List.mem_of_getElem? found)

/-- Whatever a dial comes to, nothing is written meanwhile. -/
theorem written_dial (board : Switchboard) (address : Bytes) (id : LinkId) :
    ((board.dial address).2.link id).written = (board.link id).written := by
  have dialed := dial_dialed board address
  generalize board.dial address = ended at dialed ⊢
  by_cases isThere : id < board.links.length
  · obtain ⟨outcome, after⟩ := ended
    rw [dialed.link_of_lt isThere]
  · have absent : board.links.length ≤ id := Nat.le_of_not_lt isThere
    have blank (links : List Link) (unwritten : ∀ link ∈ links, link.written = []) :
        ((board.links ++ links).getD id Link.dead).written = [] := by
      rw [List.getD_eq_getElem?_getD, List.getElem?_append_right absent]
      cases found : links[id - board.links.length]? with
      | none => rfl
      | some link => exact unwritten link (List.mem_of_getElem? found)
    rw [link_of_length_le absent]
    cases dialed with
    | made link dialer unwritten => exact blank [link] (by simpa using unwritten)
    | failed outcome links dialer unmade shut unwritten => exact blank links unwritten

/-- The link that a call of the dialer makes, if it makes one. -/
def made? (board : Switchboard) (address : Bytes) : Option LinkId :=
  match (board.dial address).1 with
  | .ok made => made
  | .error _ => none

/-- The links that the dialer makes when it is called for some addresses, one after the other. -/
def madeFor (board : Switchboard) : List Bytes → List LinkId
  | [] => []
  | address :: rest => (board.made? address).toList ++ (board.dial address).2.madeFor rest

section
variable {board after : Switchboard} {address : Bytes} {outcome : Except Fault (Option LinkId)}

theorem made?_of_dial {id : LinkId} (dialed : board.dial address = (.ok (some id), after)) :
    board.made? address = some id := by
  rw [made?, dialed]

theorem made?_eq_none (dialed : board.dial address = (outcome, after))
    (unmade : ∀ id, outcome ≠ .ok (some id)) : board.made? address = none := by
  rw [made?, dialed]
  rcases outcome with fault | _ | id
  · rfl
  · rfl
  · exact absurd rfl (unmade id)

theorem madeFor_of_silent (silent : after.dialed = board.dialed) :
    board.madeFor (after.dialed.drop board.dialed.length) = [] := by
  rw [silent, List.drop_length, madeFor]

theorem madeFor_of_dial (dialed : board.dial address = (outcome, after)) :
    board.madeFor (after.dialed.drop board.dialed.length) = (board.made? address).toList := by
  rw [(Dialed.of_dial dialed).dialed_eq, List.drop_left, madeFor, madeFor, List.append_nil]

end

end Switchboard

namespace Pool

/-- What a request for a link can come to. All idle links in front of an open one are dropped; a
link is dialed only if none is open. -/
inductive Acquired (pool : Pool) (board : Switchboard) : EStateM.Result Fault Desk LinkId → Prop
  | destroyed (gone : pool.isDestroyed = true) :
      Acquired pool board (.error (.exhausted pool.address) (pool, board))
  | reused (closed : List LinkId) (id : LinkId) (rest : List LinkId)
      (running : pool.isDestroyed = false) (idle : pool.idle = closed ++ id :: rest)
      (shut : ∀ other ∈ closed, board.isOpen other = false) (opened : board.isOpen id = true) :
      Acquired pool board (.ok id
        ({ pool with idle := rest, live := pool.live - UInt64.ofNat closed.length }, board))
  | full (running : pool.isDestroyed = false)
      (shut : ∀ other ∈ pool.idle, board.isOpen other = false)
      (full : pool.capacity ≤ pool.live - UInt64.ofNat pool.idle.length) :
      Acquired pool board (.error (.exhausted pool.address)
        ({ pool with idle := [], live := pool.live - UInt64.ofNat pool.idle.length }, board))
  | made (id : LinkId) (after : Switchboard) (running : pool.isDestroyed = false)
      (shut : ∀ other ∈ pool.idle, board.isOpen other = false)
      (room : pool.live - UInt64.ofNat pool.idle.length < pool.capacity)
      (dialed : board.dial pool.address = (.ok (some id), after)) :
      Acquired pool board (.ok id
        ({ pool with idle := [], live := pool.live - UInt64.ofNat pool.idle.length + 1 }, after))
  | failed (outcome : Except Fault (Option LinkId)) (address reason : Bytes)
      (after : Switchboard) (running : pool.isDestroyed = false)
      (shut : ∀ other ∈ pool.idle, board.isOpen other = false)
      (room : pool.live - UInt64.ofNat pool.idle.length < pool.capacity)
      (dialed : board.dial pool.address = (outcome, after))
      (unmade : ∀ id, outcome ≠ .ok (some id)) :
      Acquired pool board (.error (.dial address reason)
        ({ pool with idle := [], live := pool.live - UInt64.ofNat pool.idle.length }, after))

/-- Whatever a dialer raises, the pool reports a failed dial. -/
theorem dialFault_eq_dial (pool : Pool) (fault : Fault) :
    ∃ address reason, pool.dialFault fault = .dial address reason := by
  cases fault <;> exact ⟨_, _, rfl⟩

theorem grow_acquired (pool : Pool) (board : Switchboard) (running : pool.isDestroyed = false)
    (shut : ∀ other ∈ pool.idle, board.isOpen other = false) :
    Acquired pool board (grow
      ({ pool with idle := [], live := pool.live - UInt64.ofNat pool.idle.length }, board)) := by
  unfold grow
  by_cases full : pool.capacity ≤ pool.live - UInt64.ofNat pool.idle.length
  · simp only [full, ↓reduceIte]
    exact .full running shut full
  · have room := UInt64.not_le.mp full
    simp only [full, ↓reduceIte]
    rcases dialed : board.dial pool.address with ⟨outcome, after⟩
    rcases outcome with fault | made
    · obtain ⟨address, reason, same⟩ := dialFault_eq_dial
        { pool with idle := [], live := pool.live - UInt64.ofNat pool.idle.length } fault
      simp only [same]
      exact .failed _ address reason after running shut room dialed
        (Switchboard.error_ne_ok_some fault)
    · cases made with
      | none => exact .failed _ _ _ after running shut room dialed (by simp)
      | some id => exact .made id after running shut room dialed

theorem acquire_acquired (pool : Pool) (board : Switchboard) :
    Acquired pool board (acquire (pool, board)) := by
  unfold acquire
  dsimp only
  by_cases gone : pool.isDestroyed = true
  · rw [if_pos gone]
    exact .destroyed gone
  · have running : pool.isDestroyed = false := by simpa using gone
    have parts := List.takeWhile_append_dropWhile
      (p := fun id => !board.isOpen id) (l := pool.idle)
    have dropped : ∀ other ∈ pool.idle.takeWhile (fun id => !board.isOpen id),
        board.isOpen other = false := by
      intro other isIn
      simpa using List.mem_takeWhile_imp isIn
    rw [if_neg gone]
    split
    · rename_i id rest left
      have opened : board.isOpen id = true := by
        have head := List.head_dropWhile_not (p := fun id => !board.isOpen id) (l := pool.idle)
          (by simp [left])
        simpa [left] using head
      rw [left] at parts
      exact .reused _ id rest running parts.symm dropped opened
    · rename_i left
      rw [left, List.append_nil] at parts
      rw [parts] at dropped ⊢
      exact grow_acquired pool board running dropped

theorem written_acquire (pool : Pool) (board : Switchboard) (id : LinkId) :
    ((Action.after (acquire (pool, board))).2.link id).written = (board.link id).written := by
  have acquired := acquire_acquired pool board
  generalize acquire (pool, board) = ended at acquired ⊢
  have wrote := board.written_dial pool.address id
  cases acquired with
  | made other after running shut room dialed => rwa [dialed] at wrote
  | failed outcome address reason after running shut room dialed => rwa [dialed] at wrote
  | _ => rfl

/-- A link that is lent has a number on the board. -/
theorem lt_length_of_acquire {pool : Pool} {board : Switchboard} {id : LinkId} {last : Desk}
    (lent : acquire (pool, board) = .ok id last) : id < last.2.links.length := by
  have acquired := acquire_acquired pool board
  rw [lent] at acquired
  cases acquired with
  | reused closed id rest running idle shut opened => exact Switchboard.lt_length_of_isOpen opened
  | made id after running shut room dialed =>
      exact (Switchboard.Dialed.of_dial dialed).lt_length

theorem acquire_of_destroyed {pool : Pool} (gone : pool.isDestroyed = true)
    (board : Switchboard) :
    acquire (pool, board) = .error (.exhausted pool.address) (pool, board) := by
  rw [acquire]
  exact if_pos gone

theorem release_of_destroyed {pool : Pool} (gone : pool.isDestroyed = true)
    (board : Switchboard) (id : LinkId) :
    release (some id) (pool, board) = ({ pool with live := pool.live - 1 }, board.close id) := by
  rw [release, gone]
  rfl

theorem release_of_open {pool : Pool} {board : Switchboard} {id : LinkId}
    (running : pool.isDestroyed = false) (opened : board.isOpen id = true) :
    release (some id) (pool, board) = ({ pool with idle := id :: pool.idle }, board) := by
  simp only [release, running, opened, Bool.not_true, Bool.or_false, Bool.false_eq_true, ↓reduceIte]

theorem release_of_closed {board : Switchboard} {id : LinkId} (closed : board.isOpen id = false)
    (pool : Pool) :
    release (some id) (pool, board) = ({ pool with live := pool.live - 1 }, board.close id) := by
  simp only [release, closed, Bool.not_false, Bool.or_true, ↓reduceIte]

def destroyed (pool : Pool) : Pool :=
  if pool.isDestroyed then pool
  else { pool with
    idle := []
    live := pool.live - UInt64.ofNat pool.idle.length
    isDestroyed := true }

theorem destroy_eq (pool : Pool) (board : Switchboard) :
    destroy (pool, board) = (pool.destroyed,
      if pool.isDestroyed then board else pool.idle.foldl Switchboard.close board) := by
  rw [destroy, destroyed]
  split <;> rfl

@[simp] theorem isDestroyed_destroyed (pool : Pool) : pool.destroyed.isDestroyed = true := by
  rw [destroyed]
  split
  · assumption
  · rfl

theorem isDestroyed_destroy (desk : Desk) : (destroy desk).1.isDestroyed = true := by
  rw [destroy_eq, isDestroyed_destroyed]

theorem create_eq {address : Bytes} {capacity : UInt64} {dialer : Option Dialer} {pool : Pool}
    (created : create address capacity dialer = .ok pool) :
    pool = ⟨address, capacity, [], 0, false⟩ ∧ capacity ≠ 0 := by
  unfold create at created
  split at created
  · cases created
  · rename_i positive
    split at created
    · cases created
    · split at created
      · cases created
      · cases created
        exact ⟨rfl, positive⟩

/-- With room for a link, all that a new pool needs is an address that can be dialed. -/
theorem create_of_capable {capacity : UInt64} (capable : capacity ≠ 0) (address : Bytes)
    (dialer : Dialer) :
    create address capacity (some dialer) =
      (Endpoint.ofAddress address).map fun _ => ⟨address, capacity, [], 0, false⟩ := by
  rw [create, if_neg capable]
  simp only [Option.isNone_some, Bool.false_eq_true, ↓reduceIte]
  cases Endpoint.ofAddress address <;> rfl

end Pool

end TrackedStorage
