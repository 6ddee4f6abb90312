import TrackedStorage.Borrowing
import TrackedStorage.Proofs.PoolOperations

set_option autoImplicit false

namespace TrackedStorage

namespace Borrowing

/-- How a link comes back to its pool. -/
inductive Return where
  /-- For further use. -/
  | released
  /-- To be closed. -/
  | discarded
  deriving DecidableEq

/-- What it does to the pool that a link comes back, if there is one. -/
def Return.apply (way : Return) (returned : Option LinkId) : Desk → Desk :=
  match way with
  | .released => Pool.release returned
  | .discarded => Pool.discard returned

inductive Place where
  | slot (name : Bytes)
  | lease (name : Bytes)
  deriving DecidableEq

def content (borrowing : Borrowing) : Place → Option LinkId
  | .slot name => borrowing.slots.lookup name
  | .lease name => (borrowing.lease name).held

/-- What passes between a pool and those who borrow from it. -/
inductive Dealing where
  /-- A request for a link, and the link that it gives. -/
  | request (lent : Option LinkId)
  | returned (giver : Place) (id : LinkId) (way : Return)
  deriving DecidableEq

def Dealing.apply (desk : Desk) : Dealing → Desk
  | .request _ => Action.after (Pool.acquire desk)
  | .returned _ id way => way.apply (some id) desk

inductive Deed where
  /-- A link is requested for a place. A lease that was there ends. -/
  | fill (place : Place)
  | empty (place : Place) (way : Return)
  /-- A link goes from one lease to another, in place of what was there. -/
  | pass (source target : Bytes)
  /-- A link that is not the pool's is put into a slot. -/
  | plant (slot : Bytes)
  | nothing

def Move.deed : Move → Deed
  | .acquire slot => .fill (.slot slot)
  | .lease name => .fill (.lease name)
  | .release slot => .empty (.slot slot) .released
  | .discard slot => .empty (.slot slot) .discarded
  | .releaseLease name => .empty (.lease name) .released
  | .finishLease name => .empty (.lease name) .discarded
  | .moveLease source target => .pass source target
  | .foreign slot => .plant slot
  | .drop _ => .nothing
  | .destroy => .nothing
  | .send _ _ => .nothing

def lent (desk : Desk) : Option LinkId :=
  match Pool.acquire desk with
  | .ok id _ => some id
  | .error _ _ => none

def handBack (borrowing : Borrowing) (place : Place) (way : Return) : List Dealing :=
  (borrowing.content place).toList.map (.returned place · way)

/-- What comes back when something else is put into a place. Nobody gives back a bare link. -/
def displaced (borrowing : Borrowing) : Place → List Dealing
  | .slot _ => []
  | .lease name => borrowing.handBack (.lease name) .discarded

/-- The dealings of a move, in order. -/
def dealings (borrowing : Borrowing) (move : Move) : List Dealing :=
  match move.deed with
  | .fill place =>
      match lent borrowing.desk with
      | none => [.request none]
      | some id => .request (some id) :: borrowing.displaced place
  | .empty place way => borrowing.handBack place way
  | .pass source target => if source = target then [] else borrowing.displaced (.lease target)
  | .plant _ => []
  | .nothing => []

/-- What a move leaves, whether it succeeds or not. -/
def next (borrowing : Borrowing) (move : Move) : Borrowing := Action.after (step move borrowing)

def run (borrowing : Borrowing) (moves : List Move) : Borrowing := moves.foldl next borrowing

def log (borrowing : Borrowing) : List Move → List Dealing
  | [] => []
  | move :: rest => borrowing.dealings move ++ (borrowing.next move).log rest

section
variable {α : Type} (entries : List (Bytes × α)) (name other : Bytes)

theorem lookup_unfile :
    (unfile entries name).lookup other = if other = name then none else entries.lookup other := by
  induction entries with
  | nil => simp [unfile]
  | cons entry rest ih =>
      obtain ⟨key, value⟩ := entry
      rw [unfile] at ih ⊢
      by_cases gone : key = name
      · rw [List.filter_cons_of_neg (by simp [gone]), ih]
        by_cases wanted : other = name
        · rw [if_pos wanted, if_pos wanted]
        · simp only [if_neg wanted, List.lookup_cons, gone, beq_false_of_ne wanted]
      · rw [List.filter_cons_of_pos (by simpa using gone), List.lookup_cons, List.lookup_cons, ih]
        by_cases wanted : other = key
        · have kept : other ≠ name := fun same => gone (wanted ▸ same)
          rw [if_neg kept, if_neg kept]
        · simp only [beq_false_of_ne wanted]

theorem lookup_file (value : α) :
    (file entries name value).lookup other =
      if other = name then some value else entries.lookup other := by
  rw [file, List.lookup_cons, ← unfile, lookup_unfile]
  by_cases wanted : other = name
  · simp [wanted]
  · simp only [if_neg wanted, beq_false_of_ne wanted]

end

section
variable (borrowing : Borrowing) (desk : Desk)

theorem content_with_desk : content { borrowing with desk := desk } = borrowing.content := by
  funext place
  cases place <;> rfl

theorem content_file_slot (slot : Bytes) (id : LinkId) (place : Place) :
    content { borrowing with desk := desk, slots := file borrowing.slots slot id } place =
      if place = .slot slot then some id else borrowing.content place := by
  cases place with
  | slot name => simp [content, lookup_file]
  | lease name => simp [content, lease]

theorem content_unfile_slot (slot : Bytes) (place : Place) :
    content { borrowing with desk := desk, slots := unfile borrowing.slots slot } place =
      if place = .slot slot then none else borrowing.content place := by
  cases place with
  | slot name => simp [content, lookup_unfile]
  | lease name => simp [content, lease]

theorem content_file_lease (name : Bytes) (value : Lease) (place : Place) :
    content { borrowing with desk := desk, leases := file borrowing.leases name value } place =
      if place = .lease name then value.held else borrowing.content place := by
  cases place with
  | slot slot => simp [content]
  | lease other =>
      simp only [content, lease, lookup_file, Place.lease.injEq]
      split <;> rfl

theorem content_unfile_lease (name : Bytes) (place : Place) :
    content { borrowing with desk := desk, leases := unfile borrowing.leases name } place =
      if place = .lease name then none else borrowing.content place := by
  cases place with
  | slot slot => simp [content]
  | lease other =>
      simp only [content, lease, lookup_unfile, Place.lease.injEq]
      split <;> rfl

end

section
variable (borrowing : Borrowing) {move : Move}

theorem apply_handBack (place : Place) (way : Return) (desk : Desk) :
    (borrowing.handBack place way).foldl Dealing.apply desk =
      way.apply (borrowing.content place) desk := by
  rw [handBack]
  cases borrowing.content place with
  | none => cases way <;> rfl
  | some id => rfl

theorem next_of_refused {place : Place} {fault : Fault} {desk : Desk}
    (deed : move.deed = .fill place)
    (refused : Pool.acquire borrowing.desk = .error fault desk) :
    borrowing.next move = { borrowing with desk := desk } := by
  cases move <;> cases deed
  · simp only [next, step, refused, Action.after]
  · simp only [next, step, Lease.take, refused, Action.after]

theorem next_of_lent {place : Place} {id : LinkId} {desk : Desk}
    (deed : move.deed = .fill place) (given : Pool.acquire borrowing.desk = .ok id desk) :
    (borrowing.next move).desk = (borrowing.displaced place).foldl Dealing.apply desk ∧
      ∀ other, (borrowing.next move).content other =
        if other = place then some id else borrowing.content other := by
  cases move <;> cases deed
  · simp only [next, step, given, Action.after]
    exact ⟨rfl, content_file_slot borrowing desk _ id⟩
  · simp only [next, step, Lease.take, given, Action.after, displaced, apply_handBack, fileLease]
    exact ⟨rfl, content_file_lease borrowing _ _ ⟨some id⟩⟩

theorem next_of_empty {place : Place} {way : Return} (deed : move.deed = .empty place way) :
    (borrowing.next move).desk = way.apply (borrowing.content place) borrowing.desk ∧
      ∀ other, (borrowing.next move).content other =
        if other = place then none else borrowing.content other := by
  cases move <;> cases deed
  · exact ⟨rfl, content_unfile_slot borrowing _ _⟩
  · exact ⟨rfl, content_unfile_slot borrowing _ _⟩
  · exact ⟨rfl, content_file_lease borrowing _ _ ⟨none⟩⟩
  · exact ⟨rfl, content_unfile_lease borrowing _ _⟩

theorem next_of_pass {source target : Bytes} (deed : move.deed = .pass source target) :
    (borrowing.next move).desk =
        (if source = target then borrowing.desk
          else Pool.discard (borrowing.content (.lease target)) borrowing.desk) ∧
      ∀ other, (borrowing.next move).content other =
        if other = .lease target then borrowing.content (.lease source)
        else if other = .lease source then none else borrowing.content other := by
  cases move <;> cases deed
  have emptied := content_file_lease borrowing borrowing.desk source ⟨none⟩
  refine ⟨?_, ?_⟩
  · have held := emptied (.lease target)
    change Pool.discard (content _ (.lease target)) borrowing.desk = _
    rw [held]
    by_cases same : source = target
    · rw [if_pos same, if_pos (by rw [same])]
      rfl
    · rw [if_neg same, if_neg (by simpa using Ne.symm same)]
  · intro other
    refine (content_file_lease _ _ target (borrowing.lease source) other).trans ?_
    rw [emptied other]
    rfl

theorem next_of_plant {slot : Bytes} (deed : move.deed = .plant slot) :
    (borrowing.next move).desk.1 = borrowing.desk.1 ∧
      (borrowing.next move).desk.2.links.length = borrowing.desk.2.links.length + 1 ∧
      ∀ other, (borrowing.next move).content other =
        if other = .slot slot then some borrowing.desk.2.links.length
        else borrowing.content other := by
  cases move <;> cases deed
  refine ⟨rfl, ?_, content_file_slot borrowing _ _ _⟩
  simp [next, step, Action.after, Switchboard.add]

theorem length_onLink {α : Type} (board : Switchboard) (id : LinkId) (action : Action Link α) :
    (Action.after (board.onLink id action)).links.length = board.links.length := by
  rw [Switchboard.onLink, Action.on]
  cases action (board.link id) <;> exact Switchboard.length_setLink board id _

/-- Moves that leave the places alone leave the pool alone too, unless they destroy it. -/
theorem next_of_nothing (deed : move.deed = .nothing) :
    (borrowing.next move).desk.1 =
        (if move = .destroy then borrowing.desk.1.destroyed else borrowing.desk.1) ∧
      (borrowing.next move).desk.2.links.length = borrowing.desk.2.links.length ∧
      (borrowing.next move).content = borrowing.content := by
  cases move <;> cases deed
  case drop id =>
    simp only [next, step]
    split
    · exact ⟨rfl, Switchboard.length_close _ id, content_with_desk borrowing _⟩
    · exact ⟨rfl, rfl, rfl⟩
  case destroy =>
    simp only [next, step, Action.after]
    rw [show borrowing.desk = (borrowing.desk.1, borrowing.desk.2) from rfl, Pool.destroy_eq]
    refine ⟨rfl, ?_, content_with_desk borrowing _⟩
    dsimp only
    split
    · rfl
    · exact Switchboard.length_foldl_close _ _
  case send name data =>
    simp only [next, step]
    split
    · exact ⟨rfl, rfl, rfl⟩
    · rename_i id _
      have length := length_onLink borrowing.desk.2 id (Link.write data)
      cases written : borrowing.desk.2.onLink id (Link.write data) <;>
        · rw [written] at length
          exact ⟨rfl, length, content_with_desk borrowing _⟩

end

/-- How a link comes to be at a place after a move. -/
inductive Came (borrowing : Borrowing) (move : Move) (place : Place) (id : LinkId) : Prop
  | stayed (holds : borrowing.content place = some id)
  | lent (deed : move.deed = .fill place) (asked : .request (some id) ∈ borrowing.dealings move)
  | passed (source target : Bytes) (deed : move.deed = .pass source target)
      (isTarget : place = .lease target) (held : borrowing.content (.lease source) = some id)
  | planted (slot : Bytes) (isSlot : place = .slot slot)
      (isNew : id = borrowing.desk.2.links.length)

section
variable (borrowing : Borrowing) {move : Move}

theorem dealings_of_refused {place : Place} {fault : Fault} {desk : Desk}
    (deed : move.deed = .fill place)
    (refused : Pool.acquire borrowing.desk = .error fault desk) :
    borrowing.dealings move = [.request none] := by
  simp only [dealings, deed, lent, refused]

theorem dealings_of_lent {place : Place} {id : LinkId} {desk : Desk}
    (deed : move.deed = .fill place) (given : Pool.acquire borrowing.desk = .ok id desk) :
    borrowing.dealings move = .request (some id) :: borrowing.displaced place := by
  simp only [dealings, deed, lent, given]

theorem request_notMem_handBack (lent : Option LinkId) (place : Place) (way : Return) :
    .request lent ∉ borrowing.handBack place way := by
  simp [handBack]

theorem request_notMem_displaced (lent : Option LinkId) (place : Place) :
    .request lent ∉ borrowing.displaced place := by
  cases place with
  | slot name => exact List.not_mem_nil
  | lease name => exact borrowing.request_notMem_handBack lent _ _

theorem returned_mem_handBack {giver place : Place} {id : LinkId} {way other : Return}
    (isIn : .returned giver id way ∈ borrowing.handBack place other) :
    giver = place ∧ borrowing.content place = some id ∧ way = other := by
  obtain ⟨_, held, same⟩ := List.mem_map.mp isIn
  cases same
  exact ⟨rfl, Option.mem_toList.mp held, rfl⟩

theorem returned_mem_displaced {giver place : Place} {id : LinkId} {way : Return}
    (isIn : .returned giver id way ∈ borrowing.displaced place) :
    giver = place ∧ borrowing.content place = some id ∧ way = .discarded ∧
      borrowing.displaced place = [.returned place id .discarded] := by
  cases place with
  | slot name => cases isIn
  | lease name =>
      obtain ⟨rfl, holds, rfl⟩ := borrowing.returned_mem_handBack isIn
      refine ⟨rfl, holds, rfl, ?_⟩
      rw [displaced, handBack, holds]
      rfl

theorem fill_of_link {id : LinkId}
    (answered : Action.result (step move borrowing) = .ok (.link id)) :
    ∃ place, move.deed = .fill place := by
  cases move with
  | acquire slot => exact ⟨_, rfl⟩
  | lease name => exact ⟨_, rfl⟩
  | drop other =>
      simp only [step] at answered
      split at answered <;> cases answered
  | send name data =>
      simp only [step] at answered
      split at answered
      · cases answered
      · split at answered <;> cases answered
  | _ => cases answered

/-- The links that are lent are the answers to the moves. -/
theorem request_mem_dealings (move : Move) (id : LinkId) :
    .request (some id) ∈ borrowing.dealings move ↔
      Action.result (step move borrowing) = .ok (.link id) := by
  have unanswered : (∀ place, move.deed ≠ .fill place) →
      Action.result (step move borrowing) ≠ .ok (.link id) := by
    intro unfilled answered
    obtain ⟨place, deed⟩ := borrowing.fill_of_link answered
    exact unfilled place deed
  cases deed : move.deed with
  | fill place =>
      cases given : Pool.acquire borrowing.desk with
      | error fault desk =>
          rw [borrowing.dealings_of_refused deed given]
          cases move <;> cases deed <;> simp [step, Lease.take, given, Action.result]
      | ok new desk =>
          rw [borrowing.dealings_of_lent deed given]
          cases move <;> cases deed <;>
            simp [step, Lease.take, given, Action.result, request_notMem_displaced, eq_comm]
  | empty place way =>
      simp only [dealings, deed]
      exact iff_of_false (borrowing.request_notMem_handBack _ _ _) (unanswered (by simp [deed]))
  | pass source target =>
      refine iff_of_false ?_ (unanswered (by simp [deed]))
      simp only [dealings, deed]
      split
      · exact List.not_mem_nil
      · exact borrowing.request_notMem_displaced _ _
  | plant slot =>
      simp only [dealings, deed]
      exact iff_of_false List.not_mem_nil (unanswered (by simp [deed]))
  | nothing =>
      simp only [dealings, deed]
      exact iff_of_false List.not_mem_nil (unanswered (by simp [deed]))

theorem acquire_of_request {id : LinkId}
    (asked : .request (some id) ∈ borrowing.dealings move) :
    ∃ desk rest, Pool.acquire borrowing.desk = .ok id desk ∧
      borrowing.dealings move = .request (some id) :: rest := by
  obtain ⟨place, deed⟩ := borrowing.fill_of_link ((borrowing.request_mem_dealings move id).mp asked)
  cases given : Pool.acquire borrowing.desk with
  | error fault desk =>
      rw [borrowing.dealings_of_refused deed given] at asked
      simp at asked
  | ok new desk =>
      have dealings := borrowing.dealings_of_lent deed given
      rw [dealings, List.mem_cons] at asked
      cases asked.resolve_right (borrowing.request_notMem_displaced _ _)
      exact ⟨desk, _, rfl, dealings⟩

theorem came {place : Place} {id : LinkId}
    (holds : (borrowing.next move).content place = some id) :
    Came borrowing move place id := by
  cases deed : move.deed with
  | fill filled =>
      cases given : Pool.acquire borrowing.desk with
      | error fault desk =>
          rw [borrowing.next_of_refused deed given, content_with_desk] at holds
          exact .stayed holds
      | ok new desk =>
          rw [(borrowing.next_of_lent deed given).2] at holds
          split at holds
          · rename_i here
            refine .lent (here ▸ deed) ?_
            rw [borrowing.dealings_of_lent deed given, holds]
            exact List.mem_cons_self
          · exact .stayed holds
  | empty emptied way =>
      rw [(borrowing.next_of_empty deed).2] at holds
      split at holds
      · cases holds
      · exact .stayed holds
  | pass source target =>
      rw [(borrowing.next_of_pass deed).2] at holds
      split at holds
      · rename_i here
        exact .passed source target deed here holds
      · split at holds
        · cases holds
        · exact .stayed holds
  | plant slot =>
      rw [(borrowing.next_of_plant deed).2.2] at holds
      split at holds
      · rename_i here
        exact .planted slot here (Option.some.inj holds).symm
      · exact .stayed holds
  | nothing =>
      rw [(borrowing.next_of_nothing deed).2.2] at holds
      exact .stayed holds

/-- What comes back in a move was at the place that gives it back. It is released or discarded
there, or else it is discarded when its lease ends for another one. -/
theorem of_returned {giver : Place} {id : LinkId} {way : Return}
    (isIn : .returned giver id way ∈ borrowing.dealings move) :
    borrowing.content giver = some id ∧
      (move.deed = .empty giver way ∨
        way = .discarded ∧ ∃ desk, (borrowing.next move).desk = Pool.discard (some id) desk) := by
  cases deed : move.deed with
  | fill place =>
      cases given : Pool.acquire borrowing.desk with
      | error fault desk =>
          rw [borrowing.dealings_of_refused deed given] at isIn
          simp at isIn
      | ok new desk =>
          rw [borrowing.dealings_of_lent deed given, List.mem_cons] at isIn
          obtain ⟨rfl, holds, rfl, alone⟩ :=
            borrowing.returned_mem_displaced (isIn.resolve_left (by simp))
          refine ⟨holds, .inr ⟨rfl, desk, ?_⟩⟩
          rw [(borrowing.next_of_lent deed given).1, alone]
          rfl
  | empty place other =>
      simp only [dealings, deed] at isIn
      obtain ⟨rfl, holds, rfl⟩ := borrowing.returned_mem_handBack isIn
      exact ⟨holds, .inl rfl⟩
  | pass source target =>
      simp only [dealings, deed] at isIn
      split at isIn
      · cases isIn
      · rename_i differs
        obtain ⟨rfl, holds, rfl, -⟩ := borrowing.returned_mem_displaced isIn
        refine ⟨holds, .inr ⟨rfl, borrowing.desk, ?_⟩⟩
        rw [(borrowing.next_of_pass deed).1, if_neg differs, holds]
  | plant slot =>
      simp only [dealings, deed] at isIn
      cases isIn
  | nothing =>
      simp only [dealings, deed] at isIn
      cases isIn

structure Recorded (borrowing : Borrowing) (move : Move) : Prop where
  answered : ∀ id, .request (some id) ∈ borrowing.dealings move ↔
    Action.result (step move borrowing) = .ok (.link id)
  /-- Together they are all that the move does to the pool. -/
  applied : borrowing.dealings move ≠ [] →
    (borrowing.next move).desk = (borrowing.dealings move).foldl Dealing.apply borrowing.desk
  /-- Without them a move does nothing to the pool, or destroys it. -/
  untouched : borrowing.dealings move = [] →
    (borrowing.next move).desk.1 =
      if move = .destroy then borrowing.desk.1.destroyed else borrowing.desk.1
  /-- An open link that is released becomes the newest idle one, unless the pool is destroyed. -/
  kept : ∀ giver id, .returned giver id .released ∈ borrowing.dealings move →
    borrowing.desk.1.isDestroyed = false → borrowing.desk.2.isOpen id = true →
    (borrowing.next move).desk =
      ({ borrowing.desk.1 with idle := id :: borrowing.desk.1.idle }, borrowing.desk.2)
  /-- Any other link that comes back is closed then. -/
  closed : ∀ giver id way, .returned giver id way ∈ borrowing.dealings move →
    way = .discarded ∨ borrowing.desk.1.isDestroyed = true ∨ borrowing.desk.2.isOpen id = false →
    (borrowing.next move).desk.2.isOpen id = false

theorem apply_dealings (some : borrowing.dealings move ≠ []) :
    (borrowing.next move).desk =
      (borrowing.dealings move).foldl Dealing.apply borrowing.desk := by
  cases deed : move.deed with
  | fill place =>
      cases given : Pool.acquire borrowing.desk with
      | error fault desk =>
          rw [borrowing.dealings_of_refused deed given, borrowing.next_of_refused deed given]
          simp only [List.foldl_cons, List.foldl_nil, Dealing.apply, given, Action.after]
      | ok id desk =>
          rw [borrowing.dealings_of_lent deed given, (borrowing.next_of_lent deed given).1]
          simp only [List.foldl_cons, Dealing.apply, given, Action.after]
  | empty place way =>
      simp only [dealings, deed, apply_handBack]
      exact (borrowing.next_of_empty deed).1
  | pass source target =>
      rw [(borrowing.next_of_pass deed).1]
      simp only [dealings, deed] at some ⊢
      by_cases same : source = target
      · exact absurd (if_pos same) some
      · rw [if_neg same, if_neg same, displaced, apply_handBack]
        rfl
  | plant slot => exact absurd (by simp only [dealings, deed]) some
  | nothing => exact absurd (by simp only [dealings, deed]) some

theorem content_of_handBack_eq_nil {place : Place} {way : Return}
    (none : borrowing.handBack place way = []) : borrowing.content place = .none := by
  simpa [handBack] using none

theorem pool_of_dealings_eq_nil (none : borrowing.dealings move = []) :
    (borrowing.next move).desk.1 =
      if move = .destroy then borrowing.desk.1.destroyed else borrowing.desk.1 := by
  have running : move.deed ≠ .nothing → move ≠ .destroy := by
    rintro busy rfl
    exact busy rfl
  cases deed : move.deed with
  | fill place =>
      simp only [dealings, deed] at none
      split at none <;> cases none
  | empty place way =>
      simp only [dealings, deed] at none
      rw [if_neg (running (by simp [deed])), (borrowing.next_of_empty deed).1,
        borrowing.content_of_handBack_eq_nil none]
      cases way <;> rfl
  | pass source target =>
      simp only [dealings, deed] at none
      rw [if_neg (running (by simp [deed])), (borrowing.next_of_pass deed).1]
      split
      · rfl
      · rename_i differs
        rw [if_neg differs] at none
        rw [borrowing.content_of_handBack_eq_nil none]
        rfl
  | plant slot =>
      rw [if_neg (running (by simp [deed]))]
      exact (borrowing.next_of_plant deed).1
  | nothing => exact (borrowing.next_of_nothing deed).1

/-- A link that comes back is closed, unless the pool keeps it. -/
theorem isOpen_apply {way : Return} {desk : Desk} {id : LinkId}
    (unkept : way = .discarded ∨ desk.1.isDestroyed = true ∨ desk.2.isOpen id = false) :
    (way.apply (some id) desk).2.isOpen id = false := by
  have closed := (Switchboard.isOpen_close desk.2 id id).trans (if_pos rfl)
  cases way with
  | discarded => exact closed
  | released =>
      rcases unkept with other | gone | shut
      · cases other
      · rw [Return.apply, Pool.release_of_destroyed gone desk.2 id]
        exact closed
      · rw [Return.apply, Pool.release_of_closed shut desk.1]
        exact closed

theorem recorded (move : Move) : Recorded borrowing move := by
  refine ⟨borrowing.request_mem_dealings move, borrowing.apply_dealings,
    borrowing.pool_of_dealings_eq_nil, ?_, ?_⟩
  · intro giver id isIn running opened
    obtain ⟨holds, deed | ⟨other, -⟩⟩ := borrowing.of_returned isIn
    · rw [(borrowing.next_of_empty deed).1, holds]
      exact Pool.release_of_open running opened
    · cases other
  · intro giver id way isIn cause
    obtain ⟨holds, deed | ⟨rfl, desk, same⟩⟩ := borrowing.of_returned isIn
    · rw [(borrowing.next_of_empty deed).1, holds]
      exact isOpen_apply cause
    · rw [same]
      exact isOpen_apply (.inl rfl)

end

/-- No link is at two places, and none that is at a place is idle. All have numbers below
`count`. -/
structure Apart (content : Place → Option LinkId) (idle : List LinkId) (count : Nat) : Prop where
  sole : ∀ place other id, content place = some id → content other = some id → place = other
  busy : ∀ place id, content place = some id → id ∉ idle
  single : idle.Nodup
  numbered : ∀ place id, content place = some id → id < count
  waiting : ∀ id ∈ idle, id < count

section
variable {content : Place → Option LinkId} {idle : List LinkId} {count : Nat}

theorem Apart.weaken (apart : Apart content idle count) {fewer : List LinkId} {more : Nat}
    (isFewer : fewer.Sublist idle) (isMore : count ≤ more) : Apart content fewer more := by
  refine ⟨apart.sole, ?_, apart.single.sublist isFewer, ?_, ?_⟩
  · intro place id holds isIdle
    exact apart.busy place id holds (isFewer.subset isIdle)
  · intro place id holds
    exact Nat.lt_of_lt_of_le (apart.numbered place id holds) isMore
  · intro id isIdle
    exact Nat.lt_of_lt_of_le (apart.waiting id (isFewer.subset isIdle)) isMore

theorem Apart.fill (apart : Apart content idle count) (place : Place) {id : LinkId}
    (free : ∀ other, content other ≠ some id) (notIdle : id ∉ idle) (isThere : id < count) :
    Apart (fun other => if other = place then some id else content other) idle count := by
  refine ⟨?_, ?_, apart.single, ?_, apart.waiting⟩
  · intro one other link holds also
    split at holds <;> split at also
    · rename_i first second
      rw [first, second]
    · cases holds
      exact absurd also (free other)
    · cases also
      exact absurd holds (free one)
    · exact apart.sole one other link holds also
  · intro one link holds
    split at holds
    · cases holds
      exact notIdle
    · exact apart.busy one link holds
  · intro one link holds
    split at holds
    · cases holds
      exact isThere
    · exact apart.numbered one link holds

theorem Apart.empty (apart : Apart content idle count) (place : Place) :
    Apart (fun other => if other = place then none else content other) idle count := by
  have kept : ∀ other id, (if other = place then none else content other) = some id →
      content other = some id := by
    intro other id holds
    split at holds
    · cases holds
    · exact holds
  refine ⟨?_, ?_, apart.single, ?_, apart.waiting⟩
  · intro one other id holds also
    exact apart.sole one other id (kept one id holds) (kept other id also)
  · intro one id holds
    exact apart.busy one id (kept one id holds)
  · intro one id holds
    exact apart.numbered one id (kept one id holds)

/-- Nobody else has a link that is taken from a place. -/
theorem Apart.free_of_empty (apart : Apart content idle count) {place : Place} {id : LinkId}
    (holds : content place = some id) (other : Place) :
    (if other = place then none else content other) ≠ some id := by
  intro also
  split at also
  · cases also
  · rename_i differs
    exact differs (apart.sole other place id also holds)

theorem Apart.shelve (apart : Apart content idle count) {place : Place} {id : LinkId}
    (holds : content place = some id) :
    Apart (fun other => if other = place then none else content other) (id :: idle) count := by
  have emptied := apart.empty place
  refine ⟨emptied.sole, ?_, ?_, emptied.numbered, ?_⟩
  · intro one link also
    rw [List.mem_cons, not_or]
    refine ⟨?_, emptied.busy one link also⟩
    rintro rfl
    exact apart.free_of_empty holds one also
  · exact List.nodup_cons.mpr ⟨apart.busy place id holds, apart.single⟩
  · exact List.forall_mem_cons.mpr ⟨apart.numbered place id holds, apart.waiting⟩

theorem Apart.pass (apart : Apart content idle count) (source target : Place) :
    Apart (fun other => if other = target then content source
      else if other = source then none else content other) idle count := by
  have emptied := apart.empty source
  cases holds : content source with
  | none => exact emptied.empty target
  | some id =>
      exact emptied.fill target (apart.free_of_empty holds) (apart.busy source id holds)
        (apart.numbered source id holds)

end

/-- What an answered request does to the idle links and to the numbers. A link that is lent was
idle, or is new. -/
theorem acquire_ok {desk after : Desk} {id : LinkId} (given : Pool.acquire desk = .ok id after) :
    after.1.idle.Sublist desk.1.idle ∧ desk.2.links.length ≤ after.2.links.length ∧
      (id ∈ desk.1.idle ∧ (desk.1.idle.Nodup → id ∉ after.1.idle) ∨
        id = desk.2.links.length ∧ id < after.2.links.length ∧ after.1.idle = []) := by
  have acquired := Pool.acquire_acquired desk.1 desk.2
  rw [given] at acquired
  cases acquired with
  | reused closed id rest running idle shut opened =>
      refine ⟨?_, Nat.le_refl _, .inl ⟨?_, ?_⟩⟩
      · rw [idle]
        exact (List.sublist_cons_self id rest).trans (List.sublist_append_right closed _)
      · simp [idle]
      · intro single
        rw [idle] at single
        exact (List.nodup_cons.mp (List.nodup_append.mp single).2.1).1
  | made id after running shut room dialed =>
      have dial := Switchboard.Dialed.of_dial dialed
      exact ⟨List.nil_sublist _, dial.length_le, .inr ⟨dial.eq_length, dial.lt_length, rfl⟩⟩

theorem acquire_error {desk after : Desk} {fault : Fault}
    (refused : Pool.acquire desk = .error fault after) :
    after.1.idle.Sublist desk.1.idle ∧ desk.2.links.length ≤ after.2.links.length := by
  have acquired := Pool.acquire_acquired desk.1 desk.2
  rw [refused] at acquired
  cases acquired with
  | destroyed => exact ⟨List.Sublist.refl _, Nat.le_refl _⟩
  | full => exact ⟨List.nil_sublist _, Nat.le_refl _⟩
  | failed outcome address reason after running shut room dialed unmade =>
      exact ⟨List.nil_sublist _, (Switchboard.Dialed.of_dial dialed).length_le⟩

theorem length_apply (way : Return) (returned : Option LinkId) (desk : Desk) :
    (way.apply returned desk).2.links.length = desk.2.links.length := by
  cases returned <;> cases way
  · rfl
  · rfl
  · simp only [Return.apply, Pool.release]
    split
    · exact Switchboard.length_close _ _
    · rfl
  · exact Switchboard.length_close _ _

theorem idle_discard (returned : Option LinkId) (desk : Desk) :
    (Pool.discard returned desk).1.idle = desk.1.idle := by
  cases returned <;> rfl

/-- No two holders have one link, in this state. -/
def Orderly (borrowing : Borrowing) : Prop :=
  Apart borrowing.content borrowing.desk.1.idle borrowing.desk.2.links.length

theorem displaced_eq (borrowing : Borrowing) (place : Place) (desk : Desk) :
    ((borrowing.displaced place).foldl Dealing.apply desk).1.idle = desk.1.idle ∧
      ((borrowing.displaced place).foldl Dealing.apply desk).2.links.length =
        desk.2.links.length := by
  cases place with
  | slot name => exact ⟨rfl, rfl⟩
  | lease name =>
      rw [displaced, apply_handBack]
      exact ⟨idle_discard _ desk, length_apply .discarded _ desk⟩

theorem length_le_next (borrowing : Borrowing) (move : Move) :
    borrowing.desk.2.links.length ≤ (borrowing.next move).desk.2.links.length := by
  cases deed : move.deed with
  | fill place =>
      cases given : Pool.acquire borrowing.desk with
      | error fault desk =>
          rw [borrowing.next_of_refused deed given]
          exact (acquire_error given).2
      | ok id desk =>
          rw [(borrowing.next_of_lent deed given).1, (borrowing.displaced_eq place desk).2]
          exact (acquire_ok given).2.1
  | empty place way => rw [(borrowing.next_of_empty deed).1, length_apply]
  | pass source target =>
      rw [(borrowing.next_of_pass deed).1]
      split
      · exact Nat.le_refl _
      · exact (length_apply .discarded _ borrowing.desk).ge
  | plant slot =>
      rw [(borrowing.next_of_plant deed).2.1]
      exact Nat.le_succ _
  | nothing => rw [(borrowing.next_of_nothing deed).2.1]

section
variable {borrowing : Borrowing} (orderly : Orderly borrowing)
include orderly

/-- A link that is lent is at no place at the time. -/
theorem Orderly.free_of_lent {id : LinkId} {desk : Desk}
    (given : Pool.acquire borrowing.desk = .ok id desk) (place : Place) :
    borrowing.content place ≠ some id := by
  intro holds
  obtain ⟨-, -, ⟨isIdle, -⟩ | ⟨rfl, -, -⟩⟩ := acquire_ok given
  · exact orderly.busy place id holds isIdle
  · exact Nat.lt_irrefl _ (orderly.numbered place _ holds)

theorem Orderly.unasked {place : Place} {id : LinkId}
    (holds : borrowing.content place = some id) (move : Move) :
    .request (some id) ∉ borrowing.dealings move := by
  intro asked
  obtain ⟨desk, -, given, -⟩ := borrowing.acquire_of_request asked
  exact orderly.free_of_lent given place holds

theorem Orderly.next (move : Move) : Orderly (borrowing.next move) := by
  cases deed : move.deed with
  | fill place =>
      cases given : Pool.acquire borrowing.desk with
      | error fault desk =>
          obtain ⟨fewer, more⟩ := acquire_error given
          rw [borrowing.next_of_refused deed given, Orderly, content_with_desk]
          exact orderly.weaken fewer more
      | ok id desk =>
          obtain ⟨same, content⟩ := borrowing.next_of_lent deed given
          obtain ⟨idle, length⟩ := borrowing.displaced_eq place desk
          obtain ⟨fewer, more, source⟩ := acquire_ok given
          rw [Orderly, same, funext content, idle, length]
          refine (orderly.weaken fewer more).fill place (orderly.free_of_lent given) ?_ ?_
          · rcases source with ⟨-, taken⟩ | ⟨-, -, none⟩
            · exact taken orderly.single
            · simp [none]
          · rcases source with ⟨isIdle, -⟩ | ⟨-, isThere, -⟩
            · exact Nat.lt_of_lt_of_le (orderly.waiting id isIdle) more
            · exact isThere
  | empty place way =>
      obtain ⟨same, content⟩ := borrowing.next_of_empty deed
      rw [Orderly, same, funext content, length_apply]
      cases held : borrowing.content place with
      | none => cases way <;> exact orderly.empty place
      | some id =>
          cases way with
          | released =>
              simp only [Return.apply, Pool.release]
              split
              · exact orderly.empty place
              · exact orderly.shelve held
          | discarded => exact orderly.empty place
  | pass source target =>
      obtain ⟨same, content⟩ := borrowing.next_of_pass deed
      have passed := orderly.pass (.lease source) (.lease target)
      rw [Orderly, same, funext content]
      split
      · exact passed
      · rw [idle_discard, show (Pool.discard _ borrowing.desk).2.links.length = _ from
          length_apply .discarded _ borrowing.desk]
        exact passed
  | plant slot =>
      obtain ⟨same, length, content⟩ := borrowing.next_of_plant deed
      rw [Orderly, same, length, funext content]
      refine (orderly.weaken (List.Sublist.refl _) (Nat.le_succ _)).fill (.slot slot) ?_ ?_ ?_
      · intro other holds
        exact Nat.lt_irrefl _ (orderly.numbered other _ holds)
      · intro isIdle
        exact Nat.lt_irrefl _ (orderly.waiting _ isIdle)
      · exact Nat.lt_succ_self _
  | nothing =>
      obtain ⟨same, length, content⟩ := borrowing.next_of_nothing deed
      rw [Orderly, same, length, content]
      refine orderly.weaken ?_ (Nat.le_refl _)
      split
      · rw [Pool.destroyed]
        split
        · exact List.Sublist.refl _
        · exact List.nil_sublist _
      · exact List.Sublist.refl _

theorem Orderly.run (moves : List Move) : Orderly (borrowing.run moves) := by
  induction moves generalizing borrowing with
  | nil => exact orderly
  | cons move rest ih => exact ih (orderly.next move)

end

end Borrowing

end TrackedStorage
