import TrackedStorage.Proofs.Borrowers

set_option autoImplicit false

namespace TrackedStorage

namespace Borrowing

/-- What becomes of the link in a lease. -/
inductive Fate where
  | held (holder : Bytes)
  /-- It came back, from the lease that held it last. -/
  | returned (giver : Bytes) (way : Return)
  deriving DecidableEq

/-- What a move makes of the link in a lease: the link goes on to another lease, or it is released,
or else it is discarded when its lease ends, which it also does when another takes its name. -/
def course (borrowing : Borrowing) (name : Bytes) (move : Move) : Fate :=
  match move.deed with
  | .fill place =>
      if place = .lease name ∧ lent borrowing.desk ≠ none then .returned name .discarded
      else .held name
  | .empty place way => if place = .lease name then .returned name way else .held name
  | .pass source target =>
      if source = name then .held target
      else if target = name then .returned name .discarded
      else .held name
  | .plant _ => .held name
  | .nothing => .held name

def fate (borrowing : Borrowing) (name : Bytes) : List Move → Fate
  | [] => .held name
  | move :: rest =>
      match borrowing.course name move with
      | .held holder => (borrowing.next move).fate holder rest
      | .returned giver way => .returned giver way

/-- How often and how a link comes back before it is lent again, and from where. -/
def returns (id : LinkId) : List Dealing → List (Place × Return)
  | [] => []
  | .request lent :: rest => if lent = some id then [] else returns id rest
  | .returned giver other way :: rest =>
      if other = id then (giver, way) :: returns id rest else returns id rest

def Fate.returns : Fate → List (Place × Return)
  | .held _ => []
  | .returned giver way => [(.lease giver, way)]

theorem returns_append {id : LinkId} {front : List Dealing}
    (unasked : .request (some id) ∉ front) (rest : List Dealing) :
    returns id (front ++ rest) = returns id front ++ returns id rest := by
  induction front with
  | nil => rfl
  | cons dealing others ih =>
      rw [List.mem_cons, not_or] at unasked
      have later := ih unasked.2
      cases dealing with
      | request lent =>
          have differs : lent ≠ some id := fun same => unasked.1 (by rw [same])
          simp only [List.cons_append, returns, if_neg differs, later]
      | returned giver other way =>
          simp only [List.cons_append, returns, later]
          split <;> rfl

theorem returns_eq_nil {id : LinkId} {dealings : List Dealing}
    (absent : ∀ giver way, .returned giver id way ∉ dealings) : returns id dealings = [] := by
  induction dealings with
  | nil => rfl
  | cons dealing rest ih =>
      have later := ih fun giver way isIn => absent giver way (List.mem_cons_of_mem _ isIn)
      cases dealing with
      | request lent =>
          rw [returns, later]
          exact ite_self _
      | returned giver other way =>
          have differs : other ≠ id := by
            rintro rfl
            exact absent giver way List.mem_cons_self
          rw [returns, if_neg differs, later]

theorem returns_handBack {borrowing : Borrowing} {place : Place} {id : LinkId}
    (holds : borrowing.content place = some id) (way : Return) :
    returns id (borrowing.handBack place way) = [(place, way)] := by
  rw [handBack, holds]
  simp [returns]

section
variable {borrowing : Borrowing} {id : LinkId} (free : ∀ place, borrowing.content place ≠ some id)
include free

theorem returns_dealings_of_free (move : Move) : returns id (borrowing.dealings move) = [] :=
  returns_eq_nil fun giver _ isIn => free giver (borrowing.of_returned isIn).1

/-- A link that is at no place stays at none, unless it is lent. -/
theorem free_next (isThere : id < borrowing.desk.2.links.length) {move : Move}
    (unasked : .request (some id) ∉ borrowing.dealings move) (other : Place) :
    (borrowing.next move).content other ≠ some id := by
  intro holds
  cases borrowing.came holds with
  | stayed holds => exact free other holds
  | lent deed asked => exact unasked asked
  | passed source target deed isTarget held => exact free _ held
  | planted slot isSlot isNew => exact Nat.ne_of_lt isThere isNew

theorem returns_log_of_free (isThere : id < borrowing.desk.2.links.length) (moves : List Move) :
    returns id (borrowing.log moves) = [] := by
  induction moves generalizing borrowing with
  | nil => rfl
  | cons move rest ih =>
      rw [log]
      by_cases asked : .request (some id) ∈ borrowing.dealings move
      · obtain ⟨-, others, -, lent⟩ := borrowing.acquire_of_request asked
        rw [lent, List.cons_append, returns, if_pos rfl]
      · have later := ih (free_next free isThere asked)
          (Nat.lt_of_lt_of_le isThere (borrowing.length_le_next move))
        rw [returns_append asked, returns_dealings_of_free free, later]
        rfl

end

/-- A link is where its fate says. -/
def Fate.Holds (borrowing : Borrowing) (id : LinkId) : Fate → Prop
  | .held holder => borrowing.content (.lease holder) = some id
  | .returned _ _ => ∀ place, borrowing.content place ≠ some id

/-- A move does to the link in a lease what its course says, and the link comes back accordingly. -/
structure Follows (borrowing : Borrowing) (name : Bytes) (id : LinkId) (move : Move) : Prop where
  returned : returns id (borrowing.dealings move) = (borrowing.course name move).returns
  stays : (borrowing.course name move).Holds (borrowing.next move) id

section
variable {borrowing : Borrowing} (orderly : Orderly borrowing) {name : Bytes} {id : LinkId}
variable (holds : borrowing.content (.lease name) = some id) {move : Move}
include orderly holds

theorem Orderly.elsewhere {place : Place} (differs : place ≠ .lease name) :
    borrowing.content place ≠ some id :=
  fun also => differs (orderly.sole place _ id also holds)

theorem Orderly.returns_displaced {place : Place} (differs : place ≠ .lease name) :
    returns id (borrowing.displaced place) = [] :=
  returns_eq_nil fun _ _ isIn =>
    orderly.elsewhere holds differs (borrowing.returned_mem_displaced isIn).2.1

theorem Orderly.follows_of_fill {place : Place} (deed : move.deed = .fill place) :
    Follows borrowing name id move := by
  cases given : Pool.acquire borrowing.desk with
  | error fault desk =>
      have course : borrowing.course name move = .held name := by
        simp [course, deed, lent, given]
      refine ⟨by rw [borrowing.dealings_of_refused deed given, course]; rfl, ?_⟩
      rw [course, borrowing.next_of_refused deed given]
      exact holds
  | ok new desk =>
      have differs : some new ≠ some id := fun same =>
        orderly.free_of_lent given _ (holds.trans same.symm)
      have dealings := borrowing.dealings_of_lent deed given
      have content := (borrowing.next_of_lent deed given).2
      by_cases here : place = .lease name
      · have course : borrowing.course name move = .returned name .discarded := by
          simp [course, deed, here, lent, given]
        refine ⟨?_, ?_⟩
        · rw [dealings, returns, if_neg differs, here, displaced, returns_handBack holds, course]
          rfl
        · rw [course]
          intro other
          rw [content other]
          split
          · exact differs
          · exact orderly.elsewhere holds (by rwa [← here])
      · have course : borrowing.course name move = .held name := by
          simp [course, deed, here]
        refine ⟨?_, ?_⟩
        · rw [dealings, returns, if_neg differs, orderly.returns_displaced holds here, course]
          rfl
        · rw [course, Fate.Holds, content, if_neg (Ne.symm here)]
          exact holds

theorem Orderly.follows_of_empty {place : Place} {way : Return}
    (deed : move.deed = .empty place way) : Follows borrowing name id move := by
  have dealings : borrowing.dealings move = borrowing.handBack place way := by
    simp only [dealings, deed]
  have content := (borrowing.next_of_empty deed).2
  by_cases here : place = .lease name
  · have course : borrowing.course name move = .returned name way := by
      simp only [course, deed, if_pos here]
    refine ⟨?_, ?_⟩
    · rw [dealings, here, returns_handBack holds, course]
      rfl
    · rw [course]
      intro other
      rw [content other, here]
      exact orderly.free_of_empty holds other
  · have course : borrowing.course name move = .held name := by
      simp only [course, deed, if_neg here]
    refine ⟨?_, ?_⟩
    · rw [course, dealings]
      exact returns_eq_nil fun _ _ isIn =>
        orderly.elsewhere holds here (borrowing.returned_mem_handBack isIn).2.1
    · rw [course, Fate.Holds, content, if_neg (Ne.symm here)]
      exact holds

theorem Orderly.follows_of_pass {source target : Bytes}
    (deed : move.deed = .pass source target) : Follows borrowing name id move := by
  have dealings : borrowing.dealings move =
      if source = target then [] else borrowing.displaced (.lease target) := by
    simp only [dealings, deed]
  have content := (borrowing.next_of_pass deed).2
  by_cases taken : source = name
  · have course : borrowing.course name move = .held target := by
      simp only [course, deed, if_pos taken]
    refine ⟨?_, ?_⟩
    · rw [dealings, course]
      split
      · rfl
      · rename_i differs
        exact orderly.returns_displaced holds (by simpa [← taken] using Ne.symm differs)
    · rw [course, Fate.Holds, content, if_pos rfl, taken]
      exact holds
  · have empty : borrowing.content (.lease source) ≠ some id :=
      orderly.elsewhere holds (by simpa using taken)
    by_cases displaces : target = name
    · have course : borrowing.course name move = .returned name .discarded := by
        simp only [course, deed, if_neg taken, if_pos displaces]
      refine ⟨?_, ?_⟩
      · rw [dealings, if_neg (displaces ▸ taken), displaced, displaces, returns_handBack holds,
          course]
        rfl
      · rw [course]
        intro other
        rw [content other]
        split
        · exact empty
        · rename_i differs
          split
          · simp
          · exact orderly.elsewhere holds (by rwa [← displaces])
    · have course : borrowing.course name move = .held name := by
        simp only [course, deed, if_neg taken, if_neg displaces]
      refine ⟨?_, ?_⟩
      · rw [dealings, course]
        split
        · rfl
        · exact orderly.returns_displaced holds (by simpa using displaces)
      · rw [course, Fate.Holds, content, if_neg (by simpa using Ne.symm displaces),
          if_neg (by simpa using Ne.symm taken)]
        exact holds

theorem Orderly.follows (move : Move) : Follows borrowing name id move := by
  cases deed : move.deed with
  | fill place => exact orderly.follows_of_fill holds deed
  | empty place way => exact orderly.follows_of_empty holds deed
  | pass source target => exact orderly.follows_of_pass holds deed
  | plant slot =>
      have course : borrowing.course name move = .held name := by simp only [course, deed]
      refine ⟨?_, ?_⟩
      · simp [dealings, course, deed, returns, Fate.returns]
      · rw [course, Fate.Holds, (borrowing.next_of_plant deed).2.2]
        exact holds
  | nothing =>
      have course : borrowing.course name move = .held name := by simp only [course, deed]
      refine ⟨?_, ?_⟩
      · simp [dealings, course, deed, returns, Fate.returns]
      · rw [course, Fate.Holds, (borrowing.next_of_nothing deed).2.2]
        exact holds

/-- A leased link comes back as its fate says, and not otherwise before it is lent again. -/
theorem Orderly.returns_log (moves : List Move) :
    returns id (borrowing.log moves) = (borrowing.fate name moves).returns := by
  induction moves generalizing borrowing name with
  | nil => rfl
  | cons move rest ih =>
      have follows := orderly.follows holds move
      have stays := follows.stays
      rw [log, returns_append (orderly.unasked holds move), follows.returned, fate]
      cases course : borrowing.course name move with
      | held holder =>
          rw [course] at stays
          exact ih (orderly.next move) stays
      | returned giver way =>
          -- From here on the link is at no place, so nobody can give it back before it is lent.
          rw [course] at stays
          have isThere := Nat.lt_of_lt_of_le (orderly.numbered _ id holds)
            (borrowing.length_le_next move)
          rw [returns_log_of_free stays isThere rest]
          rfl

theorem Orderly.holds_run {moves : List Move} {holder : Bytes}
    (held : borrowing.fate name moves = .held holder) :
    (borrowing.run moves).content (.lease holder) = some id := by
  induction moves generalizing borrowing name with
  | nil =>
      cases held
      exact holds
  | cons move rest ih =>
      have stays := (orderly.follows holds move).stays
      rw [fate] at held
      cases course : borrowing.course name move with
      | held next =>
          rw [course] at stays held
          exact ih (orderly.next move) stays held
      | returned giver way =>
          rw [course] at held
          cases held

end

def Move.Makes (name : Bytes) : Move → Prop
  | .lease other => other = name
  | .moveLease _ target => target = name
  | _ => False

section
variable {borrowing : Borrowing} {holder : Bytes} (spent : borrowing.content (.lease holder) = none)
include spent

/-- A lease that holds nothing comes to hold nothing. -/
theorem spent_next {move : Move} (kept : ¬ move.Makes holder) :
    (borrowing.next move).content (.lease holder) = none := by
  refine Option.eq_none_iff_forall_ne_some.mpr ?_
  intro id holds
  cases borrowing.came holds with
  | stayed holds => simp [spent] at holds
  | lent deed asked =>
      cases move <;> cases deed
      exact kept rfl
  | passed source target deed isTarget held =>
      cases isTarget
      cases move <;> cases deed
      exact kept rfl
  | planted slot isSlot isNew => cases isSlot

theorem returned_notMem_dealings (move : Move) (id : LinkId) (way : Return) :
    .returned (.lease holder) id way ∉ borrowing.dealings move := by
  intro isIn
  rw [(borrowing.of_returned isIn).1] at spent
  cases spent

/-- A lease that holds nothing gives nothing back, not even when another takes its name. -/
theorem returned_notMem_log {moves : List Move} (kept : ∀ move ∈ moves, ¬ move.Makes holder)
    (last : Move) (id : LinkId) (way : Return) :
    .returned (.lease holder) id way ∉ borrowing.log (moves ++ [last]) := by
  induction moves generalizing borrowing with
  | nil => simpa [log] using returned_notMem_dealings spent last id way
  | cons move rest ih =>
      obtain ⟨keeps, others⟩ := List.forall_mem_cons.mp kept
      rw [List.cons_append, log, List.mem_append, not_or]
      exact ⟨returned_notMem_dealings spent move id way, ih (spent_next spent keeps) others⟩

end

theorem lease_releaseLease (borrowing : Borrowing) (name : Bytes) :
    (borrowing.next (.releaseLease name)).lease name = ⟨none⟩ := by
  simp [next, step, Lease.release, Action.after, lease, lookup_file]

theorem lease_moveLease (borrowing : Borrowing) {source target : Bytes}
    (differs : target ≠ source) :
    (borrowing.next (.moveLease source target)).lease source = ⟨none⟩ ∧
      (borrowing.next (.moveLease source target)).lease target = borrowing.lease source := by
  simp [next, step, Lease.move, Action.after, fileLease, lease, lookup_file, differs.symm]

theorem orderly_start {address : Bytes} {capacity : UInt64} {dialer : Option Dialer} {pool : Pool}
    (created : Pool.create address capacity dialer = .ok pool) (board : Switchboard) :
    Orderly ⟨(pool, board), [], []⟩ := by
  obtain ⟨rfl, -⟩ := Pool.create_eq created
  have blank : ∀ place id, content ⟨(⟨address, capacity, [], 0, false⟩, board), [], []⟩ place ≠
      some id := by
    intro place id holds
    cases place <;> cases holds
  refine ⟨?_, ?_, List.nodup_nil, ?_, ?_⟩
  · intro place other id holds
    exact absurd holds (blank place id)
  · intro place id holds
    exact absurd holds (blank place id)
  · intro place id holds
    exact absurd holds (blank place id)
  · intro id isIdle
    cases isIdle

theorem content_of_leased {borrowing taken : Borrowing} {name : Bytes} {id : LinkId}
    (leased : step (.lease name) borrowing = .ok (.link id) taken) :
    taken = borrowing.next (.lease name) ∧ taken.content (.lease name) = some id := by
  have same : taken = borrowing.next (.lease name) := by rw [next, leased, Action.after]
  have asked := (borrowing.request_mem_dealings (.lease name) id).mpr (by rw [leased]; rfl)
  obtain ⟨desk, -, given, -⟩ := borrowing.acquire_of_request asked
  refine ⟨same, ?_⟩
  rw [same, (borrowing.next_of_lent rfl given).2, if_pos rfl]

/-- A leased link comes back to its pool once, and has done so when no lease is left: it is released
if `release` is called on the lease that holds it, however often it was handed on, and discarded
if that lease ends first. What comes back is idle or closed then, and a lease that was released or
that was handed on gives nothing back. -/
theorem leased_link_returned_once {address : Bytes} {capacity : UInt64} {dialer : Option Dialer}
    {pool : Pool} (created : Pool.create address capacity dialer = .ok pool) (board : Switchboard)
    (before after : List Move) {name : Bytes} {id : LinkId} {taken : Borrowing}
    (leased : step (.lease name) (run ⟨(pool, board), [], []⟩ before) = .ok (.link id) taken) :
    (∀ holder, taken.fate name after = .held holder →
      returns id (taken.log after) = [] ∧ ((taken.run after).lease holder).held = some id) ∧
    (∀ giver way, taken.fate name after = .returned giver way →
      returns id (taken.log after) = [(.lease giver, way)]) ∧
    ((taken.run after).leases = [] → ∃ giver way, taken.fate name after = .returned giver way) ∧
    (∀ borrowing move, Recorded borrowing move) ∧
    (∀ (borrowing : Borrowing) (holder : Bytes),
      (borrowing.next (.releaseLease holder)).lease holder = ⟨none⟩ ∧
      ∀ target ≠ holder,
        (borrowing.next (.moveLease holder target)).lease holder = ⟨none⟩ ∧
        (borrowing.next (.moveLease holder target)).lease target = borrowing.lease holder) ∧
    ∀ (borrowing : Borrowing) (holder : Bytes), borrowing.lease holder = ⟨none⟩ →
      ∀ moves last, (∀ move ∈ moves, ¬ move.Makes holder) →
        ∀ id way, .returned (.lease holder) id way ∉ borrowing.log (moves ++ [last]) := by
  obtain ⟨same, holds⟩ := content_of_leased leased
  have orderly : Orderly taken := by
    rw [same]
    exact ((orderly_start created board).run before).next (.lease name)
  have returned := orderly.returns_log holds after
  refine ⟨?_, ?_, ?_, recorded, ?_, ?_⟩
  · intro holder held
    rw [held] at returned
    exact ⟨returned, orderly.holds_run holds held⟩
  · intro giver way gone
    rw [gone] at returned
    exact returned
  · intro none
    cases fate : taken.fate name after with
    | held holder =>
        have still := orderly.holds_run holds fate
        simp [content, lease, none] at still
    | returned giver way => exact ⟨giver, way, rfl⟩
  · intro borrowing holder
    exact ⟨borrowing.lease_releaseLease holder, fun target differs =>
      borrowing.lease_moveLease differs⟩
  · intro borrowing holder empty moves last kept other way
    have spent : borrowing.content (.lease holder) = none := congrArg Lease.held empty
    exact returned_notMem_log spent kept last other way

theorem leased_link_returned_once_after_moves :
    let pool : Pool := ⟨Bytes.ofText "t:1", 2, [], 0, false⟩
    let dialer : Dialer := .script ⟨[], [.link [] none true]⟩
    let first := Bytes.ofText "a"
    let second := Bytes.ofText "b"
    let taken := next ⟨(pool, .ofDialer dialer), [], []⟩ (.lease first)
    let after := [.moveLease first second, .send second first, .finishLease first,
      .releaseLease second, .releaseLease second, .destroy, .finishLease second]
    Pool.create (Bytes.ofText "t:1") 2 (some dialer) = .ok pool ∧
      step (.lease first) (run ⟨(pool, .ofDialer dialer), [], []⟩ []) = .ok (.link 0) taken ∧
      (taken.run after).leases = [] ∧
      returns 0 (taken.log after) = [(.lease second, .released)] := by
  intro pool dialer first second taken after
  have created : Pool.create (Bytes.ofText "t:1") 2 (some dialer) = .ok pool := by decide
  have leased : step (.lease first) (run ⟨(pool, .ofDialer dialer), [], []⟩ []) =
      .ok (.link 0) taken := Action.eq_ok_of_result (by decide)
  obtain ⟨-, gone, -⟩ := leased_link_returned_once created (.ofDialer dialer) [] after leased
  exact ⟨created, leased, by decide, gone second .released (by decide)⟩

end Borrowing

end TrackedStorage
