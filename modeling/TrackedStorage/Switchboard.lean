import TrackedStorage.Dialing

set_option autoImplicit false

namespace TrackedStorage

/-- Links are numbered from zero, in the order in which they are made. -/
abbrev LinkId := Nat

/-- All links, and what is left of the dialer. -/
structure Switchboard where
  links : List Link
  dialer : Dialer
  /-- The addresses for which the dialer was called, in order. -/
  dialed : List Bytes
  deriving DecidableEq

namespace Switchboard

def ofDialer (dialer : Dialer) : Switchboard := ⟨[], dialer, []⟩

/-- The link of a number. A number without a link stands for a closed one. -/
def link (board : Switchboard) (id : LinkId) : Link := board.links.getD id Link.dead

def isOpen (board : Switchboard) (id : LinkId) : Bool := (board.link id).isOpen

def setLink (board : Switchboard) (id : LinkId) (link : Link) : Switchboard :=
  { board with links := board.links.set id link }

def close (board : Switchboard) (id : LinkId) : Switchboard :=
  board.setLink id (board.link id).close

def add (board : Switchboard) (link : Link) : LinkId × Switchboard :=
  (board.links.length, { board with links := board.links ++ [link] })

def onLink {α : Type} (id : LinkId) (action : Action Link α) : Action Switchboard α :=
  Action.on (·.link id) (fun link board => board.setLink id link) action

def dialScript (board : Switchboard) (script : DialScript) (address : Bytes) :
    Except Fault (Option LinkId) × Switchboard :=
  let (outcome, script) := script.next? address
  let board := { board with dialer := .script script }
  match outcome with
  | some (.link response room isOpen) =>
      let (id, board) := board.add (.inMemory address response room isOpen)
      (.ok (some id), board)
  | some .nothing => (.ok none, board)
  | some (.refused other reason) => (.error (.dial (other.getD address) reason), board)
  | some (.raised fault) => (.error fault, board)
  | none => (.error (.dial address (Bytes.ofText "no scripted dial")), board)

/-- One call of a dialer that connects over a network. Every peer that is looked up takes a number,
also one that cannot be connected to. -/
def dialNetwork (board : Switchboard) (timeouts : Timeouts) (network : Network) (address : Bytes) :
    Except Fault (Option LinkId) × Switchboard :=
  match Endpoint.ofAddress address with
  | .error fault => (.error fault, board)
  | .ok endpoint =>
      let (peer, network) := network.lookUp endpoint
      let (connection, link) := peer.connect address endpoint.address timeouts
      let (id, board) := { board with dialer := .network timeouts network }.add link
      match connection with
      | .made => (.ok (some id), board)
      | .failed reason => (.error (.dial address reason), board)
      | .endless => (.error (.transfer (.endless address)), board)

def dial (board : Switchboard) (address : Bytes) : Except Fault (Option LinkId) × Switchboard :=
  let board := { board with dialed := board.dialed ++ [address] }
  match board.dialer with
  | .script script => board.dialScript script address
  | .network timeouts network => board.dialNetwork timeouts network address

/-- A link that is added changes none that is there. -/
theorem link_add_of_lt {board : Switchboard} {id : LinkId} (isThere : id < board.links.length)
    (link : Link) : (board.add link).2.link id = board.link id := by
  simp [Switchboard.link, add, List.getElem?_append_left isThere]

theorem link_add_self (board : Switchboard) (link : Link) :
    (board.add link).2.link (board.add link).1 = link := by
  simp [Switchboard.link, add]

theorem link_setLink_self {board : Switchboard} {id : LinkId} (isThere : id < board.links.length)
    (link : Link) : (board.setLink id link).link id = link := by
  simp [Switchboard.link, setLink, isThere]

theorem link_setLink_of_ne (board : Switchboard) {id other : LinkId} (differs : other ≠ id)
    (link : Link) : (board.setLink id link).link other = board.link other := by
  simp [Switchboard.link, setLink, List.getElem?_set_ne differs.symm]

theorem link_setLink (board : Switchboard) (id other : LinkId) (link : Link) :
    (board.setLink id link).link other =
      if other = id ∧ id < board.links.length then link else board.link other := by
  by_cases isThere : id < board.links.length
  · by_cases same : other = id
    · rw [if_pos ⟨same, isThere⟩, same, link_setLink_self isThere]
    · rw [if_neg fun both => same both.1, link_setLink_of_ne board same]
  · have unset : board.setLink id link = board := by
      rw [setLink, List.set_eq_of_length_le (Nat.le_of_not_lt isThere)]
    rw [if_neg fun both => isThere both.2, unset]

@[simp] theorem length_setLink (board : Switchboard) (id : LinkId) (link : Link) :
    (board.setLink id link).links.length = board.links.length := by
  simp [setLink]

@[simp] theorem setLink_setLink (board : Switchboard) (id : LinkId) (first second : Link) :
    (board.setLink id first).setLink id second = board.setLink id second := by
  simp [setLink]

theorem close_setLink {board : Switchboard} {id : LinkId} (isThere : id < board.links.length)
    (link : Link) : (board.setLink id link).close id = board.setLink id link.close := by
  rw [close, link_setLink_self isThere, setLink_setLink]

@[simp] theorem length_close (board : Switchboard) (id : LinkId) :
    (board.close id).links.length = board.links.length :=
  length_setLink board id _

theorem link_close_of_ne (board : Switchboard) {id other : LinkId} (differs : other ≠ id) :
    (board.close id).link other = board.link other :=
  link_setLink_of_ne board differs _

theorem link_of_length_le {board : Switchboard} {id : LinkId} (absent : board.links.length ≤ id) :
    board.link id = Link.dead := by
  simp [link, absent]

/-- Only a link that there is can be open. -/
theorem lt_length_of_isOpen {board : Switchboard} {id : LinkId} (opened : board.isOpen id = true) :
    id < board.links.length := by
  refine Nat.lt_of_not_le fun absent => ?_
  rw [isOpen, link_of_length_le absent] at opened
  cases opened

@[simp] theorem link_close_self (board : Switchboard) (id : LinkId) :
    (board.close id).link id = (board.link id).close := by
  by_cases isThere : id < board.links.length
  · rw [close, link_setLink_self isThere]
  · have absent : board.links.length ≤ id := Nat.not_lt.mp isThere
    rw [link_of_length_le absent, link_of_length_le (by rwa [length_close])]
    rfl

theorem written_close (board : Switchboard) (id other : LinkId) :
    ((board.close id).link other).written = (board.link other).written := by
  by_cases same : other = id
  · rw [same, link_close_self]
    rfl
  · rw [link_close_of_ne board same]

/-- Closing changes nothing for a closed link. -/
theorem link_close_of_closed {board : Switchboard} {id : LinkId}
    (closed : board.isOpen id = false) (other : LinkId) :
    (board.close other).link id = board.link id := by
  by_cases same : id = other
  · rw [← same, link_close_self, Link.close_of_closed closed]
  · exact link_close_of_ne board same

theorem link_foldl_close_of_closed {board : Switchboard} {id : LinkId}
    (closed : board.isOpen id = false) (ids : List LinkId) :
    (ids.foldl close board).link id = board.link id := by
  induction ids generalizing board with
  | nil => rfl
  | cons other rest ih =>
      have same := link_close_of_closed closed other
      have still : (board.close other).isOpen id = false := by rw [isOpen, same, ← isOpen, closed]
      rw [List.foldl_cons, ih still, same]

/-- No number is open once it was closed, not even one without a link. -/
theorem isOpen_close (board : Switchboard) (id other : LinkId) :
    (board.close id).isOpen other = if other = id then false else board.isOpen other := by
  by_cases same : other = id
  · subst same
    rw [if_pos rfl, isOpen]
    by_cases isThere : other < board.links.length
    · rw [close, link_setLink_self isThere]
      rfl
    · rw [link_of_length_le (by simpa using isThere)]
      rfl
  · rw [if_neg same, isOpen, link_close_of_ne board same, isOpen]

theorem isOpen_foldl_close (ids : List LinkId) (board : Switchboard) (other : LinkId) :
    (ids.foldl close board).isOpen other = if other ∈ ids then false else board.isOpen other := by
  induction ids generalizing board with
  | nil => simp
  | cons id rest ih =>
      rw [List.foldl_cons, ih, isOpen_close]
      by_cases same : other = id <;> simp [same]

@[simp] theorem length_foldl_close (ids : List LinkId) (board : Switchboard) :
    (ids.foldl close board).links.length = board.links.length := by
  induction ids generalizing board with
  | nil => rfl
  | cons id rest ih => rw [List.foldl_cons, ih, length_close]

end Switchboard

end TrackedStorage
