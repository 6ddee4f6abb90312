import TrackedStorage.Action

set_option autoImplicit false

namespace TrackedStorage

inductive Stall where
  | fails (reason : Bytes)
  /-- Nothing more happens until the deadline. -/
  | hangs
  deriving DecidableEq

inductive Deadline where
  | never
  | after (milliseconds : Nat)
  deriving DecidableEq

/-- A timeout of zero sets no deadline. -/
def Deadline.ofTimeout (milliseconds : Nat) : Deadline :=
  if milliseconds = 0 then never else after milliseconds

inductive Ending where
  | fails (reason : Bytes)
  | timesOut
  /-- Nothing happens, and no deadline ends that. -/
  | endless
  deriving DecidableEq

def Stall.within : Stall → Deadline → Ending
  | fails reason, _ => .fails reason
  | hangs, .after _ => .timesOut
  | hangs, .never => .endless

structure Wire where
  /-- The `host:port` that was looked up. -/
  endpoint : Bytes
  isConnected : Bool
  /-- The timeout of each transfer in milliseconds. -/
  timeout : Nat
  /-- How a read ends that wants more than there is. -/
  atEnd : Stall
  /-- How a write ends that the remote side has no room for. -/
  atLimit : Stall
  /-- The deadline of the attempt to connect, if there was one. -/
  connectDeadline : Option Deadline
  /-- The deadline of the last transfer, if there was one. -/
  transferDeadline : Option Deadline
  /-- Whether an attempt to connect or a transfer waits that no deadline ends. -/
  isStuck : Bool
  deriving DecidableEq

def Wire.stall (wire : Wire) : Direction → Stall
  | .write => wire.atLimit
  | .read => wire.atEnd

inductive Medium where
  | memory
  | socket (wire : Wire)
  deriving DecidableEq

/-- Notes the deadline of a transfer that begins. -/
def Medium.begin : Medium → Medium
  | memory => memory
  | socket wire => socket { wire with transferDeadline := some (.ofTimeout wire.timeout) }

/-- The timeout of a transfer over which the remote side falls silent, if it does that. -/
def Medium.silence? (way : Direction) : Medium → Option Nat
  | memory => none
  | socket wire => if wire.stall way = .hangs then some wire.timeout else none

@[simp] theorem Medium.silence?_begin (medium : Medium) (way : Direction) :
    medium.begin.silence? way = medium.silence? way := by
  cases medium <;> cases way <;> rfl

/-- One stream to a remote side, with everything that crossed it. -/
structure Link where
  address : Bytes
  isOpen : Bool
  /-- What the remote side has yet to be asked for. -/
  unread : Bytes
  /-- What was read, whether the read then succeeded or not. -/
  taken : Bytes
  /-- What the remote side accepted. -/
  written : Bytes
  /-- How many bytes the remote side still accepts, when that is limited. -/
  room : Option Nat
  medium : Medium
  deriving DecidableEq

namespace Link

/-- A link in memory on which nothing has happened yet. -/
def inMemory (address response : Bytes) (room : Option Nat) (isOpen : Bool) : Link :=
  ⟨address, isOpen, response, [], [], room, .memory⟩

def dead : Link := inMemory [] [] none false

/-- The name under which the remote side was found. -/
def endpoint (link : Link) : Bytes :=
  match link.medium with
  | .memory => link.address
  | .socket wire => wire.endpoint

/-- A closed link keeps what crossed it. -/
def close (link : Link) : Link := { link with isOpen := false }

def stick (link : Link) : Link :=
  { link with medium := match link.medium with
      | .memory => .memory
      | .socket wire => .socket { wire with isStuck := true } }

def isStuck (link : Link) : Bool :=
  match link.medium with
  | .memory => false
  | .socket wire => wire.isStuck

def closedFault (link : Link) (way : Direction) : Fault :=
  .transfer <| match link.medium with
    | .memory => .closedInMemory way
    | .socket _ => .closed way link.address

/-- The fault that an unfinished transfer ends in, and the link after it. Only a deadline closes
the link, and without one a transfer over which nothing happens has no end. -/
def fall (link : Link) (way : Direction) : TransferFault × Link :=
  match link.medium with
  | .memory => (.shortInMemory way, link)
  | .socket wire =>
      match (wire.stall way).within (.ofTimeout wire.timeout) with
      | .fails reason => (.short way link.address reason, link)
      | .timesOut => (.timedOut way link.address, link.close)
      | .endless => (.endless link.address, link.stick)

theorem silence?_stick (link : Link) (way : Direction) :
    link.stick.medium.silence? way = link.medium.silence? way := by
  unfold stick
  cases medium : link.medium <;> cases way <;> rfl

/-- A silence ends with its timeout, which closes the link. Without a timeout it never ends. -/
theorem fall_of_silence {link : Link} {way : Direction} {timeout : Nat}
    (silent : link.medium.silence? way = some timeout) :
    link.fall way = if timeout = 0 then (.endless link.address, link.stick)
      else (.timedOut way link.address, link.close) := by
  cases medium : link.medium with
  | memory =>
      rw [medium] at silent
      cases silent
  | socket wire =>
      rw [medium, Medium.silence?] at silent
      split at silent
      · rename_i hangs
        cases silent
        by_cases untimed : wire.timeout = 0
        · simp only [fall, medium, hangs, Deadline.ofTimeout, untimed, ↓reduceIte, Stall.within]
        · simp only [fall, medium, hangs, Deadline.ofTimeout, untimed, ↓reduceIte, Stall.within]
      · cases silent

theorem fall_of_answered {link : Link} {way : Direction}
    (answered : link.medium.silence? way = none) : (link.fall way).2 = link := by
  cases medium : link.medium with
  | memory => simp only [fall, medium]
  | socket wire =>
      rw [medium, Medium.silence?] at answered
      cases stall : wire.stall way with
      | fails reason => simp only [fall, medium, stall, Stall.within]
      | hangs =>
          rw [stall, if_pos rfl] at answered
          cases answered

/-- An unfinished transfer may close the link, or never end if there is no timeout. It does nothing
else to the link. -/
theorem fall_snd (link : Link) (way : Direction) :
    (link.fall way).2 = link ∨ (link.fall way).2 = link.close ∨
      (link.fall way).2 = link.stick ∧ link.medium.silence? way = some 0 := by
  cases silent : link.medium.silence? way with
  | none => exact .inl (fall_of_answered silent)
  | some timeout =>
      rw [fall_of_silence silent]
      by_cases untimed : timeout = 0
      · rw [if_pos untimed, untimed]
        exact .inr (.inr ⟨rfl, rfl⟩)
      · rw [if_neg untimed]
        exact .inr (.inl rfl)

/-- An unfinished transfer moves nothing more. -/
theorem crossed_fall (link : Link) (way : Direction) :
    (link.fall way).2.written = link.written ∧ (link.fall way).2.taken = link.taken ∧
      (link.fall way).2.unread = link.unread := by
  rcases link.fall_snd way with same | same | ⟨same, -⟩ <;> rw [same] <;> exact ⟨rfl, rfl, rfl⟩

/-- The part of `data` that the remote side has room for. -/
def accepted (link : Link) (data : Bytes) : Bytes :=
  match link.room with
  | none => data
  | some room => data.take room

def HasRoom (link : Link) (count : Nat) : Prop := ∀ room, link.room = some room → count ≤ room

/-- Sends as much of `data` as is accepted, and fails unless that is all. -/
def write (data : Bytes) : Action Link Unit := fun link =>
  if link.isOpen then
    let sent := link.accepted data
    let link := { link with
      written := link.written ++ sent
      room := link.room.map (· - data.length)
      medium := link.medium.begin }
    if sent.length = data.length then .ok () link
    else
      let (fault, link) := link.fall .write
      .error (.transfer fault) link
  else .error (link.closedFault .write) link

/-- Reads `count` bytes. When fewer are left it takes them all and fails. -/
def read (count : Nat) : Action Link Bytes := fun link =>
  if link.isOpen then
    let data := link.unread.take count
    let link := { link with
      taken := link.taken ++ data
      unread := link.unread.drop count
      medium := link.medium.begin }
    if data.length = count then .ok data link
    else
      let (fault, link) := link.fall .read
      .error (.transfer fault) link
  else .error (link.closedFault .read) link

/-- A read of no more than is left takes exactly that much. -/
theorem read_append {link : Link} {data rest : Bytes} (opened : link.isOpen = true)
    (left : link.unread = data ++ rest) :
    read data.length link =
      .ok data { link with
        taken := link.taken ++ data, unread := rest, medium := link.medium.begin } := by
  simp [read, opened, left]

/-- Without a limit a write is accepted whole. -/
theorem write_of_room_eq_none {link : Link} (opened : link.isOpen = true)
    (free : link.room = none) (data : Bytes) :
    write data link =
      .ok () { link with
        written := link.written ++ data, medium := link.medium.begin } := by
  simp [write, accepted, opened, free]

/-- A write is accepted if the remote side has room for it. -/
theorem write_of_hasRoom {link : Link} (opened : link.isOpen = true) {data : Bytes}
    (fits : link.HasRoom data.length) :
    write data link =
      .ok () { link with
        written := link.written ++ data
        room := link.room.map (· - data.length)
        medium := link.medium.begin } := by
  have whole : link.accepted data = data := by
    unfold accepted
    split
    · rfl
    · exact List.take_of_length_le (fits _ (by assumption))
  simp only [write, opened, whole, ↓reduceIte]

theorem write_eq_ok {data : Bytes} {link last : Link} (done : write data link = .ok () last) :
    link.isOpen = true ∧ link.HasRoom data.length ∧
      last = { link with
        written := link.written ++ data
        room := link.room.map (· - data.length)
        medium := link.medium.begin } := by
  have opened : link.isOpen = true := by
    by_cases isOpen : link.isOpen = true
    · exact isOpen
    · simp [write, isOpen] at done
  have fits : link.HasRoom data.length := by
    intro room limited
    by_cases short : room < data.length
    · have cut : min room data.length ≠ data.length := by omega
      simp [write, accepted, opened, limited, cut] at done
    · omega
  refine ⟨opened, fits, ?_⟩
  rw [write_of_hasRoom opened fits] at done
  exact (EStateM.Result.ok.inj done).2.symm

/-- There is room for two writes if there is room for the first, and for the second after it. -/
theorem hasRoom_add {link last : Link} {data : Bytes} (done : write data link = .ok () last)
    (more : Nat) : link.HasRoom (data.length + more) ↔ last.HasRoom more := by
  obtain ⟨-, fits, rfl⟩ := write_eq_ok done
  constructor
  · intro enough room left
    obtain ⟨before, limited, rfl⟩ := Option.map_eq_some_iff.mp left
    have both := enough before limited
    omega
  · intro enough room limited
    have first := fits room limited
    have second := enough (room - data.length) (by simp [limited])
    omega

/-- A read of more than is left fails. -/
theorem read_of_short {link : Link} (opened : link.isOpen = true) {count : Nat}
    (short : link.unread.length < count) :
    ∃ cause last, read count link = .error (.transfer cause) last := by
  have fewer : (link.unread.take count).length ≠ count := by
    rw [List.length_take]
    omega
  simp only [read, opened, ↓reduceIte, if_neg fewer]
  exact ⟨_, _, rfl⟩

theorem close_of_closed {link : Link} (closed : link.isOpen = false) : link.close = link := by
  rw [close, ← closed]

/-- No transfer gets through a closed link, nor does one change it. -/
theorem read_of_closed {link : Link} (closed : link.isOpen = false) (count : Nat) :
    read count link = .error (link.closedFault .read) link := by
  simp [read, closed]

theorem write_of_closed {link : Link} (closed : link.isOpen = false) (data : Bytes) :
    write data link = .error (link.closedFault .write) link := by
  simp [write, closed]

end Link

end TrackedStorage
