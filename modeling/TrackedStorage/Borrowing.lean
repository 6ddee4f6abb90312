import TrackedStorage.Lease

set_option autoImplicit false

namespace TrackedStorage

/-- A pool, and what its borrowers hold by name: bare links in slots, and leases. -/
structure Borrowing where
  desk : Desk
  slots : List (Bytes × LinkId)
  leases : List (Bytes × Lease)
  deriving DecidableEq

namespace Borrowing

/-- One step of a borrower, of a link or of the pool. -/
inductive Move where
  /-- Borrows a link and puts it into a slot. -/
  | acquire (slot : Bytes)
  /-- Gives the link in a slot back; an empty slot gives back nothing. -/
  | release (slot : Bytes)
  | discard (slot : Bytes)
  /-- Puts an open link into a slot that the pool never lent. -/
  | foreign (slot : Bytes)
  /-- A link turns closed by itself. -/
  | drop (id : LinkId)
  | destroy
  | lease (name : Bytes)
  /-- Writes to a leased link. -/
  | send (name data : Bytes)
  | releaseLease (name : Bytes)
  | finishLease (name : Bytes)
  /-- Hands a leased link over to another lease. -/
  | moveLease (source target : Bytes)
  deriving DecidableEq

inductive Reply where
  | done
  | link (id : LinkId)
  | address (address : Bytes)
  /-- There is nothing for the step to act on. -/
  | nothing
  deriving DecidableEq

def foreignAddress : Bytes := Bytes.ofText "foreign:1"

/-- Files a value under a name, in place of any other. -/
def file {α : Type} (entries : List (Bytes × α)) (name : Bytes) (value : α) : List (Bytes × α) :=
  (name, value) :: entries.filter (·.1 != name)

def unfile {α : Type} (entries : List (Bytes × α)) (name : Bytes) : List (Bytes × α) :=
  entries.filter (·.1 != name)

/-- The lease of a name; a name without a lease has nothing to give back. -/
def lease (borrowing : Borrowing) (name : Bytes) : Lease :=
  (borrowing.leases.lookup name).getD ⟨none⟩

/-- Files a lease under a name. A lease that was there ends. -/
def fileLease (borrowing : Borrowing) (name : Bytes) (lease : Lease) : Borrowing :=
  { borrowing with
    desk := (borrowing.lease name).finish borrowing.desk
    leases := file borrowing.leases name lease }

/-- What a step answers, and what it leaves behind whether it succeeds or not. -/
def step (move : Move) : Action Borrowing Reply := fun borrowing =>
  let (pool, board) := borrowing.desk
  match move with
  | .acquire slot =>
      match Pool.acquire borrowing.desk with
      | .ok id desk =>
          .ok (.link id) { borrowing with desk := desk, slots := file borrowing.slots slot id }
      | .error fault desk => .error fault { borrowing with desk := desk }
  | .release slot =>
      .ok .done { borrowing with
        desk := Pool.release (borrowing.slots.lookup slot) borrowing.desk
        slots := unfile borrowing.slots slot }
  | .discard slot =>
      .ok .done { borrowing with
        desk := Pool.discard (borrowing.slots.lookup slot) borrowing.desk
        slots := unfile borrowing.slots slot }
  | .foreign slot =>
      let (id, board) := board.add (.inMemory foreignAddress [] none true)
      .ok .done { borrowing with desk := (pool, board), slots := file borrowing.slots slot id }
  | .drop id =>
      if id < board.links.length then .ok .done { borrowing with desk := (pool, board.close id) }
      else .ok .nothing borrowing
  | .destroy => .ok .done { borrowing with desk := Pool.destroy borrowing.desk }
  | .lease name =>
      match Lease.take borrowing.desk with
      | .ok lease desk =>
          .ok (match lease.held with | some id => .link id | none => .nothing)
            ({ borrowing with desk := desk }.fileLease name lease)
      | .error fault desk => .error fault { borrowing with desk := desk }
  | .send name data =>
      match (borrowing.lease name).held with
      | none => .ok .nothing borrowing
      | some id =>
          match board.onLink id (Link.write data) with
          | .ok () board =>
              .ok (.address (board.link id).address) { borrowing with desk := (pool, board) }
          | .error fault board => .error fault { borrowing with desk := (pool, board) }
  | .releaseLease name =>
      let (lease, desk) := (borrowing.lease name).release borrowing.desk
      .ok .done { borrowing with desk := desk, leases := file borrowing.leases name lease }
  | .finishLease name =>
      .ok .done { borrowing with
        desk := (borrowing.lease name).finish borrowing.desk
        leases := unfile borrowing.leases name }
  | .moveLease source target =>
      let (emptied, moved) := (borrowing.lease source).move
      .ok .done ({ borrowing with
        leases := file borrowing.leases source emptied }.fileLease target moved)

def finish (borrowing : Borrowing) : Borrowing :=
  { borrowing with
    desk := borrowing.leases.foldl (fun desk (_, lease) => lease.finish desk) borrowing.desk
    leases := [] }

end Borrowing

end TrackedStorage
