import TrackedStorage.Pool

set_option autoImplicit false

namespace TrackedStorage

/-- A lease on a link, or one that has nothing to give back. -/
structure Lease where
  held : Option LinkId
  deriving DecidableEq

namespace Lease

def take : Action Desk Lease := fun desk =>
  match Pool.acquire desk with
  | .ok id desk => .ok ⟨some id⟩ desk
  | .error fault desk => .error fault desk

/-- Gives the link back for further use. Later ends of the lease do nothing. -/
def release (lease : Lease) (desk : Desk) : Lease × Desk := (⟨none⟩, Pool.release lease.held desk)

/-- Ends the lease. A link that was not released is discarded. -/
def finish (lease : Lease) (desk : Desk) : Desk := Pool.discard lease.held desk

/-- Hands the link over to a new lease. Gives the emptied lease and the new one. -/
def move (lease : Lease) : Lease × Lease := (⟨none⟩, lease)

end Lease

end TrackedStorage
