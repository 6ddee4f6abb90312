import Mathlib.Data.List.Induction
import TrackedStorage.Proofs.Deeds
import TrackedStorage.Proofs.StoragePools
import TrackedStorage.Proofs.Teardown

set_option autoImplicit false

namespace TrackedStorage

theorem Switchboard.dialed_foldl_close (ids : List LinkId) (board : Switchboard) :
    (ids.foldl close board).dialed = board.dialed := by
  induction ids generalizing board with
  | nil => rfl
  | cons id rest ih => rw [List.foldl_cons, ih, close, setLink]

namespace World

/-- The link that still serves a pool after a deed, given the one before it. A link goes out of use
when an exchange over it fails, or when it turns closed. -/
def Deed.stand (ref : Client.PoolRef) (before : Option LinkId) : Deed → Option LinkId
  | .dialed other _ made => if other = ref then made else before
  | .used trial => before.filter fun id => trial ≠ ⟨ref, id, false⟩
  | .dropped other => before.filter fun id => other ≠ id

/-- The link that still serves a pool: the last one that was made for it, unless it went out of
use. -/
def standing (ref : Client.PoolRef) (deeds : List Deed) : Option LinkId :=
  deeds.foldl (Deed.stand ref) none

section
variable {past : List Deed} {ref : Client.PoolRef} {id : LinkId}

@[simp] theorem standing_concat (ref : Client.PoolRef) (past : List Deed) (deed : Deed) :
    standing ref (past ++ [deed]) = deed.stand ref (standing ref past) := by
  rw [standing, List.foldl_append, List.foldl_cons, List.foldl_nil, standing]

/-- A link stands after a use or a drop only if it did before, and was not put out of use. -/
theorem standing_used {trial : Trial}
    (stands : standing ref (past ++ [.used trial]) = some id) :
    standing ref past = some id ∧ trial ≠ ⟨ref, id, false⟩ := by
  rw [standing_concat, Deed.stand, Option.filter_eq_some_iff] at stands
  simpa using stands

theorem standing_dropped {other : LinkId}
    (stands : standing ref (past ++ [.dropped other]) = some id) :
    standing ref past = some id ∧ other ≠ id := by
  rw [standing_concat, Deed.stand, Option.filter_eq_some_iff] at stands
  simpa using stands

/-- A pool calls the dialer only if no link serves it. -/
def Sparing (past : List Deed) : Prop :=
  ∀ front ref address made back, past = front ++ .dialed ref address made :: back →
    standing ref front = none

theorem Sparing.concat (sparing : Sparing past) {deed : Deed}
    (last : ∀ ref address made, deed = .dialed ref address made → standing ref past = none) :
    Sparing (past ++ [deed]) := by
  intro front ref address made back split
  rcases List.eq_nil_or_concat back with rfl | ⟨rest, final, rfl⟩
  · obtain ⟨rfl, same⟩ := List.append_inj' split rfl
    exact last ref address made (List.singleton_inj.mp same)
  · rw [List.concat_eq_append, ← List.cons_append, ← List.append_assoc] at split
    obtain ⟨rfl, -⟩ := List.append_inj' split rfl
    exact sparing front ref address made rest rfl

end

/-- A pool has a link that it can lend, unless it was destroyed. -/
structure Retains (world : World) (ref : Client.PoolRef) (id : LinkId) : Prop where
  has : world.client.Has ref
  ready : (world.client.pool ref).isDestroyed = false →
    id ∈ (world.client.pool ref).idle ∧ world.board.isOpen id = true

/-- What the deeds of a client have come to: a link that serves a pool waits in it, and no pool
called the dialer while one did. -/
structure Thrifty (past : List Deed) (world : World) : Prop where
  tidy : Tidy world
  retains : ∀ ref id, standing ref past = some id → Retains world ref id
  sparing : Sparing past
  dialed : world.board.dialed = past.filterMap Deed.address?

section
variable {past : List Deed} {world after lent : World} {ref : Client.PoolRef} {id : LinkId}

theorem thrifty_create {settings : Settings} {dialer : Dialer} {accessor : Option Accessor}
    {files : FileTree} (created : create settings dialer accessor files = .ok world) :
    Thrifty [] world := by
  refine ⟨tidy_create created, ?_, ?_, ?_⟩
  · intro ref id stands
    cases stands
  · intro front ref address made back split
    simp at split
  · rw [(client_of_create created).2]
    rfl

/-- What does not touch the links that pools can lend, and calls no dialer, needs no deed. -/
theorem Thrifty.quiet (thrifty : Thrifty past world) (tidy : Tidy after)
    (retains : ∀ ref id, Retains world ref id → Retains after ref id)
    (dialed : after.board.dialed = world.board.dialed) : Thrifty past after :=
  ⟨tidy, fun ref id stands => retains ref id (thrifty.retains ref id stands), thrifty.sparing,
    dialed.trans thrifty.dialed⟩

/-- A pool whose idle links are all closed has none that serves it. -/
theorem Thrifty.standing_eq_none (thrifty : Thrifty past world)
    (running : (world.client.pool ref).isDestroyed = false)
    (shut : ∀ id ∈ (world.client.pool ref).idle, world.board.isOpen id = false) :
    standing ref past = none := by
  cases stands : standing ref past with
  | none => rfl
  | some id =>
      obtain ⟨isIdle, isOpen⟩ := (thrifty.retains ref id stands).ready running
      cases (shut id isIdle).symm.trans isOpen

/-- What is done to another pool leaves a pool its link. -/
theorem retains_setDesk_of_ne {other : Client.PoolRef} (retains : Retains world other id)
    (differs : other ≠ ref) {desk : Desk}
    (kept : id ∈ (world.client.pool other).idle → desk.2.link id = world.board.link id) :
    Retains (world.setDesk ref desk) other id := by
  have same : (world.setDesk ref desk).client.pool other = world.client.pool other :=
    pool_setDesk_of_ne differs desk.1 desk.2
  refine ⟨(Client.has_setPool _ _ _ _).mpr retains.has, ?_⟩
  intro running
  rw [same] at running ⊢
  obtain ⟨isIdle, isOpen⟩ := retains.ready running
  refine ⟨isIdle, ?_⟩
  rw [Switchboard.isOpen, setDesk, kept isIdle]
  exact isOpen

/-- A pool that lends nothing has no link that serves it, or is destroyed. -/
theorem Thrifty.refused (thrifty : Thrifty past world) {fault : Fault}
    (taken : onDesk ref Lease.take world = .error fault after) :
    Thrifty (past ++ dialDeeds ref world) after := by
  have refusal := thrifty.tidy.refusal taken
  have tidy := refusal.tidy thrifty.tidy
  cases refusal with
  | destroyed gone =>
      rw [dialDeeds_of_silent taken rfl, List.append_nil]
      exact thrifty
  | failed outcome address reason board running shut dialed unmade =>
      have dial := Switchboard.Dialed.of_dial dialed
      rw [dialDeeds_of_loud taken dial.dialed_eq, Switchboard.made?_eq_none dialed unmade]
      refine ⟨tidy, ?_, ?_, ?_⟩
      · intro other id stands
        rw [standing_concat, Deed.stand] at stands
        split at stands
        · cases stands
        · rename_i differs
          refine retains_setDesk_of_ne (thrifty.retains other id stands) (Ne.symm differs)
            fun isIdle => ?_
          exact dial.link_of_lt (thrifty.tidy.numbered other id isIdle)
      · refine thrifty.sparing.concat fun other address made same => ?_
        cases same
        exact thrifty.standing_eq_none running shut
      · rw [List.filterMap_append, ← thrifty.dialed]
        exact dial.dialed_eq

/-- A lent link is open at the end of its loan just if the exchange over it succeeded. -/
theorem Loan.exists_settle {α : Type} (loan : Loan ref id world lent)
    {exchange : Action (Link × FileTree) α} (lively : StaysOpen exchange) :
    ∃ link files, leaseTrials ref ⟨some id⟩ exchange lent = [⟨ref, id, link.isOpen⟩] ∧
      Action.after (onLease ref ⟨some id⟩ exchange lent) = settle ref id link files lent := by
  cases ran : exchange (lent.board.link id, lent.files) with
  | ok value last =>
      have opened : last.1.isOpen = true := lively _ _ _ _ _ ran
      refine ⟨last.1, last.2, ?_, by rw [loan.onLease_of_ok ran, Action.after]⟩
      simp only [leaseTrials, onLink, Action.on, ran, opened]
      rfl
  | error fault last =>
      refine ⟨last.1.close, last.2, ?_, by rw [loan.onLease_of_error ran, Action.after]⟩
      simp only [leaseTrials, onLink, Action.on, ran]
      rfl

/-- The end of a loan leaves the lent link to its pool if it is open, and every other link where it
was. -/
theorem Loan.retains_settle (loan : Loan ref id world lent) (tidy : Tidy world) (link : Link)
    (files : FileTree) :
    (link.isOpen = true → Retains (settle ref id link files lent) ref id) ∧
      ∀ other, other ≠ ref → ∀ one, Retains world other one →
        Retains (settle ref id link files lent) other one := by
  have has : ({ world with files := files } : World).client.Has ref :=
    Client.has_of_running loan.running
  rw [loan.settle_eq]
  refine ⟨?_, ?_⟩
  · intro opened
    refine ⟨(Client.has_setPool _ _ _ _).mpr has, fun _ => ?_⟩
    rw [pool_setDesk_self has, opened]
    refine ⟨List.mem_singleton_self id, ?_⟩
    exact (congrArg Link.isOpen (Switchboard.link_setLink_self loan.isThere link)).trans opened
  · intro other differs one retains
    have elsewhere : Retains { world with files := files } other one :=
      ⟨retains.has, retains.ready⟩
    refine retains_setDesk_of_ne elsewhere differs fun isIdle => ?_
    have isOther : one ≠ id := by
      rintro rfl
      exact differs (loan.mine other isIdle)
    exact (Switchboard.link_setLink_of_ne _ isOther link).trans
      (loan.kept one (tidy.numbered other one isIdle))

/-- The end of a loan of the link that serves its pool. -/
theorem Loan.thrifty_settle (loan : Loan ref id world lent) (tidy : Tidy world)
    (mine : ∀ one, standing ref past = some one → one = id)
    (others : ∀ other, other ≠ ref → ∀ one, standing other past = some one →
      Retains world other one)
    (sparing : Sparing past) (dialed : lent.board.dialed = past.filterMap Deed.address?)
    (link : Link) (files : FileTree) :
    Thrifty (past ++ [.used ⟨ref, id, link.isOpen⟩]) (settle ref id link files lent) := by
  obtain ⟨back, rest⟩ := loan.retains_settle tidy link files
  refine ⟨loan.tidy_settle tidy link files, ?_, ?_, ?_⟩
  · intro other one stands
    obtain ⟨before, good⟩ := standing_used stands
    by_cases same : other = ref
    · subst same
      obtain rfl := mine one before
      refine back ?_
      cases opened : link.isOpen with
      | true => rfl
      | false =>
          rw [opened] at good
          exact absurd rfl good
    · exact rest other same one (others other same one before)
  · refine sparing.concat fun other address made same => ?_
    cases same
  · rw [List.filterMap_append, ← dialed]
    exact (List.append_nil _).symm

/-- A pool that lends a link lends the one that serves it, or has none and calls the dialer. -/
theorem Thrifty.loan {α : Type} (thrifty : Thrifty past world) {lease : Lease}
    (taken : onDesk ref Lease.take world = .ok lease lent)
    {exchange : Action (Link × FileTree) α} (lively : StaysOpen exchange) :
    Thrifty (past ++ (dialDeeds ref world ++ (leaseTrials ref lease exchange lent).map .used))
      (Action.after (onLease ref lease exchange lent)) := by
  obtain ⟨id, rfl⟩ := held_of_take taken
  have loan := thrifty.tidy.loan taken
  obtain ⟨link, files, trials, ended⟩ := loan.exists_settle lively
  rw [ended, trials, List.map_singleton, ← List.append_assoc]
  cases lends_of_take taken with
  | waited isIdle isOpen same =>
      have silent : dialDeeds ref world = [] :=
        dialDeeds_of_silent taken (congrArg Switchboard.dialed same)
      rw [silent, List.append_nil]
      refine loan.thrifty_settle thrifty.tidy ?_ ?_ thrifty.sparing ?_ link files
      · intro one stands
        have waits := ((thrifty.retains ref one stands).ready loan.running).1
        obtain ⟨only, alone⟩ := List.length_eq_one_iff.mp
          (Nat.le_antisymm (thrifty.tidy.settled ref).2 (List.length_pos_of_mem isIdle))
        rw [alone, List.mem_singleton] at waits isIdle
        rw [waits, isIdle]
      · intro other _ one stands
        exact thrifty.retains other one stands
      · rw [same]
        exact thrifty.dialed
  | dialed fresh shut called leads unwritten untaken made =>
      rw [dialDeeds_of_loud taken called, made]
      refine loan.thrifty_settle thrifty.tidy ?_ ?_ ?_ ?_ link files
      · intro one stands
        rw [standing_concat, Deed.stand, if_pos rfl] at stands
        exact (Option.some.inj stands).symm
      · intro other differs one stands
        rw [standing_concat, Deed.stand, if_neg (Ne.symm differs)] at stands
        exact thrifty.retains other one stands
      · refine thrifty.sparing.concat fun other address made same => ?_
        cases same
        exact thrifty.standing_eq_none loan.running shut
      · rw [List.filterMap_append, ← thrifty.dialed]
        exact called

/-- The trackers in front of the one that lends a link call the dialer for themselves. -/
theorem Thrifty.leaseTracker_ok (thrifty : Thrifty past world) {reason : Bytes}
    {indices : List Nat} {lease : Lease}
    (leased : leaseTracker reason indices world = .ok (ref, lease) lent) :
    ∃ passed middle, Thrifty (past ++ passed) middle ∧
      onDesk ref Lease.take middle = .ok lease lent ∧
      trackerDeeds indices world = passed ++ dialDeeds ref middle := by
  induction indices generalizing past reason world with
  | nil => cases leased
  | cons index rest ih =>
      cases taken : onDesk (.tracker index) Lease.take world with
      | ok first after =>
          rw [leaseTracker_cons_of_ok taken] at leased
          cases leased
          refine ⟨[], world, ?_, taken, trackerDeeds_cons_of_ok taken rest⟩
          rwa [List.append_nil]
      | error fault after =>
          rw [leaseTracker_cons_of_error taken] at leased
          rw [trackerDeeds_cons_of_error taken]
          split at leased
          · rename_i unavailable
            obtain ⟨passed, middle, still, took, deeds⟩ := ih (thrifty.refused taken) leased
            rw [List.append_assoc] at still
            refine ⟨_, middle, still, took, ?_⟩
            rw [if_pos unavailable, deeds, List.append_assoc]
          · cases leased

theorem Thrifty.leaseTracker_error (thrifty : Thrifty past world) {reason : Bytes}
    {indices : List Nat} {fault : Fault}
    (failed : leaseTracker reason indices world = .error fault after) :
    Thrifty (past ++ trackerDeeds indices world) after := by
  induction indices generalizing past reason world with
  | nil =>
      cases failed
      rwa [trackerDeeds, List.append_nil]
  | cons index rest ih =>
      cases taken : onDesk (.tracker index) Lease.take world with
      | ok first lent =>
          rw [leaseTracker_cons_of_ok taken] at failed
          cases failed
      | error cause middle =>
          have first := thrifty.refused taken
          rw [leaseTracker_cons_of_error taken] at failed
          rw [trackerDeeds_cons_of_error taken, ← List.append_assoc]
          split at failed
          · rename_i unavailable
            rw [if_pos unavailable]
            exact ih first failed
          · rename_i other
            cases failed
            rwa [if_neg other, List.append_nil]

theorem Thrifty.query (thrifty : Thrifty past world) (query : Query) :
    Thrifty (past ++ queryDeeds query world) (Action.after (World.query query world)) := by
  rw [World.query, Action.after_bind, queryDeeds, queryTrials]
  cases leased : leaseAnyTracker world with
  | error fault after =>
      rw [List.map_nil, List.append_nil]
      exact thrifty.leaseTracker_error leased
  | ok value lent =>
      obtain ⟨ref, lease⟩ := value
      obtain ⟨passed, middle, still, taken, deeds⟩ := thrifty.leaseTracker_ok leased
      have done := still.loan taken (staysOpen_ask query)
      rw [List.append_assoc, ← List.append_assoc passed] at done
      rw [deeds]
      exact done

theorem Thrifty.pooled (thrifty : Thrifty past world) {address : Bytes}
    (pooled : storagePool address world = .ok ref after) : Thrifty past after := by
  rcases storagePool_eq_ok pooled with ⟨index, -, -, rfl⟩ | ⟨pool, absent, created, -, rfl⟩
  · exact thrifty
  · refine thrifty.quiet (tidy_opened thrifty.tidy created) ?_ rfl
    intro other id retains
    have old : other ≠ .storage world.client.storages.length := by
      rintro rfl
      exact Nat.lt_irrefl _ retains.has
    have same : (world.client.addStorage pool).pool other = world.client.pool other :=
      (Client.pool_addStorage _ pool other).trans (if_neg old)
    refine ⟨(keepsPools_addStorage world pool).has retains.has, ?_⟩
    rw [same]
    exact retains.ready

theorem Thrifty.onStorage {α : Type} (thrifty : Thrifty past world) (node : StorageNode)
    {exchange : Action (Link × FileTree) α} (lively : StaysOpen exchange) :
    Thrifty (past ++ storageDeeds node exchange world)
      (Action.after (World.onStorage node exchange world)) := by
  rw [World.onStorage, Action.after_bind, storageDeeds, storageTrials]
  cases pooled : storagePool node.address world with
  | error fault after =>
      obtain ⟨rfl, -⟩ := storagePool_eq_error pooled
      rwa [List.append_nil]
  | ok ref found =>
      have still := thrifty.pooled pooled
      dsimp only
      rw [Action.after_bind]
      cases taken : onDesk ref Lease.take found with
      | error fault after =>
          rw [List.map_nil, List.append_nil]
          exact still.refused taken
      | ok lease lent => exact still.loan taken lively

theorem Thrifty.operation {α : Type} (thrifty : Thrifty past world) (query : Query)
    {exchange : StorageNode → Action (Link × FileTree) α}
    (lively : ∀ node, StaysOpen (exchange node)) :
    Thrifty (past ++ operationDeeds query exchange world)
      (Action.after (World.operation query exchange world)) := by
  have asked := thrifty.query query
  rw [World.operation, Action.after_bind, operationDeeds, ← List.append_assoc]
  cases ran : World.query query world with
  | error fault after =>
      rw [ran] at asked
      rwa [List.append_nil]
  | ok node after =>
      rw [ran] at asked
      exact asked.onStorage node (lively node)

end

section
variable {past : List Deed} {world after : World}

theorem Thrifty.of_same (thrifty : Thrifty past world) (client : after.client = world.client)
    (board : after.board = world.board) : Thrifty past after := by
  cases world
  cases after
  cases client
  cases board
  obtain ⟨tidy, retains, sparing, dialed⟩ := thrifty
  exact ⟨⟨tidy.settled, tidy.numbered, tidy.apart, tidy.shut, tidy.capable, tidy.emptied⟩,
    fun ref id stands => ⟨(retains ref id stands).has, (retains ref id stands).ready⟩, sparing,
    dialed⟩

theorem Thrifty.destroyed (thrifty : Thrifty past world) : Thrifty past world.destroy := by
  refine thrifty.quiet (tidy_destroy thrifty.tidy) ?_ ?_
  · intro ref id retains
    refine ⟨(keepsPools_destroy world).has retains.has, ?_⟩
    intro running
    rw [pool_destroy, Pool.isDestroyed_destroyed] at running
    cases running
  · rw [destroy_eq, Switchboard.dialed_foldl_close]

theorem Thrifty.dropped (thrifty : Thrifty past world) (id : LinkId) :
    Thrifty (past ++ deeds (.drop id) world) (world.happen (.call (.drop id))) := by
  cases opened : world.board.isOpen id with
  | false =>
      rw [deeds, opened, if_neg Bool.false_ne_true, List.append_nil]
      simp only [happen, World.call, World.drop]
      split
      · exact thrifty.of_same rfl (Switchboard.close_of_closed opened)
      · exact thrifty
  | true =>
      have isThere : id < world.board.links.length := Switchboard.lt_length_of_isOpen opened
      have left : world.happen (.call (.drop id)) =
          { world with board := world.board.close id } := by
        simp only [happen, World.call, World.drop, isThere, ↓reduceIte]
        rfl
      have step : Step (anyExchange True) [] world
          { world with board := world.board.close id } := .dropped world id
      rw [deeds, if_pos opened, left]
      refine ⟨tidy_step step thrifty.tidy, ?_, ?_, ?_⟩
      · intro ref other stands
        obtain ⟨before, differs⟩ := standing_dropped stands
        have retains := thrifty.retains ref other before
        refine ⟨retains.has, fun running => ?_⟩
        obtain ⟨isIdle, isOpen⟩ := retains.ready running
        refine ⟨isIdle, ?_⟩
        rw [Switchboard.isOpen_close, if_neg (Ne.symm differs)]
        exact isOpen
      · refine thrifty.sparing.concat fun ref address made same => ?_
        cases same
      · rw [List.filterMap_append, ← thrifty.dialed]
        exact (List.append_nil _).symm

theorem Thrifty.call (thrifty : Thrifty past world) (call : Call) :
    Thrifty (past ++ deeds call world) (world.happen (.call call)) := by
  cases asking : asks call world with
  | some asked =>
      obtain ⟨query, begun⟩ := asked
      obtain ⟨client, board, -⟩ := exists_operation asking
      obtain ⟨α, exchange, lively, same, ends⟩ := exists_deeds_of_asks asking
      have operated := (thrifty.of_same client board).operation query lively
      rw [same]
      exact operated.of_same ends.client ends.board
  | none =>
      have ofOperation (operates : call.IsOperation) :
          Thrifty (past ++ deeds call world) (world.happen (.call call)) := by
        obtain ⟨client, board⟩ := same_of_unasked asking operates
        rw [deeds_of_unasked asking operates, List.append_nil]
        exact thrifty.of_same client board
      cases call with
      | upload path => exact ofOperation (.inl ⟨path, rfl⟩)
      | download text path offset count =>
          exact ofOperation (.inr ⟨text, path, offset, count, rfl⟩)
      | storagePool address =>
          rw [happen, World.call, Action.after_bind, deeds, List.append_nil]
          cases pooled : storagePool address world with
          | ok ref found => exact thrifty.pooled pooled
          | error fault after =>
              obtain ⟨rfl, -⟩ := storagePool_eq_error pooled
              exact thrifty
      | destroy =>
          rw [deeds, List.append_nil]
          exact thrifty.destroyed
      | drop id => exact thrifty.dropped id

theorem Thrifty.run (thrifty : Thrifty past world) (history : List Event) :
    Thrifty (past ++ deedsAlong world history) (World.run world history) := by
  induction history generalizing past world with
  | nil =>
      rw [deedsAlong, List.append_nil]
      exact thrifty
  | cons event rest ih =>
      cases event with
      | surroundings files accessor =>
          have tidy := thrifty.tidy
          have next : Thrifty past (world.happen (.surroundings files accessor)) :=
            thrifty.quiet
              ⟨tidy.settled, tidy.numbered, tidy.apart, tidy.shut, tidy.capable, tidy.emptied⟩
              (fun ref id retains => ⟨retains.has, retains.ready⟩) rfl
          exact ih next
      | call call =>
          rw [deedsAlong, ← List.append_assoc]
          exact ih (thrifty.call call)

end

section
variable {past : List Deed} {ref : Client.PoolRef} {id : LinkId}

/-- A link that was made for a pool serves it as long as it is not put out of use. -/
theorem Sparing.standing_eq_some (sparing : Sparing past) {front middle rest : List Deed}
    {address : Bytes}
    (split : past = front ++ .dialed ref address (some id) :: (middle ++ rest))
    (served : .used ⟨ref, id, false⟩ ∉ middle) (kept : .dropped id ∉ middle) :
    standing ref (front ++ .dialed ref address (some id) :: middle) = some id := by
  induction middle using List.reverseRecOn generalizing rest with
  | nil => rw [standing_concat, Deed.stand, if_pos rfl]
  | append_singleton middle deed ih =>
      rw [List.mem_append, List.mem_singleton, not_or] at served kept
      rw [List.append_assoc] at split
      have before := ih split served.1 kept.1
      rw [← List.cons_append, ← List.append_assoc, standing_concat, before]
      cases deed with
      | dialed other again made =>
          refine if_neg ?_
          rintro rfl
          have none := sparing (front ++ .dialed other address (some id) :: middle) other again made
            rest (by simpa using split)
          cases before.symm.trans none
      | used trial => simpa [Deed.stand] using Ne.symm served.2
      | dropped other => simpa [Deed.stand] using Ne.symm kept.2

/-- Between two calls of the dialer by one pool, the link of the first one went out of use. -/
theorem Sparing.lost_between (sparing : Sparing past) {front middle back : List Deed}
    {address again : Bytes} {made other : Option LinkId}
    (split : past = front ++ .dialed ref address made :: (middle ++ .dialed ref again other :: back)) :
    made = none ∨ ∃ id, made = some id ∧
      (.used ⟨ref, id, false⟩ ∈ middle ∨ .dropped id ∈ middle) := by
  cases made with
  | none => exact .inl rfl
  | some id =>
      refine .inr ⟨id, rfl, ?_⟩
      by_contra unended
      obtain ⟨served, kept⟩ := not_or.mp unended
      have stands := sparing.standing_eq_some split served kept
      have none := sparing (front ++ .dialed ref address (some id) :: middle) ref again other back
        (by simpa using split)
      cases stands.symm.trans none

/-- Where no link goes out of use and every dial makes one, no pool calls the dialer twice. -/
theorem Sparing.nodup_dialers (sparing : Sparing past)
    (made : ∀ ref address, .dialed ref address none ∉ past)
    (served : ∀ trial, .used trial ∈ past → trial.isOk = true)
    (kept : ∀ id, .dropped id ∉ past) : (past.filterMap Deed.dialer?).Nodup := by
  rw [List.Nodup, List.pairwise_filterMap, List.pairwise_iff_forall_sublist]
  intro earlier later pair ref first other second same
  subst same
  obtain ⟨start, rest, whole, isIn, behind⟩ := List.cons_sublist_iff.mp pair
  obtain ⟨front, middle, rfl⟩ := List.append_of_mem isIn
  obtain ⟨between, back, rfl⟩ := List.append_of_mem (List.singleton_sublist.mp behind)
  have split : past = front ++ earlier :: (middle ++ between ++ later :: back) := by simp [whole]
  have within {deed : Deed} (isBetween : deed ∈ middle ++ between) : deed ∈ past := by
    rw [split]
    exact List.mem_append_right _ (List.mem_cons_of_mem _ (List.mem_append_left _ isBetween))
  cases earlier with
  | used trial => cases first
  | dropped id => cases first
  | dialed pool address link =>
      cases first
      cases later with
      | used trial => cases second
      | dropped id => cases second
      | dialed pool again other =>
          cases second
          rcases sparing.lost_between split with rfl | ⟨id, -, failed | dropped⟩
          · exact made ref address (by simp [split])
          · cases served _ (within failed)
          · exact kept id (within dropped)

end

/-- Links are reused. In whatever happens to a client, the calls of its dialer are those of its
pools, in order, and between any two that one pool makes the first made no link, or an exchange over
the link failed and its call with it, or the link turned closed. So no pool calls the dialer twice
if every dial makes a link, all uploads and downloads succeed and no link turns closed. -/
theorem redialed_only_after_loss {settings : Settings} {dialer : Dialer}
    {accessor : Option Accessor} {files : FileTree} {start : World}
    (created : create settings dialer accessor files = .ok start) (history : List Event) :
    let past := deedsAlong start history
    (run start history).board.dialed = past.filterMap Deed.address? ∧
    (∀ ref front address made middle again other back,
      past = front ++ .dialed ref address made :: (middle ++ .dialed ref again other :: back) →
        made = none ∨ ∃ id, made = some id ∧
          (.used ⟨ref, id, false⟩ ∈ middle ∨ .dropped id ∈ middle)) ∧
    (∀ world call ref id, .used ⟨ref, id, false⟩ ∈ deeds call world →
      ∃ fault, Action.result (World.call call world) = .error fault) ∧
    ((∀ ref address, .dialed ref address none ∉ past) → Along GoesWell start history →
      (∀ id, .dropped id ∉ past) → (past.filterMap Deed.dialer?).Nodup) := by
  intro past
  have thrifty : Thrifty past (run start history) := (thrifty_create created).run history
  refine ⟨thrifty.dialed, ?_, ?_, ?_⟩
  · intro ref front address made middle again other back split
    exact thrifty.sparing.lost_between split
  · intro world call ref id isUsed
    cases ended : Action.result (World.call call world) with
    | error fault => exact ⟨fault, rfl⟩
    | ok reply => cases isOk_of_call (fun _ => ⟨reply, ended⟩) isUsed
  · intro made well kept
    exact thrifty.sparing.nodup_dialers made (fun trial => isOk_of_run well) kept

theorem redialed_only_after_loss_of_dropped_tracker :
    let settings : Settings := ⟨[Bytes.ofText "t:1"], 1, 5, 30, [], []⟩
    let named := Header.encode ⟨40, Command.answer, 0⟩ ++ Field.padded (Bytes.ofText "g") 16 ++
      Field.padded (Bytes.ofText "s") 15 ++ BigEndian.encode 7 ++ [0]
    let stored := Header.encode ⟨17, Command.answer, 0⟩ ++ Field.padded (Bytes.ofText "g") 16 ++
      Bytes.ofText "f"
    let dialer : Dialer := .script ⟨[(Bytes.ofText "s:7", [.link (stored ++ stored) none true])],
      [.link (named ++ named) none true, .link named none true]⟩
    let accessor : Accessor := .catalogue [([120], ⟨1, [], .ofContent [7]⟩)]
    let start : World := ⟨⟨[⟨Bytes.ofText "t:1", 1, [], 0, false⟩], [], 1, accessor⟩,
      .ofDialer dialer, .blank, 0, 0, 0⟩
    let twice : List Event := [.call (.upload [120]), .call (.upload [120])]
    let dropped : List Event := [.call (.upload [120]), .call (.drop 0), .call (.upload [120])]
    let middle : List Deed := [.used ⟨.tracker 0, 0, true⟩,
      .dialed (.storage 0) (Bytes.ofText "s:7") (some 1), .used ⟨.storage 0, 1, true⟩, .dropped 0]
    create settings dialer (some accessor) .blank = .ok start ∧
      (run start twice).board.dialed = [Bytes.ofText "t:1", Bytes.ofText "s:7"] ∧
      Along GoesWell start twice ∧
      ((deedsAlong start twice).filterMap Deed.dialer?).Nodup ∧
      (run start dropped).board.dialed =
        [Bytes.ofText "t:1", Bytes.ofText "s:7", Bytes.ofText "t:1"] ∧
      deedsAlong start dropped =
        [] ++ .dialed (.tracker 0) (Bytes.ofText "t:1") (some 0) ::
          (middle ++ .dialed (.tracker 0) (Bytes.ofText "t:1") (some 2) ::
            [.used ⟨.tracker 0, 2, true⟩, .used ⟨.storage 0, 1, true⟩]) ∧
      ∃ id, some 0 = some id ∧ (.used ⟨.tracker 0, id, false⟩ ∈ middle ∨ .dropped id ∈ middle) := by
  intro settings named stored dialer accessor start twice dropped middle
  have created : create settings dialer (some accessor) .blank = .ok start := by decide +kernel
  obtain ⟨dialed, -, -, once⟩ := redialed_only_after_loss created twice
  obtain ⟨again, lost, -, -⟩ := redialed_only_after_loss created dropped
  have well : Along GoesWell start twice := by
    refine ⟨?_, ?_, trivial⟩
    · rintro call ⟨⟩ -
      exact ⟨.stored ⟨Bytes.ofText "g", Bytes.ofText "f"⟩, by decide +kernel⟩
    · rintro call ⟨⟩ -
      exact ⟨.stored ⟨Bytes.ofText "g", Bytes.ofText "f"⟩, by decide +kernel⟩
  have quiet : deedsAlong start twice =
      [.dialed (.tracker 0) (Bytes.ofText "t:1") (some 0), .used ⟨.tracker 0, 0, true⟩,
        .dialed (.storage 0) (Bytes.ofText "s:7") (some 1), .used ⟨.storage 0, 1, true⟩,
        .used ⟨.tracker 0, 0, true⟩, .used ⟨.storage 0, 1, true⟩] := by decide +kernel
  have loud : deedsAlong start dropped =
      [] ++ .dialed (.tracker 0) (Bytes.ofText "t:1") (some 0) ::
        (middle ++ .dialed (.tracker 0) (Bytes.ofText "t:1") (some 2) ::
          [.used ⟨.tracker 0, 2, true⟩, .used ⟨.storage 0, 1, true⟩]) := by decide +kernel
  refine ⟨created, ?_, well, once ?_ well ?_, ?_, loud, ?_⟩
  · rw [dialed, quiet]
    rfl
  · simp [quiet]
  · simp [quiet]
  · rw [again, loud]
    rfl
  · exact (lost _ _ _ _ _ _ _ _ loud).resolve_left (Option.some_ne_none 0)

end World

end TrackedStorage
