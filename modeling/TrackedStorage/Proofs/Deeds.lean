import TrackedStorage.Proofs.Dialogues
import TrackedStorage.Proofs.Operations

set_option autoImplicit false

namespace TrackedStorage

namespace World

/-- What happens to the links of a client, but for its destruction. -/
inductive Deed where
  /-- A pool calls the dialer, which makes a link or none. -/
  | dialed (ref : Client.PoolRef) (address : Bytes) (made : Option LinkId)
  | used (trial : Trial)
  /-- An open link turns closed by itself. -/
  | dropped (id : LinkId)
  deriving DecidableEq

namespace Deed

def address? : Deed → Option Bytes
  | dialed _ address _ => some address
  | used _ => none
  | dropped _ => none

def dialer? : Deed → Option Client.PoolRef
  | dialed ref _ _ => some ref
  | used _ => none
  | dropped _ => none

end Deed

/-- The call of the dialer to which a request for a link leads, if any, with the link that the
dialer makes, whether the pool then lends it or not. -/
def dialDeeds (ref : Client.PoolRef) (world : World) : List Deed :=
  let address := (world.client.pool ref).address
  if (Action.after (onDesk ref Lease.take world)).board.dialed = world.board.dialed then []
  else [.dialed ref address (world.board.made? address)]

def trackerDeeds : List Nat → World → List Deed
  | [], _ => []
  | index :: rest, world =>
      dialDeeds (.tracker index) world ++
        match onDesk (.tracker index) Lease.take world with
        | .ok _ _ => []
        | .error fault after => if isUnavailable fault then trackerDeeds rest after else []

def queryDeeds (query : Query) (world : World) : List Deed :=
  trackerDeeds (List.range world.client.trackers.length) world ++
    (queryTrials query world).map .used

def storageDeeds {α : Type} (node : StorageNode) (exchange : Action (Link × FileTree) α)
    (world : World) : List Deed :=
  match storagePool node.address world with
  | .error _ _ => []
  | .ok ref found => dialDeeds ref found ++ (storageTrials node exchange world).map .used

def operationDeeds {α : Type} (query : Query)
    (exchange : StorageNode → Action (Link × FileTree) α) (world : World) : List Deed :=
  queryDeeds query world ++
    match World.query query world with
    | .error _ _ => []
    | .ok node asked => storageDeeds node (exchange node) asked

/-- What a call does to the links of a client. -/
def deeds : Call → World → List Deed
  | .upload path, world =>
      match stage path world with
      | .error _ _ => []
      | .ok file staged =>
          operationDeeds .store (fun node => Action.onFirst (sendFile node file)) staged
  | .download id path offset count, world =>
      match FileId.parse id with
      | .error _ => []
      | .ok id =>
          operationDeeds (.fetch id) (fun _ => Download.toFile ⟨id, offset, count⟩ path) world
  | .storagePool _, _ => []
  | .destroy, _ => []
  | .drop id, world => if world.board.isOpen id then [.dropped id] else []

def deedsAlong : World → List Event → List Deed
  | _, [] => []
  | world, .call call :: rest => deeds call world ++ deedsAlong (world.happen (.call call)) rest
  | world, .surroundings files accessor :: rest =>
      deedsAlong (world.happen (.surroundings files accessor)) rest

section
variable {world after : World} {ref : Client.PoolRef}

theorem dialDeeds_of_silent {ended : EStateM.Result Fault World Lease}
    (taken : onDesk ref Lease.take world = ended)
    (silent : (Action.after ended).board.dialed = world.board.dialed) :
    dialDeeds ref world = [] := by
  rw [dialDeeds, taken]
  exact if_pos silent

theorem dialDeeds_of_loud {ended : EStateM.Result Fault World Lease} {address : Bytes}
    (taken : onDesk ref Lease.take world = ended)
    (loud : (Action.after ended).board.dialed = world.board.dialed ++ [address]) :
    dialDeeds ref world = [.dialed ref (world.client.pool ref).address
      (world.board.made? (world.client.pool ref).address)] := by
  rw [dialDeeds, taken]
  refine if_neg ?_
  rw [loud]
  simp

theorem trackerDeeds_cons_of_ok {index : Nat} {lease : Lease}
    (taken : onDesk (.tracker index) Lease.take world = .ok lease after) (rest : List Nat) :
    trackerDeeds (index :: rest) world = dialDeeds (.tracker index) world := by
  simp only [trackerDeeds, taken, List.append_nil]

theorem trackerDeeds_cons_of_error {index : Nat} {fault : Fault}
    (taken : onDesk (.tracker index) Lease.take world = .error fault after) (rest : List Nat) :
    trackerDeeds (index :: rest) world = dialDeeds (.tracker index) world ++
      if isUnavailable fault then trackerDeeds rest after else [] := by
  simp only [trackerDeeds, taken]

end

/-- An exchange that succeeds over an open link only, which it leaves open. -/
def StaysOpen {α : Type} (exchange : Action (Link × FileTree) α) : Prop :=
  ∀ link files value last kept, exchange (link, files) = .ok value (last, kept) →
    last.isOpen = true

theorem staysOpen_ask (query : Query) : StaysOpen (Action.onFirst query.ask) := by
  intro link files node last kept done
  obtain ⟨after, asked, same⟩ := Action.on_eq_ok done
  cases same
  refine query.isDialogue_ask.isOpen_of_opening ?_ asked
  intro other closed
  exact ⟨_, _, Action.bind_of_error (Action.bind_of_error (Link.write_of_closed closed _) _) _⟩

theorem staysOpen_sendFile (node : StorageNode) (file : StagedFile) :
    StaysOpen (Action.onFirst (sendFile node file)) := by
  intro link files id last kept done
  obtain ⟨after, sent, same⟩ := Action.on_eq_ok done
  cases same
  unfold sendFile at sent
  dsimp only at sent
  split at sent
  · rename_i value used source ran
    cases sent
    have owned : Action.owning file.source
        (Upload.run ⟨node.pathIndex, file.size, file.extension⟩) link = .ok (id, source) last := by
      simp only [Action.owning, ran]
    refine (Upload.isDialogue_run _ file.source).isOpen_of_opening ?_ owned
    intro other closed
    have unannounced : Action.onFirst (Upload.sendHeader
        ⟨node.pathIndex, file.size, file.extension⟩) (other, file.source) =
          .error (other.closedFault .write) (other, file.source) := by
      simp only [Action.onFirst, Action.on, Upload.sendHeader, Header.send,
        Action.bind_of_error (Link.write_of_closed closed _)]
    simp only [Action.owning, Upload.run, Action.bind_of_error unannounced]
    exact ⟨_, _, rfl⟩
  · cases sent

theorem staysOpen_toFile (download : Download) (path : Bytes) :
    StaysOpen (download.toFile path) := by
  intro link files length last kept done
  unfold Download.toFile at done
  dsimp only at done
  split at done
  · cases done
  · rename_i declared accepted requested
    have opened : accepted.isOpen = true := by
      refine download.isDialogue_request.isOpen_of_opening ?_ requested
      intro other closed
      exact ⟨_, _, Action.bind_of_error (Action.bind_of_error (Link.write_of_closed closed _) _) _⟩
    split at done
    · cases done
    · split at done
      · cases done
      · rename_i outlet tree created _ filled sink received
        split at done
        · cases done
          have owned : Action.owning (Download.sinkOf outlet)
              (Download.receiveBody length.toNat) accepted = .ok ((), sink) last := by
            simp only [Action.owning, received]
          exact ((Download.isDialogue_receiveBody _ _).isOpen_eq owned).trans opened
        · cases done

/-- The deeds of a call that asks a tracker are those of its operation. -/
theorem exists_deeds_of_asks {world begun : World} {call : Call} {query : Query}
    (asking : asks call world = some (query, begun)) :
    ∃ (α : Type) (exchange : StorageNode → Action (Link × FileTree) α),
      (∀ node, StaysOpen (exchange node)) ∧
        deeds call world = operationDeeds query exchange begun ∧
        EndsAs (operation query exchange begun) (World.call call world) := by
  cases call with
  | upload path =>
      rw [asks] at asking
      cases staged : stage path world with
      | error fault after =>
          rw [staged] at asking
          cases asking
      | ok file opened =>
          rw [staged] at asking
          cases asking
          exact ⟨FileId, _, fun node => staysOpen_sendFile node file, by rw [deeds, staged],
            endsAs_upload staged⟩
  | download text path offset count =>
      rw [asks] at asking
      cases parsed : FileId.parse text with
      | error fault =>
          rw [parsed] at asking
          cases asking
      | ok id =>
          rw [parsed] at asking
          cases asking
          exact ⟨UInt64, _, fun _ => staysOpen_toFile _ path, by rw [deeds, parsed],
            endsAs_download parsed⟩
  | storagePool address => cases asking
  | destroy => cases asking
  | drop id => cases asking

theorem deeds_of_unasked {world : World} {call : Call} (unasked : asks call world = none)
    (operates : call.IsOperation) : deeds call world = [] := by
  rcases operates with ⟨path, rfl⟩ | ⟨text, path, offset, count, rfl⟩
  · rw [asks] at unasked
    rw [deeds]
    cases staged : stage path world with
    | error fault after => rfl
    | ok file opened =>
        rw [staged] at unasked
        cases unasked
  · rw [asks] at unasked
    rw [deeds]
    cases parsed : FileId.parse text with
    | error fault => rfl
    | ok id =>
        rw [parsed] at unasked
        cases unasked

section
variable {α : Type} {world after : World}

theorem isOk_of_onLease {ref : Client.PoolRef} {lease : Lease}
    {exchange : Action (Link × FileTree) α} {value : α}
    (done : onLease ref lease exchange world = .ok value after) :
    ∀ trial ∈ leaseTrials ref lease exchange world, trial.isOk = true := by
  intro trial isIn
  unfold leaseTrials at isIn
  cases held : lease.held with
  | none =>
      rw [held] at isIn
      cases isIn
  | some id =>
      rw [held] at isIn
      simp only [onLease, held] at done
      rw [List.mem_singleton.mp isIn]
      cases ran : onLink id exchange world with
      | ok other used => rfl
      | error fault used =>
          rw [ran] at done
          cases done

theorem isOk_of_query {query : Query} {node : StorageNode}
    (done : World.query query world = .ok node after) :
    ∀ trial ∈ queryTrials query world, trial.isOk = true := by
  obtain ⟨⟨ref, lease⟩, lent, leased, used⟩ := Action.bind_eq_ok done
  rw [queryTrials, leased]
  exact isOk_of_onLease used

theorem isOk_of_onStorage {node : StorageNode} {exchange : Action (Link × FileTree) α} {value : α}
    (done : onStorage node exchange world = .ok value after) :
    ∀ trial ∈ storageTrials node exchange world, trial.isOk = true := by
  obtain ⟨ref, found, pooled, leasing⟩ := Action.bind_eq_ok done
  obtain ⟨lease, lent, taken, used⟩ := Action.bind_eq_ok leasing
  simp only [storageTrials, pooled, taken]
  exact isOk_of_onLease used

theorem used_not_mem_dialDeeds (trial : Trial) (ref : Client.PoolRef) (world : World) :
    .used trial ∉ dialDeeds ref world := by
  unfold dialDeeds
  dsimp only
  split <;> simp

theorem used_not_mem_trackerDeeds (trial : Trial) (indices : List Nat) (world : World) :
    .used trial ∉ trackerDeeds indices world := by
  induction indices generalizing world with
  | nil => exact List.not_mem_nil
  | cons index rest ih =>
      rw [trackerDeeds, List.mem_append, not_or]
      refine ⟨used_not_mem_dialDeeds trial _ world, ?_⟩
      split
      · exact List.not_mem_nil
      · split
        · exact ih _
        · exact List.not_mem_nil

/-- Of an operation that succeeds no exchange failed. -/
theorem isOk_of_operation {query : Query} {exchange : StorageNode → Action (Link × FileTree) α}
    {value : α} (done : operation query exchange world = .ok value after) {trial : Trial}
    (isUsed : .used trial ∈ operationDeeds query exchange world) : trial.isOk = true := by
  obtain ⟨node, asked, answered, stored⟩ := Action.bind_eq_ok done
  rw [operationDeeds, queryDeeds, answered, List.mem_append, List.mem_append] at isUsed
  rcases isUsed with (dialing | asking) | storing
  · exact absurd dialing (used_not_mem_trackerDeeds trial _ world)
  · obtain ⟨other, isIn, same⟩ := List.mem_map.mp asking
    cases same
    exact isOk_of_query answered _ isIn
  · obtain ⟨ref, found, pooled, -⟩ := Action.bind_eq_ok stored
    simp only [storageDeeds, pooled, List.mem_append] at storing
    rcases storing with dialing | storing
    · exact absurd dialing (used_not_mem_dialDeeds trial ref found)
    · obtain ⟨other, isIn, same⟩ := List.mem_map.mp storing
      cases same
      exact isOk_of_onStorage stored _ isIn

theorem isOperation_of_asks {call : Call} {query : Query} {begun : World}
    (asking : asks call world = some (query, begun)) : call.IsOperation := by
  cases call with
  | upload path => exact .inl ⟨path, rfl⟩
  | download text path offset count => exact .inr ⟨text, path, offset, count, rfl⟩
  | storagePool address => cases asking
  | destroy => cases asking
  | drop id => cases asking

/-- A call that succeeds, if it is an upload or a download. -/
def GoesWell (world : World) (call : Call) : Prop :=
  call.IsOperation → ∃ reply, Action.result (World.call call world) = .ok reply

theorem isOk_of_call {call : Call} (well : GoesWell world call) {trial : Trial}
    (isUsed : .used trial ∈ deeds call world) : trial.isOk = true := by
  cases asking : asks call world with
  | some asked =>
      obtain ⟨query, begun⟩ := asked
      obtain ⟨reply, done⟩ := well (isOperation_of_asks asking)
      obtain ⟨β, exchange, -, same, ends⟩ := exists_deeds_of_asks asking
      rw [same] at isUsed
      cases operated : operation query exchange begun with
      | ok value last => exact isOk_of_operation operated isUsed
      | error fault last =>
          have failed := (ends.fault fault).mpr (by rw [operated, Action.result])
          cases done.symm.trans failed
  | none =>
      cases call with
      | upload path =>
          rw [deeds_of_unasked asking (.inl ⟨path, rfl⟩)] at isUsed
          cases isUsed
      | download text path offset count =>
          rw [deeds_of_unasked asking (.inr ⟨text, path, offset, count, rfl⟩)] at isUsed
          cases isUsed
      | storagePool address => cases isUsed
      | destroy => cases isUsed
      | drop id =>
          rw [deeds] at isUsed
          split at isUsed
          · cases List.mem_singleton.mp isUsed
          · cases isUsed

theorem isOk_of_run {history : List Event} (well : Along GoesWell world history) {trial : Trial}
    (isUsed : .used trial ∈ deedsAlong world history) : trial.isOk = true := by
  induction history generalizing world with
  | nil => cases isUsed
  | cons event rest ih =>
      obtain ⟨first, later⟩ := well
      cases event with
      | surroundings files accessor => exact ih later isUsed
      | call call =>
          rcases List.mem_append.mp isUsed with now | behind
          · exact isOk_of_call (first call rfl) now
          · exact ih later behind

end

end World

end TrackedStorage
