import TrackedStorage.Proofs.ClientSettled
import TrackedStorage.Proofs.Dialogues
import TrackedStorage.Proofs.ShellSession

set_option autoImplicit false

namespace TrackedStorage

namespace Link

/-- What the use of a link keeps: where the remote side falls silent, and whether something waits
for ever. Only a silence without a timeout begins to be waited for. -/
structure Endures (before after : Link) : Prop where
  silence : ∀ way, after.medium.silence? way = before.medium.silence? way
  stays : before.isStuck = true → after.isStuck = true
  sticks : after.isStuck = true →
    before.isStuck = true ∨ ∃ way, before.medium.silence? way = some 0

/-- Whether nothing that is done over a link can wait for ever. -/
structure IsPrompt (link : Link) : Prop where
  goesOn : link.isStuck = false
  silence : ∀ way, link.medium.silence? way ≠ some 0

namespace Endures

theorem refl (link : Link) : Endures link link := ⟨fun _ => rfl, id, .inl⟩

theorem trans {before middle after : Link} (earlier : Endures before middle)
    (later : Endures middle after) : Endures before after where
  silence way := (later.silence way).trans (earlier.silence way)
  stays stuck := later.stays (earlier.stays stuck)
  sticks stuck := by
    rcases later.sticks stuck with inMiddle | ⟨way, untimed⟩
    · exact earlier.sticks inMiddle
    · exact .inr ⟨way, (earlier.silence way).symm.trans untimed⟩

theorem isPrompt {before after : Link} (endures : Endures before after)
    (prompt : before.IsPrompt) : after.IsPrompt := by
  refine ⟨Bool.eq_false_iff.mpr fun stuck => ?_, fun way => ?_⟩
  · rcases endures.sticks stuck with already | ⟨way, untimed⟩
    · cases prompt.goesOn.symm.trans already
    · exact prompt.silence way untimed
  · rw [endures.silence way]
    exact prompt.silence way

end Endures

theorem isPrompt_dead : dead.IsPrompt where
  goesOn := rfl
  silence way := by simp [dead, inMemory, Medium.silence?]

theorem endures_close (link : Link) : link.Endures link.close := ⟨fun _ => rfl, id, .inl⟩

theorem endures_of_begin {before after : Link} (begun : after.medium = before.medium.begin) :
    before.Endures after := by
  have same : after.isStuck = before.isStuck := by
    rw [isStuck, isStuck, begun]
    cases before.medium <;> rfl
  refine ⟨fun way => by rw [begun, Medium.silence?_begin], ?_, ?_⟩
  · rw [same]
    exact id
  · rw [same]
    exact .inl

theorem endures_fall (link : Link) (way : Direction) : link.Endures (link.fall way).2 := by
  rcases link.fall_snd way with same | same | ⟨same, untimed⟩
  · rw [same]
    exact .refl link
  · rw [same]
    exact link.endures_close
  · rw [same]
    refine ⟨link.silence?_stick, fun stuck => ?_, fun _ => .inr ⟨way, untimed⟩⟩
    cases medium : link.medium with
    | memory => simp [isStuck, medium] at stuck
    | socket wire => simp [isStuck, stick, medium]

theorem endures_write (data : Bytes) (link : Link) :
    link.Endures (Action.after (write data link)) := by
  unfold write
  split
  · dsimp only
    split
    · exact endures_of_begin rfl
    · exact (endures_of_begin rfl).trans (endures_fall _ .write)
  · exact .refl link

theorem endures_read (count : Nat) (link : Link) :
    link.Endures (Action.after (read count link)) := by
  unfold read
  split
  · dsimp only
    split
    · exact endures_of_begin rfl
    · exact (endures_of_begin rfl).trans (endures_fall _ .read)
  · exact .refl link

end Link

theorem Action.IsDialogue.endures {α : Type} {action : Action Link α}
    (dialogue : IsDialogue action) (link : Link) : link.Endures (Action.after (action link)) := by
  induction dialogue generalizing link with
  | done value => exact .refl link
  | given fault => exact .refl link
  | sent data => exact link.endures_write data
  | taken count => exact link.endures_read count
  | @next α β first next _ _ earlier later =>
      have begun := earlier link
      rw [after_bind]
      cases ran : first link with
      | ok value middle =>
          rw [ran] at begun
          exact begun.trans (later value middle)
      | error fault middle =>
          rw [ran] at begun
          exact begun

/-- Whether a peer can keep something waiting that no deadline ends. -/
def Peer.Blocks (peer : Peer) (timeouts : Timeouts) : Prop :=
  timeouts.connect = 0 ∧ peer.attempt = .hangs ∨
    timeouts.transfer = 0 ∧ ∃ way, peer.stall way = .hangs

theorem Peer.not_blocks_unknown (timeouts : Timeouts) : ¬ Peer.unknown.Blocks timeouts := by
  rintro (⟨-, hangs⟩ | ⟨-, way, hangs⟩)
  · cases hangs
  · cases way <;> cases hangs

theorem Peer.isPrompt_connect {peer : Peer} {timeouts : Timeouts} (goesOn : ¬ peer.Blocks timeouts)
    (address endpoint : Bytes) : (peer.connect address endpoint timeouts).2.IsPrompt := by
  have timed (way : Direction) :
      (if peer.stall way = .hangs then some timeouts.transfer else none) ≠ some 0 := by
    intro untimed
    split at untimed
    · rename_i hangs
      exact goesOn (.inr ⟨Option.some.inj untimed, way, hangs⟩)
    · cases untimed
  have connects := peer.connect_connects address endpoint timeouts
  generalize peer.connect address endpoint timeouts = connected at connects
  cases connects with
  | lost => exact ⟨rfl, fun way => peer.silence?_link address endpoint timeouts way ▸ timed way⟩
  | made =>
      exact ⟨rfl, fun way => peer.silence?_attemptedLink address endpoint timeouts way ▸ timed way⟩
  | refused =>
      exact ⟨rfl, fun way => peer.silence?_attemptedLink address endpoint timeouts way ▸ timed way⟩
  | endless found hangs untimed => exact absurd (.inl ⟨untimed, hangs⟩) goesOn

/-- The peers that are still to be met, wherever they are. -/
def Network.peers (network : Network) : List Peer := network.flatMap Prod.snd

theorem Queues.next?_spec {α : Type} (queues : Queues α) (key : Bytes) :
    (∀ item, (queues.next? key).1 = some item → item ∈ queues.flatMap Prod.snd) ∧
      ∀ item ∈ (queues.next? key).2.flatMap Prod.snd, item ∈ queues.flatMap Prod.snd := by
  unfold next?
  split
  · rename_i item rest found
    have listed : (key, item :: rest) ∈ queues := by
      obtain ⟨before, after, same, -⟩ := List.lookup_eq_some_iff.mp found
      rw [same]
      simp
    refine ⟨?_, fun other isIn => ?_⟩
    · rintro _ ⟨⟩
      exact List.mem_flatMap.mpr ⟨_, listed, List.mem_cons_self⟩
    · simp only [List.mem_flatMap, List.mem_map] at isIn
      obtain ⟨_, ⟨entry, isEntry, rfl⟩, isOther⟩ := isIn
      dsimp only at isOther
      split at isOther
      · exact List.mem_flatMap.mpr ⟨_, listed, List.mem_cons_of_mem _ isOther⟩
      · exact List.mem_flatMap.mpr ⟨entry, isEntry, isOther⟩
  · exact ⟨fun item none => absurd none (by simp), fun item isIn => isIn⟩

/-- A peer that is met was still to be met, or is the one where nobody listens. -/
theorem Network.lookUp_spec (network : Network) (endpoint : Endpoint) :
    ((network.lookUp endpoint).1 = Peer.unknown ∨
      (network.lookUp endpoint).1 ∈ network.peers) ∧
    ∀ peer ∈ (network.lookUp endpoint).2.peers, peer ∈ network.peers := by
  obtain ⟨item, rest⟩ := Queues.next?_spec network endpoint.address
  unfold lookUp
  split
  · rename_i peer left next
    rw [next] at item rest
    exact ⟨.inr (item peer rfl), rest⟩
  · rename_i left next
    rw [next] at rest
    exact ⟨.inl rfl, rest⟩

namespace Switchboard

def IsStuck (board : Switchboard) : Prop := ∃ id, (board.link id).isStuck = true

/-- Whether nothing can wait for ever, over the links that there are or over new ones. -/
structure IsPrompt (timeouts : Timeouts) (board : Switchboard) : Prop where
  dialer : ∃ network, board.dialer = .network timeouts network ∧
    ∀ peer ∈ network.peers, ¬ peer.Blocks timeouts
  links : ∀ id, (board.link id).IsPrompt

variable {board : Switchboard} {timeouts : Timeouts}

theorem IsStuck.setLink (stuck : board.IsStuck) {id : LinkId} {link : Link}
    (endures : (board.link id).Endures link) : (board.setLink id link).IsStuck := by
  obtain ⟨waits, isWaiting⟩ := stuck
  refine ⟨waits, ?_⟩
  rw [link_setLink]
  split
  · rename_i both
    rw [both.1] at isWaiting
    exact endures.stays isWaiting
  · exact isWaiting

theorem IsPrompt.setLink (prompt : board.IsPrompt timeouts) {id : LinkId} {link : Link}
    (endures : (board.link id).Endures link) : (board.setLink id link).IsPrompt timeouts := by
  refine ⟨prompt.dialer, fun other => ?_⟩
  rw [link_setLink]
  split
  · exact endures.isPrompt (prompt.links id)
  · exact prompt.links other

theorem isStuck_foldl_close_iff (ids : List LinkId) (board : Switchboard) :
    (ids.foldl close board).IsStuck ↔ board.IsStuck := by
  have isStuck_close (board : Switchboard) (id other : LinkId) :
      ((board.close id).link other).isStuck = (board.link other).isStuck := by
    rw [close, link_setLink]
    split
    · rename_i both
      rw [both.1]
      rfl
    · rfl
  induction ids generalizing board with
  | nil => exact Iff.rfl
  | cons id rest ih =>
      refine (ih (board.close id)).trans ?_
      simp only [IsStuck, isStuck_close]

theorem IsStuck.dial (stuck : board.IsStuck) (address : Bytes) :
    (board.dial address).2.IsStuck := by
  obtain ⟨id, waits⟩ := stuck
  have isThere : id < board.links.length := by
    refine Nat.lt_of_not_le fun absent => ?_
    rw [link_of_length_le absent] at waits
    cases waits
  rcases dialed : board.dial address with ⟨outcome, after⟩
  exact ⟨id, by rw [(Dialed.of_dial dialed).link_of_lt isThere]; exact waits⟩

theorem isPrompt_ofDialer {network : Network}
    (goesOn : ∀ peer ∈ network.peers, ¬ peer.Blocks timeouts) :
    (ofDialer (.network timeouts network)).IsPrompt timeouts :=
  ⟨⟨network, rfl, goesOn⟩, fun _ => Link.isPrompt_dead⟩

theorem IsPrompt.not_isStuck (prompt : board.IsPrompt timeouts) : ¬ board.IsStuck := by
  rintro ⟨id, stuck⟩
  cases (prompt.links id).goesOn.symm.trans stuck

theorem IsPrompt.add (prompt : board.IsPrompt timeouts) {link : Link} (goesOn : link.IsPrompt) :
    (board.add link).2.IsPrompt timeouts := by
  refine ⟨prompt.dialer, fun id => ?_⟩
  rcases Nat.lt_trichotomy id board.links.length with isThere | rfl | outside
  · rw [link_add_of_lt isThere]
    exact prompt.links id
  · have last : (board.add link).2.link board.links.length = link := link_add_self board link
    rw [last]
    exact goesOn
  · rw [link_of_length_le (by simpa [Switchboard.add] using Nat.succ_le_of_lt outside)]
    exact Link.isPrompt_dead

theorem IsPrompt.dial (prompt : board.IsPrompt timeouts) (address : Bytes) :
    (board.dial address).2.IsPrompt timeouts := by
  obtain ⟨network, dialer, goesOn⟩ := prompt.dialer
  have called (rest : Network) (still : ∀ peer ∈ rest.peers, ¬ peer.Blocks timeouts) :
      IsPrompt timeouts ⟨board.links, .network timeouts rest, board.dialed ++ [address]⟩ :=
    ⟨⟨rest, rfl, still⟩, prompt.links⟩
  simp only [Switchboard.dial, dialer, dialNetwork]
  cases Endpoint.ofAddress address with
  | error fault => exact called network goesOn
  | ok endpoint =>
      obtain ⟨met, left⟩ := network.lookUp_spec endpoint
      have later := called (network.lookUp endpoint).2 fun peer isIn => goesOn peer (left peer isIn)
      have next : ¬ (network.lookUp endpoint).1.Blocks timeouts := by
        rcases met with unknown | isIn
        · rw [unknown]
          exact Peer.not_blocks_unknown timeouts
        · exact goesOn _ isIn
      have added := later.add (Peer.isPrompt_connect next address endpoint.address)
      dsimp only
      split <;> exact added

end Switchboard

/-- What a property of all links has to withstand to hold as long as a client does only what is
permitted. -/
structure World.Robust (permitted : World.Permission) (holds : Switchboard → Prop) : Prop where
  close : ∀ board id, holds board → holds (board.close id)
  dial : ∀ board address, holds board → holds (board.dial address).2
  use : ∀ {α : Type} ref (exchange : Action (Link × FileTree) α), permitted.exchange ref exchange →
    ∀ board id files, holds board →
      holds (board.setLink id (Action.after (exchange (board.link id, files))).1)

namespace World.Robust

variable {permitted : Permission} {holds : Switchboard → Prop} (robust : Robust permitted holds)
include robust

theorem acquire {pool : Pool} {board : Switchboard} {ended : EStateM.Result Fault Desk LinkId}
    (acquired : Pool.Acquired pool board ended) (start : holds board) :
    holds (Action.after ended).2 := by
  cases acquired with
  | made id after running shut room dialed =>
      have kept := robust.dial board pool.address start
      rwa [dialed] at kept
  | failed outcome address reason after running shut room dialed =>
      have kept := robust.dial board pool.address start
      rwa [dialed] at kept
  | _ => exact start

theorem take (ref : Client.PoolRef) {world : World} (start : holds world.board) :
    holds (Action.after (onDesk ref Lease.take world)).board := by
  have kept := robust.acquire (Pool.acquire_acquired (world.client.pool ref) world.board) start
  rw [← desk_eq] at kept
  unfold onDesk Action.on Lease.take
  cases ended : Pool.acquire (world.desk ref) with
  | ok id desk =>
      rw [ended] at kept
      exact kept
  | error fault desk =>
      rw [ended] at kept
      exact kept

theorem foldl_close {board : Switchboard} (start : holds board) (ids : List LinkId) :
    holds (ids.foldl Switchboard.close board) := by
  induction ids generalizing board with
  | nil => exact start
  | cons id rest ih => exact ih (robust.close board id start)

theorem release {desk : Desk} (start : holds desk.2) (id : LinkId) :
    holds (Pool.release (some id) desk).2 := by
  unfold Pool.release
  dsimp only
  split
  · exact robust.close desk.2 id start
  · exact start

/-- Every step of a client keeps a robust property. -/
theorem step {trials : List Trial} {world after : World}
    (step : Step permitted trials world after) (start : holds world.board) :
    holds after.board := by
  have used {α : Type} {ref : Client.PoolRef} {exchange : Action (Link × FileTree) α} {id : LinkId}
      (allowed : permitted.exchange ref exchange) {lent : World}
      (taken : onDesk ref Lease.take world = .ok ⟨some id⟩ lent) :
      holds (Action.after (onLink id exchange lent)).board := by
    have lends := robust.take ref start
    rw [taken] at lends
    have kept := robust.use ref exchange allowed lent.board id lent.files lends
    unfold onLink Action.on
    dsimp only
    cases ended : exchange (lent.board.link id, lent.files) with
    | ok value last =>
        rw [ended] at kept
        exact kept
    | error fault last =>
        rw [ended] at kept
        exact kept
  cases step with
  | counted => exact start
  | surrounded => exact start
  | opened => exact start
  | refused ref fault taken =>
      have kept := robust.take ref start
      rwa [taken] at kept
  | served ref id exchange value taken allowed done =>
      have kept := used allowed taken
      rw [done] at kept
      exact robust.release kept id
  | failed ref id exchange fault taken allowed done =>
      have kept := used allowed taken
      rw [done] at kept
      exact robust.close _ id kept
  | destroyed =>
      rw [destroy_eq]
      exact robust.foldl_close start _
  | dropped _ id => exact robust.close world.board id start

theorem run {world : World} {history : List Event}
    (permits : Along (Permits permitted) world history) (start : holds world.board) :
    holds (run world history).board :=
  run_preserve permits start robust.step

end World.Robust

namespace World

/-- Exchanges that use their link by reads and writes. -/
def enduring : Permission where
  destruction := True
  exchange _ _ exchange := ∀ link files,
    Link.Endures link (Action.after (exchange (link, files))).1

theorem enduring_ask (index : Nat) (query : Query) :
    enduring.exchange (.tracker index) (Action.onFirst query.ask) := by
  intro link files
  rw [Action.after_onFirst]
  exact query.isDialogue_ask.endures link

theorem enduring_sendFile (index : Nat) (node : StorageNode) (file : StagedFile) :
    enduring.exchange (.storage index) (Action.onFirst (sendFile node file)) := by
  intro link files
  rw [Action.after_onFirst]
  have endures := (Upload.isDialogue_run ⟨node.pathIndex, file.size, file.extension⟩
    file.source).endures link
  unfold Action.owning at endures
  unfold sendFile
  dsimp only
  cases ran : Upload.run ⟨node.pathIndex, file.size, file.extension⟩ (link, file.source) <;>
    · rw [ran] at endures
      exact endures

theorem enduring_toFile (index : Nat) (download : Download) (path : Bytes) :
    enduring.exchange (.storage index) (download.toFile path) := by
  intro link files
  have requested := download.isDialogue_request.endures link
  unfold Download.toFile
  dsimp only
  cases asked : download.request link with
  | error fault last =>
      rw [asked] at requested
      exact requested
  | ok length accepted =>
      rw [asked] at requested
      cases created : files.create? path with
      | none => exact requested
      | some opened =>
          have received := (Download.isDialogue_receiveBody length.toNat
            (Download.sinkOf opened.1)).endures accepted
          unfold Action.owning at received
          dsimp only
          cases ran : Download.receiveBody length.toNat (accepted, Download.sinkOf opened.1) with
          | error fault last =>
              rw [ran] at received
              exact requested.trans received
          | ok done last =>
              rw [ran] at received
              dsimp only
              split <;> exact requested.trans received

theorem permits_enduring (world : World) (call : Call) : Permits enduring world call := by
  cases call with
  | upload path =>
      exact ⟨fun index => enduring_ask index .store,
        fun file _ index node => enduring_sendFile index node file⟩
  | download text path offset count =>
      exact fun id _ => ⟨fun index => enduring_ask index (.fetch id),
        fun index => enduring_toFile index ⟨id, offset, count⟩ path⟩
  | storagePool address => trivial
  | destroy => trivial
  | drop id => trivial

theorem along_enduring (world : World) (history : List Event) :
    Along (Permits enduring) world history := by
  induction history generalizing world with
  | nil => trivial
  | cons event rest ih => exact ⟨fun call _ => permits_enduring world call, ih _⟩

theorem robust_isStuck : Robust enduring Switchboard.IsStuck where
  close board id stuck := stuck.setLink (board.link id).endures_close
  dial _ address stuck := stuck.dial address
  use _ _ allowed board id files stuck := stuck.setLink (allowed (board.link id) files)

theorem robust_isPrompt (timeouts : Timeouts) :
    Robust enduring (Switchboard.IsPrompt timeouts) where
  close board id prompt := prompt.setLink (board.link id).endures_close
  dial _ address prompt := prompt.dial address
  use _ _ allowed board id files prompt := prompt.setLink (allowed (board.link id) files)

/-- What waits for ever does so whatever is called after that. -/
theorem isStuck_run {world : World} (stuck : world.board.IsStuck) (history : List Event) :
    (run world history).board.IsStuck :=
  robust_isStuck.run (along_enduring world history) stuck

theorem isPrompt_run {world : World} {timeouts : Timeouts} (prompt : world.board.IsPrompt timeouts)
    (history : List Event) : (run world history).board.IsPrompt timeouts :=
  (robust_isPrompt timeouts).run (along_enduring world history) prompt

theorem isStuck_destroy_iff (world : World) :
    world.destroy.board.IsStuck ↔ world.board.IsStuck := by
  rw [destroy_eq]
  exact Switchboard.isStuck_foldl_close_iff _ _

end World

namespace Shell

def Command.calls : Command → List World.Event
  | upload path => [.call (.upload path)]
  | download id path => [.call (.download id path 0 0)]
  | help | empty | unknown => []

theorem runCommand_snd (command : Command) (world : World) :
    (runCommand command world).2 = world.run command.calls := by
  cases command with
  | upload path =>
      have after : world.run (Command.upload path).calls = Action.after (World.upload path world) :=
        Action.after_bind_pure (World.upload path) World.Reply.stored world
      rw [after, runCommand]
      cases World.upload path world <;> rfl
  | download id path =>
      have after : world.run (Command.download id path).calls =
          Action.after (World.download id path 0 0 world) :=
        Action.after_bind_pure (World.download id path 0 0) (fun _ => World.Reply.done) world
      rw [after, runCommand]
      cases World.download id path 0 0 world <;> rfl
  | help => rfl
  | empty => rfl
  | unknown => rfl

/-- A session is a history of calls. -/
theorem executeAll_eq_run (commands : List (List Bytes)) (world : World) :
    executeAll commands world =
      world.run (commands.flatMap fun words => (Command.ofWords words).calls) := by
  induction commands generalizing world with
  | nil => rfl
  | cons words rest ih =>
      have first : executeAll (words :: rest) world = executeAll rest (execute words world).2 := rfl
      rw [first, ih, execute, runCommand_snd, List.flatMap_cons, World.run, World.run, World.run,
        List.foldl_append]

theorem isStuck_executeAll_append {early : List (List Bytes)} {world : World}
    (stuck : (executeAll early world).board.IsStuck) (late : List (List Bytes)) :
    (executeAll (early ++ late) world).board.IsStuck := by
  rw [executeAll, List.foldl_append]
  change (executeAll late (executeAll early world)).board.IsStuck
  rw [executeAll_eq_run]
  exact World.isStuck_run stuck _

theorem isPrompt_executeAll {world : World} {timeouts : Timeouts}
    (prompt : world.board.IsPrompt timeouts) (commands : List (List Bytes)) :
    (executeAll commands world).board.IsPrompt timeouts := by
  rw [executeAll_eq_run]
  exact World.isPrompt_run prompt _

end Shell

end TrackedStorage
