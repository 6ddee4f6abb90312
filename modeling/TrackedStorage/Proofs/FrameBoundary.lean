import TrackedStorage.Proofs.ClientShortage
import TrackedStorage.Proofs.Exchanges

set_option autoImplicit false

namespace TrackedStorage

namespace Link

/-- All that was written are requests, all that was taken are answers, one for each of them. -/
def AtBoundary (commands : List UInt8) (link : Link) : Prop :=
  ∃ requests answers : List Frame, requests.length = answers.length ∧
    (∀ request ∈ requests, request.IsRequest commands) ∧
    (∀ answer ∈ answers, answer.IsAnswer) ∧
    link.written = requests.flatMap Frame.encode ∧ link.taken = answers.flatMap Frame.encode

variable {commands : List UInt8}

theorem atBoundary_of_untouched {link : Link} (unwritten : link.written = [])
    (untaken : link.taken = []) : AtBoundary commands link := by
  refine ⟨[], [], rfl, ?_, ?_, unwritten, untaken⟩
  · intro request isIn
    cases isIn
  · intro answer isIn
    cases isIn

theorem AtBoundary.moved {before after : Link} (boundary : AtBoundary commands before)
    {request answer : Frame} (isRequest : request.IsRequest commands) (isAnswer : answer.IsAnswer)
    (moved : Moved request.encode answer.encode before after) : AtBoundary commands after := by
  obtain ⟨requests, answers, same, good, served, written, taken⟩ := boundary
  refine ⟨requests ++ [request], answers ++ [answer], ?_, ?_, ?_, ?_, ?_⟩
  · rw [List.length_append, List.length_append, same, List.length_singleton, List.length_singleton]
  · intro other isIn
    rcases List.mem_append.mp isIn with earlier | last
    · exact good other earlier
    · rwa [List.mem_singleton.mp last]
  · intro other isIn
    rcases List.mem_append.mp isIn with earlier | last
    · exact served other earlier
    · rwa [List.mem_singleton.mp last]
  · rw [moved.written, written, List.flatMap_append, List.flatMap_singleton]
  · rw [moved.taken, taken, List.flatMap_append, List.flatMap_singleton]

theorem AtBoundary.close {link : Link} (boundary : AtBoundary commands link) :
    AtBoundary commands link.close := boundary

end Link

/-- The commands that are sent over the links of a pool. -/
def Client.PoolRef.commands : PoolRef → List UInt8
  | .tracker _ => [Command.queryStore, Command.queryFetch]
  | .storage _ => [Command.upload, Command.download]

namespace World

/-- Exchanges of one request of a pool and one answer. -/
def framing : Permission where
  destruction := True
  exchange ref _ exchange := ∀ link files value after kept,
    exchange (link, files) = .ok value (after, kept) →
      ∃ request answer : Frame, request.IsRequest ref.commands ∧ answer.IsAnswer ∧
        Link.Moved request.encode answer.encode link after

/-- Calls whose requests are short enough for their lengths to be declared. -/
def Modest (world : World) : Call → Prop
  | .upload path => ∀ file, world.client.accessor.stage world.files path = .ok file →
      file.size.toNat < 2 ^ 64 - 15
  | .download text _ _ _ => text.length < 2 ^ 63
  | .storagePool _ => True
  | .destroy => True
  | .drop _ => True

theorem framing_ask (index : Nat) {query : Query} (fits : query.body.length < 2 ^ 64)
    (isCommand : query.command = Command.queryStore ∨ query.command = Command.queryFetch) :
    framing.exchange (.tracker index) (Action.onFirst query.ask) := by
  intro link files node after kept done
  obtain ⟨moved, asked, same⟩ := Action.on_eq_ok done
  cases same
  obtain ⟨answer, isAnswer, -, crossed⟩ := Query.ask_moved fits asked
  refine ⟨Frame.request query.command query.body fits, answer, ⟨?_, rfl⟩, isAnswer, crossed⟩
  rcases isCommand with store | fetch
  · exact List.mem_cons.mpr (.inl store)
  · exact List.mem_cons_of_mem _ (List.mem_singleton.mpr fetch)

theorem framing_sendFile (index : Nat) (node : StorageNode) {file : StagedFile}
    (small : file.size.toNat < 2 ^ 64 - 15) :
    framing.exchange (.storage index) (Action.onFirst (sendFile node file)) := by
  intro link files id after kept done
  obtain ⟨moved, sent, same⟩ := Action.on_eq_ok done
  cases same
  unfold sendFile at sent
  dsimp only at sent
  split at sent
  · rename_i ran
    cases sent
    have fits : file.size.toNat + Upload.metaLength < 2 ^ 64 := by
      simp only [Upload.metaLength, Upload.extensionWidth, BigEndian.width]
      omega
    obtain ⟨content, -, fitting, answer, isAnswer, -, crossed⟩ := Upload.run_moved fits ran
    exact ⟨_, answer, ⟨List.mem_cons_self, rfl⟩, isAnswer, crossed⟩
  · cases sent

theorem framing_toFile (index : Nat) {download : Download}
    (fits : download.body.length < 2 ^ 64) (path : Bytes) :
    framing.exchange (.storage index) (download.toFile path) := by
  intro link files length after kept done
  obtain ⟨answer, isAnswer, -, crossed⟩ := Download.toFile_moved fits done
  exact ⟨Frame.request Command.download download.body fits, answer,
    ⟨List.mem_cons_of_mem _ List.mem_cons_self, rfl⟩, isAnswer, crossed⟩

theorem permits_of_modest {world : World} {call : Call} (modest : Modest world call) :
    Permits framing world call := by
  cases call with
  | upload path =>
      refine ⟨fun index => framing_ask index (by decide) (.inl rfl), ?_⟩
      intro file staged index node
      exact framing_sendFile index node (modest file staged)
  | download text path offset count =>
      intro id parsed
      have short := Nat.lt_trans (FileId.length_lt_of_parse parsed) modest
      have asked := Query.length_fetch_lt short
      have stored : (Download.mk id offset count).body.length < 2 ^ 64 :=
        Download.length_body_lt short
      exact ⟨fun index => framing_ask index asked (.inr rfl),
        fun index => framing_toFile index stored path⟩
  | storagePool address => trivial
  | destroy => trivial
  | drop id => trivial

/-- Every idle link is between two frames of its pool. -/
def Framed (world : World) : Prop :=
  ∀ ref, ∀ id ∈ (world.client.pool ref).idle, (world.board.link id).AtBoundary ref.commands

theorem framed_setDesk {world : World} (framed : Framed world) {ref : Client.PoolRef}
    {pool : Pool} {board : Switchboard} (has : world.client.Has ref)
    (mine : ∀ id ∈ pool.idle, (board.link id).AtBoundary ref.commands)
    (kept : ∀ other ≠ ref, ∀ id ∈ (world.client.pool other).idle,
      board.link id = world.board.link id) : Framed (world.setDesk ref (pool, board)) := by
  refine forall_pool_setDesk
    (fun ref pool => ∀ id ∈ pool.idle, (board.link id).AtBoundary ref.commands) has mine ?_
  intro other differs id isIdle
  rw [kept other differs id isIdle]
  exact framed other id isIdle

/-- A link is lent between two frames. -/
theorem Loan.atBoundary {ref : Client.PoolRef} {id : LinkId} {world lent : World}
    (loan : Loan ref id world lent) (tidy : Tidy world) (framed : Framed world) :
    (lent.board.link id).AtBoundary ref.commands := by
  rcases loan.origin with isIdle | ⟨-, unwritten, untaken⟩
  · rw [loan.kept id (tidy.numbered ref id isIdle)]
    exact framed ref id isIdle
  · exact Link.atBoundary_of_untouched unwritten untaken

theorem Loan.framed_settle {ref : Client.PoolRef} {id : LinkId} {world lent : World}
    (loan : Loan ref id world lent) (tidy : Tidy world) (framed : Framed world) {link : Link}
    (boundary : link.isOpen = true → link.AtBoundary ref.commands) (files : FileTree) :
    Framed (settle ref id link files lent) := by
  have elsewhere : Framed { world with files := files } := framed
  rw [loan.settle_eq]
  refine framed_setDesk elsewhere (Client.has_of_running loan.running) ?_ ?_
  · intro other isIdle
    cases opened : link.isOpen with
    | false =>
        rw [opened] at isIdle
        cases isIdle
    | true =>
        rw [opened] at isIdle
        rw [List.mem_singleton.mp isIdle, Switchboard.link_setLink_self loan.isThere]
        exact boundary opened
  · intro other differs one isIdle
    have isOther : one ≠ id := by
      rintro rfl
      exact differs (loan.mine other isIdle)
    rw [Switchboard.link_setLink_of_ne _ isOther]
    exact loan.kept one (tidy.numbered other one isIdle)

theorem framed_step {trials : List Trial} {world after : World}
    (step : Step framing trials world after) (tidy : Tidy world) (framed : Framed world) :
    Framed after := by
  cases step with
  | counted => exact framed
  | surrounded => exact framed
  | opened _ address pool absent created =>
      intro ref id isIdle
      exact framed ref id (mem_idle_of_addStorage created isIdle)
  | refused ref fault taken =>
      have refusal := tidy.refusal taken
      cases refusal with
      | destroyed => exact framed
      | failed outcome address reason board running shut dialed unmade =>
          have dial := Switchboard.Dialed.of_dial dialed
          refine framed_setDesk framed (Client.has_of_running running) ?_ ?_
          · intro id isIdle
            cases isIdle
          · intro other _ id isIdle
            exact dial.link_of_lt (tidy.numbered other id isIdle)
  | served ref id exchange value taken allowed done =>
      have loan := tidy.loan taken
      obtain ⟨link, files, ran, same⟩ := loan.served_eq done
      obtain ⟨request, answer, isRequest, isAnswer, moved⟩ := allowed _ _ _ _ _ ran
      rw [same]
      refine loan.framed_settle tidy framed ?_ files
      intro _
      exact (loan.atBoundary tidy framed).moved isRequest isAnswer moved
  | failed ref id exchange fault taken allowed done =>
      have loan := tidy.loan taken
      obtain ⟨link, files, -, same⟩ := loan.failed_eq done
      rw [same]
      refine loan.framed_settle tidy framed ?_ files
      intro isOpen
      cases isOpen
  | destroyed =>
      intro ref id isIdle
      rw [idle_destroy tidy] at isIdle
      cases isIdle
  | dropped _ id =>
      intro ref other isIdle
      have boundary := framed ref other isIdle
      by_cases same : other = id
      · subst same
        change ((world.board.close other).link other).AtBoundary ref.commands
        rw [Switchboard.link_close_self]
        exact boundary.close
      · change ((world.board.close id).link other).AtBoundary ref.commands
        rw [Switchboard.link_close_of_ne _ same]
        exact boundary

/-- A link that is out of use for good. -/
structure Spent (id : LinkId) (link : Link) (world : World) : Prop where
  isThere : id < world.board.links.length
  same : world.board.link id = link
  closed : link.isOpen = false
  unlent : ∀ ref, id ∉ (world.client.pool ref).idle

section
variable {permitted : Permission} {id : LinkId} {link : Link} {world : World}

theorem Spent.isOpen (spent : Spent id link world) : world.board.isOpen id = false := by
  rw [Switchboard.isOpen, spent.same, spent.closed]

theorem spent_setDesk (spent : Spent id link world) {ref : Client.PoolRef} {pool : Pool}
    {board : Switchboard} (has : world.client.Has ref)
    (grown : world.board.links.length ≤ board.links.length)
    (kept : board.link id = world.board.link id) (unlent : id ∉ pool.idle) :
    Spent id link (world.setDesk ref (pool, board)) := by
  refine ⟨Nat.lt_of_lt_of_le spent.isThere grown, kept.trans spent.same, spent.closed, ?_⟩
  exact forall_pool_setDesk (fun _ pool => id ∉ pool.idle) has unlent
    fun other _ => spent.unlent other

/-- A spent link is not lent. -/
theorem Loan.ne_of_spent {ref : Client.PoolRef} {other : LinkId} {lent : World}
    (loan : Loan ref other world lent) (spent : Spent id link world) : other ≠ id := by
  rintro rfl
  rcases loan.origin with isIdle | ⟨fresh, -⟩
  · exact spent.unlent ref isIdle
  · exact Nat.not_lt.mpr fresh spent.isThere

theorem Loan.spent_settle {ref : Client.PoolRef} {other : LinkId} {lent : World}
    (loan : Loan ref other world lent) (spent : Spent id link world) (used : Link)
    (files : FileTree) : Spent id link (settle ref other used files lent) := by
  have differs := loan.ne_of_spent spent
  have elsewhere : Spent id link { world with files := files } :=
    ⟨spent.isThere, spent.same, spent.closed, spent.unlent⟩
  rw [loan.settle_eq]
  refine spent_setDesk elsewhere (Client.has_of_running loan.running) ?_ ?_ ?_
  · rw [Switchboard.length_setLink]
    exact loan.grown
  · rw [Switchboard.link_setLink_of_ne _ differs.symm]
    exact loan.kept id spent.isThere
  · intro isIdle
    split at isIdle
    · exact differs (List.mem_singleton.mp isIdle).symm
    · cases isIdle

/-- A link that is closed when its loan ends is spent. -/
theorem Loan.spent_of_closed {ref : Client.PoolRef} {lent : World} (loan : Loan ref id world lent)
    (closed : link.isOpen = false) (files : FileTree) :
    Spent id link (settle ref id link files lent) := by
  rw [loan.settle_eq, closed]
  refine ⟨?_, Switchboard.link_setLink_self loan.isThere link, closed, ?_⟩
  · change id < (lent.board.setLink id link).links.length
    rw [Switchboard.length_setLink]
    exact loan.isThere
  · refine forall_pool_setDesk (fun _ pool => id ∉ pool.idle)
      (Client.has_of_running loan.running) List.not_mem_nil ?_
    intro other differs isIdle
    exact differs (loan.mine other isIdle)

theorem spent_step {trials : List Trial} {after : World}
    (step : Step permitted trials world after) (tidy : Tidy world)
    (spent : Spent id link world) :
    Spent id link after ∧ ∀ trial ∈ trials, trial.link ≠ id := by
  have none (trial : Trial) (isIn : trial ∈ []) : trial.link ≠ id := by cases isIn
  cases step with
  | counted => exact ⟨⟨spent.isThere, spent.same, spent.closed, spent.unlent⟩, none⟩
  | surrounded => exact ⟨⟨spent.isThere, spent.same, spent.closed, spent.unlent⟩, none⟩
  | opened _ address pool absent created =>
      refine ⟨⟨spent.isThere, spent.same, spent.closed, ?_⟩, none⟩
      intro ref isIdle
      exact spent.unlent ref (mem_idle_of_addStorage created isIdle)
  | refused ref fault taken =>
      refine ⟨?_, none⟩
      have refusal := tidy.refusal taken
      cases refusal with
      | destroyed => exact spent
      | failed outcome address reason board running shut dialed unmade =>
          have dial := Switchboard.Dialed.of_dial dialed
          exact spent_setDesk spent (Client.has_of_running running) dial.length_le
            (dial.link_of_lt spent.isThere) List.not_mem_nil
  | served ref other exchange value taken allowed done =>
      have loan := tidy.loan taken
      obtain ⟨used, files, -, same⟩ := loan.served_eq done
      rw [same]
      refine ⟨loan.spent_settle spent used files, ?_⟩
      intro trial isIn
      rw [List.mem_singleton.mp isIn]
      exact loan.ne_of_spent spent
  | failed ref other exchange fault taken allowed done =>
      have loan := tidy.loan taken
      obtain ⟨used, files, -, same⟩ := loan.failed_eq done
      rw [same]
      refine ⟨loan.spent_settle spent used.close files, ?_⟩
      intro trial isIn
      rw [List.mem_singleton.mp isIn]
      exact loan.ne_of_spent spent
  | destroyed =>
      refine ⟨⟨?_, ?_, spent.closed, ?_⟩, none⟩
      · rw [destroy_eq, Switchboard.length_foldl_close]
        exact spent.isThere
      · rw [destroy_eq, Switchboard.link_foldl_close_of_closed spent.isOpen, spent.same]
      · intro ref isIdle
        rw [idle_destroy tidy] at isIdle
        cases isIdle
  | dropped _ other =>
      refine ⟨⟨?_, ?_, spent.closed, spent.unlent⟩, none⟩
      · rw [Switchboard.length_close]
        exact spent.isThere
      · rw [Switchboard.link_close_of_closed spent.isOpen, spent.same]

theorem spent_steps {trials : List Trial} {after : World}
    (steps : Steps permitted trials world after) (tidy : Tidy world)
    (spent : Spent id link world) :
    Spent id link after ∧ ∀ trial ∈ trials, trial.link ≠ id := by
  induction steps with
  | none =>
      refine ⟨spent, ?_⟩
      intro trial isIn
      cases isIn
  | next step _ ih =>
      obtain ⟨still, early⟩ := spent_step step tidy spent
      obtain ⟨last, late⟩ := ih (tidy_step step tidy) still
      refine ⟨last, ?_⟩
      intro trial isIn
      rcases List.mem_append.mp isIn with first | later
      · exact early trial first
      · exact late trial later

/-- The link of an exchange that ended in a fault is spent from then on. -/
theorem spent_of_failed {trials : List Trial} {after : World}
    (steps : Steps permitted trials world after) (tidy : Tidy world) {trial : Trial}
    (isIn : trial ∈ trials) (failed : trial.isOk = false) :
    Spent trial.link (after.board.link trial.link) after := by
  induction steps with
  | none => cases isIn
  | @next _ _ _ middle last step later ih =>
      -- Spent in the step that failed, the link stays so in all later steps.
      have still := tidy_step step tidy
      rcases List.mem_append.mp isIn with first | rest
      · cases step with
        | served ref other exchange value taken allowed done =>
            rw [List.mem_singleton.mp first] at failed
            cases failed
        | failed ref other exchange fault taken allowed done =>
            have loan := tidy.loan taken
            obtain ⟨used, files, -, same⟩ := loan.failed_eq done
            have closed : used.close.isOpen = false := rfl
            have spent := loan.spent_of_closed closed files
            rw [← same] at spent
            have kept := (spent_steps later still spent).1
            rw [List.mem_singleton.mp first]
            change Spent other (last.board.link other) last
            rw [kept.same]
            exact kept
        | _ => cases first
      · exact ih still rest

theorem any_steps (world : World) (call : Call) :
    Steps (anyExchange True) (trials call world) world (world.happen (.call call)) :=
  call_steps (permits_anyExchange (fun _ => trivial) world)

theorem spent_run (spent : Spent id link world) (tidy : Tidy world) (history : List Event) :
    Spent id link (run world history) ∧ Tidy (run world history) := by
  refine @run_preserve (anyExchange True) (fun world => Spent id link world ∧ Tidy world)
    world history (along_anyExchange (fun _ => trivial) world) ⟨spent, tidy⟩ ?_
  intro _ _ _ step both
  exact ⟨(spent_step step both.2 both.1).1, tidy_step step both.2⟩

end

theorem framed_run {settings : Settings} {dialer : Dialer} {accessor : Option Accessor}
    {files : FileTree} {start : World}
    (created : create settings dialer accessor files = .ok start) {history : List Event}
    (modest : Along Modest start history) : Framed (run start history) := by
  have permits := modest.imp fun _ _ => permits_of_modest
  have new : Framed start := by
    intro ref id isIdle
    rcases (create_eq created).2 ref with ⟨-, none⟩ | ⟨address, new⟩
    · rw [none] at isIdle
      cases isIdle
    · rw [(Pool.create_eq new).1] at isIdle
      cases isIdle
  refine (@run_preserve framing (fun world => Tidy world ∧ Framed world) start history permits
    ⟨tidy_create created, new⟩ ?_).2
  intro _ _ _ step both
  exact ⟨tidy_step step both.1, framed_step step both.1 both.2⟩

/-- After every call the idle links have carried whole requests and as many whole answers. The link
of an exchange that ended in a fault is closed, and no later call touches or lends it. -/
theorem idle_links_at_boundary {settings : Settings} {dialer : Dialer}
    {accessor : Option Accessor} {files : FileTree} {start : World}
    (created : create settings dialer accessor files = .ok start) (history : List Event)
    (modest : Along Modest start history) :
    let world := run start history
    (∀ ref, ∀ id ∈ (world.client.pool ref).idle,
      (world.board.link id).AtBoundary ref.commands) ∧
    ∀ before call after, history = before ++ .call call :: after →
      ∀ trial ∈ trials call (run start before), trial.isOk = false →
        world.board.isOpen trial.link = false ∧
        world.board.link trial.link =
          ((run start before).happen (.call call)).board.link trial.link ∧
        (∀ ref, trial.link ∉ (world.client.pool ref).idle) ∧
        ∀ middle later rest, after = middle ++ .call later :: rest →
          ∀ other ∈ trials later (run start (before ++ .call call :: middle)),
            other.link ≠ trial.link := by
  intro world
  refine ⟨framed_run created modest, ?_⟩
  rintro before call after rfl trial isIn failed
  have tidy := tidy_run created before
  have steps := any_steps (run start before) call
  have still : Tidy ((run start before).happen (.call call)) := steps.preserve tidy tidy_step
  have spent := spent_of_failed steps tidy isIn failed
  have split (rest : List Event) : run start (before ++ .call call :: rest) =
      run ((run start before).happen (.call call)) rest := by
    rw [run, List.foldl_append]
    rfl
  have last := (spent_run spent still after).1
  rw [← split] at last
  refine ⟨last.isOpen, last.same, last.unlent, ?_⟩
  rintro middle later rest rfl other isOther
  rw [split] at isOther
  have meanwhile := spent_run spent still middle
  exact (spent_steps (any_steps _ later) meanwhile.2 meanwhile.1).2 other isOther

theorem idle_links_at_boundary_after_failed_uploads :
    let settings : Settings := ⟨[Bytes.ofText "t:1"], 1, 5, 30, [], []⟩
    let answer : Bytes := Header.encode ⟨40, Command.answer, 0⟩ ++ Field.padded [103] 16 ++
      Field.padded [115] 15 ++ BigEndian.encode 7 ++ [0]
    let dialer : Dialer := .script
      ⟨[], [.link (answer ++ answer) none true, .link [] (some 0) true, .link [] (some 0) true]⟩
    let accessor : Accessor := .catalogue [([120], ⟨1, [], .ofContent [7]⟩)]
    let start : World := ⟨⟨[⟨Bytes.ofText "t:1", 1, [], 0, false⟩], [], 1, accessor⟩,
      .ofDialer dialer, .blank, 0, 0, 0⟩
    let call : Call := .upload [120]
    let world := run start [.call call, .call call]
    create settings dialer (some accessor) .blank = .ok start ∧
      Along Modest start [.call call, .call call] ∧
      (world.board.link 0).AtBoundary [Command.queryStore, Command.queryFetch] ∧
      world.board.isOpen 1 = false ∧
      ∀ other ∈ trials call (run start [.call call]), other.link ≠ 1 := by
  intro settings answer dialer accessor start call world
  have created : create settings dialer (some accessor) .blank = .ok start := by decide +kernel
  have small (file : StagedFile)
      (staged : Except.ok ⟨1, [], .ofContent [7]⟩ = (.ok file : Except Fault StagedFile)) :
      file.size.toNat < 2 ^ 64 - 15 := by
    cases staged
    decide
  have modest : Along Modest start [.call call, .call call] := by
    have first : Modest start call := fun file staged => small file staged
    have second : Modest (start.happen (.call call)) call := by
      have staged : (start.happen (.call call)).client.accessor.stage
          (start.happen (.call call)).files [120] = .ok ⟨1, [], .ofContent [7]⟩ := by decide +kernel
      intro file found
      exact small file (staged.symm.trans found)
    refine ⟨?_, ?_, trivial⟩
    · rintro _ ⟨⟩
      exact first
    · rintro _ ⟨⟩
      exact second
  obtain ⟨framed, failing⟩ := idle_links_at_boundary created [.call call, .call call] modest
  have idle : 0 ∈ (world.client.pool (.tracker 0)).idle := by decide +kernel
  have failed : ⟨.storage 0, 1, false⟩ ∈ trials call start := by decide +kernel
  obtain ⟨closed, -, -, avoided⟩ := failing [] call [.call call] rfl _ failed rfl
  exact ⟨created, modest, framed (.tracker 0) 0 idle, closed, avoided [] call [] rfl⟩

end World

end TrackedStorage
