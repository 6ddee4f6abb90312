import TrackedStorage.Proofs.Dialogues
import Mathlib.Control.Monad.Basic

set_option autoImplicit false

namespace TrackedStorage

namespace Action
variable {σ τ α β : Type}

/-- Once an action has succeeded on a free link, it does the same on every free link that has the
same to answer. -/
def Replays (action : Action Link α) : Prop :=
  ∀ link value last, link.IsFree → action link = .ok value last →
    ∃ sent got, Link.Moved sent got link last ∧ Carries sent got value action

theorem Replays.isFree {action : Action Link α} (replays : Replays action) {link last : Link}
    {value : α} (free : link.IsFree) (done : action link = .ok value last) : last.IsFree := by
  obtain ⟨sent, got, moved, carries⟩ := replays link value last free done
  obtain ⟨other, again, still, -⟩ := carries link last.unread free moved.unread
  have same := again.symm.trans done
  cases same
  exact still

theorem replays_pure (value : α) : Replays (pure value) := by
  intro link _ last free done
  cases done
  exact ⟨[], [], .refl link, carries_pure value⟩

theorem replays_throw (fault : Fault) : Replays (throw fault : Action Link α) := by
  intro link value last free done
  cases done

theorem replays_bind {first : Action Link α} {next : α → Action Link β}
    (earlier : Replays first) (later : ∀ value, Replays (next value)) :
    Replays (first >>= next) := by
  intro link value last free done
  obtain ⟨inner, middle, ran, ended⟩ := bind_eq_ok done
  obtain ⟨sent, got, moved, carries⟩ := earlier link inner middle free ran
  have still := earlier.isFree free ran
  obtain ⟨more, others, crossed, carried⟩ := later inner middle value last still ended
  exact ⟨sent ++ more, got ++ others, moved.trans crossed, carries_bind carries carried⟩

end Action

open TrackedStorage.Action (Carries Replays IsDialogue)

namespace Link

theorem replays_write (data : Bytes) : Replays (write data) := by
  intro link _ last free done
  exact ⟨data, [], write_moved done, carries_write data⟩

theorem replays_read (count : Nat) : Replays (read count) := by
  intro link data last free done
  obtain ⟨sized, moved⟩ := read_moved done
  rw [← sized]
  exact ⟨[], data, moved, carries_read data⟩

end Link

theorem Action.IsDialogue.replays {α : Type} {action : Action Link α}
    (dialogue : IsDialogue action) : Replays action := by
  induction dialogue with
  | done value => exact replays_pure value
  | given fault => exact replays_throw fault
  | sent data => exact Link.replays_write data
  | taken count => exact Link.replays_read count
  | next _ _ earlier later => exact replays_bind earlier later

/-- One use of a link: a query, an upload of what a source holds, or a download into a stream. -/
inductive Exchange where
  | query (query : Query)
  | upload (upload : Upload) (source : Source)
  | download (download : Download) (sink : Sink)
  deriving DecidableEq

namespace Exchange

/-- What an exchange ends in, with what is left of the source or what the stream took. -/
inductive Outcome where
  | named (node : StorageNode)
  | stored (id : FileId) (left : Source)
  | fetched (length : UInt64) (sink : Sink)
  deriving DecidableEq

def run : Exchange → Action Link Outcome
  | query sought => do
      let node ← sought.ask
      pure (.named node)
  | upload file source => do
      let (id, left) ← Action.owning source file.run
      pure (.stored id left)
  | download part sink => do
      let (length, filled) ← Action.owning sink part.toStream
      pure (.fetched length filled)

/-- Runs one exchange after the other. The first fault is the end. -/
def runAll : List Exchange → Action Link (List Outcome)
  | [] => pure []
  | exchange :: rest => do
      let outcome ← exchange.run
      let outcomes ← runAll rest
      pure (outcome :: outcomes)

theorem isDialogue_run (exchange : Exchange) : IsDialogue exchange.run := by
  cases exchange with
  | query sought => exact .next sought.isDialogue_ask fun _ => .done _
  | upload file source => exact .next (file.isDialogue_run source) fun _ => .done _
  | download part sink => exact .next (part.isDialogue_toStream sink) fun _ => .done _

/-- An exchange over a link of its own: what it is answered, what it ends in and what it sends. -/
structure Solo where
  exchange : Exchange
  response : Bytes
  outcome : Outcome
  request : Bytes

/-- Whether an exchange succeeds on a fresh link and leaves nothing of the response behind. -/
def Solo.Succeeds (solo : Solo) : Prop :=
  ∃ link : Link, link.IsFree ∧ link.written = [] ∧ link.taken = [] ∧ link.unread = solo.response ∧
    Action.result (solo.exchange.run link) = .ok solo.outcome ∧
    (Action.after (solo.exchange.run link)).written = solo.request ∧
    (Action.after (solo.exchange.run link)).unread = []

theorem Solo.Succeeds.carries {solo : Solo} (alone : solo.Succeeds) :
    Carries solo.request solo.response solo.outcome solo.exchange.run := by
  obtain ⟨link, free, unwritten, -, left, result, written, unread⟩ := alone
  cases ran : solo.exchange.run link with
  | error fault last =>
      rw [ran] at result
      cases result
  | ok outcome last =>
      rw [ran] at result written unread
      cases result
      obtain ⟨sent, got, moved, carries⟩ := solo.exchange.isDialogue_run.replays link _ last free ran
      have request : solo.request = sent := by
        rw [← written, Action.after, moved.written, unwritten, List.nil_append]
      have response : solo.response = got := by
        have nothing : last.unread = [] := unread
        rw [← left, moved.unread, nothing, List.append_nil]
      rw [request, response]
      exact carries

theorem carries_runAll {solos : List Solo} (alone : ∀ solo ∈ solos, solo.Succeeds) :
    Carries (solos.flatMap Solo.request) (solos.flatMap Solo.response) (solos.map Solo.outcome)
      (runAll (solos.map Solo.exchange)) := by
  induction solos with
  | nil => exact Action.carries_pure []
  | cons solo rest ih =>
      have first := (alone solo List.mem_cons_self).carries
      have later := ih fun other isIn => alone other (List.mem_cons_of_mem solo isIn)
      exact Action.carries_bind first (later.finish (Action.carries_pure _))

/-- Exchanges that each succeed on a fresh link, with nothing of the response left, all succeed one
after the other over a single link that is to answer all their responses: with the same outcomes,
the same requests in a row, and with what the link would answer after them untouched. -/
theorem runAll_eq_solos {solos : List Solo} (alone : ∀ solo ∈ solos, solo.Succeeds) {link : Link}
    (free : link.IsFree) {rest : Bytes} (left : link.unread = solos.flatMap Solo.response ++ rest) :
    Action.result (runAll (solos.map Solo.exchange) link) = .ok (solos.map Solo.outcome) ∧
      (Action.after (runAll (solos.map Solo.exchange) link)).written =
        link.written ++ solos.flatMap Solo.request ∧
      (Action.after (runAll (solos.map Solo.exchange) link)).unread = rest := by
  obtain ⟨last, ran, -, moved, -⟩ := carries_runAll alone link rest free left
  rw [ran]
  refine ⟨rfl, moved.written, ?_⟩
  have parts := moved.unread
  rw [left] at parts
  exact (List.append_cancel_left parts).symm

theorem runAll_eq_solos_of_three :
    let named := Header.encode ⟨40, Command.answer, 0⟩ ++ Field.padded [103] 16 ++
      Field.padded [115] 15 ++ BigEndian.encode 7 ++ [0]
    let assigned := Header.encode ⟨17, Command.answer, 0⟩ ++ Field.padded [103] 16 ++ [102]
    let sent := Header.encode ⟨2, Command.answer, 0⟩ ++ [7, 8]
    let id : FileId := ⟨[103], [102]⟩
    let upload : Upload := ⟨0, 1, []⟩
    let part : Download := ⟨id, 0, 0⟩
    let solos : List Solo :=
      [⟨.query .store, named, .named ⟨[103], ⟨[115], 7⟩, 0⟩,
          Header.encode ⟨0, Command.queryStore, 0⟩⟩,
        ⟨.upload upload (.ofContent [9, 9]), assigned, .stored id ⟨[9], false⟩,
          Header.encode ⟨16, Command.upload, 0⟩ ++ upload.metaBytes ++ [9]⟩,
        ⟨.download part (.stream none [1]), sent, .fetched 2 (.stream none [1, 7, 8]),
          Header.encode ⟨33, Command.download, 0⟩ ++ part.body⟩]
    let link := Link.inMemory [] (solos.flatMap Solo.response ++ [5]) none true
    (∀ solo ∈ solos, solo.Succeeds) ∧
      Action.result (runAll (solos.map Solo.exchange) link) = .ok (solos.map Solo.outcome) ∧
      (Action.after (runAll (solos.map Solo.exchange) link)).written =
        solos.flatMap Solo.request ∧
      (Action.after (runAll (solos.map Solo.exchange) link)).unread = [5] := by
  intro named assigned sent id upload part solos link
  have alone : ∀ solo ∈ solos, solo.Succeeds := by
    have each : ∀ solo ∈ solos,
        let link := Link.inMemory [] solo.response none true
        Action.result (solo.exchange.run link) = .ok solo.outcome ∧
          (Action.after (solo.exchange.run link)).written = solo.request ∧
          (Action.after (solo.exchange.run link)).unread = [] := by decide +kernel
    intro solo isIn
    exact ⟨Link.inMemory [] solo.response none true, ⟨rfl, rfl⟩, rfl, rfl, rfl, each solo isIn⟩
  exact ⟨alone, runAll_eq_solos alone ⟨rfl, rfl⟩ rfl⟩

end Exchange

end TrackedStorage
