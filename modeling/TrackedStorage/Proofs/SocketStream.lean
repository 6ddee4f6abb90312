import Mathlib.Data.List.Basic
import TrackedStorage.Socket
import TrackedStorage.Proofs.Chunks

set_option autoImplicit false

namespace TrackedStorage

namespace Link

variable {link : Link} {way : Direction}

theorem fall_of_timedOut {other : Direction} {address : Bytes}
    (ended : (link.fall way).1 = .timedOut other address) : (link.fall way).2 = link.close := by
  unfold fall at ended ⊢
  split
  · rename_i inMemory
    simp only [inMemory] at ended
    cases ended
  · rename_i wire wired
    simp only [wired] at ended
    split
    · rename_i reason fails
      simp only [fails] at ended
      cases ended
    · rfl
    · rename_i endless
      simp only [endless] at ended
      cases ended

theorem isOpen_fall_of_timedOut {α : Type} {before : Link} {other : Direction} {address : Bytes}
    (same : (link.fall way).1 = (before.fall way).1)
    (ended : (.error (.transfer (before.fall way).1) : Except Fault α) =
      .error (.transfer (.timedOut other address))) : (link.fall way).2.isOpen = false := by
  have cause := same.trans (Fault.transfer.inj (Except.error.inj ended))
  rw [fall_of_timedOut cause]
  rfl

theorem read_of_filled (opened : link.isOpen = true) {count : Nat}
    (there : count ≤ link.unread.length) :
    read count link = .ok (link.unread.take count) { link with
      taken := link.taken ++ link.unread.take count
      unread := link.unread.drop count
      medium := link.medium.begin } := by
  simp [read, opened, there]

end Link

namespace Socket

inductive Use where
  | write (data : Bytes)
  | read (count : Nat)
  | close
  deriving DecidableEq

namespace Use

def call : Use → Call
  | write data => .write data
  | read count => .read count
  | close => .close

def onLink : Use → Action Link (Option Bytes)
  | write data => do
      Link.write data
      pure none
  | read count => do
      let data ← Link.read count
      pure (some data)
  | close => fun link => .ok none link.close

def handed : Use → Bytes
  | write data => data
  | read _ => []
  | close => []

/-- Whether the remote side falls silent in a use of a link, which has this timeout. -/
def MeetsSilence (link : Link) (timeout : Nat) : Use → Prop
  | write data => link.isOpen = true ∧ ¬ link.HasRoom data.length ∧
      link.medium.silence? .write = some timeout
  | read count => link.isOpen = true ∧ link.unread.length < count ∧
      link.medium.silence? .read = some timeout
  | close => False

end Use

/-- Uses of a socket, each with what it answered. -/
abbrev Log := List (Use × Except Fault (Option Bytes))

namespace Log

/-- What was read, by the reads that succeeded. -/
def received (log : Log) : Bytes :=
  log.flatMap fun entry => match entry.2 with
    | .ok (some data) => data
    | _ => []

/-- What was to be written. -/
def handed (log : Log) : Bytes := log.flatMap fun entry => entry.1.handed

/-- Whether no write failed. -/
def Wrote (log : Log) : Prop := ∀ data fault, (.write data, .error fault) ∉ log

end Log

def run (socket : Socket) (uses : List Use) : Socket :=
  uses.foldl (fun socket use => Action.after (Socket.call use.call socket)) socket

def log (socket : Socket) : List Use → Log
  | [] => []
  | use :: rest =>
      (use, Action.result (Socket.call use.call socket)) ::
        log (Action.after (Socket.call use.call socket)) rest

/-- What uses of a link make of it. What was read is the front of what there was to read. If no
write failed, all that was to be written arrived. A closed link stays as it is, and nothing gets
through. -/
structure Streams (log : Log) (before after : Link) : Prop where
  received : log.received ++ after.unread <+: before.unread
  written : log.Wrote → after.written = before.written ++ log.handed
  closed : before.isOpen = false → after = before
  failed : before.isOpen = false → ∀ entry ∈ log, entry.1 ≠ .close →
    ∃ way, entry.2 = .error (before.closedFault way)
  silence : ∀ way, after.medium.silence? way = before.medium.silence? way

namespace Streams

theorem refl (link : Link) : Streams [] link link where
  received := List.prefix_rfl
  written _ := (List.append_nil _).symm
  closed _ := rfl
  failed _ _ isIn := absurd isIn List.not_mem_nil
  silence _ := rfl

theorem trans {early late : Log} {before middle after : Link}
    (earlier : Streams early before middle) (later : Streams late middle after) :
    Streams (early ++ late) before after where
  received := by
    rw [Log.received, List.flatMap_append, List.append_assoc]
    exact ((List.prefix_append_right_inj _).mpr later.received).trans earlier.received
  written wrote := by
    have first : early.Wrote := fun data fault isIn =>
      wrote data fault (List.mem_append_left late isIn)
    have second : late.Wrote := fun data fault isIn =>
      wrote data fault (List.mem_append_right early isIn)
    rw [later.written second, earlier.written first, Log.handed, Log.handed, Log.handed,
      List.flatMap_append, List.append_assoc]
  closed shut := by
    have same := earlier.closed shut
    rw [later.closed (by rw [same, shut]), same]
  failed shut entry isIn := by
    rcases List.mem_append.mp isIn with first | second
    · exact earlier.failed shut entry first
    · rw [← earlier.closed shut]
      exact later.failed (by rw [earlier.closed shut, shut]) entry second
  silence way := (later.silence way).trans (earlier.silence way)

/-- Over an open link it makes no difference how the last transfer failed. -/
theorem fall {log : Log} {before after : Link} (streams : Streams log before after)
    (opened : before.isOpen = true) (way : Direction) : Streams log before (after.fall way).2 := by
  have unshut {prop : Prop} (shut : before.isOpen = false) : prop := by
    cases opened.symm.trans shut
  rcases after.fall_snd way with same | same | ⟨same, -⟩
  · rw [same]
    exact streams
  · rw [same]
    exact ⟨streams.received, streams.written, unshut, streams.failed, streams.silence⟩
  · rw [same]
    exact ⟨streams.received, streams.written, unshut, streams.failed,
      fun other => (after.silence?_stick other).trans (streams.silence other)⟩

end Streams

/-- One use of a closed link. -/
theorem Use.streams_of_closed {link : Link} (shut : link.isOpen = false) (use : Use) :
    Streams [(use, Action.result (use.onLink link))] link (Action.after (use.onLink link)) := by
  have silent : link.written = link.written ++ [] := (List.append_nil _).symm
  cases use with
  | write data =>
      rw [onLink, Action.bind_of_error (Link.write_of_closed shut data)]
      refine ⟨List.prefix_rfl, fun wrote => ?_, fun _ => rfl, fun _ entry isIn _ => ?_,
        fun _ => rfl⟩
      · exact absurd (List.mem_singleton.mpr rfl) (wrote data _)
      · exact ⟨.write, by rw [List.mem_singleton.mp isIn, Action.result]⟩
  | read count =>
      rw [onLink, Action.bind_of_error (Link.read_of_closed shut count)]
      refine ⟨List.prefix_rfl, fun _ => silent, fun _ => rfl, fun _ entry isIn _ => ?_,
        fun _ => rfl⟩
      exact ⟨.read, by rw [List.mem_singleton.mp isIn, Action.result]⟩
  | close =>
      refine ⟨List.prefix_rfl, fun _ => silent, fun _ => Link.close_of_closed shut,
        fun _ entry isIn other => ?_, fun _ => rfl⟩
      exact absurd (by rw [List.mem_singleton.mp isIn]) other

/-- One use of an open link. -/
theorem Use.streams_of_open {link : Link} (opened : link.isOpen = true) (use : Use) :
    Streams [(use, Action.result (use.onLink link))] link (Action.after (use.onLink link)) := by
  have unshut {prop : Prop} (shut : link.isOpen = false) : prop := by
    cases opened.symm.trans shut
  have silent : link.written = link.written ++ [] := (List.append_nil _).symm
  cases use with
  | write data =>
      by_cases fits : link.HasRoom data.length
      · rw [onLink, Action.bind_of_ok (Link.write_of_hasRoom opened fits)]
        have all : link.written ++ data = link.written ++ (data ++ []) := by rw [List.append_nil]
        exact ⟨List.prefix_rfl, fun _ => all, unshut, unshut, link.medium.silence?_begin⟩
      · rw [onLink, Action.bind_of_error (Link.write_of_full opened fits)]
        have filled : Streams [(.write data, .error (.transfer (link.fall .write).1))] link
            (link.filled data) :=
          ⟨List.prefix_rfl, fun wrote => absurd (List.mem_singleton.mpr rfl) (wrote data _),
            unshut, unshut, link.medium.silence?_begin⟩
        exact filled.fall opened .write
  | read count =>
      by_cases short : link.unread.length < count
      · rw [onLink, Action.bind_of_error (Link.read_of_drained opened short)]
        have drained : Streams [(.read count, .error (.transfer (link.fall .read).1))] link
            link.drained :=
          ⟨List.nil_prefix, fun _ => silent, unshut, unshut, link.medium.silence?_begin⟩
        exact drained.fall opened .read
      · rw [onLink, Action.bind_of_ok (Link.read_of_filled opened (Nat.le_of_not_lt short))]
        have whole : link.unread.take count ++ [] ++ link.unread.drop count = link.unread := by
          rw [List.append_nil, List.take_append_drop]
        exact ⟨⟨[], (List.append_nil _).trans whole⟩, fun _ => silent, unshut, unshut,
          link.medium.silence?_begin⟩
  | close => exact ⟨List.prefix_rfl, fun _ => silent, unshut, unshut, fun _ => rfl⟩

theorem Use.streams (use : Use) (link : Link) :
    Streams [(use, Action.result (use.onLink link))] link (Action.after (use.onLink link)) := by
  cases opened : link.isOpen with
  | true => exact use.streams_of_open opened
  | false => exact use.streams_of_closed opened

/-- A use that meets silence fails when its time is over. Without a timeout it never ends. -/
theorem Use.MeetsSilence.ends {use : Use} {link : Link} {timeout : Nat}
    (silence : use.MeetsSilence link timeout) :
    (timeout ≠ 0 → ∃ way, Action.result (use.onLink link) =
      .error (.transfer (.timedOut way link.address))) ∧
    (timeout = 0 → Action.result (use.onLink link) = .error (.transfer (.endless link.address))) := by
  cases use with
  | write data =>
      obtain ⟨opened, full, silent⟩ := silence
      rw [onLink, Action.bind_of_error (Link.write_of_full opened full),
        Link.fall_of_silence silent]
      refine ⟨fun timed => ⟨.write, ?_⟩, fun untimed => ?_⟩
      · rw [if_neg timed, Action.result]
      · rw [if_pos untimed, Action.result]
  | read count =>
      obtain ⟨opened, short, silent⟩ := silence
      rw [onLink, Action.bind_of_error (Link.read_of_drained opened short),
        Link.fall_of_silence silent]
      refine ⟨fun timed => ⟨.read, ?_⟩, fun untimed => ?_⟩
      · rw [if_neg timed, Action.result]
      · rw [if_pos untimed, Action.result]
  | close => cases silence

/-- A use that ran out of time leaves the link closed. -/
theorem Use.closed_of_timedOut {use : Use} {link : Link} {way : Direction} {address : Bytes}
    (ended : Action.result (use.onLink link) = .error (.transfer (.timedOut way address))) :
    (Action.after (use.onLink link)).isOpen = false := by
  cases opened : link.isOpen with
  | false => rw [(use.streams_of_closed opened).closed opened, opened]
  | true =>
      cases use with
      | write data =>
          by_cases fits : link.HasRoom data.length
          · rw [onLink, Action.bind_of_ok (Link.write_of_hasRoom opened fits)] at ended
            cases ended
          · rw [onLink, Action.bind_of_error (Link.write_of_full opened fits)] at ended ⊢
            exact Link.isOpen_fall_of_timedOut (link.fall_fst_begin _ _ _ _ .write) ended
      | read count =>
          by_cases short : link.unread.length < count
          · rw [onLink, Action.bind_of_error (Link.read_of_drained opened short)] at ended ⊢
            exact Link.isOpen_fall_of_timedOut (link.fall_fst_begin _ _ _ _ .read) ended
          · rw [onLink, Action.bind_of_ok (Link.read_of_filled opened (Nat.le_of_not_lt short))]
              at ended
            cases ended
      | close => rfl

/-- An open socket has its link among those to the peers that were looked up. -/
theorem held_of_isOpen {socket : Socket} (opened : socket.isOpen = true) :
    ∃ index, socket.current = some index ∧ socket.links[index]? = some socket.link := by
  cases held : socket.current with
  | none =>
      simp only [isOpen, link, held] at opened
      cases opened
  | some index =>
      simp only [isOpen, link, held, List.getD_eq_getElem?_getD] at opened ⊢
      cases found : socket.links[index]? with
      | none =>
          rw [found] at opened
          cases opened
      | some link => exact ⟨index, rfl, found⟩

theorem setLink_link (socket : Socket) : socket.setLink socket.link = socket := by
  obtain ⟨address, endpoint, timeouts, network, links, current⟩ := socket
  cases current with
  | none => rfl
  | some index =>
      simp only [setLink, link, List.getD_eq_getElem?_getD]
      cases found : links[index]? with
      | none => rw [List.set_eq_of_length_le (List.getElem?_eq_none_iff.mp found)]
      | some link =>
          obtain ⟨isThere, same⟩ := List.getElem?_eq_some_iff.mp found
          rw [Option.getD_some, ← same, List.set_getElem_self]

theorem link_setLink {socket : Socket} (opened : socket.isOpen = true) (link : Link) :
    (socket.setLink link).link = link := by
  obtain ⟨index, held, found⟩ := held_of_isOpen opened
  obtain ⟨isThere, -⟩ := List.getElem?_eq_some_iff.mp found
  simp [setLink, Socket.link, held, isThere]

theorem call_eq_onLink (use : Use) : Socket.call use.call = onLink use.onLink := by
  funext socket
  cases use with
  | write data =>
      simp only [Use.call, Socket.call, write, onLink, Use.onLink, Action.on, bind, EStateM.bind]
      cases Link.write data socket.link <;> rfl
  | read count =>
      simp only [Use.call, Socket.call, read, onLink, Use.onLink, Action.on, bind, EStateM.bind]
      cases Link.read count socket.link <;> rfl
  | close => rfl

/-- Between two attempts to connect, a use of a socket is a use of its link. -/
theorem call_use (socket : Socket) (use : Use) :
    Action.result (Socket.call use.call socket) = Action.result (use.onLink socket.link) ∧
      (Action.after (Socket.call use.call socket)).link =
        Action.after (use.onLink socket.link) := by
  have through : Action.result (onLink use.onLink socket) =
      Action.result (use.onLink socket.link) ∧
      Action.after (onLink use.onLink socket) =
        socket.setLink (Action.after (use.onLink socket.link)) := by
    simp only [onLink, Action.on]
    cases use.onLink socket.link <;> exact ⟨rfl, rfl⟩
  rw [call_eq_onLink]
  refine ⟨through.1, ?_⟩
  rw [through.2]
  cases opened : socket.isOpen with
  | true => exact link_setLink opened _
  | false =>
      -- The link in use need not be one of the socket's, but then nothing is put back.
      rw [(use.streams socket.link).closed opened, setLink_link]

/-- However long a socket is used, its link is used as a stream. -/
theorem streams_run (socket : Socket) (uses : List Use) :
    Streams (socket.log uses) socket.link (socket.run uses).link := by
  -- Each use is one entry of the log, and entries compose by `Streams.trans`.
  induction uses generalizing socket with
  | nil => exact .refl socket.link
  | cons use rest ih =>
      obtain ⟨answer, link⟩ := socket.call_use use
      have first := use.streams socket.link
      rw [← answer, ← link] at first
      exact first.trans (ih _)

theorem close_fields (socket : Socket) :
    socket.close.address = socket.address ∧ socket.close.links.length = socket.links.length := by
  unfold close setLink
  split
  · exact ⟨rfl, List.length_set⟩
  · exact ⟨rfl, rfl⟩

/-- The socket once it gave up its link for that to a peer which was just found. -/
def turn (socket : Socket) (link : Link) : Socket :=
  { socket.close with
    links := socket.close.links ++ [link]
    current := some socket.links.length }

theorem link_turn (socket : Socket) (link : Link) : (socket.turn link).link = link := by
  rw [turn, Socket.link, ← socket.close_fields.2]
  simp

/-- A closed link behind all others is not the one that an open socket uses. -/
theorem link_of_appended {socket : Socket} {network : Network} {last : Link}
    (shut : last.isOpen = false)
    (opened : isOpen { socket with network := network, links := socket.links ++ [last] } = true) :
    link { socket with network := network, links := socket.links ++ [last] } = socket.link := by
  obtain ⟨index, held, found⟩ := held_of_isOpen opened
  rcases Nat.lt_or_ge index socket.links.length with inside | behind
  · have inUse : socket.current = some index := held
    simp only [link, inUse, List.getD_eq_getElem?_getD, List.getElem?_append_left inside]
  · have isLast := List.mem_of_getElem? ((List.getElem?_append_right behind).symm.trans found)
    rw [isOpen, List.mem_singleton.mp isLast, shut] at opened
    cases opened

/-- Where no peer is found, the link in use is kept. -/
theorem connect_of_lost {socket : Socket} {peer : Peer} {network : Network}
    (next : socket.network.lookUp socket.endpoint = (peer, network))
    (lost : peer.resolveFault ≠ []) :
    connect socket = .error (.dial socket.address peer.resolveFault) { socket with
      network := network
      links := socket.links ++
        [peer.link socket.address socket.endpoint.address socket.timeouts] } := by
  simp only [connect, next, Peer.connect, if_pos lost]

/-- A peer that is found decides how the attempt ends, over a link that is in use from then on. -/
theorem connect_of_found {socket : Socket} {peer : Peer} {network : Network}
    (next : socket.network.lookUp socket.endpoint = (peer, network))
    (found : peer.resolveFault = []) {connection : Connection} {link : Link}
    (tried : peer.connect socket.address socket.endpoint.address socket.timeouts =
      (connection, link)) :
    Action.result (connect socket) = (match connection with
      | .made => .ok ()
      | .failed reason => .error (.dial socket.address reason)
      | .endless => .error (.transfer (.endless socket.address))) ∧
    (Action.after (connect socket)).link = link := by
  have isFound : ¬ peer.resolveFault ≠ [] := not_not_intro found
  have address := (close_fields { socket with network := network }).1
  have turned := link_turn { socket with network := network } link
  simp only [turn] at turned
  simp only [connect, next, tried, if_neg isFound]
  cases connection with
  | made => exact ⟨rfl, turned⟩
  | failed reason => exact ⟨by rw [address, Action.result], turned⟩
  | endless => exact ⟨by rw [address, Action.result], turned⟩

/-- How an attempt to connect ends, if it does. Only a socket that is open already, and whose peer
is not found this time, fails and stays open, over the link that it had. -/
theorem connect_ends (socket : Socket) :
    let peer := (socket.network.lookUp socket.endpoint).1
    let begun := Action.after (connect socket)
    let link := peer.attemptedLink socket.address socket.endpoint.address socket.timeouts
    Action.result (connect socket) = .ok () ∧ begun.isOpen = true ∧ begun.link = link ∧
        peer.attempt = .completes ∨
      (∃ reason, Action.result (connect socket) = .error (.dial socket.address reason) ∧
        (begun.isOpen = true →
          peer.resolveFault ≠ [] ∧ socket.isOpen = true ∧ begun.link = socket.link) ∧
        ¬ (peer.resolveFault = [] ∧ peer.attempt = .hangs ∧ socket.timeouts.connect = 0)) ∨
      Action.result (connect socket) = .error (.transfer (.endless socket.address)) ∧
        begun.link = link.stick ∧
        peer.resolveFault = [] ∧ peer.attempt = .hangs ∧ socket.timeouts.connect = 0 := by
  intro peer begun link
  have next : socket.network.lookUp socket.endpoint =
      (peer, (socket.network.lookUp socket.endpoint).2) := rfl
  have connects := peer.connect_connects socket.address socket.endpoint.address socket.timeouts
  rcases tried : peer.connect socket.address socket.endpoint.address socket.timeouts with
    ⟨connection, last⟩
  rw [tried] at connects
  cases connects with
  | lost lost =>
      have refused := connect_of_lost next lost
      have left : begun = _ := congrArg Action.after refused
      refine .inr (.inl ⟨peer.resolveFault, by rw [refused, Action.result], fun opened => ?_,
        fun endless => lost endless.1⟩)
      rw [left] at opened ⊢
      have same := link_of_appended rfl opened
      exact ⟨lost, by rw [isOpen, ← same]; exact opened, same⟩
  | made found completes =>
      obtain ⟨done, inUse⟩ := connect_of_found next found tried
      refine .inl ⟨done, ?_, inUse, completes⟩
      rw [isOpen, inUse]
      exact decide_eq_true completes
  | refused reason found fails ends =>
      obtain ⟨refused, inUse⟩ := connect_of_found next found tried
      refine .inr (.inl ⟨reason, refused, fun opened => ?_,
        fun endless => ends endless.2.1 endless.2.2⟩)
      rw [isOpen, inUse] at opened
      exact absurd (of_decide_eq_true opened) fails
  | endless found hangs untimed =>
      obtain ⟨waits, inUse⟩ := connect_of_found next found tried
      exact .inr (.inr ⟨waits, inUse, found, hangs, untimed⟩)

/-- An attempt to connect has no end if it sets no deadline and the peer that is found does not
answer. -/
theorem connect_endless_iff (socket : Socket) :
    let peer := (socket.network.lookUp socket.endpoint).1
    Action.result (connect socket) = .error (.transfer (.endless socket.address)) ↔
      peer.resolveFault = [] ∧ peer.attempt = .hangs ∧ socket.timeouts.connect = 0 := by
  intro peer
  rcases connect_ends socket with ⟨done, -, -, completes⟩ | ⟨reason, refused, -, ends⟩ |
    ⟨waits, -, endless⟩
  · refine ⟨fun waits => ?_, fun ⟨_, hangs, _⟩ => ?_⟩
    · cases done.symm.trans waits
    · cases completes.symm.trans hangs
  · refine ⟨fun waits => ?_, fun endless => absurd endless ends⟩
    cases refused.symm.trans waits
  · exact ⟨fun _ => endless, fun _ => waits⟩

/-- A socket as a stream. An attempt to connect succeeds and leaves the socket open, with nothing
exchanged yet with the peer, or fails with a fault of the dial and leaves it closed. It has no end
exactly if it sets no deadline and the peer that is found does not answer. Whatever is written, read
and closed from then on, what the successful reads give is the front of what the peer sent, and the
peer receives what was written, as long as no write fails. A socket that is not open stays so, and
each write or read fails and moves nothing. A write or read over which the peer falls silent fails
at its deadline and leaves the socket closed. Without a deadline it has no end. -/
theorem connects_then_streams (socket : Socket) (unused : socket.isOpen = false) :
    let peer := (socket.network.lookUp socket.endpoint).1
    let answer := Action.result (connect socket)
    let begun := Action.after (connect socket)
    (answer = .ok () ∧ begun.isOpen = true ∧
        begun.link.unread = peer.response ∧ begun.link.written = [] ∧
        (∀ way, begun.link.medium.silence? way =
          if peer.stall way = .hangs then some socket.timeouts.transfer else none) ∨
      (∃ reason, answer = .error (.dial socket.address reason) ∧ begun.isOpen = false) ∨
      answer = .error (.transfer (.endless socket.address)) ∧ begun.link.isStuck = true) ∧
    (answer = .error (.transfer (.endless socket.address)) ↔
      peer.resolveFault = [] ∧ peer.attempt = .hangs ∧ socket.timeouts.connect = 0) ∧
    ∀ uses,
      let after := begun.run uses
      let log := begun.log uses
      log.received <+: begun.link.unread ∧
      (log.Wrote → after.link.written = begun.link.written ++ log.handed) ∧
      (∀ way, after.link.medium.silence? way = begun.link.medium.silence? way) ∧
      (after.isOpen = false → ∀ more,
        (after.run more).isOpen = false ∧ (after.run more).link = after.link ∧
          ∀ entry ∈ after.log more, entry.1 ≠ .close →
            ∃ way, entry.2 = .error (after.link.closedFault way)) ∧
      ∀ use : Use,
        let ended := Action.result (Socket.call use.call after)
        let last := Action.after (Socket.call use.call after)
        (∀ timeout, use.MeetsSilence after.link timeout →
          (timeout ≠ 0 → ∃ way, ended = .error (.transfer (.timedOut way after.link.address))) ∧
          (timeout = 0 → ended = .error (.transfer (.endless after.link.address)))) ∧
        ∀ way address, ended = .error (.transfer (.timedOut way address)) → last.isOpen = false := by
  intro peer answer begun
  refine ⟨?_, connect_endless_iff socket, fun uses => ?_⟩
  · rcases connect_ends socket with ⟨done, opened, link, -⟩ | ⟨reason, refused, kept, -⟩ |
      ⟨waits, link, -⟩
    · refine .inl ⟨done, opened, ?_⟩
      rw [link]
      exact ⟨rfl, rfl, peer.silence?_attemptedLink _ _ socket.timeouts⟩
    · refine .inr (.inl ⟨reason, refused, ?_⟩)
      refine Bool.eq_false_iff.mpr fun opened => ?_
      cases unused.symm.trans (kept opened).2.1
    · exact .inr (.inr ⟨waits, by rw [link]; rfl⟩)
  · intro after log
    have streams := begun.streams_run uses
    have received : log.received <+: log.received ++ after.link.unread := List.prefix_append _ _
    refine ⟨received.trans streams.received, streams.written, streams.silence, ?_, ?_⟩
    · intro shut more
      have later := after.streams_run more
      have same := later.closed shut
      exact ⟨by rw [isOpen, same]; exact shut, same, later.failed shut⟩
    · intro use ended last
      obtain ⟨answer, link⟩ := after.call_use use
      refine ⟨fun timeout silence => ?_, fun way address timedOut => ?_⟩
      · rw [show ended = _ from answer]
        exact silence.ends
      · rw [isOpen, link]
        exact Use.closed_of_timedOut (answer.symm.trans timedOut)

/-- A peer that sends four bytes and has room for six, and keeps the socket waiting after that. -/
theorem connects_then_streams_until_deadline :
    let address := Bytes.ofText "h:9"
    let peer : Peer := ⟨[], .completes, Bytes.ofText "pong", .hangs, some 6, .hangs⟩
    let socket : Socket :=
      ⟨address, ⟨Bytes.ofText "h", 9⟩, ⟨2000, 3000⟩, [(address, [peer])], [], none⟩
    let begun := Action.after (connect socket)
    let uses : List Use := [.write (Bytes.ofText "ping"), .read 3]
    let after := begun.run uses
    let late := Action.after (Socket.call (.write [1, 2, 3]) after)
    Action.result (connect socket) = .ok () ∧ (begun.log uses).received = Bytes.ofText "pon" ∧
      after.link.written = Bytes.ofText "ping" ∧
      Action.result (Socket.call (.write [1, 2, 3]) after) =
        .error (.transfer (.timedOut .write address)) ∧
      late.isOpen = false ∧ (late.run [.read 1, .close]).link = late.link := by
  intro address peer socket begun uses after late
  have done : Action.result (connect socket) = .ok () := by decide +kernel
  have answers : begun.log uses = [(.write (Bytes.ofText "ping"), .ok none),
      (.read 3, .ok (some (Bytes.ofText "pon")))] := by
    decide +kernel
  obtain ⟨ends, -, streams⟩ := connects_then_streams socket (by decide)
  obtain ⟨blank, silence⟩ : begun.link.written = [] ∧
      begun.link.medium.silence? .write = some 3000 := by
    rcases ends with ⟨-, -, -, blank, silence⟩ | ⟨reason, failed, -⟩ | ⟨waits, -⟩
    · exact ⟨blank, (silence .write).trans (by decide +kernel)⟩
    · cases done.symm.trans failed
    · cases done.symm.trans waits
  obtain ⟨-, wrote, same, -, next⟩ := streams uses
  have written : after.link.written = Bytes.ofText "ping" := by
    rw [wrote, blank, answers]
    · decide
    · intro data fault isIn
      rw [answers] at isIn
      simp at isIn
  have room : after.link.room = some 2 := by decide +kernel
  have silent : Use.MeetsSilence after.link 3000 (.write [1, 2, 3]) := by
    refine ⟨by decide +kernel, ?_, (same .write).trans silence⟩
    rw [Link.hasRoom_iff room]
    decide
  obtain ⟨way, timedOut⟩ := ((next (.write [1, 2, 3])).1 3000 silent).1 (by decide)
  have closed : late.isOpen = false := (next (.write [1, 2, 3])).2 way _ timedOut
  obtain ⟨-, -, -, stays, -⟩ := streams (uses ++ [.write [1, 2, 3]])
  refine ⟨done, ?_, written, by decide +kernel, closed, (stays closed [.read 1, .close]).2.1⟩
  rw [answers]
  decide

end Socket

end TrackedStorage
