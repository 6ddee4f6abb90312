import TrackedStorage.Numeral

set_option autoImplicit false

namespace TrackedStorage

open Bytes (ofText)
open Numeral (decimal)

/-- What makes a setting, an address or a file identifier unusable. Lines are numbered from one. -/
inductive SettingFault where
  | lineWithoutEquals (line : Nat)
  | emptyTracker (line : Nat)
  | notANumber (line : Nat) (key value : Bytes)
  | invalidNumber (line : Nat) (key value : Bytes)
  | timeoutTooLong (line : Nat) (key value : Bytes)
  | unreadableFile (path : Bytes)
  | noTracker
  | noConnections
  | unknownLevel (name : Bytes)
  | addressShape (address : Bytes)
  | addressPort (address : Bytes)
  | idWithoutSlash (id : Bytes)
  | idWithEmptyPart (id : Bytes)
  | groupTooLong (group : Bytes)
  | zeroCapacity
  | noDialer
  | noAccessor
  /-- A dialer's own complaint. -/
  | reported (text : Bytes)
  deriving DecidableEq

/-- The two ways in which bytes cross a link, seen from the client. -/
inductive Direction where
  | write
  | read
  deriving DecidableEq

/-- What stops bytes from getting to or from a link or a local file. -/
inductive TransferFault where
  | closedInMemory (way : Direction)
  | shortInMemory (way : Direction)
  | closed (way : Direction) (address : Bytes)
  | short (way : Direction) (address reason : Bytes)
  | timedOut (way : Direction) (address : Bytes)
  /-- The remote side is silent, and no deadline ends the wait for it. A call that comes to this does
  not return. -/
  | endless (address : Bytes)
  | noSuchFile (path : Bytes)
  | emptyFile (path : Bytes)
  | shortSource
  | uncreatable (path : Bytes)
  | sinkRefused
  | unclosable (path : Bytes)
  /-- A dialer's own complaint. -/
  | reported (text : Bytes)
  deriving DecidableEq

/-- How an answer departs from the layout of its frame. -/
inductive FrameFault where
  | unexpectedCommand (command : UInt8)
  | lengthOutOfRange
  | queryLength (length : UInt64)
  | invalidEndpoint
  | uploadLength (length : UInt64)
  | emptyGroup
  | downloadLength (length : UInt64)
  deriving DecidableEq

/-- What an operation may end in instead of its result. -/
inductive Fault where
  | setting (cause : SettingFault)
  | transfer (cause : TransferFault)
  | frame (cause : FrameFault)
  /-- The remote side answered with this status, which is not zero. -/
  | status (code : UInt8)
  /-- A pool has no connection to lend, and may not dial. -/
  | exhausted (address : Bytes)
  | dial (address reason : Bytes)
  /-- No tracker pool lends a connection; the last one said `reason`. -/
  | noTrackerAvailable (reason : Bytes)
  /-- Anything else that a dialer may raise. -/
  | other (text : Bytes)
  deriving DecidableEq

namespace SettingFault

def atLine (line : Nat) (text : Bytes) : Bytes :=
  ofText "line " ++ decimal line ++ ofText ": " ++ text

def message : SettingFault → Bytes
  | lineWithoutEquals line => atLine line (ofText "expected key = value")
  | emptyTracker line => atLine line (ofText "empty tracker_server")
  | notANumber line key value => atLine line (key ++ ofText " is not a number: " ++ value)
  | invalidNumber line key value => atLine line (ofText "invalid " ++ key ++ ofText ": " ++ value)
  | timeoutTooLong line key value =>
      atLine line (key ++ ofText " exceeds 86400 seconds: " ++ value)
  | unreadableFile path => ofText "cannot open config file: " ++ path
  | noTracker => ofText "no tracker_server configured"
  | noConnections => ofText "max_conns must be positive"
  | unknownLevel name => ofText "unknown log level: " ++ name
  | addressShape address => ofText "invalid address, expected host:port: " ++ address
  | addressPort address => ofText "invalid port in address: " ++ address
  | idWithoutSlash id => ofText "invalid file id, missing '/': " ++ id
  | idWithEmptyPart id => ofText "invalid file id, empty group or filename: " ++ id
  | groupTooLong group => ofText "invalid file id, group name too long: " ++ group
  | zeroCapacity => ofText "connection pool capacity must be positive"
  | noDialer => ofText "connection pool requires a dialer"
  | noAccessor => ofText "client requires a file accessor"
  | reported text => text

end SettingFault

def Direction.verb : Direction → Bytes
  | write => ofText "write"
  | read => ofText "read"

/-- The verb for a transfer with the preposition that leads on to the other side. -/
def Direction.phrase : Direction → Bytes
  | write => ofText "write to "
  | read => ofText "read from "

def TransferFault.message : TransferFault → Bytes
  | closedInMemory way => way.verb ++ ofText " on closed fake connection"
  | shortInMemory way => ofText "short " ++ way.phrase ++ ofText "fake connection"
  | closed way address => way.verb ++ ofText " on closed connection to " ++ address
  | short way address reason => ofText "short " ++ way.phrase ++ address ++ ofText ": " ++ reason
  | timedOut way address => way.phrase ++ address ++ ofText " timed out"
  | endless address => ofText "waiting for ever for " ++ address
  | noSuchFile path => ofText "no such file: " ++ path
  | emptyFile path => ofText "file size is zero: " ++ path
  | shortSource => ofText "short read from local file"
  | uncreatable path => ofText "cannot create local file: " ++ path
  | sinkRefused => ofText "failed to write downloaded bytes"
  | unclosable path => ofText "failed to close local file: " ++ path
  | reported text => text

def FrameFault.message : FrameFault → Bytes
  | unexpectedCommand command => ofText "unexpected response command " ++ decimal command.toNat
  | lengthOutOfRange => ofText "response length out of range"
  | queryLength length => ofText "tracker body length " ++ decimal length.toNat
  | invalidEndpoint => ofText "invalid storage endpoint"
  | uploadLength length => ofText "upload response length " ++ decimal length.toNat
  | emptyGroup => ofText "upload response has an empty group name"
  | downloadLength length => ofText "download response length " ++ decimal length.toNat

namespace Fault

def message : Fault → Bytes
  | setting cause => ofText "Config error: " ++ cause.message
  | transfer cause => ofText "I/O error: " ++ cause.message
  | frame cause => ofText "Malformed response: " ++ cause.message
  | status code => ofText "Remote status error: " ++ decimal code.toNat
  | exhausted address => ofText "Connection pool exhausted: " ++ address
  | dial address reason => ofText "Dial to " ++ address ++ ofText " failed: " ++ reason
  | noTrackerAvailable reason => ofText "No tracker available: " ++ reason
  | other text => text

/-- The message as it is shown and as other messages quote it: up to its first NUL. -/
def shown (fault : Fault) : Bytes := fault.message.beforeNul

/-- When one of two conditions holds, and each of them forces a result, the result tells which one
holds. -/
theorem eq_iff_of_decided {α : Type} {result : Except Fault α} {accepted : α → Prop}
    {refused : Fault → Prop} (either : (∃ value, accepted value) ∨ ∃ fault, refused fault)
    (accepts : ∀ value, accepted value → result = .ok value)
    (refuses : ∀ fault, refused fault → result = .error fault) :
    (∀ value, result = .ok value ↔ accepted value) ∧
      ∀ fault, result = .error fault ↔ refused fault := by
  rcases either with ⟨value, good⟩ | ⟨fault, bad⟩
  · have done := accepts value good
    refine ⟨fun other => ⟨?_, accepts other⟩, fun other => ⟨?_, refuses other⟩⟩
    · intro same
      cases done.symm.trans same
      exact good
    · intro failed
      cases done.symm.trans failed
  · have failed := refuses fault bad
    refine ⟨fun other => ⟨?_, accepts other⟩, fun other => ⟨?_, refuses other⟩⟩
    · intro done
      cases failed.symm.trans done
    · intro same
      cases failed.symm.trans same
      exact bad

end Fault

end TrackedStorage
