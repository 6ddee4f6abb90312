import TrackedStorage.FileTree
import TrackedStorage.Numeral
import TrackedStorage.Fault

set_option autoImplicit false

namespace TrackedStorage

open Bytes (ofText)

/-- What the client is told to do. Timeouts are in seconds. -/
structure Settings where
  /-- The addresses of the trackers, in the order in which they are given. -/
  trackers : List Bytes
  /-- How many connections each pool may have at a time. -/
  maxConnections : UInt64
  connectTimeout : Nat
  networkTimeout : Nat
  logFile : Bytes
  logLevel : Bytes
  deriving DecidableEq

/-- The keys that mean something. All others are skipped. -/
inductive Setting.Key where
  | tracker
  | maxConnections
  | connectTimeout
  | networkTimeout
  | logFile
  | logLevel
  deriving DecidableEq

inductive Setting where
  | tracker (address : Bytes)
  | maxConnections (count : UInt64)
  | connectTimeout (seconds : Nat)
  | networkTimeout (seconds : Nat)
  | logFile (path : Bytes)
  | logLevel (name : Bytes)
  deriving DecidableEq

namespace Setting

/-- The blanks around keys and values: space, `\t`, `\r`, `\n`. -/
def isBlank (byte : UInt8) : Bool := byte == 32 || byte == 9 || byte == 13 || byte == 10

/-- The bytes between the first and the last that is not blank. -/
def trim (bytes : Bytes) : Bytes :=
  ((bytes.dropWhile isBlank).reverse.dropWhile isBlank).reverse

def Key.ofName? (name : Bytes) : Option Key :=
  if name = ofText "tracker_server" then some tracker
  else if name = ofText "max_conns" then some maxConnections
  else if name = ofText "connect_timeout" then some connectTimeout
  else if name = ofText "network_timeout" then some networkTimeout
  else if name = ofText "log_file" then some logFile
  else if name = ofText "log_level" then some logLevel
  else none

def maxNumber : Int := 9223372036854775807

def minNumber : Int := -9223372036854775808

/-- The longest timeout: one day. -/
def maxTimeout : Nat := 86400

/-- The value of a numeric setting, which must be a number and nothing else, and not negative. -/
def readNumber (line : Nat) (key value : Bytes) : Except Fault Nat :=
  match Numeral.readInt? value with
  | none => .error (.setting (.notANumber line key value))
  | some (number, rest) =>
      if number < minNumber ∨ maxNumber < number then
        .error (.setting (.notANumber line key value))
      else if rest ≠ [] ∨ number < 0 then .error (.setting (.invalidNumber line key value))
      else .ok number.toNat

def readTimeout (line : Nat) (key value : Bytes) : Except Fault Nat := do
  let seconds ← readNumber line key value
  if maxTimeout < seconds then throw (.setting (.timeoutTooLong line key value))
  else pure seconds

def ofKeyValue (line : Nat) (key value : Bytes) : Except Fault (Option Setting) :=
  match Key.ofName? key with
  | none => .ok none
  | some .tracker =>
      if value = [] then .error (.setting (.emptyTracker line)) else .ok (some (.tracker value))
  | some .maxConnections => do
      let count ← readNumber line key value
      pure (some (.maxConnections (UInt64.ofNat count)))
  | some .connectTimeout => do
      let seconds ← readTimeout line key value
      pure (some (.connectTimeout seconds))
  | some .networkTimeout => do
      let seconds ← readTimeout line key value
      pure (some (.networkTimeout seconds))
  | some .logFile => .ok (some (.logFile value))
  | some .logLevel => .ok (some (.logLevel value))

/-- What a line sets. Blank lines and lines that begin with `#` set nothing. -/
def ofLine (line : Nat) (text : Bytes) : Except Fault (Option Setting) :=
  let content := trim text
  if content = [] ∨ content.head? = some 35 then .ok none
  else match content.splitFirst 61 with
    | none => .error (.setting (.lineWithoutEquals line))
    | some (key, value) => ofKeyValue line (trim key) (trim value)

end Setting

namespace Settings

def default : Settings where
  trackers := []
  maxConnections := 10
  connectTimeout := 5
  networkTimeout := 30
  logFile := ofText "fdfs_client.log"
  logLevel := ofText "info"

/-- Trackers accumulate; for all else the last setting counts. -/
def apply (settings : Settings) : Setting → Settings
  | .tracker address => { settings with trackers := settings.trackers ++ [address] }
  | .maxConnections count => { settings with maxConnections := count }
  | .connectTimeout seconds => { settings with connectTimeout := seconds }
  | .networkTimeout seconds => { settings with networkTimeout := seconds }
  | .logFile path => { settings with logFile := path }
  | .logLevel name => { settings with logLevel := name }

/-- Applies lines, of which the first has the number `line`, up to the first fault. -/
def applyLines (settings : Settings) (line : Nat) : List Bytes → Except Fault Settings
  | [] => .ok settings
  | text :: rest =>
      match Setting.ofLine line text with
      | .error fault => .error fault
      | .ok none => settings.applyLines (line + 1) rest
      | .ok (some setting) => (settings.apply setting).applyLines (line + 1) rest

def parse (text : Bytes) : Except Fault Settings := default.applyLines 1 text.lines

/-- Settings that a client can be built from name a tracker and allow a connection. -/
def validate (settings : Settings) : Except Fault Unit :=
  if settings.trackers = [] then .error (.setting .noTracker)
  else if settings.maxConnections = 0 then .error (.setting .noConnections)
  else .ok ()

def load (tree : FileTree) (path : Bytes) : Except Fault Settings :=
  match tree.read? path with
  | none => .error (.setting (.unreadableFile path))
  | some text => do
      let settings ← parse text
      settings.validate
      pure settings

end Settings

end TrackedStorage
