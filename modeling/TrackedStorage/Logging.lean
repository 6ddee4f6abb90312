import TrackedStorage.Fault

set_option autoImplicit false

namespace TrackedStorage

open Bytes (ofText)

/-- How grave a log record is, from the least grave on. -/
inductive Severity where
  | trace
  | debug
  | info
  | warning
  | error
  | fatal
  deriving DecidableEq

namespace Severity

def all : List Severity := [trace, debug, info, warning, error, fatal]

def name : Severity → Bytes
  | trace => ofText "trace"
  | debug => ofText "debug"
  | info => ofText "info"
  | warning => ofText "warning"
  | error => ofText "error"
  | fatal => ofText "fatal"

def level (severity : Severity) : Nat := all.idxOf severity

end Severity

/-- The library that logs are kept with. -/
structure Logging where
  /-- The level that a text names, if it names one. -/
  level? : Bytes → Option Severity
  /-- Opens the log of a path, for records of a level and above. -/
  openFile : Bytes → Severity → Except Fault Unit

namespace Logging

/-- What is documented of the library: it knows each level by exactly its name. -/
structure IsDocumented (logging : Logging) : Prop where
  named : ∀ text severity, logging.level? text = some severity ↔ text = severity.name

/-- The level of exactly this name. -/
def severity (logging : Logging) (text : Bytes) : Except Fault Severity :=
  match logging.level? text with
  | some severity => .ok severity
  | none => .error (.setting (.unknownLevel text))

/-- The library where files can be written: only an empty path keeps a log from being opened. -/
def usual : Logging where
  level? text := Severity.all.find? (·.name == text)
  openFile path _ :=
    if path = [] then
      .error (.other (ofText "filesystem error: cannot make absolute path: Invalid argument []"))
    else .ok ()

theorem isDocumented_usual : usual.IsDocumented := by
  refine ⟨fun text severity => ?_⟩
  constructor
  · intro found
    have search : Severity.all.find? (fun other => other.name == text) = some severity := found
    have named := List.find?_some search
    exact (beq_iff_eq.mp named).symm
  · rintro rfl
    cases severity <;> decide

end Logging

end TrackedStorage
