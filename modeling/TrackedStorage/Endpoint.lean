import TrackedStorage.Fault

set_option autoImplicit false

namespace TrackedStorage

/-- A host, in which colons may occur, and a port. -/
structure Endpoint where
  host : Bytes
  port : UInt16
  deriving DecidableEq

namespace Endpoint

def colon : UInt8 := 58

/-- The address with the port in plain decimal. -/
def address (endpoint : Endpoint) : Bytes :=
  endpoint.host ++ colon :: Numeral.decimal endpoint.port.toNat

/-- A port in 1 to 65535 that takes up the whole text. -/
def readPort? (text : Bytes) : Option UInt16 :=
  match Numeral.readInt? text with
  | some (number, []) =>
      if 1 ≤ number ∧ number ≤ 65535 then some (UInt16.ofNat number.toNat) else none
  | _ => none

/-- Splits an address at its last colon. -/
def ofAddress (address : Bytes) : Except Fault Endpoint :=
  match address.splitLast colon with
  | none => .error (.setting (.addressShape address))
  | some (host, text) =>
      if host = [] ∨ text = [] then .error (.setting (.addressShape address))
      else match readPort? text with
        | none => .error (.setting (.addressPort address))
        | some port => .ok ⟨host, port⟩

end Endpoint

end TrackedStorage
