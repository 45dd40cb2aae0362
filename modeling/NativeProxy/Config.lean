import NativeProxy.Fault

/-!
# Proxy settings

What a proxy does with arguments that have no conversion, and how many local references every
interaction with the virtual machine may create.
-/

namespace NativeProxy

/-- What happens to an argument without a conversion: it is passed as null, or the call is
refused before it reaches the virtual machine. -/
inductive Policy where
  | passNull
  | reject
deriving DecidableEq, Repr

structure Config where
  policy : Policy := .passNull
  frameCapacity : Int := 16
deriving DecidableEq, Repr

namespace Config

def readPolicy (name : String) : Except Fault Policy :=
  if name = "default" ∨ name = "pass_null" then .ok .passNull
  else if name = "reject" then .ok .reject
  else .error (.config ("Unsupported conversion policy: " ++ name))

/-- Reads settings; a capacity is a positive 32-bit number. -/
def read (policy : String) (capacity : Int) : Except Fault Config := do
  let policy ← readPolicy policy
  if 0 < capacity ∧ capacity < 0x80000000 then
    return ⟨policy, capacity⟩
  else
    throw (.config
      ("Local frame capacity must be a positive 32-bit integer: " ++ toString capacity))

end Config

end NativeProxy
