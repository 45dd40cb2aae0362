import NativeProxy.Config
import NativeProxy.Method
import NativeProxy.Value

/-!
# Checking arguments

Arguments are checked against the description of a method before the virtual machine is
touched. The first fault wins: the number of arguments, then the arguments from left to right.
-/

namespace NativeProxy

namespace Method

def checkArgument (method : Method) (policy : Policy) (index : Nat) (plan : Plan)
    (value : Value) : Except Fault Unit :=
  match plan with
  | .unsupported nativeType =>
    match policy with
    | .passNull => .ok ()
    | .reject => .error (.unsupportedConversion method.text index nativeType)
  | plan =>
    if value.fits plan then .ok ()
    else .error (.argumentType method.text index plan.name value.kind)

/-- Checks the arguments from `index` on against the plans that are left. -/
def checkFrom (method : Method) (policy : Policy) :
    (index : Nat) → List Plan → List Value → Except Fault Unit
  | index, plan :: plans, value :: values => do
    method.checkArgument policy index plan value
    method.checkFrom policy (index + 1) plans values
  | _, _, _ => .ok ()

def checkArguments (method : Method) (args : List Value) (policy : Policy) : Except Fault Unit :=
  if method.params.length = args.length then method.checkFrom policy 0 method.params args
  else .error (.argumentCount method.text method.params.length args.length)

end Method

end NativeProxy
