import NativeProxy.Plan
import NativeProxy.Signature.Parser

/-!
# Method descriptions

A method description is a selector with a conversion plan for every parameter and for the
result, the way the result is handed back and the way failures are reported. Descriptions start
from the plans of the types and are refined step by step; a step that a type does not allow is
refused.
-/

namespace NativeProxy

/-- How a result is handed back: by value, or stored in the proxy until the next call. -/
inductive ResultMode where
  | byValue
  | stored
deriving DecidableEq, Repr

/-- The description of one method. A method with `flagsFailure` reports an exception as `false`
instead of a fault. -/
structure Method where
  selector : Selector
  params : List Plan
  result : Plan
  mode : ResultMode
  flagsFailure : Bool
deriving DecidableEq, Repr

namespace Method

/-- The description that follows from the types alone. -/
def ofSelector (selector : Selector) : Method where
  selector := selector
  params := selector.signature.params.map Plan.ofType
  result := Plan.ofType selector.signature.result
  mode := .byValue
  flagsFailure := false

def parse (name signature : String) : Except Fault Method :=
  (Selector.parse name signature).map ofSelector

def name (method : Method) : String :=
  method.selector.name

def signature (method : Method) : Signature :=
  method.selector.signature

/-- The name and the signature of the method. -/
def text (method : Method) : String :=
  method.selector.text

def hasUnsupported (method : Method) : Bool :=
  method.params.any Plan.isUnsupported || method.result.isUnsupported

def isStored (method : Method) : Bool :=
  method.mode == .stored

def storing (method : Method) : Method :=
  { method with mode := .stored }

/-- Reports failures of the method as `false`. -/
def flagging (method : Method) : Method :=
  { method with flagsFailure := true }

/-- The refusal of a plan that needs a reference where the type is none. -/
def notReference (method : Method) (place : String) (plan : Plan) : Fault :=
  .config (method.text ++ ": " ++ place ++ " is not a reference, cannot convert it as " ++
    plan.name)

def withParam (method : Method) (index : Nat) (plan : Plan) : Except Fault Method :=
  match method.signature.params[index]? with
  | none =>
    .error (.config (method.text ++ ": no parameter " ++ toString index ++ " to override"))
  | some type =>
    if plan.isReference && !type.isReference then
      .error (method.notReference ("parameter " ++ toString index) plan)
    else
      .ok { method with params := method.params.set index plan }

/-- Marks a parameter as having no conversion for its native type. -/
def withUnsupportedParam (method : Method) (index : Nat) (nativeType : String) :
    Except Fault Method :=
  method.withParam index (.unsupported nativeType)

/-- Converts a parameter as a colour, whatever class its type names. -/
def withColorParam (method : Method) (index : Nat) : Except Fault Method :=
  method.withParam index .color

/-- Converts the result as a colour, whatever class its type names. -/
def withColorResult (method : Method) : Except Fault Method :=
  if method.signature.result.isReference then .ok { method with result := .color }
  else .error (method.notReference "the result" .color)

end Method

end NativeProxy
