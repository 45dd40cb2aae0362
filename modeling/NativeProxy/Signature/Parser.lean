import NativeProxy.Fault
import NativeProxy.Signature

/-!
# Reading signatures

`Signature.read` accepts the characters that `Signature.render` writes for a well-formed
signature and names the defect of every other text. Each step returns the rest of the text
with the fact that it is shorter, which bounds the loop over the parameters.
-/

namespace NativeProxy

namespace Signature

/-- Why a text is no signature. -/
inductive Defect where
  | noParameterList
  | unterminatedParameterList
  | unexpectedEnd
  | unterminatedClassName
  | emptyClassName
  | illegalClassName
  | misplacedVoid
  | unknownType
  | trailingCharacters
deriving DecidableEq, Repr

def Defect.reason : Defect → String
  | noParameterList => "expected '('"
  | unterminatedParameterList => "unterminated parameter list"
  | unexpectedEnd => "unexpected end of signature"
  | unterminatedClassName => "unterminated class name"
  | emptyClassName => "empty class name"
  | illegalClassName => "illegal character in class name"
  | misplacedVoid => "void is only valid as a return type"
  | unknownType => "unknown type descriptor"
  | trailingCharacters => "trailing characters after return type"

/-- What is left of a text after something was read from its front. -/
abbrev Rest (text : List Char) := { rest : List Char // rest.length < text.length }

/-- The primitive type a letter stands for; `void` is none that a field can have. -/
def fieldLetter? : Char → Option Primitive
  | 'Z' => some .boolean
  | 'B' => some .byte
  | 'C' => some .char
  | 'S' => some .short
  | 'I' => some .int
  | 'J' => some .long
  | 'F' => some .float
  | 'D' => some .double
  | _ => none

/-- Splits a text at its first semicolon, which is left out. -/
def splitAtSemicolon : (text : List Char) → Option (List Char × Rest text)
  | [] => none
  | c :: rest =>
    if c = ';' then some ([], ⟨rest, by simp⟩)
    else (splitAtSemicolon rest).map fun (name, after) =>
      (c :: name, ⟨after.1, Nat.lt_succ_of_lt after.2⟩)

/-- Reads the class name up to the semicolon that ends it. -/
def readClassName (text : List Char) : Except Defect (String × Rest text) :=
  match splitAtSemicolon text with
  | none => .error .unterminatedClassName
  | some (name, rest) =>
    if name.isEmpty then .error .emptyClassName
    else if name.all Descriptor.isNameChar then .ok (String.ofList name, rest)
    else .error .illegalClassName

def readField : (text : List Char) → Except Defect (Descriptor × Rest text)
  | [] => .error .unexpectedEnd
  | c :: rest =>
    match fieldLetter? c with
    | some type => .ok (.primitive type, ⟨rest, by simp⟩)
    | none =>
      if c = 'L' then do
        let (className, after) ← readClassName rest
        return (.object className, ⟨after.1, Nat.lt_succ_of_lt after.2⟩)
      else if c = '[' then do
        let (element, after) ← readField rest
        return (.array element, ⟨after.1, Nat.lt_succ_of_lt after.2⟩)
      else if c = 'V' then .error .misplacedVoid
      else .error .unknownType

/-- Reads parameter types up to the closing parenthesis. -/
def readParams (text : List Char) : Except Defect (List Descriptor × List Char) :=
  match text with
  | [] => .error .unterminatedParameterList
  | ')' :: rest => .ok ([], rest)
  | c :: rest => do
    let (type, after) ← readField (c :: rest)
    let (types, remaining) ← readParams after.1
    return (type :: types, remaining)
termination_by text.length
decreasing_by exact after.2

def readResult (text : List Char) : Except Defect (Descriptor × List Char) :=
  match text with
  | 'V' :: rest => .ok (.primitive .void, rest)
  | _ => do
    let (type, after) ← readField text
    return (type, after.1)

def read (text : List Char) : Except Defect Signature :=
  match text with
  | '(' :: rest => do
    let (params, afterParams) ← readParams rest
    let (result, remaining) ← readResult afterParams
    if remaining.isEmpty then return ⟨params, result⟩ else .error .trailingCharacters
  | _ => .error .noParameterList

/-- Reads the text of a signature. The fault names the text as it was given. -/
def parse (text : String) : Except Fault Signature :=
  (read text.toList).mapError fun defect => .malformedSignature text defect.reason

end Signature

def Selector.parse (name signature : String) : Except Fault Selector :=
  (Signature.parse signature).map (⟨name, ·⟩)

end NativeProxy
