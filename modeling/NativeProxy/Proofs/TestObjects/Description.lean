import NativeProxy.Proofs.ResultPassing
import NativeProxy.TestObjects

/-!
# The description of the test objects

The description is written down once as texts, in the chain that builds it, and once as numbers, in
the methods that use it. Here it is given as data: the chain builds it, and what each of the methods
asks for, by number, is the overload with the name and the signature of that method.
-/

namespace NativeProxy

namespace Descriptor

/-- The class of texts, as a type. -/
def string : Descriptor :=
  .object stringClass

def color : Descriptor :=
  .object colorClass

theorem isField_string : string.IsField :=
  ⟨by decide, by decide⟩

theorem isField_color : color.IsField :=
  ⟨by decide, by decide⟩

end Descriptor

namespace TestObjects

open Descriptor (string color isField_string isField_color)

/-! ## The declared methods -/

/-- Reads a text whose types are known. -/
theorem parse_of_text (text : String) (params : List Descriptor) (result : Descriptor)
    (same : Signature.text ⟨params, result⟩ = text) (fields : ∀ type ∈ params, type.IsField)
    (returned : result.IsReturn) (name : String) :
    Method.parse name text = .ok (.ofSelector ⟨name, ⟨params, result⟩⟩) :=
  same ▸ Method.parse_text ⟨fields, returned⟩ name

/-- A method that takes nothing and returns a text. -/
def textual (name : String) : Method :=
  .ofSelector ⟨name, ⟨[], string⟩⟩

/-- The stream that a directory is listed to has no conversion. -/
def listing : Method where
  selector := ⟨"ls", ⟨[string, .primitive .boolean, .object "java/io/OutputStream"],
    .primitive .void⟩⟩
  params := [.text, .primitive .boolean, .unsupported "std::ostream&"]
  result := .primitive .void
  mode := .byValue
  flagsFailure := false

/-- The methods of the interface in the order of their declaration. -/
def declared : List Method :=
  [textual "returnObject",
    (textual "returnReference").storing,
    (textual "returnPointer").storing,
    .ofSelector ⟨"returnColor", ⟨[], color⟩⟩,
    (textual "returnConstReference").storing,
    (textual "returnConstReferenceConst").storing,
    (textual "returnConstReferenceThrows").storing,
    (textual "returnConstReferenceConstThrows").storing,
    (Method.ofSelector ⟨"find", ⟨[string], string⟩⟩).storing,
    (Method.ofSelector ⟨"find", ⟨[color], string⟩⟩).storing,
    .ofSelector ⟨"cd", ⟨[string], .primitive .boolean⟩⟩,
    listing,
    (Method.ofSelector ⟨"mkdir", ⟨[string], .primitive .void⟩⟩).flagging,
    .ofSelector ⟨"mv", ⟨[string, string], .primitive .void⟩⟩]

def described : Interface where
  name := "ITestObjects"
  namespaceName := some "AIDTEST"
  methods := declared

theorem methods_eq : methods = .ok declared := by
  have none : ∀ type ∈ ([] : List Descriptor), type.IsField := List.forall_mem_nil _
  have ofString : ∀ type ∈ [string], type.IsField := List.forall_mem_singleton.mpr isField_string
  have ofColor : ∀ type ∈ [color], type.IsField := List.forall_mem_singleton.mpr isField_color
  have ofStrings : ∀ type ∈ [string, string], type.IsField :=
    List.forall_mem_cons.mpr ⟨isField_string, ofString⟩
  have ofStream : ∀ type ∈ [string, .primitive .boolean, .object "java/io/OutputStream"],
      type.IsField := by
    refine List.forall_mem_cons.mpr ⟨isField_string, List.forall_mem_cons.mpr ⟨?_, ?_⟩⟩
    · exact Primitive.noConfusion
    · exact List.forall_mem_singleton.mpr ⟨by decide, by decide⟩
  have textual (name : String) : Method.parse name textResult = .ok (textual name) :=
    parse_of_text textResult [] string rfl none (.inr isField_string) name
  have colored := parse_of_text "()Ljava/awt/Color;" [] color rfl none (.inr isField_color)
    "returnColor"
  have find := parse_of_text "(Ljava/lang/String;)Ljava/lang/String;" [string] string rfl ofString
    (.inr isField_string) "find"
  have findColor := parse_of_text "(Ljava/awt/Color;)Ljava/lang/String;" [color] string rfl ofColor
    (.inr isField_string) "find"
  have cd := parse_of_text "(Ljava/lang/String;)Z" [string] (.primitive .boolean) rfl ofString
    (.inr Primitive.noConfusion) "cd"
  have ls := parse_of_text "(Ljava/lang/String;ZLjava/io/OutputStream;)V"
    [string, .primitive .boolean, .object "java/io/OutputStream"] (.primitive .void) rfl ofStream
    (.inl rfl) "ls"
  have mkdir := parse_of_text "(Ljava/lang/String;)V" [string] (.primitive .void) rfl ofString
    (.inl rfl) "mkdir"
  have mv := parse_of_text "(Ljava/lang/String;Ljava/lang/String;)V" [string, string]
    (.primitive .void) rfl ofStrings (.inl rfl) "mv"
  rw [methods]
  simp only [textual, colored, find, findColor, cd, mkdir, ls, mv]
  rfl

theorem interface_eq : interface = .ok described := by
  rw [interface, methods_eq]
  rfl

/-! ## The methods that are offered -/

/-- A method of the test objects with its arguments. -/
inductive Use where
  | returnObject
  | returnReference
  | returnPointer
  | returnColor
  | returnConstReference
  | returnConstReferenceConst
  | returnConstReferenceThrows
  | returnConstReferenceConstThrows
  | find (path : String)
  | findColor (color : Rgba)
  | cd (path : String)
  | ls (path : String) (recursive : Bool)
  | mkdir (path : String)
  | mv (oldPath newPath : String)
deriving Repr

namespace Use

/-- The name of the method of the machine. -/
def name : Use → String
  | returnObject => "returnObject"
  | returnReference => "returnReference"
  | returnPointer => "returnPointer"
  | returnColor => "returnColor"
  | returnConstReference => "returnConstReference"
  | returnConstReferenceConst => "returnConstReferenceConst"
  | returnConstReferenceThrows => "returnConstReferenceThrows"
  | returnConstReferenceConstThrows => "returnConstReferenceConstThrows"
  | find _ => "find"
  | findColor _ => "find"
  | cd _ => "cd"
  | ls .. => "ls"
  | mkdir _ => "mkdir"
  | mv .. => "mv"

/-- The signature text of the method of the machine. -/
def signature : Use → String
  | returnColor => "()Ljava/awt/Color;"
  | find _ => "(Ljava/lang/String;)Ljava/lang/String;"
  | findColor _ => "(Ljava/awt/Color;)Ljava/lang/String;"
  | cd _ => "(Ljava/lang/String;)Z"
  | ls .. => "(Ljava/lang/String;ZLjava/io/OutputStream;)V"
  | mkdir _ => "(Ljava/lang/String;)V"
  | mv .. => "(Ljava/lang/String;Ljava/lang/String;)V"
  | _ => "()Ljava/lang/String;"

/-- The arguments as native values; null stands for the stream of a listing. -/
def args : Use → List Value
  | find path => [.text path]
  | findColor color => [.color color]
  | cd path => [.text path]
  | ls path recursive => [.text path, .boolean recursive, .null]
  | mkdir path => [.text path]
  | mv oldPath newPath => [.text oldPath, .text newPath]
  | _ => []

/-- The number that the method is asked for by. -/
def index : Use → Nat
  | returnObject => 0
  | returnReference => 1
  | returnPointer => 2
  | returnColor => 3
  | returnConstReference => 4
  | returnConstReferenceConst => 5
  | returnConstReferenceThrows => 6
  | returnConstReferenceConstThrows => 7
  | find _ => 8
  | findColor _ => 9
  | cd _ => 10
  | ls .. => 11
  | mkdir _ => 12
  | mv .. => 13

theorem index_lt (use : Use) : use.index < declared.length := by
  cases use <;> simp [index, declared]

/-- The description of the method. -/
def method (use : Use) : Method :=
  declared.get ⟨use.index, use.index_lt⟩

theorem declared_index (use : Use) : declared[use.index]? = some use.method :=
  List.getElem?_eq_getElem use.index_lt

theorem method_name (use : Use) : use.method.name = use.name := by
  cases use <;> rfl

theorem method_signature (use : Use) : use.method.signature.text = use.signature := by
  cases use <;> rfl

/-- The number of a method is that of the overload with its name and its signature. -/
theorem indexOf_eq (use : Use) : described.indexOf use.name use.signature = .ok use.index := by
  cases use <;> rfl

/-- Each method is read back as its type says. -/
theorem returnsSuited (use : Use) : use.method.ReturnsSuited := by
  cases use <;> exact ⟨rfl, rfl⟩

end Use

end TestObjects

end NativeProxy
