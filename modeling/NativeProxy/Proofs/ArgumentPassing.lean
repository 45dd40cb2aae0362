import Mathlib.Data.List.Forall2
import NativeProxy.Proofs.Faults
import NativeProxy.Proofs.Persistence
import NativeProxy.Proofs.Signature.RoundTrip
import NativeProxy.Vm.Script

/-!
# Passing arguments

The machine reads a raw argument as the type of its parameter says, without looking. This file
shows that arguments which passed the check of a method come out as the types of its signature
demand. The plans of a method suit the types of its signature from the start, and no step that
refines a description changes that; the rest is a comparison of what the check accepts with what
the conversion makes of it.
-/

namespace NativeProxy

/-! ## Plans that suit their types -/

/-- The plan of a primitive parameter copies values of its type; the plan of any other parameter
makes a reference. -/
def Plan.Suits (plan : Plan) : Descriptor → Prop
  | .primitive type => plan = .primitive type
  | .object _ => plan.isReference = true
  | .array _ => plan.isReference = true

namespace Plan

theorem suits_ofType (type : Descriptor) : (ofType type).Suits type := by
  cases type with
  | primitive type => rfl
  | object className => exact isReference_ofType (.object className)
  | array element => exact isReference_ofType (.array element)

theorem suits_of_isReference {plan : Plan} {type : Descriptor} (made : plan.isReference = true)
    (demanded : type.isReference = true) : plan.Suits type := by
  cases type with
  | primitive type => simp at demanded
  | object className => exact made
  | array element => exact made

end Plan

/-- A step that refines the description of a method. -/
inductive Refinement where
  | storing
  | flagging
  | unsupportedParam (index : Nat) (nativeType : String)
  | colorParam (index : Nat)
  | colorResult
deriving DecidableEq, Repr

/-- Refines a description, or refuses to. -/
def Refinement.apply (method : Method) : Refinement → Except Fault Method
  | .storing => .ok method.storing
  | .flagging => .ok method.flagging
  | .unsupportedParam index nativeType => method.withUnsupportedParam index nativeType
  | .colorParam index => method.withColorParam index
  | .colorResult => method.withColorResult

namespace Method

/-- The descriptions that refinements make of the description a signature text gives. -/
inductive Built : Method → Prop where
  | parsed {name signature : String} {method : Method}
      (parses : Method.parse name signature = .ok method) : Built method
  | refined {method next : Method} (refinement : Refinement) (earlier : Built method)
      (refines : refinement.apply method = .ok next) : Built next

/-- Every plan suits the type of its parameter. -/
def IsSuited (method : Method) : Prop :=
  List.Forall₂ Plan.Suits method.params method.signature.params

theorem ofSelector_suited (selector : Selector) : (ofSelector selector).IsSuited := by
  rw [IsSuited]
  change List.Forall₂ _ (selector.signature.params.map Plan.ofType) selector.signature.params
  rw [List.forall₂_map_left_iff, List.forall₂_same]
  intro type _
  exact Plan.suits_ofType type

theorem forall₂_set {plans : List Plan} {types : List Descriptor}
    (suited : List.Forall₂ Plan.Suits plans types) {index : Nat} {plan : Plan} {type : Descriptor}
    (typed : types[index]? = some type) (suits : plan.Suits type) :
    List.Forall₂ Plan.Suits (plans.set index plan) types := by
  induction suited generalizing index with
  | nil => exact .nil
  | cons first rest ih =>
      cases index with
      | zero =>
          rw [List.getElem?_cons_zero, Option.some.injEq] at typed
          exact .cons (typed ▸ suits) rest
      | succ index => exact .cons first (ih typed)

/-- What replacing the plan of a parameter asks for and changes. -/
theorem withParam_eq_ok {method next : Method} {index : Nat} {plan : Plan}
    (refines : method.withParam index plan = .ok next) :
    ∃ type, method.signature.params[index]? = some type ∧
      (plan.isReference = true → type.isReference = true) ∧
      next = { method with params := method.params.set index plan } := by
  rw [withParam] at refines
  split at refines
  · exact absurd refines (by simp)
  · next type found =>
      split at refines
      · exact absurd refines (by simp)
      · next allowed =>
          rw [Except.ok.injEq] at refines
          refine ⟨type, found, ?_, refines.symm⟩
          intro made
          simpa [made] using allowed

theorem withParam_suited {method next : Method} (suited : method.IsSuited) {index : Nat}
    {plan : Plan} (made : plan.isReference = true)
    (refines : method.withParam index plan = .ok next) : next.IsSuited := by
  rcases withParam_eq_ok refines with ⟨type, found, allowed, rfl⟩
  exact forall₂_set suited found (Plan.suits_of_isReference made (allowed made))

theorem withColorResult_eq_ok {method next : Method}
    (refines : method.withColorResult = .ok next) :
    method.signature.result.isReference = true ∧ next = { method with result := .color } := by
  rw [withColorResult] at refines
  split at refines
  · next reference => exact ⟨reference, (Except.ok.inj refines).symm⟩
  · exact absurd refines (by simp)

/-- A refinement replaces the plan of a reference by one that makes a reference. -/
theorem refined_suited {method next : Method} (suited : method.IsSuited) {refinement : Refinement}
    (refines : refinement.apply method = .ok next) : next.IsSuited := by
  cases refinement with
  | storing =>
      rw [Refinement.apply, Except.ok.injEq] at refines
      exact refines ▸ suited
  | flagging =>
      rw [Refinement.apply, Except.ok.injEq] at refines
      exact refines ▸ suited
  | unsupportedParam index nativeType => exact withParam_suited suited rfl refines
  | colorParam index => exact withParam_suited suited rfl refines
  | colorResult =>
      rcases withColorResult_eq_ok refines with ⟨_, rfl⟩
      exact suited

/-- A description that was read follows from the types of its selector. -/
theorem parse_eq_ok {name signature : String} {method : Method}
    (parses : Method.parse name signature = .ok method) :
    ∃ selector, Selector.parse name signature = .ok selector ∧ method = ofSelector selector := by
  rw [Method.parse] at parses
  cases read : Selector.parse name signature with
  | error fault => exact absurd parses (by simp [read, Except.map])
  | ok selector =>
      rw [read, Except.map, Except.ok.injEq] at parses
      exact ⟨selector, rfl, parses.symm⟩

/-- What holds of the descriptions that follow from types, and is kept by refinements, holds of
every description that can be built. -/
theorem Built.preserves {property : Method → Prop}
    (start : ∀ selector, property (ofSelector selector))
    (step : ∀ {method next : Method}, property method → ∀ {refinement : Refinement},
      refinement.apply method = .ok next → property next)
    {method : Method} (built : method.Built) : property method := by
  induction built with
  | parsed parses =>
      rcases parse_eq_ok parses with ⟨selector, _, rfl⟩
      exact start selector
  | refined refinement earlier refines ih => exact step ih refines

theorem Built.suited {method : Method} (built : method.Built) : method.IsSuited :=
  built.preserves ofSelector_suited refined_suited

end Method

/-! ## What is passed -/

/-- A primitive value and the raw value with the same bits. -/
inductive Value.SameBits : Value → RawValue → Prop where
  | boolean (value : Bool) : SameBits (.boolean value) (.boolean value)
  | byte (value : Int8) : SameBits (.byte value) (.byte value)
  | char (value : UInt16) : SameBits (.char value) (.char value)
  | short (value : Int16) : SameBits (.short value) (.short value)
  | int (value : Int32) : SameBits (.int value) (.int value)
  | long (value : Int64) : SameBits (.long value) (.long value)
  | float (value : Binary32) : SameBits (.float value) (.float value)
  | double (value : Binary64) : SameBits (.double value) (.double value)

/-- The raw value is what a parameter of the given type, with the given plan, receives for an
argument. Strings and colours are made between the sessions `start` and `last`. -/
inductive Passed (host : Host) (start last : Session) :
    Descriptor → Plan → Value → RawValue → Prop where
  | primitive {type : Primitive} {value : Value} {raw : RawValue}
      (kind : raw.kind = .primitive type) (same : value.SameBits raw) :
      Passed host start last (.primitive type) (.primitive type) value raw
  | unsupported {type : Descriptor} {nativeType : String} {value : Value}
      (reference : type.isReference = true) :
      Passed host start last type (.unsupported nativeType) value .null
  | null {type : Descriptor} {plan : Plan} (reference : type.isReference = true)
      (made : plan.isReference = true) : Passed host start last type plan .null .null
  | text {type : Descriptor} {text : String} {before after : Session}
      (reference : type.isReference = true) (earlier : start.Precedes before)
      (made : (Jni.newString text).exec host before =
        (.ok (.string (Units.ofText text)), after)) (later : after.Precedes last) :
      Passed host start last type .text (.text text)
        (.reference (some (.string (Units.ofText text))))
  | color {type : Descriptor} {color : Rgba} {before after : Session}
      (reference : type.isReference = true) (earlier : start.Precedes before)
      (made : (Jni.makeColor color).exec host before =
        (.ok (.color (.components color.components)), after)) (later : after.Precedes last) :
      Passed host start last type .color (.color color)
        (.reference (some (.color (.components color.components))))
  | object {type : Descriptor} {ref : GlobalRef} (reference : type.isReference = true) :
      Passed host start last type .object (.object ref) (.reference (some ref.object))

/-- Making the string or the colour that an argument stands for failed. -/
inductive Refused (host : Host) (before : Session) : Value → Fault → Session → Prop where
  | text {text : String} {fault : Fault} {last : Session}
      (failed : (Jni.newString text).exec host before = (.error fault, last)) :
      Refused host before (.text text) fault last
  | color {color : Rgba} {fault : Fault} {last : Session}
      (failed : (Jni.makeColor color).exec host before = (.error fault, last)) :
      Refused host before (.color color) fault last

theorem Descriptor.callKind_of_isReference {type : Descriptor}
    (reference : type.isReference = true) : type.callKind = .reference := by
  cases type with
  | primitive type => simp at reference
  | object className => rfl
  | array element => rfl

theorem Plan.isReference_of_suits {plan : Plan} {type : Descriptor} (suits : plan.Suits type)
    (made : plan.isReference = true) : type.isReference = true := by
  cases type with
  | primitive type =>
      rw [Suits] at suits
      rw [suits] at made
      exact absurd made (by simp [isReference])
  | object className => rfl
  | array element => rfl

theorem Plan.eq_primitive_of_suits {copied : Primitive} {type : Descriptor}
    (suits : (primitive copied).Suits type) : type = .primitive copied := by
  cases type with
  | primitive type =>
      rw [Suits, primitive.injEq] at suits
      rw [suits]
  | object className => exact absurd suits (by simp [Suits, isReference])
  | array element => exact absurd suits (by simp [Suits, isReference])

variable {host : Host}

namespace Passed

variable {start last : Session} {type : Descriptor} {plan : Plan} {value : Value}
  {raw : RawValue}

theorem kind (passed : Passed host start last type plan value raw) : raw.kind = type.callKind := by
  cases passed with
  | primitive kind same => exact kind
  | unsupported reference => exact (Descriptor.callKind_of_isReference reference).symm
  | null reference made => exact (Descriptor.callKind_of_isReference reference).symm
  | text reference earlier made later =>
      exact (Descriptor.callKind_of_isReference reference).symm
  | color reference earlier made later =>
      exact (Descriptor.callKind_of_isReference reference).symm
  | object reference => exact (Descriptor.callKind_of_isReference reference).symm

theorem extend {first final : Session} (passed : Passed host start last type plan value raw)
    (sooner : first.Precedes start) (further : last.Precedes final) :
    Passed host first final type plan value raw := by
  cases passed with
  | primitive kind same => exact .primitive kind same
  | unsupported reference => exact .unsupported reference
  | null reference made => exact .null reference made
  | text reference earlier made later =>
      exact .text reference (sooner.trans earlier) made (later.trans further)
  | color reference earlier made later =>
      exact .color reference (sooner.trans earlier) made (later.trans further)
  | object reference => exact .object reference

end Passed

/-! ## Converting one argument -/

theorem Value.rawPrimitive_of_primitive {value : Value} {type : Primitive}
    (same : value.primitive? = some type) :
    ∃ raw, value.rawPrimitive = .ok raw ∧ raw.kind = .primitive type ∧ value.SameBits raw := by
  cases value <;> simp only [primitive?, Option.some.injEq, reduceCtorEq] at same <;> subst same
  · exact ⟨_, rfl, rfl, .boolean _⟩
  · exact ⟨_, rfl, rfl, .byte _⟩
  · exact ⟨_, rfl, rfl, .char _⟩
  · exact ⟨_, rfl, rfl, .short _⟩
  · exact ⟨_, rfl, rfl, .int _⟩
  · exact ⟨_, rfl, rfl, .long _⟩
  · exact ⟨_, rfl, rfl, .float _⟩
  · exact ⟨_, rfl, rfl, .double _⟩

theorem Method.fits_of_checkArgument {method : Method} {policy : Policy} {index : Nat}
    {plan : Plan} {value : Value}
    (accepted : method.checkArgument policy index plan value = .ok ()) :
    value.fits plan = true := by
  cases plan with
  | unsupported nativeType => cases value <;> rfl
  | _ =>
      rw [checkArgument] at accepted
      · split at accepted
        · assumption
        · exact absurd accepted (by simp)
      · simp

namespace Value

theorem fits_text {value : Value} (fits : value.fits .text = true) :
    value = .null ∨ ∃ text, value = .text text := by
  cases value <;> simp_all [Value.fits]

theorem fits_color {value : Value} (fits : value.fits .color = true) :
    value = .null ∨ ∃ color, value = .color color := by
  cases value <;> simp_all [Value.fits]

theorem fits_object {value : Value} (fits : value.fits .object = true) :
    value = .null ∨ ∃ ref, value = .object ref := by
  cases value <;> simp_all [Value.fits]

theorem fits_primitive {value : Value} {type : Primitive}
    (fits : value.fits (.primitive type) = true) : value.primitive? = some type := by
  cases value <;> simp_all [Value.fits]

end Value

namespace Jni

variable {session last : Session}

theorem newString_eq_ok {text : String} {object : Object}
    (ran : (newString text).exec host session = (.ok object, last)) :
    object = .string (Units.ofText text) :=
  exec_bind_pure_eq_ok ran

theorem newColor_eq_ok {color : Rgba} {object : Object}
    (ran : (newColor color).exec host session = (.ok object, last)) :
    object = .color (.components color.components) :=
  exec_bind_pure_eq_ok ran

theorem makeColor_eq_ok {color : Rgba} {object : Object}
    (ran : (makeColor color).exec host session = (.ok object, last)) :
    object = .color (.components color.components) := by
  rw [makeColor] at ran
  rcases exec_bind_eq_ok ran with ⟨_, found, _, rest⟩
  rcases exec_bind_eq_ok rest with ⟨made, attempted, attempting, rest⟩
  rcases exec_bind_eq_ok rest with ⟨_, checked, _, resumed⟩
  simp only [exec_attempt, Prod.mk.injEq, Except.ok.injEq] at attempting
  simp only [exec_resume, Prod.mk.injEq] at resumed
  apply newColor_eq_ok
  exact Prod.ext (attempting.1.trans resumed.1) rfl

/-- An object that is made for an argument is passed by reference. -/
theorem reference_of_made {making : Jni Object} {object : Object} {raw : RawValue}
    (makes : ∀ {made between}, making.exec host session = (.ok made, between) → made = object)
    (ran : Jni.exec (do return .reference (some (← making))) host session = (.ok raw, last)) :
    raw = .reference (some object) := by
  rcases exec_bind_eq_ok ran with ⟨made, between, began, ended⟩
  cases ended
  rw [makes began]

/-- An argument that its plan accepts is passed, or its string or colour cannot be made. -/
theorem convertArgument_outcome {method : Method} {policy : Policy} {index : Nat} {plan : Plan}
    {type : Descriptor} {value : Value} (suits : plan.Suits type)
    (accepted : method.checkArgument policy index plan value = .ok ()) (session : Session) :
    (∃ raw last, (convertArgument method index plan value).exec host session = (.ok raw, last) ∧
      Passed host session last type plan value raw) ∨
    ∃ fault last, (convertArgument method index plan value).exec host session =
        (.error fault, last) ∧ Refused host session value fault last := by
  have fits := Method.fits_of_checkArgument accepted
  cases plan with
  | unsupported nativeType =>
      exact .inl ⟨_, _, rfl, .unsupported (Plan.isReference_of_suits suits rfl)⟩
  | primitive copied =>
      rcases Value.rawPrimitive_of_primitive (Value.fits_primitive fits) with
        ⟨raw, converted, kind, same⟩
      have ran : (convertArgument method index (.primitive copied) value).exec host session =
          (.ok raw, session) := by
        rw [← converted]
        rfl
      have demanded := Plan.eq_primitive_of_suits suits
      subst demanded
      exact .inl ⟨raw, session, ran, .primitive kind same⟩
  | text =>
      have reference := Plan.isReference_of_suits suits rfl
      rcases Value.fits_text fits with rfl | ⟨text, rfl⟩
      · exact .inl ⟨_, _, rfl, .null reference rfl⟩
      · rw [convertArgument]
        rcases ran : (newString text).exec host session with ⟨fault | object, last⟩
        · exact .inr ⟨_, _, exec_bind_of_error ran _, .text ran⟩
        · have same := newString_eq_ok ran
          subst same
          exact .inl ⟨_, _, exec_bind_of_ok ran _,
            .text reference (.refl session) ran (.refl last)⟩
  | color =>
      have reference := Plan.isReference_of_suits suits rfl
      rcases Value.fits_color fits with rfl | ⟨color, rfl⟩
      · exact .inl ⟨_, _, rfl, .null reference rfl⟩
      · rw [convertArgument]
        rcases ran : (makeColor color).exec host session with ⟨fault | object, last⟩
        · exact .inr ⟨_, _, exec_bind_of_error ran _, .color ran⟩
        · have same := makeColor_eq_ok ran
          subst same
          exact .inl ⟨_, _, exec_bind_of_ok ran _,
            .color reference (.refl session) ran (.refl last)⟩
  | object =>
      have reference := Plan.isReference_of_suits suits rfl
      rcases Value.fits_object fits with rfl | ⟨ref, rfl⟩
      · exact .inl ⟨_, _, rfl, .null reference rfl⟩
      · exact .inl ⟨_, _, rfl, .object reference⟩

end Jni

/-! ## Converting all arguments -/

/-- Each parameter receives the raw value of its kind that stands for its argument. -/
structure Passes (host : Host) (start last : Session) (types : List Descriptor)
    (plans : List Plan) (args : List Value) (raws : List RawValue) : Prop where
  length : raws.length = types.length
  each : ∀ (index : Nat) (type : Descriptor), types[index]? = some type →
    ∃ (plan : Plan) (value : Value) (raw : RawValue),
      plans[index]? = some plan ∧ args[index]? = some value ∧ raws[index]? = some raw ∧
        raw.kind = type.callKind ∧ Passed host start last type plan value raw

theorem Passes.cons {start between last : Session} {type : Descriptor} {types : List Descriptor}
    {plan : Plan} {plans : List Plan} {value : Value} {args : List Value} {raw : RawValue}
    {raws : List RawValue} (first : Passed host start between type plan value raw)
    (earlier : start.Precedes between) (rest : Passes host between last types plans args raws)
    (later : between.Precedes last) :
    Passes host start last (type :: types) (plan :: plans) (value :: args) (raw :: raws) where
  length := by
    rw [List.length_cons, List.length_cons, rest.length]
  each index found typed := by
    cases index with
    | zero =>
        rw [List.getElem?_cons_zero, Option.some.injEq] at typed
        subst typed
        exact ⟨plan, value, raw, rfl, rfl, rfl, first.kind, first.extend (.refl start) later⟩
    | succ index =>
        rcases rest.each index found typed with
          ⟨plan, value, raw, planned, given, made, kind, passed⟩
        exact ⟨plan, value, raw, planned, given, made, kind, passed.extend earlier (.refl last)⟩

theorem Method.checkFrom_eq_ok {method : Method} {policy : Policy} {index : Nat} {plan : Plan}
    {plans : List Plan} {value : Value} {args : List Value}
    (accepted : method.checkFrom policy index (plan :: plans) (value :: args) = .ok ()) :
    method.checkArgument policy index plan value = .ok () ∧
      method.checkFrom policy (index + 1) plans args = .ok () := by
  rw [checkFrom] at accepted
  cases first : method.checkArgument policy index plan value with
  | error fault =>
      rw [first] at accepted
      exact absurd accepted (by simp [Bind.bind, Except.bind])
  | ok _ =>
      rw [first] at accepted
      exact ⟨rfl, accepted⟩

namespace Jni

theorem convertFrom_outcome {method : Method} {policy : Policy} {index : Nat}
    {types : List Descriptor} {plans : List Plan} {args : List Value}
    (suited : List.Forall₂ Plan.Suits plans types) (same : plans.length = args.length)
    (accepted : method.checkFrom policy index plans args = .ok ()) (session : Session) :
    (∃ raws last, (convertFrom method index plans args).exec host session = (.ok raws, last) ∧
      Passes host session last types plans args raws) ∨
    ∃ fault last, (convertFrom method index plans args).exec host session =
        (.error fault, last) ∧
      ∃ value ∈ args, ∃ before, session.Precedes before ∧
        Refused host before value fault last := by
  induction suited generalizing index args session with
  | nil =>
      refine .inl ⟨[], session, ?_, ⟨rfl, fun index type found => absurd found (by simp)⟩⟩
      cases args <;> rfl
  | @cons plan type plans types suits suited ih =>
      cases args with
      | nil => simp at same
      | cons value args =>
          rcases Method.checkFrom_eq_ok accepted with ⟨headAccepted, restAccepted⟩
          have shorter : plans.length = args.length := by simpa using same
          rw [convertFrom]
          rcases convertArgument_outcome suits headAccepted session with
            ⟨raw, between, ran, passed⟩ | ⟨fault, last, ran, refused⟩
          · have earlier : session.Precedes between :=
              (Session.Precedes.sustained.endures.convertArgument method index plan value).after
                (.refl session) ran
            rcases ih shorter restAccepted between with
              ⟨raws, last, ranRest, passes⟩ | ⟨fault, last, ranRest, later, among, refusal⟩
            · have after : between.Precedes last :=
                (Session.Precedes.sustained.endures.convertFrom method _ plans args).after
                  (.refl between) ranRest
              refine .inl ⟨raw :: raws, last, ?_, .cons passed earlier passes after⟩
              rw [exec_bind_of_ok ran, exec_bind_of_ok ranRest]
              exact exec_pure _ host last
            · rcases refusal with ⟨before, since, refused⟩
              refine .inr ⟨fault, last, ?_, later, List.mem_cons_of_mem value among, before,
                earlier.trans since, refused⟩
              rw [exec_bind_of_ok ran]
              exact exec_bind_of_error ranRest _
          · exact .inr ⟨fault, last, exec_bind_of_error ran _, value, List.mem_cons_self, session,
              .refl session, refused⟩

theorem refused_isForeign {before last : Session} {value : Value} {fault : Fault}
    (refused : Refused host before value fault last) : fault.IsForeign := by
  cases refused with
  | @text text _ _ failed => exact (Fault.Covers.isForeign.newString text).fault_allowed failed
  | @color color _ _ failed => exact (Fault.Covers.isForeign.makeColor color).fault_allowed failed

/-- The arguments that the check of a method accepts are passed as the types of its signature
demand, unless the machine fails to make a string or a colour. -/
theorem convertArguments_respects_signature {method : Method} (built : method.Built)
    {args : List Value} {policy : Policy} (accepted : method.checkArguments args policy = .ok ())
    (host : Host) (session : Session) :
    (∃ raws last, (convertArguments method args).exec host session = (.ok raws, last) ∧
      Passes host session last method.signature.params method.params args raws) ∨
    ∃ fault last, (convertArguments method args).exec host session = (.error fault, last) ∧
      fault.IsForeign ∧ ∃ value ∈ args, ∃ before, session.Precedes before ∧
        Refused host before value fault last := by
  rw [Method.checkArguments] at accepted
  split at accepted
  · next same =>
      rcases convertFrom_outcome built.suited same accepted session with
        passed | ⟨fault, last, ran, value, among, before, earlier, refused⟩
      · exact .inl passed
      · exact .inr ⟨fault, last, ran, refused_isForeign refused, value, among, before, earlier,
          refused⟩
  · exact absurd accepted (by simp)

end Jni

/-! ## A method with every kind of parameter -/

theorem Method.parse_text {signature : Signature} (wellFormed : signature.WellFormed)
    (name : String) : parse name signature.text = .ok (ofSelector ⟨name, signature⟩) := by
  have read : Selector.parse name signature.text = .ok ⟨name, signature⟩ :=
    Selector.parse_eq_ok.mpr ⟨rfl, wellFormed, rfl⟩
  rw [parse, read]
  rfl

/-- A number, a string, a colour passed as an object, and a paint without a native form. -/
def Signature.painting : Signature where
  params := [.primitive .int, .object Descriptor.stringClass, .object "java/lang/Object",
    .object "java/lang/Object"]
  result := .primitive .void

theorem Signature.painting_wellFormed : painting.WellFormed := by
  refine ⟨?_, .inl rfl⟩
  intro type among
  simp only [painting, List.mem_cons, List.not_mem_nil, or_false] at among
  rcases among with rfl | rfl | rfl | rfl
  · exact Primitive.noConfusion
  · exact ⟨by decide, by decide⟩
  · exact ⟨by decide, by decide⟩
  · exact ⟨by decide, by decide⟩

/-- The description of the method with `Signature.painting`. -/
def Method.painting : Method where
  selector := ⟨"paint", .painting⟩
  params := [.primitive .int, .text, .color, .unsupported "SkPaint"]
  result := .primitive .void
  mode := .byValue
  flagsFailure := false

theorem Method.painting_built : painting.Built := by
  have parsed := Built.parsed (parse_text Signature.painting_wellFormed "paint")
  have coloured : Built { painting with params := [.primitive .int, .text, .color, .object] } :=
    .refined (.colorParam 2) parsed rfl
  exact .refined (.unsupportedParam 3 "SkPaint") coloured rfl

/-- Arguments for `Method.painting`. -/
def Value.painting : List Value :=
  [.int 7, .text "title", .color .zero, .null]

theorem Jni.convertArguments_respects_painting :
    Method.painting.checkArguments Value.painting .passNull = .ok () ∧
      ((∃ raws last,
        (convertArguments .painting Value.painting).exec ({} : Script).host {} =
            (.ok raws, last) ∧
          Passes ({} : Script).host {} last Signature.painting.params Method.painting.params
            Value.painting raws) ∨
      ∃ fault last,
        (convertArguments .painting Value.painting).exec ({} : Script).host {} =
            (.error fault, last) ∧
          fault.IsForeign ∧ ∃ value ∈ Value.painting, ∃ before, ({} : Session).Precedes before ∧
            Refused ({} : Script).host before value fault last) := by
  have accepted : Method.painting.checkArguments Value.painting .passNull = .ok () := rfl
  exact ⟨accepted, convertArguments_respects_signature Method.painting_built accepted
    ({} : Script).host {}⟩

end NativeProxy
