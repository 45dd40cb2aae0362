import NativeProxy.Proofs.Faults
import NativeProxy.Proxy.Invoke

/-!
# Faults of a call

What can go wrong in a call of a method, from the lookup of its index to the conversion of its
result. None of it is a refusal because of the mode of the method: that one comes from the entry
points alone, so it tells a call that was never begun from a call that failed. A result can be of
another type than its plan expects only if the plan does not suit the type the method returns.
-/

namespace NativeProxy

namespace Fault

/-- The fault does not refuse a call because of the mode of its method. -/
def IsOfCall (fault : Fault) : Prop :=
  fault.isCallMode = false

/-- The fault of a call that was refused before the machine was used. It holds no references. -/
structure IsObjection (fault : Fault) : Prop where
  ofCall : fault.IsOfCall
  typed : fault.isWrongType = false
  refs : fault.refs = []

/-- The allowed faults are enough for a call, but for a value of another type than its own. -/
def CoversCalls (allowed : Fault → Prop) : Prop :=
  ∀ fault : Fault, fault.IsOfCall → fault.isWrongType = false → allowed fault

theorem CoversCalls.toCovers {allowed : Fault → Prop} (covers : CoversCalls allowed) :
    Covers allowed where
  jni _ typed := covers _ rfl typed
  thrown _ _ _ := covers _ rfl rfl

end Fault

/-! ## Checking -/

namespace Method

variable {method : Method} {policy : Policy} {fault : Fault}

theorem checkArgument_fault {index : Nat} {plan : Plan} {value : Value}
    (refused : method.checkArgument policy index plan value = .error fault) :
    fault.IsObjection := by
  rw [checkArgument.eq_def] at refused
  split at refused
  · split at refused
    · exact absurd refused (by simp)
    · exact Except.error.inj refused ▸ ⟨rfl, rfl, rfl⟩
  · split at refused
    · exact absurd refused (by simp)
    · exact Except.error.inj refused ▸ ⟨rfl, rfl, rfl⟩

theorem checkFrom_fault {index : Nat} {plans : List Plan} {args : List Value}
    (refused : method.checkFrom policy index plans args = .error fault) : fault.IsObjection := by
  induction plans generalizing index args with
  | nil => exact absurd refused (by simp [checkFrom])
  | cons plan plans ih =>
      cases args with
      | nil => exact absurd refused (by simp [checkFrom])
      | cons value args =>
          rw [checkFrom] at refused
          cases first : method.checkArgument policy index plan value with
          | error early =>
              rw [first] at refused
              exact Except.error.inj refused ▸ checkArgument_fault first
          | ok _ =>
              rw [first] at refused
              exact ih refused

theorem checkArguments_fault {args : List Value}
    (refused : method.checkArguments args policy = .error fault) : fault.IsObjection := by
  rw [checkArguments] at refused
  split at refused
  · exact checkFrom_fault refused
  · exact Except.error.inj refused ▸ ⟨rfl, rfl, rfl⟩

end Method

/-! ## Reading a result -/

/-- The plan reads raw values of this kind. -/
def Plan.Reads (raw : RawValue) : Plan → Prop
  | .primitive type => raw.kind = .primitive type
  | _ => raw.kind = .reference

namespace RawValue

variable {raw : RawValue} {fault : Fault}

theorem reference_eq_error (refused : raw.reference? = .error fault) :
    raw.kind ≠ .reference ∧ ∃ actual, fault = .jni (.wrongValueType "object" actual) := by
  cases raw with
  | reference object => exact absurd refused (by simp [reference?])
  | _ => exact ⟨by simp [kind], _, (Except.error.inj refused).symm⟩

theorem primitiveValue_eq_error {type : Primitive}
    (refused : raw.primitiveValue type = .error fault) :
    raw.kind ≠ .primitive type ∧
      ∃ expected actual, fault = .jni (.wrongValueType expected actual) := by
  cases type <;> cases raw <;> cases refused <;> exact ⟨by simp [kind], _, _, rfl⟩

end RawValue

/-! ## Converting -/

namespace Fault.CoversCalls

open Jni (Ends)

variable {host : Host} {allowed : Fault → Prop}

theorem rawPrimitive (covers : CoversCalls allowed) (value : Value) :
    Ends host allowed (fun _ => True) (Jni.resume value.rawPrimitive) := by
  apply Ends.resume fun _ _ => trivial
  intro fault refused
  rw [Value.rawPrimitive.eq_def] at refused
  split at refused
  all_goals cases refused
  exact covers _ rfl rfl

theorem convertArgument (covers : CoversCalls allowed) (method : Method) (index : Nat)
    (plan : Plan) (value : Value) :
    Ends host allowed (fun _ => True) (Jni.convertArgument method index plan value) := by
  rw [Jni.convertArgument.eq_def]
  split
  · exact (Ends.lift _).bind fun _ _ => Ends.pure trivial
  · exact Ends.pure trivial
  · exact Ends.pure trivial
  · exact Ends.pure trivial
  · exact covers.rawPrimitive _
  · exact (covers.toCovers.newString _).bind fun _ _ => Ends.pure trivial
  · exact (covers.toCovers.makeColor _).bind fun _ _ => Ends.pure trivial
  · exact Ends.pure trivial
  · exact Ends.throw (covers _ rfl rfl)

theorem convertFrom (covers : CoversCalls allowed) (method : Method) (index : Nat)
    (plans : List Plan) (values : List Value) :
    Ends host allowed (fun _ => True) (Jni.convertFrom method index plans values) := by
  induction plans generalizing index values with
  | nil => exact Ends.pure trivial
  | cons plan plans ih =>
      cases values with
      | nil => exact Ends.pure trivial
      | cons value values =>
          rw [Jni.convertFrom]
          apply (covers.convertArgument method index plan value).bind
          intro raw _
          exact (ih _ _).bind fun _ _ => Ends.pure trivial

theorem accessOrFail (covers : CoversCalls allowed) (receiver : Object) (method : MethodId)
    (args : List RawValue) :
    Ends host allowed (fun _ => True) (Jni.accessOrFail receiver method args) := by
  rw [Jni.accessOrFail]
  apply (covers.toCovers.access receiver method args).attempt.bind
  rintro reply ⟨fits, permitted⟩
  apply covers.toCovers.failOnException.bind
  intro _ _
  exact Covers.reference fits permitted

theorem readColor (covers : CoversCalls allowed) (object : Object) :
    Ends host allowed (fun _ => True) (Jni.readColor object) := by
  rw [Jni.readColor]
  apply covers.toCovers.colorClass.bind
  intro color _
  apply (covers.accessOrFail object color.getComponents [.null]).bind
  intro components _
  cases components with
  | none => exact covers.toCovers.fail rfl
  | some array =>
      apply (covers.toCovers.request _ _ _).bind
      intro length _
      split
      · exact Ends.throw (covers _ rfl rfl)
      · have read : Ends host allowed (fun _ => True) (Jni.readFloats array) := by
          apply (covers.toCovers.request _ _ _).bind
          intro _ _
          exact covers.toCovers.check.bind fun _ _ => Ends.pure trivial
        exact read.bind fun _ _ => Ends.pure trivial

/-- A result that is expected to be a reference is one, or values of another type are allowed. -/
theorem reference {raw : RawValue}
    (wrong : raw.kind ≠ .reference → ∀ expected actual,
      allowed (.jni (.wrongValueType expected actual)))
    {next : Object → Jni Value}
    (converted : ∀ object, Ends host allowed (fun _ => True) (next object)) :
    Ends host allowed (fun _ => True) (do
      match ← Jni.resume raw.reference? with
      | none => return .null
      | some object => next object) := by
  have resumed : Ends host allowed (fun _ => True) (Jni.resume raw.reference?) := by
    apply Ends.resume fun _ _ => trivial
    intro fault refused
    rcases RawValue.reference_eq_error refused with ⟨unread, actual, rfl⟩
    exact wrong unread _ _
  apply resumed.bind
  intro object _
  cases object with
  | none => exact Ends.pure trivial
  | some object => exact converted object

theorem convertResult (covers : CoversCalls allowed) {method : Method} {raw : RawValue}
    (wrong : ¬ method.result.Reads raw → ∀ expected actual,
      allowed (.jni (.wrongValueType expected actual))) :
    Ends host allowed (fun _ => True) (Jni.convertResult method raw) := by
  rw [Jni.convertResult.eq_def]
  cases planned : method.result with
  | primitive type =>
      rw [planned] at wrong
      apply Ends.resume fun _ _ => trivial
      intro fault refused
      rcases RawValue.primitiveValue_eq_error refused with ⟨unread, expected, actual, rfl⟩
      exact wrong unread _ _
  | text =>
      rw [planned] at wrong
      apply reference wrong
      intro object
      exact (covers.toCovers.readText _).bind fun _ _ => Ends.pure trivial
  | color =>
      rw [planned] at wrong
      apply reference wrong
      intro object
      exact (covers.readColor object).bind fun _ _ => Ends.pure trivial
  | object =>
      rw [planned] at wrong
      apply reference wrong
      intro object
      exact (covers.toCovers.newGlobalRef _).bind fun _ _ => Ends.pure trivial
  | unsupported nativeType => exact (Ends.lift _).bind fun _ _ => Ends.pure trivial

theorem withFrame (covers : CoversCalls allowed) {α : Type} {operation : Jni α}
    (ends : Ends host allowed (fun _ => True) operation) (capacity : Int)
    (held : α → List GlobalRef) :
    Ends host allowed (fun _ => True) (Jni.withFrame capacity held operation) := by
  intro session
  have asked : Ends host allowed (fun _ => True)
      (Jni.requestStatus .pushLocalFrame .pushLocalFrame (.pushFrame capacity)) :=
    covers.toCovers.requestStatus _ _ _
  have pushed := asked session
  rw [Jni.exec_withFrame]
  rcases requested : (Jni.requestStatus .pushLocalFrame .pushLocalFrame (.pushFrame capacity)).exec
    host session with ⟨missing | code, entered⟩
  · rw [requested] at pushed
    exact pushed
  · have ended := ends entered
    by_cases made : code = 0
    · by_cases provided : host.provides .popLocalFrame = true
      · simp only [made, provided, if_true]
        exact ended
      · simp only [made, provided, if_true, Bool.false_eq_true, if_false]
        exact covers _ rfl rfl
    · simp only [made, if_false]
      exact covers _ rfl rfl

/-! ## Calling -/

theorem callOnce (covers : CoversCalls allowed) (target : Object) {method : Method} (id : MethodId)
    (args : List Value)
    (wrong : ∀ raw : RawValue, raw.kind = method.signature.result.callKind →
      ¬ method.result.Reads raw → ∀ expected actual,
        allowed (.jni (.wrongValueType expected actual))) :
    Ends host allowed (fun _ => True) (Proxy.callOnce target method id args) := by
  rw [Proxy.callOnce]
  apply (covers.convertFrom method 0 method.params args).bind
  intro raws _
  apply (covers.toCovers.invoke _ _ _ _ _).attempt.bind
  rintro reply ⟨fits, permitted⟩
  apply covers.toCovers.failOnException.bind
  intro _ _
  apply (Ends.resume fits permitted).bind
  intro raw kind
  exact covers.convertResult (wrong raw kind)

theorem settle (covers : CoversCalls allowed) {operation : Jni Value}
    (ends : Ends host allowed (fun _ => True) operation) :
    Ends host allowed (fun _ => True) (Proxy.settle operation) := by
  rw [Proxy.settle]
  apply ends.attempt.bind
  rintro outcome ⟨_, permitted⟩
  cases outcome with
  | ok value => exact Ends.pure trivial
  | error fault =>
      apply covers.toCovers.takeException.releasingOnFault.bind
      intro pending taken
      cases pending with
      | none => exact Ends.throw (permitted fault rfl)
      | some exception => exact (Ends.lift _).bind fun _ _ => Ends.throw (taken exception rfl)

/-- The faults of a call are the ordinary ones, and the refusal of a result that the plan of the
method does not read. -/
theorem callMethod (covers : CoversCalls allowed) {proxy : Proxy} {index : Nat}
    (args : List Value)
    (wrong : ∀ (method : Method) (raw : RawValue), proxy.method? index = some method →
      raw.kind = method.signature.result.callKind → ¬ method.result.Reads raw →
        ∀ expected actual, allowed (.jni (.wrongValueType expected actual))) :
    Ends host allowed (fun _ => True) (proxy.callMethod index args) := by
  rw [Proxy.callMethod]
  split
  · exact Ends.throw (covers _ rfl rfl)
  · next method found =>
      split
      · exact Ends.throw (covers _ rfl rfl)
      · have checked : Ends host allowed (fun _ => True)
            (Jni.resume (method.checkArguments args proxy.config.policy)) := by
          apply Ends.resume fun _ _ => trivial
          intro fault refused
          have objection := Method.checkArguments_fault refused
          exact covers _ objection.ofCall objection.typed
        apply checked.bind
        intro _ _
        exact covers.withFrame (covers.settle (covers.callOnce _ _ _ (wrong method · found))) _ _

end Fault.CoversCalls

theorem Proxy.callMethod_ofCall {host : Host} (proxy : Proxy) (index : Nat) (args : List Value) :
    Jni.Ends host Fault.IsOfCall (fun _ => True) (proxy.callMethod index args) :=
  Fault.CoversCalls.callMethod (fun _ ofCall _ => ofCall) args fun _ _ _ _ _ _ _ => rfl

end NativeProxy
