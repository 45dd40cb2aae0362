import NativeProxy.Proofs.ArgumentPassing
import NativeProxy.Proofs.Calls

/-!
# Handing results back

The signature of a method decides which call function is used, and with it the kind of the raw value
that comes back; the plan of the result decides what that value is read as. This file shows that the
two agree for every description that can be built, so that no result is ever refused because of its
type, and that what a caller receives, or a proxy stores, is what the method returned.
-/

namespace NativeProxy

/-! ## Plans of results -/

theorem Plan.isUnsupported_ofType (type : Descriptor) : (ofType type).isUnsupported = false := by
  cases type with
  | primitive type => rfl
  | object className =>
      unfold ofType
      split
      · rfl
      · split <;> rfl
  | array element => rfl

theorem Plan.reads_of_isReference {plan : Plan} {raw : RawValue} (made : plan.isReference = true)
    (kind : raw.kind = .reference) : plan.Reads raw := by
  cases plan with
  | primitive type => exact absurd made (by simp [isReference])
  | _ => exact kind

namespace Method

/-- The plan of the result converts values of the type that the method returns. -/
structure ReturnsSuited (method : Method) : Prop where
  suits : method.result.Suits method.signature.result
  supported : method.result.isUnsupported = false

theorem ofSelector_returnsSuited (selector : Selector) : (ofSelector selector).ReturnsSuited where
  suits := Plan.suits_ofType selector.signature.result
  supported := Plan.isUnsupported_ofType selector.signature.result

theorem refined_returnsSuited {method next : Method} (suited : method.ReturnsSuited)
    {refinement : Refinement} (refines : refinement.apply method = .ok next) :
    next.ReturnsSuited := by
  -- Only the last of the steps touches the result.
  cases refinement with
  | storing =>
      rw [Refinement.apply, Except.ok.injEq] at refines
      exact refines ▸ ⟨suited.suits, suited.supported⟩
  | flagging =>
      rw [Refinement.apply, Except.ok.injEq] at refines
      exact refines ▸ ⟨suited.suits, suited.supported⟩
  | unsupportedParam index nativeType =>
      rcases withParam_eq_ok refines with ⟨_, _, _, rfl⟩
      exact ⟨suited.suits, suited.supported⟩
  | colorParam index =>
      rcases withParam_eq_ok refines with ⟨_, _, _, rfl⟩
      exact ⟨suited.suits, suited.supported⟩
  | colorResult =>
      rcases withColorResult_eq_ok refines with ⟨reference, rfl⟩
      exact ⟨Plan.suits_of_isReference rfl reference, rfl⟩

theorem Built.returnsSuited {method : Method} (built : method.Built) : method.ReturnsSuited :=
  built.preserves ofSelector_returnsSuited refined_returnsSuited

/-- The call function that the signature asks for returns values that the plan reads. -/
theorem ReturnsSuited.reads {method : Method} (suited : method.ReturnsSuited) {raw : RawValue}
    (kind : raw.kind = method.signature.result.callKind) : method.result.Reads raw := by
  have suits := suited.suits
  cases returned : method.signature.result with
  | primitive type =>
      rw [returned] at suits kind
      rw [show method.result = .primitive type from suits]
      exact kind
  | object className =>
      rw [returned] at suits kind
      exact Plan.reads_of_isReference suits kind
  | array element =>
      rw [returned] at suits kind
      exact Plan.reads_of_isReference suits kind

end Method

/-! ## What is handed back -/

/-- The value is what a method that returns the given type, with the given plan for its result,
hands back for a raw value. -/
inductive Received : Descriptor → Plan → RawValue → Value → Prop where
  | void : Received (.primitive .void) (.primitive .void) .void .void
  | primitive {type : Primitive} {raw : RawValue} {value : Value}
      (typed : value.primitive? = some type) (same : value.SameBits raw) :
      Received (.primitive type) (.primitive type) raw value
  | null {type : Descriptor} {plan : Plan} (reference : type.isReference = true)
      (converts : plan.isReference = true) (supported : plan.isUnsupported = false) :
      Received type plan .null .null
  | text {type : Descriptor} (reference : type.isReference = true) (units : Units) :
      Received type .text (.reference (some (.string units))) (.text units.toText)
  | color {type : Descriptor} (reference : type.isReference = true) (object : Object)
      (color : Rgba) : Received type .color (.reference (some object)) (.color color)
  | object {type : Descriptor} (reference : type.isReference = true) (ref : GlobalRef) :
      Received type .object (.reference (some ref.object)) (.object ref)

namespace Received

variable {type : Descriptor} {plan : Plan} {raw : RawValue} {value : Value}

/-- Null is received exactly if null was returned. -/
theorem eq_null_iff (received : Received type plan raw value) : value = .null ↔ raw = .null := by
  cases received with
  | void => simp [RawValue.null]
  | primitive typed same => cases same <;> simp [RawValue.null]
  | null reference converts supported => simp
  | text reference units => simp [RawValue.null]
  | color reference object color => simp [RawValue.null]
  | object reference ref => simp [RawValue.null]

theorem fits (received : Received type plan raw value) :
    value.fits plan = true ∨ value = .void ∧ type = .primitive .void := by
  cases received with
  | void => exact .inr ⟨rfl, rfl⟩
  | primitive typed same =>
      left
      cases same <;> simp [Value.fits, typed]
  | null reference converts supported =>
      left
      cases plan with
      | primitive type => exact absurd converts (by simp [Plan.isReference])
      | _ => rfl
  | text reference units => exact .inl rfl
  | color reference object color => exact .inl rfl
  | object reference ref => exact .inl rfl

theorem of_text (received : Received type .text raw value) :
    value = .null ∨ ∃ text, value = .text text := by
  cases received with
  | null => exact .inl rfl
  | text _ units => exact .inr ⟨_, rfl⟩

theorem of_color (received : Received type .color raw value) :
    value = .null ∨ ∃ color, value = .color color := by
  cases received with
  | null => exact .inl rfl
  | color _ _ color => exact .inr ⟨color, rfl⟩

theorem of_void (received : Received type (.primitive .void) raw value) : value = .void := by
  cases received with
  | void => rfl
  | primitive typed _ => cases value <;> simp [Value.primitive?] at typed
  | null _ converts _ => simp [Plan.isReference] at converts

theorem of_boolean (received : Received type (.primitive .boolean) raw value) :
    ∃ truth, value = .boolean truth := by
  cases received with
  | primitive typed _ =>
      cases value with
      | boolean truth => exact ⟨truth, rfl⟩
      | _ => simp [Value.primitive?] at typed
  | null _ converts _ => simp [Plan.isReference] at converts

end Received

/-! ## Converting a result -/

theorem RawValue.primitiveValue_eq_ok {type : Primitive} {raw : RawValue} {value : Value}
    (kind : raw.kind = .primitive type) (read : raw.primitiveValue type = .ok value) :
    Received (.primitive type) (.primitive type) raw value := by
  cases raw <;> simp only [RawValue.kind, CallKind.primitive.injEq, reduceCtorEq] at kind <;>
    subst kind <;> cases read
  · exact .void
  · exact .primitive rfl (.boolean _)
  · exact .primitive rfl (.byte _)
  · exact .primitive rfl (.char _)
  · exact .primitive rfl (.short _)
  · exact .primitive rfl (.int _)
  · exact .primitive rfl (.long _)
  · exact .primitive rfl (.float _)
  · exact .primitive rfl (.double _)

namespace Jni

variable {host : Host} {session after : Session}

theorem readText_eq_ok {object : Object} {text : String}
    (ran : (readText (some object)).exec host session = (.ok text, after)) :
    ∃ units, object = .string units ∧ text = units.toText := by
  unfold readText at ran
  rcases exec_bind_eq_ok ran with ⟨_, found, _, rest⟩
  rcases exec_bind_eq_ok rest with ⟨_, classed, _, rest⟩
  rcases exec_bind_eq_ok rest with ⟨_, compared, _, rest⟩
  split at rest
  · next isString =>
      rcases exec_bind_eq_ok rest with ⟨_, read, _, rest⟩
      rcases exec_bind_eq_ok rest with ⟨_, checked, _, ending⟩
      simp only [exec_pure, Prod.mk.injEq, Except.ok.injEq] at ending
      cases object with
      | string units => exact ⟨units, rfl, ending.1.symm⟩
      | _ => exact absurd isString (by simp [Object.isString])
  · rcases exec_bind_eq_ok rest with ⟨_, _, refused, _⟩
    exact absurd refused (by simp)

theorem newGlobalRef_eq_ok {object : Object} {ref : GlobalRef}
    (ran : (newGlobalRef object).exec host session = (.ok ref, after)) : ref.object = object := by
  rw [newGlobalRef] at ran
  rcases exec_bind_eq_ok ran with ⟨_, found, _, requested⟩
  rw [exec_request] at requested
  split at requested
  · simp only [Prod.mk.injEq, Except.ok.injEq] at requested
    rw [← requested.1]
  · exact absurd requested (by simp)

/-- A result that is a reference is null, or the object is converted. -/
theorem reference_eq_ok {type : Descriptor} {plan : Plan} (suits : plan.Suits type)
    (converts : plan.isReference = true) (supported : plan.isUnsupported = false) {raw : RawValue}
    {value : Value} {next : Object → Jni Value}
    (received : ∀ object, (next object).exec host session = (.ok value, after) →
      Received type plan (.reference (some object)) value)
    (ran : Jni.exec (do
      match ← resume raw.reference? with
      | none => return .null
      | some object => next object) host session = (.ok value, after)) :
    Received type plan raw value := by
  rcases exec_bind_eq_ok ran with ⟨object, same, resumed, rest⟩
  simp only [exec_resume, Prod.mk.injEq] at resumed
  rcases resumed with ⟨read, rfl⟩
  have returned : raw = .reference object := by
    cases raw with
    | reference given => exact congrArg _ (Except.ok.inj read)
    | _ => exact absurd read (by simp [RawValue.reference?])
  subst returned
  cases object with
  | none =>
      simp only [exec_pure, Prod.mk.injEq, Except.ok.injEq] at rest
      exact rest.1 ▸ .null (Plan.isReference_of_suits suits converts) converts supported
  | some object => exact received object rest

theorem convertResult_eq_ok {method : Method} (suited : method.ReturnsSuited) {raw : RawValue}
    (kind : raw.kind = method.signature.result.callKind) {value : Value}
    (ran : (convertResult method raw).exec host session = (.ok value, after)) :
    Received method.signature.result method.result raw value := by
  have suits := suited.suits
  have supported := suited.supported
  rw [convertResult.eq_def] at ran
  split at ran
  · next type planned =>
      rw [planned] at suits
      rw [Plan.eq_primitive_of_suits suits] at kind ⊢
      rw [planned]
      simp only [exec_resume, Prod.mk.injEq] at ran
      exact RawValue.primitiveValue_eq_ok kind ran.1
  · next planned =>
      rw [planned] at suits ⊢
      refine reference_eq_ok suits rfl rfl ?_ ran
      intro object converted
      rcases exec_bind_eq_ok converted with ⟨text, last, read, ending⟩
      simp only [exec_pure, Prod.mk.injEq, Except.ok.injEq] at ending
      rcases readText_eq_ok read with ⟨units, rfl, rfl⟩
      exact ending.1 ▸ .text (Plan.isReference_of_suits suits rfl) units
  · next planned =>
      rw [planned] at suits ⊢
      refine reference_eq_ok suits rfl rfl ?_ ran
      intro object converted
      rcases exec_bind_eq_ok converted with ⟨color, last, _, ending⟩
      simp only [exec_pure, Prod.mk.injEq, Except.ok.injEq] at ending
      exact ending.1 ▸ .color (Plan.isReference_of_suits suits rfl) object color
  · next planned =>
      rw [planned] at suits ⊢
      refine reference_eq_ok suits rfl rfl ?_ ran
      intro object converted
      rcases exec_bind_eq_ok converted with ⟨ref, last, referred, ending⟩
      simp only [exec_pure, Prod.mk.injEq, Except.ok.injEq] at ending
      rcases newGlobalRef_eq_ok referred with rfl
      exact ending.1 ▸ .object (Plan.isReference_of_suits suits rfl) ref
  · next nativeType planned =>
      rw [planned] at supported
      exact absurd supported (by simp [Plan.isUnsupported])

end Jni

/-! ## Calls -/

/-- The machine answers a call with the value the method returns. A value of another kind than that
of the call reads as the default of the kind. -/
inductive Host.Answers (host : Host) (history : History) (target : Object) (id : MethodId)
    (kind : CallKind) (args : List RawValue) : RawValue → Prop where
  | returned {raw : RawValue} (returns : (target.respond? id.name).getD
      (host.invoke history target id args) = .returns raw) (typed : raw.kind = kind) :
      Answers host history target id kind args raw
  | mistyped {raw : RawValue} (returns : (target.respond? id.name).getD
      (host.invoke history target id args) = .returns raw) (mistyped : raw.kind ≠ kind) :
      Answers host history target id kind args kind.default

/-- Between two histories the method was called, and the machine answered with the value. -/
def Host.Returned (host : Host) (start finish : History) (target : Object) (id : MethodId)
    (kind : CallKind) (raw : RawValue) : Prop :=
  ∃ args before after, finish = start ++ before ++ .call target id kind args :: after ∧
    host.Answers (start ++ before) target id kind args raw

section Returned

variable {host : Host} {target : Object} {id : MethodId} {kind : CallKind} {raw : RawValue}

theorem Host.Answers.kind_eq {history : History} {args : List RawValue}
    (answers : host.Answers history target id kind args raw) : raw.kind = kind := by
  cases answers with
  | returned returns typed => exact typed
  | mistyped returns mistyped => exact CallKind.kind_default kind

theorem Host.Returned.kind_eq {start finish : History}
    (returned : host.Returned start finish target id kind raw) : raw.kind = kind := by
  rcases returned with ⟨args, before, after, _, answers⟩
  exact answers.kind_eq

theorem Host.Returned.extend {start finish first last : History}
    (returned : host.Returned start finish target id kind raw) (sooner : first <+: start)
    (later : finish <+: last) : host.Returned first last target id kind raw := by
  rcases returned with ⟨args, before, after, rfl, answers⟩
  rcases sooner with ⟨earlier, rfl⟩
  rcases later with ⟨further, rfl⟩
  refine ⟨args, earlier ++ before, after ++ further, by simp, ?_⟩
  rw [← List.append_assoc]
  exact answers

end Returned

namespace Jni

variable {host : Host} {session after : Session} {target : Object} {id : MethodId}
  {kind : CallKind} {args : List RawValue} {raw : RawValue}

/-- A call that succeeded was answered with a value, since an exception would not have passed the
check that follows. -/
theorem call_answers (ran : (call target id kind args).exec host session = (.ok raw, after)) :
    host.Answers session.history target id kind args raw ∧
      (session.record (.call target id kind args)).Precedes after := by
  rw [call, invoke] at ran
  rcases exec_bind_eq_ok ran with ⟨outcome, between, requested, answered⟩
  have later : between.Precedes after :=
    (Session.Precedes.robust.steady.answered kind outcome).after (.refl between) answered
  rw [exec_request] at requested
  split at requested
  · simp only [Prod.mk.injEq, Except.ok.injEq] at requested
    rcases requested with ⟨settled, rfl⟩
    refine ⟨?_, later⟩
    cases outcome with
    | returns value =>
        rcases exec_bind_eq_ok answered with ⟨_, checked, _, ending⟩
        simp only [exec_pure, Prod.mk.injEq, Except.ok.injEq] at ending
        rw [← ending.1, CallKind.narrow]
        split
        · next typed => exact .returned settled typed
        · next mistyped => exact .mistyped settled mistyped
    | throws exception =>
        rcases exec_bind_eq_ok answered with ⟨_, raised, raising, rest⟩
        rcases exec_bind_eq_ok rest with ⟨_, checked, passed, _⟩
        have quiet := quiet_of_check_eq_ok passed
        simp only [exec_lift, Prod.mk.injEq] at raising
        rw [← raising.2] at quiet
        exact absurd quiet (Option.some_ne_none exception)
  · exact absurd requested (by simp)

theorem call_eq_ok (ran : (call target id kind args).exec host session = (.ok raw, after)) :
    host.Returned session.history after.history target id kind raw := by
  rcases call_answers ran with ⟨answers, later⟩
  rcases later.history with ⟨rest, longer⟩
  refine ⟨args, [], rest, by simpa [Session.record] using longer.symm, ?_⟩
  rw [List.append_nil]
  exact answers

end Jni

/-- Between two histories the bound method returned what was handed back as the given value. -/
def Method.HandsBack (host : Host) (start finish : History) (target : Object) (id : MethodId)
    (method : Method) (value : Value) : Prop :=
  ∃ raw, host.Returned start finish target id method.signature.result.callKind raw ∧
    Received method.signature.result method.result raw value

theorem Method.HandsBack.extend {host : Host} {target : Object} {id : MethodId} {method : Method}
    {value : Value} {start finish first last : History}
    (handed : method.HandsBack host start finish target id value) (sooner : first <+: start)
    (later : finish <+: last) : method.HandsBack host first last target id value := by
  rcases handed with ⟨raw, returned, received⟩
  exact ⟨raw, returned.extend sooner later, received⟩

namespace Proxy

variable {host : Host} {session after : Session} {value : Value}

theorem callOnce_eq_ok {target : Object} {method : Method} (suited : method.ReturnsSuited)
    {id : MethodId} {args : List Value}
    (ran : (callOnce target method id args).exec host session = (.ok value, after)) :
    method.HandsBack host session.history after.history target id value := by
  rw [callOnce] at ran
  rcases Jni.exec_bind_eq_ok ran with ⟨raws, before, converted, rest⟩
  rcases Jni.exec_bind_eq_ok rest with ⟨reply, called, attempted, rest⟩
  have concluded := rest
  rcases Jni.exec_bind_eq_ok rest with ⟨_, checked, _, rest⟩
  rcases Jni.exec_bind_eq_ok rest with ⟨raw, same, resumed, converting⟩
  simp only [Jni.exec_resume, Prod.mk.injEq] at resumed
  simp only [Jni.exec_attempt, Prod.mk.injEq, Except.ok.injEq] at attempted
  have answered : (Jni.call target id method.signature.result.callKind raws).exec host before =
      (.ok raw, called) := Prod.ext (attempted.1.trans resumed.1) attempted.2
  have returned := Jni.call_eq_ok answered
  have sooner : session.Precedes before :=
    (Session.Precedes.sustained.endures.convertFrom method 0 method.params args).after
      (.refl session) converted
  have later : called.Precedes after :=
    (Session.Precedes.sustained.concluded method reply).after (.refl called) concluded
  exact ⟨raw, returned.extend sooner.history later.history,
    Jni.convertResult_eq_ok suited returned.kind_eq converting⟩

theorem settle_eq_ok {operation : Jni Value}
    (ran : (settle operation).exec host session = (.ok value, after)) :
    operation.exec host session = (.ok value, after) := by
  rw [settle, Jni.exec_bind_of_ok (Jni.exec_attempt operation host session)] at ran
  rcases first : operation.exec host session with ⟨fault | result, left⟩
  · rw [first] at ran
    rcases Jni.exec_bind_eq_ok ran with ⟨pending, taken, _, rest⟩
    cases pending with
    | none => exact absurd rest (by simp)
    | some exception =>
        rcases Jni.exec_bind_eq_ok rest with ⟨_, released, _, thrown⟩
        exact absurd thrown (by simp)
  · rw [first] at ran
    exact ran

/-- A call that succeeded hands back what the bound method returned. -/
theorem callMethod_eq_ok {proxy : Proxy} {index : Nat} {method : Method}
    (known : proxy.method? index = some method) (suited : method.ReturnsSuited)
    {args : List Value}
    (ran : (proxy.callMethod index args).exec host session = (.ok value, after)) :
    ∃ id, (proxy.binding? index).bind Binding.method = some id ∧
      method.HandsBack host session.history after.history proxy.target.object id value := by
  rw [callMethod_eq] at ran
  cases accepted : proxy.accept index args with
  | error fault =>
      rw [accepted] at ran
      exact absurd ran (by simp)
  | ok target =>
      rcases target with ⟨found, id⟩
      rcases accept_eq_ok accepted with ⟨named, bound⟩
      rw [known, Option.some.injEq] at named
      subst named
      rw [accepted] at ran
      rcases Jni.withFrame_eq_ok ran with ⟨entered, left, pushed, settled, rfl⟩
      have sooner : session.Precedes entered :=
        (Session.Precedes.robust.steady.requestStatus _ _ fun _ earlier => earlier.record _).after
          (.refl session) pushed
      have handed := callOnce_eq_ok suited (settle_eq_ok settled)
      exact ⟨id, bound, handed.extend sooner.history (List.prefix_append _ _)⟩

/-- No result is refused because of its type. -/
theorem callMethod_typed {proxy : Proxy} {index : Nat} {method : Method}
    (known : proxy.method? index = some method) (suited : method.ReturnsSuited)
    (args : List Value) :
    Jni.Ends host (fun fault => fault.isWrongType = false) (fun _ => True)
      (proxy.callMethod index args) := by
  have covers : Fault.CoversCalls fun fault => fault.isWrongType = false :=
    fun _ _ typed => typed
  apply covers.callMethod
  intro found raw named kind unread
  rw [known, Option.some.injEq] at named
  subst named
  exact absurd (suited.reads kind) unread

end Proxy

/-! ## Stored results -/

namespace Proxy

/-- The stored result of a method fits the plan of its result; a method that returns nothing stores
`void`. -/
def StoresFitting (proxy : Proxy) (index : Nat) (method : Method) : Prop :=
  ∀ value, proxy.cached index = some value → value.fits method.result = true ∨
    value = .void ∧ method.signature.result = .primitive .void

end Proxy

namespace Operation

variable {host : Host} {proxy next : Proxy} {session after : Session} {operation : Operation}
  {index : Nat} {method : Method} {value : Value}

/-- What an operation writes is the result of its call. -/
theorem written_eq_some {outcome : Except Fault Value}
    (stored : operation.written proxy index outcome = some (some value)) :
    outcome = .ok value := by
  cases outcome with
  | error fault =>
      rw [written_of_error] at stored
      exact absurd stored (by simp)
  | ok result =>
      rw [written.eq_def] at stored
      split at stored
      · exact congrArg _ (Option.some.inj (Option.some.inj stored))
      · split at stored
        · exact absurd stored (by simp)
        · exact absurd stored (by simp)
      · split at stored
        · exact absurd stored (by simp)
        · exact congrArg _ (Option.some.inj (Option.some.inj stored))

/-- A call stores what it hands back. -/
theorem settled_storesFitting {called : Nat} {args : List Value}
    {outcome : Except Fault Value} {between : Session}
    (known : proxy.method? index = some method) (suited : method.ReturnsSuited)
    (stores : proxy.StoresFitting index method)
    (ran : (proxy.callMethod called args).exec host session = (outcome, between)) :
    (operation.settled proxy called outcome).StoresFitting index method := by
  rw [settled.eq_def]
  split
  · exact stores
  · next slot written =>
      intro value cached
      by_cases same : called = index
      · subst same
        rw [Proxy.cached, Proxy.withSlot, List.getElem?_set_self'] at cached
        rcases Option.join_eq_some_iff.mp cached with found
        rcases Option.map_eq_some_iff.mp found with ⟨_, _, rfl⟩
        have succeeded := written_eq_some written
        subst succeeded
        rcases Proxy.callMethod_eq_ok known suited ran with ⟨id, _, raw, _, received⟩
        exact received.fits
      · rw [Proxy.cached, Proxy.withSlot_slots_of_ne same] at cached
        exact stores value cached

end Operation

/-- The method of an index stays the same as long as a proxy is used, so its slot holds results of
its calls only. -/
theorem Reachable.storesFitting {host : Host} {proxy : Proxy} {session : Session}
    (reachable : Reachable host proxy session) {index : Nat} {method : Method}
    (known : proxy.method? index = some method) (suited : method.ReturnsSuited) :
    proxy.StoresFitting index method := by
  induction reachable with
  | bound built =>
      intro value cached
      rw [Proxy.cached_of_bind built] at cached
      exact absurd cached (by simp)
  | performed operation earlier ran ih =>
      rcases operation.perform_cases ran with
        ⟨fault, _, _, rfl, _⟩ | ⟨called, outcome, between, _, ended, _, rfl, _⟩
      · exact ih known
      · have before : _ = some method := known
        rw [Proxy.method?, Operation.settled_interface] at before
        exact Operation.settled_storesFitting before suited (ih before) ended
  | elsewhere earlier passed ih => exact ih known

/-- A call of a method that can be described never fails because its result is of the wrong type.
One that succeeds hands back what the bound method returned, as the plan of the result says, and
what a proxy stores fits that plan. -/
theorem Proxy.results_suit_plans {host : Host} {proxy : Proxy} {index : Nat} {method : Method}
    (known : proxy.method? index = some method) (built : method.Built) :
    (∀ {operation : Operation} {session after : Session} {answer : Answer} {next : Proxy},
      operation.locate proxy = .ok index →
      (operation.perform proxy).exec host session = ((answer, next), after) →
      answer = operation.report (operation.outcome host proxy session) ∧
        match operation.outcome host proxy session with
        | .error fault => fault.isWrongType = false
        | .ok value => ∃ id, (proxy.binding? index).bind Binding.method = some id ∧
            method.HandsBack host session.history after.history proxy.target.object id value) ∧
      ∀ {session : Session}, Reachable host proxy session → proxy.StoresFitting index method := by
  refine ⟨?called, fun reachable => reachable.storesFitting known built.returnsSuited⟩
  case called =>
    intro operation session after answer next located ran
    rcases operation.perform_cases ran with
      ⟨fault, refused, told, _, _⟩ | ⟨named, outcome, between, requested, called, told, _, rfl⟩
    · rw [Operation.outcome, refused]
      refine ⟨told, ?_⟩
      rcases Operation.request_eq_error refused with forbidden | ⟨_, missing⟩
      · rcases Fault.eq_callMode (Operation.allow_fault forbidden) with ⟨_, _, rfl⟩
        rfl
      · rw [located] at missing
        exact absurd missing (by simp)
    · rw [(Operation.request_eq_ok requested).2, Except.ok.injEq] at located
      subst located
      rw [Operation.outcome_of_called requested called]
      refine ⟨told, ?_⟩
      cases outcome with
      | error fault =>
          exact (callMethod_typed known built.returnsSuited operation.args).fault_allowed called
      | ok value =>
          rcases callMethod_eq_ok known built.returnsSuited called with ⟨id, bound, handed⟩
          have later : between.Precedes
              ((operation.tidy proxy named (.ok value)).exec host between).2 :=
            Operation.tidy_keeps Native.release_advances Native.log_advances _ _ _ (.refl between)
          exact ⟨id, bound, handed.extend (List.prefix_refl _) later.history⟩

/-- The description of the method of `Interface.counting`. -/
def Method.counting : Method :=
  (Method.ofSelector ⟨"next", ⟨[], .primitive .int⟩⟩).storing.flagging

theorem Method.counting_built : counting.Built := by
  have wellFormed : Signature.WellFormed ⟨[], .primitive .int⟩ := by
    refine ⟨?_, .inr Primitive.noConfusion⟩
    intro type among
    cases among
  have parsed := Built.parsed (parse_text wellFormed "next")
  exact .refined .flagging (.refined .storing parsed rfl) rfl

/-- The session after the first call of `Proxy.counting`. -/
def Session.counted : Session :=
  (((Operation.invoke 0 []).perform .counting).exec Script.counting.host .counting).2

/-- The counter was called once, which stored its result, and is called again. -/
theorem Proxy.results_suit_counting :
    Method.counting.Built ∧
      Reachable Script.counting.host (Proxy.counting.withSlot 0 (some (.int 1))) .counted ∧
      (Proxy.counting.withSlot 0 (some (.int 1))).StoresFitting 0 .counting ∧
      ∃ after, ((Operation.invokeStored 0 []).perform
          (Proxy.counting.withSlot 0 (some (.int 1)))).exec Script.counting.host .counted =
            ((.outcome (.ok (.int 2)), Proxy.counting.withSlot 0 (some (.int 2))), after) ∧
        Method.counting.HandsBack Script.counting.host Session.counted.history after.history
          (.plain "target") ⟨"Target", "next", "()I"⟩ (.int 2) := by
  have reached :
      Reachable Script.counting.host (Proxy.counting.withSlot 0 (some (.int 1))) .counted :=
    .performed (.invoke 0 []) (.bound Proxy.bind_counting) rfl
  have known : (Proxy.counting.withSlot 0 (some (.int 1))).method? 0 = some .counting := rfl
  have ran : ((Operation.invokeStored 0 []).perform
      (Proxy.counting.withSlot 0 (some (.int 1)))).exec Script.counting.host .counted =
        ((.outcome (.ok (.int 2)), Proxy.counting.withSlot 0 (some (.int 2))), _) := rfl
  have results := @Proxy.results_suit_plans Script.counting.host _ 0 _ known Method.counting_built
  rcases (results.1 rfl ran).2 with ⟨id, bound, handed⟩
  cases Option.some.inj bound
  exact ⟨Method.counting_built, reached, results.2 reached, _, ran, handed⟩

end NativeProxy
