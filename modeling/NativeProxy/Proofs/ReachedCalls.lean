import NativeProxy.Proofs.ColorClass
import NativeProxy.Proofs.RefusedFrames
import NativeProxy.Proofs.ResultPassing

/-!
# Calls that are reached

An operation reaches its call if it is accepted, gets its frame and has its arguments converted;
accepted arguments are converted if the machine makes the strings and the colours they stand for.
From there on the answer of the bound method decides: a value is converted, an exception is taken.
What comes of that is settled and told; a failure that left nothing pending is told as it is.
-/

namespace NativeProxy

variable {host : Host} {proxy next : Proxy} {session called left after : Session}
  {operation : Operation} {method : Method} {id : MethodId} {raws : List RawValue}

/-- What the target of a proxy answers to a call, or the machine if the target does not settle it
itself. -/
def Proxy.answer (host : Host) (history : History) (proxy : Proxy) (id : MethodId)
    (raws : List RawValue) : Outcome :=
  (proxy.target.object.respond? id.name).getD (host.invoke history proxy.target.object id raws)

/-- The machine makes the string or the colour that an argument stands for. -/
def Host.Makes (host : Host) (session : Session) : Value → Prop
  | .text text => ∀ history, host.newString history (Units.ofText text) = .given
  | .color color =>
    (session.shared.color = none → host.FindsColors) ∧
      ∀ history, host.newColor history color = .given
  | _ => True

namespace Operation

/-- The operation gets as far as its call: it is accepted, gets its frame, and in the session
`called` its arguments are converted to `raws`. -/
structure Reaches (host : Host) (proxy : Proxy) (session : Session) (operation : Operation)
    (method : Method) (id : MethodId) (raws : List RawValue) (called : Session) : Prop where
  accepted : operation.accept proxy = .ok (method, id)
  framed : (host.status session.history .pushLocalFrame).code = 0
  converted : (Jni.convertArguments method operation.args).exec host
    (session.framed host proxy.config.frameCapacity) = (.ok raws, called)

/-- The operation is accepted and gets its frame, and the machine makes what the arguments stand
for. -/
structure Prepared (host : Host) (proxy : Proxy) (session : Session) (operation : Operation)
    (method : Method) (id : MethodId) : Prop where
  accepted : operation.accept proxy = .ok (method, id)
  framed : (host.status session.history .pushLocalFrame).code = 0
  made : ∀ value ∈ operation.args, host.Makes session value

/-- The bound method, whose result has the given plan, answers the call with the given
reference. -/
inductive Returns (host : Host) (proxy : Proxy) (session : Session) (operation : Operation)
    (plan : Plan) (object : Option Object) : Prop where
  | intro {method : Method} {id : MethodId}
      (prepared : operation.Prepared host proxy session method id)
      (planned : method.result = plan)
      (reference : method.signature.result.isReference = true)
      (returns : ∀ {raws called}, operation.Reaches host proxy session method id raws called →
        proxy.answer host called.history id raws = .returns (.reference object))

/-- The bound method returns what it was passed for an argument, and the parameter has the same
plan as the result. -/
inductive Echoes (host : Host) (proxy : Proxy) (session : Session) (operation : Operation)
    (plan : Plan) (value : Value) : Prop where
  | intro {method : Method} {id : MethodId} {index : Nat}
      (prepared : operation.Prepared host proxy session method id)
      (planned : method.result = plan)
      (reference : method.signature.result.isReference = true)
      (parameter : method.params[index]? = some plan)
      (argument : operation.args[index]? = some value)
      (returns : ∀ {raws called raw},
        operation.Reaches host proxy session method id raws called → raws[index]? = some raw →
          proxy.answer host called.history id raws = .returns raw)

end Operation

/-- A machine that cooperates and leaves nothing pending when it makes a frame. -/
structure Host.Serves (host : Host) : Prop extends host.Cooperates where
  frame : ∀ history, (host.status history .pushLocalFrame).exception = none

theorem Script.host_serves {script : Script} (complete : script.absent = [])
    (found : script.missingClasses = []) (silent : script.statuses = fun _ => []) :
    script.host.Serves where
  toCooperates := host_cooperates complete found silent
  frame history := by simp [host, silent, answer]

/-- A scripted method with a single outcome answers every call with it. -/
theorem Script.answer_of_single {script : Script} {scripted : ScriptedMethod}
    {outcome : ScriptedOutcome} (plain : proxy.target.object.respond? id.name = none)
    (known : script.method? id = some scripted) (single : scripted.outcomes = [outcome])
    (history : History) : proxy.answer script.host history id raws = outcome.outcome raws := by
  have always (uses : Nat) : answer [outcome] uses = some outcome := by
    cases uses <;> rfl
  have invoked : script.host.invoke history proxy.target.object id raws = outcome.outcome raws := by
    change script.invoke history id raws = _
    rw [invoke, known]
    dsimp only
    rw [single, always]
  rw [Proxy.answer, plain, Option.getD_none, invoked]

/-! ## Converted arguments -/

namespace Jni

theorem quiet_of_acquire {function : Function} {event : Event}
    {answer : Host → History → Reply} {refusal : JniFault}
    (ran : (acquire function event answer refusal).exec host session = (.ok (), after)) :
    after.IsQuiet := by
  rw [acquire] at ran
  rcases exec_bind_eq_ok ran with ⟨reply, asked, _, rest⟩
  have checked {start : Session} (finished : Jni.exec (do
      check
      unless reply.isGiven do (fail refusal : Jni PUnit)) host start = (.ok (), after)) :
      after.IsQuiet := by
    rcases exec_bind_eq_ok finished with ⟨_, last, passed, ending⟩
    split at ending
    · simp only [exec_pure, Prod.mk.injEq, true_and] at ending
      exact ending ▸ quiet_of_check passed
    · exact absurd ending (by simp)
  cases thrown : reply.exception? with
  | none =>
      rw [thrown] at rest
      exact checked rest
  | some exception =>
      rw [thrown] at rest
      rcases exec_bind_eq_ok rest with ⟨_, raised, _, rest⟩
      exact checked rest

theorem quiet_of_newString {text : String} {object : Object}
    (ran : (newString text).exec host session = (.ok object, after)) : after.IsQuiet := by
  rw [newString] at ran
  rcases exec_bind_eq_ok ran with ⟨_, last, acquired, ending⟩
  simp only [exec_pure, Prod.mk.injEq] at ending
  exact ending.2 ▸ quiet_of_acquire acquired

theorem quiet_of_makeColor {color : Rgba} {object : Object}
    (ran : (makeColor color).exec host session = (.ok object, after)) : after.IsQuiet := by
  rw [makeColor] at ran
  rcases exec_bind_eq_ok ran with ⟨_, found, _, rest⟩
  rcases exec_bind_eq_ok rest with ⟨made, attempted, _, rest⟩
  rcases exec_bind_eq_ok rest with ⟨_, checked, failing, resumed⟩
  simp only [exec_resume, Prod.mk.injEq] at resumed
  exact resumed.2 ▸ quiet_of_failOnException failing

/-- An argument that was converted left nothing pending. -/
theorem quiet_of_convertArgument {index : Nat} {plan : Plan} {value : Value} {raw : RawValue}
    (quiet : session.IsQuiet)
    (ran : (convertArgument method index plan value).exec host session = (.ok raw, after)) :
    after.IsQuiet := by
  rw [convertArgument.eq_def] at ran
  split at ran
  · rcases exec_bind_eq_ok ran with ⟨_, logged, log, ending⟩
    simp only [exec_pure, Prod.mk.injEq] at ending
    exact ending.2 ▸ (Keeps.lift (Native.log_quiet _ _)).after quiet log
  · simp only [exec_pure, Prod.mk.injEq] at ran
    exact ran.2 ▸ quiet
  · simp only [exec_pure, Prod.mk.injEq] at ran
    exact ran.2 ▸ quiet
  · simp only [exec_pure, Prod.mk.injEq] at ran
    exact ran.2 ▸ quiet
  · simp only [exec_resume, Prod.mk.injEq] at ran
    exact ran.2 ▸ quiet
  · rcases exec_bind_eq_ok ran with ⟨_, last, made, ending⟩
    simp only [exec_pure, Prod.mk.injEq] at ending
    exact ending.2 ▸ quiet_of_newString made
  · rcases exec_bind_eq_ok ran with ⟨_, last, made, ending⟩
    simp only [exec_pure, Prod.mk.injEq] at ending
    exact ending.2 ▸ quiet_of_makeColor made
  · simp only [exec_pure, Prod.mk.injEq] at ran
    exact ran.2 ▸ quiet
  · exact absurd ran (by simp)

theorem convertFrom_cons_eq_ok {index : Nat} {plan : Plan} {plans : List Plan} {value : Value}
    {args : List Value}
    (ran : (convertFrom method index (plan :: plans) (value :: args)).exec host session =
      (.ok raws, after)) :
    ∃ raw rest between,
      (convertArgument method index plan value).exec host session = (.ok raw, between) ∧
      (convertFrom method (index + 1) plans args).exec host between = (.ok rest, after) ∧
      raws = raw :: rest := by
  rw [convertFrom] at ran
  rcases exec_bind_eq_ok ran with ⟨raw, between, first, ran⟩
  rcases exec_bind_eq_ok ran with ⟨rest, last, others, ending⟩
  simp only [exec_pure, Prod.mk.injEq, Except.ok.injEq] at ending
  rcases ending with ⟨rfl, rfl⟩
  exact ⟨raw, rest, between, first, others, rfl⟩

theorem quiet_of_convertFrom {index : Nat} {plans : List Plan} {args : List Value}
    (quiet : session.IsQuiet)
    (ran : (convertFrom method index plans args).exec host session = (.ok raws, after)) :
    after.IsQuiet := by
  induction plans generalizing index args raws session with
  | nil =>
      simp only [convertFrom, exec_pure, Prod.mk.injEq] at ran
      exact ran.2 ▸ quiet
  | cons plan plans ih =>
      cases args with
      | nil =>
          simp only [convertFrom, exec_pure, Prod.mk.injEq] at ran
          exact ran.2 ▸ quiet
      | cons value args =>
          rcases convertFrom_cons_eq_ok ran with ⟨raw, rest, between, first, others, _⟩
          exact ih (quiet_of_convertArgument quiet first) others

/-- Each argument has a raw value, which is what the plan of its parameter makes of it. -/
theorem convertFrom_eq_ok {start index : Nat} {plans : List Plan} {plan : Plan}
    {args : List Value} {value : Value}
    (ran : (convertFrom method start plans args).exec host session = (.ok raws, after))
    (parameter : plans[index]? = some plan) (argument : args[index]? = some value) :
    ∃ raw before left, raws[index]? = some raw ∧
      (convertArgument method (start + index) plan value).exec host before = (.ok raw, left) := by
  induction plans generalizing start index args raws session with
  | nil => simp at parameter
  | cons first plans ih =>
      cases args with
      | nil => simp at argument
      | cons given args =>
          rcases convertFrom_cons_eq_ok ran with ⟨made, rest, between, converted, others, rfl⟩
          cases index with
          | zero =>
              simp only [List.getElem?_cons_zero, Option.some.injEq] at parameter argument
              subst parameter argument
              exact ⟨made, session, between, rfl, converted⟩
          | succ index =>
              simp only [List.getElem?_cons_succ] at parameter argument
              rcases ih others parameter argument with ⟨raw, before, last, passed, converted⟩
              rw [Nat.add_right_comm, Nat.add_assoc] at converted
              exact ⟨raw, before, last, passed, converted⟩

end Jni

/-- What comes back is the object that the argument was made into. -/
theorem Operation.Echoes.returns {operation : Operation} {plan : Plan} {value : Value}
    {object : Object} (echoes : operation.Echoes host proxy session plan value)
    (made : ∀ {method : Method} {index : Nat} {before left : Session} {raw : RawValue},
      (Jni.convertArgument method index plan value).exec host before = (.ok raw, left) →
        raw = .reference (some object)) :
    operation.Returns host proxy session plan (some object) := by
  rcases echoes with ⟨prepared, planned, reference, parameter, argument, returns⟩
  refine ⟨prepared, planned, reference, ?_⟩
  intro raws called reaches
  rcases Jni.convertFrom_eq_ok reaches.converted parameter argument with
    ⟨raw, before, left, passed, converted⟩
  exact made converted ▸ returns reaches passed

/-! ## Arguments that can be made -/

theorem Host.Makes.later {value : Value} (makes : host.Makes session value)
    (earlier : session.Precedes after) : host.Makes after value := by
  cases value with
  | color color =>
      exact ⟨fun unknown => makes.1 (earlier.color_unknown unknown), makes.2⟩
  | _ => exact makes

theorem Plan.exists_suits (plan : Plan) : ∃ type, plan.Suits type := by
  cases plan with
  | primitive type => exact ⟨.primitive type, rfl⟩
  | _ => exact ⟨.object Descriptor.stringClass, rfl⟩

namespace Jni

theorem newString_obtains (cooperates : host.Cooperates) {text : String}
    (made : ∀ history, host.newString history (Units.ofText text) = .given) :
    Obtains host (fun _ => True) (newString text) := by
  rw [newString]
  apply Obtains.bind (acquire_obtains cooperates made rfl)
  intro _ _
  exact Obtains.pure trivial

theorem newColor_obtains (cooperates : host.Cooperates) {color : Rgba}
    (made : ∀ history, host.newColor history color = .given) :
    Obtains host (fun _ => True) (newColor color) := by
  rw [newColor]
  apply Obtains.bind (acquire_obtains cooperates made rfl)
  intro _ _
  exact Obtains.pure trivial

theorem exec_makeColor (cooperates : host.Cooperates) (quiet : session.IsQuiet) {color : Rgba}
    (makes : host.Makes session (.color color)) :
    ∃ object last, (makeColor color).exec host session = (.ok object, last) := by
  rcases exec_colorClass cooperates quiet makes.1 with ⟨_, found, looked, still⟩
  rcases newColor_obtains cooperates makes.2 found still with ⟨object, made, ran, _, asked⟩
  refine ⟨object, made.record .exceptionCheck, ?_⟩
  rw [makeColor, exec_bind_of_ok looked, exec_bind_of_ok (exec_attempt _ host found), ran,
    exec_bind_of_ok (exec_failOnException_of_none cooperates.clears asked.quiet)]
  exact exec_resume _ host _

/-- An argument that its plan accepts is converted if it can be made. -/
theorem exec_convertArgument_of_made (cooperates : host.Cooperates) (quiet : session.IsQuiet)
    {policy : Policy} {index : Nat} {plan : Plan} {value : Value}
    (accepted : method.checkArgument policy index plan value = .ok ())
    (makes : host.Makes session value) :
    ∃ raw last, (convertArgument method index plan value).exec host session = (.ok raw, last) := by
  rcases plan.exists_suits with ⟨type, suits⟩
  rcases convertArgument_outcome suits accepted session with
    ⟨raw, last, ran, _⟩ | ⟨fault, last, _, refused⟩
  · exact ⟨raw, last, ran⟩
  · -- Only making a string or a colour can fail here, and both were said to succeed.
    cases refused with
    | text failed =>
        rcases newString_obtains cooperates makes session quiet with ⟨_, _, made, _, _⟩
        rw [made] at failed
        cases failed
    | color failed =>
        rcases exec_makeColor cooperates quiet makes with ⟨_, _, made⟩
        rw [made] at failed
        cases failed

theorem exec_convertFrom_of_made (cooperates : host.Cooperates) (quiet : session.IsQuiet)
    {policy : Policy} {index : Nat} {plans : List Plan} {args : List Value}
    (accepted : method.checkFrom policy index plans args = .ok ())
    (makes : ∀ value ∈ args, host.Makes session value) :
    ∃ raws last, (convertFrom method index plans args).exec host session = (.ok raws, last) := by
  induction plans generalizing index args session with
  | nil =>
      refine ⟨[], session, ?_⟩
      cases args <;> rfl
  | cons plan plans ih =>
      cases args with
      | nil => exact ⟨[], session, rfl⟩
      | cons value args =>
          rcases Method.checkFrom_eq_ok accepted with ⟨firstAccepted, restAccepted⟩
          rcases exec_convertArgument_of_made cooperates quiet firstAccepted
            (makes value List.mem_cons_self) with ⟨raw, between, ran⟩
          have earlier : session.Precedes between :=
            (Session.Precedes.sustained.endures.convertArgument method index plan value).after
              (.refl session) ran
          -- The class of colours may have been looked up for the first argument, and is kept.
          have restMakes : ∀ value ∈ args, host.Makes between value := fun value among =>
            (makes value (List.mem_cons_of_mem _ among)).later earlier
          rcases ih (quiet_of_convertArgument quiet ran) restAccepted restMakes with
            ⟨raws, last, ranRest⟩
          refine ⟨raw :: raws, last, ?_⟩
          rw [convertFrom, exec_bind_of_ok ran, exec_bind_of_ok ranRest]
          exact exec_pure _ host last

end Jni

theorem Session.framed_isQuiet (serves : host.Serves) (quiet : session.IsQuiet) (capacity : Int) :
    (session.framed host capacity).IsQuiet := by
  rw [Session.IsQuiet, Session.framed, serves.frame]
  exact quiet

theorem Session.framed_precedes (session : Session) (capacity : Int) :
    session.Precedes (session.framed host capacity) :=
  ((Session.Precedes.refl session).record _).withPending _

/-- An operation whose arguments can be made reaches its call. -/
theorem Operation.Prepared.reaches (serves : host.Serves) (quiet : session.IsQuiet)
    (prepared : operation.Prepared host proxy session method id) :
    ∃ raws called, operation.Reaches host proxy session method id raws called := by
  rcases accept_eq_ok prepared.accepted with ⟨index, _, accepted⟩
  rcases Proxy.accept_eq_ok_iff.mp accepted with ⟨_, _, checked⟩
  rw [Method.checkArguments] at checked
  split at checked
  · rcases Jni.exec_convertFrom_of_made serves.toCooperates
      (Session.framed_isQuiet serves quiet proxy.config.frameCapacity) checked
      fun value among => (prepared.made value among).later (session.framed_precedes _) with
      ⟨raws, called, converted⟩
    exact ⟨raws, called, prepared.accepted, prepared.framed, converted⟩
  · exact absurd checked (by simp)

/-! ## Settling -/

theorem Jni.exec_pushFrame (provided : host.provides .pushLocalFrame = true) (capacity : Int) :
    (requestStatus .pushLocalFrame .pushLocalFrame (.pushFrame capacity)).exec host session =
      (.ok (host.status session.history .pushLocalFrame).code, session.framed host capacity) := by
  rw [exec_requestStatus, if_pos provided]
  rfl

namespace Proxy

theorem exec_settle_of_ok {call : Jni Value} {value : Value}
    (ran : call.exec host session = (.ok value, left)) :
    (settle call).exec host session = (.ok value, left) := by
  rw [settle, Jni.exec_bind_of_ok (Jni.exec_attempt call host session), ran]
  exact Jni.exec_pure value host left

/-- Settling a failure looks for an exception and finds none. -/
theorem exec_settle_of_quiet (clears : host.ClearsExceptions) {call : Jni Value} {fault : Fault}
    (ran : call.exec host session = (.error fault, left)) (quiet : left.IsQuiet) :
    (settle call).exec host session = (.error fault, left.record .exceptionCheck) := by
  have found : (Jni.releasingOnFault fault.refs Jni.takeException).exec host left =
      (.ok none, left.record .exceptionCheck) := by
    rw [Jni.releasingOnFault, Jni.exec_bind_of_ok (Jni.exec_attempt _ host left),
      Jni.exec_takeException_of_none clears quiet]
    rfl
  rw [settle, Jni.exec_bind_of_ok (Jni.exec_attempt call host session), ran]
  exact Jni.exec_bind_of_ok found _

theorem settle_of_error {call : Jni Value} {fault : Fault}
    (failed : call.exec host session = (.error fault, left)) :
    ∃ told last, (settle call).exec host session = (.error told, last) := by
  rcases settled : (settle call).exec host session with ⟨told | value, last⟩
  · exact ⟨told, last, rfl⟩
  · rw [settle_eq_ok settled] at failed
    exact absurd failed (by simp)

end Proxy

/-! ## Running the call -/

namespace Operation.Reaches

open Proxy (callOnce settle)

variable {answer : Answer}

/-- The call of an operation that is reached runs in its frame, and its outcome is told. -/
theorem answer_eq (reaches : operation.Reaches host proxy session method id raws called)
    (provides : ∀ function, host.provides function = true) {outcome : Except Fault Value}
    (settled : (settle (callOnce proxy.target.object method id operation.args)).exec host
      (session.framed host proxy.config.frameCapacity) = (outcome, left))
    (ran : (operation.perform proxy).exec host session = ((answer, next), after)) :
    answer = operation.report outcome ∧
      ∃ index, after =
        ((operation.tidy proxy index outcome).exec host (left.record .popFrame)).2 := by
  rcases accept_eq_ok reaches.accepted with ⟨index, requested, accepted⟩
  have framed : (proxy.callMethod index operation.args).exec host session =
      (outcome, left.record .popFrame) := by
    rw [Proxy.callMethod_eq, accepted]
    dsimp only
    rw [Jni.exec_withFrame, Jni.exec_pushFrame (provides _)]
    dsimp only
    rw [if_pos reaches.framed, settled]
    dsimp only
    rw [if_pos (provides _)]
  rw [exec_perform_of_ok requested framed] at ran
  simp only [Prod.mk.injEq] at ran
  exact ⟨ran.1.1.symm, index, ran.2.symm⟩

theorem advances (reaches : operation.Reaches host proxy session method id raws called) :
    session.Precedes called :=
  (session.framed_precedes _).trans ((Session.Precedes.sustained.endures.convertFrom method 0
    method.params operation.args).after (.refl _) reaches.converted)

/-- Arguments that were converted left nothing pending. -/
theorem quiet (reaches : operation.Reaches host proxy session method id raws called)
    (serves : host.Serves) (quiet : session.IsQuiet) : called.IsQuiet :=
  Jni.quiet_of_convertFrom (Session.framed_isQuiet serves quiet _) reaches.converted

/-- After the reply to the call an exception is looked for. -/
theorem exec_callOnce (reaches : operation.Reaches host proxy session method id raws called)
    {reply : Except Fault RawValue} {replied : Session}
    (ran : (Jni.call proxy.target.object id method.signature.result.callKind raws).exec host
      called = (reply, replied)) :
    (callOnce proxy.target.object method id operation.args).exec host
        (session.framed host proxy.config.frameCapacity) =
      Jni.exec (do
        Jni.failOnException
        let raw ← Jni.resume reply
        Jni.convertResult method raw) host replied := by
  rw [callOnce, Jni.exec_bind_of_ok reaches.converted,
    Jni.exec_bind_of_ok (Jni.exec_attempt _ host called), ran]

/-- A value that the bound method returns is converted, after two looks for an exception. -/
theorem exec_callOnce_checked
    (reaches : operation.Reaches host proxy session method id raws called)
    (cooperates : host.Cooperates) (quiet : called.IsQuiet) {raw : RawValue}
    (returns : proxy.answer host called.history id raws = .returns raw) :
    (callOnce proxy.target.object method id operation.args).exec host
        (session.framed host proxy.config.frameCapacity) =
      (Jni.convertResult method (method.signature.result.callKind.narrow raw)).exec host
        (((called.record (.call proxy.target.object id method.signature.result.callKind
          raws)).record .exceptionCheck).record .exceptionCheck) := by
  let replied := (called.record (.call proxy.target.object id
    method.signature.result.callKind raws)).record .exceptionCheck
  have still : replied.IsQuiet := quiet
  rw [reaches.exec_callOnce (Jni.exec_invoke_of_returns (cooperates.provides _)
      cooperates.clears.check quiet returns),
    Jni.exec_bind_of_ok (Jni.exec_failOnException_of_none cooperates.clears still)]
  exact Jni.exec_bind_of_ok (Jni.exec_resume _ host _) _

theorem exec_callOnce_of_returns
    (reaches : operation.Reaches host proxy session method id raws called)
    (cooperates : host.Cooperates) (quiet : called.IsQuiet) {raw : RawValue}
    (returns : proxy.answer host called.history id raws = .returns raw) :
    ∃ checked : Session, checked.IsQuiet ∧ checked.shared = called.shared ∧
      (callOnce proxy.target.object method id operation.args).exec host
          (session.framed host proxy.config.frameCapacity) =
        (Jni.convertResult method (method.signature.result.callKind.narrow raw)).exec host
          checked := by
  refine ⟨_, ?quiet, ?shared, reaches.exec_callOnce_checked cooperates quiet returns⟩
  case quiet => exact quiet
  case shared => rfl

/-- An exception that the bound method throws is taken and fails the call. -/
theorem exec_callOnce_of_throws
    (reaches : operation.Reaches host proxy session method id raws called)
    (cooperates : host.Cooperates) {exception : Throwable}
    (throws : proxy.answer host called.history id raws = .throws exception) :
    ∃ thrown : Session, thrown.pending = some exception ∧ called.Precedes thrown ∧
      ∀ {fault : Fault} {taken : Session},
        Jni.takeException.exec host thrown = (.ok (some fault), taken) →
          (callOnce proxy.target.object method id operation.args).exec host
            (session.framed host proxy.config.frameCapacity) = (.error fault, taken) := by
  refine ⟨{ called.record (.call proxy.target.object id method.signature.result.callKind raws) with
    pending := some exception }.record .exceptionCheck, rfl, ?_, ?_⟩
  · exact (((Session.Precedes.refl called).record _).withPending _).record _
  · intro fault taken took
    rw [reaches.exec_callOnce (Jni.exec_invoke_of_throws (cooperates.provides _)
      cooperates.clears.check throws)]
    apply Jni.exec_bind_of_error
    rw [Jni.failOnException, Jni.exec_bind_of_ok took]
    exact Jni.exec_throw fault host taken

/-! ## What is told -/

section Told

variable (reaches : operation.Reaches host proxy session method id raws called)
  (cooperates : host.Cooperates)
  (ran : (operation.perform proxy).exec host session = ((answer, next), after))

include reaches cooperates ran

theorem answer_of_ok {value : Value}
    (succeeded : (callOnce proxy.target.object method id operation.args).exec host
      (session.framed host proxy.config.frameCapacity) = (.ok value, left)) :
    answer = operation.report (.ok value) :=
  (reaches.answer_eq cooperates.provides (Proxy.exec_settle_of_ok succeeded) ran).1

theorem answer_of_quiet {fault : Fault}
    (failed : (callOnce proxy.target.object method id operation.args).exec host
      (session.framed host proxy.config.frameCapacity) = (.error fault, left))
    (quiet : left.IsQuiet) : answer = operation.report (.error fault) :=
  (reaches.answer_eq cooperates.provides
    (Proxy.exec_settle_of_quiet cooperates.clears failed quiet) ran).1

theorem answer_of_error {fault : Fault}
    (failed : (callOnce proxy.target.object method id operation.args).exec host
      (session.framed host proxy.config.frameCapacity) = (.error fault, left)) :
    ∃ told, answer = operation.report (.error told) := by
  rcases Proxy.settle_of_error failed with ⟨told, last, settled⟩
  exact ⟨told, (reaches.answer_eq cooperates.provides settled ran).1⟩

end Told

end Operation.Reaches

end NativeProxy
