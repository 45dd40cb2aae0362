import NativeProxy.Proofs.Throwable
import NativeProxy.Proxy.Invoke

/-!
# Work without colours

Two machines may differ in the class of colours only: whether it is found, what its methods are and
how its constructor behaves. Whatever does not ask for colours runs alike on both. `IgnoresColors`
carries this through an operation: from any session both machines reach the same outcome in the same
session, and the events on the way there ask for no colours.
-/

namespace NativeProxy

/-- Looking the class of colours up and making a colour. -/
def Event.asksForColors : Event → Bool
  | .findClass className => className == Descriptor.colorClass
  | .newColor _ => true
  | _ => false

/-- The machines agree in all that a proxy uses but the class of colours, its methods and its
constructor. -/
structure Host.DiffersInColors (host other : Host) : Prop where
  functions : ∀ function, other.provides function = host.provides function
  classes : ∀ object, other.classOf object = host.classOf object
  names : ∀ history {className}, className ≠ Descriptor.colorClass →
    other.findClass history className = host.findClass history className
  methods : ∀ history {method : MethodId}, method.owner ≠ Descriptor.colorClass →
    other.findMethod history method = host.findMethod history method
  strings : ∀ history units, other.newString history units = host.newString history units
  statuses : ∀ history kind, other.status history kind = host.status history kind
  answers : ∀ history receiver method args,
    other.invoke history receiver method args = host.invoke history receiver method args

/-- Since the session `before` nothing asked for colours. -/
def Session.Colorless (before after : Session) : Prop :=
  ∃ events, after.history = before.history ++ events ∧
    ∀ event ∈ events, event.asksForColors = false

namespace Session.Colorless

variable {before between after : Session}

theorem refl (session : Session) : session.Colorless session :=
  ⟨[], by simp, by simp⟩

theorem trans (first : before.Colorless between) (second : between.Colorless after) :
    before.Colorless after := by
  rcases first with ⟨earlier, longer, unasked⟩
  rcases second with ⟨later, further, stillUnasked⟩
  refine ⟨earlier ++ later, ?_, ?_⟩
  · rw [further, longer, List.append_assoc]
  · intro event happened
    rcases List.mem_append.mp happened with sooner | since
    · exact unasked event sooner
    · exact stillUnasked event since

theorem record (session : Session) {event : Event} (plain : event.asksForColors = false) :
    session.Colorless (session.record event) := by
  refine ⟨[event], rfl, ?_⟩
  intro other happened
  rw [List.mem_singleton.mp happened]
  exact plain

end Session.Colorless

/-! ## Operations that always finish -/

namespace Native

variable {α β : Type} {host other : Host}

/-- Both machines run the operation alike, and it asks for no colours. -/
def IgnoresColors (host other : Host) (operation : Native α) : Prop :=
  ∀ session, ∃ result after, operation.exec host session = (result, after) ∧
    operation.exec other session = (result, after) ∧ session.Colorless after

namespace IgnoresColors

theorem pure (result : α) : IgnoresColors host other (Pure.pure result : Native α) :=
  fun session => ⟨result, session, rfl, rfl, .refl session⟩

/-- What follows may rely on what the operation results in. -/
theorem bindResult {operation : Native α} {next : α → Native β}
    (first : IgnoresColors host other operation)
    (rest : ∀ {result session after}, operation.exec host session = (result, after) →
      IgnoresColors host other (next result)) :
    IgnoresColors host other (operation >>= next) := by
  intro session
  rcases first session with ⟨result, between, ran, ranOther, unasked⟩
  rcases rest ran between with ⟨last, after, continued, continuedOther, stillUnasked⟩
  refine ⟨last, after, ?_, ?_, unasked.trans stillUnasked⟩
  · rw [exec_bind, ran, continued]
  · rw [exec_bind, ranOther, continuedOther]

theorem bind {operation : Native α} {next : α → Native β}
    (first : IgnoresColors host other operation)
    (rest : ∀ result, IgnoresColors host other (next result)) :
    IgnoresColors host other (operation >>= next) :=
  first.bindResult fun _ => rest _

theorem modify {change : Session → Session}
    (recorded : ∀ session, (change session).history = session.history) :
    IgnoresColors host other (modify change : Native PUnit) :=
  fun session => ⟨⟨⟩, change session, rfl, rfl, [], by simp [recorded], by simp⟩

theorem log (level : Level) (text : String) : IgnoresColors host other (log level text) :=
  modify fun _ => rfl

theorem raise (exception : Throwable) : IgnoresColors host other (raise exception) :=
  modify fun _ => rfl

theorem modifyShared (change : SharedState → SharedState) :
    IgnoresColors host other (modifyShared change) :=
  modify fun _ => rfl

theorem forM {operation : α → Native PUnit}
    (each : ∀ item, IgnoresColors host other (operation item)) (items : List α) :
    IgnoresColors host other (items.forM operation) := by
  induction items with
  | nil => exact pure _
  | cons item items ih => exact (each item).bind fun _ => ih

theorem forIn {items : List α} {start : β} {step : α → β → Native (ForInStep β)}
    (each : ∀ item state, IgnoresColors host other (step item state)) :
    IgnoresColors host other (forIn items start step) := by
  induction items generalizing start with
  | nil => exact pure _
  | cons item items ih =>
      rw [List.forIn_cons]
      apply (each item start).bind
      intro next
      cases next with
      | done state => exact pure _
      | yield state => exact ih

end IgnoresColors

end Native

/-! ## Operations that may fail -/

namespace Jni

variable {α β : Type} {host other : Host}

/-- Both machines run the operation alike, and it asks for no colours. -/
def IgnoresColors (host other : Host) (operation : Jni α) : Prop :=
  Native.IgnoresColors host other operation.run

namespace IgnoresColors

theorem pure (result : α) : IgnoresColors host other (Pure.pure result : Jni α) :=
  fun session => ⟨.ok result, session, rfl, rfl, .refl session⟩

theorem throw (fault : Fault) : IgnoresColors host other (throw fault : Jni α) :=
  fun session => ⟨.error fault, session, rfl, rfl, .refl session⟩

theorem resume (outcome : Except Fault α) : IgnoresColors host other (resume outcome) :=
  fun session => ⟨outcome, session, rfl, rfl, .refl session⟩

theorem get : IgnoresColors host other (get : Jni Session) :=
  fun session => ⟨.ok session, session, rfl, rfl, .refl session⟩

theorem lift {operation : Native α} (ignores : Native.IgnoresColors host other operation) :
    IgnoresColors host other (liftM operation : Jni α) := by
  intro session
  rcases ignores session with ⟨result, after, ran, ranOther, unasked⟩
  refine ⟨.ok result, after, ?_, ?_, unasked⟩
  · exact (exec_lift operation host session).trans (by rw [ran])
  · exact (exec_lift operation other session).trans (by rw [ranOther])

theorem attempt {operation : Jni α} (ignores : IgnoresColors host other operation) :
    IgnoresColors host other operation.attempt :=
  lift ignores

/-- What follows a success may rely on what the operation results in. -/
theorem bindResult {operation : Jni α} {next : α → Jni β}
    (first : IgnoresColors host other operation)
    (rest : ∀ {result session after}, operation.exec host session = (.ok result, after) →
      IgnoresColors host other (next result)) :
    IgnoresColors host other (operation >>= next) := by
  intro session
  rcases first session with ⟨outcome, between, ran, ranOther, unasked⟩
  rcases outcome with fault | result
  · exact ⟨.error fault, between, exec_bind_of_error ran next, exec_bind_of_error ranOther next,
      unasked⟩
  · rcases rest ran between with ⟨last, after, continued, continuedOther, stillUnasked⟩
    exact ⟨last, after, (exec_bind_of_ok ran next).trans continued,
      (exec_bind_of_ok ranOther next).trans continuedOther, unasked.trans stillUnasked⟩

theorem bind {operation : Jni α} {next : α → Jni β} (first : IgnoresColors host other operation)
    (rest : ∀ result, IgnoresColors host other (next result)) :
    IgnoresColors host other (operation >>= next) :=
  first.bindResult fun _ => rest _

theorem mapM {operation : α → Jni β} {items : List α}
    (each : ∀ item ∈ items, IgnoresColors host other (operation item)) :
    IgnoresColors host other (items.mapM operation) := by
  induction items with
  | nil => exact pure []
  | cons item items ih =>
      rw [List.mapM_cons]
      apply (each item List.mem_cons_self).bind
      intro first
      apply (ih fun later among => each later (List.mem_cons_of_mem item among)).bind
      intro rest
      exact pure _

end IgnoresColors

end Jni

/-! ## Work that asks for no colours -/

namespace Host.DiffersInColors

variable {α : Type} {host other : Host} (differs : host.DiffersInColors other)

include differs

/-! ### Requests -/

section Requests

open Jni (IgnoresColors)

theorem request (function : Function) {event : Event} {answer : Host → History → α}
    (plain : event.asksForColors = false)
    (same : ∀ history, answer other history = answer host history) :
    IgnoresColors host other (Jni.request function event answer) := by
  intro session
  by_cases provided : host.provides function = true
  · refine ⟨.ok (answer host session.history), session.record event, ?_, ?_, .record session plain⟩
    · exact (Jni.exec_request _ _ _ _ _).trans (if_pos provided)
    · refine (Jni.exec_request _ _ _ _ _).trans ?_
      rw [differs.functions, if_pos provided, same]
  · refine ⟨.error (.jni (.missingFunction function.name)), session, ?_, ?_, .refl session⟩
    · exact (Jni.exec_request _ _ _ _ _).trans (if_neg provided)
    · refine (Jni.exec_request _ _ _ _ _).trans ?_
      rw [differs.functions, if_neg provided]

theorem exceptionCheck : IgnoresColors host other Jni.exceptionCheck := by
  rw [Jni.exceptionCheck]
  apply (differs.request _ rfl fun _ => rfl).bind
  intro _
  exact IgnoresColors.get.bind fun _ => .pure _

theorem exceptionOccurred : IgnoresColors host other Jni.exceptionOccurred := by
  rw [Jni.exceptionOccurred]
  apply (differs.request _ rfl fun _ => rfl).bind
  intro _
  exact IgnoresColors.get.bind fun _ => .pure _

theorem exceptionClear : IgnoresColors host other Jni.exceptionClear := by
  rw [Jni.exceptionClear]
  apply (differs.request _ rfl fun _ => rfl).bind
  intro _
  exact IgnoresColors.lift (Native.IgnoresColors.modify fun _ => rfl)

theorem takePending : IgnoresColors host other Jni.takePending := by
  rw [Jni.takePending]
  apply differs.exceptionCheck.bind
  intro found
  split
  · apply differs.exceptionOccurred.bind
    intro exception
    exact differs.exceptionClear.bind fun _ => .pure exception
  · exact .pure none

theorem check : IgnoresColors host other Jni.check := by
  rw [Jni.check]
  apply differs.exceptionCheck.bind
  intro found
  split
  · exact .throw _
  · exact .pure ()

theorem acquire (function : Function) {event : Event} {answer : Host → History → Reply}
    (plain : event.asksForColors = false)
    (same : ∀ history, answer other history = answer host history) (refusal : JniFault) :
    IgnoresColors host other (Jni.acquire function event answer refusal) := by
  rw [Jni.acquire]
  apply (differs.request _ plain same).bind
  intro reply
  have checked : IgnoresColors host other (do
      Jni.check
      unless reply.isGiven do Jni.fail refusal) := by
    apply differs.check.bind
    intro _
    split
    · exact .pure _
    · exact .throw _
  dsimp only
  split
  · exact (IgnoresColors.lift (.raise _)).bind fun _ => checked
  · exact checked

theorem findClass {className : String} (foreign : className ≠ Descriptor.colorClass) :
    IgnoresColors host other (Jni.findClass className) := by
  have plain : (Event.findClass className).asksForColors = false := beq_false_of_ne foreign
  exact differs.acquire _ plain (fun history => differs.names history foreign) _

theorem findMethod {method : MethodId}
    (same : ∀ history, other.findMethod history method = host.findMethod history method) :
    IgnoresColors host other (Jni.findMethod method) := by
  rw [Jni.findMethod]
  exact (differs.acquire _ rfl same _).bind fun _ => .pure method

theorem newString (text : String) : IgnoresColors host other (Jni.newString text) := by
  rw [Jni.newString]
  exact (differs.acquire _ rfl (fun history => differs.strings history _) _).bind fun _ => .pure _

theorem readText (object : Option Object) : IgnoresColors host other (Jni.readText object) := by
  unfold Jni.readText
  apply (differs.findClass (by decide)).bind
  intro _
  split
  · exact .throw _
  · next given =>
      apply (differs.request _ rfl fun _ => differs.classes given).bind
      intro _
      apply (differs.request _ rfl fun _ => rfl).bind
      intro _
      have read : IgnoresColors host other (do
          Jni.request .getStringUtfChars (.readString given) fun _ _ => ()
          Jni.check
          return given.units.toText) := by
        apply (differs.request _ rfl fun _ => rfl).bind
        intro _
        exact differs.check.bind fun _ => .pure _
      dsimp only
      split
      · exact read
      · exact (IgnoresColors.throw _).bind fun _ => read

theorem invoke {event : Event} (plain : event.asksForColors = false) (receiver : Object)
    (method : MethodId) (kind : CallKind) (args : List RawValue) :
    IgnoresColors host other (Jni.invoke event receiver method kind args) := by
  rw [Jni.invoke]
  apply IgnoresColors.bind
  · apply differs.request _ plain
    intro history
    rw [differs.answers]
  · intro outcome
    cases outcome with
    | returns value => exact differs.check.bind fun _ => .pure _
    | throws exception =>
        apply (IgnoresColors.lift (.raise exception)).bind
        intro _
        exact differs.check.bind fun _ => .pure _

theorem access (receiver : Object) (method : MethodId) (args : List RawValue) :
    IgnoresColors host other (Jni.access receiver method args) :=
  differs.invoke rfl _ _ _ _

end Requests

/-! ### Status codes and references -/

section Native

open Native (IgnoresColors)

theorem status (kind : StatusRequest) {event : Event} (plain : event.asksForColors = false) :
    IgnoresColors host other (Native.status kind event) := by
  intro session
  refine ⟨_, _, Native.exec_status kind event host session, ?_, ?_⟩
  · rw [Native.exec_status, differs.statuses]
  · exact Session.Colorless.record session plain

theorem attach : IgnoresColors host other Native.attach := by
  rw [Native.attach]
  apply (differs.status _ rfl).bind
  intro code
  split
  · exact .pure true
  · exact (differs.status _ rfl).bind fun code => .pure _

theorem release (ref : GlobalRef) : IgnoresColors host other (Native.release ref) := by
  have deleted : IgnoresColors host other
      (Jni.request .deleteGlobalRef (.deleteGlobalRef ref) fun _ _ => ()).run :=
    differs.request _ rfl fun _ => rfl
  have finished (attached : Bool) : IgnoresColors host other (do
      if attached then
        let _ ← (Jni.request .deleteGlobalRef (.deleteGlobalRef ref) fun _ _ => ()).run) := by
    split
    · exact deleted.bind fun _ => .pure _
    · exact .pure _
  rw [Native.release]
  apply (differs.status _ rfl).bind
  intro code
  dsimp only
  split
  · exact (IgnoresColors.pure true).bind finished
  · exact differs.attach.bind finished

theorem releaseAll (refs : List GlobalRef) :
    IgnoresColors host other (Native.releaseAll refs) :=
  .forM differs.release refs

end Native

open Jni (IgnoresColors)

theorem requestStatus (function : Function) (kind : StatusRequest) {event : Event}
    (plain : event.asksForColors = false) :
    IgnoresColors host other (Jni.requestStatus function kind event) := by
  intro session
  by_cases provided : host.provides function = true
  · refine ⟨_, _, (Jni.exec_requestStatus _ _ _ _ _).trans (if_pos provided), ?_,
      Session.Colorless.record session plain⟩
    refine (Jni.exec_requestStatus _ _ _ _ _).trans ?_
    rw [differs.functions, if_pos provided, differs.statuses]
  · refine ⟨_, _, (Jni.exec_requestStatus _ _ _ _ _).trans (if_neg provided), ?_,
      .refl session⟩
    refine (Jni.exec_requestStatus _ _ _ _ _).trans ?_
    rw [differs.functions, if_neg provided]

theorem getJavaVm : IgnoresColors host other Jni.getJavaVm := by
  rw [Jni.getJavaVm]
  apply IgnoresColors.get.bind
  intro session
  apply (differs.requestStatus _ _ rfl).bind
  intro code
  dsimp only
  split
  · exact .pure _
  · exact (IgnoresColors.throw _).bind fun _ => .pure _

theorem newGlobalRef (object : Object) : IgnoresColors host other (Jni.newGlobalRef object) := by
  rw [Jni.newGlobalRef]
  apply differs.getJavaVm.bind
  intro _
  exact differs.request _ rfl fun _ => rfl

theorem keepClass (className : String) : IgnoresColors host other (Jni.keepClass className) :=
  differs.newGlobalRef _

theorem releasingOnFault (refs : List GlobalRef) {operation : Jni α}
    (ignores : IgnoresColors host other operation) :
    IgnoresColors host other (Jni.releasingOnFault refs operation) := by
  rw [Jni.releasingOnFault]
  apply ignores.attempt.bind
  intro outcome
  cases outcome with
  | ok result => exact (IgnoresColors.pure _).bind fun _ => .resume _
  | error fault =>
      apply (IgnoresColors.lift (differs.releaseAll refs)).bind
      intro _
      exact .resume _

/-- What a frame that was made goes on with. -/
theorem leavingFrame (held : α → List GlobalRef) {operation : Jni α}
    (ignores : IgnoresColors host other operation) : IgnoresColors host other (do
      let outcome ← Jni.attempt operation
      let popped ← Jni.attempt (Jni.request .popLocalFrame .popFrame fun _ _ => ())
      match popped with
      | .ok () => Jni.resume outcome
      | .error fault =>
        Native.releaseAll (match outcome with
          | .ok result => held result
          | .error lost => lost.refs)
        throw fault) := by
  apply ignores.attempt.bind
  intro outcome
  apply (IgnoresColors.attempt (differs.request _ rfl fun _ => rfl)).bind
  intro popped
  cases popped with
  | ok _ => exact .resume outcome
  | error fault =>
      apply (IgnoresColors.lift (differs.releaseAll _)).bind
      intro _
      exact .throw fault

theorem withFrame (capacity : Int) (held : α → List GlobalRef) {operation : Jni α}
    (ignores : IgnoresColors host other operation) :
    IgnoresColors host other (Jni.withFrame capacity held operation) := by
  rw [Jni.withFrame]
  apply (differs.requestStatus _ _ rfl).bind
  intro code
  dsimp only
  split
  · exact differs.leavingFrame held ignores
  · exact (IgnoresColors.throw _).bind fun _ => differs.leavingFrame held ignores

/-! ### Exceptions -/

theorem resolveCoreClasses : IgnoresColors host other Jni.resolveCoreClasses := by
  have found {method : MethodId} (foreign : method.owner ≠ Descriptor.colorClass) :
      IgnoresColors host other (Jni.findMethod method) :=
    differs.findMethod fun history => differs.methods history foreign
  rw [Jni.resolveCoreClasses]
  apply (differs.findClass (by decide)).bind
  intro _
  apply (found (by decide)).bind
  intro getClass
  apply (differs.findClass (by decide)).bind
  intro _
  apply (found (by decide)).bind
  intro getName
  apply (differs.findClass (by decide)).bind
  intro _
  apply (found (by decide)).bind
  intro getMessage
  apply (found (by decide)).bind
  intro getCause
  apply (differs.keepClass _).bind
  intro objectClass
  apply (differs.releasingOnFault _ (differs.keepClass _)).bind
  intro classClass
  apply (differs.releasingOnFault _ (differs.keepClass _)).bind
  intro throwableClass
  exact .pure _

theorem coreClasses : IgnoresColors host other Jni.coreClasses := by
  rw [Jni.coreClasses, Jni.cached]
  apply IgnoresColors.get.bind
  intro session
  cases session.shared.core with
  | some core => exact .pure core
  | none =>
      apply differs.resolveCoreClasses.bind
      intro core
      exact (IgnoresColors.lift (.modifyShared _)).bind fun _ => .pure core

theorem consult (receiver : Object) (accessor : MethodId) (failure : Option (Jni Fault))
    (described : ∀ thrown, failure = some thrown → IgnoresColors host other thrown) :
    IgnoresColors host other (Jni.consult receiver accessor failure) := by
  rw [Jni.consult]
  apply (IgnoresColors.attempt (differs.access _ _ _)).bind
  intro reply
  apply differs.takePending.bind
  intro pending
  split
  · next thrown => exact (described thrown rfl).bind fun _ => .throw _
  · exact (IgnoresColors.resume reply).bind fun _ => .resume _

theorem describe (core : CoreClasses) (exception : Throwable) :
    IgnoresColors host other (Jni.describe core exception) := by
  -- An accessor that throws has its own exception described, and so on through the tree.
  induction exception using Throwable.induction with
  | node exception ofCause ofFailure =>
      have asked (accessor : Accessor) :
          IgnoresColors host other (Jni.ask core exception accessor) := by
        apply differs.consult
        intro thrown given
        rcases Option.map_eq_some_iff.mp given with ⟨failure, fails, rfl⟩
        exact (ofFailure accessor failure fails).bind fun _ =>
          (differs.newGlobalRef _).bind fun _ => .pure _
      have finished (nameText ownText : String) :
          IgnoresColors host other (Jni.describeCause core exception nameText ownText) := by
        rw [Jni.describeCause]
        apply (asked .getCause).bind
        intro _
        cases caused : exception.cause with
        | none => exact .pure _
        | some inner => exact (ofCause inner caused).bind fun _ => .pure _
      rw [Jni.describe_eq]
      apply (asked .getClass).bind
      intro _
      apply (asked .getName).bind
      intro name
      apply (differs.readText name).bind
      intro nameText
      apply (asked .getMessage).bind
      intro own
      cases own with
      | none => exact (IgnoresColors.pure "null").bind (finished nameText)
      | some text => exact (differs.readText (some text)).bind (finished nameText)

theorem faultOf (core : CoreClasses) (exception : Throwable) :
    IgnoresColors host other (Jni.faultOf exception (Jni.describe core exception)) := by
  rw [Jni.faultOf]
  apply (differs.describe core exception).bind
  intro described
  exact (differs.newGlobalRef _).bind fun _ => .pure _

theorem convert (exception : Throwable) : IgnoresColors host other (Jni.convert exception) := by
  rw [Jni.convert]
  apply differs.coreClasses.bind
  intro core
  apply IgnoresColors.get.bind
  intro session
  split
  · apply (IgnoresColors.attempt (differs.access _ _ _)).bind
    intro reply
    apply differs.takePending.bind
    intro pending
    cases pending with
    | none => exact (IgnoresColors.resume reply).bind fun _ => differs.faultOf core exception
    | some left => exact (differs.faultOf core left).bind fun _ => .throw _
  · exact differs.faultOf core exception

theorem takeException : IgnoresColors host other Jni.takeException := by
  rw [Jni.takeException]
  apply differs.takePending.bind
  intro pending
  cases pending with
  | none => exact .pure none
  | some exception => exact (differs.convert exception).bind fun _ => .pure _

theorem failOnException : IgnoresColors host other Jni.failOnException := by
  rw [Jni.failOnException]
  apply differs.takeException.bind
  intro taken
  cases taken with
  | none => exact .pure ()
  | some fault => exact .throw fault

/-! ### Conversions -/

theorem convertArgument (method : Method) (index : Nat) {plan : Plan} (plain : plan ≠ .color)
    (value : Value) : IgnoresColors host other (Jni.convertArgument method index plan value) := by
  rw [Jni.convertArgument.eq_def]
  split
  · exact (IgnoresColors.lift (.log _ _)).bind fun _ => .pure _
  · exact .pure _
  · exact .pure _
  · exact .pure _
  · exact .resume _
  · exact (differs.newString _).bind fun _ => .pure _
  · exact absurd rfl plain
  · exact .pure _
  · exact .throw _

theorem convertFrom (method : Method) (index : Nat) {plans : List Plan}
    (plain : Plan.color ∉ plans) (values : List Value) :
    IgnoresColors host other (Jni.convertFrom method index plans values) := by
  induction plans generalizing index values with
  | nil => exact .pure _
  | cons plan plans ih =>
      rw [List.mem_cons, not_or] at plain
      cases values with
      | nil => exact .pure _
      | cons value values =>
          rw [Jni.convertFrom]
          apply (differs.convertArgument method index (Ne.symm plain.1) value).bind
          intro raw
          exact (ih (index + 1) plain.2 values).bind fun _ => .pure _

omit differs in
/-- A result that is a reference is null, or the object is converted. -/
theorem reference {raw : RawValue} {next : Object → Jni Value}
    (converted : ∀ object, IgnoresColors host other (next object)) :
    IgnoresColors host other (do
      match ← Jni.resume raw.reference? with
      | none => return .null
      | some object => next object) := by
  apply (IgnoresColors.resume _).bind
  intro object
  cases object with
  | none => exact .pure _
  | some object => exact converted object

theorem convertResult {method : Method} (plain : method.result ≠ .color) (raw : RawValue) :
    IgnoresColors host other (Jni.convertResult method raw) := by
  rw [Jni.convertResult.eq_def]
  split
  · exact .resume _
  · apply reference
    intro object
    exact (differs.readText _).bind fun _ => .pure _
  · next planned => exact absurd planned plain
  · apply reference
    intro object
    exact (differs.newGlobalRef _).bind fun _ => .pure _
  · exact (IgnoresColors.lift (.log _ _)).bind fun _ => .pure _

end Host.DiffersInColors

end NativeProxy
