import NativeProxy.Proofs.Agreement
import NativeProxy.Proofs.ReachedCalls
import NativeProxy.Proofs.StoredResults
import NativeProxy.Proofs.TestObjects.Description
import NativeProxy.Proofs.UnsupportedArguments

/-!
# The test objects refine their proxy

Every method of the test objects is one operation of the proxy with its answer narrowed to the type
of the method. That operation makes the call that the name and the signature of the method ask for,
and the branches for an answer of another type are never taken, since a result is read as its method
declares it.
-/

namespace NativeProxy

namespace TestObjects

variable {host : Host} {objects next : TestObjects} {session after : Session} {use : Use}

/-! ## Uses -/

/-- What a method of the test objects returns. -/
inductive Result where
  | text (told : Except Fault String)
  | color (told : Except Fault Rgba)
  | boolean (told : Except Fault Bool)
  | unit (told : Except Fault Unit)
  | flag (success : Bool)

/-- Runs a method and tells what it returns. -/
def telling {α : Type} (result : α → Result) (method : Native (α × TestObjects)) :
    Native (Result × TestObjects) := do
  let (told, next) ← method
  return (result told, next)

namespace Use

/-- Uses a method of the test objects. -/
def perform (objects : TestObjects) : Use → Native (Result × TestObjects)
  | returnObject => telling .text objects.returnObject
  | returnReference => telling .text objects.returnReference
  | returnPointer => telling .text objects.returnPointer
  | returnColor => telling .color objects.returnColor
  | returnConstReference => telling .text objects.returnConstReference
  | returnConstReferenceConst => telling .text objects.returnConstReferenceConst
  | returnConstReferenceThrows => telling .text objects.returnConstReferenceThrows
  | returnConstReferenceConstThrows => telling .text objects.returnConstReferenceConstThrows
  | find path => telling .text (objects.find path)
  | findColor color => telling .text (objects.findColor color)
  | cd path => telling .boolean (objects.cd path)
  | ls path recursive => telling .unit (objects.ls path recursive)
  | mkdir path => telling .flag (objects.mkdir path)
  | mv oldPath newPath => telling .unit (objects.mv oldPath newPath)

/-- The operation of the proxy behind a method, as the description of the method asks for it. -/
def operation (use : Use) : Operation :=
  if use.method.isStored then .invokeStored use.index use.args
  else if use.method.flagsFailure then .invokeFlag use.index use.args
  else .invoke use.index use.args

/-- What a method makes of the outcome of its call. -/
def narrow (use : Use) (outcome : Except Fault Value) : Result :=
  match use with
  | returnObject => .text (outcome.bind ownText)
  | returnColor => .color (outcome.bind ownColor)
  | cd _ => .boolean (outcome.bind ownBool)
  | ls .. | mv .. => .unit (outcome.bind fun _ => .ok ())
  | mkdir _ => .flag outcome.isOk
  | _ => .text (outcome.bind (storedText use.index))

/-- What a method makes of the answer of its operation. -/
def tell (use : Use) : Answer → Result
  | .outcome outcome => use.narrow outcome
  | .flag success => .flag success

theorem tell_report (use : Use) (outcome : Except Fault Value) :
    use.tell (use.operation.report outcome) = use.narrow outcome := by
  cases use <;> rfl

/-- Every method is one operation, with its answer narrowed. -/
theorem perform_eq (use : Use) (objects : TestObjects) :
    use.perform objects = (do
      let (answer, next) ← use.operation.perform objects.proxy
      return (use.tell answer, ⟨next⟩)) := by
  cases use <;> rfl

theorem exec_perform {answer : Answer} {left : Proxy}
    (ran : (use.operation.perform objects.proxy).exec host session = ((answer, left), after)) :
    (use.perform objects).exec host session = ((use.tell answer, ⟨left⟩), after) := by
  rw [perform_eq, Native.exec_bind, ran]
  rfl

/-- What a method tells when null was returned and cannot be handed out. -/
def absence : Use → Fault
  | returnObject => .nullPointer "ITestObjects: returnObject returned null"
  | returnColor => .nullPointer "ITestObjects: returnColor returned null"
  | use => .nullPointer ("ITestObjects: method #" ++ toString use.index ++ " returned null")

/-- How the result of a method follows from the outcome of its call. A fault is passed on, a value
is handed out as what it is, and null is no text and no colour; nothing else comes out of a call. -/
inductive Narrows (use : Use) : Except Fault Value → Result → Prop where
  | text (text : String) : use.Narrows (.ok (.text text)) (.text (.ok text))
  | noText : use.Narrows (.ok .null) (.text (.error use.absence))
  | textFault (fault : Fault) : use.Narrows (.error fault) (.text (.error fault))
  | color (color : Rgba) : use.Narrows (.ok (.color color)) (.color (.ok color))
  | noColor : use.Narrows (.ok .null) (.color (.error use.absence))
  | colorFault (fault : Fault) : use.Narrows (.error fault) (.color (.error fault))
  | boolean (value : Bool) : use.Narrows (.ok (.boolean value)) (.boolean (.ok value))
  | booleanFault (fault : Fault) : use.Narrows (.error fault) (.boolean (.error fault))
  | done : use.Narrows (.ok .void) (.unit (.ok ()))
  | unitFault (fault : Fault) : use.Narrows (.error fault) (.unit (.error fault))
  | flag (outcome : Except Fault Value) : use.Narrows outcome (.flag outcome.isOk)

end Use

/-! ## Runs -/

/-- The test objects and the sessions of the runs that start by binding an object. -/
inductive Reachable (host : Host) : TestObjects → Session → Prop where
  | bound {target : Option Object} {config : Config} {objects : TestObjects}
      {before after : Session}
      (built : (bind target config).exec host before = (.ok objects, after)) :
      Reachable host objects after
  | used {objects next : TestObjects} {session after : Session} {result : Result} (use : Use)
      (earlier : Reachable host objects session)
      (ran : (use.perform objects).exec host session = ((result, next), after)) :
      Reachable host next after
  | elsewhere {objects : TestObjects} {session after : Session}
      (earlier : Reachable host objects session) (passed : session.Precedes after) :
      Reachable host objects after

/-- Making test objects is making a proxy of their interface. -/
theorem bind_eq (target : Option Object) (config : Config) :
    bind target config = TestObjects.mk <$> Proxy.bind target described config := by
  rw [bind, interface_eq]
  rfl

theorem bind_eq_ok {target : Option Object} {config : Config} {before : Session}
    (built : (bind target config).exec host before = (.ok objects, after)) :
    (Proxy.bind target described config).exec host before = (.ok objects.proxy, after) := by
  rw [bind_eq, Jni.exec_map] at built
  split at built
  · next made =>
      cases built
      exact made
  · cases built

/-- A use of the test objects is an operation of their proxy. -/
theorem Use.perform_eq_ran {result : Result}
    (ran : (use.perform objects).exec host session = ((result, next), after)) :
    ∃ answer, (use.operation.perform objects.proxy).exec host session =
      ((answer, next.proxy), after) := by
  rcases performed : (use.operation.perform objects.proxy).exec host session with
    ⟨⟨answer, left⟩, last⟩
  rw [exec_perform performed] at ran
  cases ran
  exact ⟨answer, rfl⟩

namespace Reachable

theorem proxy (reachable : Reachable host objects session) :
    NativeProxy.Reachable host objects.proxy session := by
  induction reachable with
  | bound built => exact .bound (bind_eq_ok built)
  | used use earlier ran ih =>
      rcases Use.perform_eq_ran ran with ⟨answer, performed⟩
      exact .performed use.operation ih performed
  | elsewhere earlier passed ih => exact .elsewhere ih passed

theorem interface (reachable : Reachable host objects session) :
    objects.proxy.interface = described := by
  induction reachable with
  | bound built =>
      rcases Proxy.bind_eq_ok (bind_eq_ok built) with ⟨_, _, _, _, same, _⟩
      exact same
  | used use earlier ran ih =>
      rcases Use.perform_eq_ran ran with ⟨answer, performed⟩
      rcases Operation.perform_cases performed with
        ⟨_, _, _, same, _⟩ | ⟨_, _, _, _, _, _, same, _⟩
      · rw [same, ih]
      · rw [same, Operation.settled_interface, ih]
  | elsewhere earlier passed ih => exact ih

end Reachable

/-! ## The operation behind a method -/

namespace Use

section Described

variable (declares : objects.proxy.interface = described)

include declares

theorem known : objects.proxy.method? use.index = some use.method := by
  rw [Proxy.method?, declares]
  exact use.declared_index

theorem indexOf_proxy : objects.proxy.indexOf use.name use.signature = .ok use.index := by
  rw [Proxy.indexOf, declares, use.indexOf_eq]

/-- The mode of a method allows the operation behind it. -/
theorem request_operation : use.operation.request objects.proxy = .ok use.index := by
  rw [operation]
  split
  · next stored =>
      have allowed : objects.proxy.expect use.index Proxy.expectStored = .ok () := by
        rw [Proxy.expect_eq (known declares), Proxy.expectStored, if_pos stored]
      exact Operation.request_of_allowed allowed
  · split
    · next flags =>
        have allowed : objects.proxy.expect use.index Proxy.expectFlag = .ok () := by
          rw [Proxy.expect_eq (known declares), Proxy.expectFlag, if_pos flags]
        exact Operation.request_of_allowed allowed
    · rfl

theorem written_operation (outcome : Except Fault Value) :
    use.operation.written objects.proxy use.index outcome =
      (Operation.invoke use.index use.args).written objects.proxy use.index outcome := by
  have stores : objects.proxy.stores use.index = use.method.isStored :=
    Proxy.stores_eq (known declares)
  rw [operation]
  split
  · next stored => exact (Operation.written_invoke_of_stores (stores.trans stored)).symm
  · next byValue =>
      split
      · exact (Operation.written_invoke_of_byValue (by simpa [byValue] using stores)).symm
      · rfl

end Described

theorem args_operation (use : Use) : use.operation.args = use.args := by
  rw [operation]
  split
  · rfl
  · split <;> rfl

/-- Only a method that flags its failures does more than its call. -/
theorem wrapUp_operation (tells : use.method.flagsFailure = false) (proxy : Proxy)
    (outcome : Except Fault Value) : use.operation.wrapUp proxy outcome = return () := by
  rw [operation, tells]
  split <;> rfl

/-! ## Narrowing -/

/-- Nothing but what the relation lists comes out of a call that returned. -/
theorem narrows_ok {raw : RawValue} {value : Value}
    (received : Received use.method.signature.result use.method.result raw value) :
    use.Narrows (.ok value) (use.narrow (.ok value)) := by
  cases use with
  | returnColor =>
      rcases Received.of_color received with rfl | ⟨color, rfl⟩
      · exact .noColor
      · exact .color color
  | cd path =>
      rcases Received.of_boolean received with ⟨value, rfl⟩
      exact .boolean value
  | ls path recursive =>
      rcases Received.of_void received
      exact .done
  | mkdir path => exact .flag _
  | mv oldPath newPath =>
      rcases Received.of_void received
      exact .done
  | _ =>
      rcases Received.of_text received with rfl | ⟨text, rfl⟩
      · exact .noText
      · exact .text text

theorem narrows_error (use : Use) (fault : Fault) :
    use.Narrows (.error fault) (use.narrow (.error fault)) := by
  cases use <;> constructor

theorem narrows_text {outcome : Except Fault Value} {text : String}
    (narrows : use.Narrows outcome (.text (.ok text))) : outcome = .ok (.text text) := by
  cases narrows
  rfl

/-! ## One call -/

section Called

variable (declares : objects.proxy.interface = described) {outcome : Except Fault Value}
  {between : Session}
  (called : (objects.proxy.callMethod use.index use.args).exec host session = (outcome, between))

include declares called

/-- The call that the name and the signature of a method ask for. -/
theorem exec_call :
    (objects.proxy.call use.name use.signature use.args).exec host session =
      ((outcome, (Operation.invoke use.index use.args).settled objects.proxy use.index outcome),
        (((Operation.invoke use.index use.args).tidy objects.proxy use.index outcome).exec host
          between).2) := by
  rw [Proxy.call, indexOf_proxy declares]
  exact Operation.exec_invoke called

/-- A method leaves what that call leaves, and drops what it does not tell. -/
theorem exec_perform_of_called :
    (use.perform objects).exec host session =
      ((use.narrow outcome,
        ⟨(Operation.invoke use.index use.args).settled objects.proxy use.index outcome⟩),
        ((use.operation.wrapUp objects.proxy outcome).exec host
          (((Operation.invoke use.index use.args).tidy objects.proxy use.index outcome).exec host
            between).2).2) := by
  have ran : (objects.proxy.callMethod use.index use.operation.args).exec host session =
      (outcome, between) := by
    rw [args_operation]
    exact called
  have requested : use.operation.request objects.proxy = .ok use.index :=
    request_operation declares
  have settled : use.operation.settled objects.proxy use.index outcome =
      (Operation.invoke use.index use.args).settled objects.proxy use.index outcome := by
    rw [Operation.settled, Operation.settled, written_operation declares]
  have tidied : ((use.operation.tidy objects.proxy use.index outcome).exec host between).2 =
      ((use.operation.wrapUp objects.proxy outcome).exec host
        (((Operation.invoke use.index use.args).tidy objects.proxy use.index outcome).exec host
          between).2).2 := by
    rw [Operation.tidy, Operation.tidy, written_operation declares]
    dsimp only
    split <;> rfl
  rw [exec_perform (Operation.exec_perform_of_ok requested ran), tell_report, settled, tidied]

/-- What is handed out as a text is what the proxy stores. -/
theorem cached_text (sound : objects.proxy.Sound) (stored : use.method.isStored = true)
    {text : String} (narrows : use.Narrows outcome (.text (.ok text))) :
    ((Operation.invoke use.index use.args).settled objects.proxy use.index outcome).cached
      use.index = some (.text text) := by
  cases narrows_text narrows
  rw [Operation.cached_settled _ sound (known declares) stored]
  rfl

end Called

/-- Between two histories the overload of the method returned what was handed back as the value; it
returned null exactly if that is null. -/
def HandedBack (host : Host) (objects : TestObjects) (start finish : History) (use : Use)
    (value : Value) : Prop :=
  ∃ id kind raw, id.name = use.name ∧ id.signature = use.signature ∧
    host.Returned start finish objects.proxy.target.object id kind raw ∧
    (value = .null ↔ raw = .null)

/-- The machine is called by the overload of the method only, and gets null for the stream of a
listing. -/
def Reaches (objects : TestObjects) (events : List Event) (use : Use) : Prop :=
  ∀ receiver id kind raws, .call receiver id kind raws ∈ events →
    receiver = objects.proxy.target.object ∧ id.name = use.name ∧ id.signature = use.signature ∧
      ∀ path recursive, use = .ls path recursive → raws[2]? = some .null

end Use

/-- The refusal to list a directory where nothing may stand for the stream. -/
def unlisted : Fault :=
  .unsupportedConversion "ls(Ljava/lang/String;ZLjava/io/OutputStream;)V" 2 "std::ostream&"

namespace Reachable

open Use (known request_operation)

variable (reachable : Reachable host objects session)

include reachable

theorem bound_to_overload {id : MethodId}
    (bound : (objects.proxy.binding? use.index).bind Binding.method = some id) :
    id.name = use.name ∧ id.signature = use.signature := by
  rcases reachable.proxy.bound_to_overload (known reachable.interface) bound with ⟨name, signature⟩
  exact ⟨name.trans use.method_name, signature.trans use.method_signature⟩

theorem handedBack {value : Value} {between : Session}
    (called : (objects.proxy.callMethod use.index use.args).exec host session =
      (.ok value, between)) :
    use.Narrows (.ok value) (use.narrow (.ok value)) ∧
      use.HandedBack host objects session.history between.history value := by
  rcases Proxy.callMethod_eq_ok (known reachable.interface) use.returnsSuited called with
    ⟨id, bound, raw, returned, received⟩
  rcases reachable.bound_to_overload bound with ⟨name, signature⟩
  exact ⟨Use.narrows_ok received, id, _, raw, name, signature, returned, received.eq_null_iff⟩

theorem reaches {answer : Answer} {left : Proxy}
    (ran : (use.operation.perform objects.proxy).exec host session = ((answer, left), after)) :
    ∃ events, after.history = session.history ++ events ∧ use.Reaches objects events := by
  rcases reachable.proxy.operation_events ran with ⟨events, longer, left⟩
  refine ⟨events, longer, ?_⟩
  intro receiver id kind raws called
  have located : use.operation.locate objects.proxy = .ok use.index :=
    (Operation.request_eq_ok (request_operation reachable.interface)).2
  have declared : objects.proxy.method? use.index = some use.method :=
    known reachable.interface
  rcases left.call_of_located located declared called with ⟨onTarget, bound, _, _⟩
  rcases reachable.bound_to_overload bound with ⟨name, signature⟩
  refine ⟨onTarget, name, signature, ?_⟩
  rintro path recursive rfl
  exact left.null_for_unsupported located declared called rfl

/-- A directory is not listed where nothing may stand for the stream. -/
theorem callMethod_ls (strict : objects.proxy.config.policy = .reject)
    (path : String) (recursive : Bool)
    (resolved : objects.proxy.isResolved (Use.ls path recursive).index = true) :
    (objects.proxy.callMethod (Use.ls path recursive).index (Use.ls path recursive).args).exec host
      session = (.error unlisted, session) := by
  have declared : objects.proxy.method? (Use.ls path recursive).index = some listing :=
    known reachable.interface
  have checked : listing.checkArguments (Use.ls path recursive).args .reject =
      .error unlisted := rfl
  rcases Proxy.isResolved_iff.mp resolved with ⟨id, bound⟩
  have refused : objects.proxy.accept (Use.ls path recursive).index (Use.ls path recursive).args =
      .error unlisted := by
    simp only [Proxy.accept, declared, bound, strict, checked, Except.map]
  rw [Proxy.callMethod_eq, refused]
  rfl

/-- Nothing is left of a listing that is refused, since no listing is stored. -/
theorem tidy_ls (path : String) (recursive : Bool) (outcome : Except Fault Value) :
    ((Operation.invoke (Use.ls path recursive).index (Use.ls path recursive).args).tidy
      objects.proxy (Use.ls path recursive).index outcome).exec host session =
        ((), session) := by
  have declared : objects.proxy.method? (Use.ls path recursive).index = some listing :=
    known reachable.interface
  have empty : objects.proxy.slots[(Use.ls path recursive).index]? = some none :=
    reachable.proxy.sound.byValue _ _ declared rfl
  have nothing : objects.proxy.slotRefs (Use.ls path recursive).index = [] := by
    simp [Proxy.slotRefs, Proxy.cached, empty]
  rw [Operation.tidy, nothing]
  dsimp only
  split <;> rfl

/-- The test objects refine their proxy: however the machine behaves, a method does what a call with
its name and its signature does, and its result is what becomes of the outcome of that call. A fault
is passed on and null is reported where a text or a colour was asked for, but no result is ever of a
wrong type. A text that the proxy stores is handed out as it is stored. The machine is called by the
overload of the method alone; a listing passes null for the stream, or nothing is called at all. -/
theorem refines_proxy (use : Use) :
    objects.proxy.indexOf use.name use.signature = .ok use.index ∧
      ∃ outcome next after result left events,
        (objects.proxy.call use.name use.signature use.args).exec host session =
            ((outcome, next), after) ∧
          (use.perform objects).exec host session = ((result, ⟨next⟩), left) ∧
          left = ((use.operation.wrapUp objects.proxy outcome).exec host after).2 ∧
          (use.method.flagsFailure = false → left = after) ∧
          use.Narrows outcome result ∧
          (∀ value, outcome = .ok value →
            use.HandedBack host objects session.history after.history value) ∧
          (use.method.isStored = true → ∀ text, result = .text (.ok text) →
            next.cached use.index = some (.text text)) ∧
          left.history = session.history ++ events ∧
          use.Reaches objects events ∧
          ∀ path recursive, use = .ls path recursive → objects.proxy.config.policy = .reject →
            objects.proxy.isResolved use.index = true →
              result = .unit (.error unlisted) ∧ left = session := by
  have declares := reachable.interface
  refine ⟨Use.indexOf_proxy declares, ?_⟩
  rcases called : (objects.proxy.callMethod use.index use.args).exec host session with
    ⟨outcome, between⟩
  have performed := Use.exec_perform_of_called declares called
  rcases Use.perform_eq_ran performed with ⟨answer, ran⟩
  rcases reachable.reaches ran with ⟨events, longer, reaches⟩
  have tidied : between.Precedes
      (((Operation.invoke use.index use.args).tidy objects.proxy use.index outcome).exec host
        between).2 :=
    Operation.tidy_keeps Native.release_advances Native.log_advances _ _ _ (.refl between)
  have narrows : use.Narrows outcome (use.narrow outcome) := by
    cases outcome with
    | error fault => exact use.narrows_error fault
    | ok value => exact (reachable.handedBack called).1
  refine ⟨outcome, _, _, _, _, events, Use.exec_call declares called, performed, rfl, ?plain,
    narrows, ?handed, ?stored, longer, reaches, ?listing⟩
  case plain =>
    intro tells
    rw [Use.wrapUp_operation tells]
    rfl
  case handed =>
    rintro value rfl
    rcases (reachable.handedBack called).2 with ⟨id, kind, raw, name, signature, returned, same⟩
    exact ⟨id, kind, raw, name, signature,
      returned.extend (List.prefix_refl _) tidied.history, same⟩
  case stored =>
    intro stored text told
    exact Use.cached_text declares called reachable.proxy.sound stored (told ▸ narrows)
  case listing =>
    rintro path recursive rfl strict resolved
    rw [reachable.callMethod_ls strict path recursive resolved] at called
    cases called
    rw [reachable.tidy_ls]
    exact ⟨rfl, rfl⟩

end Reachable

/-! ## An echo -/

/-- Every method of the target answers with what it is given first, or with null. -/
def echo : Script where
  methods := declared.map fun method =>
    { name := method.name, signature := method.signature.text, outcomes := [.argument 0] }

/-- The test objects that binding the target of `echo` makes. -/
def echoing : TestObjects where
  proxy := {
    target := ⟨31, .plain "target"⟩
    targetClass := ⟨33, .loadedClass "Target"⟩
    interface := described
    bindings := declared.map fun method =>
      ⟨method.selector, some ⟨"Target", method.name, method.signature.text⟩⟩
    slots := declared.map fun _ => none
    config := {} }

/-- The session that making `echoing` leaves, in a process that has looked the core classes up. -/
def echoed : Session :=
  ((Proxy.bind (some (.plain "target")) described {}).exec echo.host { shared := .initialised }).2

theorem bind_echoing :
    (bind (some (.plain "target")) {}).exec echo.host { shared := .initialised } =
      (.ok echoing, echoed) := by
  have made : (Proxy.bind (some (.plain "target")) described {}).exec echo.host
      { shared := .initialised } = (.ok echoing.proxy, echoed) := rfl
  rw [bind_eq, Jni.exec_map, made]

set_option maxRecDepth 2048 in
/-- A path that is found is handed out and stored. -/
theorem Reachable.found_by_echoing :
    ∃ next left events, ((Use.find "path").perform echoing).exec echo.host echoed =
        ((.text (.ok "path"), ⟨next⟩), left) ∧
      next.cached 8 = some (.text "path") ∧
      left.history = echoed.history ++ events ∧
      ∀ receiver id kind raws, .call receiver id kind raws ∈ events →
        id.name = "find" ∧ id.signature = "(Ljava/lang/String;)Ljava/lang/String;" := by
  rcases (Reachable.bound bind_echoing).refines_proxy (.find "path") with
    ⟨_, outcome, next, after, result, left, events, _, performed, _, _, _, _, stored, longer,
      reaches, _⟩
  have told : (((Use.find "path").perform echoing).exec echo.host echoed).1.1 =
      .text (.ok "path") := rfl
  rw [performed] at told
  cases told
  refine ⟨next, left, events, performed, stored rfl "path" rfl, longer, ?_⟩
  intro receiver id kind raws called
  rcases reaches receiver id kind raws called with ⟨_, name, signature, _⟩
  exact ⟨name, signature⟩

end TestObjects

end NativeProxy
