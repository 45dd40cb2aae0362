import NativeProxy.Proofs.Pending
import NativeProxy.Proofs.Persistence
import NativeProxy.Proofs.Questions
import NativeProxy.Vm.Script

/-!
# Converting an exception

The conversion of a pending exception comes out as `Converts` says. A description is followed
question by question: `Tells` says what is asked from some point on and what comes of it, and each
kind of step has a rule that carries it over the step.
-/

namespace NativeProxy

/-! ## Asking -/

/-- The functions of the machine exist and succeed, and the class of strings is found. -/
structure Host.Cooperates (host : Host) : Prop where
  provides : ∀ function, host.provides function = true
  stringClass : ∀ history, host.findClass history Descriptor.stringClass = .given
  machine : ∀ history, host.status history .getJavaVm = {}

/-- The classes of the accessors and the accessors themselves are found. -/
structure Host.FindsCore (host : Host) : Prop where
  classes : ∀ history (accessor : Accessor),
    host.findClass history accessor.method.owner = .given
  methods : ∀ history (accessor : Accessor), host.findMethod history accessor.method = .given

theorem Host.Cooperates.clears {host : Host} (cooperates : host.Cooperates) :
    host.ClearsExceptions :=
  ⟨cooperates.provides _, cooperates.provides _, cooperates.provides _⟩

/-- Whether an event is a call of an accessor. -/
def Event.isAccess : Event → Bool
  | .access .. => true
  | _ => false

namespace Session

/-- The calls of accessors, oldest first. -/
def accesses (session : Session) : List Event :=
  session.history.filter Event.isAccess

/-- Between two sessions the given questions were asked, and nothing is pending afterwards. -/
structure Asked (before : Session) (asked : List Question) (after : Session) : Prop where
  quiet : after.IsQuiet
  accesses : after.accesses = before.accesses ++ asked.map Question.event

namespace Asked

variable {before between after : Session}

theorem of_events (events : List Event) {asked : List Question}
    (found : events.filter Event.isAccess = asked.map Question.event) (quiet : after.IsQuiet)
    (same : after.history = before.history ++ events) : before.Asked asked after where
  quiet := quiet
  accesses := by
    rw [Session.accesses, same, List.filter_append, found]
    rfl

theorem refl {session : Session} (quiet : session.IsQuiet) : session.Asked [] session :=
  of_events [] rfl quiet (List.append_nil _).symm

theorem record {asked : List Question} (earlier : before.Asked asked after) {event : Event}
    (other : event.isAccess = false) : before.Asked asked (after.record event) where
  quiet := earlier.quiet
  accesses := by
    rw [← earlier.accesses, Session.accesses, Session.record, List.filter_append,
      List.filter_cons, other]
    exact List.append_nil _

theorem trans {first second : List Question} (asked : before.Asked first between)
    (askedAfter : between.Asked second after) : before.Asked (first ++ second) after where
  quiet := askedAfter.quiet
  accesses := by
    rw [askedAfter.accesses, asked.accesses, List.map_append, List.append_assoc]

end Asked

end Session

namespace Question

theorem respond_eq (exception : Throwable) (accessor : Accessor) :
    (exception.receiver accessor).respond? accessor.method.name =
      some (.ofAccessor (exception.failure accessor) (exception.answer accessor)) := by
  cases accessor <;> rfl

end Question

namespace Jni

variable {host : Host} {session : Session}

theorem exec_access_of_none (cooperates : host.Cooperates) (quiet : session.IsQuiet)
    {question : Question}
    (answers : question.exception.failure question.accessor = none) :
    (access (question.exception.receiver question.accessor) question.accessor.method []).exec
        host session =
      (.ok (.reference (question.exception.answer question.accessor)),
        (session.record question.event).record .exceptionCheck) := by
  have returns : ((question.exception.receiver question.accessor).respond?
      question.accessor.method.name).getD (host.invoke session.history
        (question.exception.receiver question.accessor) question.accessor.method []) =
      .returns (.reference (question.exception.answer question.accessor)) := by
    rw [Question.respond_eq, answers]
    rfl
  exact exec_invoke_of_returns (cooperates.provides _) cooperates.clears.check quiet returns

theorem exec_access_of_some (cooperates : host.Cooperates) {question : Question}
    {thrown : Throwable}
    (throws : question.exception.failure question.accessor = some thrown) :
    (access (question.exception.receiver question.accessor) question.accessor.method []).exec
        host session =
      (.error (.jni .exceptionThrown),
        { session.record question.event with pending := some thrown }.record
          .exceptionCheck) := by
  apply exec_invoke_of_throws (cooperates.provides _) cooperates.clears.check
  rw [Question.respond_eq, throws]
  rfl

theorem exec_ask_of_none (cooperates : host.Cooperates) {core : CoreClasses}
    (genuine : core.IsGenuine) (quiet : session.IsQuiet) {question : Question}
    (answers : question.exception.failure question.accessor = none) :
    ∃ after, (ask core question.exception question.accessor).exec host session =
        (.ok (question.exception.answer question.accessor), after) ∧
      session.Asked [question] after := by
  refine ⟨((session.record question.event).record .exceptionCheck).record .exceptionCheck, ?_, ?_⟩
  · have untroubled : ((session.record question.event).record .exceptionCheck).IsQuiet := quiet
    rw [ask, consult, genuine, answers, exec_bind_of_ok (exec_attempt _ host session),
      exec_access_of_none cooperates quiet answers,
      exec_bind_of_ok (exec_takePending_of_none cooperates.clears untroubled)]
    rfl
  · refine Session.Asked.of_events [question.event, .exceptionCheck, .exceptionCheck] rfl ?_ ?_
    · exact quiet
    · simp only [Session.record, List.append_assoc, List.cons_append, List.nil_append]

theorem exec_ask_of_some (cooperates : host.Cooperates) {core : CoreClasses}
    (genuine : core.IsGenuine) {question : Question} {thrown : Throwable}
    (throws : question.exception.failure question.accessor = some thrown) :
    ∃ between, session.Asked [question] between ∧
      (ask core question.exception question.accessor).exec host session =
        (do throw (← faultOf thrown (describe core thrown)) : Jni (Option Object)).exec host
          between := by
  refine ⟨{ session with
    history := session.history ++ [question.event, .exceptionCheck, .exceptionCheck,
      .exceptionOccurred, .exceptionClear]
    pending := none }, ?_, ?_⟩
  · exact Session.Asked.of_events _ rfl rfl rfl
  · rw [ask, consult, genuine, throws, exec_bind_of_ok (exec_attempt _ host session),
      exec_access_of_some cooperates throws,
      exec_bind_of_ok (exec_takePending_of_some cooperates.clears rfl)]
    simp only [Session.record, List.append_assoc]
    rfl

/-- From a quiet session the operation obtains a result of the expected form and asks nothing. -/
def Obtains {α : Type} (host : Host) (expected : α → Prop) (operation : Jni α) : Prop :=
  ∀ session : Session, session.IsQuiet → ∃ result after,
    operation.exec host session = (.ok result, after) ∧ expected result ∧
      session.Asked [] after

namespace Obtains

variable {α β : Type} {expected : α → Prop} {wanted : β → Prop}

theorem pure {result : α} (fits : expected result) :
    Obtains host expected (Pure.pure result) := by
  intro session quiet
  exact ⟨result, session, exec_pure result host session, fits, .refl quiet⟩

theorem bind {operation : Jni α} {next : α → Jni β} (first : Obtains host expected operation)
    (rest : ∀ result, expected result → Obtains host wanted (next result)) :
    Obtains host wanted (operation >>= next) := by
  intro session quiet
  rcases first session quiet with ⟨result, between, ran, fits, asked⟩
  rcases rest result fits between asked.quiet with ⟨last, after, continued, wantedFits, later⟩
  exact ⟨last, after, (exec_bind_of_ok ran next).trans continued, wantedFits, asked.trans later⟩

theorem releasingOnFault {refs : List GlobalRef} {operation : Jni α}
    (obtained : Obtains host expected operation) :
    Obtains host expected (releasingOnFault refs operation) := by
  intro session quiet
  rcases obtained session quiet with ⟨result, after, ran, fits, asked⟩
  refine ⟨result, after, ?_, fits, asked⟩
  rw [Jni.releasingOnFault, exec_bind_of_ok (exec_attempt operation host session), ran]
  rfl

end Obtains

theorem newGlobalRef_obtains (cooperates : host.Cooperates) (object : Object) :
    Obtains host (fun ref => ref.object = object) (newGlobalRef object) := by
  intro session quiet
  have machine : getJavaVm.exec host session =
      (.ok ⟨session.history.length⟩, session.record .getJavaVm) := by
    rw [getJavaVm, exec_bind_of_ok (exec_get host session), exec_bind, exec_requestStatus,
      if_pos (cooperates.provides _), cooperates.machine]
    rfl
  refine ⟨⟨(session.record .getJavaVm).history.length, object⟩,
    (session.record .getJavaVm).record (.newGlobalRef object), ?_, rfl, ?_⟩
  · rw [newGlobalRef, exec_bind_of_ok machine, exec_request, if_pos (cooperates.provides _)]
  · exact ((Session.Asked.refl quiet).record rfl).record rfl

/-- What a lookup finds is there, since nothing is pending after it. -/
theorem acquire_obtains (cooperates : host.Cooperates) {function : Function} {event : Event}
    {answer : Host → History → Reply} {refusal : JniFault}
    (given : ∀ history, answer host history = .given) (other : event.isAccess = false) :
    Obtains host (fun _ => True) (acquire function event answer refusal) := by
  intro session quiet
  refine ⟨(), (session.record event).record .exceptionCheck, ?_, trivial, ?_⟩
  · exact exec_acquire_of_given (cooperates.provides _) cooperates.clears.check (given _) quiet
  · exact ((Session.Asked.refl quiet).record other).record rfl

theorem findClass_obtains (cooperates : host.Cooperates) {className : String}
    (found : ∀ history, host.findClass history className = .given) :
    Obtains host (fun _ => True) (findClass className) :=
  acquire_obtains cooperates found rfl

theorem findMethod_obtains (cooperates : host.Cooperates) {method : MethodId}
    (found : ∀ history, host.findMethod history method = .given) :
    Obtains host (fun _ => True) (findMethod method) := by
  rw [findMethod]
  apply Obtains.bind (acquire_obtains cooperates found rfl)
  intro _ _
  exact Obtains.pure trivial

theorem readText_obtains (cooperates : host.Cooperates) (units : Units) :
    Obtains host (· = units.toText) (readText (some (.string units))) := by
  unfold readText
  apply Obtains.bind (findClass_obtains cooperates cooperates.stringClass)
  intro _ _ session quiet
  refine ⟨units.toText, { session with
    history := session.history ++ [.getObjectClass (.string units), .checkString (.string units),
      .readString (.string units), .exceptionCheck] }, ?_, rfl, ?_⟩
  · simp only [classOf, exec_bind, exec_request, cooperates.provides, if_true, Object.isString]
    rw [exec_check_of_none cooperates.clears.check]
    · simp only [Session.record, List.append_assoc]
      rfl
    · exact quiet
  · exact Session.Asked.of_events _ rfl quiet rfl

theorem exec_readText_none (cooperates : host.Cooperates) (quiet : session.IsQuiet) :
    ∃ after, (readText none).exec host session =
        (.error (.jni (.nullPointer "get_object_class")), after) ∧ session.Asked [] after := by
  rcases findClass_obtains cooperates cooperates.stringClass session quiet with
    ⟨_, after, ran, _, asked⟩
  refine ⟨after, ?_, asked⟩
  unfold readText
  rw [exec_bind_of_ok ran]
  rfl

end Jni

/-! ## Describing -/

/-- What comes of describing an exception: its name and message, or the failure to convert it. -/
inductive Described (exception : Throwable) :
    List Question → Except Fault (String × String) → Prop where
  | told (smooth : ∀ question ∈ exception.questions, question.IsSmooth) :
      Described exception exception.questions
        (.ok (exception.nameText, exception.fullMessage))
  | failed {asked : List Question} {fault : Fault}
      (converts : Converts exception asked (.error fault)) :
      Described exception asked (.error fault)

namespace Jni

/-- After the questions `before`, the operation finishes the description of the exception. -/
def Tells (host : Host) (exception : Throwable) (before : List Question)
    (operation : Jni (String × String)) : Prop :=
  ∀ session : Session, session.IsQuiet → ∃ asked outcome after,
    operation.exec host session = (outcome, after) ∧ session.Asked asked after ∧
      Described exception (before ++ asked) outcome

/-- The operation converts the exception. -/
def Reports (host : Host) (exception : Throwable) (operation : Jni Fault) : Prop :=
  ∀ session : Session, session.IsQuiet → ∃ asked outcome after,
    operation.exec host session = (outcome, after) ∧ session.Asked asked after ∧
      Converts exception asked outcome

variable {host : Host} {core : CoreClasses} {exception : Throwable} {before after : List Question}

theorem Tells.pure (smooth : ∀ question ∈ exception.questions, question.IsSmooth) :
    Tells host exception exception.questions
      (Pure.pure (exception.nameText, exception.fullMessage)) := by
  intro session quiet
  refine ⟨[], _, session, exec_pure _ host session, .refl quiet, ?_⟩
  rw [List.append_nil]
  exact .told smooth

/-- A question is answered, or what it throws is converted and ends the description. -/
theorem Tells.ask (cooperates : host.Cooperates) (genuine : core.IsGenuine) {link : Throwable}
    {accessor : Accessor}
    (split : exception.questions = before ++ ⟨link, accessor⟩ :: after)
    (smooth : ∀ question ∈ before, question.IsSmooth)
    (reported : ∀ thrown, link.failure accessor = some thrown →
      Reports host thrown (faultOf thrown (describe core thrown)))
    {next : Option Object → Jni (String × String)}
    (answered : link.failure accessor = none →
      Tells host exception (before ++ [⟨link, accessor⟩]) (next (link.answer accessor))) :
    Tells host exception before (Jni.ask core link accessor >>= next) := by
  intro session quiet
  cases fails : link.failure accessor with
  | none =>
      have answers : (⟨link, accessor⟩ : Question).exception.failure accessor = none := fails
      rcases exec_ask_of_none cooperates genuine quiet answers with ⟨between, ran, asked⟩
      rcases answered fails between asked.quiet with
        ⟨later, outcome, last, continued, askedLater, described⟩
      rw [List.append_assoc] at described
      exact ⟨_, outcome, last, (exec_bind_of_ok ran next).trans continued,
        asked.trans askedLater, described⟩
  | some thrown =>
      have throws : (⟨link, accessor⟩ : Question).exception.failure accessor = some thrown :=
        fails
      rcases exec_ask_of_some cooperates genuine throws with ⟨between, asked, ran⟩
      rcases reported thrown fails between asked.quiet with
        ⟨later, outcome, last, converted, askedLater, converts⟩
      rcases outcome with fault | fault
      · have failed := ran.trans (exec_bind_of_error converted _)
        exact ⟨_, .error fault, last, exec_bind_of_error failed next, asked.trans askedLater,
          .failed (.interrupted split smooth throws converts (.inr rfl))⟩
      · have failed := ran.trans (exec_bind_of_ok converted _)
        exact ⟨_, .error fault, last, exec_bind_of_error failed next, asked.trans askedLater,
          .failed (.interrupted split smooth throws converts (.inl rfl))⟩

theorem Tells.read (cooperates : host.Cooperates) {units : Units}
    {next : String → Jni (String × String)}
    (rest : Tells host exception before (next units.toText)) :
    Tells host exception before (readText (some (.string units)) >>= next) := by
  intro session quiet
  rcases readText_obtains cooperates units session quiet with ⟨_, between, ran, rfl, asked⟩
  rcases rest between asked.quiet with ⟨later, outcome, last, continued, askedLater, described⟩
  exact ⟨later, outcome, last, (exec_bind_of_ok ran next).trans continued,
    asked.trans askedLater, described⟩

theorem Tells.readNull (cooperates : host.Cooperates) {link : Throwable}
    (split : exception.questions = before ++ ⟨link, .getName⟩ :: after)
    (smooth : ∀ question ∈ before, question.IsSmooth) (answers : link.nameFailure = none)
    (null : link.className = none) (next : String → Jni (String × String)) :
    Tells host exception (before ++ [⟨link, .getName⟩]) (readText none >>= next) := by
  intro session quiet
  rcases exec_readText_none cooperates quiet with ⟨last, ran, asked⟩
  refine ⟨[], _, last, exec_bind_of_error ran next, asked, ?_⟩
  rw [List.append_nil]
  exact .failed (.nameless split smooth answers null)

/-- The description of the cause ends that of the exception. -/
theorem Tells.cause {inner : Throwable} (caused : exception.cause = some inner)
    (own : ∀ question ∈ Question.about exception, question.IsSmooth)
    {operation : Jni (String × String)} (told : Tells host inner [] operation) :
    Tells host exception (Question.about exception) (do
      let (innerName, innerText) ← operation
      return (exception.nameText,
        exception.messageText ++ "\nCaused by: " ++ innerName ++ ": " ++ innerText)) := by
  intro session quiet
  rcases told session quiet with ⟨asked, outcome, last, ran, askedAll, described⟩
  rw [List.nil_append] at described
  cases described with
  | told smooth =>
      refine ⟨_, _, last, exec_bind_of_ok ran _, askedAll, ?_⟩
      rw [← Throwable.questions_of_some caused, ← Throwable.fullMessage_of_some caused]
      apply Described.told
      intro question among
      rw [Throwable.questions_of_some caused] at among
      rcases List.mem_append.mp among with first | second
      · exact own question first
      · exact smooth question second
  | failed converts =>
      exact ⟨_, _, last, exec_bind_of_error ran _, askedAll, .failed (converts.of_cause caused own)⟩

theorem Tells.reports (cooperates : host.Cooperates) {operation : Jni (String × String)}
    (told : Tells host exception [] operation) :
    Reports host exception (faultOf exception operation) := by
  intro session quiet
  rcases told session quiet with ⟨asked, outcome, between, ran, askedAll, described⟩
  rw [List.nil_append] at described
  cases described with
  | told smooth =>
      rcases newGlobalRef_obtains cooperates (.throwable exception) between askedAll.quiet with
        ⟨ref, last, made, same, nothing⟩
      refine ⟨_, .ok (.thrown exception.nameText exception.fullMessage ref), last, ?_,
        askedAll.trans nothing, ?_⟩
      · rw [faultOf, exec_bind_of_ok ran]
        exact exec_bind_of_ok made _
      · rw [List.append_nil]
        exact .described smooth same
  | failed converts =>
      exact ⟨_, _, between, exec_bind_of_error ran _, askedAll, converts⟩

/-- The last question about a throwable itself, and what follows from its answer. -/
theorem tells_cause (cooperates : host.Cooperates) (genuine : core.IsGenuine)
    (ofCause : ∀ inner, exception.cause = some inner →
      Tells host inner [] (describe core inner))
    (reported : ∀ thrown, exception.failure .getCause = some thrown →
      Reports host thrown (faultOf thrown (describe core thrown)))
    (classSmooth : (⟨exception, .getClass⟩ : Question).IsSmooth)
    (nameSmooth : (⟨exception, .getName⟩ : Question).IsSmooth)
    (messageSmooth : (⟨exception, .getMessage⟩ : Question).IsSmooth) :
    Tells host exception
      [⟨exception, .getClass⟩, ⟨exception, .getName⟩, ⟨exception, .getMessage⟩]
      (describeCause core exception exception.nameText exception.messageText) := by
  rcases exception.about_prefix_questions with ⟨rest, split⟩
  rw [describeCause]
  apply Tells.ask cooperates genuine split (by simp [classSmooth, nameSmooth, messageSmooth])
    reported
  intro causeAnswers
  have causeSmooth : (⟨exception, .getCause⟩ : Question).IsSmooth := ⟨causeAnswers, by simp⟩
  have own : ∀ question ∈ Question.about exception, question.IsSmooth := by
    simp [Question.about, classSmooth, nameSmooth, messageSmooth, causeSmooth]
  cases caused : exception.cause with
  | none =>
      have told : Tells host exception exception.questions _ :=
        Tells.pure (Throwable.questions_of_none caused ▸ own)
      rw [Throwable.questions_of_none caused, Throwable.fullMessage_of_none caused] at told
      exact told
  | some inner => exact Tells.cause caused own (ofCause inner caused)

/-- A throwable is described question by question. -/
theorem describe_tells (cooperates : host.Cooperates) (genuine : core.IsGenuine)
    (exception : Throwable) : Tells host exception [] (describe core exception) := by
  induction exception using Throwable.induction with
  | node exception ofCause ofFailure =>
      -- The four questions begin the list of all questions, so each splits it at its place.
      rcases exception.about_prefix_questions with ⟨rest, split⟩
      have reported (accessor : Accessor) (thrown : Throwable)
          (throws : exception.failure accessor = some thrown) :
          Reports host thrown (faultOf thrown (describe core thrown)) :=
        (ofFailure accessor thrown throws).reports cooperates
      rw [describe_eq]
      apply Tells.ask cooperates genuine split (by simp) (reported .getClass)
      intro classAnswers
      have classSmooth : (⟨exception, .getClass⟩ : Question).IsSmooth := ⟨classAnswers, by simp⟩
      apply Tells.ask cooperates genuine split (by simpa) (reported .getName)
      intro nameAnswers
      cases named : exception.className with
      | none =>
          simp only [Throwable.answer, named, Option.map_none]
          exact Tells.readNull cooperates split (by simpa) nameAnswers named _
      | some units =>
          have nameSmooth : (⟨exception, .getName⟩ : Question).IsSmooth :=
            ⟨nameAnswers, by simp [named]⟩
          simp only [Throwable.answer, named, Option.map_some]
          have spelled : units.toText = exception.nameText := by
            rw [Throwable.nameText, named, Option.getD_some]
          apply Tells.read cooperates
          apply Tells.ask cooperates genuine split (by simp [classSmooth, nameSmooth])
            (reported .getMessage)
          intro messageAnswers
          have messageSmooth : (⟨exception, .getMessage⟩ : Question).IsSmooth :=
            ⟨messageAnswers, by simp⟩
          have finished := tells_cause cooperates genuine ofCause (reported .getCause)
            classSmooth nameSmooth messageSmooth
          rw [spelled]
          cases said : exception.message with
          | none =>
              rw [Throwable.messageText, said] at finished
              simp only [Throwable.answer, said, Option.map_none, pure_bind]
              exact finished
          | some text =>
              rw [Throwable.messageText, said] at finished
              simp only [Throwable.answer, said, Option.map_some]
              exact Tells.read cooperates finished

/-! ## Taking an exception -/

theorem keepClass_obtains (cooperates : host.Cooperates) (className : String) :
    Obtains host (fun _ => True) (keepClass className) := by
  intro session quiet
  rcases newGlobalRef_obtains cooperates (.loadedClass className) session quiet with
    ⟨ref, last, ran, _, asked⟩
  exact ⟨ref, last, ran, trivial, asked⟩

theorem resolveCoreClasses_obtains (cooperates : host.Cooperates) (finds : host.FindsCore) :
    Obtains host (fun _ => True) resolveCoreClasses := by
  have classFound (accessor : Accessor) :=
    findClass_obtains cooperates fun history => finds.classes history accessor
  have methodFound (accessor : Accessor) :=
    findMethod_obtains cooperates fun history => finds.methods history accessor
  rw [resolveCoreClasses]
  apply Obtains.bind (classFound .getClass)
  intro _ _
  apply Obtains.bind (methodFound .getClass)
  intro getClass _
  apply Obtains.bind (classFound .getName)
  intro _ _
  apply Obtains.bind (methodFound .getName)
  intro getName _
  apply Obtains.bind (classFound .getMessage)
  intro _ _
  apply Obtains.bind (methodFound .getMessage)
  intro getMessage _
  apply Obtains.bind (methodFound .getCause)
  intro getCause _
  apply Obtains.bind (keepClass_obtains cooperates _)
  intro objectClass _
  apply Obtains.bind (keepClass_obtains cooperates _).releasingOnFault
  intro classClass _
  apply Obtains.bind (keepClass_obtains cooperates _).releasingOnFault
  intro throwableClass _
  exact Obtains.pure trivial

theorem exec_coreClasses (cooperates : host.Cooperates) (quiet : session.IsQuiet)
    (genuine : session.HasGenuineCore)
    (finds : session.shared.core = none → host.FindsCore) :
    ∃ core after, coreClasses.exec host session = (.ok core, after) ∧ core.IsGenuine ∧
      session.Asked [] after := by
  cases known : session.shared.core with
  | some core =>
      exact ⟨core, session, exec_coreClasses_of_cached known, genuine core known, .refl quiet⟩
  | none =>
      rcases resolveCoreClasses_obtains cooperates (finds known) session quiet with
        ⟨core, between, ran, _, asked⟩
      refine ⟨core, { between with shared := { between.shared with core := some core } }, ?_,
        resolveCoreClasses_genuine ran, asked.quiet, asked.accesses⟩
      rw [coreClasses, exec_cached_of_none known, ran]

/-- Taking a pending exception asks it and its causes in order, converts it by the answers, and
leaves nothing pending. -/
theorem takeException_converts (cooperates : host.Cooperates)
    (genuine : session.HasGenuineCore)
    (finds : session.shared.core = none → host.FindsCore)
    (pending : session.pending = some exception) :
    ∃ asked outcome after, takeException.exec host session = (outcome.map some, after) ∧
      Converts exception asked outcome ∧ after.pending = none ∧
        after.accesses = session.accesses ++ asked.map Question.event := by
  have took := exec_takePending_of_some cooperates.clears pending
  have taken : session.Asked [] { session with
      history := session.history ++ [.exceptionCheck, .exceptionOccurred, .exceptionClear]
      pending := none } :=
    Session.Asked.of_events _ rfl rfl rfl
  rcases exec_coreClasses cooperates taken.quiet genuine finds with
    ⟨core, between, found, good, unasked⟩
  rcases (describe_tells cooperates good exception).reports cooperates between unasked.quiet with
    ⟨asked, outcome, after, converted, askedAll, converts⟩
  have all := (taken.trans unasked).trans askedAll
  refine ⟨asked, outcome, after, ?_, converts, all.quiet, all.accesses⟩
  rw [takeException, exec_bind_of_ok took]
  dsimp only
  rw [exec_bind, exec_convert found unasked.quiet, converted]
  rcases outcome with fault | fault <;> rfl

end Jni

/-! ## An exception whose cause cannot be named -/

namespace Script

theorem host_cooperates {script : Script} (complete : script.absent = [])
    (found : script.missingClasses = []) (silent : script.statuses = fun _ => []) :
    script.host.Cooperates where
  provides function := by simp [host, complete]
  stringClass history := by simp [host, found]
  machine history := by simp [host, silent, answer]

theorem host_findsCore {script : Script} (found : script.missingClasses = [])
    (foreign : ∀ accessor : Accessor, accessor.method.owner ≠ script.className) :
    script.host.FindsCore where
  classes history accessor := by simp [host, found]
  methods history accessor := by simp [host, findMethod, foreign accessor]

end Script

/-- The cause throws another exception when its class is asked for its name. -/
def Throwable.elusive : Throwable where
  identity := .given 0
  className := some (Units.ofText "java.io.IOException")
  message := some (Units.ofText "closed")
  cause := some {
    identity := .given 1
    className := none
    message := none
    nameFailure := some {
      identity := .given 2
      className := some (Units.ofText "java.lang.IllegalStateException")
      message := none } }

/-- A session on which `Throwable.elusive` is pending. -/
def Session.elusive : Session where
  pending := some .elusive
  shared := .initialised

theorem Jni.takeException_converts_elusive :
    ∃ asked outcome after,
      takeException.exec ({} : Script).host .elusive = (outcome.map some, after) ∧
        Converts .elusive asked outcome ∧ after.pending = none ∧
          after.accesses = Session.elusive.accesses ++ asked.map Question.event := by
  have genuine : Session.elusive.HasGenuineCore := by
    rintro core ⟨⟩ accessor
    cases accessor <;> rfl
  have foreign : ∀ accessor : Accessor, accessor.method.owner ≠ ({} : Script).className := by
    intro accessor
    cases accessor <;> decide
  exact takeException_converts (Script.host_cooperates rfl rfl rfl) genuine
    (fun _ => Script.host_findsCore rfl foreign) rfl

end NativeProxy
