import NativeProxy.Proofs.Calls
import NativeProxy.Proofs.Signature.RoundTrip

/-!
# Looking methods up

Making a proxy looks the methods of its interface up, each of them once and in the order of their
declaration, and whatever the machine answers, it goes on with the next one. What was found is all
that a proxy ever calls: no later operation looks a method of the interface up again.
`Host.LookedUp` tells the lookups between two histories with their answers.
-/

namespace NativeProxy

/-- The methods that were looked up between two histories, in this order, with the answers of the
machine at the time of each lookup. Nothing else was looked up in between. -/
inductive Host.LookedUp (host : Host) : History → List MethodId → List Reply → History → Prop where
  | done {start rest : History} (silent : ∀ event ∈ rest, event.isLookup = false) :
      LookedUp host start [] [] (start ++ rest)
  | next {start before finish : History} {id : MethodId} {ids : List MethodId}
      {replies : List Reply} (silent : ∀ event ∈ before, event.isLookup = false)
      (later : LookedUp host (start ++ before ++ [.getMethodId id]) ids replies finish) :
      LookedUp host start (id :: ids) (host.findMethod (start ++ before) id :: replies) finish

namespace Host.LookedUp

variable {host : Host} {start middle finish : History} {ids : List MethodId}
  {replies : List Reply}

theorem skip (silent : ∀ event ∈ middle, event.isLookup = false)
    (later : host.LookedUp (start ++ middle) ids replies finish) :
    host.LookedUp start ids replies finish := by
  have both {rest : History} (also : ∀ event ∈ rest, event.isLookup = false) :
      ∀ event ∈ middle ++ rest, event.isLookup = false := by
    intro event happened
    exact (List.mem_append.mp happened).elim (silent event) (also event)
  cases later with
  | done also =>
      rw [List.append_assoc]
      exact .done (both also)
  | next also later =>
      rw [List.append_assoc start] at later ⊢
      exact .next (both also) later

theorem extend (earlier : host.LookedUp start ids replies finish)
    (silent : ∀ event ∈ middle, event.isLookup = false) :
    host.LookedUp start ids replies (finish ++ middle) := by
  induction earlier with
  | done also =>
      rw [List.append_assoc]
      apply LookedUp.done
      intro event happened
      exact (List.mem_append.mp happened).elim (also event) (silent event)
  | next also later ih => exact .next also ih

theorem length_eq (looked : host.LookedUp start ids replies finish) :
    replies.length = ids.length := by
  induction looked with
  | done silent => rfl
  | next silent later ih => rw [List.length_cons, List.length_cons, ih]

end Host.LookedUp

/-! ## One lookup -/

namespace Event

/-- A look for the pending exception, or its removal. -/
def isCheck : Event → Bool
  | exceptionCheck => true
  | exceptionClear => true
  | _ => false

theorem isLookup_of_isCheck {event : Event} (check : event.isCheck = true) :
    event.isLookup = false := by
  cases event <;> first | rfl | cases check

theorem ne_popFrame_of_isCheck {event : Event} (check : event.isCheck = true) :
    event ≠ .popFrame := by
  rintro rfl
  cases check

end Event

/-- The machine can look methods up, and look for and clear an exception afterwards. -/
structure Host.LooksUp (host : Host) : Prop where
  lookup : host.provides .getMethodId = true
  check : host.provides .exceptionCheck = true
  clear : host.provides .exceptionClear = true

variable {host : Host} {session : Session}

namespace Jni

/-- A lookup asks for the method and looks for an exception. Without the method it fails in a way
that means that the method is missing. -/
theorem exec_findMethod (looksUp : host.LooksUp) (quiet : session.IsQuiet) (id : MethodId) :
    ∃ found left, (findMethod id).exec host session = (found, left) ∧
      left.history = session.history ++ [.getMethodId id, .exceptionCheck] ∧
      if (host.findMethod session.history id).isGiven then found = .ok id ∧ left.IsQuiet
      else ∃ fault, found = .error fault ∧ Proxy.meansMissing fault = true := by
  have asked : (request .getMethodId (.getMethodId id) fun host history =>
      host.findMethod history id).exec host session =
        (.ok (host.findMethod session.history id), session.record (.getMethodId id)) := by
    rw [exec_request, if_pos looksUp.lookup]
  have still : (session.record (.getMethodId id)).IsQuiet := quiet
  rw [findMethod, exec_bind, acquire, exec_bind_of_ok asked]
  cases host.findMethod session.history id with
  | given =>
      simp only [Reply.exception?]
      rw [exec_bind_of_ok (exec_check_of_none looksUp.check still)]
      exact ⟨_, _, rfl, List.append_assoc .., rfl, quiet⟩
  | null =>
      simp only [Reply.exception?]
      rw [exec_bind_of_ok (exec_check_of_none looksUp.check still)]
      exact ⟨_, _, rfl, List.append_assoc .., _, rfl, rfl⟩
  | throws exception =>
      simp only [Reply.exception?]
      rw [exec_bind_of_ok (exec_lift (Native.raise exception) host _)]
      rw [exec_bind_of_error (exec_check_of_some looksUp.check rfl)]
      exact ⟨_, _, rfl, List.append_assoc .., _, rfl, rfl⟩

end Jni

namespace Proxy

/-- The binding that a lookup with a given answer makes. -/
def bound (className : String) (method : Method) (reply : Reply) : Binding :=
  ⟨method.selector, if reply.isGiven then some (method.idOn className) else none⟩

/-- A method that is missing stays unbound, and the exception that is left, if there is one, is
cleared. -/
theorem resolve_of_missing (looksUp : host.LooksUp) {className : String} {method : Method}
    {fault : Fault} {left : Session} (missing : meansMissing fault = true)
    (failed : (Jni.findMethod (method.idOn className)).exec host session =
      (.error fault, left)) (interfaceName : String) :
    ∃ after rest, (resolve className interfaceName method).exec host session =
        (.ok ⟨method.selector, none⟩, after) ∧
      after.IsQuiet ∧ after.history = left.history ++ rest ∧
      ∀ event ∈ rest, event.isCheck = true := by
  rw [resolve, Jni.exec_bind_of_ok (Jni.exec_attempt _ host session), failed]
  dsimp only
  rw [if_pos missing, Jni.exec_bind_of_ok (Jni.exec_exceptionCheck looksUp.check left)]
  cases pending : left.pending with
  | none => exact ⟨_, [.exceptionCheck], rfl, pending, rfl, by simp [Event.isCheck]⟩
  | some exception =>
      refine ⟨_, [.exceptionCheck, .exceptionClear],
        Jni.exec_bind_of_ok (Jni.exec_exceptionClear looksUp.clear _) _, rfl, ?_, ?_⟩
      · exact List.append_assoc ..
      · simp [Event.isCheck]

/-- Whatever a lookup is answered, the method is bound accordingly and no exception is left. -/
theorem exec_resolve (looksUp : host.LooksUp) (quiet : session.IsQuiet)
    (className interfaceName : String) (method : Method) :
    ∃ after rest, (resolve className interfaceName method).exec host session =
        (.ok (bound className method
          (host.findMethod session.history (method.idOn className))), after) ∧
      after.IsQuiet ∧
      after.history = session.history ++ [.getMethodId (method.idOn className)] ++ rest ∧
      ∀ event ∈ rest, event.isCheck = true := by
  rcases Jni.exec_findMethod looksUp quiet (method.idOn className) with
    ⟨found, left, asked, longer, answered⟩
  rw [bound]
  split at answered
  · next given =>
      rcases answered with ⟨rfl, still⟩
      rw [if_pos given]
      refine ⟨left, [.exceptionCheck], ?_, still, ?_, by simp [Event.isCheck]⟩
      · rw [resolve, Jni.exec_bind_of_ok (Jni.exec_attempt _ host session), asked]
        rfl
      · rw [longer, List.append_assoc]
        rfl
  · next refused =>
      rcases answered with ⟨fault, rfl, missing⟩
      rw [if_neg refused]
      rcases resolve_of_missing looksUp missing asked interfaceName with
        ⟨after, rest, ran, calm, extended, checks⟩
      refine ⟨after, .exceptionCheck :: rest, ran, calm, ?_, ?_⟩
      · rw [extended, longer, List.append_assoc, List.append_assoc]
        rfl
      · intro event happened
        rcases List.mem_cons.mp happened with rfl | later
        · rfl
        · exact checks event later

/-! ## All lookups -/

theorem exec_resolveAll (looksUp : host.LooksUp) (quiet : session.IsQuiet)
    (className interfaceName : String) (methods : List Method) :
    ∃ replies events after, (methods.mapM (resolve className interfaceName)).exec host session =
        (.ok (List.zipWith (bound className) methods replies), after) ∧
      after.IsQuiet ∧ after.history = session.history ++ events ∧ .popFrame ∉ events ∧
      host.LookedUp session.history (methods.map (Method.idOn className)) replies
        after.history := by
  induction methods generalizing session with
  | nil =>
      refine ⟨[], [], session, rfl, quiet, (List.append_nil _).symm, List.not_mem_nil, ?_⟩
      have nothing : host.LookedUp session.history [] [] (session.history ++ []) :=
        .done (by simp)
      rwa [List.append_nil] at nothing
  | cons method methods ih =>
      rcases exec_resolve looksUp quiet className interfaceName method with
        ⟨between, rest, first, still, longer, checks⟩
      rcases ih still with ⟨replies, events, after, others, left, extended, within, later⟩
      refine ⟨host.findMethod session.history (method.idOn className) :: replies,
        .getMethodId (method.idOn className) :: rest ++ events, after, ?_, left, ?_, ?_, ?_⟩
      · rw [List.mapM_cons, Jni.exec_bind_of_ok first, Jni.exec_bind_of_ok others]
        rfl
      · rw [extended, longer]
        simp
      · intro popped
        rcases List.mem_append.mp popped with early | late
        · rcases List.mem_cons.mp early with same | checked
          · cases same
          · exact Event.ne_popFrame_of_isCheck (checks _ checked) rfl
        · exact within late
      · rw [longer] at later
        have silent : ∀ event ∈ rest, event.isLookup = false := fun event happened =>
          Event.isLookup_of_isCheck (checks event happened)
        have nothing : ∀ event ∈ ([] : History), event.isLookup = false := by simp
        have here : host.LookedUp session.history _ _ after.history :=
          .next nothing (by simpa using later.skip silent)
        simpa using here

end Proxy

/-! ## Binding -/

theorem Jni.exec_newGlobalRef (machine : host.provides .getJavaVm = true)
    (reference : host.provides .newGlobalRef = true)
    (found : host.status session.history .getJavaVm = {}) (object : Object) :
    ∃ ref, (newGlobalRef object).exec host session =
      (.ok ref, (session.record .getJavaVm).record (.newGlobalRef object)) := by
  refine ⟨⟨session.history.length + 1, object⟩, ?_⟩
  have asked : getJavaVm.exec host session =
      (.ok ⟨session.history.length⟩, session.record .getJavaVm) := by
    have status : (requestStatus .getJavaVm .getJavaVm .getJavaVm).exec host session =
        (.ok 0, session.record .getJavaVm) := by
      rw [exec_requestStatus, if_pos machine, found]
      rfl
    rw [getJavaVm, exec_bind_of_ok (exec_get host session), exec_bind_of_ok status]
    rfl
  rw [newGlobalRef, exec_bind_of_ok asked, exec_request, if_pos reference]
  simp [Session.record]

/-- Binding with a frame of the given capacity works from this session on: the frame is made, the
core classes are at hand in the session `prepared`, methods can be looked up and, as long as the
frame lasts, references can be made. None of this leaves an exception pending. How the lookups are
answered is left open. -/
structure Host.Binds (host : Host) (capacity : Int) (session prepared : Session) : Prop
    extends host.LooksUp where
  push : host.provides .pushLocalFrame = true
  pop : host.provides .popLocalFrame = true
  objectClass : host.provides .getObjectClass = true
  machine : host.provides .getJavaVm = true
  reference : host.provides .newGlobalRef = true
  frame : host.status session.history .pushLocalFrame = {}
  core : ∃ core, Jni.coreClasses.exec host (session.record (.pushFrame capacity)) =
    (.ok core, prepared)
  quiet : prepared.IsQuiet
  found : ∀ events, .popFrame ∉ events →
    host.status (prepared.history ++ events) .getJavaVm = {}

namespace Proxy

variable {prepared : Session}

/-- Once the methods were looked up, the object and its class are kept alive. -/
theorem exec_keepBoth {capacity : Int} (binds : host.Binds capacity session prepared)
    {left : Session} {events : History} (longer : left.history = prepared.history ++ events)
    (within : .popFrame ∉ events) (target : Object) (className : String)
    (bindings : List Binding) :
    ∃ targetRef classRef rest, Jni.exec (do
        let targetRef ← Jni.newGlobalRef target
        let classRef ← Jni.releasingOnFault [targetRef] (Jni.keepClass className)
        return (targetRef, classRef, bindings)) host left =
          (.ok (targetRef, classRef, bindings), { left with history := left.history ++ rest }) ∧
      ∀ event ∈ rest, event.isLookup = false := by
  have targetFound : host.status left.history .getJavaVm = {} := by
    rw [longer]
    exact binds.found events within
  rcases Jni.exec_newGlobalRef binds.machine binds.reference targetFound target with
    ⟨targetRef, targetKept⟩
  have classFound : host.status
      ((left.record .getJavaVm).record (.newGlobalRef target)).history .getJavaVm = {} := by
    have history : ((left.record .getJavaVm).record (.newGlobalRef target)).history =
        prepared.history ++ (events ++ [.getJavaVm, .newGlobalRef target]) := by
      simp [Session.record, longer]
    rw [history]
    exact binds.found _ (by simpa using within)
  rcases Jni.exec_newGlobalRef binds.machine binds.reference classFound
    (.loadedClass className) with ⟨classRef, classKept⟩
  refine ⟨targetRef, classRef, [.getJavaVm, .newGlobalRef target, .getJavaVm,
    .newGlobalRef (.loadedClass className)], ?_, ?_⟩
  · rw [Jni.exec_bind_of_ok targetKept, Jni.releasingOnFault, bind_assoc,
      Jni.exec_bind_of_ok (Jni.exec_attempt _ host _), Jni.keepClass, classKept]
    simp [Jni.exec_map, Session.record]
  · simp [Event.isLookup]

theorem exec_bindMethods {capacity : Int} (binds : host.Binds capacity session prepared)
    (target : Object) (interface : Interface) :
    ∃ targetRef classRef replies after,
      (bindMethods target interface).exec host (session.record (.pushFrame capacity)) =
        (.ok (targetRef, classRef,
          List.zipWith (bound (host.classOf target)) interface.methods replies), after) ∧
      after.IsQuiet ∧
      host.LookedUp prepared.history (interface.methods.map (Method.idOn (host.classOf target)))
        replies after.history := by
  rcases binds.core with ⟨core, atHand⟩
  have classed : (Jni.classOf target).exec host prepared =
      (.ok (host.classOf target), prepared.record (.getObjectClass target)) := by
    rw [Jni.classOf, Jni.exec_request, if_pos binds.objectClass]
  have still : (prepared.record (.getObjectClass target)).IsQuiet := binds.quiet
  rcases exec_resolveAll binds.toLooksUp still (host.classOf target) interface.name
    interface.methods with ⟨replies, events, looked, resolved, calm, longer, within, lookups⟩
  have extended : looked.history = prepared.history ++ (.getObjectClass target :: events) := by
    rw [longer]
    exact List.append_assoc ..
  rcases exec_keepBoth binds extended (by simpa using within) target (host.classOf target)
    (List.zipWith (bound (host.classOf target)) interface.methods replies) with
    ⟨targetRef, classRef, rest, kept, silent⟩
  refine ⟨targetRef, classRef, replies, { looked with history := looked.history ++ rest }, ?_,
    calm, ?_⟩
  · rw [bindMethods, Jni.exec_bind_of_ok atHand, Jni.exec_bind_of_ok classed,
      Jni.exec_bind_of_ok resolved, kept]
  · have classLookup : ∀ event ∈ [Event.getObjectClass target], event.isLookup = false := by
      simp [Event.isLookup]
    exact (lookups.skip classLookup).extend silent

/-- Binding succeeds however the lookups are answered, and every method is bound accordingly. -/
theorem exec_bind {config : Config} (binds : host.Binds config.frameCapacity session prepared)
    (positive : 0 < config.frameCapacity) (target : Object) (interface : Interface) :
    ∃ built after replies,
      (bind (some target) interface config).exec host session = (.ok built, after) ∧
      after.IsQuiet ∧ built.interface = interface ∧
      built.bindings = List.zipWith (bound (host.classOf target)) interface.methods replies ∧
      host.LookedUp prepared.history (interface.methods.map (Method.idOn (host.classOf target)))
        replies after.history := by
  rcases exec_bindMethods binds target interface with
    ⟨targetRef, classRef, replies, ended, made, quiet, looked⟩
  let bindings := List.zipWith (bound (host.classOf target)) interface.methods replies
  have pushed : (Jni.requestStatus .pushLocalFrame .pushLocalFrame
      (.pushFrame config.frameCapacity)).exec host session =
        (.ok 0, session.record (.pushFrame config.frameCapacity)) := by
    rw [Jni.exec_requestStatus, if_pos binds.push, binds.frame]
    rfl
  have framed (held : GlobalRef × GlobalRef × List Binding → List GlobalRef) :
      (Jni.withFrame config.frameCapacity held (bindMethods target interface)).exec host session =
        (.ok (targetRef, classRef, bindings), ended.record .popFrame) := by
    rw [Jni.exec_withFrame, pushed]
    dsimp only
    rw [if_pos rfl, made]
    dsimp only
    rw [if_pos binds.pop]
  have logged : Native.Keeps host
      (fun left => left.IsQuiet ∧ left.history = ended.history ++ [.popFrame])
      (logBindings interface bindings) := by
    apply logBindings_keeps
    intro level text left kept
    exact kept
  rcases logged (ended.record .popFrame) ⟨quiet, rfl⟩ with ⟨still, longer⟩
  refine ⟨⟨targetRef, classRef, interface, bindings, interface.methods.map fun _ => none, config⟩,
    _, replies, ?_, still, rfl, rfl, ?_⟩
  · rw [bind.eq_def]
    dsimp only
    rw [if_pos positive, Jni.exec_bind_of_ok (framed _)]
    rfl
  · rw [longer]
    exact looked.extend (by simp [Event.isLookup])

end Proxy

/-! ## Declared texts -/

/-- The selector of the method was read from the source, a name and a signature text; refining the
method keeps its selector. -/
def Method.ReadFrom (source : String × String) (method : Method) : Prop :=
  Selector.parse source.1 source.2 = .ok method.selector

theorem Proxy.map_idOn_of_readFrom {sources : List (String × String)} {methods : List Method}
    (read : List.Forall₂ Method.ReadFrom sources methods) (className : String) :
    methods.map (Method.idOn className) =
      sources.map fun source => ⟨className, source.1, source.2⟩ := by
  induction read with
  | nil => rfl
  | cons first others ih =>
      rw [List.map_cons, List.map_cons, ih]
      rcases Selector.parse_eq_ok.mp first with ⟨name, _, text⟩
      rw [Method.idOn, Method.name, Method.signature, name, text]

namespace Interface

theorem methods_of_add {interface larger : Interface} {method : Method}
    (added : interface.add method = .ok larger) :
    larger.methods = interface.methods ++ [method] := by
  rw [add] at added
  split at added
  · cases added
  · cases added
    rfl

theorem methods_of_addAll {interface larger : Interface} {methods : List Method}
    (added : interface.addAll methods = .ok larger) :
    larger.methods = interface.methods ++ methods := by
  rw [addAll] at added
  induction methods generalizing interface with
  | nil =>
      cases added
      exact (List.append_nil _).symm
  | cons method methods ih =>
      rw [List.foldlM_cons] at added
      cases first : interface.add method with
      | error fault =>
          rw [first] at added
          cases added
      | ok next =>
          rw [first] at added
          rw [ih added, methods_of_add first, List.append_assoc]
          rfl

end Interface

/-! ## Bindings -/

namespace Proxy

variable {className : String} {methods : List Method} {replies : List Reply}

theorem isResolved_bound (method : Method) (reply : Reply) :
    (bound className method reply).isResolved = reply.isGiven := by
  rw [bound, Binding.isResolved]
  cases reply.isGiven <;> rfl

theorem method_of_bound {method : Method} {reply : Reply} {id : MethodId}
    (found : (bound className method reply).method = some id) :
    reply.isGiven = true ∧ id = method.idOn className := by
  rw [bound] at found
  cases given : reply.isGiven with
  | true =>
      simp only [given, if_true, Option.some.injEq] at found
      exact ⟨rfl, found.symm⟩
  | false => simp [given] at found

theorem unresolved_of_bound {proxy : Proxy}
    (made : proxy.bindings = List.zipWith (bound className) methods replies) :
    proxy.unresolved =
      ((methods.zip replies).filter fun looked => !looked.2.isGiven).map (·.1.selector) := by
  rw [unresolved, made, ← List.map_uncurry_zip_eq_zipWith, List.filter_map, List.map_map]
  congr 1
  congr 1
  funext looked
  exact congrArg _ (isResolved_bound looked.1 looked.2)

theorem binding_of_bound {proxy : Proxy}
    (made : proxy.bindings = List.zipWith (bound className) methods replies)
    (same : replies.length = methods.length) {index : Nat} {method : Method}
    (known : methods[index]? = some method) :
    ∃ reply, replies[index]? = some reply ∧
      proxy.binding? index = some (bound className method reply) := by
  have within : index < replies.length := by
    rw [same]
    exact (List.getElem?_eq_some_iff.mp known).1
  have answered : replies[index]? = some replies[index] := List.getElem?_eq_getElem within
  refine ⟨_, answered, ?_⟩
  rw [binding?, made, List.getElem?_zipWith, known, answered]

theorem isResolved_of_bound {proxy : Proxy}
    (made : proxy.bindings = List.zipWith (bound className) methods replies)
    (same : replies.length = methods.length) (index : Nat) :
    proxy.isResolved index = (replies[index]?).any Reply.isGiven := by
  cases known : methods[index]? with
  | some method =>
      rcases binding_of_bound made same known with ⟨reply, answered, bound⟩
      rw [isResolved, bound, answered, Option.any_some, Option.any_some, isResolved_bound]
  | none =>
      have unanswered : replies[index]? = none := by
        rw [List.getElem?_eq_none_iff, same]
        exact List.getElem?_eq_none_iff.mp known
      rw [isResolved, binding?, made, List.getElem?_zipWith, known, unanswered]
      rfl

end Proxy

/-! ## Operations -/

/-- A lookup of a method that is not one of the class of colours. -/
def Event.isOtherLookup : Event → Bool
  | .getMethodId method => !ColorClass.methods.contains method
  | _ => false

/-- How an operation of a proxy relies on the lookups of the methods `ids`. It looks no method up
again, since colours look up their own; a method that was not found is not called, and one that was
found is called as it was found. -/
structure Operation.UsesLookups (ids : List MethodId) (replies : List Reply) (proxy : Proxy)
    (answer : Answer) (events : List Event) (operation : Operation) : Prop where
  lookups : ∀ id, .getMethodId id ∈ events → id ∈ ColorClass.methods
  unresolved : ∀ index method, operation.request proxy = .ok index →
    proxy.method? index = some method → (replies[index]?).any Reply.isGiven = false →
    answer = operation.report (.error (.unresolvedMethod proxy.interface.name method.text))
  resolved : ∀ receiver id kind args, .call receiver id kind args ∈ events →
    ∃ index, operation.request proxy = .ok index ∧ ids[index]? = some id ∧
      (replies[index]?).any Reply.isGiven = true

section Operations

variable {built proxy next : Proxy} {calls : List Call} {after : Session} {operation : Operation}
  {answer : Answer}

theorem Operation.lookups_of_perform {core : CoreClasses}
    (cached : session.shared.core = some core)
    (ran : (operation.perform proxy).exec host session = ((answer, next), after))
    {events : List Event} (longer : after.history = session.history ++ events) {id : MethodId}
    (looked : .getMethodId id ∈ events) : id ∈ ColorClass.methods := by
  have sustains : host.Sustains (Session.Tallies Event.isOtherLookup
      (session.history.filter Event.isOtherLookup)) := by
    refine Session.Tallies.sustained ?_ ?_
    · intro event routine
      cases event <;> first | rfl | cases routine
    · intro method listed
      simp [Event.isOtherLookup, listed]
  have kept := Operation.perform_keeps sustains.steady.release sustains.steady.log
    (sustains.callMethod
      (fun {_ event} milestone tallies => tallies.record_uncounted (by
        cases event <;> first | rfl | cases milestone)) proxy) operation
  have counted := (kept.after ⟨⟨core, cached⟩, rfl⟩ ran).events
  rw [longer, List.filter_append, List.append_right_eq_self, List.filter_eq_nil_iff] at counted
  simpa [Event.isOtherLookup] using counted _ looked

theorem Run.operation_uses_lookups {className : String} {replies : List Reply}
    (run : Run host built calls proxy session)
    (made : built.bindings = List.zipWith (Proxy.bound className) built.interface.methods replies)
    (same : replies.length = built.interface.methods.length)
    (ran : (operation.perform proxy).exec host session = ((answer, next), after)) :
    ∃ events, after.history = session.history ++ events ∧
      operation.UsesLookups (built.interface.methods.map (Method.idOn className)) replies proxy
        answer events := by
  rcases run.operation_events ran with ⟨events, longer, left⟩
  rcases run.reachable.core_cached with ⟨core, cached⟩
  have interface : proxy.interface = built.interface := by rw [run.only_slots]
  have requests : operation.request proxy = operation.request built := by
    rw [run.only_slots]
    exact operation.request_withSlots built _
  refine ⟨events, longer, ?lookups, ?unresolved, ?resolved⟩
  case lookups =>
    intro id looked
    exact Operation.lookups_of_perform cached ran longer looked
  case unresolved =>
    intro index method requested known missing
    rw [Proxy.method?, interface] at known
    rcases Proxy.binding_of_bound made same known with ⟨reply, answered, bound⟩
    have unbound : (built.binding? index).bind Binding.method = none := by
      rw [answered, Option.any_some] at missing
      rw [bound, Option.bind_some, Proxy.bound, missing]
      rfl
    rw [interface]
    exact left.answer_of_unresolved (requests.symm.trans requested) known unbound
  case resolved =>
    intro receiver id kind raws called
    rcases left.call_of_binding called with ⟨index, method, requested, known, binding⟩
    rcases Proxy.binding_of_bound made same known with ⟨reply, answered, bound⟩
    rw [bound, Option.bind_some] at binding
    rcases Proxy.method_of_bound binding with ⟨given, rfl⟩
    refine ⟨index, requests.trans requested, ?_, ?_⟩
    · rw [List.getElem?_map, show built.interface.methods[index]? = some method from known]
      rfl
    · rw [answered, Option.any_some]
      exact given

end Operations

/-! ## A proxy and its lookups -/

/-- Since the history `start`, no methods were looked up but those of the accessors. -/
def Session.OnlyAccessors (start : History) (session : Session) : Prop :=
  ∃ events, session.history = start ++ events ∧
    ∀ id, .getMethodId id ∈ events → ∃ accessor : Accessor, id = accessor.method

theorem Session.OnlyAccessors.record {start : History} {event : Event}
    (only : session.OnlyAccessors start)
    (allowed : ∀ id, event = .getMethodId id → ∃ accessor : Accessor, id = accessor.method) :
    (session.record event).OnlyAccessors start := by
  rcases only with ⟨events, longer, ofAccessors⟩
  refine ⟨events ++ [event], ?_, ?_⟩
  · rw [Session.record, longer, List.append_assoc]
  · intro id looked
    rcases List.mem_append.mp looked with earlier | last
    · exact ofAccessors id earlier
    · exact allowed id (List.mem_singleton.mp last).symm

theorem Jni.coreClasses_onlyAccessors (start : History) :
    Keeps host (Session.OnlyAccessors start) coreClasses := by
  have robust : Session.Robust (Session.OnlyAccessors start) := {
    recorded := fun {_ event} routine only => only.record (by
      rintro id rfl
      cases routine)
    pended := fun _ only => only
    logged := fun _ only => only }
  apply robust.steady.coreClasses
  case recorded =>
    intro accessor session only
    apply only.record
    rintro id ⟨⟩
    exact ⟨accessor, rfl⟩
  case kept => exact fun _ _ only => only

/-- Making a proxy succeeds whatever the lookups of the methods are answered. Each method is looked
up once, in the order of declaration, by the name and the text it was read from; the methods that
were found are resolved, the others are listed as unresolved, and no exception is left. From then on
the proxy relies on these lookups alone. -/
theorem Proxy.bind_looks_methods_up {sources : List (String × String)} {methods : List Method}
    {name : String} {namespaceName : Option String} {interface : Interface} {config : Config}
    {prepared : Session} (read : List.Forall₂ Method.ReadFrom sources methods)
    (added : ({ name, namespaceName } : Interface).addAll methods = .ok interface)
    (positive : 0 < config.frameCapacity)
    (binds : host.Binds config.frameCapacity session prepared) (target : Object) :
    ∃ built after replies,
      (bind (some target) interface config).exec host session = (.ok built, after) ∧
      after.pending = none ∧
      prepared.OnlyAccessors session.history ∧
      host.LookedUp prepared.history
        (sources.map fun source => ⟨host.classOf target, source.1, source.2⟩) replies
        after.history ∧
      (∀ index, built.isResolved index = (replies[index]?).any Reply.isGiven) ∧
      built.unresolved =
        ((methods.zip replies).filter fun looked => !looked.2.isGiven).map (·.1.selector) ∧
      ∀ {calls proxy session operation answer next after}, Run host built calls proxy session →
        (Operation.perform proxy operation).exec host session = ((answer, next), after) →
        ∃ events, after.history = session.history ++ events ∧
          operation.UsesLookups
            (sources.map fun source => ⟨host.classOf target, source.1, source.2⟩) replies proxy
            answer events := by
  have declared : interface.methods = methods := Interface.methods_of_addAll added
  rcases exec_bind binds positive target interface with
    ⟨built, after, replies, ran, quiet, same, bindings, looked⟩
  have answered : replies.length = interface.methods.length := by
    rw [looked.length_eq, List.length_map]
  have texts : interface.methods.map (Method.idOn (host.classOf target)) =
      sources.map fun source => ⟨host.classOf target, source.1, source.2⟩ := by
    rw [declared]
    exact map_idOn_of_readFrom read (host.classOf target)
  refine ⟨built, after, replies, ran, quiet, ?accessors, texts ▸ looked,
    isResolved_of_bound bindings answered, declared ▸ unresolved_of_bound bindings, ?later⟩
  case accessors =>
    rcases binds.core with ⟨core, atHand⟩
    refine (Jni.coreClasses_onlyAccessors session.history).after ?_ atHand
    exact ⟨[.pushFrame config.frameCapacity], rfl, by simp⟩
  case later =>
    intro calls proxy session operation answer next after run performed
    rw [← texts, ← same]
    rw [← same] at bindings answered
    exact run.operation_uses_lookups bindings answered performed

/-! ## A gate -/

/-- The target can be opened, and a lookup of its other methods fails in either way. -/
def Script.gate : Script where
  methods := [{ name := "open", signature := "()V" },
    { name := "close", signature := "()V", lookup := .null }]

def Interface.gate : Interface where
  name := "Gate"
  methods := ["open", "close", "lock"].map fun name =>
    .ofSelector ⟨name, ⟨[], .primitive .void⟩⟩

/-- A session in a process that has looked the core classes up. -/
def Session.initialised : Session where
  shared := .initialised

theorem Script.gate_binds :
    Script.gate.host.Binds 16 .initialised (Session.initialised.record (.pushFrame 16)) where
  lookup := rfl
  check := rfl
  clear := rfl
  push := rfl
  pop := rfl
  objectClass := rfl
  machine := rfl
  reference := rfl
  frame := rfl
  core := ⟨_, rfl⟩
  quiet := rfl
  found _ _ := rfl

theorem Proxy.bind_looks_gate_up :
    ∃ built after replies,
      (bind (some (.plain "gate")) .gate {}).exec Script.gate.host .initialised =
        (.ok built, after) ∧
      after.pending = none ∧
      Script.gate.host.LookedUp [.pushFrame 16] [⟨"Target", "open", "()V"⟩,
        ⟨"Target", "close", "()V"⟩, ⟨"Target", "lock", "()V"⟩] replies after.history ∧
      ∀ index, built.isResolved index = (replies[index]?).any Reply.isGiven := by
  have wellFormed : Signature.WellFormed ⟨[], .primitive .void⟩ := ⟨by simp, .inl rfl⟩
  have declared (name : String) : Method.ReadFrom (name, "()V")
      (.ofSelector ⟨name, ⟨[], .primitive .void⟩⟩) :=
    Selector.parse_eq_ok.mpr ⟨rfl, wellFormed, rfl⟩
  have read : List.Forall₂ Method.ReadFrom [("open", "()V"), ("close", "()V"), ("lock", "()V")]
      Interface.gate.methods :=
    .cons (declared "open") (.cons (declared "close") (.cons (declared "lock") .nil))
  have added : ({ name := "Gate" } : Interface).addAll Interface.gate.methods = .ok .gate := rfl
  have positive : 0 < ({} : Config).frameCapacity := by decide
  rcases bind_looks_methods_up read added positive Script.gate_binds (.plain "gate") with
    ⟨built, after, replies, ran, quiet, _, looked, resolved, _, _⟩
  exact ⟨built, after, replies, ran, quiet, looked, resolved⟩

end NativeProxy
