import Mathlib.Data.List.Forall2
import NativeProxy.Proofs.Operation
import NativeProxy.Proofs.Persistence

/-!
# Runs of a proxy

A proxy is made once and then used by any mix of four operations. Between two of them other code
may use the machine, so a run may go on from any later session: exceptions may come and go, but
what happened stays in the history and what was found stays found. `Reachable` gathers the
proxies and sessions of all runs, and `Run` keeps the calls that led to them. Every one of them has
the core classes, which making the proxy looked up.
-/

namespace NativeProxy

/-- The proxies and the sessions of the runs that start by binding an object. -/
inductive Reachable (host : Host) : Proxy → Session → Prop where
  | bound {target : Option Object} {interface : Interface} {config : Config} {proxy : Proxy}
      {before after : Session}
      (built : (Proxy.bind target interface config).exec host before = (.ok proxy, after)) :
      Reachable host proxy after
  | performed {proxy next : Proxy} {session after : Session} {answer : Answer}
      (operation : Operation) (earlier : Reachable host proxy session)
      (ran : (operation.perform proxy).exec host session = ((answer, next), after)) :
      Reachable host next after
  | elsewhere {proxy : Proxy} {session after : Session} (earlier : Reachable host proxy session)
      (passed : session.Precedes after) : Reachable host proxy after

/-- A call of a method: what came of it, and whether the operation only flagged that. -/
structure Call where
  index : Nat
  outcome : Except Fault Value
  flagged : Bool

namespace Operation

/-- Whether the operation tells only that it succeeded. -/
def isFlag : Operation → Bool
  | .invokeFlag _ _ => true
  | _ => false

/-- What comes of an operation, whether or not its answer tells it. -/
def outcome (host : Host) (proxy : Proxy) (session : Session) (operation : Operation) :
    Except Fault Value :=
  match operation.request proxy with
  | .error fault => .error fault
  | .ok index => ((proxy.callMethod index operation.args).exec host session).1

/-- The call an operation makes. One that the mode of its method does not allow makes none, and
neither does one that names no method of the interface. -/
def call? (host : Host) (proxy : Proxy) (session : Session) (operation : Operation) :
    Option Call :=
  match operation.request proxy with
  | .error _ => none
  | .ok index => some ⟨index, operation.outcome host proxy session, operation.isFlag⟩

section Call

variable {host : Host} {proxy : Proxy} {session : Session} {operation : Operation}

theorem call_of_refused {fault : Fault} (refused : operation.request proxy = .error fault) :
    operation.call? host proxy session = none := by
  rw [call?, refused]

theorem outcome_of_called {index : Nat} {outcome : Except Fault Value} {between : Session}
    (requested : operation.request proxy = .ok index)
    (called : (proxy.callMethod index operation.args).exec host session = (outcome, between)) :
    operation.outcome host proxy session = outcome := by
  rw [Operation.outcome, requested]
  dsimp only
  rw [called]

theorem call_of_called {index : Nat} {outcome : Except Fault Value} {between : Session}
    (requested : operation.request proxy = .ok index)
    (called : (proxy.callMethod index operation.args).exec host session = (outcome, between)) :
    operation.call? host proxy session = some ⟨index, outcome, operation.isFlag⟩ := by
  rw [call?, requested]
  dsimp only
  rw [outcome_of_called requested called]

end Call

end Operation

/-- The runs of the proxy `built`: the calls that were made, oldest first, and the proxy and the
session that they led to. -/
inductive Run (host : Host) (built : Proxy) : List Call → Proxy → Session → Prop where
  | bound {target : Option Object} {interface : Interface} {config : Config}
      {before after : Session}
      (made : (Proxy.bind target interface config).exec host before = (.ok built, after)) :
      Run host built [] built after
  | performed {calls : List Call} {proxy next : Proxy} {session after : Session} {answer : Answer}
      (operation : Operation) (earlier : Run host built calls proxy session)
      (ran : (operation.perform proxy).exec host session = ((answer, next), after)) :
      Run host built (calls ++ (operation.call? host proxy session).toList) next after
  | elsewhere {calls : List Call} {proxy : Proxy} {session after : Session}
      (earlier : Run host built calls proxy session) (passed : session.Precedes after) :
      Run host built calls proxy after

variable {host : Host}

theorem Run.reachable {built proxy : Proxy} {calls : List Call} {session : Session}
    (run : Run host built calls proxy session) : Reachable host proxy session := by
  induction run with
  | bound made => exact .bound made
  | performed operation earlier ran ih => exact .performed operation ih ran
  | elsewhere earlier passed ih => exact .elsewhere ih passed

theorem Operation.perform_advances {proxy : Proxy} {start : Session} (operation : Operation) :
    Native.Keeps host start.Precedes (operation.perform proxy) :=
  perform_keeps Native.release_advances Native.log_advances
    (Proxy.callMethod_advances proxy) operation

/-! ## What making a proxy makes -/

/-- What every step of a traversal that succeeded makes. -/
theorem Jni.mapM_eq_ok {α β : Type} {relation : α → β → Prop} {operation : α → Jni β}
    (each : ∀ {item result before left}, (operation item).exec host before = (.ok result, left) →
      relation item result)
    {items : List α} {results : List β} {session after : Session}
    (run : (items.mapM operation).exec host session = (.ok results, after)) :
    List.Forall₂ relation items results := by
  induction items generalizing results session after with
  | nil =>
      simp only [List.mapM_nil, Jni.exec_pure, Prod.mk.injEq, Except.ok.injEq] at run
      rw [← run.1]
      exact .nil
  | cons item items ih =>
      rw [List.mapM_cons] at run
      rcases Jni.exec_bind_eq_ok run with ⟨first, between, made, rest⟩
      rcases Jni.exec_bind_eq_ok rest with ⟨others, last, madeOthers, ending⟩
      simp only [Jni.exec_pure, Prod.mk.injEq, Except.ok.injEq] at ending
      rw [← ending.1]
      exact .cons (each made) (ih madeOthers)

theorem Jni.classOf_eq_ok {object : Object} {className : String} {session after : Session}
    (ran : (Jni.classOf object).exec host session = (.ok className, after)) :
    className = host.classOf object := by
  rw [Jni.classOf, Jni.exec_request] at ran
  split at ran
  · simp only [Prod.mk.injEq, Except.ok.injEq] at ran
    exact ran.1.symm
  · exact absurd ran (by simp)

namespace Proxy

/-- The binding of a method on a class: under its selector, the method that was looked up. -/
structure Binds (className : String) (method : Method) (binding : Binding) : Prop where
  selector : binding.selector = method.selector
  method : ∀ id, binding.method = some id →
    id = method.idOn className

theorem resolve_eq_ok {className interfaceName : String} {method : Method} {binding : Binding}
    {session after : Session}
    (run : (resolve className interfaceName method).exec host session = (.ok binding, after)) :
    Binds className method binding := by
  rw [resolve, Jni.exec_bind_of_ok (Jni.exec_attempt _ host session)] at run
  rcases looked : (Jni.findMethod (method.idOn className)).exec host session with
    ⟨fault | id, between⟩
  · rw [looked] at run
    dsimp only at run
    split at run
    · rcases Jni.exec_bind_eq_ok run with ⟨pending, checked, _, rest⟩
      have unbound {left : Session} (finished : Jni.exec (do
          Native.log .error (interfaceName ++ ": Could not find method: " ++ method.name ++
            method.signature.text)
          return ({ selector := method.selector, method := none } : Binding)) host left =
            (.ok binding, after)) : Binds className method binding := by
        rcases Jni.exec_bind_eq_ok finished with ⟨_, logged, _, ending⟩
        simp only [Jni.exec_pure, Prod.mk.injEq, Except.ok.injEq] at ending
        rw [← ending.1]
        exact ⟨rfl, by simp⟩
      split at rest
      · rcases Jni.exec_bind_eq_ok rest with ⟨_, cleared, _, finished⟩
        exact unbound finished
      · exact unbound rest
    · exact absurd run (by simp)
  · rw [looked] at run
    simp only [Jni.exec_pure, Prod.mk.injEq, Except.ok.injEq] at run
    rw [← run.1]
    refine ⟨rfl, ?_⟩
    rintro _ ⟨⟩
    exact Jni.findMethod_eq_ok looked

theorem bindMethods_eq_ok {target : Object} {interface : Interface} {session after : Session}
    {targetRef classRef : GlobalRef} {bindings : List Binding}
    (run : (bindMethods target interface).exec host session =
      (.ok (targetRef, classRef, bindings), after)) :
    List.Forall₂ (Binds (host.classOf target)) interface.methods bindings := by
  rw [bindMethods] at run
  rcases Jni.exec_bind_eq_ok run with ⟨core, _, _, run⟩
  rcases Jni.exec_bind_eq_ok run with ⟨className, _, classed, run⟩
  rcases Jni.exec_bind_eq_ok run with ⟨looked, _, resolved, run⟩
  rcases Jni.exec_bind_eq_ok run with ⟨targetRef, _, _, run⟩
  rcases Jni.exec_bind_eq_ok run with ⟨classRef, _, _, ending⟩
  simp only [Jni.exec_pure, Prod.mk.injEq, Except.ok.injEq] at ending
  rcases ending with ⟨⟨rfl, rfl, rfl⟩, _⟩
  rw [← Jni.classOf_eq_ok classed]
  exact Jni.mapM_eq_ok resolve_eq_ok resolved

/-- What a proxy that was made consists of, and what was done last. -/
theorem bind_eq_ok {target : Option Object} {interface : Interface} {config : Config}
    {proxy : Proxy} {before after : Session}
    (built : (bind target interface config).exec host before = (.ok proxy, after)) :
    ∃ object entered ended, target = some object ∧ proxy.interface = interface ∧
      proxy.config = config ∧ proxy.slots = interface.methods.map (fun _ => none) ∧
      (bindMethods object interface).exec host entered =
        (.ok (proxy.target, proxy.targetClass, proxy.bindings), ended) ∧
      after = ((logBindings interface proxy.bindings).exec host (ended.record .popFrame)).2 := by
  rw [bind.eq_def] at built
  cases target with
  | none => exact absurd built (by simp)
  | some object =>
      dsimp only at built
      split at built
      · rcases Jni.exec_bind_eq_ok built with ⟨⟨_, _, _⟩, left, framed, logging⟩
        rcases Jni.withFrame_eq_ok framed with ⟨entered, ended, _, bound, rfl⟩
        rw [Jni.exec_bind_of_ok (Jni.exec_lift _ host _)] at logging
        simp only [Jni.exec_pure, Prod.mk.injEq, Except.ok.injEq] at logging
        rcases logging with ⟨rfl, rfl⟩
        exact ⟨object, entered, ended, rfl, rfl, rfl, rfl, bound, rfl⟩
      · exact absurd built (by simp)

end Proxy

/-! ## The core classes of a run -/

theorem Jni.coreClasses_cached {session after : Session} {core : CoreClasses}
    (run : Jni.coreClasses.exec host session = (.ok core, after)) :
    after.shared.core = some core := by
  rcases Jni.exec_cached_eq_ok run with ⟨known, rfl⟩ | ⟨between, _, rfl⟩
  · exact known
  · rfl

namespace Proxy

open Jni (Keeps)

variable {start : Session}

theorem resolve_advances (className interfaceName : String) (method : Method) :
    Keeps host start.Precedes (resolve className interfaceName method) := by
  have missing : Keeps host start.Precedes (do
      Native.log .error (interfaceName ++ ": Could not find method: " ++ method.name ++
        method.signature.text)
      return ({ selector := method.selector, method := none } : Binding)) := by
    apply Keeps.bind (Keeps.lift (Native.log_advances _ _))
    intro _
    exact Keeps.pure _
  rw [resolve]
  apply Keeps.bind (Keeps.attempt (Jni.findMethod_advances _))
  intro found
  cases found with
  | ok id => exact Keeps.pure _
  | error fault =>
      dsimp only
      split
      · apply Keeps.bind Session.Precedes.robust.steady.exceptionCheck
        intro pending
        split
        · exact Session.Precedes.robust.steady.exceptionClear.bind fun _ => missing
        · exact missing
      · exact Keeps.throw fault

theorem logBindings_keeps {property : Session → Prop}
    (logged : ∀ level text, Native.Keeps host property (Native.log level text))
    (interface : Interface) (bindings : List Binding) :
    Native.Keeps host property (logBindings interface bindings) := by
  rw [logBindings]
  refine Native.Keeps.bind (Native.Keeps.forIn ?_) fun _ => logged _ _
  intro method state
  exact (logged _ _).bind fun _ => Native.Keeps.pure _

theorem bindMethods_cached {target : Object} {interface : Interface} {session after : Session}
    {made : GlobalRef × GlobalRef × List Binding}
    (run : (bindMethods target interface).exec host session = (.ok made, after)) :
    ∃ core, after.shared.core = some core := by
  rw [bindMethods] at run
  rcases Jni.exec_bind_eq_ok run with ⟨core, between, found, binding⟩
  have cached := Jni.coreClasses_cached found
  have later : between.Precedes after := by
    have kept : Keeps host between.Precedes (do
        let className ← Jni.classOf target
        let bindings ← interface.methods.mapM (resolve className interface.name)
        let targetRef ← Jni.newGlobalRef target
        let classRef ← Jni.releasingOnFault [targetRef] (Jni.keepClass className)
        return (targetRef, classRef, bindings)) := by
      apply Keeps.bind (Session.Precedes.robust.steady.request _ _ rfl)
      intro className
      apply Keeps.bind (Keeps.mapM (resolve_advances className interface.name) _)
      intro bindings
      apply Keeps.bind (Session.Precedes.robust.steady.newGlobalRef target)
      intro targetRef
      apply Keeps.bind (Session.Precedes.robust.steady.releasingOnFault _
        (Session.Precedes.robust.steady.keepClass className))
      intro classRef
      exact Keeps.pure _
    exact kept.after (Session.Precedes.refl between) binding
  exact ⟨core, later.core core cached⟩

theorem bind_cached {target : Option Object} {interface : Interface} {config : Config}
    {proxy : Proxy} {before after : Session}
    (built : (bind target interface config).exec host before = (.ok proxy, after)) :
    ∃ core, after.shared.core = some core := by
  rcases bind_eq_ok built with ⟨object, entered, ended, _, _, _, _, bound, rfl⟩
  rcases bindMethods_cached bound with ⟨core, cached⟩
  have logged : (ended.record .popFrame).Precedes
      ((logBindings interface proxy.bindings).exec host (ended.record .popFrame)).2 :=
    logBindings_keeps Native.log_advances _ _ _ (Session.Precedes.refl _)
  exact ⟨core, logged.core core cached⟩

end Proxy

/-- Every run has the core classes from the time its proxy was made. -/
theorem Reachable.core_cached {proxy : Proxy} {session : Session}
    (reachable : Reachable host proxy session) : ∃ core, session.shared.core = some core := by
  induction reachable with
  | bound built => exact Proxy.bind_cached built
  | performed operation earlier ran ih =>
      rcases ih with ⟨core, cached⟩
      have advanced := operation.perform_advances.after (Session.Precedes.refl _) ran
      exact ⟨core, advanced.core core cached⟩
  | elsewhere earlier passed ih =>
      rcases ih with ⟨core, cached⟩
      exact ⟨core, passed.core core cached⟩

end NativeProxy
