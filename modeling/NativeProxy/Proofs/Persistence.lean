import NativeProxy.Proofs.Routine

/-!
# What no operation takes back

The history only grows, a class or a machine that was found is kept, and the core classes are
only ever those of the accessors: every operation leads from a session to one that it precedes.
For all but the caches this holds because the relation bears every event.
-/

namespace NativeProxy

namespace Session

/-- The core classes, if they are known, have the methods of the accessors. -/
def HasGenuineCore (session : Session) : Prop :=
  ∀ core, session.shared.core = some core → core.IsGenuine

/-- The events of `before` happened before those of `after`, which kept all that was found. -/
structure Precedes (before after : Session) : Prop where
  history : before.history <+: after.history
  core : ∀ core, before.shared.core = some core → after.shared.core = some core
  genuine : before.HasGenuineCore → after.HasGenuineCore
  color : ∀ color, before.shared.color = some color → after.shared.color = some color
  vm : ∀ vm, before.shared.vm = some vm → after.shared.vm = some vm

namespace Precedes

variable {before between after : Session}

theorem refl (session : Session) : session.Precedes session :=
  ⟨List.prefix_refl _, fun _ found => found, id, fun _ found => found, fun _ found => found⟩

theorem trans (first : before.Precedes between) (second : between.Precedes after) :
    before.Precedes after where
  history := first.history.trans second.history
  core core found := second.core core (first.core core found)
  genuine known := second.genuine (first.genuine known)
  color color found := second.color color (first.color color found)
  vm vm found := second.vm vm (first.vm vm found)

theorem record (earlier : before.Precedes after) (event : Event) :
    before.Precedes (after.record event) :=
  { earlier with history := earlier.history.trans (List.prefix_append _ _) }

theorem withPending (earlier : before.Precedes after) (pending : Option Throwable) :
    before.Precedes { after with pending := pending } :=
  ⟨earlier.history, earlier.core, earlier.genuine, earlier.color, earlier.vm⟩

/-- What stays once it is known, and is unknown afterwards, was unknown before. -/
theorem eq_none_of_stays {α : Type} {earlier later : Option α}
    (stays : ∀ known, earlier = some known → later = some known) (unknown : later = none) :
    earlier = none := by
  cases earlier with
  | none => rfl
  | some known => exact absurd (stays known rfl) (by simp [unknown])

theorem color_unknown (earlier : before.Precedes after) (unknown : after.shared.color = none) :
    before.shared.color = none :=
  eq_none_of_stays earlier.color unknown

end Precedes

end Session

variable {host : Host} {start : Session}

theorem Session.Precedes.robust : Session.Robust start.Precedes where
  recorded _ earlier := earlier.record _
  pended pending earlier := earlier.withPending pending
  logged _ earlier :=
    ⟨earlier.history, earlier.core, earlier.genuine, earlier.color, earlier.vm⟩

namespace Native

theorem log_advances (level : Level) (text : String) :
    Keeps host start.Precedes (log level text) :=
  Session.Precedes.robust.steady.log level text

theorem release_advances (ref : GlobalRef) : Keeps host start.Precedes (release ref) :=
  Session.Precedes.robust.steady.release ref

end Native

namespace Jni

/-! ## Caches -/

theorem findMethod_advances (method : MethodId) :
    Keeps host start.Precedes (findMethod method) :=
  Session.Precedes.robust.steady.findMethod fun _ earlier => earlier.record _

theorem resolveCoreClasses_advances : Keeps host start.Precedes resolveCoreClasses :=
  Session.Precedes.robust.steady.resolveCoreClasses fun _ _ earlier => earlier.record _

theorem resolveColorClass_advances : Keeps host start.Precedes resolveColorClass :=
  Session.Precedes.robust.steady.resolveColorClass fun _ _ _ earlier => earlier.record _

theorem findMethod_eq_ok {method found : MethodId} {session after : Session}
    (run : (findMethod method).exec host session = (.ok found, after)) : found = method :=
  exec_bind_pure_eq_ok run

theorem resolveCoreClasses_genuine {core : CoreClasses} {session after : Session}
    (run : resolveCoreClasses.exec host session = (.ok core, after)) : core.IsGenuine := by
  rw [resolveCoreClasses] at run
  rcases exec_bind_eq_ok run with ⟨_, _, _, run⟩
  rcases exec_bind_eq_ok run with ⟨getClass, _, classFound, run⟩
  rcases exec_bind_eq_ok run with ⟨_, _, _, run⟩
  rcases exec_bind_eq_ok run with ⟨getName, _, nameFound, run⟩
  rcases exec_bind_eq_ok run with ⟨_, _, _, run⟩
  rcases exec_bind_eq_ok run with ⟨getMessage, _, messageFound, run⟩
  rcases exec_bind_eq_ok run with ⟨getCause, _, causeFound, run⟩
  rcases exec_bind_eq_ok run with ⟨objectClass, _, _, run⟩
  rcases exec_bind_eq_ok run with ⟨classClass, _, _, run⟩
  rcases exec_bind_eq_ok run with ⟨throwableClass, _, _, run⟩
  simp only [exec_pure, Prod.mk.injEq, Except.ok.injEq] at run
  rcases run with ⟨rfl, _⟩
  intro accessor
  cases accessor with
  | getClass => exact findMethod_eq_ok classFound
  | getName => exact findMethod_eq_ok nameFound
  | getMessage => exact findMethod_eq_ok messageFound
  | getCause => exact findMethod_eq_ok causeFound

theorem coreClasses_advances : Keeps host start.Precedes coreClasses := by
  apply resolveCoreClasses_advances.cached
  intro session after found unknown earlier ran resolved
  have unknownBefore := Session.Precedes.eq_none_of_stays earlier.core unknown
  refine { resolved with core := by simp [unknownBefore], genuine := ?_ }
  rintro _ other ⟨⟩
  exact resolveCoreClasses_genuine ran

theorem colorClass_advances : Keeps host start.Precedes colorClass := by
  apply resolveColorClass_advances.cached
  intro session after found unknown earlier _ resolved
  exact { resolved with color := by simp [earlier.color_unknown unknown] }

end Jni

theorem Session.Precedes.sustained : host.Sustains start.Precedes where
  toRobust := Session.Precedes.robust
  core := Jni.coreClasses_advances
  color := Jni.colorClass_advances

/-! ## Calls -/

namespace Proxy

open Jni (Keeps)

theorem callOnce_advances (target : Object) (method : Method) (id : MethodId)
    (args : List Value) : Keeps host start.Precedes (callOnce target method id args) :=
  Session.Precedes.sustained.callOnce (fun _ earlier => earlier.record _) target method id args

theorem settle_advances {operation : Jni Value} (kept : Keeps host start.Precedes operation) :
    Keeps host start.Precedes (settle operation) :=
  Session.Precedes.sustained.endures.settle kept

theorem callMethod_advances (proxy : Proxy) (index : Nat) (args : List Value) :
    Keeps host start.Precedes (proxy.callMethod index args) :=
  Session.Precedes.sustained.callMethod (fun _ earlier => earlier.record _) proxy index args

end Proxy

end NativeProxy
