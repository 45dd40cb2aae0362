import NativeProxy.Proofs.IgnoringColors
import NativeProxy.Proofs.Slots
import NativeProxy.Vm.Script

/-!
# Interfaces without colours

A machine may lack the class of colours, or fail at it in any way. An interface that converts
nothing as a colour does not notice: making a proxy and using it runs alike on machines that differ
in that class only. Colours may still be passed through as objects. The one way in which the class
matters is as the class of the target itself, on which the methods of the interface are looked up.
-/

namespace NativeProxy

/-- Neither an argument nor the result is converted as a colour. -/
structure Method.IsColorless (method : Method) : Prop where
  params : Plan.color ∉ method.params
  result : method.result ≠ .color

def Interface.IsColorless (interface : Interface) : Prop :=
  ∀ method ∈ interface.methods, method.IsColorless

/-! ## Runs as one operation -/

namespace Operation

/-- Performs operations one after the other. -/
def performAll (proxy : Proxy) : List Operation → Native (List Answer × Proxy)
  | [] => return ([], proxy)
  | operation :: operations => do
    let (answer, next) ← operation.perform proxy
    let (answers, last) ← performAll next operations
    return (answer :: answers, last)

theorem perform_interface {host : Host} {proxy next : Proxy} {session after : Session}
    {operation : Operation} {answer : Answer}
    (ran : (operation.perform proxy).exec host session = ((answer, next), after)) :
    next.interface = proxy.interface := by
  rcases perform_cases ran with
    ⟨fault, _, _, rfl, _⟩ | ⟨index, outcome, between, _, _, _, rfl, _⟩
  · rfl
  · exact settled_interface

end Operation

/-- Makes a proxy and performs operations on it. -/
def Proxy.use (target : Option Object) (interface : Interface) (config : Config)
    (operations : List Operation) : Jni (List Answer × Proxy) := do
  let proxy ← bind target interface config
  Operation.performAll proxy operations

/-- If the target is a colour itself, the machines find the same methods of the interface on its
class. -/
def Host.BindsAlike (host other : Host) (target : Option Object) (interface : Interface) : Prop :=
  ∀ object, target = some object → host.classOf object = Descriptor.colorClass →
    ∀ method ∈ interface.methods, ∀ history,
      other.findMethod history (method.idOn Descriptor.colorClass) =
        host.findMethod history (method.idOn Descriptor.colorClass)

namespace Host.DiffersInColors

variable {host other : Host} (differs : host.DiffersInColors other)

include differs

/-! ## Calls -/

section Calls

open Jni (IgnoresColors)

theorem callOnce (target : Object) {method : Method} (colorless : method.IsColorless)
    (id : MethodId) (args : List Value) :
    IgnoresColors host other (Proxy.callOnce target method id args) := by
  rw [Proxy.callOnce]
  apply (differs.convertFrom method 0 colorless.params args).bind
  intro raws
  apply (IgnoresColors.attempt (differs.invoke rfl _ _ _ _)).bind
  intro reply
  apply differs.failOnException.bind
  intro _
  apply (IgnoresColors.resume reply).bind
  intro raw
  exact differs.convertResult colorless.result raw

theorem settle {call : Jni Value} (ignores : IgnoresColors host other call) :
    IgnoresColors host other (Proxy.settle call) := by
  rw [Proxy.settle]
  apply ignores.attempt.bind
  intro outcome
  cases outcome with
  | ok value => exact .pure value
  | error fault =>
      apply (differs.releasingOnFault _ differs.takeException).bind
      intro pending
      cases pending with
      | none => exact .throw fault
      | some exception =>
          exact (IgnoresColors.lift (differs.releaseAll _)).bind fun _ => .throw exception

theorem callMethod {proxy : Proxy} (colorless : proxy.interface.IsColorless) (index : Nat)
    (args : List Value) : IgnoresColors host other (proxy.callMethod index args) := by
  rw [Proxy.callMethod]
  split
  · exact .throw _
  · next method known =>
      split
      · exact .throw _
      · next id _ =>
          have listed : method ∈ proxy.interface.methods := List.mem_of_getElem? known
          apply (IgnoresColors.resume _).bind
          intro _
          exact differs.withFrame _ _ (differs.settle (differs.callOnce _ (colorless method listed)
            id args))

end Calls

/-! ## Operations -/

section Operations

open Native (IgnoresColors)

theorem wrapUp (operation : Operation) (proxy : Proxy) (outcome : Except Fault Value) :
    IgnoresColors host other (operation.wrapUp proxy outcome) := by
  rw [Operation.wrapUp.eq_def]
  split
  · split
    · exact differs.releaseAll _
    · next fault =>
        have dropped := differs.releaseAll fault.refs
        dsimp only
        split
        · exact (IgnoresColors.log _ _).bind fun _ => dropped
        · exact (IgnoresColors.log _ _).bind fun _ => dropped
  · exact .pure _

theorem tidy (operation : Operation) (proxy : Proxy) (index : Nat)
    (outcome : Except Fault Value) :
    IgnoresColors host other (operation.tidy proxy index outcome) := by
  rw [Operation.tidy]
  dsimp only
  split
  · exact (differs.releaseAll _).bind fun _ => differs.wrapUp operation proxy outcome
  · exact differs.wrapUp operation proxy outcome

theorem perform {proxy : Proxy} (colorless : proxy.interface.IsColorless)
    (operation : Operation) : IgnoresColors host other (operation.perform proxy) := by
  rw [Operation.perform_eq]
  cases operation.request proxy with
  | error fault => exact (differs.wrapUp operation proxy _).bind fun _ => .pure _
  | ok index =>
      have called : IgnoresColors host other (proxy.callMethod index operation.args).run :=
        differs.callMethod colorless index operation.args
      apply called.bind
      intro outcome
      exact (differs.tidy operation proxy index outcome).bind fun _ => .pure _

theorem performAll {proxy : Proxy} (colorless : proxy.interface.IsColorless)
    (operations : List Operation) :
    IgnoresColors host other (Operation.performAll proxy operations) := by
  induction operations generalizing proxy with
  | nil => exact .pure _
  | cons operation operations ih =>
      rw [Operation.performAll]
      apply (differs.perform colorless operation).bindResult
      intro result session after ran
      have same := Operation.perform_interface ran
      exact (ih (same ▸ colorless)).bind fun _ => .pure _

end Operations

/-! ## Making a proxy -/

section Bind

open Jni (IgnoresColors)

theorem resolve {className : String} {method : Method}
    (same : ∀ history, other.findMethod history (method.idOn className) =
      host.findMethod history (method.idOn className)) (interfaceName : String) :
    IgnoresColors host other (Proxy.resolve className interfaceName method) := by
  have missing : IgnoresColors host other (do
      Native.log .error (interfaceName ++ ": Could not find method: " ++ method.name ++
        method.signature.text)
      return ({ selector := method.selector, method := none } : Binding)) :=
    (IgnoresColors.lift (.log _ _)).bind fun _ => .pure _
  rw [Proxy.resolve]
  apply (IgnoresColors.attempt (differs.findMethod same)).bind
  intro found
  cases found with
  | ok id => exact .pure _
  | error fault =>
      dsimp only
      split
      · apply differs.exceptionCheck.bind
        intro pending
        split
        · exact differs.exceptionClear.bind fun _ => missing
        · exact missing
      · exact .throw fault

theorem bindMethods {target : Object} {interface : Interface}
    (alike : host.BindsAlike other (some target) interface) :
    IgnoresColors host other (Proxy.bindMethods target interface) := by
  rw [Proxy.bindMethods]
  apply differs.coreClasses.bind
  intro core
  apply (differs.request _ rfl fun _ => differs.classes target).bindResult
  intro className session after ran
  have named : className = host.classOf target := Jni.classOf_eq_ok ran
  -- The only look-ups that may name the class of colours are those on the class of the target.
  have same (method : Method) (listed : method ∈ interface.methods) (history : History) :
      other.findMethod history (method.idOn className) =
        host.findMethod history (method.idOn className) := by
    by_cases ofColor : className = Descriptor.colorClass
    · rw [ofColor]
      exact alike target rfl (named ▸ ofColor) method listed history
    · exact differs.methods history ofColor
  apply (IgnoresColors.mapM fun method listed =>
    differs.resolve (same method listed) interface.name).bind
  intro bindings
  apply (differs.newGlobalRef target).bind
  intro targetRef
  exact (differs.releasingOnFault _ (differs.keepClass className)).bind fun _ => .pure _

omit differs in
theorem logBindings (interface : Interface) (bindings : List Binding) :
    Native.IgnoresColors host other (Proxy.logBindings interface bindings) := by
  rw [Proxy.logBindings]
  refine Native.IgnoresColors.bind (.forIn ?_) fun _ => .log _ _
  intro method state
  exact (Native.IgnoresColors.log _ _).bind fun _ => .pure _

theorem bind {target : Option Object} {interface : Interface}
    (alike : host.BindsAlike other target interface) (config : Config) :
    IgnoresColors host other (Proxy.bind target interface config) := by
  rw [Proxy.bind.eq_def]
  cases target with
  | none => exact .throw _
  | some target =>
      have framed := differs.withFrame config.frameCapacity
        (fun (refs : GlobalRef × GlobalRef × List Binding) => [refs.1, refs.2.1])
        (differs.bindMethods alike)
      dsimp only
      split
      · apply framed.bind
        rintro ⟨targetRef, classRef, bindings⟩
        exact (IgnoresColors.lift (logBindings _ _)).bind fun _ => .pure _
      · apply (IgnoresColors.throw _).bind
        intro _
        apply framed.bind
        rintro ⟨targetRef, classRef, bindings⟩
        exact (IgnoresColors.lift (logBindings _ _)).bind fun _ => .pure _

end Bind

theorem use {target : Option Object} {interface : Interface}
    (alike : host.BindsAlike other target interface) (colorless : interface.IsColorless)
    (config : Config) (operations : List Operation) :
    Jni.IgnoresColors host other (Proxy.use target interface config operations) := by
  rw [Proxy.use]
  apply (differs.bind alike config).bindResult
  intro proxy session after built
  rcases Proxy.bind_eq_ok built with ⟨_, _, _, _, rfl, _⟩
  exact Jni.IgnoresColors.lift (differs.performAll colorless operations)

end Host.DiffersInColors

/-- On machines that differ in colours only, an interface without colours is bound alike and used
alike, and the class of colours is never looked up. The methods of the interface must be found alike
if the target is a colour. -/
theorem Proxy.use_without_colors {host other : Host} (differs : host.DiffersInColors other)
    {target : Option Object} {interface : Interface} (colorless : interface.IsColorless)
    (alike : host.BindsAlike other target interface) (config : Config)
    (operations : List Operation) (session : Session) :
    (use target interface config operations).exec other session =
        (use target interface config operations).exec host session ∧
      ∃ events, ((use target interface config operations).exec host session).2.history =
          session.history ++ events ∧
        ∀ event ∈ events, event.asksForColors = false := by
  rcases differs.use alike colorless config operations session with
    ⟨outcome, after, ran, ranOther, unasked⟩
  have used : (use target interface config operations).exec host session = (outcome, after) := ran
  rw [used]
  exact ⟨ranOther, unasked⟩

/-! ## A machine without colours -/

/-- The only method of the target returns its argument. -/
def Script.keeping : Script where
  methods := [{
    name := "keep"
    signature := "(Ljava/lang/Object;)Ljava/lang/Object;"
    outcomes := [.argument 0] }]

/-- Looking the class of colours up throws, and colours cannot be made. -/
def Script.headless : Script :=
  { Script.keeping with
    missingClasses := [(Descriptor.colorClass, .throws {
      identity := .given 0
      className := some (Units.ofText "java.lang.NoClassDefFoundError")
      message := none })]
    newColor := [.null] }

/-- The interface with the method of `Script.keeping`, which takes and returns any object. -/
def Interface.keeping : Interface where
  name := "Keeping"
  methods := [{
    selector := ⟨"keep", ⟨[.object "java/lang/Object"], .object "java/lang/Object"⟩⟩
    params := [.object]
    result := .object
    mode := .stored
    flagsFailure := false }]

theorem Interface.keeping_colorless : keeping.IsColorless := by
  intro method listed
  rw [List.mem_singleton.mp listed]
  exact ⟨by decide, by decide⟩

theorem Script.keeping_differsInColors : keeping.host.DiffersInColors headless.host where
  functions _ := rfl
  classes _ := rfl
  names history className foreign := by
    simp [host, keeping, headless, List.lookup_cons, beq_false_of_ne foreign]
  methods _ _ _ := rfl
  strings _ _ := rfl
  statuses _ _ := rfl
  answers _ _ _ _ := rfl

theorem Proxy.keep_without_colors :
    (use (some (.plain "target")) .keeping {} [.invoke 0 [.object ⟨0, .color .null⟩]]).exec
        Script.headless.host {} =
      (use (some (.plain "target")) .keeping {} [.invoke 0 [.object ⟨0, .color .null⟩]]).exec
        Script.keeping.host {} ∧
    ∃ events, ((use (some (.plain "target")) .keeping {}
        [.invoke 0 [.object ⟨0, .color .null⟩]]).exec Script.keeping.host {}).2.history =
          [] ++ events ∧
      ∀ event ∈ events, event.asksForColors = false := by
  have alike : Script.keeping.host.BindsAlike Script.headless.host (some (.plain "target"))
      .keeping := by
    rintro object ⟨⟩ ofColor
    exact absurd ofColor (by decide)
  exact use_without_colors Script.keeping_differsInColors Interface.keeping_colorless alike {} _ {}

/-! ## A target that is a colour -/

/-- The target is a colour, and looking the accessor of its components up has the given answer. -/
def Script.ofColor (lookup : Reply) : Script where
  className := Descriptor.colorClass
  methods := [{ name := "getRGBComponents", signature := "([F)[F", lookup := lookup }]

/-- The interface with the accessor as a method that takes and returns an object. -/
def Interface.measuring : Interface where
  name := "Measuring"
  methods := [{
    selector := ⟨"getRGBComponents",
      ⟨[.array (.primitive .float)], .array (.primitive .float)⟩⟩
    params := [.object]
    result := .object
    mode := .byValue
    flagsFailure := false }]

theorem Interface.measuring_colorless : measuring.IsColorless := by
  intro method listed
  rw [List.mem_singleton.mp listed]
  exact ⟨by decide, by decide⟩

theorem Script.ofColor_differsInColors :
    (ofColor .given).host.DiffersInColors (ofColor .null).host where
  functions _ := rfl
  classes _ := rfl
  names _ _ _ := rfl
  methods history method foreign := by
    simp [host, ofColor, findMethod, foreign]
  strings _ _ := rfl
  statuses _ _ := rfl
  answers history receiver method args := by
    simp only [host, invoke, method?, ofColor, List.find?_cons, List.find?_nil]
    cases ("getRGBComponents" == method.name && "([F)[F" == method.signature) <;> rfl

/-- A colour as a target is not bound alike where its class has other methods, although the
interface converts no colours. -/
theorem Proxy.use_depends_on_color_target :
    ¬ ∀ {host other : Host} {interface : Interface}, host.DiffersInColors other →
      interface.IsColorless → ∀ target config operations session,
        (use target interface config operations).exec other session =
          (use target interface config operations).exec host session := by
  intro same
  have bound := same Script.ofColor_differsInColors Interface.measuring_colorless
    (some (.plain "target")) {} [.invoke 0 [.null]] {}
  have bindings := congrArg (fun ran => ran.1.toOption.map fun used => used.2.bindings) bound
  exact absurd bindings (by decide)

end NativeProxy
