import NativeProxy.Proofs.CallFaults
import NativeProxy.Proofs.Runs
import NativeProxy.Vm.Script

/-!
# The parallel lists of a proxy

A proxy keeps its bindings and its stored results in lists beside the methods of its interface.
`Proxy.Sound` says that the three belong together, `Operation.Frames` says which part of a proxy an
operation may change. That no index is ever beyond the end of its list is said by running the
operations strictly: `Operation.performStrictly` picks from the lists without asking first and stops
where there is nothing to pick, and on a sound proxy it never stops.
-/

namespace NativeProxy

namespace Proxy

/-- There is a binding and a slot for every method, and a method whose results are handed back by
value has none stored. -/
structure Sound (proxy : Proxy) : Prop where
  bindings : proxy.bindings.length = proxy.interface.methods.length
  slots : proxy.slots.length = proxy.interface.methods.length
  byValue : ∀ index method, proxy.method? index = some method → method.mode = .byValue →
    proxy.slots[index]? = some none

/-! ## Slots -/

section Slots

variable {proxy : Proxy} {index : Nat} {slot : Option Value}

theorem cached_withSlot_none (proxy : Proxy) (index : Nat) :
    (proxy.withSlot index none).cached index = none := by
  rw [cached, withSlot, List.getElem?_set_self']
  cases proxy.slots[index]? <;> rfl

theorem withSlot_slots_of_ne {other : Nat} (distinct : index ≠ other) :
    (proxy.withSlot index slot).slots[other]? = proxy.slots[other]? :=
  List.getElem?_set_ne distinct

/-- There is no slot where there is no method. -/
theorem Sound.withSlot_of_unknown (sound : proxy.Sound) (unknown : proxy.method? index = none) :
    proxy.withSlot index slot = proxy := by
  have beyond : proxy.slots.length ≤ index := by
    rw [sound.slots]
    exact List.getElem?_eq_none_iff.mp unknown
  rw [withSlot, List.set_eq_of_length_le beyond]

theorem Sound.withSlot (sound : proxy.Sound)
    (fits : ∀ method, proxy.method? index = some method → method.mode = .byValue → slot = none) :
    (proxy.withSlot index slot).Sound where
  bindings := sound.bindings
  slots := List.length_set.trans sound.slots
  byValue other method known returned := by
    have empty := sound.byValue other method known returned
    by_cases same : index = other
    · subst same
      have within : index < proxy.slots.length := (List.getElem?_eq_some_iff.mp empty).1
      change (proxy.slots.set index slot)[index]? = some none
      rw [List.getElem?_set_self within, fits method known returned]
    · rw [withSlot_slots_of_ne same]
      exact empty

end Slots

theorem sound_of_bind {host : Host} {target : Option Object} {interface : Interface}
    {config : Config} {proxy : Proxy} {before after : Session}
    (built : (bind target interface config).exec host before = (.ok proxy, after)) :
    proxy.Sound := by
  rcases bind_eq_ok built with ⟨object, entered, ended, _, rfl, _, slots, bound, _⟩
  refine ⟨(bindMethods_eq_ok bound).length_eq.symm, ?_, ?_⟩
  · rw [slots, List.length_map]
  · intro index method known _
    have found : proxy.interface.methods[index]? = some method := known
    rw [slots, List.getElem?_map, found]
    rfl

/-- A proxy that was just made has nothing stored. -/
theorem cached_of_bind {host : Host} {target : Option Object} {interface : Interface}
    {config : Config} {proxy : Proxy} {before after : Session}
    (built : (bind target interface config).exec host before = (.ok proxy, after)) (index : Nat) :
    proxy.cached index = none := by
  rcases bind_eq_ok built with ⟨_, _, _, _, _, _, slots, _, _⟩
  rw [cached, slots, List.getElem?_map]
  cases interface.methods[index]? <;> rfl

end Proxy

namespace Operation

/-! ## What an operation changes -/

/-- What an operation with a given outcome leaves of a proxy. A failure empties the slot of its
method, a refusal because of the mode of the method touches nothing. -/
structure Frames (operation : Operation) (outcome : Except Fault Value) (before after : Proxy) :
    Prop where
  target : after.target = before.target
  targetClass : after.targetClass = before.targetClass
  interface : after.interface = before.interface
  bindings : after.bindings = before.bindings
  config : after.config = before.config
  others : ∀ index, operation.locate before ≠ .ok index →
    after.slots[index]? = before.slots[index]?
  failed : ∀ fault index, outcome = .error fault → fault.isCallMode = false →
    operation.locate before = .ok index → after.cached index = none
  refused : ∀ fault, outcome = .error fault → fault.isCallMode = true →
    after.slots = before.slots
  unknown : (∀ index, operation.locate before = .ok index → before.method? index = none) →
    after.slots = before.slots

section Settled

variable {proxy : Proxy} {operation : Operation} {index : Nat} {outcome : Except Fault Value}

theorem written_of_error (operation : Operation) (proxy : Proxy) (index : Nat) (fault : Fault) :
    operation.written proxy index (.error fault) = some none := by
  cases operation <;> rfl

theorem settled_of_error (operation : Operation) (proxy : Proxy) (index : Nat) (fault : Fault) :
    operation.settled proxy index (.error fault) = proxy.withSlot index none := by
  rw [settled, written_of_error]

/-- Only a method that stores its results gets one stored. -/
theorem written_fits (requested : operation.request proxy = .ok index) {value : Value}
    (stored : operation.written proxy index outcome = some (some value)) {method : Method}
    (known : proxy.method? index = some method) : method.isStored = true := by
  rcases request_eq_ok requested with ⟨allowed, located⟩
  have ofInvoke (written : (if outcome.isOk && !proxy.stores index then none
      else some outcome.toOption) = some (some value)) : method.isStored = true := by
    cases outcome with
    | error fault => exact absurd written (by simp [Except.toOption, Except.isOk, Except.toBool])
    | ok result =>
        have marked : proxy.stores index = method.isStored := by
          rw [Proxy.stores, known]
          rfl
        by_contra unmarked
        simp [marked, unmarked, Except.isOk, Except.toBool] at written
  cases operation with
  | invoke _ _ => exact ofInvoke stored
  | call _ _ _ => exact ofInvoke stored
  | invokeStored chosen _ =>
      simp only [locate, Except.ok.injEq] at located
      subst located
      simp only [allow, Proxy.expect, known, Proxy.expectStored] at allowed
      by_contra unmarked
      simp [unmarked] at allowed
  | invokeFlag _ _ => exact absurd stored (by simp only [written]; split <;> simp)

theorem settled_sound (sound : proxy.Sound) (requested : operation.request proxy = .ok index)
    (outcome : Except Fault Value) : (operation.settled proxy index outcome).Sound := by
  rw [settled.eq_def]
  split
  · exact sound
  · next slot written =>
      apply sound.withSlot
      intro method known returned
      cases slot with
      | none => rfl
      | some value =>
          have marked := written_fits requested written known
          rw [Method.isStored, returned] at marked
          exact absurd marked (by decide)

@[simp]
theorem settled_target : (operation.settled proxy index outcome).target = proxy.target := by
  rw [settled.eq_def]
  split <;> rfl

@[simp]
theorem settled_targetClass :
    (operation.settled proxy index outcome).targetClass = proxy.targetClass := by
  rw [settled.eq_def]
  split <;> rfl

@[simp]
theorem settled_interface :
    (operation.settled proxy index outcome).interface = proxy.interface := by
  rw [settled.eq_def]
  split <;> rfl

@[simp]
theorem settled_bindings : (operation.settled proxy index outcome).bindings = proxy.bindings := by
  rw [settled.eq_def]
  split <;> rfl

@[simp]
theorem settled_config : (operation.settled proxy index outcome).config = proxy.config := by
  rw [settled.eq_def]
  split <;> rfl

theorem settled_slots_of_ne {other : Nat} (distinct : index ≠ other) :
    (operation.settled proxy index outcome).slots[other]? = proxy.slots[other]? := by
  rw [settled.eq_def]
  split
  · rfl
  · exact Proxy.withSlot_slots_of_ne distinct

theorem settled_of_unknown (sound : proxy.Sound) (unknown : proxy.method? index = none) :
    operation.settled proxy index outcome = proxy := by
  rw [settled.eq_def]
  split
  · rfl
  · exact sound.withSlot_of_unknown unknown

/-- Settling a call touches no slot but that of the method that was called. -/
theorem settled_frames (sound : proxy.Sound) (requested : operation.request proxy = .ok index)
    (ofCall : ∀ fault, outcome = .error fault → fault.IsOfCall) :
    operation.Frames outcome proxy (operation.settled proxy index outcome) := by
  have located := (request_eq_ok requested).2
  refine ⟨settled_target, settled_targetClass, settled_interface, settled_bindings,
    settled_config, ?others, ?failed, ?refused, ?unknown⟩
  case others =>
    intro other elsewhere
    apply settled_slots_of_ne
    rintro rfl
    exact elsewhere located
  case failed =>
    rintro fault other rfl _ named
    rw [located, Except.ok.injEq] at named
    rw [← named, settled_of_error]
    exact Proxy.cached_withSlot_none proxy index
  case refused =>
    intro fault failed mode
    exact absurd (ofCall fault failed) (by simp [Fault.IsOfCall, mode])
  case unknown =>
    intro missing
    rw [settled_of_unknown sound (missing index located)]

/-- An operation that did not get as far as a call changes nothing. -/
theorem frames_of_request_error {fault : Fault} (refused : operation.request proxy = .error fault) :
    operation.Frames (.error fault) proxy proxy := by
  refine ⟨rfl, rfl, rfl, rfl, rfl, fun _ _ => rfl, ?failed, fun _ _ _ => rfl, fun _ => rfl⟩
  rintro _ index ⟨⟩ mode named
  rcases request_eq_error refused with forbidden | ⟨_, missing⟩
  · exact absurd (allow_fault forbidden) (by simp [mode])
  · exact absurd (named.symm.trans missing) (by simp)

end Settled

end Operation

/-! ## Indexing without asking -/

/-- The item at an index; without one there is no going on. -/
def pick {α : Type} (items : List α) (index : Nat) : OptionT Native α :=
  OptionT.mk (pure items[index]?)

theorem pick_eq_pure {α : Type} {items : List α} {index : Nat} {item : α}
    (found : items[index]? = some item) : pick items index = pure item := by
  rw [pick, found]
  rfl

namespace Proxy

/-- `store`, for a slot that must be there. -/
def storeStrictly (proxy : Proxy) (index : Nat) (slot : Option Value) :
    OptionT Native Proxy := do
  let _ ← pick proxy.slots index
  proxy.store index slot

/-- `callMethod`, for a binding that must be there once the method is known. -/
def callMethodStrictly (proxy : Proxy) (index : Nat) (args : List Value) :
    OptionT Native (Except Fault Value) := do
  match proxy.method? index with
  | none => return .error (.unknownMethod proxy.interface.name ("#" ++ toString index))
  | some method =>
    let binding ← pick proxy.bindings index
    match binding.method with
    | none => return .error (.unresolvedMethod proxy.interface.name method.text)
    | some id =>
      ExceptT.run (m := Native) do
        Jni.resume (method.checkArguments args proxy.config.policy)
        Jni.withFrame proxy.config.frameCapacity Value.refs
          (settle (callOnce proxy.target.object method id args))

/-- `dispatch`, which asks whether there is a slot before it empties it. -/
def dispatchStrictly (proxy : Proxy) (index : Nat) (args : List Value) :
    OptionT Native (Except Fault Value × Proxy) := do
  let outcome ← proxy.callMethodStrictly index args
  match outcome with
  | .ok _ => return (outcome, proxy)
  | .error _ => return (outcome, ← proxy.store index none)

/-- `invoke`, for a method that must be there once its call succeeded. -/
def invokeStrictly (proxy : Proxy) (index : Nat) (args : List Value) :
    OptionT Native (Except Fault Value × Proxy) := do
  let (outcome, proxy) ← proxy.dispatchStrictly index args
  match outcome with
  | .error _ => return (outcome, proxy)
  | .ok value =>
    let method ← pick proxy.interface.methods index
    if method.isStored then return (outcome, ← proxy.storeStrictly index (some value))
    else return (outcome, proxy)

/-- `invokeStored`, for a slot that must be there once the call succeeded. -/
def invokeStoredStrictly (proxy : Proxy) (index : Nat) (args : List Value) :
    OptionT Native (Except Fault Value × Proxy) := do
  match proxy.expect index expectStored with
  | .error fault => return (.error fault, proxy)
  | .ok () =>
    let (outcome, proxy) ← proxy.dispatchStrictly index args
    match outcome with
    | .error _ => return (outcome, proxy)
    | .ok value => return (outcome, ← proxy.storeStrictly index (some value))

/-- `invokeFlag` over `dispatchStrictly`. -/
def invokeFlagStrictly (proxy : Proxy) (index : Nat) (args : List Value) :
    OptionT Native (Bool × Proxy) := do
  let (outcome, proxy) ← match proxy.expect index expectFlag with
    | .error fault => pure (.error fault, proxy)
    | .ok () => proxy.dispatchStrictly index args
  match outcome with
  | .ok value =>
    Native.releaseAll value.refs
    return (true, proxy)
  | .error fault =>
    if fault.isCallMode then
      Native.log .error (proxy.interface.name ++ ": " ++ fault.message)
    else
      Native.log .debug (proxy.interface.name ++ ": call #" ++ toString index ++ " failed: " ++
        fault.message)
    Native.releaseAll fault.refs
    return (false, proxy)

section Strict

variable {proxy : Proxy}

theorem storeStrictly_eq (sound : proxy.Sound) {index : Nat} {method : Method}
    (known : proxy.method? index = some method) (slot : Option Value) :
    proxy.storeStrictly index slot = liftM (proxy.store index slot) := by
  have within : index < proxy.slots.length := by
    rw [sound.slots]
    exact (List.getElem?_eq_some_iff.mp known).1
  rw [storeStrictly, pick_eq_pure (List.getElem?_eq_getElem within), pure_bind]

theorem callMethodStrictly_eq (sound : proxy.Sound) (index : Nat) (args : List Value) :
    proxy.callMethodStrictly index args = liftM (proxy.callMethod index args).run := by
  rw [callMethodStrictly, callMethod]
  cases known : proxy.method? index with
  | none => rfl
  | some method =>
      have within : index < proxy.bindings.length := by
        rw [sound.bindings]
        exact (List.getElem?_eq_some_iff.mp known).1
      have bound : proxy.bindings[index]? = some proxy.bindings[index] :=
        List.getElem?_eq_getElem within
      dsimp only
      rw [pick_eq_pure bound, pure_bind, binding?, bound, Option.bind_some]
      cases proxy.bindings[index].method with
      | none => rfl
      | some id => rfl

theorem dispatchStrictly_eq (sound : proxy.Sound) (index : Nat) (args : List Value) :
    proxy.dispatchStrictly index args = liftM (proxy.dispatch index args) := by
  rw [dispatchStrictly, dispatch, callMethodStrictly_eq sound, liftM_bind]
  congr 1
  funext outcome
  cases outcome with
  | ok value => exact (liftM_pure _).symm
  | error fault =>
      simp only [liftM_bind, liftM_pure]

/-- A call that does not find its method fails, so what it goes on with is a failure. -/
theorem dispatch_of_unknown {index : Nat} (unknown : proxy.method? index = none)
    (args : List Value) : proxy.dispatch index args = (do
      let next ← proxy.store index none
      return (.error (.unknownMethod proxy.interface.name ("#" ++ toString index)), next)) := by
  rw [dispatch, callMethod, unknown]
  rfl

theorem invokeStrictly_eq (sound : proxy.Sound) (index : Nat) (args : List Value) :
    proxy.invokeStrictly index args = liftM (proxy.invoke index args) := by
  rw [invokeStrictly, invoke, dispatchStrictly_eq sound]
  cases known : proxy.method? index with
  | none => simp only [dispatch_of_unknown known, liftM_bind, liftM_pure, bind_assoc, pure_bind]
  | some method =>
      have picked : pick proxy.interface.methods index = pure method := pick_eq_pure known
      have marked : proxy.stores index = method.isStored := by
        rw [stores, known]
        rfl
      simp only [dispatch, liftM_bind, bind_assoc]
      congr 1
      funext outcome
      cases outcome with
      | error fault => simp only [liftM_bind, liftM_pure, bind_assoc, pure_bind]
      | ok value =>
          simp only [liftM_pure, pure_bind, picked, marked]
          split
          · simp only [storeStrictly_eq sound known, liftM_bind, liftM_pure]
          · simp only [liftM_pure]

theorem invokeStoredStrictly_eq (sound : proxy.Sound) (index : Nat) (args : List Value) :
    proxy.invokeStoredStrictly index args = liftM (proxy.invokeStored index args) := by
  rw [invokeStoredStrictly, invokeStored]
  cases proxy.expect index expectStored with
  | error fault => exact (liftM_pure _).symm
  | ok _ =>
      dsimp only
      rw [dispatchStrictly_eq sound]
      cases known : proxy.method? index with
      | none =>
          simp only [dispatch_of_unknown known, liftM_bind, liftM_pure, bind_assoc, pure_bind]
      | some method =>
          simp only [dispatch, liftM_bind, bind_assoc]
          congr 1
          funext outcome
          cases outcome with
          | error fault => simp only [liftM_bind, liftM_pure, bind_assoc, pure_bind]
          | ok value =>
              simp only [liftM_pure, pure_bind, storeStrictly_eq sound known, liftM_bind]

theorem invokeFlagStrictly_eq (sound : proxy.Sound) (index : Nat) (args : List Value) :
    proxy.invokeFlagStrictly index args = liftM (proxy.invokeFlag index args) := by
  rw [invokeFlagStrictly, invokeFlag]
  cases proxy.expect index expectFlag with
  | error fault =>
      simp only [pure_bind]
      split
      · simp only [liftM_bind, liftM_pure]
      · simp only [liftM_bind, liftM_pure]
  | ok _ =>
      dsimp only
      rw [dispatchStrictly_eq sound, liftM_bind]
      congr 1
      funext dispatched
      rcases dispatched with ⟨fault | value, next⟩
      · dsimp only
        split
        · simp only [liftM_bind, liftM_pure]
        · simp only [liftM_bind, liftM_pure]
      · simp only [liftM_bind, liftM_pure]

end Strict

end Proxy

namespace Operation

/-- `perform`, with lists that must be long enough wherever it picks from them. -/
def performStrictly (proxy : Proxy) : Operation → OptionT Native (Answer × Proxy)
  | .invoke index args => do
    let (result, next) ← proxy.invokeStrictly index args
    return (.outcome result, next)
  | .call name signature args => do
    let (result, next) ← match proxy.indexOf name signature with
      | .error fault => pure (.error fault, proxy)
      | .ok index => proxy.invokeStrictly index args
    return (.outcome result, next)
  | .invokeStored index args => do
    let (result, next) ← proxy.invokeStoredStrictly index args
    return (.outcome result, next)
  | .invokeFlag index args => do
    let (success, next) ← proxy.invokeFlagStrictly index args
    return (.flag success, next)

/-- On a sound proxy no operation picks beyond the end of a list. -/
theorem performStrictly_eq {proxy : Proxy} (sound : proxy.Sound) (operation : Operation) :
    operation.performStrictly proxy = liftM (operation.perform proxy) := by
  cases operation with
  | invoke index args =>
      rw [performStrictly, perform, Proxy.invokeStrictly_eq sound]
      simp only [liftM_bind, liftM_pure]
  | call name signature args =>
      rw [performStrictly, perform, Proxy.call]
      cases proxy.indexOf name signature with
      | error fault => simp only [liftM_pure, pure_bind]
      | ok index => simp only [Proxy.invokeStrictly_eq sound, liftM_bind, liftM_pure]
  | invokeStored index args =>
      rw [performStrictly, perform, Proxy.invokeStoredStrictly_eq sound]
      simp only [liftM_bind, liftM_pure]
  | invokeFlag index args =>
      rw [performStrictly, perform, Proxy.invokeFlagStrictly_eq sound]
      simp only [liftM_bind, liftM_pure]

end Operation

/-! ## Reachable proxies -/

variable {host : Host}

/-- The lists of a proxy belong together in every run. -/
theorem Reachable.sound {proxy : Proxy} {session : Session}
    (reachable : Reachable host proxy session) : proxy.Sound := by
  induction reachable with
  | bound built => exact Proxy.sound_of_bind built
  | performed operation earlier ran ih =>
      rcases operation.perform_cases ran with ⟨_, _, _, rfl, _⟩ | ⟨_, _, _, requested, _, _, rfl, _⟩
      · exact ih
      · exact Operation.settled_sound ih requested _
  | elsewhere earlier passed ih => exact ih

/-- The bindings of a proxy are those that its class was asked for when it was made. -/
theorem Reachable.binds {proxy : Proxy} {session : Session}
    (reachable : Reachable host proxy session) :
    ∃ className, List.Forall₂ (Proxy.Binds className) proxy.interface.methods proxy.bindings := by
  induction reachable with
  | bound built =>
      rcases Proxy.bind_eq_ok built with ⟨object, _, _, _, rfl, _, _, bound, _⟩
      exact ⟨_, Proxy.bindMethods_eq_ok bound⟩
  | performed operation earlier ran ih =>
      rcases operation.perform_cases ran with ⟨_, _, _, rfl, _⟩ | ⟨_, _, _, _, _, _, rfl, _⟩
      · exact ih
      · rwa [Operation.settled_interface, Operation.settled_bindings]
  | elsewhere earlier passed ih => exact ih

/-- A method is bound to one with its name and its signature. -/
theorem Reachable.bound_to_overload {proxy : Proxy} {session : Session}
    (reachable : Reachable host proxy session) {index : Nat} {method : Method} {id : MethodId}
    (known : proxy.method? index = some method)
    (bound : (proxy.binding? index).bind Binding.method = some id) :
    id.name = method.name ∧ id.signature = method.signature.text := by
  rcases reachable.binds with ⟨className, binds⟩
  rcases Option.bind_eq_some_iff.mp bound with ⟨binding, present, resolved⟩
  rcases List.getElem?_eq_some_iff.mp known with ⟨inMethods, rfl⟩
  rcases List.getElem?_eq_some_iff.mp present with ⟨inBindings, rfl⟩
  cases (binds.get inMethods inBindings).method id resolved
  exact ⟨rfl, rfl⟩

/-- What a run changes of its proxy are the slots. -/
theorem Run.only_slots {built proxy : Proxy} {calls : List Call} {session : Session}
    (run : Run host built calls proxy session) : proxy = { built with slots := proxy.slots } := by
  induction run with
  | bound made => rfl
  | performed operation earlier ran ih =>
      rcases operation.perform_cases ran with ⟨_, _, _, rfl, _⟩ | ⟨_, _, _, _, _, _, rfl, _⟩
      · exact ih
      · rw [ih]
        rw [Operation.settled.eq_def]
        split <;> rfl
  | elsewhere earlier passed ih => exact ih

/-- The proxy an operation leaves differs in what the operation is allowed to change only. -/
theorem Operation.perform_frames {proxy next : Proxy} {session after : Session}
    {operation : Operation} {answer : Answer} (sound : proxy.Sound)
    (ran : (operation.perform proxy).exec host session = ((answer, next), after)) :
    answer = operation.report (operation.outcome host proxy session) ∧
      operation.Frames (operation.outcome host proxy session) proxy next := by
  rcases perform_cases ran with
    ⟨fault, refused, told, rfl, _⟩ | ⟨index, outcome, between, requested, called, told, rfl, _⟩
  · rw [Operation.outcome, refused]
    exact ⟨told, frames_of_request_error refused⟩
  · rw [outcome_of_called requested called]
    refine ⟨told, settled_frames sound requested ?_⟩
    rintro fault rfl
    exact (Proxy.callMethod_ofCall proxy index operation.args).fault_allowed called

/-- The parallel lists of a proxy belong together as long as it is used, no operation picks beyond
their ends, and none changes more of the proxy than the slot of its own method. -/
theorem Reachable.lists_hold_together {proxy : Proxy} {session : Session}
    (reachable : Reachable host proxy session) :
    proxy.Sound ∧ ∀ operation : Operation,
      operation.performStrictly proxy = liftM (operation.perform proxy) ∧
      ∀ {answer next after},
        (operation.perform proxy).exec host session = ((answer, next), after) →
          answer = operation.report (operation.outcome host proxy session) ∧
          operation.Frames (operation.outcome host proxy session) proxy next := by
  refine ⟨reachable.sound, ?_⟩
  intro operation
  exact ⟨operation.performStrictly_eq reachable.sound, operation.perform_frames reachable.sound⟩

/-! ## A counter -/

/-- The only method of the target answers 1, then 2. -/
def Script.counting : Script where
  methods := [{
    name := "next"
    signature := "()I"
    outcomes := [.returns (.int 1), .returns (.int 2)] }]

/-- The interface with the method that `Script.counting` answers, which stores its results and flags
its failures. -/
def Interface.counting : Interface where
  name := "Counting"
  methods := [(Method.ofSelector ⟨"next", ⟨[], .primitive .int⟩⟩).storing.flagging]

/-- The proxy that binding a target to `Interface.counting` makes. -/
def Proxy.counting : Proxy where
  target := ⟨25, .plain "target"⟩
  targetClass := ⟨27, .loadedClass "Target"⟩
  interface := .counting
  bindings := [⟨⟨"next", ⟨[], .primitive .int⟩⟩, some ⟨"Target", "next", "()I"⟩⟩]
  slots := [none]
  config := {}

/-- The session that making `Proxy.counting` leaves. -/
def Session.counting : Session :=
  ((Proxy.bind (some (.plain "target")) .counting {}).exec Script.counting.host {}).2

theorem Proxy.bind_counting :
    (bind (some (.plain "target")) .counting {}).exec Script.counting.host {} =
      (.ok .counting, .counting) := rfl

theorem Reachable.counting_holds_together :
    (Proxy.bind (some (.plain "target")) .counting {}).exec Script.counting.host {} =
        (.ok .counting, .counting) ∧
      Proxy.counting.Sound ∧
      (Operation.invoke 0 []).performStrictly .counting =
        liftM ((Operation.invoke 0 []).perform .counting) ∧
      (Operation.invoke 0 []).Frames (.ok (.int 1)) .counting
        (Proxy.counting.withSlot 0 (some (.int 1))) := by
  have held := Reachable.lists_hold_together (.bound Proxy.bind_counting)
  exact ⟨Proxy.bind_counting, held.1, (held.2 _).1, ((held.2 (.invoke 0 [])).2 rfl).2⟩

end NativeProxy
