import NativeProxy.Proofs.Pending
import NativeProxy.Proofs.Slots

/-!
# What a call asks of the machine

An operation is checked first. One that is refused leaves the machine alone, but for the references
of a stored result that it drops; one that is accepted asks for a frame and, inside it, makes one
call. The work around the call leaves no event of either kind behind, so both can be counted:
`Session.Tallies` fixes the events of a kind that happened so far, and the laws of routine work
carry it from one step to the next.
-/

namespace NativeProxy

/-! ## Counting events -/

/-- The events so far that are counted. The core classes are known, so describing an exception looks
nothing up. -/
structure Session.Tallies (counted : Event → Bool) (tally : List Event) (session : Session) :
    Prop where
  core : ∃ core, session.shared.core = some core
  events : session.history.filter counted = tally

namespace Session.Tallies

variable {host : Host} {counted : Event → Bool} {tally : List Event} {session : Session}
  {event : Event}

theorem record (tallies : session.Tallies counted tally) (marked : counted event = true) :
    (session.record event).Tallies counted (tally ++ [event]) where
  core := tallies.core
  events := by
    rw [Session.record, List.filter_append, tallies.events]
    simp [marked]

theorem record_uncounted (tallies : session.Tallies counted tally)
    (unmarked : counted event = false) : (session.record event).Tallies counted tally where
  core := tallies.core
  events := by
    rw [Session.record, List.filter_append, tallies.events]
    simp [unmarked]

/-- Routine work counts for nothing, provided that looking the class of colours up does. -/
theorem sustained (routine : ∀ event, event.isRoutine = true → counted event = false)
    (colors : ∀ method ∈ ColorClass.methods, counted (.getMethodId method) = false) :
    host.Sustains (Session.Tallies counted tally) := by
  have robust : Session.Robust (Session.Tallies counted tally) := {
    recorded := fun plain tallies => tallies.record_uncounted (routine _ plain)
    pended := fun _ tallies => ⟨tallies.core, tallies.events⟩
    logged := fun _ tallies => ⟨tallies.core, tallies.events⟩ }
  refine ⟨robust, ?core, ?color⟩
  case core =>
    intro session tallies
    rcases tallies.core with ⟨core, cached⟩
    rw [Jni.exec_coreClasses_of_cached cached]
    exact tallies
  case color =>
    apply robust.steady.colorClass
    case recorded =>
      intro method listed session tallies
      exact tallies.record_uncounted (colors method listed)
    case kept => exact fun _ _ tallies => ⟨tallies.core, tallies.events⟩

end Session.Tallies

/-! ## Accepting -/

namespace Proxy

/-- The method that a call is of and the one it was bound to, or the first objection: there is no
such method, the class lacks it, or the arguments do not fit. -/
def accept (proxy : Proxy) (index : Nat) (args : List Value) :
    Except Fault (Method × MethodId) :=
  match proxy.method? index with
  | none => .error (.unknownMethod proxy.interface.name ("#" ++ toString index))
  | some method =>
    match (proxy.binding? index).bind Binding.method with
    | none => .error (.unresolvedMethod proxy.interface.name method.text)
    | some id => (method.checkArguments args proxy.config.policy).map fun _ => (method, id)

/-- The call that is made inside a frame if all arguments can be converted. A function that the
machine lacks leaves no event behind. -/
def callEvents (host : Host) (session : Session) (target : Object) (method : Method)
    (id : MethodId) (args : List Value) : List Event :=
  let kind := method.signature.result.callKind
  match ((Jni.convertArguments method args).exec host session).1 with
  | .error _ => []
  | .ok raws => if host.provides (.call kind) then [.call target id kind raws] else []

/-- The frame that a call asks for, and the call that is made if it is given. -/
def milestones (host : Host) (session : Session) (proxy : Proxy) (method : Method)
    (id : MethodId) (args : List Value) : List Event :=
  let frame := Event.pushFrame proxy.config.frameCapacity
  match (Jni.requestStatus .pushLocalFrame .pushLocalFrame frame).exec host session with
  | (.error _, _) => []
  | (.ok code, entered) =>
    frame :: if code = 0 then callEvents host entered proxy.target.object method id args else []

variable {host : Host} {proxy : Proxy} {session : Session} {index : Nat} {args : List Value}

theorem accept_fault {fault : Fault} (refused : proxy.accept index args = .error fault) :
    fault.IsObjection := by
  rw [accept] at refused
  split at refused
  · exact Except.error.inj refused ▸ ⟨rfl, rfl, rfl⟩
  · next method _ =>
      split at refused
      · exact Except.error.inj refused ▸ ⟨rfl, rfl, rfl⟩
      · cases checked : method.checkArguments args proxy.config.policy with
        | error objection =>
            rw [checked] at refused
            exact Except.error.inj refused ▸ Method.checkArguments_fault checked
        | ok _ =>
            rw [checked] at refused
            exact absurd refused (by simp [Except.map])

theorem accept_eq_ok_iff {method : Method} {id : MethodId} :
    proxy.accept index args = .ok (method, id) ↔
      proxy.method? index = some method ∧
        (proxy.binding? index).bind Binding.method = some id ∧
        method.checkArguments args proxy.config.policy = .ok () := by
  refine ⟨?_, ?_⟩
  · intro accepted
    rw [accept] at accepted
    split at accepted
    · cases accepted
    · next found known =>
        split at accepted
        · cases accepted
        · next target bound =>
            cases checked : found.checkArguments args proxy.config.policy with
            | error fault =>
                rw [checked] at accepted
                cases accepted
            | ok _ =>
                rw [checked] at accepted
                cases accepted
                exact ⟨known, bound, checked⟩
  · rintro ⟨known, bound, checked⟩
    rw [accept, known]
    dsimp only
    rw [bound]
    dsimp only
    rw [checked]
    rfl

theorem accept_eq_ok {method : Method} {id : MethodId}
    (accepted : proxy.accept index args = .ok (method, id)) :
    proxy.method? index = some method ∧ (proxy.binding? index).bind Binding.method = some id := by
  rcases accept_eq_ok_iff.mp accepted with ⟨known, bound, _⟩
  exact ⟨known, bound⟩

theorem accept_of_unresolved {method : Method} (known : proxy.method? index = some method)
    (unbound : (proxy.binding? index).bind Binding.method = none) :
    proxy.accept index args =
      .error (.unresolvedMethod proxy.interface.name method.text) := by
  rw [accept, known]
  dsimp only
  rw [unbound]

theorem isResolved_iff :
    proxy.isResolved index = true ↔
      ∃ id, (proxy.binding? index).bind Binding.method = some id := by
  rw [isResolved]
  cases proxy.binding? index with
  | none => simp
  | some binding => simp [Binding.isResolved, Option.isSome_iff_exists]

/-- The call among the milestones is made on the target, by the bound method and with the converted
arguments. -/
theorem mem_milestones {method : Method} {id called : MethodId} {receiver : Object}
    {kind : CallKind} {raws : List RawValue}
    (made : .call receiver called kind raws ∈ proxy.milestones host session method id args) :
    receiver = proxy.target.object ∧ called = id ∧ ∃ entered converted,
      (Jni.convertArguments method args).exec host entered = (.ok raws, converted) := by
  have ofCall {entered : Session} (inside : .call receiver called kind raws ∈
      callEvents host entered proxy.target.object method id args) :
      receiver = proxy.target.object ∧ called = id ∧ ∃ entered converted,
        (Jni.convertArguments method args).exec host entered = (.ok raws, converted) := by
    rw [callEvents] at inside
    rcases ran : (Jni.convertArguments method args).exec host entered with ⟨outcome, converted⟩
    rw [ran] at inside
    split at inside
    · cases inside
    · next isOk =>
        split at inside
        · cases List.mem_singleton.mp inside
          cases isOk
          exact ⟨rfl, rfl, entered, converted, ran⟩
        · cases inside
  rw [milestones] at made
  split at made
  · cases made
  · rcases List.mem_cons.mp made with frame | inside
    · cases frame
    · split at inside
      · exact ofCall inside
      · cases inside

/-- A call is refused, or it runs in its frame. -/
theorem callMethod_eq (proxy : Proxy) (index : Nat) (args : List Value) :
    proxy.callMethod index args =
      match proxy.accept index args with
      | .error fault => throw fault
      | .ok (method, id) =>
        Jni.withFrame proxy.config.frameCapacity Value.refs
          (settle (callOnce proxy.target.object method id args)) := by
  rw [callMethod, accept]
  cases proxy.method? index with
  | none => rfl
  | some method =>
      dsimp only
      cases (proxy.binding? index).bind Binding.method with
      | none => rfl
      | some id =>
          dsimp only
          cases method.checkArguments args proxy.config.policy with
          | error fault => rfl
          | ok _ => rfl

end Proxy

/-! ## Milestones -/

/-- The frames that were asked for and the calls of bound methods so far. -/
abbrev Session.Milestones : List Event → Session → Prop :=
  Session.Tallies Event.isMilestone

section Milestones

variable {host : Host} {tally : List Event} {session : Session}

theorem Session.Milestones.sustained (host : Host) (tally : List Event) :
    host.Sustains (Session.Milestones tally) := by
  refine Session.Tallies.sustained ?_ fun _ _ => rfl
  intro event routine
  rw [Event.isRoutine, Bool.and_eq_true, Bool.not_eq_true'] at routine
  exact routine.1

namespace Jni

/-- A call that the machine has a function for is counted once, whatever comes of it. -/
theorem call_milestones (marked : session.Milestones tally) (receiver : Object)
    (method : MethodId) (kind : CallKind) (args : List RawValue) :
    ((call receiver method kind args).exec host session).2.Milestones
      (tally ++ if host.provides (.call kind) then [.call receiver method kind args] else []) := by
  rw [call, invoke, exec_bind, exec_request]
  by_cases provided : host.provides (.call kind) = true
  · rw [if_pos provided, if_pos provided]
    have sustains := Session.Milestones.sustained host
      (tally ++ [.call receiver method kind args])
    exact sustains.steady.answered kind _ _ (Session.Tallies.record marked rfl)
  · rw [if_neg provided, if_neg provided, List.append_nil]
    exact marked

theorem pushFrame_milestones (host : Host) (marked : session.Milestones tally)
    (capacity : Int) :
    match (requestStatus .pushLocalFrame .pushLocalFrame (.pushFrame capacity)).exec host
      session with
    | (.error _, left) => left.Milestones tally
    | (.ok _, entered) => entered.Milestones (tally ++ [.pushFrame capacity]) := by
  rw [exec_requestStatus]
  by_cases provided : host.provides .pushLocalFrame = true
  · rw [if_pos provided]
    exact (Session.Milestones.sustained host _).pended _ (Session.Tallies.record marked rfl)
  · rw [if_neg provided]
    exact marked

end Jni

namespace Proxy

theorem callOnce_milestones (host : Host) (marked : session.Milestones tally) (target : Object)
    (method : Method) (id : MethodId) (args : List Value) :
    ((callOnce target method id args).exec host session).2.Milestones
      (tally ++ callEvents host session target method id args) := by
  have sustains := Session.Milestones.sustained host tally
  rw [callOnce, Jni.exec_bind, callEvents]
  rcases converted : (Jni.convertArguments method args).exec host session with
    ⟨fault | raws, between⟩
  · rw [List.append_nil]
    exact (sustains.endures.convertFrom method 0 method.params args).after marked converted
  · have still := (sustains.endures.convertFrom method 0 method.params args).after marked converted
    dsimp only
    rw [Jni.exec_bind_of_ok (Jni.exec_attempt _ host between)]
    exact (Session.Milestones.sustained host _).concluded method _ _
      (Jni.call_milestones still target id _ raws)

theorem settle_milestones {operation : Jni Value}
    (marked : (operation.exec host session).2.Milestones tally) :
    ((settle operation).exec host session).2.Milestones tally := by
  rw [settle, Jni.exec_bind_of_ok (Jni.exec_attempt operation host session)]
  exact (Session.Milestones.sustained host tally).endures.settled _ _ marked

theorem callMethod_milestones {proxy : Proxy} {index : Nat} {args : List Value} {method : Method}
    {id : MethodId} (host : Host) (marked : session.Milestones tally)
    (accepted : proxy.accept index args = .ok (method, id)) :
    ((proxy.callMethod index args).exec host session).2.Milestones
      (tally ++ proxy.milestones host session method id args) := by
  have pushed := Jni.pushFrame_milestones host marked proxy.config.frameCapacity
  rw [callMethod_eq, accepted, milestones]
  dsimp only
  rcases requested : (Jni.requestStatus .pushLocalFrame .pushLocalFrame
    (.pushFrame proxy.config.frameCapacity)).exec host session with ⟨fault | code, entered⟩
  · rw [requested] at pushed
    rw [List.append_nil, Jni.exec_withFrame, requested]
    exact pushed
  · rw [requested] at pushed
    dsimp only at pushed ⊢
    by_cases made : code = 0
    · subst made
      rw [if_pos rfl, List.append_cons]
      have sustains := Session.Milestones.sustained host (tally ++
        [.pushFrame proxy.config.frameCapacity] ++
          callEvents host entered proxy.target.object method id args)
      exact Jni.withFrame_after sustains.steady.release (fun _ => sustains.recorded rfl) requested
        (settle_milestones (callOnce_milestones host pushed proxy.target.object method id args))
    · rw [if_neg made, Jni.exec_withFrame, requested]
      dsimp only
      rw [if_neg made]
      exact pushed

end Proxy

end Milestones

/-! ## Refusals -/

namespace Operation

/-- The method that an accepted operation calls, or the first objection: the mode of the method
does not allow the operation, there is no such method, the class lacks it, or the arguments do not
fit. -/
def accept (proxy : Proxy) (operation : Operation) : Except Fault (Method × MethodId) := do
  let index ← operation.request proxy
  proxy.accept index operation.args

/-- The references of the stored result that a refusal drops. A refusal because of the mode drops
none. -/
def dropped (proxy : Proxy) (operation : Operation) : List GlobalRef :=
  match operation.request proxy with
  | .error _ => []
  | .ok index => proxy.slotRefs index

variable {proxy : Proxy} {operation : Operation}

theorem accept_of_request {index : Nat} (requested : operation.request proxy = .ok index) :
    operation.accept proxy = proxy.accept index operation.args := by
  rw [accept, requested]
  rfl

theorem accept_of_request_error {fault : Fault}
    (refused : operation.request proxy = .error fault) : operation.accept proxy = .error fault := by
  rw [accept, refused]
  rfl

theorem accept_eq_ok {method : Method} {id : MethodId}
    (accepted : operation.accept proxy = .ok (method, id)) :
    ∃ index, operation.request proxy = .ok index ∧
      proxy.accept index operation.args = .ok (method, id) := by
  cases requested : operation.request proxy with
  | error fault =>
      rw [accept_of_request_error requested] at accepted
      cases accepted
  | ok index => exact ⟨index, rfl, accept_of_request requested ▸ accepted⟩

/-- What is accepted is the method that the operation names, with its binding and with arguments
that were checked. -/
theorem accept_eq_ok_of_located {index : Nat} {method accepts : Method} {id : MethodId}
    (accepted : operation.accept proxy = .ok (accepts, id))
    (located : operation.locate proxy = .ok index) (known : proxy.method? index = some method) :
    accepts = method ∧ (proxy.binding? index).bind Binding.method = some id ∧
      method.checkArguments operation.args proxy.config.policy = .ok () := by
  rcases accept_eq_ok accepted with ⟨other, requested, accepted⟩
  rw [(request_eq_ok requested).2, Except.ok.injEq] at located
  subst located
  rcases Proxy.accept_eq_ok_iff.mp accepted with ⟨found, bound, checked⟩
  rw [known, Option.some.injEq] at found
  subst found
  exact ⟨rfl, bound, checked⟩

/-- Whether an operation is accepted does not depend on the stored results. -/
theorem request_withSlots (operation : Operation) (proxy : Proxy) (slots : List (Option Value)) :
    operation.request { proxy with slots := slots } = operation.request proxy := by
  cases operation <;> rfl

theorem accept_withSlots (operation : Operation) (proxy : Proxy) (slots : List (Option Value)) :
    operation.accept { proxy with slots := slots } = operation.accept proxy := by
  cases operation <;> rfl

end Operation

/-- All that happened since was the release of the references. -/
def Session.OnlyReleased (refs : List GlobalRef) (before after : Session) : Prop :=
  ∃ events, after.history = before.history ++ events ∧
    ∀ event ∈ events, ∃ ref ∈ refs, event.Releases ref

section Refusals

variable {host : Host} {refs : List GlobalRef} {start : Session}

open Native (Keeps)

namespace Session.OnlyReleased

theorem refl (refs : List GlobalRef) (session : Session) : OnlyReleased refs session session :=
  ⟨[], by simp, by simp⟩

theorem record {session : Session} (released : OnlyReleased refs start session) {ref : GlobalRef}
    (listed : ref ∈ refs) {event : Event} (releases : event.Releases ref) :
    OnlyReleased refs start (session.record event) := by
  rcases released with ⟨events, longer, ofRefs⟩
  refine ⟨events ++ [event], ?_, ?_⟩
  · rw [Session.record, longer, List.append_assoc]
  · intro other happened
    rcases List.mem_append.mp happened with earlier | last
    · exact ofRefs other earlier
    · exact ⟨ref, listed, List.mem_singleton.mp last ▸ releases⟩

end Session.OnlyReleased

theorem Native.releaseAll_onlyReleased {released : List GlobalRef}
    (listed : ∀ ref ∈ released, ref ∈ refs) :
    Keeps host (start.OnlyReleased refs) (Native.releaseAll released) := by
  induction released with
  | nil => exact Keeps.pure _
  | cons ref others ih =>
      have first : Keeps host (start.OnlyReleased refs) (Native.release ref) := by
        refine Native.release_keeps (fun _ before => before) ?_
        intro session event releases before
        exact before.record (listed ref List.mem_cons_self) releases
      exact first.bind fun _ => ih fun other later => listed other (List.mem_cons_of_mem ref later)

variable {proxy : Proxy} {operation : Operation}

/-- Telling of an objection uses nothing of the machine. -/
theorem Operation.wrapUp_onlyReleased {fault : Fault} (empty : fault.refs = []) :
    Keeps host (start.OnlyReleased refs) (operation.wrapUp proxy (.error fault)) := by
  have logged (level : Level) (text : String) :
      Keeps host (start.OnlyReleased refs) (Native.log level text) := by
    intro session before
    exact before
  rw [wrapUp.eq_def]
  split
  · dsimp only
    rw [empty]
    split
    · exact (logged _ _).bind fun _ => Keeps.pure _
    · exact (logged _ _).bind fun _ => Keeps.pure _
  · exact Keeps.pure _

theorem Operation.tidy_onlyReleased {fault : Fault} (empty : fault.refs = []) (index : Nat) :
    Keeps host (start.OnlyReleased (proxy.slotRefs index))
      (operation.tidy proxy index (.error fault)) := by
  rw [tidy, written_of_error]
  exact (Native.releaseAll_onlyReleased fun _ => id).bind fun _ => wrapUp_onlyReleased empty

theorem Fault.eq_callMode {fault : Fault} (mode : fault.isCallMode = true) :
    ∃ method reason, fault = .callMode method reason := by
  cases fault with
  | callMode method reason => exact ⟨method, reason, rfl⟩
  | _ => exact absurd mode (by simp [Fault.isCallMode])

theorem Operation.request_fault_refs {fault : Fault}
    (refused : operation.request proxy = .error fault) : fault.refs = [] := by
  rcases request_eq_error refused with forbidden | ⟨_, missing⟩
  · rcases Fault.eq_callMode (allow_fault forbidden) with ⟨_, _, rfl⟩
    rfl
  · rcases locate_fault missing with ⟨_, _, _, _, rfl⟩
    rfl

variable {next : Proxy} {session after : Session} {answer : Answer}

/-- An operation that is refused tells of the first objection and releases what it drops. -/
theorem Operation.perform_refused {fault : Fault} (refused : operation.accept proxy = .error fault)
    (ran : (operation.perform proxy).exec host session = ((answer, next), after)) :
    answer = operation.report (.error fault) ∧
      session.OnlyReleased (operation.dropped proxy) after := by
  rcases perform_cases ran with
    ⟨objection, early, told, _, rfl⟩ | ⟨index, outcome, between, requested, called, told, _, rfl⟩
  · rw [accept_of_request_error early] at refused
    cases refused
    refine ⟨told, ?_⟩
    exact wrapUp_onlyReleased (request_fault_refs early) _ (.refl _ session)
  · rw [accept_of_request requested] at refused
    rw [Proxy.callMethod_eq, refused] at called
    simp only [Jni.exec_throw, Prod.mk.injEq] at called
    rcases called with ⟨rfl, rfl⟩
    refine ⟨told, ?_⟩
    rw [dropped, requested]
    exact tidy_onlyReleased (Proxy.accept_fault refused).refs index _ (.refl _ session)

/-- An operation that is accepted asks for the frame and makes the call, and nothing else counts. -/
theorem Operation.perform_accepted {method : Method} {id : MethodId} {tally : List Event}
    (accepted : operation.accept proxy = .ok (method, id)) (marked : session.Milestones tally)
    (ran : (operation.perform proxy).exec host session = ((answer, next), after)) :
    after.Milestones (tally ++ proxy.milestones host session method id operation.args) := by
  rcases perform_cases ran with
    ⟨objection, early, _, _, _⟩ | ⟨index, outcome, between, requested, called, _, _, rfl⟩
  · rw [accept_of_request_error early] at accepted
    cases accepted
  · rw [accept_of_request requested] at accepted
    have counted := Proxy.callMethod_milestones host marked accepted
    rw [called] at counted
    have sustains := Session.Milestones.sustained host
      (tally ++ proxy.milestones host session method id operation.args)
    exact tidy_keeps sustains.steady.release sustains.steady.log index outcome between counted

end Refusals

/-! ## One call at most -/

/-- Whether the event is a call through a method that a proxy bound. -/
def Event.isCall : Event → Bool
  | .call .. => true
  | _ => false

theorem Event.Releases.isCall {ref : GlobalRef} {event : Event} (releases : event.Releases ref) :
    event.isCall = false := by
  cases releases <;> rfl

/-- Calls are milestones. -/
theorem countP_isCall_filter (events : List Event) :
    (events.filter Event.isMilestone).countP Event.isCall = events.countP Event.isCall := by
  rw [List.countP_filter]
  congr 1
  funext event
  cases event <;> rfl

theorem Proxy.milestones_countP (host : Host) (session : Session) (proxy : Proxy)
    (method : Method) (id : MethodId) (args : List Value) :
    (proxy.milestones host session method id args).countP Event.isCall ≤ 1 := by
  have once (entered : Session) :
      (callEvents host entered proxy.target.object method id args).countP Event.isCall ≤ 1 := by
    rw [callEvents]
    split
    · simp
    · split
      · simp [Event.isCall]
      · simp
  rw [milestones]
  split
  · simp
  · split
    · rw [List.countP_cons_of_neg (by simp [Event.isCall])]
      exact once _
    · simp [Event.isCall]

/-- The events that an operation leaves behind, of a proxy which was made as `built`. A refusal is
told, and what is dropped is released; an operation that is accepted has the milestones of its
call. -/
def Operation.Leaves (host : Host) (built proxy : Proxy) (session : Session) (answer : Answer)
    (events : List Event) (operation : Operation) : Prop :=
  match operation.accept built with
  | .error fault => answer = operation.report (.error fault) ∧
      ∀ event ∈ events, ∃ ref ∈ operation.dropped proxy, event.Releases ref
  | .ok (method, id) =>
      events.filter Event.isMilestone =
        built.milestones host session method id operation.args

namespace Operation.Leaves

variable {host : Host} {built proxy : Proxy} {session : Session} {answer : Answer}
  {events : List Event} {operation : Operation}

theorem answer_of_unresolved (left : operation.Leaves host built proxy session answer events)
    {index : Nat} {method : Method} (requested : operation.request built = .ok index)
    (known : built.method? index = some method)
    (unbound : (built.binding? index).bind Binding.method = none) :
    answer = operation.report (.error (.unresolvedMethod built.interface.name method.text)) := by
  rw [Leaves, accept_of_request requested, Proxy.accept_of_unresolved known unbound] at left
  exact left.1

/-- A call is made by an operation that was accepted: on the target, by the method it was accepted
for, with its converted arguments. -/
theorem call_accepted (left : operation.Leaves host built proxy session answer events)
    {receiver : Object} {id : MethodId} {kind : CallKind} {raws : List RawValue}
    (called : .call receiver id kind raws ∈ events) :
    ∃ method entered converted, operation.accept built = .ok (method, id) ∧
      receiver = built.target.object ∧
      (Jni.convertArguments method operation.args).exec host entered = (.ok raws, converted) := by
  rw [Leaves] at left
  cases accepted : operation.accept built with
  | error fault =>
      rw [accepted] at left
      rcases left.2 _ called with ⟨ref, _, releases⟩
      cases releases
  | ok target =>
      rcases target with ⟨method, bound⟩
      rw [accepted] at left
      dsimp only at left
      have counted : .call receiver id kind raws ∈ events.filter Event.isMilestone :=
        List.mem_filter.mpr ⟨called, rfl⟩
      rw [left] at counted
      rcases Proxy.mem_milestones counted with ⟨onTarget, rfl, entered, converted, ran⟩
      exact ⟨method, entered, converted, rfl, onTarget, ran⟩

/-- A call is of the method that was asked for, as that one was bound. -/
theorem call_of_binding (left : operation.Leaves host built proxy session answer events)
    {receiver : Object} {id : MethodId} {kind : CallKind} {raws : List RawValue}
    (called : .call receiver id kind raws ∈ events) :
    ∃ index method, operation.request built = .ok index ∧ built.method? index = some method ∧
      (built.binding? index).bind Binding.method = some id := by
  rcases left.call_accepted called with ⟨method, _, _, accepted, _, _⟩
  rcases accept_eq_ok accepted with ⟨index, requested, accepts⟩
  exact ⟨index, method, requested, Proxy.accept_eq_ok accepts⟩

/-- The call of a known method is made on the target, by the method it was bound to, and with its
arguments as they were checked and converted. -/
theorem call_of_located (left : operation.Leaves host built proxy session answer events)
    {index : Nat} {method : Method} (located : operation.locate built = .ok index)
    (known : built.method? index = some method) {receiver : Object} {id : MethodId}
    {kind : CallKind} {raws : List RawValue} (called : .call receiver id kind raws ∈ events) :
    receiver = built.target.object ∧ (built.binding? index).bind Binding.method = some id ∧
      method.checkArguments operation.args built.config.policy = .ok () ∧
      ∃ entered converted,
        (Jni.convertArguments method operation.args).exec host entered = (.ok raws, converted) := by
  rcases left.call_accepted called with ⟨accepts, entered, converted, accepted, onTarget, ran⟩
  rcases accept_eq_ok_of_located accepted located known with ⟨rfl, bound, checked⟩
  exact ⟨onTarget, bound, checked, entered, converted, ran⟩

end Operation.Leaves

theorem Reachable.operation_events {host : Host} {proxy next : Proxy} {session after : Session}
    {operation : Operation} {answer : Answer} (reachable : Reachable host proxy session)
    (ran : (operation.perform proxy).exec host session = ((answer, next), after)) :
    ∃ events, after.history = session.history ++ events ∧
      operation.Leaves host proxy proxy session answer events := by
  simp only [Operation.Leaves]
  cases accepted : operation.accept proxy with
  | error fault =>
      rcases operation.perform_refused accepted ran with ⟨told, events, longer, released⟩
      exact ⟨events, longer, told, released⟩
  | ok target =>
      rcases target with ⟨method, id⟩
      rcases (operation.perform_advances.after (.refl session) ran).history with ⟨events, longer⟩
      have started : session.Milestones (session.history.filter Event.isMilestone) :=
        ⟨reachable.core_cached, rfl⟩
      have counted := (operation.perform_accepted accepted started ran).events
      rw [← longer, List.filter_append, List.append_cancel_left_eq] at counted
      exact ⟨events, longer.symm, counted⟩

theorem Run.operation_events {host : Host} {built proxy next : Proxy} {calls : List Call}
    {session after : Session} {operation : Operation} {answer : Answer}
    (run : Run host built calls proxy session)
    (ran : (operation.perform proxy).exec host session = ((answer, next), after)) :
    ∃ events, after.history = session.history ++ events ∧
      operation.Leaves host built proxy session answer events := by
  rcases run.reachable.operation_events ran with ⟨events, longer, left⟩
  refine ⟨events, longer, ?_⟩
  -- The proxies differ in their slots, which decide neither what is accepted nor what is called.
  have same : operation.accept proxy = operation.accept built := by
    rw [run.only_slots]
    exact operation.accept_withSlots built _
  have unchanged (method : Method) (id : MethodId) :
      proxy.milestones host session method id operation.args =
        built.milestones host session method id operation.args := by
    rw [run.only_slots]
    rfl
  simpa only [Operation.Leaves, same, unchanged] using left

/-- Every operation in a run makes at most one call of a bound method. It is refused on the first
objection, and then the machine is left alone but for the references of a stored result that is
dropped; otherwise it asks for one frame and makes the call with the method that was bound when the
proxy was made. -/
theorem Run.operation_calls_once {host : Host} {built proxy next : Proxy} {calls : List Call}
    {session after : Session} {operation : Operation} {answer : Answer}
    (run : Run host built calls proxy session)
    (ran : (operation.perform proxy).exec host session = ((answer, next), after)) :
    ∃ events, after.history = session.history ++ events ∧ events.countP Event.isCall ≤ 1 ∧
      operation.Leaves host built proxy session answer events := by
  rcases run.operation_events ran with ⟨events, longer, left⟩
  refine ⟨events, longer, ?_, left⟩
  rw [Operation.Leaves] at left
  cases accepted : operation.accept built with
  | error fault =>
      rw [accepted] at left
      rw [List.countP_eq_zero.mpr]
      · exact Nat.zero_le 1
      · intro event happened
        rcases left.2 event happened with ⟨ref, _, releases⟩
        simp [releases.isCall]
  | ok target =>
      rw [accepted] at left
      rw [← countP_isCall_filter, left]
      exact built.milestones_countP ..

theorem Run.counting_calls_once :
    ∃ after events,
      ((Operation.invoke 0 []).perform .counting).exec Script.counting.host .counting =
        ((.outcome (.ok (.int 1)), Proxy.counting.withSlot 0 (some (.int 1))), after) ∧
      after.history = Session.counting.history ++ events ∧ events.countP Event.isCall ≤ 1 ∧
      events.filter Event.isMilestone = [.pushFrame 16,
        .call (.plain "target") ⟨"Target", "next", "()I"⟩ (.primitive .int) []] := by
  have ran : ((Operation.invoke 0 []).perform .counting).exec Script.counting.host .counting =
      ((.outcome (.ok (.int 1)), Proxy.counting.withSlot 0 (some (.int 1))), _) := rfl
  rcases Run.operation_calls_once (.bound Proxy.bind_counting) ran with
    ⟨events, longer, once, marked⟩
  exact ⟨_, events, ran, longer, once, marked⟩

end NativeProxy
