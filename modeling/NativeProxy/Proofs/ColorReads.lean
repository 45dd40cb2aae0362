import NativeProxy.Proofs.ColorRoundTrip

/-!
# Which objects are asked for components

A result that is converted as a colour is asked for its components through the class of colours.
Nothing else is: describing exceptions goes through the methods of the core classes, and all other
work asks no object anything. `Session.Reads` fixes the objects that were asked so far, and is
carried through a call by the laws of errands.

The object that is asked is the one that the bound method returned, but it may be of any class:
nothing looks at its class before.
-/

namespace NativeProxy

/-- The object that an event asks for its components. -/
def Event.read? : Event → Option Object
  | .access receiver method _ => if method = ColorClass.accessor then some receiver else none
  | _ => none

/-- The objects that were asked for their components, in order. -/
def History.colorReads (history : History) : List Object :=
  history.filterMap Event.read?

/-- The classes kept so far are genuine, and these objects were asked for their components. -/
structure Session.Reads (read : List Object) (session : Session) : Prop where
  core : session.HasGenuineCore
  color : session.HasGenuineColor
  objects : session.history.colorReads = read

theorem Event.read?_of_isErrand {event : Event} (errand : event.isErrand = true) :
    event.read? = none := by
  cases event <;> first | rfl | cases errand

theorem Event.read?_of_accessor (receiver : Object) (accessor : Accessor)
    (args : List RawValue) : (Event.access receiver accessor.method args).read? = none :=
  if_neg (by cases accessor <;> decide)

variable {host : Host} {session after left : Session} {read : List Object}

/-! ## Work that asks nothing -/

namespace History

theorem colorReads_append_of_none {history : History} {event : Event}
    (unread : event.read? = none) : colorReads (history ++ [event]) = history.colorReads := by
  simp [colorReads, unread]

theorem colorReads_append_of_some {history : History} {event : Event} {object : Object}
    (asked : event.read? = some object) :
    colorReads (history ++ [event]) = history.colorReads ++ [object] := by
  simp [colorReads, asked]

end History

namespace Session.Reads

theorem record (reads : session.Reads read) {event : Event} (unread : event.read? = none) :
    (session.record event).Reads read :=
  ⟨reads.core, reads.color, (History.colorReads_append_of_none unread).trans reads.objects⟩

theorem record_read (reads : session.Reads read) {event : Event} {object : Object}
    (asked : event.read? = some object) : (session.record event).Reads (read ++ [object]) := by
  refine ⟨reads.core, reads.color, ?_⟩
  rw [← reads.objects]
  exact History.colorReads_append_of_some asked

theorem steady : Session.Steady (Session.Reads read) where
  recorded errand reads := reads.record (Event.read?_of_isErrand errand)
  pended _ reads := ⟨reads.core, reads.color, reads.objects⟩
  logged _ reads := ⟨reads.core, reads.color, reads.objects⟩

theorem objects_steady :
    Session.Steady fun session => session.history.colorReads = read where
  recorded errand same :=
    (History.colorReads_append_of_none (Event.read?_of_isErrand errand)).trans same
  pended _ same := same
  logged _ same := same

theorem pushFrame (capacity : Int) :
    Jni.Keeps host (Session.Reads read)
      (Jni.requestStatus .pushLocalFrame .pushLocalFrame (.pushFrame capacity)) :=
  steady.requestStatus _ _ fun _ reads => reads.record rfl

/-- What takes nothing back, leaves the class of colours genuine and asks for no components. -/
theorem keeps {α : Type} {operation : Jni α}
    (advances : ∀ {start : Session}, Jni.Keeps host start.Precedes operation)
    (colored : Jni.Keeps host Session.HasGenuineColor operation)
    (unread : Jni.Keeps host (fun session => session.history.colorReads = read) operation) :
    Jni.Keeps host (Session.Reads read) operation := by
  intro session reads
  have earlier := advances session (.refl session)
  exact ⟨earlier.genuine reads.core, colored session reads.color, unread session reads.objects⟩

theorem coreClasses : Jni.Keeps host (Session.Reads read) Jni.coreClasses := by
  apply keeps Jni.coreClasses_advances Session.HasGenuineColor.sustained.core
  apply objects_steady.coreClasses
  case recorded => exact fun _ _ same => (History.colorReads_append_of_none rfl).trans same
  case kept => exact fun _ _ same => same

theorem colorClass : Jni.Keeps host (Session.Reads read) Jni.colorClass := by
  apply keeps Jni.colorClass_advances Session.HasGenuineColor.sustained.color
  apply objects_steady.colorClass
  case recorded => exact fun _ _ _ same => (History.colorReads_append_of_none rfl).trans same
  case kept => exact fun _ _ same => same

/-- Exceptions are asked through the methods of the core classes, which are no accessors of
colours. -/
theorem endures : host.Endures (Session.Reads read) where
  toSteady := steady
  convert := by
    have finds {session after : Session} {core : CoreClasses} (reads : session.Reads read)
        (ran : Jni.coreClasses.exec host session = (.ok core, after)) : core.IsGenuine := by
      have earlier := Jni.coreClasses_advances.after (.refl session) ran
      exact earlier.genuine reads.core core (Jni.coreClasses_cached ran)
    apply steady.convert coreClasses finds
    intro core genuine exception accessor session reads
    rw [genuine accessor]
    exact reads.record (Event.read?_of_accessor _ accessor [])
  color := colorClass

end Session.Reads

/-! ## Reading a colour -/

namespace Jni

open Session (Reads)

/-- Asking an object for its components is a read, if the machine has a function for it. -/
theorem access_reads (host : Host) (reads : session.Reads read) (object : Object)
    (args : List RawValue) :
    ((access object ColorClass.accessor args).exec host session).2.Reads
      (read ++ if host.provides (.call .reference) then [object] else []) := by
  rw [access, invoke, exec_bind, exec_request]
  by_cases provided : host.provides (.call .reference) = true
  · rw [if_pos provided, if_pos provided]
    have asked : (Event.access object ColorClass.accessor args).read? = some object := by
      simp [Event.read?]
    exact Reads.steady.answered .reference _ _ (reads.record_read asked)
  · rw [if_neg provided, if_neg provided, List.append_nil]
    exact reads

theorem accessOrFail_reads (host : Host) (reads : session.Reads read) (object : Object)
    (args : List RawValue) :
    ((accessOrFail object ColorClass.accessor args).exec host session).2.Reads
      (read ++ if host.provides (.call .reference) then [object] else []) := by
  have asked := access_reads host reads object args
  rw [accessOrFail, exec_bind_of_ok (exec_attempt _ host session)]
  refine Keeps.bind Reads.endures.failOnException (fun _ => ?_) _ asked
  refine Keeps.bind (Keeps.resume _) fun value => ?_
  exact Keeps.resume _

/-- Reading a colour asks the object once it found the class of colours. -/
theorem readColor_reads_of_found (reads : session.Reads read) (object : Object)
    {color : ColorClass} {found : Session}
    (ran : colorClass.exec host session = (.ok color, found)) :
    ((readColor object).exec host session).2.Reads
      (read ++ if host.provides (.call .reference) then [object] else []) := by
  have still : found.Reads read := Reads.colorClass.after reads ran
  have asked := accessOrFail_reads host still object [.null]
  rw [readColor, exec_bind_of_ok ran, colorClass_genuine reads.color ran, exec_bind]
  rcases answered : (accessOrFail object ColorClass.accessor [.null]).exec host found with
    ⟨fault | components, asking⟩
  · rw [answered] at asked
    exact asked
  · rw [answered] at asked
    exact Reads.endures.components components asking asked

theorem readColor_reads (reads : session.Reads read) (object : Object) :
    ((readColor object).exec host session).2.Reads read ∨
      ((readColor object).exec host session).2.Reads (read ++ [object]) := by
  rcases ran : colorClass.exec host session with ⟨fault | color, found⟩
  · rw [readColor, exec_bind_of_error ran]
    exact .inl (Reads.colorClass.after reads ran)
  · have asked := readColor_reads_of_found reads object ran
    split at asked
    · exact .inr asked
    · rw [List.append_nil] at asked
      exact .inl asked

theorem exec_convertResult_of_color {method : Method} (planned : method.result = .color)
    (object : Object) :
    ((convertResult method (.reference (some object))).exec host session).2 =
      ((readColor object).exec host session).2 := by
  have given : (resume (RawValue.reference (some object)).reference?).exec host session =
      (.ok (some object), session) := rfl
  rw [convertResult, planned]
  dsimp only
  rw [exec_bind_of_ok given]
  dsimp only
  rw [exec_bind]
  rcases (readColor object).exec host session with ⟨fault | color, after⟩ <;> rfl

/-- Converting a result asks nothing but the object that was returned, and only as a colour. -/
theorem convertResult_reads (host : Host) (reads : session.Reads read) (method : Method)
    (raw : RawValue) :
    ((convertResult method raw).exec host session).2.Reads read ∨
      ∃ object, method.result = .color ∧ raw = .reference (some object) ∧
        ((convertResult method raw).exec host session).2.Reads (read ++ [object]) := by
  by_cases planned : method.result = .color
  case neg =>
    have kept : Keeps host (Reads read) (convertResult method raw) :=
      Reads.endures.convertResult method raw fun colored => absurd colored planned
    exact .inl (kept session reads)
  case pos =>
    cases raw with
    | reference object =>
        cases object with
        | none =>
            rw [convertResult, planned]
            exact .inl reads
        | some object =>
            rw [exec_convertResult_of_color planned]
            rcases readColor_reads reads object with kept | asked
            · exact .inl kept
            · exact .inr ⟨object, planned, rfl, asked⟩
    | _ =>
        rw [convertResult, planned]
        exact .inl reads

end Jni

/-! ## Calls -/

theorem CallKind.default_ne_object (kind : CallKind) (object : Object) :
    kind.default ≠ .reference (some object) := by
  rcases kind with _ | (_ | _) <;> simp [CallKind.default, RawValue.null]

/-- An object that is read off a call was returned by it. -/
theorem Host.Answers.returns_object {history : History} {target object : Object} {id : MethodId}
    {kind : CallKind} {args : List RawValue} {raw : RawValue}
    (answers : host.Answers history target id kind args raw)
    (isObject : raw = .reference (some object)) :
    (target.respond? id.name).getD (host.invoke history target id args) =
      .returns (.reference (some object)) := by
  cases answers with
  | returned returns typed => rw [returns, isObject]
  | mistyped returns mistyped => exact absurd isObject (kind.default_ne_object object)

namespace Proxy

open Session (Reads)

/-- A call asks nothing but the object that the bound method returned, and only as a colour. -/
theorem callOnce_reads (host : Host) (reads : session.Reads read) (target : Object)
    (method : Method) (id : MethodId) (args : List Value) :
    ((callOnce target method id args).exec host session).2.Reads read ∨
      ∃ object raws called,
        (Jni.convertArguments method args).exec host session = (.ok raws, called) ∧
        method.result = .color ∧
        (target.respond? id.name).getD (host.invoke called.history target id raws) =
          .returns (.reference (some object)) ∧
        ((callOnce target method id args).exec host session).2.Reads (read ++ [object]) := by
  rw [callOnce, Jni.exec_bind]
  rcases converted : (Jni.convertArguments method args).exec host session with
    ⟨fault | raws, called⟩
  · exact .inl ((Reads.endures.convertFrom method 0 _ args).after reads converted)
  · have calledReads : called.Reads read :=
      (Reads.endures.convertFrom method 0 _ args).after reads converted
    dsimp only
    rw [Jni.exec_bind_of_ok (Jni.exec_attempt _ host called)]
    rcases answered : (Jni.call target id method.signature.result.callKind raws).exec host called
      with ⟨reply, replied⟩
    have repliedReads : replied.Reads read :=
      (Reads.steady.invoke (fun _ reads => reads.record rfl) target id _ raws).after calledReads
        answered
    rw [Jni.exec_bind]
    rcases failing : Jni.failOnException.exec host replied with ⟨fault | _, checked⟩
    · exact .inl (Reads.endures.failOnException.after repliedReads failing)
    · have checkedReads : checked.Reads read :=
        Reads.endures.failOnException.after repliedReads failing
      rcases reply with fault | raw
      · exact .inl checkedReads
      · dsimp only
        rw [Jni.exec_bind_of_ok (Jni.exec_resume _ host checked)]
        rcases Jni.convertResult_reads host checkedReads method raw with
          kept | ⟨object, planned, isObject, asked⟩
        · exact .inl kept
        · exact .inr ⟨object, raws, called, rfl, planned,
            (Jni.call_answers answered).1.returns_object isObject, asked⟩

theorem settle_reads {call : Jni Value} (reads : (call.exec host session).2.Reads read) :
    ((settle call).exec host session).2.Reads read := by
  rw [settle, Jni.exec_bind_of_ok (Jni.exec_attempt call host session)]
  exact Reads.endures.settled _ _ reads

end Proxy

namespace Operation

open Session (Reads)

variable {proxy next : Proxy} {operation : Operation} {answer : Answer}

/-- The bound method of an operation answers its call with the object, and the result is converted
as a colour. -/
inductive Lends (host : Host) (proxy : Proxy) (session : Session) (operation : Operation)
    (object : Object) : Prop where
  | intro {method : Method} {id : MethodId} {raws : List RawValue} {called : Session}
      (reaches : operation.Reaches host proxy session method id raws called)
      (planned : method.result = .color)
      (returned : proxy.answer host called.history id raws =
        .returns (.reference (some object)))

theorem callMethod_reads (host : Host) {index : Nat}
    (requested : operation.request proxy = .ok index) (reads : session.Reads read) :
    ((proxy.callMethod index operation.args).exec host session).2.Reads read ∨
      ∃ object, operation.Lends host proxy session object ∧
        ((proxy.callMethod index operation.args).exec host session).2.Reads
          (read ++ [object]) := by
  rw [Proxy.callMethod_eq]
  cases accepted : proxy.accept index operation.args with
  | error fault => exact .inl reads
  | ok target =>
      rcases target with ⟨method, id⟩
      dsimp only
      rcases pushed : (Jni.requestStatus .pushLocalFrame .pushLocalFrame
        (.pushFrame proxy.config.frameCapacity)).exec host session with ⟨fault | code, entered⟩
      · rw [Jni.exec_withFrame, pushed]
        exact .inl ((Reads.pushFrame _).after reads pushed)
      · have enteredReads : entered.Reads read := (Reads.pushFrame _).after reads pushed
        by_cases made : code = 0
        · subst made
          have left {read : List Object}
              (reads : (Jni.exec (Proxy.callOnce proxy.target.object method id operation.args)
                host entered).2.Reads read) :
              (Jni.exec (Jni.withFrame proxy.config.frameCapacity Value.refs (Proxy.settle
                (Proxy.callOnce proxy.target.object method id operation.args))) host
                session).2.Reads read :=
            Jni.withFrame_after Reads.steady.release (fun _ reads => reads.record rfl) pushed
              (Proxy.settle_reads reads)
          rcases Proxy.callOnce_reads host enteredReads proxy.target.object method id operation.args
            with kept | ⟨object, raws, called, converted, planned, returned, asked⟩
          · exact .inl (left kept)
          · rw [Jni.exec_requestStatus] at pushed
            split at pushed
            · simp only [Prod.mk.injEq, Except.ok.injEq] at pushed
              rcases pushed with ⟨framed, rfl⟩
              have reaches : operation.Reaches host proxy session method id raws called :=
                ⟨(accept_of_request requested).trans accepted, framed, converted⟩
              exact .inr ⟨object, .intro reaches planned returned, left asked⟩
            · cases pushed
        · rw [Jni.exec_withFrame, pushed]
          dsimp only
          rw [if_neg made]
          exact .inl enteredReads

/-- An operation asks at most the object that its bound method returned. -/
theorem perform_reads (reads : session.Reads read)
    (ran : (operation.perform proxy).exec host session = ((answer, next), after)) :
    after.Reads read ∨
      ∃ object, operation.Lends host proxy session object ∧ after.Reads (read ++ [object]) := by
  rcases perform_cases ran with
    ⟨fault, _, _, _, rfl⟩ | ⟨index, outcome, between, requested, called, _, _, rfl⟩
  · exact .inl (wrapUp_keeps Reads.steady.release Reads.steady.log _ session reads)
  · have tidied {read : List Object} (still : between.Reads read) :
        ((operation.tidy proxy index outcome).exec host between).2.Reads read :=
      tidy_keeps Reads.steady.release Reads.steady.log index outcome between still
    have asked := callMethod_reads host requested reads
    rw [called] at asked
    rcases asked with kept | ⟨object, lends, asked⟩
    · exact .inl (tidied kept)
    · exact .inr ⟨object, lends, tidied asked⟩

namespace Reaches

variable {method : Method} {id : MethodId} {raws : List RawValue} {called : Session}

/-- Making the frame and the arguments asks nothing. -/
theorem called_reads (reaches : operation.Reaches host proxy session method id raws called)
    (reads : session.Reads read) : called.Reads read := by
  have framedReads : (session.framed host proxy.config.frameCapacity).Reads read :=
    Reads.steady.pended _ (reads.record rfl)
  exact (Reads.endures.convertFrom method 0 _ operation.args).after framedReads reaches.converted

theorem callOnce_reads_of_color
    (reaches : operation.Reaches host proxy session method id raws called)
    (serves : host.Serves) (quiet : session.IsQuiet) (reads : session.Reads read)
    (finds : session.shared.color = none → host.FindsColors)
    (planned : method.result = .color) (reference : method.signature.result.isReference = true)
    {object : Object}
    (returned : proxy.answer host called.history id raws = .returns (.reference (some object))) :
    (Jni.exec (Proxy.callOnce proxy.target.object method id operation.args) host
      (session.framed host proxy.config.frameCapacity)).2.Reads (read ++ [object]) := by
  have still : called.IsQuiet := reaches.quiet serves quiet
  let checked := ((called.record (.call proxy.target.object id .reference raws)).record
    .exceptionCheck).record .exceptionCheck
  have checkedReads : checked.Reads read :=
    (((reaches.called_reads reads).record rfl).record rfl).record rfl
  have entered := reaches.exec_callOnce_checked serves.toCooperates still returned
  rw [Descriptor.callKind_of_isReference reference] at entered
  have kept : CallKind.reference.narrow (.reference (some object)) =
      .reference (some object) := rfl
  rw [entered, kept, Jni.exec_convertResult_of_color planned]
  have checkedStill : checked.IsQuiet := still
  rcases Jni.exec_colorClass serves.toCooperates checkedStill
    (fun unknown => finds (reaches.advances.color_unknown unknown)) with ⟨color, found, looked, _⟩
  have asked := Jni.readColor_reads_of_found checkedReads object looked
  rw [if_pos (serves.provides _)] at asked
  exact asked

end Reaches

/-- An object that is returned as a colour is asked, whatever its class. -/
theorem Returns.reads (serves : host.Serves) (quiet : session.IsQuiet)
    (reads : session.Reads read)
    (finds : session.shared.color = none → host.FindsColors) {object : Object}
    (returns : operation.Returns host proxy session .color (some object))
    (ran : (operation.perform proxy).exec host session = ((answer, next), after)) :
    after.Reads (read ++ [object]) := by
  rcases returns with @⟨method, id, prepared, planned, reference, returned⟩
  rcases prepared.reaches serves quiet with ⟨raws, called, reaches⟩
  have settled := Proxy.settle_reads (reaches.callOnce_reads_of_color serves quiet reads finds
    planned reference (returned reaches))
  rcases ended : (Proxy.settle (Proxy.callOnce proxy.target.object method id
    operation.args)).exec host (session.framed host proxy.config.frameCapacity) with
    ⟨outcome, left⟩
  rw [ended] at settled
  rcases reaches.answer_eq serves.provides ended ran with ⟨_, index, rfl⟩
  exact tidy_keeps Reads.steady.release Reads.steady.log index outcome _ (settled.record rfl)

/-- Components are asked of the object that the bound method of the same operation returned, and of
no other; it is asked whatever its class, and none is refused for its class. -/
theorem components_of_returned_object (core : session.HasGenuineCore)
    (color : session.HasGenuineColor)
    (ran : (operation.perform proxy).exec host session = ((answer, next), after)) :
    (after.history.colorReads = session.history.colorReads ∨
      ∃ object, operation.Lends host proxy session object ∧
        after.history.colorReads = session.history.colorReads ++ [object]) ∧
    (host.Serves → session.pending = none → (session.shared.color = none → host.FindsColors) →
      ∀ object, operation.Returns host proxy session .color (some object) →
        after.history.colorReads = session.history.colorReads ++ [object]) := by
  have reads : session.Reads session.history.colorReads := ⟨core, color, rfl⟩
  refine ⟨?asked, ?returned⟩
  case asked =>
    rcases perform_reads reads ran with kept | ⟨object, lends, asked⟩
    · exact .inl kept.objects
    · exact .inr ⟨object, lends, asked.objects⟩
  case returned =>
    intro serves quiet finds object returns
    exact (returns.reads serves quiet reads finds ran).objects

end Operation

/-! ## A thing that is taken for a colour -/

/-- A method that returns any object, which is converted as a colour. -/
def Method.getting : Method where
  selector := ⟨"get", ⟨[], .object "java/lang/Object"⟩⟩
  params := []
  result := .color
  mode := .byValue
  flagsFailure := false

theorem Method.getting_built : getting.Built := by
  have wellFormed : Signature.WellFormed ⟨[], .object "java/lang/Object"⟩ :=
    ⟨by simp, .inr ⟨by decide, by decide⟩⟩
  exact .refined .colorResult (.parsed (parse_text wellFormed "get")) rfl

/-- The only method of the target returns an object that is no colour. -/
def Script.lending : Script where
  methods := [{
    name := "get"
    signature := "()Ljava/lang/Object;"
    outcomes := [.returns (.reference (some (.plain "thing")))] }]

def Interface.lending : Interface where
  name := "Lending"
  methods := [.getting]

/-- The proxy that binding a target to `Interface.lending` makes. -/
def Proxy.lending : Proxy where
  target := ⟨25, .plain "target"⟩
  targetClass := ⟨27, .loadedClass "Target"⟩
  interface := .lending
  bindings := [⟨Method.getting.selector, some ⟨"Target", "get", "()Ljava/lang/Object;"⟩⟩]
  slots := [none]
  config := {}

/-- The session that making `Proxy.lending` leaves. -/
def Session.lending : Session :=
  ((Proxy.bind (some (.plain "target")) .lending {}).exec Script.lending.host {}).2

theorem Proxy.bind_lending :
    (bind (some (.plain "target")) .lending {}).exec Script.lending.host {} =
      (.ok .lending, .lending) := rfl

theorem Operation.components_of_thing :
    ∃ next after, ((invoke 0 []).perform .lending).exec Script.lending.host .lending =
        ((.outcome (.error (.jni (.nullPointer "get_array_length array argument"))), next),
          after) ∧
      after.history.colorReads = [.plain "thing"] := by
  have core : Session.lending.HasGenuineCore := by
    rintro core ⟨⟩ accessor
    cases accessor <;> rfl
  have color : Session.lending.HasGenuineColor := by
    rintro color ⟨⟩
  have returns : (invoke 0 []).Returns Script.lending.host .lending .lending .color
      (some (.plain "thing")) := by
    refine .intro ⟨rfl, rfl, List.forall_mem_nil _⟩ rfl rfl ?_
    intro raws called _
    rw [Script.answer_of_single rfl rfl rfl]
    rfl
  have ran : ((invoke 0 []).perform .lending).exec Script.lending.host .lending =
      ((.outcome (.error (.jni (.nullPointer "get_array_length array argument"))), .lending),
        _) := rfl
  refine ⟨_, _, ran, ?_⟩
  exact (components_of_returned_object core color ran).2 (Script.host_serves rfl rfl rfl) rfl
    (fun _ => Script.host_findsColors rfl (by decide)) _ returns

/-- An object that is no colour, and of another class, is asked for its components. -/
theorem Reachable.components_of_stranger :
    ¬ ∀ {host : Host} {proxy next : Proxy} {session after : Session} {operation : Operation}
        {answer : Answer} {object : Object},
      host.Serves → host.FindsColors → Reachable host proxy session → session.pending = none →
      (∀ method ∈ proxy.interface.methods, method.Built) →
      (operation.perform proxy).exec host session = ((answer, next), after) →
      after.history.colorReads = session.history.colorReads ++ [object] →
      (∃ shown, object = .color shown) ∨ host.classOf object = Descriptor.colorClass := by
  intro guarded
  have ran : ((Operation.invoke 0 []).perform .lending).exec Script.lending.host .lending =
      ((_, .lending), _) := rfl
  have built : ∀ method ∈ Proxy.lending.interface.methods, method.Built :=
    List.forall_mem_singleton.mpr Method.getting_built
  rcases guarded (Script.host_serves rfl rfl rfl) (Script.host_findsColors rfl (by decide))
    (.bound Proxy.bind_lending) rfl built ran rfl with ⟨shown, isColor⟩ | isColor
  · cases isColor
  · exact absurd isColor (by decide)

end NativeProxy
