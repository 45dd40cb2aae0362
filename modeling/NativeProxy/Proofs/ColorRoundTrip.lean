import NativeProxy.Proofs.ReachedCalls

/-!
# Colours that cross and come back

A colour passed for an argument is made of its four components, and a colour that a method returns
is asked for an array of them. The array may have any length and may be missing, and asking for it
may throw: `ColorAnswer.Yields` says what comes of each answer. Components are never computed with,
so a colour that comes back has the bits it had, each in its place.
-/

namespace NativeProxy

variable {host : Host} {proxy next : Proxy} {session after : Session} {operation : Operation}
  {answer : Answer} {exception : Throwable}

/-! ## What a colour answers -/

theorem Rgba.ofComponents?_eq_none_iff {components : List Binary32} :
    ofComponents? components = none ↔ components.length ≠ 4 := by
  match components with
  | [] => simp [ofComponents?]
  | [_] => simp [ofComponents?]
  | [_, _] => simp [ofComponents?]
  | [_, _, _] => simp [ofComponents?]
  | [_, _, _, _] => simp [ofComponents?]
  | _ :: _ :: _ :: _ :: _ :: _ => simp [ofComponents?]

namespace ColorAnswer

/-- What comes of reading a colour that answers in this way: four components are a colour, any other
number of them, none at all and an exception are faults. -/
inductive Yields : ColorAnswer → Except Fault Value → Prop where
  | colored (color : Rgba) : Yields (.components color.components) (.ok (.color color))
  | misshapen {values : List Binary32} (misshapen : values.length ≠ 4) :
      Yields (.components values) (.error (.internal
        ("Color#getRGBComponents returned " ++ toString values.length ++ " components")))
  | absent : Yields .null (.error (.jni (.nullPointer "get_array_length array argument")))
  | thrown {exception : Throwable} (fault : Fault) : Yields (.throws exception) (.error fault)

/-- A colour with four components is read as that colour. -/
theorem Yields.eq_ok {color : Rgba} {outcome : Except Fault Value}
    (yields : Yields (.components color.components) outcome) : outcome = .ok (.color color) := by
  generalize shown : ColorAnswer.components color.components = answer at yields
  cases yields with
  | colored other =>
      rw [components.injEq, ← Rgba.ofComponents?_eq_some_iff,
        Rgba.ofComponents?_eq_some_iff.mpr rfl, Option.some.injEq] at shown
      rw [shown]
  | misshapen misshapen =>
      rw [components.injEq] at shown
      exact absurd (shown ▸ rfl) misshapen
  | absent => cases shown
  | thrown fault => cases shown

end ColorAnswer

theorem ColorAnswer.respond_eq (shown : ColorAnswer) :
    (Object.color shown).respond? ColorClass.accessor.name = some (match shown with
      | .components values => .returns (.reference (some (.floats values)))
      | .null => .returns (.reference none)
      | .throws exception => .throws exception) := by
  cases shown <;> rfl

/-! ## Reading a colour -/

namespace Jni

theorem failOnException_of_some (clears : host.ClearsExceptions)
    (pending : session.pending = some exception) :
    ∃ fault last, failOnException.exec host session = (.error fault, last) := by
  rcases exec_takePending clears session with ⟨taken, took, _, _⟩
  rw [pending] at took
  rcases converted : (convert exception).exec host taken with ⟨fault | fault, last⟩
  · have taking : takeException.exec host session = (.error fault, last) := by
      rw [takeException, exec_bind_of_ok took]
      exact exec_bind_of_error converted _
    exact ⟨fault, last, exec_bind_of_error taking _⟩
  · have taking : takeException.exec host session = (.ok (some fault), last) := by
      rw [takeException, exec_bind_of_ok took]
      exact exec_bind_of_ok converted _
    refine ⟨fault, last, ?_⟩
    rw [failOnException, exec_bind_of_ok taking]
    exact exec_throw fault host last

section Accessor

variable {receiver : Object} {method : MethodId} {args : List RawValue}

theorem exec_accessOrFail_of_returns (cooperates : host.Cooperates) (quiet : session.IsQuiet)
    {object : Option Object} (returns : (receiver.respond? method.name).getD
      (host.invoke session.history receiver method args) = .returns (.reference object)) :
    ∃ last, (accessOrFail receiver method args).exec host session = (.ok object, last) ∧
      last.IsQuiet := by
  let replied := (session.record (.access receiver method args)).record .exceptionCheck
  have still : replied.IsQuiet := quiet
  refine ⟨replied.record .exceptionCheck, ?_, quiet⟩
  have answered : (access receiver method args).exec host session =
      (.ok (.reference object), replied) :=
    exec_invoke_of_returns (cooperates.provides _) cooperates.clears.check quiet returns
  rw [accessOrFail, exec_bind_of_ok (exec_attempt _ host session), answered,
    exec_bind_of_ok (exec_failOnException_of_none cooperates.clears still)]
  exact exec_bind_of_ok (exec_resume _ host _) _

theorem accessOrFail_of_throws (cooperates : host.Cooperates)
    (throws : (receiver.respond? method.name).getD
      (host.invoke session.history receiver method args) = .throws exception) :
    ∃ fault last, (accessOrFail receiver method args).exec host session = (.error fault, last) := by
  let replied :=
    { session.record (.access receiver method args) with pending := some exception }.record
      .exceptionCheck
  have pending : replied.pending = some exception := rfl
  have answered : (access receiver method args).exec host session =
      (.error (.jni .exceptionThrown), replied) :=
    exec_invoke_of_throws (cooperates.provides _) cooperates.clears.check throws
  rcases failOnException_of_some cooperates.clears pending with ⟨fault, last, failed⟩
  refine ⟨fault, last, ?_⟩
  rw [accessOrFail, exec_bind_of_ok (exec_attempt _ host session), answered]
  exact exec_bind_of_error failed _

end Accessor

theorem exec_readFloats (cooperates : host.Cooperates) (quiet : session.IsQuiet) (array : Object) :
    (readFloats array).exec host session =
      (.ok array.elements, (session.record (.readFloats array)).record .exceptionCheck) := by
  have still : (session.record (.readFloats array)).IsQuiet := quiet
  rw [readFloats, exec_bind, exec_request, if_pos (cooperates.provides _)]
  dsimp only
  rw [exec_bind_of_ok (exec_check_of_none cooperates.clears.check still)]
  exact exec_pure _ host _

/-- What comes of the array of components that a colour answered with. -/
theorem readComponents_yields (cooperates : host.Cooperates) (quiet : session.IsQuiet)
    (values : List Binary32) :
    ∃ outcome last, Jni.exec (do
        let length ← arrayLength (.floats values)
        match Rgba.ofComponents? values with
        | none =>
          throw (.internal
            ("Color#getRGBComponents returned " ++ toString length ++ " components"))
        | some color =>
          let _ ← readFloats (.floats values)
          return color) host session = (outcome, last) ∧
      (ColorAnswer.components values).Yields (outcome.map .color) ∧ last.IsQuiet := by
  have measured : (arrayLength (.floats values)).exec host session =
      (.ok values.length, session.record (.arrayLength (.floats values))) := by
    rw [arrayLength, exec_request, if_pos (cooperates.provides _)]
    rfl
  have still : (session.record (.arrayLength (.floats values))).IsQuiet := quiet
  rw [exec_bind_of_ok measured]
  cases read : Rgba.ofComponents? values with
  | none =>
      exact ⟨_, _, exec_throw _ host _, .misshapen (Rgba.ofComponents?_eq_none_iff.mp read), still⟩
  | some color =>
      rw [Rgba.ofComponents?_eq_some_iff] at read
      subst read
      have copied := exec_readFloats cooperates still (.floats color.components)
      exact ⟨.ok color, _, exec_bind_of_ok copied _, .colored color, still⟩

/-- Reading a colour has the outcome that its answer calls for, and leaves nothing pending unless
the colour threw. -/
theorem readColor_yields (cooperates : host.Cooperates) (quiet : session.IsQuiet)
    (genuine : session.HasGenuineColor)
    (finds : session.shared.color = none → host.FindsColors) (shown : ColorAnswer) :
    ∃ outcome last, (readColor (.color shown)).exec host session = (outcome, last) ∧
      shown.Yields (outcome.map .color) ∧
      (last.IsQuiet ∨ ∃ exception, shown = .throws exception) := by
  rcases exec_colorClass cooperates quiet finds with ⟨color, found, ran, still⟩
  have responds := shown.respond_eq
  rw [readColor, exec_bind_of_ok ran, colorClass_genuine genuine ran]
  cases shown with
  | components values =>
      rcases exec_accessOrFail_of_returns cooperates still
        (congrArg (Option.getD · _) responds) with ⟨asked, answered, silent⟩
      rcases readComponents_yields cooperates silent values with
        ⟨outcome, last, copied, yields, quietly⟩
      exact ⟨outcome, last, (exec_bind_of_ok answered _).trans copied, yields, .inl quietly⟩
  | null =>
      rcases exec_accessOrFail_of_returns cooperates still
        (congrArg (Option.getD · _) responds) with ⟨asked, answered, silent⟩
      exact ⟨_, asked, exec_bind_of_ok answered _, .absent, .inl silent⟩
  | throws exception =>
      rcases accessOrFail_of_throws cooperates (congrArg (Option.getD · _) responds) with
        ⟨fault, last, failed⟩
      exact ⟨.error fault, last, exec_bind_of_error failed _, .thrown fault, .inr ⟨_, rfl⟩⟩

/-- A colour that a method returned is read. -/
theorem convertResult_yields (cooperates : host.Cooperates) (quiet : session.IsQuiet)
    (genuine : session.HasGenuineColor)
    (finds : session.shared.color = none → host.FindsColors) {method : Method}
    (planned : method.result = .color) (shown : ColorAnswer) :
    ∃ outcome last, (convertResult method (.reference (some (.color shown)))).exec host session =
        (outcome, last) ∧
      shown.Yields outcome ∧ (last.IsQuiet ∨ ∃ exception, shown = .throws exception) := by
  rcases readColor_yields cooperates quiet genuine finds shown with
    ⟨outcome, last, ran, yields, quietly⟩
  refine ⟨outcome.map .color, last, ?_, yields, quietly⟩
  rw [convertResult, planned]
  rcases outcome with fault | color
  · exact exec_bind_of_error ran _
  · exact exec_bind_of_ok ran _

end Jni

/-! ## Colours that are returned and passed -/

namespace Operation

/-- A colour that is returned as a colour is read. -/
theorem Returns.color (serves : host.Serves) (quiet : session.IsQuiet)
    (genuine : session.HasGenuineColor)
    (finds : session.shared.color = none → host.FindsColors) {shown : ColorAnswer}
    (returns : operation.Returns host proxy session .color (some (.color shown)))
    (ran : (operation.perform proxy).exec host session = ((answer, next), after)) :
    ∃ outcome, answer = operation.report outcome ∧ shown.Yields outcome := by
  rcases returns with @⟨method, _, prepared, planned, reference, returned⟩
  rcases prepared.reaches serves quiet with ⟨raws, called, reaches⟩
  rcases reaches.exec_callOnce_of_returns serves.toCooperates (reaches.quiet serves quiet)
    (returned reaches) with ⟨checked, still, same, entered⟩
  -- Converting the arguments may have looked the class of colours up already.
  have framedGenuine : (session.framed host proxy.config.frameCapacity).HasGenuineColor := genuine
  have calledGenuine : called.HasGenuineColor :=
    (Session.HasGenuineColor.sustained.endures.convertFrom method 0 method.params
      operation.args).after framedGenuine reaches.converted
  have checkedFinds : checked.shared.color = none → host.FindsColors := by
    intro unknown
    exact finds (reaches.advances.color_unknown (same ▸ unknown))
  have checkedGenuine : checked.HasGenuineColor := by
    intro color known
    exact calledGenuine color (same ▸ known)
  rcases Jni.convertResult_yields serves.toCooperates still checkedGenuine checkedFinds planned
    shown with ⟨outcome, left, read, yields, quietly⟩
  rw [Descriptor.callKind_of_isReference reference] at entered
  have ended := entered.trans read
  rcases outcome with fault | value
  · rcases quietly with silent | ⟨exception, rfl⟩
    · exact ⟨_, reaches.answer_of_quiet serves.toCooperates ran ended silent, yields⟩
    · -- What is still pending when the call fails replaces its fault.
      rcases reaches.answer_of_error serves.toCooperates ran ended with ⟨fault, told⟩
      exact ⟨_, told, .thrown fault⟩
  · exact ⟨_, reaches.answer_of_ok serves.toCooperates ran ended, yields⟩

/-- What is passed for a colour is a colour with the same components. -/
theorem Echoes.color {color : Rgba}
    (echoes : operation.Echoes host proxy session .color (.color color)) :
    operation.Returns host proxy session .color
      (some (.color (.components color.components))) := by
  apply echoes.returns
  intro method index before left raw converted
  rw [Jni.convertArgument] at converted
  exact Jni.reference_of_made Jni.makeColor_eq_ok converted

/-- A colour that is passed and returned comes back as it was. Any colour that is returned is read
if it tells four components, and otherwise fails the call. -/
theorem color_round_trip (serves : host.Serves) (quiet : session.pending = none)
    (genuine : session.HasGenuineColor)
    (finds : session.shared.color = none → host.FindsColors)
    (ran : (operation.perform proxy).exec host session = ((answer, next), after)) :
    (∀ color, operation.Echoes host proxy session .color (.color color) →
      answer = operation.report (.ok (.color color))) ∧
    ∀ shown, operation.Returns host proxy session .color (some (.color shown)) →
      ∃ outcome, answer = operation.report outcome ∧ shown.Yields outcome := by
  refine ⟨?passed, ?returned⟩
  case passed =>
    intro color echoes
    rcases echoes.color.color serves quiet genuine finds ran with ⟨outcome, told, yields⟩
    rw [told, yields.eq_ok]
  case returned =>
    intro shown returns
    exact returns.color serves quiet genuine finds ran

end Operation

/-! ## A colour that is returned, and one that lacks a component -/

/-- A method that takes a colour and returns one. -/
def Method.tinting : Method where
  selector := ⟨"tint", ⟨[.object Descriptor.colorClass], .object Descriptor.colorClass⟩⟩
  params := [.color]
  result := .color
  mode := .byValue
  flagsFailure := false

/-- A method that returns a colour. -/
def Method.shading : Method where
  selector := ⟨"shade", ⟨[], .object Descriptor.colorClass⟩⟩
  params := []
  result := .color
  mode := .byValue
  flagsFailure := false

/-- One method of the target returns its argument, the other a colour with three components. -/
def Script.tinting : Script where
  methods := [
    { name := "tint"
      signature := "(Ljava/awt/Color;)Ljava/awt/Color;"
      outcomes := [.argument 0] },
    { name := "shade"
      signature := "()Ljava/awt/Color;"
      outcomes := [.returns (.reference (some (.color (.components [.zero, .zero, .zero]))))] }]

/-- A proxy for the target of `Script.tinting`. -/
def Proxy.tinting : Proxy where
  target := ⟨0, .plain "target"⟩
  targetClass := ⟨1, .loadedClass "Target"⟩
  interface := { name := "Tinting", methods := [.tinting, .shading] }
  bindings := [
    ⟨Method.tinting.selector,
      some ⟨"Target", "tint", "(Ljava/awt/Color;)Ljava/awt/Color;"⟩⟩,
    ⟨Method.shading.selector, some ⟨"Target", "shade", "()Ljava/awt/Color;"⟩⟩]
  slots := [none, none]
  config := {}

/-- A NaN with a payload, a negative zero, an infinity and the least positive number. -/
def Rgba.odd : Rgba :=
  ⟨⟨0x7FC12345⟩, ⟨0x80000000⟩, ⟨0x7F800000⟩, ⟨1⟩⟩

theorem Operation.odd_color_round_trip :
    (invoke 0 [.color .odd]).Echoes Script.tinting.host .tinting {} .color (.color .odd) ∧
      (∃ next after, ((invoke 0 [.color .odd]).perform .tinting).exec Script.tinting.host {} =
        ((.outcome (.ok (.color .odd)), next), after)) ∧
      (invoke 1 []).Returns Script.tinting.host .tinting {} .color
        (some (.color (.components [.zero, .zero, .zero]))) ∧
      ∃ outcome next after, ((invoke 1 []).perform .tinting).exec Script.tinting.host {} =
          ((.outcome outcome, next), after) ∧
        (ColorAnswer.components [.zero, .zero, .zero]).Yields outcome := by
  have serves : Script.tinting.host.Serves := Script.host_serves rfl rfl rfl
  have genuine : ({} : Session).HasGenuineColor := by
    rintro color ⟨⟩
  have finds : ({} : Session).shared.color = none → Script.tinting.host.FindsColors :=
    fun _ => Script.host_findsColors rfl (by decide)
  have echoes : (invoke 0 [.color .odd]).Echoes Script.tinting.host .tinting {} .color
      (.color .odd) := by
    have makes : Script.tinting.host.Makes {} (.color .odd) := ⟨finds, fun _ => rfl⟩
    have parameter : Method.tinting.params[0]? = some .color := rfl
    refine .intro ⟨rfl, rfl, List.forall_mem_singleton.mpr makes⟩ rfl rfl parameter rfl ?_
    intro raws called raw _ passed
    rw [Script.answer_of_single rfl rfl rfl, ScriptedOutcome.outcome, passed, Option.getD_some]
  have returns : (invoke 1 []).Returns Script.tinting.host .tinting {} .color
      (some (.color (.components [.zero, .zero, .zero]))) := by
    refine .intro ⟨rfl, rfl, List.forall_mem_nil _⟩ rfl rfl ?_
    intro raws called _
    rw [Script.answer_of_single rfl rfl rfl]
    rfl
  refine ⟨echoes, ?_, returns, ?_⟩
  · rcases ran : ((invoke 0 [.color .odd]).perform .tinting).exec Script.tinting.host {} with
      ⟨⟨answer, next⟩, after⟩
    have told := (color_round_trip serves rfl genuine finds ran).1 _ echoes
    exact ⟨next, after, told ▸ rfl⟩
  · rcases ran : ((invoke 1 []).perform .tinting).exec Script.tinting.host {} with
      ⟨⟨answer, next⟩, after⟩
    rcases (color_round_trip serves rfl genuine finds ran).2 _ returns with ⟨outcome, told, yields⟩
    exact ⟨outcome, next, after, told ▸ rfl, yields⟩

end NativeProxy
