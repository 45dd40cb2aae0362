import NativeProxy.Proofs.ReachedCalls
import NativeProxy.Proofs.Text.ModifiedUtf8

/-!
# Text that crosses and comes back

A text passed for an argument becomes a string with its units, and a string that a method returns is
read as a text. A method that returns the string it was passed therefore returns the text; a string
of well-formed units that is read and passed again is made of the same units. The bytes that carry
the text in between are those of `ModifiedUtf8`.
-/

namespace NativeProxy

variable {host : Host} {proxy next : Proxy} {session after : Session} {operation : Operation}
  {answer : Answer}

namespace Jni

/-- A string that is made of a text while nothing is pending has the units of the text. -/
theorem exec_convertArgument_text (cooperates : host.Cooperates) (quiet : session.IsQuiet)
    {text : String} (given : host.newString session.history (Units.ofText text) = .given)
    (method : Method) (index : Nat) :
    (convertArgument method index .text (.text text)).exec host session =
      (.ok (.reference (some (.string (Units.ofText text)))),
        (session.record (.newString (Units.ofText text))).record .exceptionCheck) := by
  have made : (newString text).exec host session =
      (.ok (.string (Units.ofText text)),
        (session.record (.newString (Units.ofText text))).record .exceptionCheck) := by
    rw [newString, exec_bind_of_ok (exec_acquire_of_given (cooperates.provides _)
      cooperates.clears.check given quiet)]
    exact exec_pure _ host _
  rw [convertArgument, exec_bind_of_ok made]
  exact exec_pure _ host _

/-- A string that a method returned is read while nothing is pending. -/
theorem exec_convertResult_text (cooperates : host.Cooperates) (quiet : session.IsQuiet)
    {method : Method} (planned : method.result = .text) (units : Units) :
    ∃ left, (convertResult method (.reference (some (.string units)))).exec host session =
      (.ok (.text units.toText), left) := by
  rcases readText_obtains cooperates units session quiet with ⟨_, left, ran, rfl, _⟩
  refine ⟨left, ?_⟩
  rw [convertResult, planned]
  exact exec_bind_of_ok ran _

end Jni

namespace Operation

/-- A string that is returned as a text is read. -/
theorem Returns.text (serves : host.Serves) (quiet : session.IsQuiet) {units : Units}
    (returns : operation.Returns host proxy session .text (some (.string units)))
    (ran : (operation.perform proxy).exec host session = ((answer, next), after)) :
    answer = operation.report (.ok (.text units.toText)) := by
  rcases returns with ⟨prepared, planned, reference, returned⟩
  rcases prepared.reaches serves quiet with ⟨raws, _, reaches⟩
  rcases reaches.exec_callOnce_of_returns serves.toCooperates (reaches.quiet serves quiet)
    (returned reaches) with ⟨checked, still, _, called⟩
  rcases Jni.exec_convertResult_text serves.toCooperates still planned units with ⟨left, read⟩
  rw [Descriptor.callKind_of_isReference reference] at called
  exact reaches.answer_of_ok serves.toCooperates ran (called.trans read)

/-- What is passed for a text is a string with the units of the text. -/
theorem Echoes.text {text : String}
    (echoes : operation.Echoes host proxy session .text (.text text)) :
    operation.Returns host proxy session .text (some (.string (Units.ofText text))) := by
  apply echoes.returns
  intro method index before left raw converted
  rw [Jni.convertArgument] at converted
  exact Jni.reference_of_made Jni.newString_eq_ok converted

/-- A text that is passed and returned comes back as it was, and so do the units of a well-formed
string that is returned and passed. The bytes in between are read as what they were written for. -/
theorem text_round_trip (serves : host.Serves) (quiet : session.pending = none)
    (ran : (operation.perform proxy).exec host session = ((answer, next), after)) :
    (∀ text, operation.Echoes host proxy session .text (.text text) →
      answer = operation.report (.ok (.text text)) ∧
        ModifiedUtf8.toUnits? (ModifiedUtf8.ofText text) = some (Units.ofText text) ∧
        ModifiedUtf8.toText? (ModifiedUtf8.ofUnits (Units.ofText text)) = some text) ∧
    ∀ units : Units, units.IsWellFormed →
      operation.Returns host proxy session .text (some (.string units)) →
      ∃ text, answer = operation.report (.ok (.text text)) ∧
        ModifiedUtf8.toText? (ModifiedUtf8.ofUnits units) = some text ∧
        ModifiedUtf8.toUnits? (ModifiedUtf8.ofText text) = some units ∧
        ∀ (start : Session) (method : Method) (index : Nat), start.pending = none →
          host.newString start.history units = .given →
          ∃ last, (Jni.convertArgument method index .text (.text text)).exec host start =
              (.ok (.reference (some (.string units))), last) ∧
            last.history = start.history ++ [.newString units, .exceptionCheck] := by
  refine ⟨?passed, ?returned⟩
  case passed =>
    intro text echoes
    refine ⟨?_, ModifiedUtf8.toUnits?_ofText text, ?_⟩
    · rw [echoes.text.text serves quiet ran, Units.toText_ofText]
    · rw [ModifiedUtf8.toText?_of_wellFormed (Units.ofText_wellFormed text), Units.toText_ofText]
  case returned =>
    intro units wellFormed returns
    refine ⟨units.toText, returns.text serves quiet ran,
      ModifiedUtf8.toText?_of_wellFormed wellFormed, ?_, ?_⟩
    · rw [ModifiedUtf8.toUnits?_ofText, wellFormed.ofText_toText]
    · intro start method index still given
      rw [← wellFormed.ofText_toText] at given
      have converted := Jni.exec_convertArgument_text serves.toCooperates still given method index
      rw [wellFormed.ofText_toText] at converted
      refine ⟨_, converted, ?_⟩
      simp [Session.record]

end Operation

/-! ## A method that returns its argument -/

/-- A method that takes a string and returns one. -/
def Method.echoing : Method where
  selector := ⟨"echo", ⟨[.object Descriptor.stringClass], .object Descriptor.stringClass⟩⟩
  params := [.text]
  result := .text
  mode := .byValue
  flagsFailure := false

/-- The only method of the target returns its argument. -/
def Script.echoing : Script where
  methods := [{
    name := "echo"
    signature := "(Ljava/lang/String;)Ljava/lang/String;"
    outcomes := [.argument 0] }]

/-- A proxy for the target of `Script.echoing`. -/
def Proxy.echoing : Proxy where
  target := ⟨0, .plain "target"⟩
  targetClass := ⟨1, .loadedClass "Target"⟩
  interface := { name := "Echoing", methods := [.echoing] }
  bindings := [⟨Method.echoing.selector,
    some ⟨"Target", "echo", "(Ljava/lang/String;)Ljava/lang/String;"⟩⟩]
  slots := [none]
  config := {}

/-- A text with a zero and with characters of one, two, three and four bytes. -/
def Value.manifold : String :=
  "a\x00é€😀"

theorem Operation.manifold_round_trip :
    (invoke 0 [.text Value.manifold]).Echoes Script.echoing.host .echoing {} .text
        (.text Value.manifold) ∧
      (Units.ofText Value.manifold).IsWellFormed ∧
      ∃ answer next after,
        ((invoke 0 [.text Value.manifold]).perform .echoing).exec Script.echoing.host {} =
          ((answer, next), after) ∧
        answer = .outcome (.ok (.text Value.manifold)) ∧
        ∃ text, answer = .outcome (.ok (.text text)) ∧
          ∃ last, (Jni.convertArgument .echoing 0 .text (.text text)).exec Script.echoing.host {} =
            (.ok (.reference (some (.string (Units.ofText Value.manifold)))), last) := by
  have echoes : (invoke 0 [.text Value.manifold]).Echoes Script.echoing.host .echoing {} .text
      (.text Value.manifold) := by
    have makes : Script.echoing.host.Makes {} (.text Value.manifold) := fun _ => rfl
    have parameter : Method.echoing.params[0]? = some .text := rfl
    refine .intro ⟨rfl, rfl, List.forall_mem_singleton.mpr makes⟩ rfl rfl parameter rfl ?_
    intro raws called raw _ passed
    rw [Script.answer_of_single rfl rfl rfl, ScriptedOutcome.outcome, passed, Option.getD_some]
  have wellFormed := Units.ofText_wellFormed Value.manifold
  rcases ran : ((invoke 0 [.text Value.manifold]).perform .echoing).exec Script.echoing.host {} with
    ⟨⟨answer, next⟩, after⟩
  have crossed := text_round_trip (Script.host_serves rfl rfl rfl) rfl ran
  rcases crossed.2 _ wellFormed echoes.text with ⟨text, told, _, _, passed⟩
  rcases passed {} .echoing 0 rfl rfl with ⟨last, converted, _⟩
  exact ⟨echoes, wellFormed, answer, next, after, rfl, (crossed.1 _ echoes).1, text, told, last,
    converted⟩

end NativeProxy
