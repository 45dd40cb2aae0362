import NativeProxy.Proofs.Throwable

/-!
# What an exception is asked

Converting an exception asks it four questions, then asks the same of its cause, and so on down
the chain. `Converts` says what comes of it without saying how it is computed: a fault with the
name and the message, or the failure of the first question that has no usable answer. The
conversion of what a question throws is found by the same rule.
-/

namespace NativeProxy

/-! ## Questions -/

/-- An accessor called on a throwable or on its class. -/
structure Question where
  exception : Throwable
  accessor : Accessor

namespace Question

/-- What the question leaves in the history. -/
def event (question : Question) : Event :=
  .access (question.exception.receiver question.accessor) question.accessor.method []

/-- The accessor does not throw, and the name of a class is not null. -/
def IsSmooth (question : Question) : Prop :=
  question.exception.failure question.accessor = none ∧
    (question.accessor = .getName → question.exception.className ≠ none)

/-- All questions about a throwable itself. -/
def about (exception : Throwable) : List Question :=
  [⟨exception, .getClass⟩, ⟨exception, .getName⟩, ⟨exception, .getMessage⟩,
    ⟨exception, .getCause⟩]

end Question

namespace Throwable

/-- The causes, from the nearest on. -/
def causes : Throwable → List Throwable
  | ⟨_, _, _, cause, _, _, _, _⟩ =>
    match cause with
    | none => []
    | some inner => inner :: inner.causes
termination_by structural exception => exception

theorem causes_of_none {exception : Throwable} (last : exception.cause = none) :
    exception.causes = [] := by
  cases exception
  cases last
  rfl

theorem causes_of_some {exception inner : Throwable} (caused : exception.cause = some inner) :
    exception.causes = inner :: inner.causes := by
  cases exception
  cases caused
  rfl

/-- All questions about a throwable and its causes, in the order in which they are asked. -/
def questions (exception : Throwable) : List Question :=
  (exception :: exception.causes).flatMap Question.about

theorem questions_of_none {exception : Throwable} (last : exception.cause = none) :
    exception.questions = Question.about exception := by
  rw [questions, causes_of_none last]
  rfl

theorem questions_of_some {exception inner : Throwable} (caused : exception.cause = some inner) :
    exception.questions = Question.about exception ++ inner.questions := by
  rw [questions, causes_of_some caused]
  rfl

theorem about_prefix_questions (exception : Throwable) :
    ∃ rest, exception.questions = Question.about exception ++ rest :=
  ⟨exception.causes.flatMap Question.about, rfl⟩

/-- The name of the class of a throwable. -/
def nameText (exception : Throwable) : String :=
  (exception.className.getD []).toText

/-- The message of a throwable itself. -/
def messageText (exception : Throwable) : String :=
  match exception.message with
  | none => "null"
  | some units => units.toText

/-- How a cause is added to a message. -/
def attribution (cause : Throwable) : String :=
  "\nCaused by: " ++ cause.nameText ++ ": " ++ cause.messageText

/-- The message of a throwable and of all its causes. -/
def fullMessage (exception : Throwable) : String :=
  exception.messageText ++ String.join (exception.causes.map attribution)

theorem fullMessage_of_none {exception : Throwable} (last : exception.cause = none) :
    exception.fullMessage = exception.messageText := by
  rw [fullMessage, causes_of_none last, List.map_nil, String.join_nil, String.append_empty]

theorem fullMessage_of_some {exception inner : Throwable} (caused : exception.cause = some inner) :
    exception.fullMessage =
      exception.messageText ++ "\nCaused by: " ++ inner.nameText ++ ": " ++ inner.fullMessage := by
  rw [fullMessage, causes_of_some caused, List.map_cons, String.join_cons, attribution,
    fullMessage]
  simp only [String.append_assoc]

end Throwable

/-! ## What comes of an exception -/

/-- Converting the exception asks the given questions and has the given outcome. -/
inductive Converts : Throwable → List Question → Except Fault Fault → Prop where
  | described {exception : Throwable} {ref : GlobalRef}
      (smooth : ∀ question ∈ exception.questions, question.IsSmooth)
      (same : ref.object = .throwable exception) :
      Converts exception exception.questions
        (.ok (.thrown exception.nameText exception.fullMessage ref))
  | nameless {exception link : Throwable} {before after : List Question}
      (split : exception.questions = before ++ ⟨link, .getName⟩ :: after)
      (smooth : ∀ question ∈ before, question.IsSmooth) (answers : link.nameFailure = none)
      (null : link.className = none) :
      Converts exception (before ++ [⟨link, .getName⟩])
        (.error (.jni (.nullPointer "get_object_class")))
  | interrupted {exception thrown : Throwable} {question : Question}
      {before after asked : List Question} {outcome : Except Fault Fault} {fault : Fault}
      (split : exception.questions = before ++ question :: after)
      (smooth : ∀ question ∈ before, question.IsSmooth)
      (throws : question.exception.failure question.accessor = some thrown)
      (converts : Converts thrown asked outcome)
      (reported : outcome = .ok fault ∨ outcome = .error fault) :
      Converts exception (before ++ question :: asked) (.error fault)

/-- A failure to convert the cause is one to convert the exception, once its own questions are
answered. -/
theorem Converts.of_cause {exception inner : Throwable} (caused : exception.cause = some inner)
    (own : ∀ question ∈ Question.about exception, question.IsSmooth) {asked : List Question}
    {fault : Fault} (converts : Converts inner asked (.error fault)) :
    Converts exception (Question.about exception ++ asked) (.error fault) := by
  have smoothAfter {before : List Question} (smooth : ∀ question ∈ before, question.IsSmooth) :
      ∀ question ∈ Question.about exception ++ before, question.IsSmooth := by
    intro question among
    rcases List.mem_append.mp among with first | second
    · exact own question first
    · exact smooth question second
  have splitAfter {before after : List Question} {question : Question}
      (split : inner.questions = before ++ question :: after) :
      exception.questions = (Question.about exception ++ before) ++ question :: after := by
    rw [Throwable.questions_of_some caused, split, List.append_assoc]
  cases converts with
  | nameless split smooth answers null =>
      rw [← List.append_assoc]
      exact .nameless (splitAfter split) (smoothAfter smooth) answers null
  | interrupted split smooth throws converts reported =>
      rw [← List.append_assoc]
      exact .interrupted (splitAfter split) (smoothAfter smooth) throws converts reported

end NativeProxy
