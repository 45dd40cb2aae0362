import NativeProxy.Caches

/-!
# Executing operations

An operation is a function of the host and of the session it starts from. `exec` applies it, and
the equations below run the building blocks of operations one at a time. `Keeps` carries a fact
through an operation without running it: a property of sessions that holds after the operation
if it held before, whatever the outcome.
-/

namespace NativeProxy

namespace Native

variable {α β : Type} {host : Host} {property : Session → Prop}

/-- Runs an operation: its result and the session it leaves. -/
def exec (operation : Native α) (host : Host) (session : Session) : α × Session :=
  (operation.run host).run session

@[simp]
theorem exec_pure (result : α) (host : Host) (session : Session) :
    (pure result : Native α).exec host session = (result, session) :=
  rfl

theorem exec_bind (operation : Native α) (next : α → Native β) (host : Host)
    (session : Session) :
    (operation >>= next).exec host session =
      (next (operation.exec host session).1).exec host (operation.exec host session).2 :=
  rfl

@[simp]
theorem exec_get (host : Host) (session : Session) :
    (get : Native Session).exec host session = (session, session) :=
  rfl

@[simp]
theorem exec_set (host : Host) (session next : Session) :
    (set next : Native PUnit).exec host session = (⟨⟩, next) :=
  rfl

@[simp]
theorem exec_read (host : Host) (session : Session) :
    (read : Native Host).exec host session = (host, session) :=
  rfl

theorem exec_status (kind : StatusRequest) (event : Event) (host : Host) (session : Session) :
    (status kind event).exec host session =
      ((host.status session.history kind).code,
        { session.record event with
          pending := (host.status session.history kind).exception.or session.pending }) := by
  rw [status]
  simp only [exec_bind, exec_read, exec_get, exec_set]
  rcases (host.status session.history kind).exception with _ | exception <;> rfl

/-- The session keeps the property, whatever the operation does. -/
def Keeps (host : Host) (property : Session → Prop) (operation : Native α) : Prop :=
  ∀ session, property session → property (operation.exec host session).2

namespace Keeps

theorem after {operation : Native α} {session left : Session} {result : α}
    (kept : Keeps host property operation) (holds : property session)
    (ran : operation.exec host session = (result, left)) : property left := by
  have still := kept session holds
  rw [ran] at still
  exact still

theorem pure (result : α) : Keeps host property (Pure.pure result : Native α) := by
  intro session holds
  exact holds

theorem bind {operation : Native α} {next : α → Native β}
    (first : Keeps host property operation)
    (rest : ∀ result, Keeps host property (next result)) :
    Keeps host property (operation >>= next) := by
  intro session holds
  rw [exec_bind]
  apply rest
  exact first session holds

theorem and {other : Session → Prop} {operation : Native α}
    (left : Keeps host property operation) (right : Keeps host other operation) :
    Keeps host (fun session => property session ∧ other session) operation := by
  rintro session ⟨holds, alsoHolds⟩
  exact ⟨left session holds, right session alsoHolds⟩

theorem forM {operation : α → Native PUnit} (each : ∀ item, Keeps host property (operation item))
    (items : List α) : Keeps host property (items.forM operation) := by
  induction items with
  | nil => exact pure _
  | cons item items ih => exact (each item).bind fun _ => ih

theorem forIn {items : List α} {start : β} {step : α → β → Native (ForInStep β)}
    (each : ∀ item state, Keeps host property (step item state)) :
    Keeps host property (forIn items start step) := by
  induction items generalizing start with
  | nil => exact pure _
  | cons item items ih =>
      rw [List.forIn_cons]
      apply (each item start).bind
      intro next
      cases next with
      | done state => exact pure _
      | yield state => exact ih

end Keeps

end Native

namespace Jni

variable {α β : Type} {host : Host} {property : Session → Prop}

/-- Runs an operation: its result or its fault, and the session it leaves. -/
def exec (operation : Jni α) (host : Host) (session : Session) : Except Fault α × Session :=
  Native.exec operation.run host session

@[simp]
theorem exec_pure (result : α) (host : Host) (session : Session) :
    (pure result : Jni α).exec host session = (.ok result, session) :=
  rfl

theorem exec_bind (operation : Jni α) (next : α → Jni β) (host : Host) (session : Session) :
    (operation >>= next).exec host session =
      match operation.exec host session with
      | (.ok result, after) => (next result).exec host after
      | (.error fault, after) => (.error fault, after) := by
  change Native.exec (operation.run >>= ExceptT.bindCont next) host session = _
  rw [Native.exec_bind]
  change _ = match Native.exec operation.run host session with
    | (.ok result, after) => (next result).exec host after
    | (.error fault, after) => (.error fault, after)
  rcases operation.run.exec host session with ⟨fault | result, after⟩ <;> rfl

theorem exec_map (change : α → β) (operation : Jni α) (host : Host) (session : Session) :
    (change <$> operation).exec host session =
      match operation.exec host session with
      | (.ok result, after) => (.ok (change result), after)
      | (.error fault, after) => (.error fault, after) := by
  rw [← bind_pure_comp, exec_bind]
  rfl

theorem exec_bind_of_ok {operation : Jni α} {host : Host} {session after : Session} {result : α}
    (run : operation.exec host session = (.ok result, after)) (next : α → Jni β) :
    (operation >>= next).exec host session = (next result).exec host after := by
  rw [exec_bind, run]

theorem exec_bind_of_error {operation : Jni α} {host : Host} {session after : Session}
    {fault : Fault} (run : operation.exec host session = (.error fault, after))
    (next : α → Jni β) : (operation >>= next).exec host session = (.error fault, after) := by
  rw [exec_bind, run]

/-- What a sequence that succeeded did first, and then. -/
theorem exec_bind_eq_ok {operation : Jni α} {next : α → Jni β} {session after : Session}
    {result : β} (run : (operation >>= next).exec host session = (.ok result, after)) :
    ∃ middle between, operation.exec host session = (.ok middle, between) ∧
      (next middle).exec host between = (.ok result, after) := by
  rw [exec_bind] at run
  rcases first : operation.exec host session with ⟨fault | middle, between⟩
  · rw [first] at run
    exact absurd run (by simp)
  · rw [first] at run
    exact ⟨middle, between, rfl, run⟩

/-- What is done before a given result is returned has no influence on it. -/
theorem exec_bind_pure_eq_ok {operation : Jni α} {given result : β} {session after : Session}
    (run : (operation >>= fun _ => pure given).exec host session = (.ok result, after)) :
    result = given := by
  rcases exec_bind_eq_ok run with ⟨_, between, _, ending⟩
  cases ending
  rfl

@[simp]
theorem exec_throw (fault : Fault) (host : Host) (session : Session) :
    (throw fault : Jni α).exec host session = (.error fault, session) :=
  rfl

@[simp]
theorem exec_fail (fault : JniFault) (host : Host) (session : Session) :
    (fail fault : Jni α).exec host session = (.error (.jni fault), session) :=
  rfl

@[simp]
theorem exec_lift (operation : Native α) (host : Host) (session : Session) :
    (liftM operation : Jni α).exec host session =
      (.ok (operation.exec host session).1, (operation.exec host session).2) :=
  rfl

@[simp]
theorem exec_get (host : Host) (session : Session) :
    (get : Jni Session).exec host session = (.ok session, session) :=
  rfl

@[simp]
theorem exec_attempt (operation : Jni α) (host : Host) (session : Session) :
    (attempt operation).exec host session =
      (.ok (operation.exec host session).1, (operation.exec host session).2) :=
  rfl

@[simp]
theorem exec_resume (outcome : Except Fault α) (host : Host) (session : Session) :
    (resume outcome).exec host session = (outcome, session) :=
  rfl

@[simp]
theorem exec_read (host : Host) (session : Session) :
    (read : Jni Host).exec host session = (.ok host, session) :=
  rfl

@[simp]
theorem exec_set (host : Host) (session next : Session) :
    (set next : Jni PUnit).exec host session = (.ok ⟨⟩, next) :=
  rfl

@[simp]
theorem exec_modify (change : Session → Session) (host : Host) (session : Session) :
    (modify change : Jni PUnit).exec host session = (.ok ⟨⟩, change session) :=
  rfl

theorem exec_request (function : Function) (event : Event) (answer : Host → History → α)
    (host : Host) (session : Session) :
    (request function event answer).exec host session =
      if host.provides function then
        (.ok (answer host session.history), session.record event)
      else (.error (.jni (.missingFunction function.name)), session) := by
  rw [request]
  simp only [exec_bind, exec_read]
  split
  · simp only [exec_bind, exec_get, exec_set, exec_pure]
  · exact exec_fail _ host session

theorem exec_requestStatus (function : Function) (kind : StatusRequest) (event : Event)
    (host : Host) (session : Session) :
    (requestStatus function kind event).exec host session =
      if host.provides function then
        (.ok (host.status session.history kind).code,
          { session.record event with
            pending := (host.status session.history kind).exception.or session.pending })
      else (.error (.jni (.missingFunction function.name)), session) := by
  rw [requestStatus]
  simp only [exec_bind, exec_read]
  split
  · simp only [exec_lift, Native.exec_status]
  · exact exec_fail _ host session

section Cached

variable {kept? : SharedState → Option α} {keep : α → SharedState → SharedState}
  {resolve : Jni α} {session : Session}

theorem exec_cached_of_some {known : α} (found : kept? session.shared = some known) :
    (cached kept? keep resolve).exec host session = (.ok known, session) := by
  rw [cached, exec_bind_of_ok (exec_get host session), found]
  rfl

/-- What is not kept is resolved, and kept if that succeeds. -/
theorem exec_cached_of_none (unknown : kept? session.shared = none) :
    (cached kept? keep resolve).exec host session =
      match resolve.exec host session with
      | (.ok found, after) => (.ok found, { after with shared := keep found after.shared })
      | (.error fault, after) => (.error fault, after) := by
  rw [cached, exec_bind_of_ok (exec_get host session), unknown]
  dsimp only
  rw [exec_bind]
  rfl

/-- An answer was kept before, or was resolved and is kept now. -/
theorem exec_cached_eq_ok {answer : α} {after : Session}
    (run : (cached kept? keep resolve).exec host session = (.ok answer, after)) :
    (kept? session.shared = some answer ∧ after = session) ∨
      ∃ between, resolve.exec host session = (.ok answer, between) ∧
        after = { between with shared := keep answer between.shared } := by
  cases known : kept? session.shared with
  | some kept =>
      rw [exec_cached_of_some known] at run
      cases run
      exact .inl ⟨rfl, rfl⟩
  | none =>
      rw [exec_cached_of_none known] at run
      rcases resolved : resolve.exec host session with ⟨fault | found, between⟩
      · rw [resolved] at run
        cases run
      · rw [resolved] at run
        cases run
        exact .inr ⟨between, rfl, rfl⟩

end Cached

/-- The session keeps the property, whatever the operation does and however it ends. -/
def Keeps (host : Host) (property : Session → Prop) (operation : Jni α) : Prop :=
  ∀ session, property session → property (operation.exec host session).2

namespace Keeps

theorem after {operation : Jni α} {session left : Session} {outcome : Except Fault α}
    (kept : Keeps host property operation) (holds : property session)
    (ran : operation.exec host session = (outcome, left)) : property left :=
  Native.Keeps.after kept holds ran

theorem pure (result : α) : Keeps host property (Pure.pure result : Jni α) := by
  intro session holds
  exact holds

theorem throw (fault : Fault) : Keeps host property (throw fault : Jni α) := by
  intro session holds
  exact holds

theorem resume (outcome : Except Fault α) : Keeps host property (resume outcome) := by
  intro session holds
  exact holds

theorem lift {operation : Native α} (kept : Native.Keeps host property operation) :
    Keeps host property (liftM operation : Jni α) :=
  kept

theorem attempt {operation : Jni α} (kept : Keeps host property operation) :
    Keeps host property operation.attempt :=
  kept

theorem bind {operation : Jni α} {next : α → Jni β} (first : Keeps host property operation)
    (rest : ∀ result, Keeps host property (next result)) :
    Keeps host property (operation >>= next) := by
  intro session holds
  rw [exec_bind]
  rcases run : operation.exec host session with ⟨fault | result, between⟩
  · exact first.after holds run
  · exact rest result between (first.after holds run)

/-- What follows an operation may rely on the result that it found. -/
theorem bindFound {operation : Jni α} {next : α → Jni β} {found : α → Prop}
    (first : Keeps host property operation)
    (finds : ∀ {session after : Session} {result : α}, property session →
      operation.exec host session = (.ok result, after) → found result)
    (rest : ∀ result, found result → Keeps host property (next result)) :
    Keeps host property (operation >>= next) := by
  intro session holds
  rw [exec_bind]
  rcases run : operation.exec host session with ⟨fault | result, between⟩
  · exact first.after holds run
  · exact rest result (finds holds run) between (first.after holds run)

theorem and {other : Session → Prop} {operation : Jni α}
    (left : Keeps host property operation) (right : Keeps host other operation) :
    Keeps host (fun session => property session ∧ other session) operation :=
  Native.Keeps.and left right

/-- A sequence that starts by looking at the session may rely on what it sees. -/
theorem getThen {next : Session → Jni β}
    (rest : ∀ session, property session → property ((next session).exec host session).2) :
    Keeps host property (get >>= next) := by
  intro session holds
  rw [exec_bind_of_ok (exec_get host session)]
  exact rest session holds

theorem request {function : Function} {event : Event} {answer : Host → History → α}
    (recorded : ∀ session, property session → property (session.record event)) :
    Keeps host property (request function event answer) := by
  intro session holds
  rw [exec_request]
  split
  · exact recorded session holds
  · exact holds

/-- Keeping what was resolved is the one step in which the property may have to be shown anew. -/
theorem cached {kept? : SharedState → Option α} {keep : α → SharedState → SharedState}
    {resolve : Jni α} (resolved : Keeps host property resolve)
    (filled : ∀ {session after : Session} {found : α}, kept? session.shared = none →
      property session → resolve.exec host session = (.ok found, after) → property after →
        property { after with shared := keep found after.shared }) :
    Keeps host property (cached kept? keep resolve) := by
  intro session holds
  cases kept : kept? session.shared with
  | some known =>
      rw [exec_cached_of_some kept]
      exact holds
  | none =>
      rw [exec_cached_of_none kept]
      rcases ran : resolve.exec host session with ⟨fault | found, after⟩
      · exact resolved.after holds ran
      · exact filled kept holds ran (resolved.after holds ran)

theorem mapM {operation : α → Jni β} (each : ∀ item, Keeps host property (operation item))
    (items : List α) : Keeps host property (items.mapM operation) := by
  induction items with
  | nil => exact pure []
  | cons item items ih =>
      rw [List.mapM_cons]
      exact (each item).bind fun _ => ih.bind fun _ => pure _

end Keeps

end Jni

/-! ## Operations around operations -/

section Around

variable {α : Type} {host : Host} {property : Session → Prop}

theorem Native.releaseAll_keeps
    (released : ∀ ref, Native.Keeps host property (Native.release ref)) (refs : List GlobalRef) :
    Native.Keeps host property (Native.releaseAll refs) :=
  Native.Keeps.forM released refs

namespace Jni

theorem releasingOnFault_keeps
    (released : ∀ ref, Native.Keeps host property (Native.release ref)) (refs : List GlobalRef)
    {operation : Jni α} (kept : Keeps host property operation) :
    Keeps host property (releasingOnFault refs operation) := by
  rw [releasingOnFault]
  apply Keeps.bind kept.attempt
  intro outcome
  cases outcome with
  | ok result => exact (Keeps.pure _).bind fun _ => Keeps.resume _
  | error fault =>
      apply Keeps.bind (Keeps.lift (Native.releaseAll_keeps released refs))
      intro _
      exact Keeps.resume _

/-- What a frame that was made goes on with. -/
theorem leavingFrame_keeps (released : ∀ ref, Native.Keeps host property (Native.release ref))
    (popped : ∀ session, property session → property (session.record .popFrame))
    (held : α → List GlobalRef) {operation : Jni α} (kept : Keeps host property operation) :
    Keeps host property (do
      let outcome ← attempt operation
      let popped ← attempt (request .popLocalFrame .popFrame fun _ _ => ())
      match popped with
      | .ok () => resume outcome
      | .error fault =>
        Native.releaseAll (match outcome with
          | .ok result => held result
          | .error lost => lost.refs)
        throw fault) := by
  apply Keeps.bind kept.attempt
  intro outcome
  apply Keeps.bind (Keeps.attempt (Keeps.request popped))
  intro popped
  cases popped with
  | ok _ => exact Keeps.resume outcome
  | error fault =>
      apply Keeps.bind (Keeps.lift (Native.releaseAll_keeps released _))
      intro _
      exact Keeps.throw fault

theorem withFrame_keeps (released : ∀ ref, Native.Keeps host property (Native.release ref))
    {capacity : Int} (pushed : Keeps host property
      (requestStatus .pushLocalFrame .pushLocalFrame (.pushFrame capacity)))
    (popped : ∀ session, property session → property (session.record .popFrame))
    (held : α → List GlobalRef) {operation : Jni α} (kept : Keeps host property operation) :
    Keeps host property (withFrame capacity held operation) := by
  rw [withFrame]
  apply Keeps.bind pushed
  intro code
  dsimp only
  split
  · exact leavingFrame_keeps released popped held kept
  · exact (Keeps.throw _).bind fun _ => leavingFrame_keeps released popped held kept

/-- An operation runs in its frame if the frame can be made. -/
theorem exec_withFrame (capacity : Int) (held : α → List GlobalRef) (operation : Jni α)
    (host : Host) (session : Session) :
    (withFrame capacity held operation).exec host session =
      match (requestStatus .pushLocalFrame .pushLocalFrame (.pushFrame capacity)).exec host
        session with
      | (.error fault, after) => (.error fault, after)
      | (.ok code, entered) =>
        if code = 0 then
          match operation.exec host entered with
          | (outcome, left) =>
            if host.provides .popLocalFrame then (outcome, left.record .popFrame)
            else
              (.error (.jni (.missingFunction Function.popLocalFrame.name)),
                ((Native.releaseAll (match outcome with
                  | .ok result => held result
                  | .error lost => lost.refs)).exec host left).2)
        else (.error (.jni .callFailed), entered) := by
  rw [withFrame, exec_bind]
  rcases (requestStatus .pushLocalFrame .pushLocalFrame (.pushFrame capacity)).exec host
    session with ⟨fault | code, entered⟩
  · rfl
  · dsimp only
    split
    · rw [exec_bind_of_ok (exec_attempt operation host entered)]
      rcases operation.exec host entered with ⟨outcome, left⟩
      by_cases provided : host.provides .popLocalFrame = true
      · simp [exec_bind, exec_request, provided]
      · cases outcome <;> simp [exec_bind, exec_request, provided]
    · rw [exec_bind_of_error (exec_fail .callFailed host entered)]

/-- What holds when an operation is done in its frame holds when the frame is left. -/
theorem withFrame_after (released : ∀ ref, Native.Keeps host property (Native.release ref))
    (popped : ∀ session, property session → property (session.record .popFrame))
    {capacity : Int} {held : α → List GlobalRef} {operation : Jni α} {session entered : Session}
    (pushed : (requestStatus .pushLocalFrame .pushLocalFrame (.pushFrame capacity)).exec host
      session = (.ok 0, entered))
    (holds : property (operation.exec host entered).2) :
    property ((withFrame capacity held operation).exec host session).2 := by
  rw [exec_withFrame, pushed]
  dsimp only
  rw [if_pos rfl]
  rcases ran : operation.exec host entered with ⟨outcome, left⟩
  rw [ran] at holds
  dsimp only
  split
  · exact popped left holds
  · exact Native.releaseAll_keeps released _ left holds

theorem withFrame_eq_ok {capacity : Int} {held : α → List GlobalRef} {operation : Jni α}
    {session after : Session} {result : α}
    (run : (withFrame capacity held operation).exec host session = (.ok result, after)) :
    ∃ entered left,
      (requestStatus .pushLocalFrame .pushLocalFrame (.pushFrame capacity)).exec host session =
        (.ok 0, entered) ∧
      operation.exec host entered = (.ok result, left) ∧ after = left.record .popFrame := by
  rw [exec_withFrame] at run
  split at run
  · exact absurd run (by simp)
  · next code entered requested =>
      rcases ran : operation.exec host entered with ⟨outcome, left⟩
      rw [ran] at run
      by_cases made : code = 0
      · by_cases provided : host.provides .popLocalFrame = true
        · simp only [made, provided, if_true, Prod.mk.injEq] at run
          rcases run with ⟨rfl, rfl⟩
          exact ⟨entered, left, made ▸ requested, ran, rfl⟩
        · simp [made, provided] at run
      · simp [made] at run

end Jni

end Around

end NativeProxy
