import NativeProxy.Proofs.ExceptionConversion

/-!
# The class of colours

The class of colours is looked up when the first colour crosses and kept from then on. Where it can
be found, it is at hand whenever nothing is pending, and what it names as the accessor of components
is that accessor, in every session that began with a genuine class or with none.
-/

namespace NativeProxy

variable {host : Host} {session after : Session}

/-- The method that tells the components of a colour. -/
def ColorClass.accessor : MethodId :=
  ⟨Descriptor.colorClass, "getRGBComponents", "([F)[F"⟩

/-- The class of colours and its methods are found. -/
structure Host.FindsColors (host : Host) : Prop where
  colorClass : ∀ history, host.findClass history Descriptor.colorClass = .given
  methods : ∀ history, ∀ method ∈ ColorClass.methods, host.findMethod history method = .given

theorem Script.host_findsColors {script : Script} (found : script.missingClasses = [])
    (foreign : Descriptor.colorClass ≠ script.className) : script.host.FindsColors where
  colorClass history := by simp [host, found]
  methods history method listed := by
    have owned : method.owner = Descriptor.colorClass := by
      simp only [ColorClass.methods, List.mem_cons, List.not_mem_nil, or_false] at listed
      rcases listed with rfl | rfl <;> rfl
    simp [host, findMethod, owned, foreign]

/-- The class of colours, if it is known, has the accessor. -/
def Session.HasGenuineColor (session : Session) : Prop :=
  ∀ color, session.shared.color = some color → color.getComponents = ColorClass.accessor

namespace Jni

theorem resolveColorClass_genuine {color : ColorClass}
    (ran : resolveColorClass.exec host session = (.ok color, after)) :
    color.getComponents = ColorClass.accessor := by
  rw [resolveColorClass] at ran
  rcases exec_bind_eq_ok ran with ⟨_, _, _, ran⟩
  rcases exec_bind_eq_ok ran with ⟨construct, _, _, ran⟩
  rcases exec_bind_eq_ok ran with ⟨getComponents, _, found, ran⟩
  rcases exec_bind_eq_ok ran with ⟨colorClass, _, _, ran⟩
  simp only [exec_pure, Prod.mk.injEq, Except.ok.injEq] at ran
  rw [← ran.1]
  exact findMethod_eq_ok found

theorem colorClass_genuine (genuine : session.HasGenuineColor) {color : ColorClass}
    (ran : colorClass.exec host session = (.ok color, after)) :
    color.getComponents = ColorClass.accessor := by
  rcases exec_cached_eq_ok ran with ⟨known, _⟩ | ⟨between, resolved, _⟩
  · exact genuine color known
  · exact resolveColorClass_genuine resolved

theorem resolveColorClass_obtains (cooperates : host.Cooperates) (finds : host.FindsColors) :
    Obtains host (fun _ => True) resolveColorClass := by
  have methodFound {method : MethodId} (listed : method ∈ ColorClass.methods) :=
    findMethod_obtains cooperates fun history => finds.methods history method listed
  rw [resolveColorClass]
  apply Obtains.bind (findClass_obtains cooperates finds.colorClass)
  intro _ _
  apply Obtains.bind (methodFound (by simp [ColorClass.methods]))
  intro construct _
  apply Obtains.bind (methodFound (by simp [ColorClass.methods]))
  intro getComponents _
  apply Obtains.bind (keepClass_obtains cooperates _)
  intro colorClass _
  exact Obtains.pure trivial

/-- The class of colours is at hand if it is known or found. -/
theorem exec_colorClass (cooperates : host.Cooperates) (quiet : session.IsQuiet)
    (finds : session.shared.color = none → host.FindsColors) :
    ∃ color found, colorClass.exec host session = (.ok color, found) ∧ found.IsQuiet := by
  cases known : session.shared.color with
  | some color => exact ⟨color, session, exec_cached_of_some known, quiet⟩
  | none =>
      rcases resolveColorClass_obtains cooperates (finds known) session quiet with
        ⟨color, found, ran, _, asked⟩
      rw [colorClass, exec_cached_of_none known, ran]
      exact ⟨color, _, rfl, asked.quiet⟩

end Jni

theorem Session.HasGenuineColor.sustained : host.Sustains Session.HasGenuineColor := by
  have robust : Session.Robust Session.HasGenuineColor := {
    recorded := fun _ genuine => genuine
    pended := fun _ genuine => genuine
    logged := fun _ genuine => genuine }
  refine ⟨robust, ?core, ?color⟩
  case core => exact robust.steady.coreClasses (fun _ _ kept => kept) fun _ _ kept => kept
  case color =>
    have resolved : Jni.Keeps host Session.HasGenuineColor Jni.resolveColorClass :=
      robust.steady.resolveColorClass fun _ _ _ kept => kept
    apply resolved.cached
    rintro session after found _ _ ran _ color ⟨⟩
    exact Jni.resolveColorClass_genuine ran

end NativeProxy
