import Annunciator.Activity

/-!
# Laws of activities

What an activity may do to a state, and which effects it may have on the way, is often
the same for all of its parts. Such a law allows doing nothing, and doing one thing after
the other; so it holds of a whole activity as soon as it holds of the parts.
-/

namespace Annunciator.Activity

variable {State Outer First Last Answer : Type}

/-! ## What activities do -/

section Running

variable (state : State)

@[simp] theorem run_pure (answer : Answer) :
    (Pure.pure answer : Activity State Answer) state = ⟨answer, state, []⟩ := rfl

@[simp] theorem run_bind (first : Activity State First) (next : First -> Activity State Last) :
    (first >>= next) state =
      ⟨(next (first state).answer (first state).state).answer,
        (next (first state).answer (first state).state).state,
        (first state).effects ++ (next (first state).answer (first state).state).effects⟩ := rfl

@[simp] theorem run_map (change : First -> Last) (activity : Activity State First) :
    (change <$> activity) state =
      ⟨change (activity state).answer, (activity state).state, (activity state).effects⟩ := by
  rw [map_eq_pure_bind, run_bind]
  simp

@[simp] theorem run_get : (get : Activity State State) state = ⟨state, state, []⟩ := rfl

@[simp] theorem run_modify (change : State -> State) :
    modify change state = ⟨(), change state, []⟩ := rfl

@[simp] theorem run_emit (effect : Effect) : emit effect state = ⟨(), state, [effect]⟩ := rfl

@[simp] theorem run_within (part : Outer -> State) (replace : Outer -> State -> Outer)
    (activity : Activity State Answer) (whole : Outer) :
    activity.within part replace whole =
      ⟨(activity (part whole)).answer, replace whole (activity (part whole)).state,
        (activity (part whole)).effects⟩ := rfl

@[simp] theorem run_forM_nil (act : First -> Activity State Unit) :
    [].forM act state = ⟨(), state, []⟩ := rfl

@[simp] theorem run_forM_cons (member : First) (rest : List First)
    (act : First -> Activity State Unit) :
    (member :: rest).forM act state =
      ⟨(), (rest.forM act (act member state).state).state,
        (act member state).effects ++ (rest.forM act (act member state).state).effects⟩ := rfl

end Running

/-! ## Laws -/

/-- What may be done to a state, and with which effects. -/
structure Law (State : Type) where
  holds : State -> List Effect -> State -> Prop
  idle (state : State) : holds state [] state
  chain {first middle last : State} {earlier later : List Effect}
    (before : holds first earlier middle) (after : holds middle later last) :
    holds first (earlier ++ later) last

/-- An activity does in every state what a law allows. -/
def Obeys (law : Law State) (activity : Activity State Answer) : Prop :=
  ∀ state, law.holds state (activity state).effects (activity state).state

namespace Obeys

variable {law : Law State}

/-- An activity that only answers obeys every law. -/
theorem pure (answer : Answer) : Obeys law (Pure.pure answer) := law.idle

/-- Parts that obey a law obey it one after the other, whatever the first one answers. -/
theorem bind {first : Activity State First} {next : First -> Activity State Last}
    (obeys : Obeys law first) (nextObeys : ∀ answer, Obeys law (next answer)) :
    Obeys law (first >>= next) := by
  intro state
  exact law.chain (obeys state) (nextObeys _ _)

/-- An act that obeys a law for each member obeys it for all of them in turn. -/
theorem forM {members : List First} {act : First -> Activity State Unit}
    (each : ∀ member ∈ members, Obeys law (act member)) : Obeys law (members.forM act) := by
  induction members with
  | nil => exact .pure _
  | cons member rest inductionHypothesis =>
      refine (each member (List.mem_cons_self ..)).bind fun _ => inductionHypothesis ?_
      exact fun other later => each other (List.mem_cons_of_mem _ later)

/-- So does an act whose answers are collected. -/
theorem mapM {members : List First} {act : First -> Activity State Last}
    (each : ∀ member ∈ members, Obeys law (act member)) : Obeys law (members.mapM act) := by
  induction members with
  | nil => exact .pure _
  | cons member rest inductionHypothesis =>
      rw [List.mapM_cons]
      refine (each member (List.mem_cons_self ..)).bind fun _ => ?_
      refine (inductionHypothesis ?_).bind fun _ => .pure _
      exact fun other later => each other (List.mem_cons_of_mem _ later)

/-- What every act brings about for its member, and what the law lets nothing undo, is
there for all members in the end. -/
theorem forM_each {members : List First} {act : First -> Activity State Unit}
    {goal : First -> State -> Prop} (each : ∀ member, Obeys law (act member))
    (reached : ∀ member state, goal member (act member state).state)
    (kept : ∀ member state effects after, goal member state ->
      law.holds state effects after -> goal member after) (state : State) :
    ∀ member ∈ members, goal member (members.forM act state).state := by
  induction members generalizing state with
  | nil => exact fun _ listed => nomatch listed
  | cons member rest inductionHypothesis =>
      intro other listed
      rcases List.mem_cons.mp listed with rfl | later
      · exact kept other _ _ _ (reached other state) (Obeys.forM (fun member _ => each member) _)
      · exact inductionHypothesis _ other later

end Obeys

end Annunciator.Activity
