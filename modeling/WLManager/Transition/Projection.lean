import WLManager.Transition.Run

/-!
# Components of a machine

A machine that is put together from smaller ones keeps the state of each as a part of its own. When
an action of the whole machine is one action of the part, or does not touch it, a run of the whole
is a run of the part, and what holds of the runs of the part carries over.
-/

namespace WLManager.Transition

variable {σ τ α β : Type*} {step : σ → α → Option σ} {step' : τ → β → Option τ} {part : σ → τ}
  {project : α → Option β}

/-- Every action that is one of the part steps the part, and every other one leaves it alone. -/
structure Component (step : σ → α → Option σ) (step' : τ → β → Option τ) (part : σ → τ)
    (project : α → Option β) : Prop where
  own : ∀ {s a t b}, project a = some b → step s a = some t → step' (part s) b = some (part t)
  other : ∀ {s a t}, project a = none → step s a = some t → part t = part s

/-- Every run of the whole machine is a run of the part. -/
theorem Component.run_part (h : Component step step' part project) {s t : σ} {actions : List α}
    (hrun : run step s actions = some t) :
    run step' (part s) (actions.filterMap project) = some (part t) := by
  induction actions generalizing s with
  | nil =>
    cases hrun
    rfl
  | cons a actions ih =>
    obtain ⟨u, hu, hut⟩ := Option.bind_eq_some_iff.mp hrun
    cases hproject : project a with
    | none =>
      rw [List.filterMap_cons_none hproject, ← h.other hproject hu]
      exact ih hut
    | some b =>
      rw [List.filterMap_cons_some hproject, run_cons, h.own hproject hu, Option.bind_some]
      exact ih hut

/-- A property of the part's steps, along a run of the whole machine. -/
theorem Component.stepsAll_iff (h : Component step step' part project) {good : τ → β → Prop}
    {s t : σ} {actions : List α} (hrun : run step s actions = some t) :
    StepsAll step' good (part s) (actions.filterMap project) ↔
      StepsAll step (fun s a ↦ ∀ b, project a = some b → good (part s) b) s actions := by
  induction actions generalizing s with
  | nil => simp
  | cons a actions ih =>
    obtain ⟨u, hu, hut⟩ := Option.bind_eq_some_iff.mp hrun
    have hrest := ih hut
    rw [stepsAll_cons, hu]
    cases hproject : project a with
    | none =>
      rw [List.filterMap_cons_none hproject, ← h.other hproject hu, hrest]
      simp
    | some b =>
      rw [List.filterMap_cons_some hproject, stepsAll_cons, h.own hproject hu]
      simp [hrest]

end WLManager.Transition
