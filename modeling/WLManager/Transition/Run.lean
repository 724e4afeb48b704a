import Mathlib.Data.List.Induction

/-!
# Runs of a partial step function

A labelled machine is a function `step : σ → α → Option σ`; an action that is not enabled is
refused with `none`. A run is a list of actions accepted one after the other. `StatesAll` speaks
about every state a run visits and `StepsAll` about every step it attempts, with the state the
step is attempted in.

The rules come in two shapes. An invariant that every step meeting a condition preserves holds at
the end of every run whose steps meet it. Where, under the invariant, a step is good exactly when
it meets the condition, a whole run is good exactly when all its steps meet the condition.
-/

namespace WLManager.Transition

variable {σ α : Type*} {step : σ → α → Option σ}

/-- The state a list of actions leads to, or `none` once an action is refused. -/
def run (step : σ → α → Option σ) (s : σ) (actions : List α) : Option σ :=
  actions.foldlM step s

/-- Every step of the run, attempted in the state it starts from, satisfies `good`. -/
def StepsAll (step : σ → α → Option σ) (good : σ → α → Prop) : σ → List α → Prop
  | _, [] => True
  | s, a :: actions => good s a ∧ ∀ t, step s a = some t → StepsAll step good t actions

/-- Every state the run visits, the first one included, satisfies `good`. -/
def StatesAll (step : σ → α → Option σ) (good : σ → Prop) : σ → List α → Prop
  | s, [] => good s
  | s, a :: actions => good s ∧ ∀ t, step s a = some t → StatesAll step good t actions

@[simp]
theorem run_nil (s : σ) : run step s [] = some s := rfl

@[simp]
theorem run_cons (s : σ) (a : α) (actions : List α) :
    run step s (a :: actions) = (step s a).bind fun t ↦ run step t actions := rfl

theorem run_append (s : σ) (first second : List α) :
    run step s (first ++ second) = (run step s first).bind fun t ↦ run step t second := by
  simp only [run, List.foldlM_append]
  rfl

/-- The last step of a run, split off. -/
theorem run_snoc_eq_some {s u : σ} {actions : List α} {a : α} :
    run step s (actions ++ [a]) = some u ↔
      ∃ t, run step s actions = some t ∧ step t a = some u := by
  simp [run_append, Option.bind_eq_some_iff]

@[simp]
theorem stepsAll_nil (good : σ → α → Prop) (s : σ) : StepsAll step good s [] := trivial

theorem stepsAll_cons {good : σ → α → Prop} {s : σ} {a : α} {actions : List α} :
    StepsAll step good s (a :: actions) ↔
      good s a ∧ ∀ t, step s a = some t → StepsAll step good t actions := Iff.rfl

theorem stepsAll_append {good : σ → α → Prop} {s : σ} {first second : List α} :
    StepsAll step good s (first ++ second) ↔
      StepsAll step good s first ∧
        ∀ t, run step s first = some t → StepsAll step good t second := by
  induction first generalizing s with
  | nil => simp
  | cons b first ih =>
    simp only [List.cons_append, stepsAll_cons, ih, run_cons, Option.bind_eq_some_iff]
    constructor
    · rintro ⟨hb, hrest⟩
      exact ⟨⟨hb, fun t ht ↦ (hrest t ht).1⟩, fun u ⟨t, ht, hu⟩ ↦ (hrest t ht).2 u hu⟩
    · rintro ⟨⟨hb, hrest⟩, hsecond⟩
      exact ⟨hb, fun t ht ↦ ⟨hrest t ht, fun u hu ↦ hsecond u ⟨t, ht, hu⟩⟩⟩

theorem stepsAll_snoc {good : σ → α → Prop} {s : σ} {actions : List α} {a : α} :
    StepsAll step good s (actions ++ [a]) ↔
      StepsAll step good s actions ∧ ∀ t, run step s actions = some t → good t a := by
  simp only [stepsAll_append, stepsAll_cons, stepsAll_nil, implies_true, and_true]

theorem stepsAll_of_forall {good : σ → α → Prop} {actions : List α}
    (h : ∀ a ∈ actions, ∀ s, good s a) {s : σ} : StepsAll step good s actions := by
  induction actions generalizing s with
  | nil => trivial
  | cons a actions ih =>
    obtain ⟨ha, hrest⟩ := List.forall_mem_cons.mp h
    exact ⟨ha s, fun _ _ ↦ ih hrest⟩

/-- Every run of a machine is one of steps that nothing is asked of. -/
theorem stepsAll_true {s : σ} {actions : List α} :
    StepsAll step (fun _ _ ↦ True) s actions :=
  stepsAll_of_forall fun _ _ _ ↦ trivial

theorem StepsAll.mono {good better : σ → α → Prop} (himp : ∀ s a, good s a → better s a)
    {s : σ} {actions : List α} (h : StepsAll step good s actions) :
    StepsAll step better s actions := by
  induction actions generalizing s with
  | nil => trivial
  | cons a actions ih => exact ⟨himp s a h.1, fun t ht ↦ ih (h.2 t ht)⟩

theorem stepsAll_and {first second : σ → α → Prop} {s : σ} {actions : List α} :
    StepsAll step (fun s a ↦ first s a ∧ second s a) s actions ↔
      StepsAll step first s actions ∧ StepsAll step second s actions := by
  induction actions generalizing s with
  | nil => simp
  | cons a actions ih =>
    simp only [stepsAll_cons, ih]
    constructor
    · rintro ⟨⟨hfirst, hsecond⟩, hrest⟩
      exact ⟨⟨hfirst, fun t ht ↦ (hrest t ht).1⟩, hsecond, fun t ht ↦ (hrest t ht).2⟩
    · rintro ⟨⟨hfirst, hrest⟩, hsecond, hrest'⟩
      exact ⟨⟨hfirst, hsecond⟩, fun t ht ↦ ⟨hrest t ht, hrest' t ht⟩⟩

/-- The steps of a run are the actions after each of its prefixes. -/
theorem stepsAll_iff_split {good : σ → α → Prop} {s : σ} {actions : List α} :
    StepsAll step good s actions ↔
      ∀ before a after, actions = before ++ a :: after →
        ∀ t, run step s before = some t → good t a := by
  constructor
  · rintro h before a after rfl t ht
    exact ((stepsAll_append.mp h).2 t ht).1
  · intro h
    induction actions using List.reverseRecOn with
    | nil => trivial
    | append_singleton actions a ih =>
      rw [stepsAll_snoc]
      refine ⟨ih ?_, h actions a [] rfl⟩
      rintro before b after rfl
      exact h before b (after ++ [a]) (by rw [List.append_assoc, List.cons_append])

/-- A property of all visited states is one of the first state and of what each step leads to. -/
theorem statesAll_iff {good : σ → Prop} {s : σ} {actions : List α} :
    StatesAll step good s actions ↔
      good s ∧ StepsAll step (fun s a ↦ ∀ t, step s a = some t → good t) s actions := by
  induction actions generalizing s with
  | nil => simp [StatesAll]
  | cons a actions ih =>
    simp only [StatesAll, stepsAll_cons, ih]
    constructor
    · rintro ⟨hs, hrest⟩
      exact ⟨hs, fun t ht ↦ (hrest t ht).1, fun t ht ↦ (hrest t ht).2⟩
    · rintro ⟨hs, hnext, hrest⟩
      exact ⟨hs, fun t ht ↦ ⟨hnext t ht, hrest t ht⟩⟩

/-- The states a run visits are the ends of its prefixes. -/
theorem statesAll_iff_prefix {good : σ → Prop} {s : σ} {actions : List α} :
    StatesAll step good s actions ↔
      ∀ first, first <+: actions → ∀ t, run step s first = some t → good t := by
  induction actions generalizing s with
  | nil =>
    simp only [StatesAll, List.prefix_nil]
    constructor
    · rintro hs first rfl t ht
      cases ht
      exact hs
    · intro h
      exact h [] rfl s rfl
  | cons a actions ih =>
    simp only [StatesAll, ih]
    constructor
    · rintro ⟨hs, hrest⟩ first hfirst t ht
      rcases List.prefix_cons_iff.mp hfirst with rfl | ⟨tail, rfl, htail⟩
      · cases ht
        exact hs
      · obtain ⟨u, hu, ht⟩ := Option.bind_eq_some_iff.mp ht
        exact hrest u hu tail htail t ht
    · intro h
      refine ⟨h [] (List.nil_prefix) s rfl, fun u hu first hfirst t ht ↦ ?_⟩
      refine h (a :: first) ((List.prefix_cons_inj a).mpr hfirst) t ?_
      rw [run_cons, hu]
      exact ht

/-! ## Invariant rules -/

/-- A property of the actions run so far and the state they lead to, proved by adding the last
action. -/
theorem run_induction {s : σ} {good : List α → σ → Prop} (hinit : good [] s)
    (hstep : ∀ actions t a u, run step s actions = some t → good actions t →
      step t a = some u → good (actions ++ [a]) u)
    {actions : List α} {t : σ} (hrun : run step s actions = some t) : good actions t := by
  induction actions using List.reverseRecOn generalizing t with
  | nil =>
    cases hrun
    exact hinit
  | append_singleton actions a ih =>
    obtain ⟨u, hu, hua⟩ := run_snoc_eq_some.mp hrun
    exact hstep actions u a t hu (ih hu) hua

/-- An invariant that every step meeting `cond` preserves holds after every run of such steps. -/
theorem run_invariant {inv : σ → Prop} {cond : σ → α → Prop}
    (hstep : ∀ s a t, inv s → cond s a → step s a = some t → inv t)
    {s t : σ} {actions : List α} (hs : inv s) (hcond : StepsAll step cond s actions)
    (hrun : run step s actions = some t) : inv t := by
  induction actions generalizing s with
  | nil =>
    cases hrun
    exact hs
  | cons a actions ih =>
    obtain ⟨u, hu, ht⟩ := Option.bind_eq_some_iff.mp hrun
    exact ih (hstep s a u hs hcond.1 hu) (hcond.2 u hu) ht

/-- An unconditional invariant. -/
theorem run_invariant' {inv : σ → Prop} (hstep : ∀ s a t, inv s → step s a = some t → inv t)
    {s t : σ} {actions : List α} (hs : inv s) (hrun : run step s actions = some t) : inv t := by
  induction actions generalizing s with
  | nil =>
    cases hrun
    exact hs
  | cons a actions ih =>
    obtain ⟨u, hu, ht⟩ := Option.bind_eq_some_iff.mp hrun
    exact ih (hstep s a u hs hu) ht

theorem statesAll_of_stepsAll {inv : σ → Prop} {cond : σ → α → Prop}
    (hstep : ∀ s a t, inv s → cond s a → step s a = some t → inv t)
    {s : σ} {actions : List α} (hs : inv s) (hcond : StepsAll step cond s actions) :
    StatesAll step inv s actions := by
  induction actions generalizing s with
  | nil => exact hs
  | cons a actions ih =>
    exact ⟨hs, fun t ht ↦ ih (hstep s a t hs hcond.1 ht) (hcond.2 t ht)⟩

/-- Where the invariant makes every step meeting `cond` good, and such steps preserve it, every
step of a run of such steps is good. -/
theorem stepsAll_of_invariant {inv : σ → Prop} {cond good : σ → α → Prop}
    (hgood : ∀ s a, inv s → cond s a → good s a)
    (hstep : ∀ s a t, inv s → cond s a → step s a = some t → inv t)
    {s : σ} {actions : List α} (hs : inv s) (hcond : StepsAll step cond s actions) :
    StepsAll step good s actions := by
  induction actions generalizing s with
  | nil => trivial
  | cons a actions ih =>
    exact ⟨hgood s a hs hcond.1, fun t ht ↦ ih (hstep s a t hs hcond.1 ht) (hcond.2 t ht)⟩

theorem StatesAll.mono {good better : σ → Prop} (himp : ∀ s, good s → better s)
    {s : σ} {actions : List α} (h : StatesAll step good s actions) :
    StatesAll step better s actions := by
  induction actions generalizing s with
  | nil => exact himp s h
  | cons a actions ih => exact ⟨himp s h.1, fun t ht ↦ ih (h.2 t ht)⟩

/-- Exactness: where the invariant makes a step good exactly when it meets `cond`, and such steps
preserve the invariant, the run is good exactly when all its steps meet `cond`. The run may be
restricted to steps that the `allowed` predicate admits. -/
theorem stepsAll_iff_of_invariant {inv : σ → Prop} {allowed good cond : σ → α → Prop}
    (hiff : ∀ s a, inv s → allowed s a → (good s a ↔ cond s a))
    (hstep : ∀ s a t, inv s → allowed s a → cond s a → step s a = some t → inv t)
    {s : σ} {actions : List α} (hs : inv s) (hallowed : StepsAll step allowed s actions) :
    StepsAll step good s actions ↔ StepsAll step cond s actions := by
  induction actions generalizing s with
  | nil => simp
  | cons a actions ih =>
    have hhead := hiff s a hs hallowed.1
    simp only [stepsAll_cons]
    constructor
    · rintro ⟨hgood, hrest⟩
      have hcond := hhead.mp hgood
      refine ⟨hcond, fun t ht ↦ ?_⟩
      exact (ih (hstep s a t hs hallowed.1 hcond ht) (hallowed.2 t ht)).mp (hrest t ht)
    · rintro ⟨hcond, hrest⟩
      refine ⟨hhead.mpr hcond, fun t ht ↦ ?_⟩
      exact (ih (hstep s a t hs hallowed.1 hcond ht) (hallowed.2 t ht)).mpr (hrest t ht)

/-- Exactness of a property of every state together with one of every step: where the invariant
makes a step do well and lead to good states only exactly when it meets `cond`, and such steps
preserve the invariant, a run from a good state does both throughout exactly when all its steps meet
`cond`. -/
theorem statesAll_and_stepsAll_iff {inv good : σ → Prop} {allowed does cond : σ → α → Prop}
    (hiff : ∀ s a, inv s → allowed s a →
      (((∀ t, step s a = some t → good t) ∧ does s a) ↔ cond s a))
    (hstep : ∀ s a t, inv s → allowed s a → cond s a → step s a = some t → inv t)
    {s : σ} {actions : List α} (hs : inv s) (hgood : good s)
    (hallowed : StepsAll step allowed s actions) :
    (StatesAll step good s actions ∧ StepsAll step does s actions) ↔
      StepsAll step cond s actions := by
  rw [statesAll_iff, and_assoc, ← stepsAll_and, and_iff_right hgood]
  exact stepsAll_iff_of_invariant hiff hstep hs hallowed

/-- Exactness at the end of a run: where the invariant makes the state after a step `clean` exactly
when the state before it is and the step is good, the end of a run is clean exactly when all its
steps were good. -/
theorem stepsAll_iff_end {inv clean : σ → Prop} {allowed good : σ → α → Prop}
    (hstep : ∀ s a t, inv s → allowed s a → step s a = some t →
      inv t ∧ (clean t ↔ clean s ∧ good s a))
    {s t : σ} {actions : List α} (hs : inv s) (hclean : clean s)
    (hallowed : StepsAll step allowed s actions) (hrun : run step s actions = some t) :
    StepsAll step good s actions ↔ clean t := by
  suffices h : inv t ∧ (StepsAll step good s actions ↔ clean t) from h.2
  induction actions using List.reverseRecOn generalizing t with
  | nil =>
    cases hrun
    exact ⟨hs, iff_of_true trivial hclean⟩
  | append_singleton actions a ih =>
    obtain ⟨u, hu, hua⟩ := run_snoc_eq_some.mp hrun
    obtain ⟨hbefore, hlast⟩ := stepsAll_snoc.mp hallowed
    obtain ⟨hinv, hiff⟩ := ih hbefore hu
    obtain ⟨hinv', hiff'⟩ := hstep u a t hinv (hlast u hu) hua
    refine ⟨hinv', ?_⟩
    rw [stepsAll_snoc, hiff, hiff', hu]
    simp only [Option.some.injEq, forall_eq']

/-- Simulation: where related states refuse the same actions, stay related and agree on which
actions are good, two machines agree on which runs are. -/
theorem stepsAll_simulation {τ β : Type*} {step' : τ → β → Option τ} {rel : σ → τ → Prop}
    {translate : α → β} {good : σ → α → Prop} {good' : τ → β → Prop}
    (hgood : ∀ s t a, rel s t → (good s a ↔ good' t (translate a)))
    (hstep : ∀ s t a, rel s t → Option.Rel rel (step s a) (step' t (translate a)))
    {s : σ} {t : τ} {actions : List α} (h : rel s t) :
    StepsAll step good s actions ↔ StepsAll step' good' t (actions.map translate) := by
  induction actions generalizing s t with
  | nil => simp
  | cons a actions ih =>
    rw [List.map_cons, stepsAll_cons, stepsAll_cons, hgood s t a h]
    apply and_congr_right
    intro _
    have hrel := hstep s t a h
    generalize step s a = next at hrel
    generalize step' t (translate a) = next' at hrel
    cases hrel with
    | none => exact iff_of_true nofun nofun
    | some hnext =>
      simp only [Option.some.injEq, forall_eq']
      exact ih hnext

/-- A condition on the actions alone, where no step that meets it is refused: it holds along the
run exactly when it holds of every action. -/
theorem stepsAll_iff_forall_mem {inv : σ → Prop} {allowed : σ → α → Prop} {good : α → Prop}
    (hstep : ∀ s a, inv s → allowed s a → good a → ∃ t, step s a = some t ∧ inv t)
    {s : σ} {actions : List α} (hs : inv s) (hallowed : StepsAll step allowed s actions) :
    StepsAll step (fun _ a ↦ good a) s actions ↔ ∀ a ∈ actions, good a := by
  induction actions generalizing s with
  | nil => simp
  | cons a actions ih =>
    simp only [stepsAll_cons, List.forall_mem_cons]
    apply and_congr_right
    intro hgood
    obtain ⟨t, ht, hinv⟩ := hstep s a hs hallowed.1 hgood
    have hrest := ih hinv (hallowed.2 t ht)
    simp only [ht, Option.some.injEq, forall_eq', hrest]

/-! ## Bounded response -/

section Response

variable {own : α → Bool} {allowed : α → Prop} {pending delivered : σ → Prop} {rank : σ → ℕ}

/-- One party of a machine owes something. Where each of its own steps lowers a rank that the steps
of the others do not raise, a run with as many own steps as the rank has come by a state in which
what was pending had been delivered, after no more own steps than that. -/
theorem run_response (hrank : ∀ s, pending s → 0 < rank s)
    (hstep : ∀ s a t, pending s → allowed a → step s a = some t →
      delivered t ∨ pending t ∧ rank t + (own a).toNat ≤ rank s)
    {s t : σ} {actions : List α} (hs : pending s) (hallowed : ∀ a ∈ actions, allowed a)
    (hrun : run step s actions = some t) (hown : rank s ≤ actions.countP own) :
    ∃ first rest u, actions = first ++ rest ∧ run step s first = some u ∧ delivered u ∧
      first.countP own ≤ rank s := by
  induction actions generalizing s with
  | nil => exact absurd hown (Nat.not_le.mpr (hrank s hs))
  | cons a actions ih =>
    obtain ⟨u, hu, hut⟩ := Option.bind_eq_some_iff.mp hrun
    obtain ⟨ha, hactions⟩ := List.forall_mem_cons.mp hallowed
    have hcons : ∀ rest : List α, (a :: rest).countP own = rest.countP own + (own a).toNat := by
      intro rest
      cases hown : own a <;> simp [hown]
    rcases hstep s a u hs ha hu with hdelivered | ⟨hpending, hle⟩
    · refine ⟨[a], actions, u, rfl, ?_, hdelivered, ?_⟩
      · rw [run_cons, hu]
        rfl
      · rw [hcons, List.countP_nil, Nat.zero_add]
        exact Nat.le_trans (Bool.toNat_le _) (hrank s hs)
    · rw [hcons] at hown
      obtain ⟨first, rest, v, hsplit, hv, hdelivered, hfirst⟩ :=
        ih hpending hactions hut (by omega)
      refine ⟨a :: first, rest, v, congrArg (List.cons a) hsplit, ?_, hdelivered, ?_⟩
      · rw [run_cons, hu]
        exact hv
      · rw [hcons]
        omega

end Response

end WLManager.Transition
