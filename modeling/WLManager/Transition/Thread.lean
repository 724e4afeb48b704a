import WLManager.Transition.Run

/-!
# A thread beside event handlers

A thread runs straight-line code, one statement after the other, and takes up the body of the next
call once it has nothing left to do. Between any two of its statements an event may be handled,
which works on the same memory.

A proof outline puts an assertion between any two statements of the code left to do. It is valid
when each statement leads from one assertion to the next and no event that is admitted there
invalidates it. A run whose calls have valid outlines never leaves them.
-/

namespace WLManager.Transition

structure Thread (σ : Type*) where
  memory : σ
  todo : List (σ → σ)

namespace Thread

inductive Action (κ ι : Type*)
  | main
  | call (c : κ)
  | event (e : ι)

variable {σ κ ι : Type*} {body : κ → List (σ → σ)} {handle : σ → ι → σ}

/-- A statement needs code to do, a call none; an event may come at any time. -/
def step (body : κ → List (σ → σ)) (handle : σ → ι → σ) (s : Thread σ) :
    Action κ ι → Option (Thread σ)
  | .main =>
    match s.todo with
    | [] => none
    | statement :: todo => some ⟨statement s.memory, todo⟩
  | .call c =>
    match s.todo with
    | [] => some ⟨s.memory, body c⟩
    | _ :: _ => none
  | .event e => some ⟨handle s.memory e, s.todo⟩

/-! ## Completions -/

/-- Every state of the run is good, and so is every state in which the thread may find itself
when it goes on with the code it has then, undisturbed. -/
def FinishesAll (body : κ → List (σ → σ)) (handle : σ → ι → σ) (good : Thread σ → Prop)
    (s : Thread σ) (actions : List (Action κ ι)) : Prop :=
  ∀ first, first <+: actions → ∀ n t,
    run (step body handle) s (first ++ List.replicate n .main) = some t → good t

/-- Undisturbed, the thread runs what is left to do in order. -/
theorem run_replicate_main (body : κ → List (σ → σ)) (handle : σ → ι → σ)
    (statements : List (σ → σ)) (s : σ) :
    run (step body handle) ⟨s, statements⟩ (List.replicate statements.length .main) =
      some ⟨statements.foldl (fun s statement ↦ statement s) s, []⟩ := by
  induction statements generalizing s with
  | nil => rfl
  | cons statement statements ih => exact ih (statement s)

/-- Exactness: where the invariant makes every state good and holds as long as the steps meet
`cond`, which never forbids the thread to go on, and where a step that does not meet `cond` lets
the thread reach a state that is not good, the run is good exactly when its steps meet `cond`. -/
theorem finishesAll_iff (inv : Thread σ → Prop) {good : Thread σ → Prop}
    {cond : Thread σ → Action κ ι → Prop} (hgood : ∀ s, inv s → good s)
    (hmain : ∀ s, cond s .main)
    (hstep : ∀ s a t, inv s → cond s a → step body handle s a = some t → inv t)
    (hbad : ∀ s a, inv s → ¬ cond s a → ∃ n t,
      run (step body handle) s (a :: List.replicate n .main) = some t ∧ ¬ good t)
    {s : Thread σ} {actions : List (Action κ ι)} (hs : inv s) :
    FinishesAll body handle good s actions ↔ StepsAll (step body handle) cond s actions := by
  have hmains : ∀ n s, StepsAll (step body handle) cond s (List.replicate n .main) := by
    intro n s
    apply stepsAll_of_forall
    intro a ha s
    rw [List.eq_of_mem_replicate ha]
    exact hmain s
  constructor
  · intro h
    induction actions using List.reverseRecOn with
    | nil => trivial
    | append_singleton actions a ih =>
      have hbefore := ih fun first hfirst ↦ h first (hfirst.trans (List.prefix_append _ _))
      refine stepsAll_snoc.mpr ⟨hbefore, fun t ht ↦ ?_⟩
      by_contra hcond
      obtain ⟨n, u, hu, hnot⟩ := hbad t a (run_invariant hstep hs hbefore ht) hcond
      apply hnot (h (actions ++ [a]) (List.prefix_refl _) n u _)
      rw [List.append_assoc, run_append, ht]
      exact hu
  · intro h first hfirst n t ht
    obtain ⟨after, rfl⟩ := hfirst
    have hall : StepsAll (step body handle) cond s (first ++ List.replicate n .main) :=
      stepsAll_append.mpr ⟨(stepsAll_append.mp h).1, fun u _ ↦ hmains n u⟩
    exact hgood t (run_invariant hstep hs hall ht)

/-! ## Proof outlines -/

/-- From the first assertion the statements lead to `post`, every assertion on the way implies
`good`, and none is invalidated by an event that `cond` admits. -/
inductive Outline (handle : σ → ι → σ) (cond : Thread σ → Action κ ι → Prop)
    (good post : σ → Prop) : (σ → Prop) → List (σ → σ) → Prop
  | done {pre : σ → Prop} (hpost : ∀ s, pre s → post s) : Outline handle cond good post pre []
  | next {pre mid : σ → Prop} {statement : σ → σ} {todo : List (σ → σ)}
      (hgood : ∀ s, pre s → good s)
      (hevent : ∀ s e, pre s → cond ⟨s, statement :: todo⟩ (.event e) → pre (handle s e))
      (hnext : ∀ s, pre s → mid (statement s)) (hrest : Outline handle cond good post mid todo) :
      Outline handle cond good post pre (statement :: todo)

/-- The thread is somewhere in a valid outline, where its assertion holds. -/
def Outlined (handle : σ → ι → σ) (cond : Thread σ → Action κ ι → Prop) (good post : σ → Prop)
    (t : Thread σ) : Prop :=
  ∃ pre, pre t.memory ∧ Outline handle cond good post pre t.todo

variable {cond : Thread σ → Action κ ι → Prop} {good post : σ → Prop}

/-- An assertion that every statement and every event preserves may stand everywhere. -/
theorem Outline.constant {pre : σ → Prop} {todo : List (σ → σ)} (hgood : ∀ s, pre s → good s)
    (hpost : ∀ s, pre s → post s) (hevent : ∀ s e, pre s → pre (handle s e))
    (hnext : ∀ statement ∈ todo, ∀ s, pre s → pre (statement s)) :
    Outline handle cond good post pre todo := by
  induction todo with
  | nil => exact .done hpost
  | cons statement todo ih =>
    obtain ⟨hstatement, htodo⟩ := List.forall_mem_cons.mp hnext
    exact .next hgood (fun s e hpre _ ↦ hevent s e hpre) hstatement (ih htodo)

/-- Every state in an outline is good, if the assertion at its end makes it so. -/
theorem Outlined.memory_good (hpost : ∀ s, post s → good s) {t : Thread σ}
    (h : Outlined handle cond good post t) : good t.memory := by
  obtain ⟨s, todo⟩ := t
  obtain ⟨pre, hpre, houtline⟩ := h
  cases houtline with
  | done hdone => exact hpost _ (hdone _ hpre)
  | next hgood _ _ _ => exact hgood _ hpre

/-- At the end of an outline its last assertion holds. -/
theorem Outlined.memory_post {t : Thread σ} (h : Outlined handle cond good post t)
    (hidle : t.todo = []) : post t.memory := by
  obtain ⟨pre, hpre, houtline⟩ := h
  rw [hidle] at houtline
  cases houtline with
  | done hdone => exact hdone _ hpre

/-- A run whose calls have valid outlines never leaves them. -/
theorem Outlined.step
    (hevent : ∀ s e, post s → cond ⟨s, []⟩ (.event e) → post (handle s e))
    (hcall : ∀ s c, post s → cond ⟨s, []⟩ (.call c) →
      ∃ pre, pre s ∧ Outline handle cond good post pre (body c))
    {s t : Thread σ} {a : Action κ ι} (h : Outlined handle cond good post s) (hcond : cond s a)
    (hstep : Thread.step body handle s a = some t) : Outlined handle cond good post t := by
  obtain ⟨s, todo⟩ := s
  obtain ⟨pre, hpre, houtline⟩ := h
  cases houtline with
  | done hdone =>
    cases a with
    | main => cases hstep
    | call c =>
      cases hstep
      exact hcall s c (hdone s hpre) hcond
    | event e =>
      cases hstep
      exact ⟨post, hevent s e (hdone s hpre) hcond, .done fun _ ↦ id⟩
  | next hgood hadmitted hnext hrest =>
    cases a with
    | main =>
      cases hstep
      exact ⟨_, hnext s hpre, hrest⟩
    | call c => cases hstep
    | event e =>
      cases hstep
      exact ⟨pre, hadmitted s e hpre hcond, .next hgood hadmitted hnext hrest⟩

end Thread

end WLManager.Transition
