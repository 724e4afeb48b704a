import Mathlib.Algebra.BigOperators.Group.List.Basic
import WLManager.Client.EglWindow

/-!
# What the windows of a thread own, and which one is current

Whatever EGL answers, a window has its context and its surface together or neither of them, and
between two calls every object that exists belongs to one of the windows that have not been
destructed, unless EGL has refused to destroy it: `eglRelease` does not look at the answer and
forgets the object in any case. The context that is current is that of the window made current
last, unless a window of the thread, that one or another, has been released, destructed or left
without a surface since: `eglRelease` takes the binding away from whichever window has it.
-/

namespace WLManager

open History Transition

/-- What the members point to. -/
def EglWindow.owned (w : EglWindow) : Multiset (EglObject × Ptr) :=
  holding .context w.mEglContext + holding .surface w.mEglSurface

/-- The window has no objects. -/
def EglWindow.Bare (w : EglWindow) : Prop := w.mEglContext = .null ∧ w.mEglSurface = .null

/-- The window has a context and a surface. -/
def EglWindow.Complete (w : EglWindow) : Prop :=
  (∃ id, w.mEglContext = .obj id) ∧ (∃ id, w.mEglSurface = .obj id) ∧
    w.mEglDisplay ≠ .EGL_NO_DISPLAY

/-- The binding of a thread, the surface and the context, after one more call. -/
def EglCall.bind (bound : Option (Ptr × Ptr)) : Entry EglCall → Option (Ptr × Ptr)
  | ⟨.eglMakeCurrent _ surface context, true⟩ =>
    if context = .null then none else some (surface, context)
  | ⟨.eglReleaseThread, _⟩ => none
  | _ => bound

/-- The surface and the context that are current after these calls. -/
def EglCall.current (log : List (Entry EglCall)) : Option (Ptr × Ptr) := log.foldl bind none

theorem EglCall.current_snoc (log : List (Entry EglCall)) (e : Entry EglCall) :
    current (log ++ [e]) = bind (current log) e := by
  unfold current
  rw [List.foldl_append]
  rfl

theorem mem_sum_map {α β : Type*} {l : List α} {f : α → Multiset β} {u : β} :
    u ∈ (l.map f).sum ↔ ∃ a ∈ l, u ∈ f a := by
  induction l with
  | nil => simp
  | cons a l ih => simp [ih]

/-- The objects whose destruction was refused. -/
def EglCall.leaked (log : List (Entry EglCall)) : Multiset (EglObject × Ptr) :=
  (log.map fun e ↦ e.request.refused).sum

/-- Nothing is leaked as long as nothing is refused. -/
theorem EglCall.leaked_eq_zero_iff {log : List (Entry EglCall)} :
    leaked log = 0 ↔ ∀ e ∈ log, e.request.refused = 0 := by
  rw [leaked, Multiset.eq_zero_iff_forall_notMem]
  simp only [mem_sum_map, Multiset.eq_zero_iff_forall_notMem, not_exists, not_and]
  exact forall_comm.trans (forall_congr' fun _ ↦ forall_comm)

theorem EglCall.leaked_snoc (log : List (Entry EglCall)) (e : Entry EglCall) :
    leaked (log ++ [e]) = leaked log + e.request.refused := by
  unfold leaked
  rw [List.map_append, List.sum_append, List.map_singleton, List.sum_singleton]

open EglCall

/-- Beside these objects none exist but those that were leaked. -/
def Accounts (owned : Multiset (EglObject × Ptr)) (log : List (Entry EglCall)) : Prop :=
  Owns (owned + leaked log) log

section Accounts

variable {owned : Multiset (EglObject × Ptr)} {log : List (Entry EglCall)} {e : Entry EglCall}
  {kind : EglObject} {p : Ptr}

theorem Accounts.use (h : Accounts owned log) (huses : ∀ u ∈ e.request.uses, u ∈ owned)
    (hcreates : e.created = true → e.request.constructs = none) (hkept : e.request.destroys = none)
    (hrefused : e.request.refused = 0) : Accounts owned (log ++ [e]) := by
  unfold Accounts
  rw [leaked_snoc, hrefused, add_zero]
  exact Owns.use h (fun u hu ↦ Multiset.mem_add.mpr (.inl (huses u hu))) rfl hcreates hkept

theorem Accounts.create (h : Accounts owned log) (huses : ∀ u ∈ e.request.uses, u ∈ owned)
    (hcreated : e.created = true) (hkind : e.request.constructs = some kind)
    (hkept : e.request.destroys = none) (hrefused : e.request.refused = 0) :
    Accounts ((kind, .obj log.length) ::ₘ owned) (log ++ [e]) := by
  unfold Accounts
  rw [leaked_snoc, hrefused, add_zero, Multiset.cons_add]
  exact Owns.create h (fun u hu ↦ Multiset.mem_add.mpr (.inl (huses u hu))) rfl hcreated hkind hkept

/-- An object that is destroyed, or refused to be, is owned no longer. -/
theorem Accounts.destroy (h : Accounts ((kind, p) ::ₘ owned) log)
    (huses : e.request.uses = [(kind, p)]) (hcreates : e.request.constructs = none)
    (hanswer : e.request.destroys = some (kind, p) ∧ e.request.refused = 0 ∨
      e.request.destroys = none ∧ e.request.refused = {(kind, p)}) :
    Accounts owned (log ++ [e]) := by
  have hall : ∀ u ∈ e.request.uses, u ∈ (kind, p) ::ₘ (owned + leaked log) := by
    rw [huses]
    exact List.forall_mem_singleton.mpr (Multiset.mem_cons_self _ _)
  unfold Accounts at h ⊢
  rw [Multiset.cons_add] at h
  rcases hanswer with ⟨hdestroys, hrefused⟩ | ⟨hkept, hrefused⟩
  · rw [leaked_snoc, hrefused, add_zero]
    exact h.destroy hall rfl hcreates hdestroys
  · rw [leaked_snoc, hrefused, ← add_assoc, add_comm, Multiset.singleton_add]
    exact h.use hall rfl (fun _ ↦ hcreates) hkept

end Accounts

theorem EglWindow.Bare.owned {w : EglWindow} (h : w.Bare) : w.owned = 0 := by
  unfold EglWindow.owned
  rw [h.1, h.2]
  rfl

namespace Egl

variable {e : Egl} {owned frame : Multiset (EglObject × Ptr)}

/-! ## Single calls -/

/-- A call that neither creates nor destroys. -/
theorem accounts_call (h : Accounts owned e.log) {c : EglCall} {answer : Bool}
    (huses : ∀ u ∈ c.uses, u ∈ owned) (hconstructs : c.constructs = none)
    (hdestroys : c.destroys = none) (hrefused : c.refused = 0) :
    Accounts owned (e.call c answer).log :=
  h.use huses (fun _ ↦ hconstructs) hdestroys hrefused

theorem current_call (c : EglCall) (answer : Bool) :
    current (e.call c answer).log = bind (current e.log) ⟨c, answer⟩ :=
  current_snoc e.log _

/-- A call that leaves the binding alone. -/
theorem current_call_of_bind {c : EglCall} {answer : Bool}
    (hkeep : ∀ bound, bind bound ⟨c, answer⟩ = bound) :
    current (e.call c answer).log = current e.log :=
  (current_call c answer).trans (hkeep _)

theorem accounts_eglGetDisplay (h : Accounts owned e.log) (answer : Bool) :
    Accounts owned (e.eglGetDisplay answer).log :=
  accounts_call h (List.forall_mem_nil _) rfl rfl rfl

theorem accounts_eglInitialize (h : Accounts owned e.log) (answer : Bool) :
    Accounts owned (e.eglInitialize answer).log :=
  accounts_call h (List.forall_mem_nil _) rfl rfl rfl

theorem accounts_eglChooseConfig (h : Accounts owned e.log) (forPbuffer : Bool)
    (answer : Option (Option ℕ)) : Accounts owned (e.eglChooseConfig forPbuffer answer).log :=
  accounts_call h (List.forall_mem_nil _) rfl rfl rfl

theorem current_eglGetDisplay (answer : Bool) :
    current (e.eglGetDisplay answer).log = current e.log :=
  current_call_of_bind fun _ ↦ rfl

theorem current_eglInitialize (answer : Bool) :
    current (e.eglInitialize answer).log = current e.log :=
  current_call_of_bind fun _ ↦ rfl

theorem current_eglChooseConfig (forPbuffer : Bool) (answer : Option (Option ℕ)) :
    current (e.eglChooseConfig forPbuffer answer).log = current e.log :=
  current_call_of_bind fun _ ↦ rfl

theorem current_eglCreateContext (answer : Bool) :
    current (e.eglCreateContext answer).log = current e.log :=
  current_call_of_bind fun _ ↦ rfl

theorem accounts_eglCreateContext (h : Accounts owned e.log) (answer : Bool) :
    (∃ id, (e.eglCreateContext answer).window.mEglContext = .obj id ∧
      Accounts ((.context, .obj id) ::ₘ owned) (e.eglCreateContext answer).log) ∨
    (e.eglCreateContext answer).window.mEglContext = .null ∧
      Accounts owned (e.eglCreateContext answer).log := by
  cases answer with
  | false => exact .inr ⟨rfl, h.use (List.forall_mem_nil _) Bool.noConfusion rfl rfl⟩
  | true => exact .inl ⟨_, rfl, h.create (List.forall_mem_nil _) rfl rfl rfl rfl⟩

theorem accounts_createSurface (h : Accounts owned e.log) (target : EglTarget) (answer : Bool) :
    (∃ id, (e.createSurface target answer).window.mEglSurface = .obj id ∧
      Accounts ((.surface, .obj id) ::ₘ owned) (e.createSurface target answer).log) ∨
    (e.createSurface target answer).window.mEglSurface = .null ∧
      Accounts owned (e.createSurface target answer).log := by
  have huses : ∀ w, ∀ u ∈ (target.create w).uses, u ∈ owned := by
    intro w
    cases target <;> exact List.forall_mem_nil _
  have hconstructs : ∀ w, (target.create w).constructs = some .surface := by
    intro w
    cases target <;> rfl
  have hdestroys : ∀ w, (target.create w).destroys = none := by
    intro w
    cases target <;> rfl
  have hrefused : ∀ w, (target.create w).refused = 0 := by
    intro w
    cases target <;> rfl
  cases answer with
  | false =>
    exact .inr ⟨rfl, h.use (huses _) Bool.noConfusion (hdestroys _) (hrefused _)⟩
  | true =>
    exact .inl ⟨_, rfl, h.create (huses _) rfl (hconstructs _) (hdestroys _) (hrefused _)⟩

theorem createSurface_members (target : EglTarget) (answer : Bool) :
    (e.createSurface target answer).window.mEglContext = e.window.mEglContext ∧
      (e.createSurface target answer).window.mEglDisplay = e.window.mEglDisplay ∧
      current (e.createSurface target answer).log = current e.log := by
  cases target <;> exact ⟨rfl, rfl, current_call_of_bind fun _ ↦ rfl⟩

/-! ## `eglSetupContext` and `eglRelease` -/

/-- EGL grants a context. -/
def Granted (answers : EglSetupAnswers) : Prop :=
  answers.eglGetDisplay = true ∧ answers.eglInitialize = true ∧
    answers.eglChooseConfig.isSome = true ∧ answers.eglCreateContext = true

/-- A window has a context now, or `eglSetupContext` has failed and left nothing behind. -/
structure SetUp (owned : Multiset (EglObject × Ptr)) (bound : Option (Ptr × Ptr))
    (answers : EglSetupAnswers) (result : EglStatus × Egl) : Prop where
  surface : result.2.window.mEglSurface = .null
  bound : current result.2.log = bound
  outcome : Granted answers ∧ result.1 = .NO_ERROR ∧
      result.2.window.mEglDisplay ≠ .EGL_NO_DISPLAY ∧
      (∃ id, result.2.window.mEglContext = .obj id ∧
        Accounts ((.context, .obj id) ::ₘ owned) result.2.log) ∨
    ¬ Granted answers ∧ result.1 = .UNKNOWN_ERROR ∧ result.2.window.mEglContext = .null ∧
      Accounts owned result.2.log

theorem setUp_eglSetupContext (hbare : e.window.Bare) (h : Accounts owned e.log) (forPbuffer : Bool)
    (answers : EglSetupAnswers) :
    SetUp owned (current e.log) answers (e.eglSetupContext forPbuffer answers) := by
  obtain ⟨hcontext, hsurface⟩ := hbare
  have hdisplay := accounts_eglGetDisplay h answers.eglGetDisplay
  have hinitialize := accounts_eglInitialize hdisplay answers.eglInitialize
  have hconfig := accounts_eglChooseConfig hinitialize forPbuffer answers.eglChooseConfig
  unfold eglSetupContext
  dsimp only
  split_ifs with hno hfailed hnone hnull
  · have hgranted : ¬ Granted answers := fun h ↦ by simp [eglGetDisplay, h.1] at hno
    exact ⟨hsurface, current_eglGetDisplay _, .inr ⟨hgranted, rfl, hcontext, hdisplay⟩⟩
  · have hgranted : ¬ Granted answers := fun h ↦ by simp [h.2.1] at hfailed
    refine ⟨hsurface, ?_, .inr ⟨hgranted, rfl, hcontext, hinitialize⟩⟩
    rw [current_eglInitialize, current_eglGetDisplay]
  · have hgranted : ¬ Granted answers := by
      intro h
      have hsome := h.2.2.1
      rw [Option.isNone_iff_eq_none.mp hnone] at hsome
      cases hsome
    refine ⟨hsurface, ?_, .inr ⟨hgranted, rfl, hcontext, hconfig⟩⟩
    rw [current_eglChooseConfig, current_eglInitialize, current_eglGetDisplay]
  all_goals
    have hcurrent : current ((((e.eglGetDisplay answers.eglGetDisplay).eglInitialize
        answers.eglInitialize).eglChooseConfig forPbuffer answers.eglChooseConfig).eglCreateContext
          answers.eglCreateContext).log = current e.log := by
      rw [current_eglCreateContext, current_eglChooseConfig, current_eglInitialize,
        current_eglGetDisplay]
    have hcreated := accounts_eglCreateContext hconfig answers.eglCreateContext
  · have hgranted : ¬ Granted answers := fun h ↦ by
      simp [eglCreateContext, created, h.2.2.2] at hnull
    refine ⟨hsurface, hcurrent, .inr ⟨hgranted, rfl, hnull, ?_⟩⟩
    rcases hcreated with ⟨id, hid, -⟩ | ⟨-, hnothing⟩
    · cases hnull.symm.trans hid
    · exact hnothing
  · have hgranted : Granted answers := by
      refine ⟨?_, by simpa using hfailed, by simpa [Option.isSome_iff_ne_none] using hnone, ?_⟩
      · by_contra hdisplay
        simp [eglGetDisplay, hdisplay] at hno
      · by_contra hcontext
        simp [eglCreateContext, created, hcontext] at hnull
    refine ⟨hsurface, hcurrent, .inl ⟨hgranted, rfl, hno, ?_⟩⟩
    exact hcreated.resolve_right fun hnothing ↦ hnull hnothing.1

/-- Every pointer is null or points to an object, and a window without a display has neither. -/
structure Releasable (w : EglWindow) : Prop where
  context : w.mEglContext ≠ .indeterminate
  surface : w.mEglSurface ≠ .indeterminate
  display : w.mEglDisplay = .EGL_NO_DISPLAY → w.Bare

theorem accounts_destroyContext
    (h : Accounts (holding .context e.window.mEglContext + owned) e.log)
    (hcontext : e.window.mEglContext ≠ .indeterminate) (answer : Bool) :
    Accounts owned (e.destroyContext answer).log := by
  unfold destroyContext
  cases hptr : e.window.mEglContext with
  | indeterminate => exact absurd hptr hcontext
  | null =>
    rw [hptr] at h
    simpa using h
  | obj id =>
    rw [hptr] at h
    apply h.destroy rfl rfl
    cases answer with
    | true => exact .inl ⟨rfl, rfl⟩
    | false => exact .inr ⟨rfl, rfl⟩

theorem accounts_destroySurface
    (h : Accounts (holding .surface e.window.mEglSurface + owned) e.log)
    (hsurface : e.window.mEglSurface ≠ .indeterminate) (answer : Bool) :
    Accounts owned (e.destroySurface answer).log := by
  unfold destroySurface
  cases hptr : e.window.mEglSurface with
  | indeterminate => exact absurd hptr hsurface
  | null =>
    rw [hptr] at h
    simpa using h
  | obj id =>
    rw [hptr] at h
    apply h.destroy rfl rfl
    cases answer with
    | true => exact .inl ⟨rfl, rfl⟩
    | false => exact .inr ⟨rfl, rfl⟩

theorem destroyContext_window (answer : Bool) : (e.destroyContext answer).window = e.window := by
  unfold destroyContext
  split_ifs <;> rfl

/-- After `eglRelease` what the window had is destroyed or leaked. -/
theorem accounts_eglRelease (hw : Releasable e.window) (h : Accounts (e.window.owned + frame) e.log)
    (answers : EglReleaseAnswers) : Accounts frame (e.eglRelease answers).log := by
  unfold eglRelease
  dsimp only
  split_ifs with hdisplay
  · have hunbound : Accounts (e.window.owned + frame)
        (e.call (.eglMakeCurrent e.window.mEglDisplay .null .null) answers.eglMakeCurrent).log :=
      accounts_call h (List.forall_mem_nil _) rfl rfl rfl
    rw [EglWindow.owned, add_assoc] at hunbound
    have hcontext : Accounts (holding .surface e.window.mEglSurface + frame)
        ((e.call (.eglMakeCurrent e.window.mEglDisplay .null .null)
          answers.eglMakeCurrent).destroyContext answers.eglDestroyContext).log :=
      accounts_destroyContext hunbound hw.context _
    refine accounts_call (accounts_destroySurface ?_ ?_ _) (List.forall_mem_nil _) rfl rfl rfl
    · rw [destroyContext_window]
      exact hcontext
    · rw [destroyContext_window]
      exact hw.surface
  · rw [(hw.display (not_not.mp hdisplay)).owned, zero_add] at h
    exact accounts_call h (List.forall_mem_nil _) rfl rfl rfl

/-- It takes the binding away from the thread. -/
theorem current_eglRelease (answers : EglReleaseAnswers) :
    current (e.eglRelease answers).log = none :=
  current_call _ _

theorem eglRelease_bare (answers : EglReleaseAnswers) : (e.eglRelease answers).window.Bare :=
  ⟨rfl, rfl⟩

/-! ## The member functions -/

/-- The window has both objects or neither, and they are what exists beside the frame and what was
leaked. -/
structure Sits (frame : Multiset (EglObject × Ptr)) (e : Egl) : Prop where
  paired : e.window.Bare ∨ e.window.Complete
  accounts : Accounts (e.window.owned + frame) e.log

theorem Sits.releasable (h : Sits frame e) : Releasable e.window := by
  rcases h.paired with hbare | ⟨⟨c, hcontext⟩, ⟨f, hsurface⟩, hdisplay⟩
  · exact ⟨by simp [hbare.1], by simp [hbare.2], fun _ ↦ hbare⟩
  · exact ⟨by simp [hcontext], by simp [hsurface], fun hno ↦ absurd hno hdisplay⟩

theorem Sits.eglRelease (h : Sits frame e) (answers : EglReleaseAnswers) :
    Sits frame (e.eglRelease answers) where
  paired := .inl (eglRelease_bare answers)
  accounts := by
    rw [(eglRelease_bare answers).owned, zero_add]
    exact accounts_eglRelease h.releasable h.accounts answers

/-- The context can be created and the surface cannot. -/
def LosesSurface (w : EglWindow) (answers : EglCreateAnswers) : Prop :=
  w.mEglSurface = .null ∧ Granted answers.toEglSetupAnswers ∧ answers.surface = false

/-- `createWindow` and `createPbuffer` leave a window that has its objects alone, and keep the
binding unless they have to release a context again. -/
structure Created (frame : Multiset (EglObject × Ptr)) (e : Egl) (answers : EglCreateAnswers)
    (e' : Egl) : Prop where
  sits : Sits frame e'
  complete : e.window.Complete → e'.window = e.window
  lost : LosesSurface e.window answers → current e'.log = none
  kept : ¬ LosesSurface e.window answers → current e'.log = current e.log

theorem createSurface_null_iff (target : EglTarget) (answer : Bool) :
    (e.createSurface target answer).window.mEglSurface = .null ↔ answer = false := by
  cases answer <;> simp [createSurface, Egl.created]

theorem Sits.create (h : Sits frame e) (target : EglTarget) (answers : EglCreateAnswers) :
    Created frame e answers (e.create target answers).2 := by
  unfold Egl.create
  split_ifs with hsurface
  · exact ⟨h, fun _ ↦ rfl, fun hlost ↦ absurd hlost.1 hsurface, fun _ ↦ rfl⟩
  have hbare : e.window.Bare := by
    rcases h.paired with hbare | ⟨-, ⟨f, hf⟩, -⟩
    · exact hbare
    · exact absurd (by simp [hf]) hsurface
  have hcomplete : ¬ e.window.Complete := by
    rintro ⟨⟨c, hc⟩, -⟩
    cases hbare.1.symm.trans hc
  have haccounts := h.accounts
  rw [hbare.owned, zero_add] at haccounts
  have hsetUp := setUp_eglSetupContext hbare haccounts target.forPbuffer answers.toEglSetupAnswers
  generalize e.eglSetupContext target.forPbuffer answers.toEglSetupAnswers = result at hsetUp
  obtain ⟨status, e'⟩ := result
  obtain ⟨hnone, hbound, ⟨hgranted, rfl, hdisplay, id, hcontext, hcreated⟩ |
    ⟨hgranted, rfl, hcontext, hnothing⟩⟩ := hsetUp
  · obtain ⟨hcontext', hdisplay', hbound'⟩ := createSurface_members (e := e') target answers.surface
    have hsurfaced := accounts_createSurface hcreated target answers.surface
    dsimp only at hcontext hdisplay hsurfaced hbound ⊢
    rw [if_neg (not_not_intro rfl)]
    split_ifs with hlost
    · -- the context exists without a surface, and is released
      have hloses : LosesSurface e.window answers :=
        ⟨hbare.2, hgranted, (createSurface_null_iff target _).mp hlost⟩
      refine ⟨⟨.inl (eglRelease_bare _), ?_⟩, fun h ↦ absurd h hcomplete,
        fun _ ↦ current_eglRelease _, fun h ↦ absurd hloses h⟩
      rw [(eglRelease_bare _).owned, zero_add]
      have hnocreated := (hsurfaced.resolve_left (by simp [hlost])).2
      apply accounts_eglRelease
      · refine ⟨by simp [hcontext', hcontext], by simp [hlost], fun hno ↦ ?_⟩
        exact absurd (hdisplay'.symm.trans hno) hdisplay
      · rw [EglWindow.owned, hcontext', hcontext, hlost]
        simpa using hnocreated
    · have hkept : ¬ LosesSurface e.window answers :=
        fun h ↦ hlost ((createSurface_null_iff target _).mpr h.2.2)
      obtain ⟨f, hf, howned⟩ := hsurfaced.resolve_right fun h ↦ hlost h.1
      refine ⟨⟨.inr ⟨⟨id, hcontext'.trans hcontext⟩, ⟨f, hf⟩, hdisplay'.trans_ne hdisplay⟩, ?_⟩,
        fun h ↦ absurd h hcomplete, fun h ↦ absurd h hkept, fun _ ↦ hbound'.trans hbound⟩
      rw [EglWindow.owned, hcontext', hcontext, hf, holding_obj, holding_obj,
        add_comm (_ : Multiset _) {_}, add_assoc, Multiset.singleton_add, Multiset.singleton_add]
      exact howned
  · have hbare' : e'.window.Bare := ⟨hcontext, hnone⟩
    refine ⟨⟨.inl hbare', ?_⟩, fun h ↦ absurd h hcomplete, fun h ↦ absurd h.2.1 hgranted,
      fun _ ↦ hbound⟩
    change Accounts (e'.window.owned + frame) e'.log
    rw [hbare'.owned, zero_add]
    exact hnothing

theorem Sits.call (h : Sits frame e) {c : EglCall} (answer : Bool)
    (huses : ∀ u ∈ c.uses, u ∈ e.window.owned) (hconstructs : c.constructs = none)
    (hdestroys : c.destroys = none) (hrefused : c.refused = 0) :
    Sits frame (e.call c answer) where
  paired := h.paired
  accounts := accounts_call h.accounts (fun u hu ↦ Multiset.mem_add.mpr (.inl (huses u hu)))
    hconstructs hdestroys hrefused

theorem mem_owned {w : EglWindow} {u : EglObject × Ptr} :
    u ∈ w.owned ↔ u ∈ pointee .context w.mEglContext ∨ u ∈ pointee .surface w.mEglSurface :=
  Multiset.mem_add

theorem Sits.makeCurrent (h : Sits frame e) (answer : Bool) :
    Sits frame (e.makeCurrent answer).2 := by
  have hcall : Sits frame (e.call (.eglMakeCurrent e.window.mEglDisplay e.window.mEglSurface
      e.window.mEglContext) answer) := by
    apply h.call answer _ rfl rfl rfl
    intro u hu
    exact mem_owned.mpr (List.mem_append.mp hu).symm
  unfold Egl.makeCurrent
  cases answer <;> exact hcall

theorem Sits.presentationTime (h : Sits frame e) (whenNsec : ℤ) (answer : Bool) :
    Sits frame (e.presentationTime whenNsec answer) :=
  h.call answer (fun _ hu ↦ mem_owned.mpr (.inr hu)) rfl rfl rfl

theorem Sits.swapBuffers (h : Sits frame e) (answer : Bool) : Sits frame (e.swapBuffers answer) :=
  h.call answer (fun _ hu ↦ mem_owned.mpr (.inr hu)) rfl rfl rfl

end Egl

namespace EglThread

open Egl

/-- What the members of a window point to, unless it has been destructed. -/
def ownedBy : Option EglWindow → Multiset (EglObject × Ptr)
  | some w => w.owned
  | none => 0

def owned (s : EglThread) : Multiset (EglObject × Ptr) := (s.windows.map ownedBy).sum

/-- Every window has both objects or neither, and together they have all objects that exist and
were not leaked. -/
structure Exact (s : EglThread) : Prop where
  paired : ∀ w, some w ∈ s.windows → w.Bare ∨ w.Complete
  accounts : Accounts s.owned s.log

theorem window?_eq_some {s : EglThread} {index : ℕ} {w : EglWindow} :
    s.window? index = some w ↔ s.windows[index]? = some (some w) :=
  Option.join_eq_some_iff

theorem window?_set {s : EglThread} {index : ℕ} {w w' : EglWindow} {log : List (Entry EglCall)}
    (hw : s.window? index = some w) (i : ℕ) :
    window? ⟨log, s.windows.set index (some w')⟩ i =
      if i = index then some w' else s.window? i := by
  obtain ⟨hlt, -⟩ := List.getElem?_eq_some_iff.mp (window?_eq_some.mp hw)
  unfold window?
  dsimp only
  split_ifs with hi
  · rw [hi, List.getElem?_set_self hlt]
    rfl
  · rw [List.getElem?_set_ne (Ne.symm hi)]

/-- The objects of one window, next to those of the others. -/
theorem owned_split {s : EglThread} {index : ℕ} {w : EglWindow} (hw : s.window? index = some w) :
    s.owned = w.owned + ((s.windows.eraseIdx index).map ownedBy).sum ∧
      ∀ slot, ((s.windows.set index slot).map ownedBy).sum =
        ownedBy slot + ((s.windows.eraseIdx index).map ownedBy).sum := by
  obtain ⟨hlt, heq⟩ := List.getElem?_eq_some_iff.mp (window?_eq_some.mp hw)
  constructor
  · have hperm := (List.getElem_cons_eraseIdx_perm hlt).map ownedBy
    rw [owned, ← hperm.sum_eq, List.map_cons, List.sum_cons, heq]
    rfl
  · intro slot
    have hperm := (List.set_perm_cons_eraseIdx hlt slot).map ownedBy
    rw [hperm.sum_eq, List.map_cons, List.sum_cons]

theorem exact_start : start.Exact where
  paired w hw := by simp [start] at hw
  accounts := owns_nil

namespace Exact

variable {s t : EglThread} (h : s.Exact)

include h

theorem sits {index : ℕ} {w : EglWindow} (hw : s.window? index = some w) :
    Sits ((s.windows.eraseIdx index).map ownedBy).sum ⟨s.log, w⟩ where
  paired := h.paired w (List.mem_of_getElem? (window?_eq_some.mp hw))
  accounts := (owned_split hw).1 ▸ h.accounts

/-- A member function that keeps its window in order. -/
theorem set {index : ℕ} {w : EglWindow} (hw : s.window? index = some w) {e : Egl}
    (he : Sits ((s.windows.eraseIdx index).map ownedBy).sum e) :
    Exact ⟨e.log, s.windows.set index (some e.window)⟩ where
  paired w' hw' := by
    rcases List.mem_or_eq_of_mem_set hw' with hold | heq
    · exact h.paired w' hold
    · cases heq
      exact he.paired
  accounts := by
    have howned := (owned_split hw).2 (some e.window)
    unfold owned
    rw [howned]
    exact he.accounts

theorem on {index : ℕ} {f : Egl → Egl} (hf : ∀ frame e, Sits frame e → Sits frame (f e))
    (hon : s.on index f = some t) : t.Exact := by
  obtain ⟨w, hw, heq⟩ := Option.bind_eq_some_iff.mp hon
  cases heq
  exact h.set hw (hf _ _ (h.sits hw))

theorem step {a : Action} (hstep : s.step a = some t) : t.Exact := by
  cases a with
  | construct =>
    cases hstep
    refine ⟨fun w hw ↦ ?_, ?_⟩
    · rcases List.mem_append.mp hw with hold | hnew
      · exact h.paired w hold
      · cases List.mem_singleton.mp hnew
        exact .inl ⟨rfl, rfl⟩
    · have hsame : (s.windows ++ [some EglWindow.construct]).map ownedBy =
          s.windows.map ownedBy ++ [0] := List.map_append
      unfold owned
      rw [hsame, List.sum_append, List.sum_singleton, add_zero]
      exact h.accounts
  | createWindow index producer answers =>
    exact h.on (fun _ _ he ↦ (he.create (.window producer) answers).sits) hstep
  | createPbuffer index width height answers =>
    exact h.on (fun _ _ he ↦ (he.create (.pbuffer width height) answers).sits) hstep
  | makeCurrent index answer => exact h.on (fun _ _ he ↦ he.makeCurrent answer) hstep
  | presentationTime index whenNsec answer =>
    exact h.on (fun _ _ he ↦ he.presentationTime whenNsec answer) hstep
  | swapBuffers index answer => exact h.on (fun _ _ he ↦ he.swapBuffers answer) hstep
  | release index answers => exact h.on (fun _ _ he ↦ he.eglRelease answers) hstep
  | destruct index answers =>
    obtain ⟨w, hw, heq⟩ := Option.bind_eq_some_iff.mp hstep
    cases heq
    refine ⟨fun w' hw' ↦ ?_, ?_⟩
    · rcases List.mem_or_eq_of_mem_set hw' with hold | heq
      · exact h.paired w' hold
      · cases heq
    · have hrest := accounts_eglRelease (h.sits hw).releasable (h.sits hw).accounts answers
      have howned := (owned_split hw).2 none
      unfold owned
      rw [howned]
      simpa [ownedBy] using hrest

/-- What the windows have belongs to one of them. -/
theorem mem_owned_iff (u : EglObject × Ptr) :
    u ∈ s.owned ↔ ∃! index, ∃ w, s.window? index = some w ∧ u ∈ w.owned := by
  constructor
  · intro hmem
    obtain ⟨slot, hslot, hp⟩ := mem_sum_map.mp hmem
    cases slot with
    | none => exact absurd hp (Multiset.notMem_zero _)
    | some w =>
      obtain ⟨index, hindex⟩ := List.mem_iff_getElem?.mp hslot
      have hw := window?_eq_some.mpr hindex
      refine ⟨index, ⟨w, hw, hp⟩, ?_⟩
      rintro other ⟨w', hw', hp'⟩
      by_contra hne
      have hnodup := (Multiset.nodup_add.mp h.accounts.nodup).1
      rw [(owned_split hw).1] at hnodup
      apply Multiset.disjoint_left.mp (Multiset.nodup_add.mp hnodup).2.2 hp
      refine mem_sum_map.mpr ⟨some w', ?_, hp'⟩
      exact List.mem_eraseIdx_iff_getElem?.mpr ⟨other, hne, window?_eq_some.mp hw'⟩
  · rintro ⟨index, ⟨w, hw, hp⟩, -⟩
    rw [(owned_split hw).1]
    exact Multiset.mem_add.mpr (.inl hp)

/-- What was leaked exists still, and belongs to no window. -/
theorem extant_of_mem_leaked {u : EglObject × Ptr} (hu : u ∈ leaked s.log) :
    Extant s.log u.1 u.2 ∧ ∀ index w, s.window? index = some w → u ∉ w.owned := by
  refine ⟨(h.accounts.extant_iff _ _).mpr (Multiset.mem_add.mpr (.inr hu)), ?_⟩
  intro index w hw hmem
  have hdisjoint := (Multiset.nodup_add.mp h.accounts.nodup).2.2
  apply Multiset.disjoint_left.mp hdisjoint _ hu
  rw [(owned_split hw).1]
  exact Multiset.mem_add.mpr (.inl hmem)

/-- An object that exists belongs to one window or was leaked. -/
theorem extant_iff (kind : EglObject) (p : Ptr) : Extant s.log kind p ↔
    (∃! index, ∃ w, s.window? index = some w ∧ (kind, p) ∈ w.owned) ∨
      (kind, p) ∈ leaked s.log := by
  rw [h.accounts.extant_iff, Multiset.mem_add, h.mem_owned_iff]

end Exact

theorem exact_run {actions : List Action} {t : EglThread} (hrun : run step start actions = some t) :
    t.Exact :=
  run_invariant' (fun _ _ _ hs hstep ↦ hs.step hstep) exact_start hrun

/-- In every run of a thread with any number of windows, whatever EGL answers: no call uses an
object that does not exist, and every window has a context and a surface or neither. Every object
that exists belongs to one window, or to none if EGL has refused to destroy it. So the objects that
exist are those of the windows exactly if it has refused nothing. -/
theorem owned_exactly {actions : List Action} {t : EglThread}
    (hrun : run step start actions = some t) :
    Sound t.log ∧ (∀ w, some w ∈ t.windows → w.Bare ∨ w.Complete) ∧
      (∀ kind p, Extant t.log kind p ↔
        (∃! index, ∃ w, t.window? index = some w ∧ (kind, p) ∈ w.owned) ∨
          (kind, p) ∈ leaked t.log) ∧
      (∀ u ∈ leaked t.log, ∀ index w, t.window? index = some w → u ∉ w.owned) ∧
      ((∀ kind p, Extant t.log kind p ↔
        ∃! index, ∃ w, t.window? index = some w ∧ (kind, p) ∈ w.owned) ↔
          ∀ e ∈ t.log, e.request.refused = 0) := by
  have hexact := exact_run hrun
  refine ⟨hexact.accounts.sound, hexact.paired, hexact.extant_iff,
    fun u hu ↦ (hexact.extant_of_mem_leaked hu).2, ?_⟩
  rw [← leaked_eq_zero_iff]
  constructor
  · intro hall
    refine Multiset.eq_zero_of_forall_notMem fun u hu ↦ ?_
    obtain ⟨hextant, hnone⟩ := hexact.extant_of_mem_leaked hu
    obtain ⟨index, ⟨w, hw, hmem⟩, -⟩ := (hall u.1 u.2).mp hextant
    exact hnone index w hw hmem
  · intro hnothing kind p
    rw [hexact.extant_iff, hnothing, or_iff_left (Multiset.notMem_zero _)]

/-- EGL answers every call of `createWindow` or `createPbuffer` with success. -/
def granted : EglCreateAnswers := ⟨⟨true, true, some (some 0), true⟩, true, ⟨true, true, true⟩⟩

/-- Two windows, of which the first is made current. -/
def twoWindows : List Action :=
  [.construct, .construct, .createPbuffer 0 640 480 granted, .createPbuffer 1 320 240 granted,
    .makeCurrent 0 true]

theorem owned_exactly_twoWindows : ∃ t, run step start twoWindows = some t ∧ Sound t.log ∧
    ∀ kind p, Extant t.log kind p ↔
      ∃! index, ∃ w, t.window? index = some w ∧ (kind, p) ∈ w.owned := by
  have hrun : run step start twoWindows =
      some ((run step start twoWindows).getD start) := by decide
  obtain ⟨hsound, -, -, -, hextant⟩ := owned_exactly hrun
  exact ⟨_, hrun, hsound, hextant.mpr (by decide)⟩

/-! ## The binding -/

/-- The call leaves the binding of the thread alone. -/
def KeepsBinding (s : EglThread) : Action → Prop
  | .createWindow index _ answers | .createPbuffer index _ _ answers =>
    ∀ w, s.window? index = some w → ¬ LosesSurface w answers
  | .makeCurrent _ answer => answer = false
  | .release _ _ | .destruct _ _ => False
  | .construct | .presentationTime _ _ _ | .swapBuffers _ _ => True

/-- What one call does to the binding. -/
structure Binds (s : EglThread) (a : Action) (t : EglThread) : Prop where
  kept : s.KeepsBinding a → current t.log = current s.log ∧
    ∀ i w, s.window? i = some w → w.Complete → t.window? i = some w
  bound : ∀ i, a = .makeCurrent i true → ∃ w, s.window? i = some w ∧ t.window? i = some w ∧
    current t.log = if w.mEglContext = .null then none else some (w.mEglSurface, w.mEglContext)
  lost : ¬ s.KeepsBinding a → (∀ i, a ≠ .makeCurrent i true) → current t.log = none

section Binds

variable {s t : EglThread} {index : ℕ}

/-- A member function that leaves its window and the binding alone. -/
theorem Binds.of_kept {a : Action} {f : Egl → Egl} (hon : s.on index f = some t)
    (hkeeps : s.KeepsBinding a) (hother : ∀ i, a ≠ .makeCurrent i true)
    (hlog : ∀ e, current (f e).log = current e.log) (hwindow : ∀ e, (f e).window = e.window) :
    s.Binds a t := by
  obtain ⟨w, hw, heq⟩ := Option.bind_eq_some_iff.mp hon
  cases heq
  refine ⟨fun _ ↦ ⟨hlog _, fun i w' hw' _ ↦ ?_⟩, fun i ha ↦ absurd ha (hother i),
    fun hnot ↦ absurd hkeeps hnot⟩
  rw [window?_set hw, hwindow]
  split_ifs with hi
  · rw [← hw', hi, hw]
  · exact hw'

theorem Binds.create (h : s.Exact) {target : EglTarget} {answers : EglCreateAnswers} {a : Action}
    (hkeeps : s.KeepsBinding a ↔ ∀ w, s.window? index = some w → ¬ LosesSurface w answers)
    (hother : ∀ i, a ≠ .makeCurrent i true)
    (hon : (s.on index fun e ↦ (e.create target answers).2) = some t) : s.Binds a t := by
  obtain ⟨w, hw, heq⟩ := Option.bind_eq_some_iff.mp hon
  cases heq
  have hcreated := (h.sits hw).create target answers
  refine ⟨fun hkept ↦ ⟨hcreated.kept (hkeeps.mp hkept w hw), fun i w' hw' hcomplete ↦ ?_⟩,
    fun i ha ↦ absurd ha (hother i), fun hlost _ ↦ hcreated.lost ?_⟩
  · rw [window?_set hw]
    split_ifs with hi
    · subst hi
      cases hw.symm.trans hw'
      rw [hcreated.complete hcomplete]
    · exact hw'
  · by_contra hnot
    refine hlost (hkeeps.mpr fun w' hw' ↦ ?_)
    cases hw.symm.trans hw'
    exact hnot

theorem binds_step (h : s.Exact) {a : Action} (hstep : s.step a = some t) : s.Binds a t := by
  cases a with
  | construct =>
    cases hstep
    refine ⟨fun _ ↦ ⟨rfl, fun i w hw _ ↦ ?_⟩, fun _ ha ↦ (by cases ha),
      fun hnot ↦ absurd trivial hnot⟩
    rw [window?_eq_some] at hw ⊢
    exact (List.getElem?_append_left (List.getElem?_eq_some_iff.mp hw).1).trans hw
  | createWindow index producer answers =>
    exact Binds.create h Iff.rfl (fun _ ↦ Action.noConfusion) hstep
  | createPbuffer index width height answers =>
    exact Binds.create h Iff.rfl (fun _ ↦ Action.noConfusion) hstep
  | makeCurrent index answer =>
    cases answer with
    | false =>
      have hon : s.on index (fun e ↦ (e.makeCurrent false).2) = some t := hstep
      refine Binds.of_kept hon rfl (fun i ha ↦ ?_) (fun e ↦ ?_) fun _ ↦ rfl
      · cases ha
      · exact current_call_of_bind fun _ ↦ rfl
    | true =>
      obtain ⟨w, hw, heq⟩ := Option.bind_eq_some_iff.mp hstep
      cases heq
      refine ⟨fun hkeeps ↦ (by cases hkeeps), fun i ha ↦ ?_,
        fun _ hother ↦ absurd rfl (hother index)⟩
      cases ha
      refine ⟨w, hw, ?_, current_call _ _⟩
      rw [window?_set hw, if_pos rfl]
      rfl
  | presentationTime index whenNsec answer =>
    have hon : s.on index (fun e ↦ e.presentationTime whenNsec answer) = some t := hstep
    refine Binds.of_kept hon trivial (fun _ ↦ Action.noConfusion) (fun e ↦ ?_) fun _ ↦ rfl
    exact current_call_of_bind fun _ ↦ rfl
  | swapBuffers index answer =>
    have hon : s.on index (fun e ↦ e.swapBuffers answer) = some t := hstep
    refine Binds.of_kept hon trivial (fun _ ↦ Action.noConfusion) (fun e ↦ ?_) fun _ ↦ rfl
    exact current_call_of_bind fun _ ↦ rfl
  | release index answers =>
    obtain ⟨w, hw, heq⟩ := Option.bind_eq_some_iff.mp hstep
    cases heq
    exact ⟨False.elim, fun _ ha ↦ (by cases ha), fun _ _ ↦ current_eglRelease answers⟩
  | destruct index answers =>
    obtain ⟨w, hw, heq⟩ := Option.bind_eq_some_iff.mp hstep
    cases heq
    exact ⟨False.elim, fun _ ha ↦ (by cases ha), fun _ _ ↦ current_eglRelease answers⟩

end Binds

/-- The run made this window current, when it had the objects it has in `w`, and no call after that
touched the binding. -/
def MadeCurrent (actions : List Action) (index : ℕ) (w : EglWindow) : Prop :=
  ∃ before after u u', actions = before ++ .makeCurrent index true :: after ∧
    run step start before = some u ∧ u.window? index = some w ∧ w.Complete ∧
    u.step (.makeCurrent index true) = some u' ∧ StepsAll step KeepsBinding u' after

theorem MadeCurrent.complete {actions : List Action} {index : ℕ} {w : EglWindow}
    (h : MadeCurrent actions index w) : w.Complete := by
  obtain ⟨before, after, u, u', -, -, -, hcomplete, -⟩ := h
  exact hcomplete

/-- One more call after the window was made current. -/
theorem madeCurrent_snoc {actions : List Action} {a : Action} {s t : EglThread} {index : ℕ}
    {w : EglWindow} (hs : run step start actions = some s) (hst : s.step a = some t) :
    MadeCurrent (actions ++ [a]) index w ↔
      MadeCurrent actions index w ∧ s.KeepsBinding a ∨
      a = .makeCurrent index true ∧ s.window? index = some w ∧ w.Complete := by
  constructor
  · intro h
    obtain ⟨before, after, u, u', heq, hu, hw, hcomplete, hstep, hkept⟩ := h
    rcases List.eq_nil_or_concat after with rfl | ⟨init, last, rfl⟩
    · obtain ⟨rfl, hlast⟩ := List.append_inj' heq rfl
      cases hlast
      cases hs.symm.trans hu
      exact .inr ⟨rfl, hw, hcomplete⟩
    · rw [List.concat_eq_append, ← List.cons_append, ← List.append_assoc] at heq
      obtain ⟨rfl, hlast⟩ := List.append_inj' heq rfl
      cases hlast
      rw [List.concat_eq_append, stepsAll_snoc] at hkept
      have hinit : run step u' init = some s := by
        rw [run_append, hu, Option.bind_some, run_cons, hstep, Option.bind_some] at hs
        exact hs
      exact .inl ⟨⟨before, init, u, u', rfl, hu, hw, hcomplete, hstep, hkept.1⟩,
        hkept.2 s hinit⟩
  · intro h
    rcases h with ⟨⟨before, after, u, u', rfl, hu, hw, hcomplete, hstep, hkept⟩, hlast⟩ |
      ⟨rfl, hw, hcomplete⟩
    · refine ⟨before, after ++ [a], u, u', by simp, hu, hw, hcomplete, hstep, ?_⟩
      refine stepsAll_snoc.mpr ⟨hkept, fun s' hs' ↦ ?_⟩
      rw [run_append, hu, Option.bind_some, run_cons, hstep, Option.bind_some, hs'] at hs
      cases hs
      exact hlast
    · exact ⟨actions, [], s, t, rfl, hs, hw, hcomplete, hst, trivial⟩

/-- A window that was made current has its objects still, and they are current still. -/
theorem MadeCurrent.still {actions : List Action} {t : EglThread} {index : ℕ} {w : EglWindow}
    (h : MadeCurrent actions index w) (hrun : run step start actions = some t) :
    t.window? index = some w ∧ current t.log = some (w.mEglSurface, w.mEglContext) := by
  induction actions using List.reverseRecOn generalizing t with
  | nil =>
    obtain ⟨before, after, u, u', hnil, -⟩ := h
    simp at hnil
  | append_singleton actions a ih =>
    obtain ⟨s, hs, hstep⟩ := run_snoc_eq_some.mp hrun
    have hbinds := binds_step (exact_run hs) hstep
    rcases (madeCurrent_snoc hs hstep).mp h with ⟨hmade, hkeeps⟩ | ⟨rfl, hw, hcomplete⟩
    · obtain ⟨hw, hbound⟩ := ih hmade hs
      obtain ⟨hcurrent, hwindow⟩ := hbinds.kept hkeeps
      exact ⟨hwindow index w hw hmade.complete, hcurrent.trans hbound⟩
    · obtain ⟨w', hw', hw'', hcurrent⟩ := hbinds.bound index rfl
      cases hw.symm.trans hw'
      obtain ⟨⟨c, hc⟩, -⟩ := hcomplete
      refine ⟨hw'', ?_⟩
      rw [hcurrent, hc]
      rfl

/-- In every run: a surface and a context are current exactly if they are those of a window that was
made current with them, and since then no window of the thread has been made current, released,
destructed or left without a surface. They are that window's still. -/
theorem current_iff_madeCurrent {actions : List Action} {t : EglThread}
    (hrun : run step start actions = some t) (bound : Ptr × Ptr) :
    current t.log = some bound ↔ ∃ index w, MadeCurrent actions index w ∧
      t.window? index = some w ∧ bound = (w.mEglSurface, w.mEglContext) := by
  constructor
  · induction actions using List.reverseRecOn generalizing t with
    | nil =>
      cases hrun
      intro h
      cases h
    | append_singleton actions a ih =>
      obtain ⟨s, hs, hstep⟩ := run_snoc_eq_some.mp hrun
      have hbinds := binds_step (exact_run hs) hstep
      intro h
      by_cases hkeeps : s.KeepsBinding a
      · -- whoever is current was so before
        obtain ⟨hcurrent, -⟩ := hbinds.kept hkeeps
        obtain ⟨index, w, hmade, -, heq⟩ := ih hs (hcurrent.symm.trans h)
        have hmade' := (madeCurrent_snoc hs hstep).mpr (.inl ⟨hmade, hkeeps⟩)
        exact ⟨index, w, hmade', (hmade'.still hrun).1, heq⟩
      · by_cases hother : ∀ i, a ≠ .makeCurrent i true
        · cases (hbinds.lost hkeeps hother).symm.trans h
        · obtain ⟨i, ha⟩ := not_forall_not.mp hother
          obtain ⟨w, hw, hw', hcurrent⟩ := hbinds.bound i ha
          rw [h] at hcurrent
          have hpaired := (exact_run hs).paired w (List.mem_of_getElem? (window?_eq_some.mp hw))
          split_ifs at hcurrent with hnull
          have hcomplete := hpaired.resolve_left fun hbare ↦ hnull hbare.1
          have hmade := (madeCurrent_snoc hs hstep).mpr (.inr ⟨ha, hw, hcomplete⟩)
          exact ⟨i, w, hmade, hw', Option.some.inj hcurrent⟩
  · rintro ⟨index, w, hmade, -, rfl⟩
    exact (hmade.still hrun).2

theorem madeCurrent_twoWindows : ∃ index w, MadeCurrent twoWindows index w ∧
    ((run step start twoWindows).getD start).window? index = some w ∧
    (Ptr.obj 4, Ptr.obj 3) = (w.mEglSurface, w.mEglContext) := by
  have hrun : run step start twoWindows =
      some ((run step start twoWindows).getD start) := by decide
  exact (current_iff_madeCurrent hrun (.obj 4, .obj 3)).mp (by decide)

/-- Releasing the second window takes the binding away from the first. -/
example : (run step start (twoWindows ++ [.release 1 ⟨true, true, true⟩])).map
    (fun t ↦ current t.log) = some none := by decide

end EglThread

end WLManager
