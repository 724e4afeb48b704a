import WLManager.Client.WindowThread

/-!
# The first configure

The description of `xdg_surface` makes it an error to attach a buffer to a surface before its first
configure event has been received and answered. `initialize` waits for one roundtrip, which need
not bring that event, and `pushFrame` looks at nothing before it attaches. So the order is kept
exactly in the runs in which a configure event has been answered before every call of `pushFrame`.
-/

namespace WLManager

open History Transition

namespace Request

def isAttach : Request → Bool
  | wl_surface_attach _ _ _ _ => true
  | _ => false

end Request

/-- A configure event has been received and answered. -/
def Acked (log : List (Entry Request)) : Prop := ∃ e ∈ log, e.request.isAckConfigure = true

instance (log : List (Entry Request)) : Decidable (Acked log) :=
  inferInstanceAs (Decidable (∃ e ∈ log, _))

/-- No buffer was attached before that. -/
def ConfiguredFirst (log : List (Entry Request)) : Prop :=
  Always (fun past r ↦ r.isAttach = true → Acked past) log

namespace WindowManager

/-- A call of `pushFrame` begins only after a configure event has been answered. -/
def CallsConfigured (s : Thread WindowManager) : Activity → Prop
  | .call _ => s.todo = [] → Acked s.memory.log
  | .main | .event _ => True

variable {kind : Request → Prop} {wm wm' : WindowManager}

theorem Adds.acked (h : Adds kind wm wm') (hacked : Acked wm.log) : Acked wm'.log := by
  obtain ⟨more, hlog, -⟩ := h
  obtain ⟨e, he, hack⟩ := hacked
  rw [hlog]
  exact ⟨e, List.mem_append_left _ he, hack⟩

theorem Adds.not_acked (h : Adds kind wm wm') (hkind : ∀ r, kind r → r.isAckConfigure = false)
    (hacked : ¬ Acked wm.log) : ¬ Acked wm'.log := by
  obtain ⟨more, hlog, hmore⟩ := h
  rw [hlog]
  rintro ⟨e, he, hack⟩
  rcases List.mem_append.mp he with hold | hnew
  · exact hacked ⟨e, hold, hack⟩
  · rw [hkind _ (hmore e hnew)] at hack
    cases hack

/-- Requests that attach nothing keep the order. -/
theorem Adds.configuredFirst (h : Adds kind wm wm') (hkind : ∀ r, kind r → r.isAttach = false)
    (hfirst : ConfiguredFirst wm.log) : ConfiguredFirst wm'.log := by
  obtain ⟨more, hlog, hmore⟩ := h
  rw [hlog]
  refine hfirst.append fun past _ e he hattach ↦ ?_
  rw [hkind _ (hmore e he)] at hattach
  cases hattach

/-- Once a configure event has been answered, every request keeps the order. -/
theorem Adds.configuredFirst_of_acked (h : Adds kind wm wm') (hacked : Acked wm.log)
    (hfirst : ConfiguredFirst wm.log) : ConfiguredFirst wm'.log := by
  obtain ⟨more, hlog, -⟩ := h
  obtain ⟨e, he, hack⟩ := hacked
  rw [hlog]
  exact hfirst.append fun past hpast _ _ _ ↦ ⟨e, hpast.subset he, hack⟩

theorem isAttach_of_ofHandler (r : Request) (h : r.OfHandler) : r.isAttach = false := by
  cases r <;> first | rfl | exact h.elim

theorem isAttach_of_ofInitialize (r : Request) (h : r.OfInitialize) : r.isAttach = false := by
  cases r <;> first | rfl | exact h.elim

theorem isAttach_of_ofConstruct (r : Request)
    (h : r.OfConstructor ∨ r.OfHandler ∨ r.OfExit) : r.isAttach = false := by
  cases r <;> first | rfl | simp only [Request.OfConstructor, Request.OfHandler, Request.OfExit,
    or_false] at h

theorem isAckConfigure_of_ofPushFrame (r : Request) (h : r.OfPushFrame) :
    r.isAckConfigure = false := by
  cases r <;> first | rfl | simp only [Request.OfPushFrame, MakesBuffer, or_false] at h

theorem configuredFirst_dispatch (wm : WindowManager) (e : Event)
    (h : ConfiguredFirst wm.log) : ConfiguredFirst (wm.dispatch e).log :=
  (adds_dispatch wm e).configuredFirst isAttach_of_ofHandler h

/-- The constructor and `initialize` attach nothing. -/
theorem outlined_start (answers : StartAnswers) (created : Bool) :
    Thread.Outlined dispatch CallsConfigured (fun wm ↦ ConfiguredFirst wm.log)
      (fun wm ↦ ConfiguredFirst wm.log) (start answers created) := by
  refine ⟨fun wm ↦ ConfiguredFirst wm.log, ?_, .constant (fun _ ↦ id) (fun _ ↦ id)
    configuredFirst_dispatch ?_⟩
  · exact (adds_construct answers).configuredFirst isAttach_of_ofConstruct always_nil
  · intro statement hstatement wm hfirst
    exact (adds_initializeBody created statement hstatement wm).configuredFirst
      isAttach_of_ofInitialize hfirst

/-- After an answered configure event `pushFrame` may attach. -/
theorem outline_pushFrame (frame : Frame) :
    Thread.Outline dispatch CallsConfigured (fun wm ↦ ConfiguredFirst wm.log)
      (fun wm ↦ ConfiguredFirst wm.log) (fun wm ↦ Acked wm.log ∧ ConfiguredFirst wm.log)
      (pushFrameBody frame) := by
  refine .constant (fun _ ↦ And.right) (fun _ ↦ And.right) ?_ ?_
  · rintro wm e ⟨hacked, hfirst⟩
    exact ⟨(adds_dispatch wm e).acked hacked, configuredFirst_dispatch wm e hfirst⟩
  · rintro statement hstatement wm ⟨hacked, hfirst⟩
    have hadds := adds_pushFrameBody frame statement hstatement wm
    exact ⟨hadds.acked hacked, hadds.configuredFirst_of_acked hacked hfirst⟩

/-- Before that, it attaches too early. -/
theorem not_configuredFirst_pushFrame {wm : WindowManager} (frame : Frame)
    (hacked : ¬ Acked wm.log) : ¬ ConfiguredFirst (wm.pushFrame frame).log := by
  -- `pushFrame` has come to `wl_surface_attach`
  let attaching := addFrameListener (requestFrame (cacheBuffer frame wm))
  have hlog : (wm.pushFrame frame).log = attaching.log ++
      ⟨.wl_surface_attach attaching.w_surface (attaching.bufferFor frame.buffer) 0 0, true⟩ ::
        [⟨.wl_surface_damage attaching.w_surface 0 0 frame.width frame.height, true⟩,
          ⟨.wl_surface_commit attaching.w_surface, true⟩,
          ⟨.wl_display_flush attaching.dpy, true⟩] := by
    simp only [pushFrame, execute, pushFrameBody, List.foldl_cons, List.foldl_nil, attach, damage,
      commit, flush, send, issue, bufferFor, List.append_assoc, List.cons_append, List.nil_append,
      attaching]
  have hadds : ∀ statement ∈ pushFrameBody frame, ∀ wm, ¬ Acked wm.log →
      ¬ Acked (statement wm).log := by
    intro statement hstatement wm hacked
    apply (adds_pushFrameBody frame statement hstatement wm).not_acked _ hacked
    exact isAckConfigure_of_ofPushFrame
  have hbefore : ¬ Acked attaching.log := by
    apply hadds addFrameListener (by simp [pushFrameBody])
    apply hadds requestFrame (by simp [pushFrameBody])
    apply hadds (cacheBuffer frame) (by simp [pushFrameBody])
    exact hacked
  intro hfirst
  exact hbefore (hfirst _ _ _ hlog rfl)

theorem outlined_configured_step {s t : Thread WindowManager} {a : Activity}
    (h : Thread.Outlined dispatch CallsConfigured (fun wm ↦ ConfiguredFirst wm.log)
      (fun wm ↦ ConfiguredFirst wm.log) s) (hcond : CallsConfigured s a)
    (hstep : step s a = some t) :
    Thread.Outlined dispatch CallsConfigured (fun wm ↦ ConfiguredFirst wm.log)
      (fun wm ↦ ConfiguredFirst wm.log) t := by
  apply h.step _ _ hcond hstep
  · exact fun wm e hfirst _ ↦ configuredFirst_dispatch wm e hfirst
  · exact fun wm frame hfirst hcalls ↦ ⟨_, ⟨hcalls rfl, hfirst⟩, outline_pushFrame frame⟩

/-- When every call of `pushFrame` begins after an answered configure event, no buffer is attached
before it in any state of the run. -/
theorem statesAll_configuredFirst {answers : StartAnswers} {created : Bool}
    {activities : List Activity}
    (hcalls : StepsAll step CallsConfigured (start answers created) activities) :
    StatesAll step (fun t ↦ ConfiguredFirst t.memory.log) (start answers created) activities :=
  (statesAll_of_stepsAll (fun _ _ _ h hcond ↦ outlined_configured_step h hcond)
    (outlined_start answers created) hcalls).mono fun _ h ↦ h.memory_good fun _ ↦ id

/-- In every run, and however the calls in progress go on, no buffer is attached before the first
answered configure event exactly when every call of `pushFrame` begins after one. -/
theorem configuredFirst_iff_callsConfigured (answers : StartAnswers) (created : Bool)
    (activities : List Activity) :
    Thread.FinishesAll pushFrameBody dispatch (fun t ↦ ConfiguredFirst t.memory.log)
        (start answers created) activities ↔
      StepsAll step CallsConfigured (start answers created) activities := by
  apply Thread.finishesAll_iff (Thread.Outlined dispatch CallsConfigured
    (fun wm ↦ ConfiguredFirst wm.log) fun wm ↦ ConfiguredFirst wm.log)
  · exact fun t h ↦ h.memory_good fun _ ↦ id
  · exact fun _ ↦ trivial
  · exact fun _ _ _ h hcond ↦ outlined_configured_step h hcond
  · intro s a h hcond
    cases a with
    | main => exact absurd trivial hcond
    | event e => exact absurd trivial hcond
    | call frame =>
      obtain ⟨wm, todo⟩ := s
      obtain ⟨hidle, hacked⟩ : todo = [] ∧ ¬ Acked wm.log := Classical.not_imp.mp hcond
      subst hidle
      exact ⟨_, _, run_pushFrameBody wm frame, not_configuredFirst_pushFrame frame hacked⟩
  · exact outlined_start answers created

/-- The surface is set up and shows a frame, while the compositor has not sent a configure event
yet. -/
def shownUnconfigured : List Activity :=
  let frame := (GraphicBuffer.onePixel 0).frame
  List.replicate (initializeBody true).length .main ++
    .call frame :: List.replicate (pushFrameBody frame).length .main

/-- The buffer is attached to a surface that has not been configured. -/
theorem not_configuredFirst_shownUnconfigured :
    ¬ StatesAll step (fun t ↦ ConfiguredFirst t.memory.log) (start .prompt true)
      shownUnconfigured := by
  intro h
  have hrun : run step (start .prompt true) shownUnconfigured =
      some ⟨((construct .prompt).runInitialize true).1.pushFrame (GraphicBuffer.onePixel 0).frame,
        []⟩ := by
    rw [shownUnconfigured, run_append, run_initializeBody]
    exact run_pushFrameBody _ _
  have hacked : ¬ Acked ((construct .prompt).runInitialize true).1.log := by decide
  apply not_configuredFirst_pushFrame _ hacked
  exact statesAll_iff_prefix.mp h _ (List.prefix_refl _) _ hrun

end WindowManager

end WLManager
