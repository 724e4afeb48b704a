import WLManager.Client.LiveProxies

/-!
# Starting without the compositor

The constructor has two early exits, which report the failure and disconnect, and its caller goes
on in any case. The members it did not reach have no value, and `dpy` keeps the value that the exit
has already disconnected. A global that is not announced is not noticed at all. So the window starts
cleanly exactly when the connection, the registry and all the globals it needs are there; and it
stays so exactly when no frame is pushed without a surface and no done event comes between the two
requests that set up the next frame callback.
-/

namespace WLManager

open History Transition

namespace WindowManager

/-- The globals without which there is no window. -/
def needed : List GlobalInterface :=
  [.wl_compositor, .wl_output, .wl_seat, .android_wlegl, .xdg_wm_base]

/-- The connection, the registry and every needed global are there. -/
structure StartAnswers.Complete (answers : StartAnswers) : Prop where
  connected : ∃ remaining < tries, answers.connect remaining = true
  registry : answers.registry = true
  announced : ∀ interface ∈ needed, interface ∈ answers.globals.map Global.interface

theorem complete_prompt : StartAnswers.prompt.Complete :=
  ⟨⟨0, by decide, rfl⟩, rfl, by decide⟩

end WindowManager

/-- Messages and the disconnection, by which a failure is dealt with. -/
def Request.isExit : Request → Bool
  | report _ | wl_display_disconnect _ => true
  | _ => false

/-- A failure has been reported, and nothing further has been requested since. -/
def ReportedAndLeft (log : List (Entry Request)) : Prop :=
  ∃ before message after, log = before ++ ⟨.report message, true⟩ :: after ∧
    ∀ e ∈ after, e.request.isExit = true

namespace WindowManager

/-- Everything was requested on an open connection and on live proxies, the display disconnected at
most once, and a failed start reported and given up. -/
structure Clean (answers : StartAnswers) (log : List (Entry Request)) : Prop where
  sound : Sound log
  disconnects : log.countP (fun e ↦ e.request.closes) ≤ 1
  reported : ¬ answers.Complete → ReportedAndLeft log

/-- So far, and should the object be destroyed now if the main thread is done with it. -/
structure CleanSoFar (answers : StartAnswers) (s : Thread WindowManager) : Prop where
  now : Clean answers s.memory.log
  destroyed : s.todo = [] → Clean answers s.memory.destruct.log

/-! ## A complete start -/

theorem connectLoop_frame (answers : ℕ → Bool) (remaining : ℕ) (wm : WindowManager) :
    ∃ log dpy, connectLoop answers remaining wm = { wm with log := log, dpy := dpy } := by
  induction remaining generalizing wm with
  | zero => exact ⟨wm.log, wm.dpy, rfl⟩
  | succ remaining ih =>
    rw [connectLoop]
    split_ifs
    · exact ⟨_, _, rfl⟩
    · obtain ⟨log, dpy, h⟩ := ih (wm.connect (answers remaining))
      exact ⟨log, dpy, h⟩

theorem connectLoop_true {answers : ℕ → Bool} {remaining : ℕ} (wm : WindowManager)
    (h : answers remaining = true) :
    connectLoop answers (remaining + 1) wm = wm.connect true := by
  rw [connectLoop, h]
  refine if_pos fun hnull ↦ ?_
  cases hnull

theorem connectLoop_false {answers : ℕ → Bool} {remaining : ℕ} (wm : WindowManager)
    (h : answers remaining = false) :
    connectLoop answers (remaining + 1) wm = connectLoop answers remaining (wm.connect false) := by
  rw [connectLoop, h]
  exact if_neg (not_not_intro rfl)

/-- The loop ends with a connection if one of the tries succeeds. -/
theorem holding_connectLoop {answers : ℕ → Bool} {remaining : ℕ} {wm : WindowManager}
    (h : Holding [] wm.log) (hconnected : ∃ k < remaining, answers k = true) :
    Holding [(.wl_display, (connectLoop answers remaining wm).dpy)]
      (connectLoop answers remaining wm).log := by
  induction remaining generalizing wm with
  | zero =>
    obtain ⟨k, hk, -⟩ := hconnected
    exact absurd hk (Nat.not_lt_zero k)
  | succ remaining ih =>
    cases hanswer : answers remaining with
    | true =>
      rw [connectLoop_true wm hanswer]
      exact h.create (List.forall_mem_nil _) rfl rfl rfl rfl
    | false =>
      rw [connectLoop_false wm hanswer]
      apply ih (h.use (List.forall_mem_nil _) rfl rfl)
      obtain ⟨k, hk, hconnected⟩ := hconnected
      refine ⟨k, lt_of_le_of_ne (Nat.le_of_lt_succ hk) ?_, hconnected⟩
      rintro rfl
      exact Bool.noConfusion (hanswer.symm.trans hconnected)

/-! ### Globals -/

/-- The member a global is kept in. -/
def member (wm : WindowManager) : GlobalInterface → Option (Interface × Ptr)
  | .wl_compositor => some (.wl_compositor, wm.compositor)
  | .wl_shell => some (.wl_shell, wm.shell)
  | .wl_output => some (.wl_output, wm.output)
  | .wl_seat => some (.wl_seat, wm.seat)
  | .android_wlegl => some (.android_wlegl, wm.a_android_wlegl)
  | .xdg_wm_base => some (.xdg_wm_base, wm.xdg_wm_base)
  | .ignored _ => none

/-- The members set once these globals have been announced. -/
def announced (seen : List GlobalInterface) (wm : WindowManager) : List (Interface × Ptr) :=
  (.wl_registry, wm.registry) :: (.wl_display, wm.dpy) ::
    (seen.filterMap wm.member ++ wm.buffers)

/-- One more global is bound. -/
theorem holds_bind {seen : List GlobalInterface} {wm wm' : WindowManager}
    {interface : GlobalInterface} {kind : Interface} {name version : ℕ}
    (h : Holds (announced seen) wm)
    (hlog : wm'.log = wm.log ++ [⟨.wl_registry_bind wm.registry name kind version, true⟩])
    (hregistry : wm'.registry = wm.registry) (hdpy : wm'.dpy = wm.dpy)
    (hbuffers : wm'.buffers = wm.buffers)
    (hmember : ∀ i,
      wm'.member i = if i = interface then some (kind, wm.newProxy) else wm.member i) :
    Holds (announced (interface :: seen)) wm' := by
  have hbind : Holding ((kind, wm.newProxy) :: announced seen wm) wm'.log := by
    rw [hlog]
    exact Holding.create h forall_mem_uses rfl rfl rfl rfl
  apply hbind.mono
  intro u hu
  unfold announced at hu ⊢
  rw [hregistry, hdpy, hbuffers] at hu
  simp only [List.mem_cons, List.mem_append, List.mem_filterMap, hmember] at hu ⊢
  rcases hu with rfl | rfl | ⟨i, hi, hu⟩ | hbuffer
  · exact .inr (.inl rfl)
  · exact .inr (.inr (.inl rfl))
  · split_ifs at hu with hinterface
    · cases hu
      exact .inl rfl
    · exact .inr (.inr (.inr (.inl ⟨i, hi.resolve_left hinterface, hu⟩)))
  · exact .inr (.inr (.inr (.inr hbuffer)))

theorem holds_registry_add_object {seen : List GlobalInterface} {wm : WindowManager} (g : Global)
    (h : Holds (announced seen) wm) :
    Holds (announced (g.interface :: seen)) (wm.registry_add_object wm.registry g) := by
  rw [registry_add_object]
  cases g.interface with
  | ignored => exact h
  | wl_compositor | wl_shell | wl_output | wl_seat | android_wlegl | xdg_wm_base =>
    exact holds_bind h rfl rfl rfl rfl fun i ↦ by cases i <;> rfl

theorem holds_foldl_registry_add_object {seen : List GlobalInterface} {wm : WindowManager}
    (globals : List Global) (h : Holds (announced seen) wm) :
    Holds (announced ((globals.map Global.interface).reverse ++ seen))
      (globals.foldl (fun wm g ↦ wm.registry_add_object wm.registry g) wm) := by
  induction globals generalizing wm seen with
  | nil => exact h
  | cons g globals ih =>
    rw [List.map_cons, List.reverse_cons, List.append_assoc, List.foldl_cons]
    exact ih (holds_registry_add_object g h)

/-- The members of the globals that were announced are set after the first roundtrip. -/
theorem holds_announce {wm : WindowManager} (globals : List Global) (h : Holds (announced []) wm) :
    Holds (announced (globals.map Global.interface).reverse) (wm.announce globals) := by
  have hroundtrip : Holds (announced []) (wm.send (.wl_display_roundtrip wm.dpy)) := by
    apply Holding.use h _ rfl rfl
    exact List.forall_mem_singleton.mpr (List.mem_cons_of_mem _ List.mem_cons_self)
  have hbound := holds_foldl_registry_add_object globals hroundtrip
  rw [List.append_nil] at hbound
  exact hbound

/-- What `installListeners` and everything after it rely on. -/
def complete (wm : WindowManager) : List (Interface × Ptr) :=
  (.wl_output, wm.output) :: (.wl_seat, wm.seat) :: wm.bound

theorem undisturbed_complete : Undisturbed complete where
  frame := dispatch_members fun _ _ _ _ _ _ ↦ rfl
  lasting wm := by
    simp only [complete, List.forall_mem_cons]
    exact ⟨by simp, by simp, undisturbed_bound.lasting wm⟩

theorem complete_subset_announced {seen : List GlobalInterface} (wm : WindowManager)
    (hneeded : ∀ interface ∈ needed, interface ∈ seen) : wm.complete ⊆ announced seen wm := by
  have hmem : ∀ interface u, interface ∈ needed → wm.member interface = some u →
      u ∈ announced seen wm := by
    intro interface u hinterface hu
    apply List.mem_cons_of_mem _ (List.mem_cons_of_mem _ (List.mem_append_left _ _))
    exact List.mem_filterMap.mpr ⟨interface, hneeded interface hinterface, hu⟩
  unfold complete bound
  intro u hu
  simp only [List.mem_cons] at hu
  rcases hu with rfl | rfl | rfl | rfl | rfl | rfl | hbuffer
  · exact hmem .wl_output _ (by simp [needed]) rfl
  · exact hmem .wl_seat _ (by simp [needed]) rfl
  · exact List.mem_cons_of_mem _ List.mem_cons_self
  · exact hmem .wl_compositor _ (by simp [needed]) rfl
  · exact hmem .xdg_wm_base _ (by simp [needed]) rfl
  · exact hmem .android_wlegl _ (by simp [needed]) rfl
  · exact List.mem_cons_of_mem _ (List.mem_cons_of_mem _ (List.mem_append_right _ hbuffer))

/-- Both waits deliver events. -/
theorem holds_wait {wm : WindowManager} {r : Request} (events : List Event)
    (hr : r = .wl_display_dispatch wm.dpy ∨ r = .wl_display_roundtrip wm.dpy)
    (h : Holds complete wm) : Holds complete (events.foldl dispatch (wm.send r)) := by
  apply undisturbed_complete.holds_foldl_dispatch
  have huses : ∀ u ∈ [(Interface.wl_display, wm.dpy)], u ∈ wm.complete :=
    List.forall_mem_singleton.mpr (by simp [complete, bound])
  rcases hr with rfl | rfl <;> exact Holding.use h huses rfl rfl

theorem holds_installListeners {wm : WindowManager} (dispatched roundtrip : List Event)
    (h : Holds complete wm) : Holds complete (wm.installListeners dispatched roundtrip) := by
  have houtput : Holds complete (wm.send (.add_listener wm.output .output_listener)) :=
    Holding.use h forall_mem_uses rfl rfl
  have hseat : Holds complete ((wm.send (.add_listener wm.output .output_listener)).send
      (.add_listener wm.seat .w_seat_listener)) := by
    apply Holding.use houtput _ rfl rfl
    exact List.forall_mem_singleton.mpr (List.mem_cons_of_mem _ List.mem_cons_self)
  exact holds_wait roundtrip (.inr rfl) (holds_wait dispatched (.inl rfl) hseat)

theorem holds_get_registry {wm : WindowManager} (h : Holding [(.wl_display, wm.dpy)] wm.log)
    (hmap : wm.buffer_map = ∅) : Holds (announced []) (wm.get_registry true) := by
  have hregistry : Holding [(.wl_registry, wm.newProxy), (.wl_display, wm.dpy)]
      (wm.get_registry true).log := h.create forall_mem_uses rfl rfl rfl rfl
  have hbuffers : (wm.get_registry true).buffers = [] := by
    rw [buffers, show (wm.get_registry true).buffer_map = ∅ from hmap]
    rfl
  apply hregistry.mono
  rw [announced, hbuffers]
  exact List.Subset.refl _

/-- A complete start sets every member that the rest of the code relies on. -/
theorem holds_construct {answers : StartAnswers} (h : answers.Complete) :
    Holds bound (construct answers) := by
  have hconnected : Holding [(.wl_display, (connected answers).dpy)] (connected answers).log :=
    holding_connectLoop holding_nil h.connected
  have hdpy : (connected answers).dpy ≠ .null := by
    obtain ⟨id, hid, -⟩ := (hconnected.live _ List.mem_cons_self).created
    exact fun hnull ↦ Ptr.noConfusion (hid.symm.trans hnull)
  have hmap : (connected answers).buffer_map = ∅ := by
    obtain ⟨log, dpy, hframe⟩ := connectLoop_frame answers.connect tries uninitialised
    rw [connected, hframe]
    rfl
  have hlistener : Holds (announced []) (((connected answers).get_registry true).send
      (.add_listener (connected answers).newProxy .registry_listener)) :=
    Holding.use (holds_get_registry hconnected hmap) forall_mem_uses rfl rfl
  have hannounced := holds_announce answers.globals hlistener
  have hneeded : ∀ interface ∈ needed,
      interface ∈ (answers.globals.map Global.interface).reverse :=
    fun interface hinterface ↦ List.mem_reverse.mpr (h.announced interface hinterface)
  rw [construct_of_registered hdpy h.registry]
  have hcomplete := holds_installListeners answers.dispatched answers.roundtrip
    (hannounced.mono (complete_subset_announced _ hneeded))
  apply hcomplete.mono
  exact List.subset_cons_of_subset _ (List.subset_cons_self _ _)

/-! ## An incomplete start -/

/-- An early exit leaves `compositor` without a value. -/
theorem construct_compositor {answers : StartAnswers}
    (h : (connected answers).dpy = .null ∨ answers.registry = false) :
    (construct answers).compositor = .indeterminate := by
  have hconnected : (connected answers).compositor = .indeterminate := by
    obtain ⟨log, dpy, hframe⟩ := connectLoop_frame answers.connect tries uninitialised
    rw [connected, hframe]
    rfl
  have hexit : ∀ wm : WindowManager, wm.exit_error.compositor = wm.compositor := by
    intro wm
    unfold exit_error
    split_ifs <;> rfl
  by_cases hdpy : (connected answers).dpy = .null
  · rw [construct_of_unconnected hdpy, hexit]
    exact hconnected
  · rw [construct_of_unregistered hdpy (h.resolve_left hdpy), hexit]
    exact hconnected

/-- A start is clean only if it is complete: after an early exit `initialize` goes on with a
compositor that was never bound, and a missing global is not reported. -/
theorem complete_of_finishesAll {answers : StartAnswers} {created : Bool}
    {activities : List Activity}
    (h : Thread.FinishesAll pushFrameBody dispatch (CleanSoFar answers) (start answers created)
      activities) : answers.Complete := by
  by_contra hincomplete
  by_cases hexit : (connected answers).dpy = .null ∨ answers.registry = false
  · have hclean := h [] List.nil_prefix 1 _ rfl
    apply not_sound_of_uses _ _ hclean.now.sound
    · exact (Interface.wl_compositor, (construct answers).compositor)
    · exact List.mem_singleton_self _
    · rw [construct_compositor hexit]
      exact fun _ ↦ nofun
  · rw [not_or, Bool.not_eq_false] at hexit
    have hclean := h [] List.nil_prefix 0 _ rfl
    obtain ⟨before, message, after, hlog, -⟩ := hclean.now.reported hincomplete
    obtain ⟨more, hmore, hkinds⟩ := adds_construct_of_registered hexit.1 hexit.2
    have hmem : ⟨.report message, true⟩ ∈ (construct answers).log := by
      rw [show (construct answers).log = _ from hlog]
      exact List.mem_append_right _ List.mem_cons_self
    rw [hmore] at hmem
    exact (hkinds _ hmem).elim id id

/-! ## The whole life -/

theorem cleanSoFar_of_outlined {answers : StartAnswers} {created : Bool}
    {s : Thread WindowManager} (hcomplete : answers.Complete)
    (h : Thread.Outlined dispatch (SafeStep created) (fun wm ↦ Sound wm.log) (Settled created) s) :
    CleanSoFar answers s := by
  have hclean : ∀ {log}, Sound log → Clean answers log :=
    fun hsound ↦ ⟨hsound, hsound.countP_closes_le, fun hincomplete ↦ absurd hcomplete hincomplete⟩
  have hsettled : ∀ wm, Settled created wm → Holds bound wm := by
    intro wm h
    cases created with
    | true => exact Holding.mono h (List.subset_cons_self _ _)
    | false => exact h.1
  refine ⟨hclean (h.memory_good fun wm h ↦ (hsettled wm h).sound), fun hidle ↦ hclean ?_⟩
  have hbound := hsettled _ (h.memory_post hidle)
  apply always_append_singleton.mpr ⟨hbound.sound, _⟩
  exact List.forall_mem_singleton.mpr (hbound.live _ List.mem_cons_self)

theorem not_cleanSoFar_of_uses {answers : StartAnswers} {s : Thread WindowManager}
    {log : List (Entry Request)} {e : Entry Request} (kind : Interface)
    (hlog : s.memory.log = log ++ [e]) (hu : (kind, .null) ∈ e.request.uses) :
    ¬ CleanSoFar answers s := by
  intro hclean
  have hsound : Sound (log ++ [e]) := hlog ▸ hclean.now.sound
  apply not_sound_of_uses (u := (kind, .null)) hu _ hsound
  exact fun _ ↦ nofun

theorem cacheBuffer_w_surface (wm : WindowManager) (frame : Frame) :
    (cacheBuffer frame wm).w_surface = wm.w_surface := by
  cases hlookup : wm.buffer_map.lookup frame.buffer with
  | some p => rw [cacheBuffer_hit hlookup]
  | none => rw [cacheBuffer_miss hlookup]

/-- A step that is not safe lets the main thread use a pointer that has been cleared. -/
theorem exists_not_cleanSoFar {answers : StartAnswers} {created : Bool}
    {s : Thread WindowManager} {a : Activity}
    (h : Thread.Outlined dispatch (SafeStep created) (fun wm ↦ Sound wm.log) (Settled created) s)
    (hviolated : ¬ SafeStep created s a) :
    ∃ n t, run step s (a :: List.replicate n .main) = some t ∧ ¬ CleanSoFar answers t := by
  obtain ⟨wm, todo⟩ := s
  cases a with
  | main => exact absurd trivial hviolated
  | call frame =>
    obtain ⟨hidle, hcreated⟩ : todo = [] ∧ created ≠ true := Classical.not_imp.mp hviolated
    subst hidle
    rw [Ne, Bool.not_eq_true] at hcreated
    subst hcreated
    have hsurface : wm.w_surface = .null := (h.memory_post rfl).2
    refine ⟨2, _, rfl, not_cleanSoFar_of_uses .wl_surface rfl ?_⟩
    rw [← hsurface, ← cacheBuffer_w_surface wm frame]
    exact List.mem_singleton_self _
  | event e =>
    cases e with
    | frame_callback id time =>
      obtain ⟨hnext, hlistening⟩ := Classical.not_imp.mp hviolated
      obtain ⟨rest, rfl⟩ := List.head?_eq_some_iff.mp hnext
      have hcleared : (wm.dispatch (.frame_callback id time)).frame_callback_ptr = .null := by
        rw [dispatch, if_pos (not_not.mp hlistening)]
        rfl
      refine ⟨1, _, rfl, not_cleanSoFar_of_uses .wl_callback rfl ?_⟩
      rw [← hcleared]
      exact List.mem_singleton_self _
    | _ => exact absurd trivial hviolated

/-- Safe steps keep the main thread where everything it will use is live. -/
theorem outlined_sound_step {created : Bool} {s t : Thread WindowManager} {a : Activity}
    (h : Thread.Outlined dispatch (SafeStep created) (fun wm ↦ Sound wm.log) (Settled created) s)
    (hsafe : SafeStep created s a) (hstep : step s a = some t) :
    Thread.Outlined dispatch (SafeStep created) (fun wm ↦ Sound wm.log) (Settled created) t := by
  apply h.step _ _ hsafe hstep
  · exact fun wm e hsettled _ ↦ settled_dispatch hsettled e
  · intro wm frame hsettled hcreated
    obtain rfl := hcreated rfl
    exact ⟨_, hsettled, live_pushFrameBody frame⟩

/-- However the connection, the globals and the events come, everything is requested on an open
connection and on live proxies, a failed start is reported and given up, and the display is
disconnected at most once, in every state of a run and however the calls in progress go on, exactly
when the start is complete and all steps of the run are safe. -/
theorem cleanSoFar_iff_complete_and_safe (answers : StartAnswers) (created : Bool)
    (activities : List Activity) :
    Thread.FinishesAll pushFrameBody dispatch (CleanSoFar answers) (start answers created)
        activities ↔
      answers.Complete ∧ StepsAll step (SafeStep created) (start answers created) activities := by
  suffices hiff : answers.Complete →
      (Thread.FinishesAll pushFrameBody dispatch (CleanSoFar answers) (start answers created)
        activities ↔ StepsAll step (SafeStep created) (start answers created) activities) by
    constructor
    · intro h
      have hcomplete := complete_of_finishesAll h
      exact ⟨hcomplete, (hiff hcomplete).mp h⟩
    · exact fun ⟨hcomplete, hsafe⟩ ↦ (hiff hcomplete).mpr hsafe
  intro hcomplete
  apply Thread.finishesAll_iff
    (Thread.Outlined dispatch (SafeStep created) (fun wm ↦ Sound wm.log) (Settled created))
  · exact fun s ↦ cleanSoFar_of_outlined hcomplete
  · exact fun _ ↦ trivial
  · exact fun _ _ _ ↦ outlined_sound_step
  · exact fun s a ↦ exists_not_cleanSoFar
  · exact ⟨_, holds_construct hcomplete, live_initializeBody created⟩

/-- The first try connects, but the registry cannot be had. -/
def StartAnswers.unregistered : StartAnswers := { StartAnswers.prompt with registry := false }

/-- The failed construction has disconnected the display; the destructor does it again. -/
theorem not_cleanSoFar_unregistered :
    ¬ StatesAll step (CleanSoFar .unregistered) (start .unregistered true)
      (List.replicate (initializeBody true).length .main) := by
  intro h
  have hclean := statesAll_iff_prefix.mp h _ (List.prefix_refl _) _
    (run_initializeBody .unregistered true)
  exact absurd (hclean.destroyed rfl).disconnects (by decide)

end WindowManager

end WLManager
