import WLManager.Client.WindowThread

/-!
# The mark of the outstanding frame callback

`pushFrame` asks for a frame callback in three steps: it creates the callback, stores it in
`frame_callback_ptr` and installs the listener on whatever `frame_callback_ptr` holds by then. The
dispatch thread delivers the done events of the frames before, in the order in which they were
requested, between any two of these steps, and its handler sets `frame_callback_ptr` to null
whichever frame the event is for. So the one pointer follows the frames exactly as long as every
done event arrives before the callback of a later frame is stored.
-/

namespace WLManager

open History Transition

namespace WindowManager

/-! ## Before the first frame -/

/-- The request neither installs a frame listener nor destroys a callback. -/
def Frameless (r : Request) : Prop :=
  (∀ p, r ≠ .add_listener p .w_frame_listener) ∧
    ∀ p, Signature.destroys r ≠ some (Interface.wl_callback, p)

theorem frameless_of_start (r : Request)
    (h : r.OfTouch ∨ r.OfConstructor ∨ r.OfExit ∨ r.OfInitialize) : Frameless r := by
  cases r with
  | add_listener proxy listener =>
    refine ⟨fun p hframe ↦ ?_, nofun⟩
    cases hframe
    simp [Request.OfTouch, Request.OfConstructor, Request.OfExit, Request.OfInitialize] at h
  | wl_callback_destroy =>
    simp [Request.OfTouch, Request.OfConstructor, Request.OfExit, Request.OfInitialize] at h
  | _ => exact ⟨nofun, nofun⟩

/-- Nothing in the history is about frames. -/
def NoFrames (wm : WindowManager) : Prop := ∀ e ∈ wm.log, Frameless e.request

theorem NoFrames.adds {wm wm' : WindowManager} (h : wm.NoFrames) {kind : Request → Prop}
    (hadds : Adds kind wm wm') (hkind : ∀ r, kind r → Frameless r) : wm'.NoFrames := by
  obtain ⟨more, hlog, hmore⟩ := hadds
  unfold NoFrames
  rw [hlog]
  exact List.forall_mem_append.mpr ⟨h, fun e he ↦ hkind e.request (hmore e he)⟩

theorem NoFrames.send {wm : WindowManager} (h : wm.NoFrames) (r : Request) (hr : Frameless r) :
    (wm.send r).NoFrames :=
  List.forall_mem_append.mpr ⟨h, List.forall_mem_singleton.mpr hr⟩

theorem NoFrames.foldl {α : Type*} {f : WindowManager → α → WindowManager}
    (hf : ∀ wm a, NoFrames wm → NoFrames (f wm a)) (elements : List α) {wm : WindowManager}
    (h : wm.NoFrames) : (elements.foldl f wm).NoFrames := by
  induction elements generalizing wm with
  | nil => exact h
  | cons a elements ih => exact ih (hf wm a h)

/-- Without a frame listener no done event is handled. -/
theorem NoFrames.dispatch (wm : WindowManager) (e : Event) (h : wm.NoFrames) :
    (wm.dispatch e).NoFrames := by
  cases e with
  | frame_callback id time =>
    have hnone : ¬ wm.Listening id .w_frame_listener := fun hlistening ↦
      (h _ hlistening.1).1 (.obj id) rfl
    rw [WindowManager.dispatch, if_neg hnone]
    exact h
  | seat_handle_capabilities id caps =>
    rw [WindowManager.dispatch]
    split_ifs
    · exact h.adds (adds_seat_handle_capabilities wm _ caps)
        fun r hr ↦ frameless_of_start r (.inl hr)
    · exact h
  | xdg_wm_base_ping id serial =>
    rw [WindowManager.dispatch]
    split_ifs
    · refine h.send _ ⟨fun p hframe ↦ ?_, fun p hdestroys ↦ ?_⟩
      · cases hframe
      · cases hdestroys
    · exact h
  | xdg_surface_configure id serial =>
    rw [WindowManager.dispatch]
    split_ifs
    · refine h.send _ ⟨fun p hframe ↦ ?_, fun p hdestroys ↦ ?_⟩
      · cases hframe
      · cases hdestroys
    · exact h
  | output_handle_mode | buffer_release =>
    rw [WindowManager.dispatch]
    split_ifs <;> exact h
  | seat_name | output_handle_geometry | output_handle_done | output_handle_scale | touch =>
    exact h

theorem NoFrames.installListeners {wm : WindowManager} (h : wm.NoFrames)
    (dispatched roundtrip : List Event) : (wm.installListeners dispatched roundtrip).NoFrames := by
  have hconstructor : ∀ r, Request.OfConstructor r → Frameless r :=
    fun r hr ↦ frameless_of_start r (.inr (.inl hr))
  have houtput := h.send (.add_listener wm.output .output_listener) (hconstructor _ trivial)
  have hlisteners := houtput.send (.add_listener wm.seat .w_seat_listener) (hconstructor _ trivial)
  have hdispatched := (hlisteners.send (.wl_display_dispatch wm.dpy) (hconstructor _ trivial)).foldl
    NoFrames.dispatch dispatched
  exact (hdispatched.send (.wl_display_roundtrip _) (hconstructor _ trivial)).foldl
    NoFrames.dispatch roundtrip

theorem noFrames_construct (answers : StartAnswers) : (construct answers).NoFrames := by
  have hconstructor : ∀ r, Request.OfConstructor r → Frameless r :=
    fun r hr ↦ frameless_of_start r (.inr (.inl hr))
  have hexit : ∀ r, Request.OfExit r → Frameless r :=
    fun r hr ↦ frameless_of_start r (.inr (.inr (.inl hr)))
  have hempty : NoFrames uninitialised := List.forall_mem_nil _
  have hconnected : (connected answers).NoFrames :=
    hempty.adds (adds_connectLoop answers.connect tries uninitialised) hconstructor
  by_cases hdpy : (connected answers).dpy = .null
  · rw [construct_of_unconnected hdpy]
    exact hconnected.adds (adds_exit_error _ _) hexit
  have hasked : ∀ created, ((connected answers).get_registry created).NoFrames := by
    intro created
    have hadds : Adds Request.OfConstructor (connected answers)
        ((connected answers).get_registry created) := .one rfl trivial
    exact hconnected.adds hadds hconstructor
  cases hregistry : answers.registry with
  | false =>
    rw [construct_of_unregistered hdpy hregistry]
    exact (hasked false).adds (adds_exit_error _ _) hexit
  | true =>
    rw [construct_of_registered hdpy hregistry]
    have hlistener := (hasked true).send (.add_listener (connected answers).newProxy
      .registry_listener) (hconstructor _ trivial)
    exact (hlistener.adds (adds_announce _ answers.globals) hconstructor).installListeners _ _

/-! ## The three steps and the done events -/

/-- Where the main thread stands in `pushFrame`: between two calls, with a callback created, or
with it stored. -/
inductive Phase
  | idle
  | requested (frame : Frame) (callback : ℕ)
  | stored (frame : Frame) (callback : ℕ)

/-- The callback of the call under way. -/
def Phase.current : Phase → Option ℕ
  | .idle => none
  | .requested _ callback | .stored _ callback => some callback

/-- The window manager, the main thread's place and the callbacks of the calls before that have not
had their done event, in the order in which they were requested. -/
structure FrameRun where
  wm : WindowManager
  phase : Phase
  pending : List ℕ

namespace FrameRun

/-- A step of the main thread, or a done event. -/
inductive Action
  | request (frame : Frame)
  | store
  | listen
  | done (time : ℕ)

/-- `wl_surface_frame`, after the exchange for the buffer. -/
def request (s : FrameRun) (frame : Frame) : FrameRun :=
  let wm := cacheBuffer frame s.wm
  { s with
    wm := wm.send (.wl_surface_frame wm.w_surface)
    phase := .requested frame wm.log.length }

/-- The assignment to `frame_callback_ptr`. -/
def store (s : FrameRun) (frame : Frame) (callback : ℕ) : FrameRun :=
  { s with
    wm := { s.wm with frame_callback_ptr := .obj callback }
    phase := .stored frame callback }

/-- `wl_callback_add_listener` and the rest of `pushFrame`. -/
def listen (s : FrameRun) (frame : Frame) (callback : ℕ) : FrameRun where
  wm := s.wm.execute [addFrameListener, attach frame, damage frame, commit, flush]
  phase := .idle
  pending := s.pending ++ [callback]

/-- The done event of the oldest callback that waits for one. -/
def done (s : FrameRun) (callback : ℕ) (pending : List ℕ) (time : ℕ) : FrameRun :=
  { s with
    wm := s.wm.dispatch (.frame_callback callback time)
    pending := pending }

def step (s : FrameRun) : Action → Option FrameRun
  | .request frame =>
    match s.phase with
    | .idle => some (s.request frame)
    | _ => none
  | .store =>
    match s.phase with
    | .requested frame callback => some (s.store frame callback)
    | _ => none
  | .listen =>
    match s.phase with
    | .stored frame callback => some (s.listen frame callback)
    | _ => none
  | .done time =>
    match s.pending with
    | callback :: pending => some (s.done callback pending time)
    | [] => none

/-- The three steps without interruption are `pushFrame`. -/
theorem run_request_store_listen (wm : WindowManager) (frame : Frame) (pending : List ℕ) :
    ∃ callback, run step ⟨wm, .idle, pending⟩ [.request frame, .store, .listen] =
      some ⟨wm.pushFrame frame, .idle, pending ++ [callback]⟩ :=
  ⟨(cacheBuffer frame wm).log.length, rfl⟩

/-- An initialised window manager before its first frame. -/
def start (answers : StartAnswers) : FrameRun where
  wm := ((construct answers).runInitialize true).1
  phase := .idle
  pending := []

/-- The callback requested last among those that wait, as `frame_callback_ptr` should hold it. -/
def newest (pending : List ℕ) : Ptr := pending.getLast?.elim .null .obj

/-- Between two calls `frame_callback_ptr` is null if no callback waits for its done event, and
otherwise the one requested last. -/
def Marked (s : FrameRun) : Prop :=
  match s.phase with
  | .idle => s.wm.frame_callback_ptr = newest s.pending
  | .requested _ _ | .stored _ _ => True

/-- The listener goes to the callback of this call. A done event destroys its own callback, which
had not been destroyed, and clears no mark but its own. -/
def Tidy (s : FrameRun) : Action → Prop
  | .request _ | .store => True
  | .listen => ∀ frame callback, s.phase = .stored frame callback →
      ∃ rest, (s.listen frame callback).wm.log =
          s.wm.log ++ ⟨.add_listener (.obj callback) .w_frame_listener, true⟩ :: rest ∧
        ∀ e ∈ rest, ∀ p, e.request ≠ .add_listener p .w_frame_listener
  | .done time => ∀ callback pending, s.pending = callback :: pending →
      (s.done callback pending time).wm.log =
          s.wm.log ++ [⟨.wl_callback_destroy (.obj callback), true⟩] ∧
        (∀ e ∈ s.wm.log, Signature.destroys e.request ≠
          some (Interface.wl_callback, .obj callback)) ∧
        (s.wm.frame_callback_ptr ≠ .obj callback →
          (s.done callback pending time).wm.frame_callback_ptr = s.wm.frame_callback_ptr)

/-- A done event arrives before the callback of a later frame is stored. -/
def DoneInTime (s : FrameRun) : Action → Prop
  | .done _ => ∀ callback pending, s.pending = callback :: pending →
      pending = [] ∧ ∀ frame later, s.phase ≠ .stored frame later
  | _ => True

/-- The invariant of a run whose done events arrive in time. -/
structure Followed (s : FrameRun) : Prop where
  mark : s.wm.frame_callback_ptr =
    match s.phase with
    | .stored _ callback => .obj callback
    | .idle | .requested _ _ => newest s.pending
  listening : ∀ callback ∈ s.pending, s.wm.Listening callback .w_frame_listener
  kept : ∀ callback ∈ s.phase.current, ∀ e ∈ s.wm.log,
    Signature.destroys e.request ≠ some (Interface.wl_callback, .obj callback)
  distinct : (s.pending ++ s.phase.current.toList).Nodup
  named : ∀ callback ∈ s.pending ++ s.phase.current.toList, callback < s.wm.log.length
  old : DestroysOld s.wm.log Interface.wl_callback

/-! ## What a step does to the callbacks -/

/-- Requests that destroy no callback leave a listener where it is. -/
theorem listening_of_append {wm wm' : WindowManager} {more : List (Entry Request)} {callback : ℕ}
    (h : wm.Listening callback .w_frame_listener) (hlog : wm'.log = wm.log ++ more)
    (hmore : ∀ e ∈ more, ∀ p, Signature.destroys e.request ≠ some (Interface.wl_callback, p)) :
    wm'.Listening callback .w_frame_listener := by
  unfold Listening at h ⊢
  rw [hlog]
  exact ⟨List.mem_append_left _ h.1,
    List.forall_mem_append.mpr ⟨h.2, fun e he ↦ hmore e he _⟩⟩

theorem newest_append (pending : List ℕ) (callback : ℕ) :
    newest (pending ++ [callback]) = .obj callback := by
  rw [newest, List.getLast?_concat]
  rfl

theorem cacheBuffer_frame_callback_ptr (frame : Frame) (wm : WindowManager) :
    (cacheBuffer frame wm).frame_callback_ptr = wm.frame_callback_ptr := by
  cases hlookup : wm.buffer_map.lookup frame.buffer with
  | some p => rw [cacheBuffer_hit hlookup]
  | none => rw [cacheBuffer_miss hlookup]

/-- What the last step issues. -/
def shown (s : FrameRun) (frame : Frame) : List (Entry Request) :=
  [⟨.wl_surface_attach s.wm.w_surface (s.wm.bufferFor frame.buffer) 0 0, true⟩,
    ⟨.wl_surface_damage s.wm.w_surface 0 0 frame.width frame.height, true⟩,
    ⟨.wl_surface_commit s.wm.w_surface, true⟩, ⟨.wl_display_flush s.wm.dpy, true⟩]

theorem listen_log (s : FrameRun) (frame : Frame) (callback : ℕ) :
    (s.listen frame callback).wm.log = s.wm.log ++
      ⟨.add_listener s.wm.frame_callback_ptr .w_frame_listener, true⟩ :: s.shown frame := by
  simp only [listen, execute, List.foldl_cons, List.foldl_nil, addFrameListener, attach, damage,
    commit, flush, send, issue, shown, List.append_assoc, bufferFor, List.cons_append,
    List.nil_append]

/-- The first step issues requests that destroy no callback, the last of them for the new one. -/
theorem request_log (s : FrameRun) (frame : Frame) :
    ∃ more, (cacheBuffer frame s.wm).log = s.wm.log ++ more ∧
      (s.request frame).wm.log =
        (s.wm.log ++ more) ++ [⟨.wl_surface_frame (cacheBuffer frame s.wm).w_surface, true⟩] ∧
      ∀ e ∈ more, ∀ p, Signature.destroys e.request ≠ some (Interface.wl_callback, p) := by
  obtain ⟨more, hlog, hmore⟩ := cacheBuffer_log s.wm frame
  refine ⟨more, hlog, ?_, fun e he p hdestroys ↦ ?_⟩
  · rw [← hlog]
    rfl
  · obtain ⟨request, created⟩ := e
    have hmakes := hmore _ he
    cases request <;> cases hdestroys
    exact hmakes

theorem done_eq {s : FrameRun} {callback : ℕ} (h : s.wm.Listening callback .w_frame_listener)
    (pending : List ℕ) (time : ℕ) :
    s.done callback pending time =
      { s with wm := s.wm.frame_callback (.obj callback), pending := pending } := by
  rw [done, dispatch, if_pos h]

namespace Followed

variable {s : FrameRun} (h : s.Followed)

include h

theorem request (frame : Frame) (hidle : s.phase = .idle) : (s.request frame).Followed := by
  obtain ⟨more, hcache, hlog, hmore⟩ := request_log s frame
  have hall : ∀ e ∈ more ++ [⟨.wl_surface_frame (cacheBuffer frame s.wm).w_surface, true⟩], ∀ p,
      Signature.destroys e.request ≠ some (Interface.wl_callback, p) :=
    List.forall_mem_append.mpr ⟨hmore, List.forall_mem_singleton.mpr nofun⟩
  have hcurrent : s.phase.current = none := by
    rw [hidle]
    rfl
  have hnew : (s.request frame).phase.current = some (s.wm.log ++ more).length := by
    rw [← hcache]
    rfl
  have hnamed := h.named
  have hdistinct := h.distinct
  rw [hcurrent, Option.toList_none, List.append_nil] at hnamed hdistinct
  rw [List.append_assoc] at hlog
  have hold : DestroysOld (s.request frame).wm.log Interface.wl_callback := by
    rw [hlog]
    exact h.old.append_of_forall hall
  have hlt : ∀ callback ∈ s.pending, callback < (s.wm.log ++ more).length := by
    intro callback hcallback
    rw [List.length_append]
    exact Nat.lt_add_right _ (hnamed callback hcallback)
  exact {
    mark := by
      have hmark := h.mark
      rw [hidle] at hmark
      change (cacheBuffer frame s.wm).frame_callback_ptr = newest s.pending
      rw [cacheBuffer_frame_callback_ptr, hmark]
    listening := fun callback hcallback ↦
      listening_of_append (h.listening callback hcallback) hlog hall
    kept := by
      -- nothing so far can have named the new callback
      intro callback hcallback e he hdestroys
      rw [hnew, Option.mem_some_iff] at hcallback
      subst hcallback
      rw [hlog, ← List.append_assoc] at he
      rcases List.mem_append.mp he with hbefore | hlast
      · exact (h.old.append_of_forall hmore).ne_next e hbefore hdestroys
      · exact hall e (List.mem_append_right _ hlast) _ hdestroys
    distinct := by
      rw [hnew]
      refine List.nodup_append.mpr ⟨hdistinct, List.nodup_singleton _, ?_⟩
      intro callback hcallback _ hlast heq
      rw [heq, List.mem_singleton.mp hlast] at hcallback
      exact absurd (hlt _ hcallback) (lt_irrefl _)
    named := by
      have hlength : (s.request frame).wm.log.length = (s.wm.log ++ more).length + 1 := by
        rw [hlog, ← List.append_assoc, List.length_append, List.length_singleton]
      rw [hnew, hlength]
      refine List.forall_mem_append.mpr ⟨fun callback hcallback ↦ ?_, ?_⟩
      · exact Nat.lt_succ_of_lt (hlt callback hcallback)
      · exact List.forall_mem_singleton.mpr (Nat.lt_succ_self _)
    old := hold }

theorem store {frame : Frame} {callback : ℕ} (hphase : s.phase = .requested frame callback) :
    (s.store frame callback).Followed where
  mark := rfl
  listening := h.listening
  kept := by
    have hkept := h.kept
    rw [hphase] at hkept
    exact hkept
  distinct := by
    have hdistinct := h.distinct
    rw [hphase] at hdistinct
    exact hdistinct
  named := by
    have hnamed := h.named
    rw [hphase] at hnamed
    exact hnamed
  old := h.old

theorem listen {frame : Frame} {callback : ℕ} (hphase : s.phase = .stored frame callback) :
    (s.listen frame callback).Followed := by
  have hmark : s.wm.frame_callback_ptr = .obj callback := by rw [h.mark, hphase]
  have hkept := h.kept
  have hdistinct := h.distinct
  have hnamed := h.named
  rw [hphase] at hkept hdistinct hnamed
  have hlog := listen_log s frame callback
  have hall : ∀ e ∈ (⟨.add_listener s.wm.frame_callback_ptr .w_frame_listener, true⟩ ::
      s.shown frame : List (Entry Request)), ∀ p,
      Signature.destroys e.request ≠ some (Interface.wl_callback, p) := by
    intro e he
    simp only [shown, List.mem_cons, List.not_mem_nil, or_false] at he
    rcases he with rfl | rfl | rfl | rfl | rfl <;> exact nofun
  exact {
    mark := by
      change s.wm.frame_callback_ptr = newest (s.pending ++ [callback])
      rw [hmark, newest_append]
    listening := by
      refine List.forall_mem_append.mpr ⟨fun earlier hearlier ↦
        listening_of_append (h.listening earlier hearlier) hlog hall, ?_⟩
      refine List.forall_mem_singleton.mpr ⟨?_, ?_⟩
      · rw [hlog, hmark]
        exact List.mem_append_right _ List.mem_cons_self
      · rw [hlog]
        exact List.forall_mem_append.mpr ⟨hkept callback rfl, fun e he ↦ hall e he _⟩
    kept := nofun
    distinct := by
      change ((s.pending ++ [callback]) ++ []).Nodup
      rw [List.append_nil]
      exact hdistinct
    named := by
      change ∀ later ∈ (s.pending ++ [callback]) ++ [], later < _
      rw [List.append_nil, hlog, List.length_append]
      exact fun later hlater ↦ Nat.lt_add_right _ (hnamed later hlater)
    old := by
      rw [hlog]
      exact h.old.append_of_forall hall }

/-- A done event in time. -/
theorem done {callback : ℕ} (hpending : s.pending = [callback])
    (hphase : ∀ frame later, s.phase ≠ .stored frame later) (time : ℕ) :
    (s.done callback [] time).Followed := by
  have hlistening := h.listening callback (hpending ▸ List.mem_singleton_self callback)
  have hdistinct := h.distinct
  have hnamed := h.named
  rw [hpending] at hdistinct hnamed
  rw [done_eq hlistening]
  exact {
    mark := by
      cases hp : s.phase with
      | idle => rfl
      | requested => rfl
      | stored frame later => exact absurd hp (hphase frame later)
    listening := nofun
    kept := by
      intro later hlater
      refine List.forall_mem_append.mpr ⟨h.kept later hlater,
        List.forall_mem_singleton.mpr fun hdestroys ↦ ?_⟩
      have hne := (List.nodup_cons.mp hdistinct).1
      cases hdestroys
      exact hne (Option.mem_toList.mpr hlater)
    distinct := (List.nodup_cons.mp hdistinct).2
    named := by
      intro later hlater
      have hlt := hnamed later (List.mem_cons_of_mem _ hlater)
      exact hlt.trans_le (List.length_append.symm ▸ Nat.le_add_right _ _)
    old := by
      refine h.old.append (List.forall_mem_singleton.mpr fun id hdestroys ↦ ?_)
      cases hdestroys
      exact hnamed _ List.mem_cons_self }

/-- When a done event comes late, `frame_callback_ptr` holds a later callback. -/
theorem mark_of_late {callback : ℕ} {pending : List ℕ} (hpending : s.pending = callback :: pending)
    (hlate : ¬ (pending = [] ∧ ∀ frame later, s.phase ≠ .stored frame later)) :
    ∃ later, s.wm.frame_callback_ptr = .obj later ∧ later ≠ callback := by
  have hmark := h.mark
  have hdistinct := h.distinct
  rw [hpending] at hmark hdistinct
  rw [List.cons_append] at hdistinct
  have hfirst := (List.nodup_cons.mp hdistinct).1
  rw [List.mem_append, not_or] at hfirst
  cases hphase : s.phase with
  | stored frame later =>
    rw [hphase] at hmark hfirst
    refine ⟨later, hmark, fun heq ↦ hfirst.2 ?_⟩
    rw [heq]
    exact Option.mem_toList.mpr rfl
  | idle | requested =>
    rw [hphase] at hmark hlate
    have hrest : pending ≠ [] := fun hnil ↦ hlate ⟨hnil, nofun⟩
    obtain ⟨init, later, rfl⟩ := List.eq_nil_or_concat' pending |>.resolve_left hrest
    refine ⟨later, ?_, ?_⟩
    · rw [hmark, ← List.cons_append, newest_append]
    · rintro rfl
      exact hfirst.1 (List.mem_append_right _ (List.mem_singleton_self _))

/-- Steps whose done events arrive in time keep the invariant. -/
theorem step {t : FrameRun} {a : Action} (hin : s.DoneInTime a) (hstep : s.step a = some t) :
    t.Followed := by
  cases a with
  | request frame =>
    cases hphase : s.phase <;> simp only [FrameRun.step, hphase] at hstep <;> cases hstep
    exact h.request frame hphase
  | store =>
    cases hphase : s.phase <;> simp only [FrameRun.step, hphase] at hstep <;> cases hstep
    exact h.store hphase
  | listen =>
    cases hphase : s.phase <;> simp only [FrameRun.step, hphase] at hstep <;> cases hstep
    exact h.listen hphase
  | done time =>
    cases hpending : s.pending with
    | nil =>
      simp only [FrameRun.step, hpending] at hstep
      cases hstep
    | cons callback pending =>
      obtain ⟨rfl, hphase⟩ := hin callback pending hpending
      simp only [FrameRun.step, hpending] at hstep
      cases hstep
      exact h.done hpending hphase time

theorem marked : s.Marked := by
  have hmark := h.mark
  unfold Marked
  cases hphase : s.phase with
  | idle =>
    rw [hphase] at hmark
    exact hmark
  | requested | stored => trivial

/-- A step is tidy and leaves the mark right exactly when no done event comes late. -/
theorem step_iff (a : Action) :
    ((∀ t, s.step a = some t → t.Marked) ∧ s.Tidy a) ↔ s.DoneInTime a := by
  constructor
  · rintro ⟨-, htidy⟩
    cases a with
    | request | store | listen => trivial
    | done time =>
      intro callback pending hpending
      by_contra hlate
      obtain ⟨later, hmark, hne⟩ := h.mark_of_late hpending hlate
      have hlistening := h.listening callback (hpending ▸ List.mem_cons_self)
      obtain ⟨-, -, hkept⟩ := htidy callback pending hpending
      have hptr := hkept (fun heq ↦ hne (Ptr.obj.inj (hmark.symm.trans heq)))
      rw [done_eq hlistening, hmark] at hptr
      cases hptr
  · intro hin
    refine ⟨fun t hstep ↦ (h.step hin hstep).marked, ?_⟩
    cases a with
    | request | store => trivial
    | listen =>
      intro frame callback hphase
      have hmark : s.wm.frame_callback_ptr = .obj callback := by rw [h.mark, hphase]
      refine ⟨s.shown frame, by rw [listen_log, hmark], ?_⟩
      simp [shown]
    | done time =>
      intro callback pending hpending
      obtain ⟨rfl, hphase⟩ := hin callback pending hpending
      have hlistening := h.listening callback (hpending ▸ List.mem_cons_self)
      refine ⟨by rw [done_eq hlistening]; rfl, hlistening.2, fun hother ↦ absurd ?_ hother⟩
      rw [h.mark, hpending]
      cases hp : s.phase with
      | idle | requested => rfl
      | stored frame later => exact absurd hp (hphase frame later)

end Followed

theorem followed_start (answers : StartAnswers) : (start answers).Followed := by
  have hframeless : (start answers).wm.NoFrames :=
    (noFrames_construct answers).adds (adds_runInitialize _ true) fun r hr ↦
      frameless_of_start r (.inr (.inr (.inr hr)))
  exact {
    mark := rfl
    listening := nofun
    kept := nofun
    distinct := List.nodup_nil
    named := nofun
    old := destroysOld_of_forall fun e he ↦ (hframeless e he).2 }

/-- The bookkeeping is exact in every state, the listener goes to the callback just created and
every done event destroys its own callback without clearing another's mark, exactly in the runs in
which every done event arrives before the callback of a later frame is stored. -/
theorem callbacks_exact_iff_doneInTime (answers : StartAnswers) (actions : List Action) :
    (StatesAll FrameRun.step Marked (start answers) actions ∧
      StepsAll FrameRun.step Tidy (start answers) actions) ↔
    StepsAll FrameRun.step DoneInTime (start answers) actions := by
  have hinit := followed_start answers
  exact statesAll_and_stepsAll_iff (fun _ a h _ ↦ h.step_iff a)
    (fun _ _ _ h _ hin hstep ↦ h.step hin hstep) hinit hinit.marked stepsAll_true

/-- Two frames, with the done event of the first between the last two steps of the second. -/
def lateDone : List Action :=
  let frame := (GraphicBuffer.onePixel 0).frame
  [.request frame, .store, .listen, .request frame, .store, .done 0, .listen]

/-- The event clears the mark of the second frame, whose listener is then installed on null. -/
theorem not_callbacks_exact_lateDone :
    ¬ (StatesAll FrameRun.step Marked (start .prompt) lateDone ∧
      StepsAll FrameRun.step Tidy (start .prompt) lateDone) := by
  rintro ⟨-, htidy⟩
  have hfirst := (((followed_start .prompt).request (GraphicBuffer.onePixel 0).frame rfl).store
    rfl).listen rfl
  have hsecond := (hfirst.request (GraphicBuffer.onePixel 0).frame rfl).store rfl
  have hbefore := (((((htidy.2 _ rfl).2 _ rfl).2 _ rfl).2 _ rfl).2 _ rfl).1
  have hin := (hsecond.step_iff (.done 0)).mp ⟨fun t ht ↦ by cases ht; trivial, hbefore⟩
  exact (hin _ _ rfl).2 _ _ rfl

end FrameRun

end WindowManager

end WLManager
