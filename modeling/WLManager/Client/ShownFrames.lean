import Mathlib.Data.List.Forall2
import WLManager.Client.BufferCache
import WLManager.Client.CleanStart
import WLManager.Client.ClientProcess
import WLManager.Client.FrameDelivery

/-!
# What the compositor is shown

A `wl_surface` is double-buffered: attached buffers, damage and frame callbacks are collected until
a commit applies them. The requests on the window's surface are read as such batches. `initialize`
commits twice with nothing to apply. Every frame that is pushed after that is one batch with one
frame callback, one attached buffer and the damage of the whole frame, however the events fall
between its requests, and the batches come in the order in which the frames were queued.

The buffer of a batch was made in the call for the first frame with the same handle address: it
was created after as many commits as that frame has predecessors, and the two of `initialize`. So
every queued frame is shown, once, in its turn and with its own content, exactly in the runs in
which no announcement finds the flag set and no handle address stands for two buffers.
-/

namespace WLManager

namespace DoubleBuffer

variable {υ : Type*}

/-- Updates have no effect of their own: the next commit applies all of them at once. -/
inductive Op (υ : Type*)
  | update (u : υ)
  | commit
  deriving DecidableEq

/-- The batches applied so far, and what has been collected since. -/
structure State (υ : Type*) where
  batches : List (List υ)
  pending : List υ
  deriving DecidableEq

def apply (s : State υ) : Op υ → State υ
  | .update u => { s with pending := s.pending ++ [u] }
  | .commit => ⟨s.batches ++ [s.pending], []⟩

/-- The state after a sequence of operations. -/
def state (ops : List (Op υ)) : State υ := ops.foldl apply ⟨[], []⟩

theorem state_snoc (ops : List (Op υ)) (op : Op υ) :
    state (ops ++ [op]) = apply (state ops) op := by
  unfold state
  rw [List.foldl_append]
  rfl

end DoubleBuffer

open Transition

/-- What is collected for a surface. -/
inductive SurfaceUpdate
  | frame
  | attach (buffer : History.Ptr) (x y : ℤ)
  | damage (x y width height : ℤ)
  deriving DecidableEq

/-- A request as an operation on the state of a surface. -/
def Request.surfaceOp (surface : History.Ptr) : Request → Option (DoubleBuffer.Op SurfaceUpdate)
  | .wl_surface_frame target => if target = surface then some (.update .frame) else none
  | .wl_surface_attach target buffer x y =>
    if target = surface then some (.update (.attach buffer x y)) else none
  | .wl_surface_damage target x y width height =>
    if target = surface then some (.update (.damage x y width height)) else none
  | .wl_surface_commit target => if target = surface then some .commit else none
  | _ => none

/-- The operations on a surface in a history, as the compositor sees them. -/
def batchesOf (surface : History.Ptr) (log : List (History.Entry Request)) :
    DoubleBuffer.State SurfaceUpdate :=
  DoubleBuffer.state (log.filterMap fun e ↦ e.request.surfaceOp surface)

/-- The place of the first frame with the handle address of this one. -/
def placeOf (frames : List Frame) (frame : Frame) : ℕ :=
  frames.findIdx fun first ↦ first.buffer = frame.buffer

/-- The content of that frame. -/
def contentOf (frames : List Frame) (frame : Frame) : BufferDescription :=
  ((frames.find? fun first ↦ first.buffer = frame.buffer).getD frame).description

/-- No handle address stands for two buffers among the frames. -/
def OneContentEach (frames : List Frame) : Prop :=
  ∀ first ∈ frames, ∀ second ∈ frames, first.buffer = second.buffer →
    first.description = second.description

/-- The object was created when the surface had been committed so many times. -/
def MadeAfter (surface : History.Ptr) (log : List (History.Entry Request)) (commits id : ℕ) :
    Prop :=
  id < log.length ∧ (batchesOf surface (log.take id)).batches.length = commits

/-- The batch shows the whole frame, with a buffer that was made, after so many commits, with this
content. -/
def Shows (surface : History.Ptr) (log : List (History.Entry Request)) (commits : ℕ)
    (content : BufferDescription) (frame : Frame) (batch : List SurfaceUpdate) : Prop :=
  ∃ id, batch = [.frame, .attach (.obj id) 0 0, .damage 0 0 frame.width frame.height] ∧
    Describes log id content ∧ MadeAfter surface log commits id

section Shows

variable {surface : History.Ptr} {log : List (History.Entry Request)} {commits commits' : ℕ}
  {content content' : BufferDescription} {frame : Frame} {batch : List SurfaceUpdate}

theorem MadeAfter.append {id : ℕ} (h : MadeAfter surface log commits id)
    (more : List (History.Entry Request)) : MadeAfter surface (log ++ more) commits id := by
  refine ⟨?_, ?_⟩
  · rw [List.length_append]
    exact Nat.lt_add_right _ h.1
  · rw [List.take_append_of_le_length h.1.le]
    exact h.2

theorem Shows.append (h : Shows surface log commits content frame batch)
    (more : List (History.Entry Request)) :
    Shows surface (log ++ more) commits content frame batch := by
  obtain ⟨id, hbatch, hid, hmade⟩ := h
  exact ⟨id, hbatch, hid.append more, hmade.append more⟩

/-- A batch shows one content. -/
theorem Shows.unique (h : Shows surface log commits content frame batch)
    (h' : Shows surface log commits' content' frame batch) : content = content' := by
  obtain ⟨id, hbatch, hid, -⟩ := h
  obtain ⟨id', hbatch', hid', -⟩ := h'
  rw [hbatch] at hbatch'
  simp only [List.cons.injEq, SurfaceUpdate.attach.injEq, History.Ptr.obj.injEq, true_and,
    and_true] at hbatch'
  subst hbatch'
  exact hid.unique hid'

end Shows

/-- The first frame with an address stays the first when more frames are pushed. -/
theorem contentOf_append {frames : List Frame} {frame : Frame} (h : frame ∈ frames)
    (more : List Frame) : contentOf (frames ++ more) frame = contentOf frames frame := by
  unfold contentOf
  rw [List.find?_append]
  cases hfind : frames.find? fun first ↦ first.buffer = frame.buffer with
  | some first => rfl
  | none => simpa using List.find?_eq_none.mp hfind frame h

theorem placeOf_append {frames : List Frame} {frame : Frame} (h : frame ∈ frames)
    (more : List Frame) : placeOf (frames ++ more) frame = placeOf frames frame := by
  unfold placeOf
  rw [List.findIdx_append]
  exact if_pos (List.findIdx_lt_length.mpr ⟨frame, h, decide_eq_true rfl⟩)

theorem forall₂_append_singleton {α β : Type*} {R : α → β → Prop} {l : List α} {u : List β} {a : α}
    {b : β} : List.Forall₂ R (l ++ [a]) (u ++ [b]) ↔ List.Forall₂ R l u ∧ R a b := by
  rw [← List.forall₂_reverse_iff, List.reverse_append, List.reverse_append, List.reverse_singleton,
    List.reverse_singleton, List.singleton_append, List.singleton_append, List.forall₂_cons,
    List.forall₂_reverse_iff, and_comm]

/-- Every frame has its own content exactly when the addresses do not clash. -/
theorem forall_contentOf_iff {frames : List Frame} :
    (∀ frame ∈ frames, contentOf frames frame = frame.description) ↔ OneContentEach frames := by
  constructor
  · intro h first hfirst second hsecond haddress
    rw [← h first hfirst, ← h second hsecond, contentOf, contentOf, haddress]
    cases hfind : frames.find? fun other ↦ other.buffer = second.buffer with
    | some other => rfl
    | none => simpa using List.find?_eq_none.mp hfind second hsecond
  · intro h frame hframe
    rw [contentOf]
    cases hfind : frames.find? fun other ↦ other.buffer = frame.buffer with
    | none => rfl
    | some other =>
      have haddress : other.buffer = frame.buffer := by simpa using List.find?_some hfind
      exact h other (List.mem_of_find?_eq_some hfind) frame hframe haddress

namespace WindowManager

def surfaceState (wm : WindowManager) : DoubleBuffer.State SurfaceUpdate :=
  batchesOf wm.w_surface wm.log

/-- The map keeps for every address the buffer of the first of these frames with that address, made
in the call for it. -/
structure KeepsFirst (frames : List Frame) (wm : WindowManager) : Prop where
  content : ∃ cache, wm.Caches cache ∧ ∀ address, cache.lookup address =
    (frames.find? fun first ↦ first.buffer = address).map Frame.description
  made : ∀ address id, wm.buffer_map.lookup address = some (.obj id) →
    MadeAfter wm.w_surface wm.log (2 + frames.findIdx fun first ↦ first.buffer = address) id

/-- After the two commits of `initialize` the surface has been shown these frames, and this has been
collected since. -/
def HasShown (frames : List Frame) (pending : List SurfaceUpdate) (wm : WindowManager) : Prop :=
  ∃ shown, wm.surfaceState = ⟨[] :: [] :: shown, pending⟩ ∧
    List.Forall₂ (fun frame batch ↦ Shows wm.w_surface wm.log (2 + placeOf frames frame)
      (contentOf frames frame) frame batch) frames shown

/-- Between two calls of `pushFrame`. -/
structure Presents (frames : List Frame) (wm : WindowManager) : Prop where
  keeps : wm.KeepsFirst frames
  shown : wm.HasShown frames []

/-- In the call for `frame`, whose buffer is `id`. -/
structure Presenting (frames : List Frame) (frame : Frame) (id : ℕ)
    (pending : List SurfaceUpdate) (wm : WindowManager) : Prop where
  keeps : wm.KeepsFirst (frames ++ [frame])
  buffer : wm.bufferFor frame.buffer = .obj id
  describes : Describes wm.log id (contentOf (frames ++ [frame]) frame)
  made : MadeAfter wm.w_surface wm.log (2 + placeOf (frames ++ [frame]) frame) id
  shown : wm.HasShown frames pending

/-- Within the call, with whatever buffer it uses. -/
def Within (frames : List Frame) (frame : Frame) (pending : ℕ → List SurfaceUpdate)
    (wm : WindowManager) : Prop :=
  ∃ id, Presenting frames frame id (pending id) wm

/-- The surface has been committed a number of times with nothing to apply. -/
structure Blank (commits : ℕ) (wm : WindowManager) : Prop where
  surface : wm.surfaceState = ⟨List.replicate commits [], []⟩
  map : wm.buffer_map = ∅

/-- No surface has been touched yet. -/
structure Untouched (wm : WindowManager) : Prop where
  log : ∀ e ∈ wm.log, ∀ surface, e.request.surfaceOp surface = none
  map : wm.buffer_map = ∅

/-- The compositor is one that was bound. -/
def OnCompositor (wm : WindowManager) : Prop :=
  ∃ compositor, wm.compositor = .obj compositor ∧
    History.Created wm.log .wl_compositor compositor

/-- The surface is one that a bound compositor was asked for. -/
def OnSurface (wm : WindowManager) : Prop :=
  ∃ id compositor, wm.w_surface = .obj id ∧
    wm.log[id]? = some ⟨.wl_compositor_create_surface (.obj compositor), true⟩ ∧
    History.Created wm.log .wl_compositor compositor

/-! ## Requests that do not touch the surface -/

theorem surfaceOp_of_ofHandler (r : Request) (h : r.OfHandler) (surface : History.Ptr) :
    r.surfaceOp surface = none := by
  cases r <;> first | rfl | exact h.elim

theorem surfaceOp_of_makesBuffer (r : Request) (h : MakesBuffer r) (surface : History.Ptr) :
    r.surfaceOp surface = none := by
  cases r <;> first | rfl | exact h.elim

theorem surfaceOp_of_ofConstruct (r : Request) (h : r.OfConstructor ∨ r.OfHandler ∨ r.OfExit)
    (surface : History.Ptr) : r.surfaceOp surface = none := by
  cases r <;> first | rfl | simp only [Request.OfConstructor, Request.OfHandler, Request.OfExit,
    or_false] at h

variable {wm wm' : WindowManager} {more : List (History.Entry Request)}

/-- Requests that are no operations on the surface leave its state alone. -/
theorem surfaceState_append (hlog : wm'.log = wm.log ++ more)
    (hsurface : wm'.w_surface = wm.w_surface)
    (hmore : ∀ e ∈ more, e.request.surfaceOp wm.w_surface = none) :
    wm'.surfaceState = wm.surfaceState := by
  have hnone : more.filterMap (fun e ↦ e.request.surfaceOp wm.w_surface) = [] :=
    List.filterMap_eq_nil_iff.mpr hmore
  unfold surfaceState batchesOf
  rw [hlog, hsurface, List.filterMap_append, hnone, List.append_nil]

theorem surfaceState_send {r : Request} {op : DoubleBuffer.Op SurfaceUpdate}
    (hlog : wm'.log = wm.log ++ [⟨r, true⟩]) (hsurface : wm'.w_surface = wm.w_surface)
    (hop : r.surfaceOp wm.w_surface = some op) :
    wm'.surfaceState = DoubleBuffer.apply wm.surfaceState op := by
  have hlast : [(⟨r, true⟩ : History.Entry Request)].filterMap
      (fun e ↦ e.request.surfaceOp wm.w_surface) = [op] := List.filterMap_cons_some hop
  unfold surfaceState batchesOf
  rw [hlog, hsurface, List.filterMap_append, hlast, DoubleBuffer.state_snoc]

theorem HasShown.append {frames : List Frame} {pending : List SurfaceUpdate}
    (h : wm.HasShown frames pending) (hlog : wm'.log = wm.log ++ more)
    (hsurface : wm'.w_surface = wm.w_surface) (hstate : wm'.surfaceState = wm.surfaceState) :
    wm'.HasShown frames pending := by
  obtain ⟨shown, hshown, hframes⟩ := h
  refine ⟨shown, hstate.trans hshown, ?_⟩
  rw [hlog, hsurface]
  exact hframes.imp fun frame batch h ↦ h.append more

theorem KeepsFirst.append {frames : List Frame} (h : wm.KeepsFirst frames)
    (hlog : wm'.log = wm.log ++ more) (hsurface : wm'.w_surface = wm.w_surface)
    (hmap : wm'.buffer_map = wm.buffer_map) : wm'.KeepsFirst frames := by
  obtain ⟨cache, hcaches, hcache⟩ := h.content
  refine ⟨⟨cache, hcaches.append hlog hmap, hcache⟩, fun address id hid ↦ ?_⟩
  rw [hlog, hsurface]
  rw [hmap] at hid
  exact (h.made address id hid).append more

/-- As many batches have been shown as frames, after the two of `initialize`. -/
theorem HasShown.length_batches {frames : List Frame} {pending : List SurfaceUpdate}
    (h : wm.HasShown frames pending) : wm.surfaceState.batches.length = 2 + frames.length := by
  obtain ⟨shown, hshown, hframes⟩ := h
  rw [hshown, hframes.length_eq]
  exact Nat.add_comm _ 2

/-! ## Events -/

theorem w_surface_dispatch (wm : WindowManager) (e : Event) :
    (wm.dispatch e).w_surface = wm.w_surface :=
  dispatch_members (fun _ _ _ _ _ _ ↦ rfl) wm e (f := w_surface)

theorem surfaceState_dispatch (wm : WindowManager) (e : Event) :
    ∃ more, (wm.dispatch e).log = wm.log ++ more ∧
      (wm.dispatch e).surfaceState = wm.surfaceState := by
  obtain ⟨more, hlog, hmore⟩ := adds_dispatch wm e
  exact ⟨more, hlog, surfaceState_append hlog (w_surface_dispatch wm e) fun e' he' ↦
    surfaceOp_of_ofHandler _ (hmore e' he') _⟩

theorem buffer_map_dispatch (wm : WindowManager) (e : Event) :
    (wm.dispatch e).buffer_map = wm.buffer_map :=
  dispatch_members (fun _ _ _ _ _ _ ↦ rfl) wm e (f := buffer_map)

theorem HasShown.dispatch {frames : List Frame} {pending : List SurfaceUpdate}
    (h : wm.HasShown frames pending) (e : Event) : (wm.dispatch e).HasShown frames pending := by
  obtain ⟨more, hlog, hstate⟩ := surfaceState_dispatch wm e
  exact h.append hlog (w_surface_dispatch wm e) hstate

theorem KeepsFirst.dispatch {frames : List Frame} (h : wm.KeepsFirst frames) (e : Event) :
    (wm.dispatch e).KeepsFirst frames := by
  obtain ⟨more, hlog, -⟩ := surfaceState_dispatch wm e
  exact h.append hlog (w_surface_dispatch wm e) (buffer_map_dispatch wm e)

theorem Presents.dispatch {frames : List Frame} (h : Presents frames wm) (e : Event) :
    Presents frames (wm.dispatch e) :=
  ⟨h.keeps.dispatch e, h.shown.dispatch e⟩

theorem Presenting.dispatch {frames : List Frame} {frame : Frame} {id : ℕ}
    {pending : List SurfaceUpdate} (h : Presenting frames frame id pending wm) (e : Event) :
    Presenting frames frame id pending (wm.dispatch e) where
  keeps := h.keeps.dispatch e
  buffer := by
    unfold bufferFor
    rw [buffer_map_dispatch]
    exact h.buffer
  describes := by
    obtain ⟨more, hlog, -⟩ := surfaceState_dispatch wm e
    rw [hlog]
    exact h.describes.append more
  made := by
    obtain ⟨more, hlog, -⟩ := surfaceState_dispatch wm e
    rw [hlog, w_surface_dispatch]
    exact h.made.append more
  shown := h.shown.dispatch e

theorem Untouched.dispatch (h : wm.Untouched) (e : Event) : (wm.dispatch e).Untouched where
  log := by
    obtain ⟨more, hlog, hmore⟩ := adds_dispatch wm e
    rw [hlog]
    exact List.forall_mem_append.mpr ⟨h.log, fun e' he' ↦ surfaceOp_of_ofHandler _ (hmore e' he')⟩
  map := (buffer_map_dispatch wm e).trans h.map

theorem Blank.dispatch {commits : ℕ} (h : Blank commits wm) (e : Event) :
    Blank commits (wm.dispatch e) := by
  obtain ⟨more, -, hstate⟩ := surfaceState_dispatch wm e
  exact ⟨hstate.trans h.surface, (buffer_map_dispatch wm e).trans h.map⟩

/-! ## Outlines -/

/-- The step is a statement of the call in progress or an event. -/
def Proceeds (_ : Thread WindowManager) : Activity → Prop
  | .call _ => False
  | .main | .event _ => True

/-- From the first assertion the statements lead to the last one, whatever events are handled. -/
abbrev Leads (post pre : WindowManager → Prop) (todo : List Statement) : Prop :=
  Thread.Outline dispatch Proceeds (fun _ ↦ True) post pre todo

theorem Leads.next {post pre mid : WindowManager → Prop} {statement : Statement}
    {todo : List Statement} (hevent : ∀ wm e, pre wm → pre (wm.dispatch e))
    (hnext : ∀ wm, pre wm → mid (statement wm)) (hrest : Leads post mid todo) :
    Leads post pre (statement :: todo) :=
  Thread.Outline.next (fun _ _ ↦ trivial) (fun wm e h _ ↦ hevent wm e h) hnext hrest

theorem Untouched.createSurface (h : wm.Untouched) : Blank 0 (createSurface true wm) where
  surface := by
    have hlog : ∀ e ∈ wm.log ++ [⟨.wl_compositor_create_surface wm.compositor, true⟩],
        e.request.surfaceOp wm.newProxy = none :=
      List.forall_mem_append.mpr ⟨fun e he ↦ h.log e he _, List.forall_mem_singleton.mpr rfl⟩
    have hnone : (WindowManager.createSurface true wm).log.filterMap (fun e ↦
        e.request.surfaceOp (WindowManager.createSurface true wm).w_surface) = [] :=
      List.filterMap_eq_nil_iff.mpr hlog
    rw [surfaceState, batchesOf, hnone]
    rfl
  map := h.map

theorem Blank.other {commits : ℕ} {r : Request} (h : Blank commits wm)
    (hlog : wm'.log = wm.log ++ [⟨r, true⟩]) (hsurface : wm'.w_surface = wm.w_surface)
    (hmap : wm'.buffer_map = wm.buffer_map) (hr : r.surfaceOp wm.w_surface = none) :
    Blank commits wm' where
  surface := by
    rw [surfaceState_append hlog hsurface (List.forall_mem_singleton.mpr hr)]
    exact h.surface
  map := hmap.trans h.map

theorem Blank.commit {commits : ℕ} (h : Blank commits wm) :
    Blank (commits + 1) (WindowManager.commit wm) where
  surface := by
    have hop : (Request.wl_surface_commit wm.w_surface).surfaceOp wm.w_surface = some .commit :=
      if_pos rfl
    have hstate : (WindowManager.commit wm).surfaceState =
        DoubleBuffer.apply wm.surfaceState .commit := surfaceState_send rfl rfl hop
    rw [hstate, h.surface, List.replicate_succ']
    rfl
  map := h.map

theorem Blank.forgetFrame {commits : ℕ} (h : Blank commits wm) :
    Blank commits (WindowManager.forgetFrame wm) := ⟨h.surface, h.map⟩

theorem Blank.presents (h : Blank 2 wm) : Presents [] wm where
  keeps := by
    refine ⟨⟨∅, caches_empty h.map, fun _ ↦ AList.lookup_empty _⟩, fun address id hid ↦ ?_⟩
    rw [h.map] at hid
    cases hid
  shown := ⟨[], h.surface, .nil⟩

/-- The statements of `initialize` between the surface and its commits. -/
theorem Blank.silent {commits : ℕ} {statement : Statement}
    (hstatement : statement ∈ [getXdgSurface, addXdgSurfaceListener, getToplevel, setTitle,
      setAppId, setFullscreen, roundtrip]) (wm : WindowManager) (h : Blank commits wm) :
    Blank commits (statement wm) := by
  simp only [List.mem_cons, List.not_mem_nil, or_false] at hstatement
  rcases hstatement with rfl | rfl | rfl | rfl | rfl | rfl | rfl
  all_goals exact h.other rfl rfl rfl rfl

/-- `initialize` commits twice with nothing to apply. -/
theorem leads_initializeBody : Leads (Presents []) Untouched (initializeBody true) := by
  have hevent : ∀ commits wm e, Blank commits wm → Blank commits (wm.dispatch e) :=
    fun _ _ e h ↦ h.dispatch e
  unfold initializeBody
  rw [if_pos rfl]
  apply Leads.next (fun _ e h ↦ h.dispatch e) fun _ h ↦ h.createSurface
  apply Leads.next (hevent 0) (Blank.silent (by simp))
  apply Leads.next (hevent 0) (Blank.silent (by simp))
  apply Leads.next (hevent 0) (Blank.silent (by simp))
  apply Leads.next (hevent 0) (Blank.silent (by simp))
  apply Leads.next (hevent 0) (Blank.silent (by simp))
  apply Leads.next (hevent 0) (Blank.silent (by simp))
  apply Leads.next (hevent 0) fun _ h ↦ h.commit
  apply Leads.next (hevent 1) (Blank.silent (by simp))
  apply Leads.next (hevent 1) fun _ h ↦ h.commit
  apply Leads.next (hevent 2) fun _ h ↦ h.forgetFrame
  exact .done fun _ h ↦ Blank.presents h

/-- A buffer that an exchange creates is made while the surface is as it was before. -/
theorem madeAfter_newBuffer {wm : WindowManager} {frame : Frame}
    (h : wm.buffer_map.lookup frame.buffer = none) :
    MadeAfter (WindowManager.cacheBuffer frame wm).w_surface
      (WindowManager.cacheBuffer frame wm).log wm.surfaceState.batches.length
      (wm.newBuffer frame) := by
  obtain ⟨more, hlog, hmore⟩ := cacheBuffer_log wm frame
  have hlt : wm.newBuffer frame < (WindowManager.cacheBuffer frame wm).log.length := by
    rw [congrArg WindowManager.log (cacheBuffer_miss h)]
    simp only [newBuffer, exchange, List.length_append, List.length_cons, List.length_map]
    omega
  have hold : ∀ e ∈ more.take (frame.native.fds.length + 1),
      e.request.surfaceOp wm.w_surface = none :=
    fun e he ↦ surfaceOp_of_makesBuffer _ (hmore e (List.mem_of_mem_take he)) _
  refine ⟨hlt, ?_⟩
  rw [cacheBuffer_w_surface, hlog, newBuffer, List.take_length_add_append, batchesOf,
    List.filterMap_append, List.filterMap_eq_nil_iff.mpr hold, List.append_nil]
  rfl

/-- The addresses in the map are those of the frames. -/
theorem KeepsFirst.findIdx_lt_iff {frames : List Frame} (h : wm.KeepsFirst frames) (address : ℕ) :
    (frames.findIdx fun first ↦ first.buffer = address) < frames.length ↔
      (wm.buffer_map.lookup address).isSome := by
  obtain ⟨cache, hcaches, hcache⟩ := h.content
  have hrel := hcaches address
  rw [hcache] at hrel
  rw [List.findIdx_lt_length, ← List.find?_isSome]
  generalize wm.buffer_map.lookup address = p at hrel ⊢
  generalize frames.find? (fun first ↦ first.buffer = address) = first at hrel ⊢
  cases first with
  | none =>
    cases hrel
    exact Iff.rfl
  | some first =>
    cases hrel
    exact Iff.rfl

/-- A kept buffer has been made in the call for the first frame with its address, the one that is
being pushed included. -/
theorem KeepsFirst.made_cacheBuffer {frames : List Frame} (h : wm.KeepsFirst frames)
    (hcommits : wm.surfaceState.batches.length = 2 + frames.length) (frame : Frame)
    {address id : ℕ}
    (hid : (WindowManager.cacheBuffer frame wm).buffer_map.lookup address = some (.obj id)) :
    MadeAfter (WindowManager.cacheBuffer frame wm).w_surface
      (WindowManager.cacheBuffer frame wm).log
      (2 + (frames ++ [frame]).findIdx fun first ↦ first.buffer = address) id := by
  obtain ⟨more, hlog, -⟩ := cacheBuffer_log wm frame
  have hold : ∀ {address id}, wm.buffer_map.lookup address = some (.obj id) →
      MadeAfter (WindowManager.cacheBuffer frame wm).w_surface
        (WindowManager.cacheBuffer frame wm).log
        (2 + (frames ++ [frame]).findIdx fun first ↦ first.buffer = address) id := by
    intro address id hp
    have hknown := (h.findIdx_lt_iff address).mpr (Option.isSome_of_eq_some hp)
    rw [List.findIdx_append, if_pos hknown, hlog, cacheBuffer_w_surface]
    exact (h.made address id hp).append more
  cases hlookup : wm.buffer_map.lookup frame.buffer with
  | some p =>
    rw [cacheBuffer_hit hlookup] at hid
    exact hold hid
  | none =>
    by_cases haddress : address = frame.buffer
    · -- the frame is the first with its address
      subst haddress
      have hmade := madeAfter_newBuffer hlookup
      have hplace : ((frames ++ [frame]).findIdx fun first ↦ first.buffer = frame.buffer) =
          frames.length := by
        have hnew : ¬ (frames.findIdx fun first ↦ first.buffer = frame.buffer) < frames.length := by
          rw [h.findIdx_lt_iff, hlookup]
          exact Bool.false_ne_true
        rw [List.findIdx_append, if_neg hnew]
        simp
      rw [cacheBuffer_miss hlookup, AList.lookup_insert, Option.some.injEq,
        History.Ptr.obj.injEq] at hid
      rw [hplace, ← hcommits, ← hid]
      exact hmade
    · rw [cacheBuffer_miss hlookup, AList.lookup_insert_ne haddress] at hid
      exact hold hid

/-- One more frame, whose address may be new. -/
theorem KeepsFirst.cacheBuffer {frames : List Frame} (h : wm.KeepsFirst frames)
    (hcommits : wm.surfaceState.batches.length = 2 + frames.length) (frame : Frame) :
    (WindowManager.cacheBuffer frame wm).KeepsFirst (frames ++ [frame]) ∧
      ∃ id, (WindowManager.cacheBuffer frame wm).bufferFor frame.buffer = .obj id ∧
        Describes (WindowManager.cacheBuffer frame wm).log id
          (contentOf (frames ++ [frame]) frame) ∧
        (WindowManager.cacheBuffer frame wm).buffer_map.lookup frame.buffer = some (.obj id) := by
  obtain ⟨cache, hcaches, hcache⟩ := h.content
  obtain ⟨cache', hstep, hcaches', id, hbuffer, hid⟩ := hcaches.cacheBuffer frame
  have hcontent : KeyedCache.serve cache frame.buffer frame.description =
      contentOf (frames ++ [frame]) frame := by
    rw [KeyedCache.serve, hcache, contentOf, List.find?_append]
    cases frames.find? fun first ↦ first.buffer = frame.buffer <;> simp
  rw [hcontent] at hid
  refine ⟨⟨⟨cache', hcaches', fun address ↦ ?_⟩, fun address id hmap ↦ ?_⟩, id, hbuffer, hid, ?_⟩
  · rw [KeyedCache.lookup_get hstep, hcache, List.find?_append]
    by_cases haddress : address = frame.buffer
    · simp only [haddress, List.find?_singleton, decide_true, if_true]
      cases frames.find? fun first ↦ first.buffer = frame.buffer <;> rfl
    · simp only [haddress, List.find?_singleton, Ne.symm haddress, decide_false, if_false,
        Bool.false_eq_true, Option.or_none]
  · exact h.made_cacheBuffer hcommits frame hmap
  · rw [bufferFor] at hbuffer
    cases hlookup : (WindowManager.cacheBuffer frame wm).buffer_map.lookup frame.buffer with
    | none =>
      rw [hlookup] at hbuffer
      cases hbuffer
    | some p =>
      rw [hlookup] at hbuffer
      exact congrArg some hbuffer

/-- The exchange for a new buffer, or none. -/
theorem Presents.cacheBuffer {frames : List Frame} (h : Presents frames wm) (frame : Frame) :
    Within frames frame (fun _ ↦ []) (WindowManager.cacheBuffer frame wm) := by
  obtain ⟨hkeeps, id, hbuffer, hid, hmap⟩ := h.keeps.cacheBuffer h.shown.length_batches frame
  obtain ⟨more, hlog, hmore⟩ := cacheBuffer_log wm frame
  have hsurface := cacheBuffer_w_surface wm frame
  have hstate : (WindowManager.cacheBuffer frame wm).surfaceState = wm.surfaceState :=
    surfaceState_append hlog hsurface fun e he ↦ surfaceOp_of_makesBuffer _ (hmore e he) _
  exact ⟨id, hkeeps, hbuffer, hid, hkeeps.made _ _ hmap, h.shown.append hlog hsurface hstate⟩

theorem Presenting.other {frames : List Frame} {frame : Frame} {id : ℕ}
    {pending : List SurfaceUpdate} {r : Request} (h : Presenting frames frame id pending wm)
    (hlog : wm'.log = wm.log ++ [⟨r, true⟩]) (hsurface : wm'.w_surface = wm.w_surface)
    (hmap : wm'.buffer_map = wm.buffer_map) (hr : r.surfaceOp wm.w_surface = none) :
    Presenting frames frame id pending wm' where
  keeps := h.keeps.append hlog hsurface hmap
  buffer := by
    unfold bufferFor
    rw [hmap]
    exact h.buffer
  describes := by
    rw [hlog]
    exact h.describes.append _
  made := by
    rw [hlog, hsurface]
    exact h.made.append _
  shown :=
    h.shown.append hlog hsurface
      (surfaceState_append hlog hsurface (List.forall_mem_singleton.mpr hr))

theorem Presenting.update {frames : List Frame} {frame : Frame} {id : ℕ}
    {pending : List SurfaceUpdate} {r : Request} {u : SurfaceUpdate}
    (h : Presenting frames frame id pending wm) (hlog : wm'.log = wm.log ++ [⟨r, true⟩])
    (hsurface : wm'.w_surface = wm.w_surface) (hmap : wm'.buffer_map = wm.buffer_map)
    (hr : r.surfaceOp wm.w_surface = some (.update u)) :
    Presenting frames frame id (pending ++ [u]) wm' where
  keeps := h.keeps.append hlog hsurface hmap
  buffer := by
    unfold bufferFor
    rw [hmap]
    exact h.buffer
  describes := by
    rw [hlog]
    exact h.describes.append _
  made := by
    rw [hlog, hsurface]
    exact h.made.append _
  shown := by
    obtain ⟨shown, hshown, hframes⟩ := h.shown
    refine ⟨shown, ?_, ?_⟩
    · rw [surfaceState_send hlog hsurface hr, hshown]
      rfl
    · rw [hlog, hsurface]
      exact hframes.imp fun _ _ h ↦ h.append _

/-- The commit shows the frame. -/
theorem Presenting.commit {frames : List Frame} {frame : Frame} {id : ℕ}
    (h : Presenting frames frame id
      [.frame, .attach (.obj id) 0 0, .damage 0 0 frame.width frame.height] wm) :
    Presents (frames ++ [frame]) (WindowManager.commit wm) where
  keeps := h.keeps.append rfl rfl rfl
  shown := by
    obtain ⟨shown, hshown, hframes⟩ := h.shown
    have hop : (Request.wl_surface_commit wm.w_surface).surfaceOp wm.w_surface = some .commit :=
      if_pos rfl
    have hstate : (WindowManager.commit wm).surfaceState =
        DoubleBuffer.apply wm.surfaceState .commit := surfaceState_send rfl rfl hop
    refine ⟨shown ++ [[.frame, .attach (.obj id) 0 0, .damage 0 0 frame.width frame.height]],
      ?_, ?_⟩
    · rw [hstate, hshown]
      rfl
    · rw [forall₂_append_singleton]
      refine ⟨?_, id, rfl, h.describes.append _, h.made.append _⟩
      have hold := (List.forall₂_and_left _ _).mpr ⟨fun _ hf ↦ hf, hframes⟩
      refine hold.imp fun other batch hother ↦ ?_
      rw [contentOf_append hother.1, placeOf_append hother.1]
      exact hother.2.append _

theorem Presents.flush {frames : List Frame} (h : Presents frames wm) :
    Presents frames (WindowManager.flush wm) where
  keeps := h.keeps.append rfl rfl rfl
  shown :=
    h.shown.append rfl rfl (surfaceState_append rfl rfl (List.forall_mem_singleton.mpr rfl))

/-- `pushFrame` shows its frame after those before. -/
theorem leads_pushFrameBody (frames : List Frame) (frame : Frame) :
    Leads (Presents (frames ++ [frame])) (Presents frames) (pushFrameBody frame) := by
  have hpresents : ∀ frames wm e, Presents frames wm → Presents frames (wm.dispatch e) :=
    fun _ _ e h ↦ h.dispatch e
  have hwithin : ∀ pending wm e, Within frames frame pending wm →
      Within frames frame pending (wm.dispatch e) := by
    intro pending wm e h
    obtain ⟨id, h⟩ := h
    exact ⟨id, h.dispatch e⟩
  have hrequest : ∀ wm, Within frames frame (fun _ ↦ []) wm →
      Within frames frame (fun _ ↦ [.frame]) (requestFrame wm) := by
    intro wm h
    obtain ⟨id, h⟩ := h
    exact ⟨id, h.update rfl rfl rfl (if_pos rfl)⟩
  have hlistener : ∀ wm, Within frames frame (fun _ ↦ [.frame]) wm →
      Within frames frame (fun _ ↦ [.frame]) (addFrameListener wm) := by
    intro wm h
    obtain ⟨id, h⟩ := h
    exact ⟨id, h.other rfl rfl rfl rfl⟩
  have hattach : ∀ wm, Within frames frame (fun _ ↦ [.frame]) wm →
      Within frames frame (fun id ↦ [.frame, .attach (.obj id) 0 0]) (attach frame wm) := by
    intro wm h
    obtain ⟨id, h⟩ := h
    have hop : (Request.wl_surface_attach wm.w_surface (wm.bufferFor frame.buffer) 0 0).surfaceOp
        wm.w_surface = some (.update (.attach (.obj id) 0 0)) := by
      rw [h.buffer]
      exact if_pos rfl
    exact ⟨id, h.update rfl rfl rfl hop⟩
  have hdamage : ∀ wm, Within frames frame (fun id ↦ [.frame, .attach (.obj id) 0 0]) wm →
      Within frames frame (fun id ↦ [.frame, .attach (.obj id) 0 0,
        .damage 0 0 frame.width frame.height]) (damage frame wm) := by
    intro wm h
    obtain ⟨id, h⟩ := h
    exact ⟨id, h.update rfl rfl rfl (if_pos rfl)⟩
  have hcommit : ∀ wm, Within frames frame (fun id ↦ [.frame, .attach (.obj id) 0 0,
      .damage 0 0 frame.width frame.height]) wm →
      Presents (frames ++ [frame]) (WindowManager.commit wm) := by
    intro wm h
    obtain ⟨id, h⟩ := h
    exact h.commit
  apply Leads.next (hpresents frames) fun _ h ↦ h.cacheBuffer frame
  apply Leads.next (hwithin _) hrequest
  apply Leads.next (hwithin _) hlistener
  apply Leads.next (hwithin _) hattach
  apply Leads.next (hwithin _) hdamage
  apply Leads.next (hwithin _) hcommit
  apply Leads.next (hpresents _) fun _ h ↦ h.flush
  exact .done fun _ h ↦ h

theorem untouched_construct (answers : StartAnswers) : Untouched (construct answers) := by
  constructor
  · obtain ⟨more, hlog, hmore⟩ := adds_construct answers
    rw [hlog]
    exact fun e he ↦ surfaceOp_of_ofConstruct _ (hmore e he)
  · have hmembers := ownMembers_construct answers
    exact congrArg (fun members ↦ members.2.2.2) hmembers

/-- In every run of its two threads the window is somewhere on its way to presenting the frames of
the calls so far. -/
theorem outlined_calls {answers : StartAnswers} {activities : List Activity}
    {s : Thread WindowManager} (hrun : run step (start answers true) activities = some s) :
    Thread.Outlined dispatch Proceeds (fun _ ↦ True) (Presents (Client.calls activities)) s := by
  have hinit : Thread.Outlined dispatch Proceeds (fun _ ↦ True) (Presents [])
      (start answers true) :=
    ⟨Untouched, untouched_construct answers, leads_initializeBody⟩
  apply run_induction hinit _ hrun
  intro activities s a t _ hs hstep
  rw [Client.calls_snoc]
  have hgoesOn : Proceeds s a →
      Thread.Outlined dispatch Proceeds (fun _ ↦ True) (Presents (Client.calls activities)) t := by
    intro hproceeds
    apply hs.step _ _ hproceeds hstep
    · exact fun wm e hpresents _ ↦ hpresents.dispatch e
    · exact fun _ _ _ hcall ↦ hcall.elim
  cases a with
  | main =>
    rw [show Client.calls [.main] = [] from rfl, List.append_nil]
    exact hgoesOn trivial
  | event e =>
    rw [show Client.calls [.event e] = [] from rfl, List.append_nil]
    exact hgoesOn trivial
  | call frame =>
    -- a call finds the main thread idle, where everything so far has been presented
    obtain ⟨wm, todo⟩ := s
    cases todo with
    | nil =>
      cases hstep
      exact ⟨_, hs.memory_post rfl, leads_pushFrameBody _ frame⟩
    | cons statement todo => cases hstep

/-! ## The surface -/

theorem OnSurface.append (h : wm.OnSurface) (hlog : wm'.log = wm.log ++ more)
    (hsurface : wm'.w_surface = wm.w_surface) : wm'.OnSurface := by
  obtain ⟨id, compositor, hid, hcreated, hcompositor⟩ := h
  refine ⟨id, compositor, hsurface.trans hid, ?_, ?_⟩
  · rw [hlog, List.getElem?_append_left (List.getElem?_eq_some_iff.mp hcreated).1, hcreated]
  · rw [hlog]
    exact hcompositor.append more

theorem OnSurface.dispatch (h : wm.OnSurface) (e : Event) : (wm.dispatch e).OnSurface := by
  obtain ⟨more, hlog, -⟩ := adds_dispatch wm e
  exact h.append hlog (w_surface_dispatch wm e)

theorem OnCompositor.dispatch (h : wm.OnCompositor) (e : Event) : (wm.dispatch e).OnCompositor := by
  obtain ⟨compositor, hcompositor, hcreated⟩ := h
  obtain ⟨more, hlog, -⟩ := adds_dispatch wm e
  refine ⟨compositor, ?_, ?_⟩
  · rw [dispatch_members (fun _ _ _ _ _ _ ↦ rfl) wm e (f := WindowManager.compositor)]
    exact hcompositor
  · rw [hlog]
    exact hcreated.append more

theorem OnCompositor.createSurface (h : wm.OnCompositor) : (createSurface true wm).OnSurface := by
  obtain ⟨compositor, hcompositor, hcreated⟩ := h
  refine ⟨wm.log.length, compositor, rfl, ?_, hcreated.append _⟩
  rw [← hcompositor]
  exact List.getElem?_concat_length

/-- After its first statement `initialize` does not change the surface. -/
theorem onSurface_initializeBody :
    ∀ statement ∈ (initializeBody true).tail, ∀ wm : WindowManager, wm.OnSurface →
      (statement wm).OnSurface := by
  intro statement hstatement wm h
  simp only [initializeBody, if_true, List.tail_cons, List.mem_cons, List.not_mem_nil,
    or_false] at hstatement
  rcases hstatement with rfl | rfl | rfl | rfl | rfl | rfl | rfl | rfl | rfl | rfl
  case inr.inr.inr.inr.inr.inr.inr.inr.inr => exact h
  all_goals exact h.append rfl rfl

theorem onSurface_pushFrameBody (frame : Frame) :
    ∀ statement ∈ pushFrameBody frame, ∀ wm : WindowManager, wm.OnSurface →
      (statement wm).OnSurface := by
  intro statement hstatement wm h
  simp only [pushFrameBody, List.mem_cons, List.not_mem_nil, or_false] at hstatement
  rcases hstatement with rfl | rfl | rfl | rfl | rfl | rfl | rfl
  · obtain ⟨more, hlog, -⟩ := cacheBuffer_log wm frame
    exact h.append hlog (cacheBuffer_w_surface wm frame)
  all_goals exact h.append rfl rfl

/-- After a complete start the window keeps the surface that `initialize` has created. -/
theorem onSurface_of_run {answers : StartAnswers} (hcomplete : answers.Complete)
    {activities : List Activity} {s : Thread WindowManager}
    (hrun : run step (start answers true) activities = some s) (hidle : s.todo = []) :
    s.memory.OnSurface := by
  have hconstant : ∀ todo, (∀ statement ∈ todo, ∀ wm : WindowManager, wm.OnSurface →
      (statement wm).OnSurface) →
      Thread.Outline (κ := Frame) dispatch (fun _ _ ↦ True) (fun _ ↦ True) OnSurface OnSurface
        todo :=
    fun todo htodo ↦ .constant (fun _ _ ↦ trivial) (fun _ h ↦ h) (fun _ e h ↦ h.dispatch e) htodo
  have hinit : Thread.Outlined (κ := Frame) dispatch (fun _ _ ↦ True) (fun _ ↦ True) OnSurface
      (start answers true) := by
    refine ⟨OnCompositor, ?_, .next (fun _ _ ↦ trivial) (fun _ e h _ ↦ h.dispatch e)
      (fun _ h ↦ h.createSurface) (hconstant _ onSurface_initializeBody)⟩
    have hbound : (Interface.wl_compositor, (construct answers).compositor) ∈
        (construct answers).bound := by
      simp [bound]
    exact ((holds_construct hcomplete).live _ hbound).created
  have houtlined := run_invariant' (fun _ _ _ hs h ↦ hs.step (fun _ e h _ ↦ h.dispatch e)
    (fun _ frame h _ ↦ ⟨_, h, hconstant _ (onSurface_pushFrameBody frame)⟩) trivial h) hinit hrun
  exact houtlined.memory_post hidle

end WindowManager

namespace FrameLoop

/-- Frames leave the queue in order, and those that are pushed are among them. -/
def InOrder (s : FrameLoop) : Prop :=
  ∃ taken, s.queued = taken ++ s.queue.map (fun frame ↦ frame.buffer.frame) ∧
    s.pushed.Sublist taken

theorem inOrder_step {s t : FrameLoop} {a : Action} (hs : s.InOrder) (h : s.step a = some t) :
    t.InOrder := by
  obtain ⟨taken, hqueued, hpushed⟩ := hs
  rcases step_cases h with ⟨frame, rfl, -, rfl⟩ | ⟨rfl, -, -, rfl⟩ | ⟨rfl, -, rfl⟩ | ⟨rfl, -, rfl⟩ |
    ⟨answers, r, rfl, -, hacquires, hr, rfl⟩ | ⟨answers, imgBuffer, r, rfl, -, -, rfl⟩ |
    ⟨buffer, rfl, -, rfl⟩
  case inl =>
    refine ⟨taken, ?_, hpushed⟩
    simp [queueBuffer, hqueued]
  case inr.inr.inl =>
    unfold inputBufferLocked
    split_ifs
    · exact ⟨taken, hqueued, hpushed⟩
    · exact ⟨taken, hqueued, hpushed⟩
  case inr.inr.inr.inr.inl =>
    have hsame : answers.acquireErr ≠ .OK → (s.lockedNext answers r).queue = s.queue :=
      fun hfailed ↦ if_neg hfailed
    rcases WLConsumer.lockNextBuffer_cases hr with ⟨hfailed, status, -, rfl⟩ |
      ⟨hacquire, -, rfl⟩ | ⟨hacquire, -, -, rfl⟩
    · refine ⟨taken, ?_, ?_⟩
      · rw [hsame hfailed]
        exact hqueued
      · simpa [lockedNext] using hpushed
    all_goals
      have hhead : s.queue.map (fun frame ↦ frame.buffer.frame) =
          answers.buffer.frame :: s.queue.tail.map fun frame ↦ frame.buffer.frame :=
        congrArg (List.map _) (queue_of_acquires hacquires hacquire)
      refine ⟨taken ++ [answers.buffer.frame], ?_, ?_⟩
    · rw [hhead] at hqueued
      simpa [lockedNext, hacquire] using hqueued
    · simpa [lockedNext] using hpushed.trans (List.sublist_append_left _ _)
    · rw [hhead] at hqueued
      simpa [lockedNext, hacquire] using hqueued
    · exact hpushed.append (List.Sublist.refl _)
  all_goals exact ⟨taken, hqueued, hpushed⟩

end FrameLoop

namespace Client

/-- The window is somewhere on its way to presenting what the loop has pushed. -/
def Presenting (s : Client) : Prop :=
  Thread.Outlined WindowManager.dispatch WindowManager.Proceeds (fun _ ↦ True)
    (WindowManager.Presents s.loop.pushed) s.window

/-- The process runs the window's two threads, with the calls that the loop has recorded. -/
theorem presenting_of_run {answers : WindowManager.StartAnswers} {uninitialised : SizeT}
    {actions : List Action} {s : Client}
    (hrun : run step (start answers true uninitialised) actions = some s) : s.Presenting := by
  obtain ⟨activities, hwindow, hpushed⟩ := windowRuns_of_run hrun
  have hcalls : s.loop.pushed = calls activities := hpushed
  unfold Presenting
  rw [hcalls]
  exact WindowManager.outlined_calls hwindow

section Runs

variable {answers : WindowManager.StartAnswers} {uninitialised : SizeT} {actions : List Action}
  {s : Client} (hrun : run step (start answers true uninitialised) actions = some s)

include hrun

theorem pushed_sublist_queued : s.loop.pushed.Sublist s.loop.queued := by
  have hinit : (FrameLoop.createInputSurface uninitialised).InOrder := ⟨[], rfl, List.nil_sublist _⟩
  obtain ⟨taken, hqueued, hpushed⟩ := run_invariant' (fun _ _ _ ↦ FrameLoop.inOrder_step) hinit
    (component_loop.run_part hrun)
  rw [hqueued]
  exact hpushed.trans (List.sublist_append_left _ _)

theorem hasShown_pushed (hidle : s.window.todo = []) :
    s.window.memory.HasShown s.loop.pushed [] := by
  have hpresenting : s.Presenting := presenting_of_run hrun
  exact (hpresenting.memory_post hidle).shown

/-- After a complete start that finds a surface: whenever the main thread is between two calls, the
compositor has been shown on that surface the frames that were pushed, each in a commit of its own,
and they are queued frames in the order in which they were queued. -/
theorem shown_in_order (hcomplete : answers.Complete) (hidle : s.window.todo = []) :
    s.loop.pushed.Sublist s.loop.queued ∧ s.window.memory.OnSurface ∧
      s.window.memory.HasShown s.loop.pushed [] := by
  obtain ⟨activities, hwindow, -⟩ := windowRuns_of_run hrun
  exact ⟨pushed_sublist_queued hrun, WindowManager.onSurface_of_run hcomplete hwindow hidle,
    hasShown_pushed hrun hidle⟩

end Runs

/-- The start of the window, and then one frame after the other. -/
def framesShown (ids : List ℕ) : List Action :=
  List.replicate (WindowManager.initializeBody true).length .statement ++ ids.flatMap fun id ↦
    [.loop (.queueBuffer (.onePixel id)), .loop .onFrameAvailable, .loop .inputBufferLocked,
      .loop (.lockNextBuffer (.onePixel id .OK 64))] ++
    List.replicate 7 .statement ++ [.loop (.unlockBuffer ⟨.OK, -1⟩)]

theorem run_framesShown : ∃ s, run step (start .prompt true 0) (framesShown [0, 1]) = some s ∧
    s.window.todo = [] ∧ s.loop.AtRest ∧ s.loop.pushed = s.loop.queued ∧
    s.loop.queued = [(GraphicBuffer.onePixel 0).frame, (GraphicBuffer.onePixel 1).frame] :=
  ⟨_, rfl, rfl, ⟨rfl, .inl rfl, rfl⟩, rfl, rfl⟩

theorem shown_in_order_framesShown : ∃ s,
    run step (start .prompt true 0) (framesShown [0, 1]) = some s ∧ s.window.memory.OnSurface ∧
    s.window.memory.HasShown [(GraphicBuffer.onePixel 0).frame, (GraphicBuffer.onePixel 1).frame]
      [] := by
  obtain ⟨s, hrun, hidle, -, hpushed, hqueued⟩ := run_framesShown
  obtain ⟨-, hsurface, hshown⟩ := shown_in_order hrun WindowManager.complete_prompt hidle
  rw [hpushed, hqueued] at hshown
  exact ⟨s, hrun, hsurface, hshown⟩

/-- Frames pushed from a fresh loop are all the queued ones, once it is at rest, exactly when no
announcement found the flag set. -/
theorem pushed_eq_queued_iff_flagClear' {uninitialised : SizeT} {actions : List FrameLoop.Action}
    {s : FrameLoop} (hsucceed : ∀ a ∈ actions, a.Succeeds)
    (hrun : run FrameLoop.step (.createInputSurface uninitialised) actions = some s)
    (hrest : s.AtRest) :
    s.pushed = s.queued ↔
      StepsAll FrameLoop.step FrameLoop.FlagClear (.createInputSurface uninitialised) actions := by
  have hallowed : StepsAll FrameLoop.step (fun _ a ↦ a.Succeeds)
      (.createInputSurface uninitialised) actions := stepsAll_of_forall fun a ha _ ↦ hsucceed a ha
  have hinit := FrameLoop.accounted_createInputSurface uninitialised
  have haccounted : s.Accounted :=
    run_invariant (fun _ _ _ hs ha h ↦ (FrameLoop.accounted_step hs ha h).1) hinit hallowed hrun
  have hend := stepsAll_iff_end
    (fun _ _ _ hs ha h ↦ FrameLoop.accounted_step hs ha h) hinit rfl hallowed hrun
  rw [FrameLoop.pushed_eq_queued_iff haccounted, hend, FrameLoop.awaited_eq_zero hrest]

/-- Every one of the frames has been shown, in order, with its own content. -/
def ShownAll (s : Client) (frames : List Frame) : Prop :=
  ∃ shown, s.window.memory.surfaceState = ⟨[] :: [] :: shown, []⟩ ∧
    List.Forall₂ (fun frame batch ↦ ∃ commits, Shows s.window.memory.w_surface s.window.memory.log
      commits frame.description frame batch) frames shown

/-- The pushed frames have been shown with their own content exactly when their addresses do not
clash. -/
theorem shownAll_iff_oneContentEach {s : Client} {frames : List Frame}
    (h : s.window.memory.HasShown frames []) : s.ShownAll frames ↔ OneContentEach frames := by
  obtain ⟨shown, hshown, hframes⟩ := h
  rw [← forall_contentOf_iff]
  constructor
  · intro hall frame hframe
    obtain ⟨shown', hshown', hframes'⟩ := hall
    rw [hshown] at hshown'
    cases hshown'
    obtain ⟨i, hi, rfl⟩ := List.getElem_of_mem hframe
    have hlt : i < shown.length := hframes.length_eq ▸ hi
    obtain ⟨commits, hown⟩ := hframes'.get hi hlt
    exact (hframes.get hi hlt).unique hown
  · intro hown
    refine ⟨shown, hshown, ?_⟩
    have hmem := (List.forall₂_and_left _ _).mpr ⟨fun _ hf ↦ hf, hframes⟩
    refine hmem.imp fun frame batch h ↦ ?_
    rw [← hown frame h.1]
    exact ⟨_, h.2⟩

/-- Two lists of frames that have been shown are as long as each other. -/
theorem ShownAll.length_eq {s : Client} {frames frames' : List Frame} (h : s.ShownAll frames)
    (h' : s.window.memory.HasShown frames' []) : frames.length = frames'.length := by
  obtain ⟨shown, hshown, hframes⟩ := h
  obtain ⟨shown', hshown', hframes'⟩ := h'
  rw [hshown] at hshown'
  cases hshown'
  exact hframes.length_eq.trans hframes'.length_eq.symm

/-- Over every run of a client whose `initialize` finds a surface, in which acquires and locks
succeed and that ends at rest: the compositor has been shown every queued frame, in order and with
its own content, exactly when no announcement found the flag set and no handle address stood for two
buffers. -/
theorem shownAll_queued_iff {answers : WindowManager.StartAnswers} {uninitialised : SizeT}
    {actions : List Action} {s : Client}
    (hsucceed : ∀ a ∈ actions.filterMap Action.ofLoop, a.Succeeds)
    (hrun : run step (start answers true uninitialised) actions = some s) (hrest : s.loop.AtRest)
    (hidle : s.window.todo = []) :
    s.ShownAll s.loop.queued ↔
      StepsAll step (fun s a ↦ ∀ b, a.ofLoop = some b → s.loop.FlagClear b)
        (start answers true uninitialised) actions ∧ OneContentEach s.loop.queued := by
  have hloop := component_loop.run_part hrun
  have hpushed := pushed_eq_queued_iff_flagClear' hsucceed hloop hrest
  rw [← component_loop.stepsAll_iff hrun]
  change _ ↔ StepsAll FrameLoop.step _ (.createInputSurface uninitialised) _ ∧ _
  rw [← hpushed]
  have hshown := hasShown_pushed hrun hidle
  constructor
  · intro hall
    have heq : s.loop.pushed = s.loop.queued :=
      (pushed_sublist_queued hrun).eq_of_length (hall.length_eq hshown).symm
    rw [heq] at hshown
    exact ⟨heq, (shownAll_iff_oneContentEach hshown).mp hall⟩
  · intro ⟨heq, hone⟩
    rw [heq] at hshown
    exact (shownAll_iff_oneContentEach hshown).mpr hone

theorem shownAll_framesShown : ∃ s, run step (start .prompt true 0) (framesShown [0, 1]) = some s ∧
    s.ShownAll s.loop.queued := by
  obtain ⟨s, hrun, hidle, hrest, hpushed, hqueued⟩ := run_framesShown
  have hloop : (framesShown [0, 1]).filterMap Action.ofLoop = FrameLoop.framesInTurn := rfl
  have hsucceed : ∀ a ∈ (framesShown [0, 1]).filterMap Action.ofLoop, a.Succeeds := by
    rw [hloop]
    simp [FrameLoop.framesInTurn, FrameLoop.onePixelIteration, FrameLoop.Action.Succeeds,
      WLConsumer.LockAnswers.onePixel]
  refine ⟨s, hrun, (shownAll_queued_iff hsucceed hrun hrest hidle).mpr ⟨?_, ?_⟩⟩
  · rw [← component_loop.stepsAll_iff hrun]
    exact (pushed_eq_queued_iff_flagClear' hsucceed (component_loop.run_part hrun) hrest).mp hpushed
  · rw [hqueued]
    unfold OneContentEach
    decide

end Client

end WLManager
