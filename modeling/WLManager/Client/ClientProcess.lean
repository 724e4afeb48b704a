import WLManager.Client.FrameLoop
import WLManager.Client.WindowThread
import WLManager.Transition.Projection

/-!
# The client process

The main thread runs `initialize` and then calls `inputBufferLocked` over and over. When
`lockNextBuffer` has locked a buffer it calls `pushFrame`, and the iteration goes on once that has
returned. Meanwhile the dispatch thread handles events, the producer queues frames and announces
them, and the compositor lets go of buffers.

The process is put together from the frame loop and the window's two threads: its runs are runs of
either, with the calls of `pushFrame` made by the loop. Nothing but the main thread touches the
consumer's table, so recording the locked buffer before the statements of `pushFrame` run, and not
after them, makes no difference to anyone.
-/

namespace WLManager

open Transition

namespace FrameLoop

def Action.OfMain : Action → Prop
  | .inputBufferLocked | .wake | .lockNextBuffer _ | .unlockBuffer _ => True
  | .queueBuffer _ | .onFrameAvailable | .bufferReleased _ => False

instance (a : Action) : Decidable a.OfMain := by
  cases a <;> unfold Action.OfMain <;> infer_instance

/-- The frame for which the step calls `pushFrame`. -/
def pushes (s : FrameLoop) : Action → Option Frame
  | .lockNextBuffer answers =>
    (s.consumer.lockNextBuffer (some .empty) answers).bind WLConsumer.LockReturn.pushed
  | _ => none

/-- The history of the loop records every call. -/
theorem pushed_step {s t : FrameLoop} {a : Action} (h : s.step a = some t) :
    t.pushed = s.pushed ++ (s.pushes a).toList := by
  rcases step_cases h with ⟨frame, rfl, -, rfl⟩ | ⟨rfl, -, -, rfl⟩ | ⟨rfl, -, rfl⟩ | ⟨rfl, -, rfl⟩ |
    ⟨answers, r, rfl, -, -, hr, rfl⟩ | ⟨answers, imgBuffer, r, rfl, -, -, rfl⟩ |
    ⟨buffer, rfl, -, rfl⟩
  case inr.inr.inl =>
    rw [inputBufferLocked]
    split_ifs
    · exact (List.append_nil _).symm
    · exact (List.append_nil _).symm
  case inr.inr.inr.inr.inl =>
    rw [pushes, hr, Option.bind_some]
    rfl
  all_goals exact (List.append_nil _).symm

end FrameLoop

/-- The loop and the window. -/
structure Client where
  loop : FrameLoop
  window : Thread WindowManager

namespace Client

/-- The constructor of the window manager has returned, and `initialize` will find a surface or not.
Its caller ignores which. -/
def start (answers : WindowManager.StartAnswers) (created : Bool) (uninitialised : SizeT) :
    Client where
  loop := .createInputSurface uninitialised
  window := WindowManager.start answers created

/-- A step of the loop, a statement of `initialize` or `pushFrame`, or an event. -/
inductive Action
  | loop (a : FrameLoop.Action)
  | statement
  | event (e : Event)

def Action.ofLoop : Action → Option FrameLoop.Action
  | .loop a => some a
  | .statement | .event _ => none

/-- The window after a step of the loop, which may call `pushFrame`. -/
def windowAfter (s : Client) (a : FrameLoop.Action) : Thread WindowManager :=
  match s.loop.pushes a with
  | none => s.window
  | some frame => ⟨s.window.memory, WindowManager.pushFrameBody frame⟩

/-- The loop waits while the main thread is in `initialize` or `pushFrame`. -/
def step (s : Client) : Action → Option Client
  | .loop a =>
    if a.OfMain ∧ s.window.todo ≠ [] then none
    else (s.loop.step a).map fun loop ↦ ⟨loop, s.windowAfter a⟩
  | .statement => (WindowManager.step s.window .main).map fun window ↦ ⟨s.loop, window⟩
  | .event e => (WindowManager.step s.window (.event e)).map fun window ↦ ⟨s.loop, window⟩

/-- Everything one step can do: something in the loop that the window does not notice, a call of
`pushFrame`, or a step of the window alone. -/
theorem step_cases {s t : Client} {a : Action} (h : s.step a = some t) :
    (∃ b loop, a = .loop b ∧ s.loop.step b = some loop ∧ s.loop.pushes b = none ∧
      t = ⟨loop, s.window⟩) ∨
    (∃ b loop frame, a = .loop b ∧ s.loop.step b = some loop ∧ s.loop.pushes b = some frame ∧
      s.window.todo = [] ∧ t = ⟨loop, ⟨s.window.memory, WindowManager.pushFrameBody frame⟩⟩) ∨
    (∃ activity window, a.ofLoop = none ∧
      (a = .statement ∧ activity = .main ∨ ∃ e, a = .event e ∧ activity = .event e) ∧
      WindowManager.step s.window activity = some window ∧ t = ⟨s.loop, window⟩) := by
  cases a with
  | loop b =>
    simp only [step] at h
    split_ifs at h with hbusy
    obtain ⟨loop, hloop, ht⟩ := Option.map_eq_some_iff.mp h
    unfold windowAfter at ht
    cases hpushes : s.loop.pushes b with
    | none =>
      rw [hpushes] at ht
      exact .inl ⟨b, loop, rfl, hloop, hpushes, ht.symm⟩
    | some frame =>
      rw [hpushes] at ht
      have hmain : b.OfMain := by
        cases b <;> trivial
      have hidle : s.window.todo = [] := by
        by_contra htodo
        exact hbusy ⟨hmain, htodo⟩
      exact .inr (.inl ⟨b, loop, frame, rfl, hloop, hpushes, hidle, ht.symm⟩)
  | statement =>
    simp only [step] at h
    obtain ⟨window, hwindow, ht⟩ := Option.map_eq_some_iff.mp h
    exact .inr (.inr ⟨.main, window, rfl, .inl ⟨rfl, rfl⟩, hwindow, ht.symm⟩)
  | event e =>
    simp only [step] at h
    obtain ⟨window, hwindow, ht⟩ := Option.map_eq_some_iff.mp h
    exact .inr (.inr ⟨.event e, window, rfl, .inr ⟨e, rfl, rfl⟩, hwindow, ht.symm⟩)

theorem component_loop : Component step FrameLoop.step loop Action.ofLoop where
  own := by
    intro s a t b hproject h
    rcases step_cases h with ⟨b', loop, rfl, hloop, -, rfl⟩ |
      ⟨b', loop, frame, rfl, hloop, -, -, rfl⟩ | ⟨activity, window, hother, -, -, -⟩
    · cases hproject
      exact hloop
    · cases hproject
      exact hloop
    · rw [hother] at hproject
      cases hproject
  other := by
    intro s a t hproject h
    rcases step_cases h with ⟨b, loop, rfl, -⟩ | ⟨b, loop, frame, rfl, -⟩ |
      ⟨activity, window, -, -, -, rfl⟩
    · cases hproject
    · cases hproject
    · rfl

/-- The frames for which `pushFrame` is called. -/
def calls (activities : List WindowManager.Activity) : List Frame :=
  activities.filterMap fun
    | .call frame => some frame
    | .main | .event _ => none

theorem calls_snoc (activities : List WindowManager.Activity) (activity : WindowManager.Activity) :
    calls (activities ++ [activity]) = calls activities ++ calls [activity] :=
  List.filterMap_append

/-- The window has gone from one state to the other, with the calls that the loop has recorded. -/
def WindowRuns (s t : Client) : Prop :=
  ∃ activities, run WindowManager.step s.window activities = some t.window ∧
    t.loop.pushed = s.loop.pushed ++ calls activities

theorem WindowRuns.snoc {s t u : Client} {activity : WindowManager.Activity} (h : WindowRuns s t)
    (hstep : WindowManager.step t.window activity = some u.window)
    (hpushed : u.loop.pushed = t.loop.pushed ++ calls [activity]) : WindowRuns s u := by
  obtain ⟨activities, hrun, hcalls⟩ := h
  refine ⟨activities ++ [activity], run_snoc_eq_some.mpr ⟨t.window, hrun, hstep⟩, ?_⟩
  rw [hpushed, hcalls, calls_snoc, List.append_assoc]

/-- Every run of the process is a run of the window's two threads, in which the calls of `pushFrame`
are those that the loop has recorded. -/
theorem windowRuns_of_run {s t : Client} {actions : List Action}
    (h : run step s actions = some t) : WindowRuns s t := by
  have hinit : WindowRuns s s := ⟨[], rfl, (List.append_nil _).symm⟩
  apply run_invariant' _ hinit h
  intro t a u ht hstep
  rcases step_cases hstep with ⟨b, loop, -, hloop, hnone, rfl⟩ |
    ⟨b, loop, frame, -, hloop, hsome, hidle, rfl⟩ | ⟨activity, window, -, hkind, hwindow, rfl⟩
  · obtain ⟨activities, hrun, hcalls⟩ := ht
    have hpushed := FrameLoop.pushed_step hloop
    rw [hnone, Option.toList_none, List.append_nil] at hpushed
    exact ⟨activities, hrun, hpushed.trans hcalls⟩
  · have hcall : WindowManager.step t.window (.call frame) =
        some ⟨t.window.memory, WindowManager.pushFrameBody frame⟩ := by
      unfold WindowManager.step Thread.step
      rw [hidle]
    have hpushed := FrameLoop.pushed_step hloop
    rw [hsome] at hpushed
    exact ht.snoc hcall hpushed
  · apply ht.snoc hwindow
    rcases hkind with ⟨-, rfl⟩ | ⟨e, -, rfl⟩
    · exact (List.append_nil _).symm
    · exact (List.append_nil _).symm

end Client

end WLManager
