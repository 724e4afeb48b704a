import WLManager.Client.LoopTable
import WLManager.Client.ShownFrames

/-!
# How soon a frame is shown

The flag is set under `mMutex` and looked at under it, and whichever way the wait ends, the next
iteration looks again. So no announcement is overlooked: while the flag is set the queue has a
frame, and the main thread has shown the first one after ten more of its own steps, and those that
`initialize` still has to do. Those are the end of a wait, the start of an iteration, the lock and
the statements of `pushFrame`. The producer, the event thread and the compositor may do whatever
they like in between.

Nor does the main thread get stuck after a complete start, or use anything that does not exist, as
long as no unlock has failed and every callback is still there when it gets its listener.
-/

namespace WLManager

open Transition

/-- The main thread's steps until a frame that is ready has been shown: the end of a wait, the start
of an iteration, the lock and the seven statements of `pushFrame`. -/
def LoopPc.stepsLeft : LoopPc → ℕ
  | .waiting => 10
  | .idle => 9
  | .taken => 8
  | .locked _ => 0

namespace FrameLoop

/-! ## The flag and the queue -/

/-- The account of announced frames is covered by the queue, and the flag is only set where the loop
does not hold `mMutex`. -/
structure Alert (s : FrameLoop) : Prop where
  awaited_le : s.awaited ≤ s.queue.length
  mutexFree : s.mFrameAvailable = true → s.MutexFree

theorem alert_createInputSurface (uninitialised : SizeT) :
    (createInputSurface uninitialised).Alert := ⟨le_rfl, Bool.noConfusion⟩

theorem Alert.flag {s : FrameLoop} (h : s.Alert) (hpc : ¬ s.MutexFree) :
    s.mFrameAvailable = false :=
  Bool.eq_false_iff.mpr fun hflag ↦ hpc (h.mutexFree hflag)

theorem not_mutexFree_taken {s : FrameLoop} (h : s.pc = .taken) : ¬ s.MutexFree :=
  fun hfree ↦ not_taken_of_mutexFree hfree h

theorem not_mutexFree_locked {s : FrameLoop} {imgBuffer : LockedBuffer}
    (h : s.pc = .locked imgBuffer) : ¬ s.MutexFree := by
  unfold MutexFree
  rw [h]
  exact fun hfree ↦ hfree.elim LoopPc.noConfusion LoopPc.noConfusion

theorem alert_step {s t : FrameLoop} {a : Action} (hs : s.Alert) (h : s.step a = some t) :
    t.Alert := by
  have hle := hs.awaited_le
  rcases step_cases h with ⟨frame, rfl, -, rfl⟩ | ⟨rfl, hnotifying, hfree, rfl⟩ |
    ⟨rfl, hpc, rfl⟩ | ⟨rfl, hpc, rfl⟩ | ⟨answers, r, rfl, hpc, -, -, rfl⟩ |
    ⟨answers, imgBuffer, r, rfl, hpc, -, rfl⟩ | ⟨buffer, rfl, -, rfl⟩
  · have hlength : (s.queueBuffer frame).queue.length = s.queue.length + 1 := List.length_append
    have hawaited : (s.queueBuffer frame).awaited = s.awaited + 1 := by
      have hnotifying : (s.queueBuffer frame).notifying = s.notifying + 1 := rfl
      rw [awaited, awaited, hnotifying, add_right_comm _ 1, add_right_comm _ 1]
      rfl
    exact ⟨by omega, hs.mutexFree⟩
  · have hawaited := awaited_onFrameAvailable hnotifying hfree
    have hlength : s.onFrameAvailable.queue.length = s.queue.length := rfl
    exact ⟨by omega, fun _ ↦ hfree⟩
  · have hlength : s.inputBufferLocked.queue.length = s.queue.length := by
      unfold inputBufferLocked
      split_ifs <;> rfl
    refine ⟨?_, ?_⟩
    · rw [hlength, awaited_inputBufferLocked hpc]
      exact hle
    · unfold inputBufferLocked
      split_ifs with hflag
      · exact False.elim
      · exact fun _ ↦ .inr rfl
  · have hawaited : s.wake.awaited = s.awaited := by
      simp [awaited, wake, hpc]
    exact ⟨hawaited ▸ hle, fun _ ↦ .inl rfl⟩
  · have hawaited : (s.lockedNext answers r).awaited + 1 = s.awaited := awaited_lockedNext hpc
    have hlength : s.queue.length ≤ (s.lockedNext answers r).queue.length + 1 := by
      change s.queue.length ≤
        (if answers.acquireErr = .OK then s.queue.tail else s.queue).length + 1
      split_ifs
      · rw [List.length_tail]
        omega
      · exact Nat.le_succ _
    have hflag : (s.lockedNext answers r).mFrameAvailable = false :=
      hs.flag (not_mutexFree_taken hpc)
    exact ⟨by omega, fun htrue ↦ absurd (hflag.symm.trans htrue) Bool.noConfusion⟩
  · have hawaited : (s.unlockedNext r).awaited = s.awaited := by
      simp [awaited, unlockedNext, hpc]
    exact ⟨hawaited ▸ hle, fun _ ↦ .inl rfl⟩
  · exact ⟨hle, hs.mutexFree⟩

/-- A set flag, or an iteration that has cleared it, stands for a frame in the queue. -/
theorem Alert.exists_head {s : FrameLoop} (h : s.Alert)
    (hready : s.pc = .taken ∨ s.mFrameAvailable = true) :
    ∃ frame, s.queue.head? = some frame := by
  have hpos : 0 < s.queue.length := by
    refine lt_of_lt_of_le ?_ h.awaited_le
    unfold awaited
    rcases hready with hpc | hflag
    · rw [if_pos hpc]
      omega
    · rw [hflag, Bool.toNat_true]
      omega
  exact ⟨s.queue[0], List.head?_eq_getElem? ▸ List.getElem?_eq_getElem hpos⟩

/-! ## From the flag to the lock -/

/-- The frame is the next one, and an iteration has been started for it or will be. -/
structure Ready (frame : QueuedFrame) (s : FrameLoop) : Prop where
  head : s.queue.head? = some frame
  awake : s.pc = .taken ∨ s.mFrameAvailable = true ∧ s.MutexFree

theorem Ready.of_unchanged {frame : QueuedFrame} {s t : FrameLoop} (h : s.Ready frame)
    (hqueue : t.queue.head? = s.queue.head?) (hpc : t.pc = s.pc)
    (hflag : s.mFrameAvailable = true → t.mFrameAvailable = true) : t.Ready frame := by
  refine ⟨hqueue.trans h.head, ?_⟩
  unfold MutexFree
  rw [hpc]
  exact h.awake.imp_right fun hawake ↦ ⟨hflag hawake.1, hawake.2⟩

/-- A frame that is ready stays ready, with each step of the main thread bringing its lock one step
closer, until it is the one that is pushed. -/
theorem ready_step {frame : QueuedFrame} {s t : FrameLoop} {a : Action} (hs : s.Ready frame)
    (ha : a.Succeeds) (h : s.step a = some t) :
    (s.pushes a = none ∧ t.Ready frame ∧
      t.pc.stepsLeft + (decide a.OfMain).toNat ≤ s.pc.stepsLeft) ∨
    (s.pushes a = some frame.buffer.frame ∧ s.pc = .taken ∧
      ∃ imgBuffer, t.pc = .locked imgBuffer) := by
  rcases step_cases h with ⟨other, rfl, -, rfl⟩ | ⟨rfl, -, hfree, rfl⟩ |
    ⟨rfl, hpc, rfl⟩ | ⟨rfl, hpc, rfl⟩ | ⟨answers, r, rfl, hpc, hacquires, hr, rfl⟩ |
    ⟨answers, imgBuffer, r, rfl, hpc, -, rfl⟩ | ⟨buffer, rfl, -, rfl⟩
  · refine .inl ⟨rfl, hs.of_unchanged ?_ rfl id, le_rfl⟩
    rw [queueBuffer, List.head?_append, hs.head]
    rfl
  · exact .inl ⟨rfl, hs.of_unchanged rfl rfl fun _ ↦ rfl, le_rfl⟩
  · have hawake := hs.awake.resolve_left fun htaken ↦ LoopPc.noConfusion (hpc.symm.trans htaken)
    have hnext : s.inputBufferLocked = { s with mFrameAvailable := false, pc := .taken } :=
      if_neg (not_not_intro hawake.1)
    rw [hnext, hpc]
    exact .inl ⟨rfl, ⟨hs.head, .inl rfl⟩, le_rfl⟩
  · have hawake := hs.awake.resolve_left fun htaken ↦ LoopPc.noConfusion (hpc.symm.trans htaken)
    rw [hpc]
    exact .inl ⟨rfl, ⟨hs.head, .inr ⟨hawake.1, .inl rfl⟩⟩, le_rfl⟩
  · obtain ⟨hacquire, hlock⟩ := ha
    have hframe : frame = ⟨answers.item, answers.slotBuffer⟩ :=
      Option.some.inj (hs.head.symm.trans (hacquires hacquire))
    rcases WLConsumer.lockNextBuffer_cases hr with ⟨hfailed, -⟩ | ⟨-, hfailed, -⟩ | ⟨-, -, -, rfl⟩
    · exact absurd hacquire hfailed
    · exact absurd hlock hfailed
    · refine .inr ⟨?_, hpc, _, rfl⟩
      rw [pushes, hr, hframe]
      rfl
  · exact absurd (hs.awake.elim (fun htaken ↦ hpc.symm.trans htaken) fun hawake ↦
      absurd hawake.2 (not_mutexFree_locked hpc)) LoopPc.noConfusion
  · exact .inl ⟨rfl, hs.of_unchanged rfl rfl id, le_rfl⟩

/-- Only the main thread moves the loop on. -/
theorem pc_step_of_not_ofMain {s t : FrameLoop} {a : Action} (ha : ¬ a.OfMain)
    (h : s.step a = some t) : t.pc = s.pc := by
  rcases step_cases h with ⟨frame, rfl, -, rfl⟩ | ⟨rfl, -, -, rfl⟩ | ⟨rfl, -, rfl⟩ | ⟨rfl, -, rfl⟩ |
    ⟨answers, r, rfl, -, -, -, rfl⟩ | ⟨answers, imgBuffer, r, rfl, -, -, rfl⟩ |
    ⟨buffer, rfl, -, rfl⟩
  · rfl
  · rfl
  · exact absurd trivial ha
  · exact absurd trivial ha
  · exact absurd trivial ha
  · exact absurd trivial ha
  · rfl

/-! ## Progress -/

theorem OneEntry.unlockBuffer_isSome {s : FrameLoop} {imgBuffer : LockedBuffer} (h : s.OneEntry)
    (hpc : s.pc = .locked imgBuffer) (answers : WLConsumer.UnlockAnswers) :
    (s.consumer.unlockBuffer imgBuffer answers).isSome := by
  obtain ⟨ab, htab, hlocked⟩ := h
  obtain ⟨hid, hnamed⟩ := hlocked imgBuffer hpc
  by_cases hdata : imgBuffer.data = kUnusedId
  · rw [s.consumer.unlockBuffer_unknown imgBuffer answers (.inl hdata)]
    rfl
  · obtain ⟨buffer, hbuffer⟩ := Option.isSome_iff_exists.mp hnamed
    have hentry := WLConsumer.getElem?_find_singleton htab
    rw [hid] at hentry
    rw [s.consumer.unlockBuffer_known hdata hentry hbuffer]
    split_ifs <;> rfl

/-- The loop has a next step, which succeeds. -/
theorem goes_on {s : FrameLoop} (halert : s.Alert) (hone : s.OneEntry) (hfrees : s.Frees) :
    ∃ a : Action, a.OfMain ∧ a.Succeeds ∧ (s.step a).isSome := by
  cases hpc : s.pc with
  | idle =>
    refine ⟨.inputBufferLocked, trivial, trivial, ?_⟩
    rw [step, if_pos hpc]
    rfl
  | waiting =>
    refine ⟨.wake, trivial, trivial, ?_⟩
    rw [step, if_pos hpc]
    rfl
  | taken =>
    obtain ⟨frame, hframe⟩ := halert.exists_head (.inl hpc)
    have hfree : s.consumer.HasFreeEntry := hfrees (not_holdsBuffer hpc fun _ ↦ LoopPc.noConfusion)
    refine ⟨.lockNextBuffer ⟨.OK, frame.item, frame.slotBuffer, .OK, 64⟩, trivial, ⟨rfl, rfl⟩, ?_⟩
    rw [step, if_pos ⟨hpc, fun _ ↦ hframe⟩, s.consumer.lockNextBuffer_locked .empty rfl rfl hfree]
    rfl
  | locked imgBuffer =>
    refine ⟨.unlockBuffer ⟨.OK, -1⟩, trivial, trivial, ?_⟩
    simp only [step, hpc]
    rw [Option.isSome_map]
    exact hone.unlockBuffer_isSome hpc _

end FrameLoop

namespace Client

def Action.isMain : Action → Bool
  | .loop a => decide a.OfMain
  | .statement => true
  | .event _ => false

/-! ## From the lock to the screen -/

/-- The frame is ready, or `pushFrame` is running for it; `pushed` is what was pushed before. -/
inductive Owes (pushed : List Frame) (frame : QueuedFrame) (s : Client) : Prop
  | ready (hpushed : s.loop.pushed = pushed) (hready : s.loop.Ready frame)
  | showing (hpushed : s.loop.pushed = pushed ++ [frame.buffer.frame]) (hbusy : s.window.todo ≠ [])
      (hlocked : ∃ imgBuffer, s.loop.pc = .locked imgBuffer)

/-- `pushFrame` has returned. -/
structure Pushed (pushed : List Frame) (frame : QueuedFrame) (s : Client) : Prop where
  pushed : s.loop.pushed = pushed ++ [frame.buffer.frame]
  idle : s.window.todo = []

/-- The main thread's steps until the frame has been shown. -/
def stepsLeft (s : Client) : ℕ := s.window.todo.length + s.loop.pc.stepsLeft

variable {pushed : List Frame} {frame : QueuedFrame} {s t : Client}

theorem Owes.stepsLeft_pos (h : s.Owes pushed frame) : 0 < s.stepsLeft := by
  unfold stepsLeft
  cases h with
  | ready hpushed hready =>
    apply Nat.add_pos_right
    rcases hready.awake with hpc | ⟨-, hpc | hpc⟩
    all_goals
      rw [hpc]
      decide
  | showing hpushed hbusy hlocked => exact Nat.add_pos_left (List.length_pos_iff.mpr hbusy) _

theorem owes_step_window (h : s.Owes pushed frame) (window : Thread WindowManager) :
    Pushed pushed frame ⟨s.loop, window⟩ ∨ Owes pushed frame ⟨s.loop, window⟩ := by
  cases h with
  | ready hpushed hready => exact .inr (.ready hpushed hready)
  | showing hpushed hbusy hlocked =>
    by_cases hidle : window.todo = []
    · exact .inl ⟨hpushed, hidle⟩
    · exact .inr (.showing hpushed hidle hlocked)

/-- A step of the loop that does not call `pushFrame`. -/
theorem owes_step_loop {a : FrameLoop.Action} {loop : FrameLoop} (hs : s.Owes pushed frame)
    (ha : a.Succeeds) (hstep : s.loop.step a = some loop) (hnone : s.loop.pushes a = none)
    (hturn : ¬ (a.OfMain ∧ s.window.todo ≠ [])) :
    Owes pushed frame ⟨loop, s.window⟩ ∧
      loop.pc.stepsLeft + (decide a.OfMain).toNat ≤ s.loop.pc.stepsLeft := by
  have hsame : loop.pushed = s.loop.pushed := by
    rw [FrameLoop.pushed_step hstep, hnone]
    exact List.append_nil _
  cases hs with
  | ready hpushed hready =>
    rcases FrameLoop.ready_step hready ha hstep with ⟨-, hnext, hleft⟩ | ⟨hpushes, -, -⟩
    · exact ⟨.ready (hsame.trans hpushed) hnext, hleft⟩
    · rw [hnone] at hpushes
      cases hpushes
  | showing hpushed hbusy hlocked =>
    have hother : ¬ a.OfMain := fun hmain ↦ hturn ⟨hmain, hbusy⟩
    have hpc := FrameLoop.pc_step_of_not_ofMain hother hstep
    rw [decide_eq_false hother, hpc]
    refine ⟨.showing (hsame.trans hpushed) hbusy ?_, le_rfl⟩
    rw [hpc]
    exact hlocked

theorem owes_step_push {a : FrameLoop.Action} {loop : FrameLoop} {frame' : Frame}
    (hs : s.Owes pushed frame) (ha : a.Succeeds) (hstep : s.loop.step a = some loop)
    (hsome : s.loop.pushes a = some frame') (hidle : s.window.todo = []) :
    Owes pushed frame ⟨loop, ⟨s.window.memory, WindowManager.pushFrameBody frame'⟩⟩ ∧
      s.loop.pc = .taken ∧ loop.pc.stepsLeft = 0 := by
  cases hs with
  | ready hpushed hready =>
    rcases FrameLoop.ready_step hready ha hstep with ⟨hnone, -, -⟩ | ⟨hpushes, hpc, hlocked⟩
    · rw [hsome] at hnone
      cases hnone
    · refine ⟨.showing ?_ (List.cons_ne_nil _ _) hlocked, hpc, ?_⟩
      · rw [FrameLoop.pushed_step hstep, hpushes, hpushed]
        rfl
      · obtain ⟨imgBuffer, hlocked⟩ := hlocked
        rw [hlocked]
        rfl
  | showing hpushed hbusy hlocked => exact absurd hidle hbusy

/-- Every step of the main thread brings the frame one step closer to the screen, and no other step
sets it back. -/
theorem owes_step {a : Action} (hs : s.Owes pushed frame)
    (ha : ∀ b, a.ofLoop = some b → b.Succeeds) (h : s.step a = some t) :
    t.Pushed pushed frame ∨ t.Owes pushed frame ∧ t.stepsLeft + a.isMain.toNat ≤ s.stepsLeft := by
  cases a with
  | statement =>
    simp only [step] at h
    obtain ⟨window, hwindow, rfl⟩ := Option.map_eq_some_iff.mp h
    have hlength : window.todo.length + 1 = s.window.todo.length := by
      obtain ⟨loop, wm, todo⟩ := s
      cases todo with
      | nil => cases hwindow
      | cons statement todo =>
        cases hwindow
        rfl
    refine (owes_step_window hs window).imp_right fun hnext ↦ ⟨hnext, ?_⟩
    change window.todo.length + s.loop.pc.stepsLeft + 1 ≤
      s.window.todo.length + s.loop.pc.stepsLeft
    omega
  | event e =>
    simp only [step] at h
    obtain ⟨window, hwindow, rfl⟩ := Option.map_eq_some_iff.mp h
    cases hwindow
    exact (owes_step_window hs _).imp_right fun hnext ↦ ⟨hnext, le_rfl⟩
  | loop b =>
    have hsucceeds : b.Succeeds := ha b rfl
    right
    rcases step_cases h with ⟨_, loop, hb, hloop, hnone, rfl⟩ |
      ⟨_, loop, frame', hb, hloop, hsome, hidle, rfl⟩ | ⟨activity, window, hother, -, -, -⟩
    · cases hb
      have hturn : ¬ (b.OfMain ∧ s.window.todo ≠ []) := by
        intro hbusy
        simp only [step] at h
        rw [if_pos hbusy] at h
        cases h
      obtain ⟨hnext, hleft⟩ := owes_step_loop hs hsucceeds hloop hnone hturn
      refine ⟨hnext, ?_⟩
      change s.window.todo.length + loop.pc.stepsLeft + (decide b.OfMain).toNat ≤
        s.window.todo.length + s.loop.pc.stepsLeft
      omega
    · cases hb
      obtain ⟨hnext, hpc, hleft⟩ := owes_step_push hs hsucceeds hloop hsome hidle
      refine ⟨hnext, ?_⟩
      change 7 + loop.pc.stepsLeft + (decide b.OfMain).toNat ≤
        s.window.todo.length + s.loop.pc.stepsLeft
      have hmain := Bool.toNat_le (decide b.OfMain)
      rw [hpc, hleft]
      change 7 + 0 + (decide b.OfMain).toNat ≤ s.window.todo.length + 8
      omega
    · cases hother

/-! ## What the main thread relies on -/

/-- No frame is reported done while the listener for the next one is about to be installed. -/
def KeepsCallback (s : Client) (a : Action) : Prop :=
  ∀ e, a = .event e → WindowManager.CallbackKept s.window e

/-- Whatever the main thread is going to use is live, as long as the callbacks are kept. -/
def HasLive (s : Client) : Prop :=
  Thread.Outlined WindowManager.dispatch (WindowManager.SafeStep true)
    (fun wm ↦ History.Sound wm.log) (WindowManager.Settled true) s.window

theorem HasLive.sound (h : s.HasLive) : History.Sound s.window.memory.log :=
  h.memory_good fun _ hsettled ↦ hsettled.sound

theorem hasLive_step {a : Action} (hs : s.HasLive) (ha : s.KeepsCallback a)
    (h : s.step a = some t) : t.HasLive := by
  rcases step_cases h with ⟨b, loop, -, -, -, rfl⟩ | ⟨b, loop, frame, -, -, -, hidle, rfl⟩ |
    ⟨activity, window, -, hkind, hwindow, rfl⟩
  · exact hs
  · exact ⟨_, hs.memory_post hidle, WindowManager.live_pushFrameBody frame⟩
  · apply WindowManager.outlined_sound_step hs _ hwindow
    rcases hkind with ⟨-, rfl⟩ | ⟨e, rfl, rfl⟩
    · trivial
    · exact ha e rfl

/-! ## Runs -/

section Runs

variable {answers : WindowManager.StartAnswers} {uninitialised : SizeT} {before : List Action}
  (hrun : run step (start answers true uninitialised) before = some s)

include hrun

theorem alert_of_run : s.loop.Alert :=
  run_invariant' (fun _ _ _ ↦ FrameLoop.alert_step)
    (FrameLoop.alert_createInputSurface uninitialised) (component_loop.run_part hrun)

/-- As long as no unlock has failed, the main thread has a next step, which succeeds. -/
theorem exists_main_step
    (hunlocks : StepsAll step (fun s a ↦ ∀ b, a.ofLoop = some b → s.loop.Unlocks b)
      (start answers true uninitialised) before) :
    ∃ a : Action, a.isMain = true ∧ (∀ b, a.ofLoop = some b → b.Succeeds) ∧ (step s a).isSome := by
  cases htodo : s.window.todo with
  | cons statement todo =>
    refine ⟨.statement, rfl, fun b hb ↦ ?_, ?_⟩
    · cases hb
    · simp [step, WindowManager.step, Thread.step, htodo]
  | nil =>
    have hloop := component_loop.run_part hrun
    have hinit := FrameLoop.oneEntry_createInputSurface uninitialised
    have hone : s.loop.OneEntry :=
      run_invariant' (fun _ _ _ hs h ↦ (FrameLoop.oneEntry_step hs h).1) hinit hloop
    have hfrees : s.loop.Frees :=
      (stepsAll_iff_end (fun _ _ _ hs _ h ↦ FrameLoop.oneEntry_step hs h) hinit
        (FrameLoop.frees_createInputSurface uninitialised) stepsAll_true hloop).mp
        ((component_loop.stepsAll_iff hrun).mpr hunlocks)
    obtain ⟨a, hmain, hsucceeds, hsome⟩ :=
      FrameLoop.goes_on (alert_of_run hrun) hone hfrees
    refine ⟨.loop a, decide_eq_true hmain, ?_, ?_⟩
    · intro b hb
      cases hb
      exact hsucceeds
    · simp only [step]
      rw [if_neg fun hbusy ↦ hbusy.2 htodo, Option.isSome_map]
      exact hsome

end Runs

/-- A frame that is announced while `initialize` is still running. -/
def announcedEarly : List Action :=
  [.statement, .loop (.queueBuffer (.onePixel 0)), .loop .onFrameAvailable]

/-- The rest of `initialize`, and the frame, while a second one is queued. -/
def shownAfterwards : List Action :=
  List.replicate 10 .statement ++
    [.loop (.queueBuffer (.onePixel 1)), .loop .inputBufferLocked,
      .loop (.lockNextBuffer (.onePixel 0 .OK 64))] ++
    List.replicate 7 .statement ++ [.loop (.unlockBuffer ⟨.OK, -1⟩)]

theorem run_shownAfterwards : ∃ s, run step (start .prompt true 0) announcedEarly = some s ∧
    s.loop.mFrameAvailable = true ∧ s.window.todo.length = 10 ∧ s.loop.pushed = [] ∧
    s.loop.queue = [.onePixel 0] ∧ ∃ t, run step s shownAfterwards = some t :=
  ⟨_, rfl, rfl, rfl, rfl, rfl, _, rfl⟩

end Client

end WLManager
