import WLManager.Client.FrameLoop

/-!
# Which queued frames get pushed

`mFrameAvailable` is one bit for a queue of any length. A frame that is queued is accounted for by
an announcement still to come, by the flag, or by an iteration that has cleared the flag and is
about to lock. An announcement that finds the flag already set loses one frame from this account,
and nothing ever adds it back. So the frames left in the queue once the loop has come to rest are
as many as there were such announcements, and every queued frame gets pushed exactly in the runs
without any.
-/

namespace WLManager.FrameLoop

open Transition

/-- The acquire and the lock of this step succeed. -/
def Action.Succeeds : Action → Prop
  | .lockNextBuffer answers => answers.acquireErr = .OK ∧ answers.lockErr = .OK
  | _ => True

/-- Every announcement has returned, no iteration holds `mMutex` and the flag is false. -/
structure AtRest (s : FrameLoop) : Prop where
  notified : s.notifying = 0
  mutexFree : s.MutexFree
  flag : s.mFrameAvailable = false

def FlagClear (s : FrameLoop) (a : Action) : Prop :=
  a = .onFrameAvailable → s.mFrameAvailable = false

/-- The frames that an announcement, the flag or a started iteration accounts for. -/
def awaited (s : FrameLoop) : ℕ :=
  s.notifying + s.mFrameAvailable.toNat + if s.pc = .taken then 1 else 0

/-- Frames leave the queue in order and only to be pushed, and no more are accounted for than are
queued. -/
structure Accounted (s : FrameLoop) : Prop where
  history : s.queued = s.pushed ++ s.queue.map fun frame ↦ frame.buffer.frame
  awaited_le : s.awaited ≤ s.queue.length

theorem accounted_createInputSurface (uninitialised : SizeT) :
    (createInputSurface uninitialised).Accounted := ⟨rfl, le_rfl⟩

theorem not_taken_of_mutexFree {s : FrameLoop} (h : s.MutexFree) : s.pc ≠ .taken := by
  rcases h with h | h
  · rw [h]
    exact LoopPc.noConfusion
  · rw [h]
    exact LoopPc.noConfusion

/-- An announcement accounts for the same frames if it finds the flag false, and for one less
if not. -/
theorem awaited_onFrameAvailable {s : FrameLoop} (hnotifying : 0 < s.notifying)
    (hfree : s.MutexFree) :
    s.onFrameAvailable.awaited + s.mFrameAvailable.toNat = s.awaited := by
  have hpc := not_taken_of_mutexFree hfree
  have hpc' : s.onFrameAvailable.pc ≠ .taken := hpc
  have hflag : s.onFrameAvailable.mFrameAvailable.toNat = 1 := rfl
  have hleft : s.onFrameAvailable.notifying = s.notifying - 1 := rfl
  rw [awaited, awaited, if_neg hpc, if_neg hpc', hflag, hleft]
  omega

theorem awaited_inputBufferLocked {s : FrameLoop} (hpc : s.pc = .idle) :
    s.inputBufferLocked.awaited = s.awaited := by
  cases hflag : s.mFrameAvailable <;> simp [inputBufferLocked, awaited, hflag, hpc]

/-- An iteration takes one frame from the account and one from the queue. -/
theorem awaited_lockedNext {s : FrameLoop} {answers : WLConsumer.LockAnswers}
    {r : WLConsumer.LockReturn} (hpc : s.pc = .taken) :
    (s.lockedNext answers r).awaited + 1 = s.awaited := by
  have hpc' : (s.lockedNext answers r).pc ≠ .taken := by
    simp only [lockedNext]
    split_ifs <;> exact LoopPc.noConfusion
  rw [awaited, awaited, if_pos hpc, if_neg hpc']
  rfl

/-- A step that leaves the queue, the histories and the account alone. -/
theorem accounted_unchanged {s t : FrameLoop} {a : Action} (hs : s.Accounted)
    (hclear : s.FlagClear a) (hqueue : t.queue = s.queue) (hqueued : t.queued = s.queued)
    (hpushed : t.pushed = s.pushed) (hawaited : t.awaited = s.awaited) :
    t.Accounted ∧ (t.queue.length = t.awaited ↔ s.queue.length = s.awaited ∧ s.FlagClear a) := by
  refine ⟨⟨?_, ?_⟩, ?_⟩
  · rw [hqueued, hpushed, hqueue]
    exact hs.history
  · rw [hawaited, hqueue]
    exact hs.awaited_le
  · rw [hawaited, hqueue, and_iff_left hclear]

/-- One step: the account stays sound, and it covers the queue afterwards exactly when it did
before and the step is not an announcement that finds the flag set. -/
theorem accounted_step {s t : FrameLoop} {a : Action} (hs : s.Accounted) (hsucceeds : a.Succeeds)
    (h : s.step a = some t) :
    t.Accounted ∧ (t.queue.length = t.awaited ↔ s.queue.length = s.awaited ∧ s.FlagClear a) := by
  have hle := hs.awaited_le
  rcases step_cases h with ⟨frame, rfl, -, rfl⟩ | ⟨rfl, hnotifying, hfree, rfl⟩ |
    ⟨rfl, hpc, rfl⟩ | ⟨rfl, hpc, rfl⟩ | ⟨answers, r, rfl, hpc, hacquires, hr, rfl⟩ |
    ⟨answers, imgBuffer, r, rfl, hpc, -, rfl⟩ | ⟨buffer, rfl, -, rfl⟩
  · have hawaited : (s.queueBuffer frame).awaited = s.awaited + 1 := by
      have hnotifying : (s.queueBuffer frame).notifying = s.notifying + 1 := rfl
      rw [awaited, awaited, hnotifying, add_right_comm _ 1, add_right_comm _ 1]
      rfl
    have hlength : (s.queueBuffer frame).queue.length = s.queue.length + 1 :=
      List.length_append
    refine ⟨⟨?_, by omega⟩, ?_⟩
    · simp [queueBuffer, hs.history]
    · have hclear : s.FlagClear (.queueBuffer frame) := nofun
      rw [and_iff_left hclear]
      omega
  · have hawaited := awaited_onFrameAvailable hnotifying hfree
    have hlength : s.onFrameAvailable.queue.length = s.queue.length := rfl
    refine ⟨⟨hs.history, by omega⟩, ?_⟩
    cases hflag : s.mFrameAvailable with
    | false =>
      rw [hflag, Bool.toNat_false] at hawaited
      have hclear : s.FlagClear .onFrameAvailable := fun _ ↦ hflag
      rw [and_iff_left hclear]
      omega
    | true =>
      rw [hflag, Bool.toNat_true] at hawaited
      refine iff_of_false (by omega) fun hclear ↦ ?_
      exact Bool.noConfusion (hflag.symm.trans (hclear.2 rfl))
  · have hclear : s.FlagClear .inputBufferLocked := nofun
    apply accounted_unchanged hs hclear _ _ _ (awaited_inputBufferLocked hpc)
    all_goals
      rw [inputBufferLocked]
      split_ifs <;> rfl
  · have hawaited : s.wake.awaited = s.awaited := by simp [awaited, wake, hpc]
    exact accounted_unchanged hs nofun rfl rfl rfl hawaited
  · obtain ⟨hacquire, hlock⟩ := hsucceeds
    rcases WLConsumer.lockNextBuffer_cases hr with ⟨hfailed, -⟩ | ⟨-, hfailed, -⟩ | ⟨-, -, -, rfl⟩
    · exact absurd hacquire hfailed
    · exact absurd hlock hfailed
    set t := s.lockedNext answers ⟨.OK, some (WLConsumer.filledBuffer answers),
      some answers.buffer.frame, s.consumer.locked answers⟩ with ht
    have hawaited : t.awaited + 1 = s.awaited := awaited_lockedNext hpc
    have hhead := queue_of_acquires hacquires hacquire
    have htail : t.queue = s.queue.tail := if_pos hacquire
    have hlength : t.queue.length + 1 = s.queue.length := by rw [htail, hhead, List.length_cons,
      List.tail_cons]
    refine ⟨⟨?_, by omega⟩, ?_⟩
    · have hpushed : t.pushed = s.pushed ++ [answers.buffer.frame] := rfl
      have hqueued : t.queued = s.queued := rfl
      rw [hqueued, hpushed, htail, hs.history, List.append_assoc]
      conv_lhs => rw [hhead]
      rfl
    · have hclear : s.FlagClear (.lockNextBuffer answers) := nofun
      rw [and_iff_left hclear]
      omega
  · have hawaited : (s.unlockedNext r).awaited = s.awaited := by
      simp [awaited, unlockedNext, hpc]
    exact accounted_unchanged hs nofun rfl rfl rfl hawaited
  · exact accounted_unchanged hs nofun rfl rfl rfl rfl

theorem awaited_eq_zero {s : FrameLoop} (h : s.AtRest) : s.awaited = 0 := by
  rw [awaited, h.notified, h.flag, if_neg (not_taken_of_mutexFree h.mutexFree)]
  rfl

/-- Every frame queued so far has been pushed exactly when none is left in the queue. -/
theorem pushed_eq_queued_iff {s : FrameLoop} (hs : s.Accounted) :
    s.pushed = s.queued ↔ s.queue.length = 0 := by
  rw [hs.history, List.self_eq_append_right, List.map_eq_nil_iff, List.length_eq_zero_iff]

/-- Over every run in which acquires and locks succeed and that ends at rest: every queued frame
has been pushed, in order, exactly when no announcement found the flag already set. -/
theorem pushed_eq_queued_iff_flagClear {uninitialised : SizeT} {actions : List Action}
    {s : FrameLoop} (hsucceed : ∀ a ∈ actions, a.Succeeds)
    (hrun : run step (createInputSurface uninitialised) actions = some s) (hrest : s.AtRest) :
    s.pushed = s.queued ↔ StepsAll step FlagClear (createInputSurface uninitialised) actions := by
  have hstep : ∀ (s : FrameLoop) (a : Action) (t : FrameLoop), s.Accounted → a.Succeeds →
      s.step a = some t → t.Accounted ∧
        (t.queue.length = t.awaited ↔ s.queue.length = s.awaited ∧ s.FlagClear a) :=
    fun s a t hs ha h ↦ accounted_step hs ha h
  have hinit := accounted_createInputSurface uninitialised
  have hallowed : StepsAll step (fun _ a ↦ Action.Succeeds a) (createInputSurface uninitialised)
      actions := stepsAll_of_forall fun a ha _ ↦ hsucceed a ha
  have haccounted : s.Accounted :=
    run_invariant (fun s a t hs ha h ↦ (accounted_step hs ha h).1) hinit hallowed hrun
  rw [pushed_eq_queued_iff haccounted, stepsAll_iff_end hstep hinit rfl hallowed hrun,
    awaited_eq_zero hrest]

def onePixelIteration (id : ℕ) : List Action :=
  [.inputBufferLocked, .lockNextBuffer (.onePixel id .OK 64), .unlockBuffer ⟨.OK, -1⟩]

/-- Two frames, each announced and handled before the next. -/
def framesInTurn : List Action :=
  [.queueBuffer (.onePixel 0), .onFrameAvailable] ++ onePixelIteration 0 ++
    [.queueBuffer (.onePixel 1), .onFrameAvailable] ++ onePixelIteration 1

theorem flagClear_framesInTurn : StepsAll step FlagClear (createInputSurface 0) framesInTurn := by
  have hsucceed : ∀ a ∈ framesInTurn, a.Succeeds := by
    simp [framesInTurn, onePixelIteration, Action.Succeeds, WLConsumer.LockAnswers.onePixel]
  have hrun : run step (createInputSurface 0) framesInTurn = some _ := rfl
  exact (pushed_eq_queued_iff_flagClear hsucceed hrun ⟨rfl, .inl rfl, rfl⟩).mp rfl

/-- Two frames announced before the loop gets to handle either. -/
def framesAnnouncedTogether : List Action :=
  [.queueBuffer (.onePixel 0), .onFrameAvailable, .queueBuffer (.onePixel 1),
    .onFrameAvailable] ++ onePixelIteration 0

/-- The second frame stays in the queue while the loop is at rest. -/
theorem not_all_pushed_framesAnnouncedTogether :
    (∀ a ∈ framesAnnouncedTogether, a.Succeeds) ∧
    ∃ s, run step (createInputSurface 0) framesAnnouncedTogether = some s ∧ s.AtRest ∧
      s.pushed ≠ s.queued := by
  constructor
  · simp [framesAnnouncedTogether, onePixelIteration, Action.Succeeds,
      WLConsumer.LockAnswers.onePixel]
  · refine ⟨_, rfl, ⟨rfl, .inl rfl, rfl⟩, ?_⟩
    decide

end WLManager.FrameLoop
