import Mathlib.Data.Finset.Basic
import Mathlib.Data.Multiset.MapFold
import WLManager.Client.LockedTable

/-!
# The frame loop between the producer and the compositor

`run` calls `inputBufferLocked` over and over. An iteration that finds `mFrameAvailable` false
waits and returns; one that finds it true clears it, locks the next buffer, which pushes it to the
window manager, and unlocks it. The producer queues frames and announces each one with a call of
`onFrameAvailable`, which needs `mMutex` and so falls between two iterations or into a wait. The
compositor holds every committed buffer until its release event, which is dispatched to
`buffer_release`.

The three parties take their steps in any order. The loop uses the consumer of
`createInputSurface`, with room for one locked buffer, and the consumer's own `lockNextBuffer` and
`unlockBuffer`.
-/

namespace WLManager

open Transition

/-- A frame in the buffer queue: the item it is acquired as, and the buffer in its slot. -/
structure QueuedFrame where
  item : BufferItem
  slotBuffer : GraphicBuffer
  deriving DecidableEq

def QueuedFrame.buffer (frame : QueuedFrame) : GraphicBuffer :=
  frame.item.mGraphicBuffer.getD frame.slotBuffer

/-- A frame of one pixel in a slot of its own, for concrete runs. -/
def QueuedFrame.onePixel (id : ℕ) : QueuedFrame :=
  let answers : WLConsumer.LockAnswers := .onePixel id .OK 64
  ⟨answers.item, answers.slotBuffer⟩

/-- Where the loop is: between two iterations, in `waitRelative`, about to lock the next buffer, or
about to unlock the one it has locked. -/
inductive LoopPc
  | idle
  | waiting
  | taken
  | locked (imgBuffer : LockedBuffer)
  deriving DecidableEq

/-- The loop, its buffer queue and the compositor. `notifying` counts the calls of
`onFrameAvailable` that are still to come for queued frames, `onScreen` is what the compositor
holds. The two histories say which frames were queued and which were passed to `pushFrame`. -/
structure FrameLoop where
  queue : List QueuedFrame
  notifying : ℕ
  mFrameAvailable : Bool
  pc : LoopPc
  consumer : WLConsumer
  onScreen : Finset GraphicBuffer
  queued : List Frame
  pushed : List Frame

namespace FrameLoop

def createInputSurface (uninitialised : SizeT) : FrameLoop where
  queue := []
  notifying := 0
  mFrameAvailable := false
  pc := .idle
  consumer := .construct 1 uninitialised
  onScreen := ∅
  queued := []
  pushed := []

def inUse (s : FrameLoop) : Multiset GraphicBuffer :=
  ↑(s.queue.map QueuedFrame.buffer) + s.consumer.acquired.map Prod.snd

/-- The buffer queue may hand the buffer to the producer. -/
def Released (s : FrameLoop) (buffer : GraphicBuffer) : Prop := buffer ∉ s.inUse

instance (s : FrameLoop) (buffer : GraphicBuffer) : Decidable (s.Released buffer) :=
  inferInstanceAs (Decidable (buffer ∉ s.inUse))

def MutexFree (s : FrameLoop) : Prop := s.pc = .idle ∨ s.pc = .waiting

instance (s : FrameLoop) : Decidable s.MutexFree :=
  inferInstanceAs (Decidable (_ ∨ _))

def queueBuffer (s : FrameLoop) (frame : QueuedFrame) : FrameLoop :=
  { s with
    queue := s.queue ++ [frame]
    notifying := s.notifying + 1
    queued := s.queued ++ [frame.buffer.frame] }

def onFrameAvailable (s : FrameLoop) : FrameLoop :=
  { s with
    notifying := s.notifying - 1
    mFrameAvailable := true }

/-- `inputBufferLocked` up to its wait or to its `lockNextBuffer`. -/
def inputBufferLocked (s : FrameLoop) : FrameLoop :=
  if ¬ s.mFrameAvailable then { s with pc := .waiting }
  else { s with mFrameAvailable := false, pc := .taken }

/-- The wait ends, by a signal or by its timeout; all its branches return. -/
def wake (s : FrameLoop) : FrameLoop := { s with pc := .idle }

/-- The answers fit the buffer queue: what is acquired is the frame at its head. -/
def Acquires (s : FrameLoop) (answers : WLConsumer.LockAnswers) : Prop :=
  answers.acquireErr = .OK → s.queue.head? = some ⟨answers.item, answers.slotBuffer⟩

instance (s : FrameLoop) (answers : WLConsumer.LockAnswers) : Decidable (s.Acquires answers) :=
  inferInstanceAs (Decidable (_ → _))

/-- `inputBufferLocked` with the result of `lockNextBuffer`: on any error it returns. A pushed
buffer is committed, and the compositor holds it from then on. -/
def lockedNext (s : FrameLoop) (answers : WLConsumer.LockAnswers) (r : WLConsumer.LockReturn) :
    FrameLoop :=
  { s with
    queue := if answers.acquireErr = .OK then s.queue.tail else s.queue
    consumer := r.consumer
    pc := if r.status = .OK then .locked (r.nativeBuffer.getD .empty) else .idle
    onScreen := if r.pushed.isSome then insert answers.buffer s.onScreen else s.onScreen
    pushed := s.pushed ++ r.pushed.toList }

/-- The end of the iteration; the status of `unlockBuffer` is ignored. -/
def unlockedNext (s : FrameLoop) (r : WLConsumer.UnlockReturn) : FrameLoop :=
  { s with
    consumer := r.consumer
    pc := .idle }

/-- The listener of a `wl_buffer` does nothing. -/
def buffer_release (s : FrameLoop) (_buffer : GraphicBuffer) : FrameLoop := s

/-- The compositor lets go of a buffer and the event is dispatched. -/
def bufferReleased (s : FrameLoop) (buffer : GraphicBuffer) : FrameLoop :=
  buffer_release { s with onScreen := s.onScreen.erase buffer } buffer

inductive Action
  | queueBuffer (frame : QueuedFrame)
  | onFrameAvailable
  | inputBufferLocked
  | wake
  | lockNextBuffer (answers : WLConsumer.LockAnswers)
  | unlockBuffer (answers : WLConsumer.UnlockAnswers)
  | bufferReleased (buffer : GraphicBuffer)

/-- One step, or `none` where it is not this party's turn. -/
def step (s : FrameLoop) : Action → Option FrameLoop
  | .queueBuffer frame => if s.Released frame.buffer then some (s.queueBuffer frame) else none
  | .onFrameAvailable => if 0 < s.notifying ∧ s.MutexFree then some s.onFrameAvailable else none
  | .inputBufferLocked => if s.pc = .idle then some s.inputBufferLocked else none
  | .wake => if s.pc = .waiting then some s.wake else none
  | .lockNextBuffer answers =>
    if s.pc = .taken ∧ s.Acquires answers then
      (s.consumer.lockNextBuffer (some .empty) answers).map (s.lockedNext answers)
    else none
  | .unlockBuffer answers =>
    match s.pc with
    | .locked imgBuffer => (s.consumer.unlockBuffer imgBuffer answers).map s.unlockedNext
    | _ => none
  | .bufferReleased buffer =>
    if buffer ∈ s.onScreen then some (s.bufferReleased buffer) else none

theorem step_cases {s t : FrameLoop} {a : Action} (h : s.step a = some t) :
    (∃ frame, a = .queueBuffer frame ∧ s.Released frame.buffer ∧ t = s.queueBuffer frame) ∨
    (a = .onFrameAvailable ∧ 0 < s.notifying ∧ s.MutexFree ∧ t = s.onFrameAvailable) ∨
    (a = .inputBufferLocked ∧ s.pc = .idle ∧ t = s.inputBufferLocked) ∨
    (a = .wake ∧ s.pc = .waiting ∧ t = s.wake) ∨
    (∃ answers r, a = .lockNextBuffer answers ∧ s.pc = .taken ∧ s.Acquires answers ∧
      s.consumer.lockNextBuffer (some .empty) answers = some r ∧ t = s.lockedNext answers r) ∨
    (∃ answers imgBuffer r, a = .unlockBuffer answers ∧ s.pc = .locked imgBuffer ∧
      s.consumer.unlockBuffer imgBuffer answers = some r ∧ t = s.unlockedNext r) ∨
    (∃ buffer, a = .bufferReleased buffer ∧ buffer ∈ s.onScreen ∧ t = s.bufferReleased buffer) := by
  cases a with
  | queueBuffer frame =>
    obtain ⟨hreleased, ht⟩ := Option.ite_none_right_eq_some.mp h
    exact .inl ⟨frame, rfl, hreleased, (Option.some.inj ht).symm⟩
  | onFrameAvailable =>
    obtain ⟨⟨hnotifying, hfree⟩, ht⟩ := Option.ite_none_right_eq_some.mp h
    exact .inr (.inl ⟨rfl, hnotifying, hfree, (Option.some.inj ht).symm⟩)
  | inputBufferLocked =>
    obtain ⟨hpc, ht⟩ := Option.ite_none_right_eq_some.mp h
    exact .inr (.inr (.inl ⟨rfl, hpc, (Option.some.inj ht).symm⟩))
  | wake =>
    obtain ⟨hpc, ht⟩ := Option.ite_none_right_eq_some.mp h
    exact .inr (.inr (.inr (.inl ⟨rfl, hpc, (Option.some.inj ht).symm⟩)))
  | lockNextBuffer answers =>
    obtain ⟨⟨hpc, hacquires⟩, ht⟩ := Option.ite_none_right_eq_some.mp h
    obtain ⟨r, hr, ht⟩ := Option.map_eq_some_iff.mp ht
    exact .inr (.inr (.inr (.inr (.inl ⟨answers, r, rfl, hpc, hacquires, hr, ht.symm⟩))))
  | unlockBuffer answers =>
    cases hpc : s.pc with
    | locked imgBuffer =>
      simp only [step, hpc] at h
      obtain ⟨r, hr, ht⟩ := Option.map_eq_some_iff.mp h
      exact .inr (.inr (.inr (.inr (.inr (.inl ⟨answers, imgBuffer, r, rfl, rfl, hr, ht.symm⟩)))))
    | idle => simp [step, hpc] at h
    | waiting => simp [step, hpc] at h
    | taken => simp [step, hpc] at h
  | bufferReleased buffer =>
    obtain ⟨hheld, ht⟩ := Option.ite_none_right_eq_some.mp h
    exact .inr (.inr (.inr (.inr (.inr (.inr ⟨buffer, rfl, hheld, (Option.some.inj ht).symm⟩)))))

theorem queue_of_acquires {s : FrameLoop} {answers : WLConsumer.LockAnswers}
    (h : s.Acquires answers) (hacquire : answers.acquireErr = .OK) :
    s.queue = ⟨answers.item, answers.slotBuffer⟩ :: s.queue.tail :=
  List.eq_cons_of_mem_head? (h hacquire)

end FrameLoop

end WLManager
