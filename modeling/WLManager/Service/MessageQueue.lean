import Mathlib.Algebra.Order.Ring.Nat
import Mathlib.Data.Int.Notation
import WLManager.Transition.Run

/-!
# The queue of refresh messages

`refresh` sends a `REFRESH` message through the looper unless `eventMaskRefresh` is set in
`mEventMask`, and sets it. So the bit should stand for the one message that is pending, and
`handleMessage` should clear it when that message arrives; the lines that did are commented out.
The bit says the truth until the first `REFRESH` message is handled, and every `refresh` after that
is lost.

The calls are the steps here. A looper delivers the messages in the order in which they were sent.
-/

namespace WLManager.Service

open Transition

/-- Who handles a message: the queue's own `Handler`, or a task handed to `postMessage`. -/
inductive MessageHandler
  | mHandler
  | task (id : ℕ)
  deriving DecidableEq

/-- What `sendMessage` puts into the looper; `what` is the one field of the message that is used. -/
structure Envelope where
  handler : MessageHandler
  what : ℤ
  deriving DecidableEq

/-- The `what` of a refresh message. -/
def REFRESH : ℤ := 1

/-- The `what` of a `Message()`. -/
def defaultWhat : ℤ := 0

/-- The bit of `mEventMask` for refresh messages. -/
def eventMaskRefresh : BitVec 32 := 0x2

/-- The handler's mask and the messages the looper has not delivered yet. -/
structure MessageQueue where
  mEventMask : BitVec 32
  mLooper : List Envelope
  deriving DecidableEq

namespace MessageQueue

/-- The queue after `init`. -/
def start : MessageQueue where
  mEventMask := 0
  mLooper := []

/-- Sets bits of the mask and returns what it was before. -/
def android_atomic_or (s : MessageQueue) (value : BitVec 32) : BitVec 32 × MessageQueue :=
  (s.mEventMask, { s with mEventMask := s.mEventMask ||| value })

def sendMessage (s : MessageQueue) (handler : MessageHandler) (what : ℤ) : MessageQueue :=
  { s with mLooper := s.mLooper ++ [⟨handler, what⟩] }

def dispatchRefresh (s : MessageQueue) : MessageQueue :=
  let masked := s.android_atomic_or eventMaskRefresh
  if masked.1 &&& eventMaskRefresh = 0 then masked.2.sendMessage .mHandler REFRESH else masked.2

/-- It prints where it runs, and its `switch` is commented out. -/
def handleMessage (s : MessageQueue) (_what : ℤ) : MessageQueue := s

def refresh (s : MessageQueue) : MessageQueue := s.dispatchRefresh

def invalidate (s : MessageQueue) : MessageQueue := s

def postMessage (s : MessageQueue) (task : ℕ) : MessageQueue :=
  s.sendMessage (.task task) defaultWhat

/-- The looper hands a message to its handler. What a task does is up to whoever posted it. -/
def deliver (s : MessageQueue) (envelope : Envelope) : MessageQueue :=
  match envelope.handler with
  | .mHandler => s.handleMessage envelope.what
  | .task _ => s

/-- A call, or the delivery of the oldest message. -/
inductive Action
  | refresh
  | invalidate
  | postMessage (task : ℕ)
  | deliver
  deriving DecidableEq

def step (s : MessageQueue) : Action → Option MessageQueue
  | .refresh => some s.refresh
  | .invalidate => some s.invalidate
  | .postMessage task => some (s.postMessage task)
  | .deliver =>
    match s.mLooper with
    | [] => none
    | envelope :: rest => some ({ s with mLooper := rest }.deliver envelope)

/-- A refresh message, as `dispatchRefresh` sends it. -/
def refreshMessage : Envelope := ⟨.mHandler, REFRESH⟩

/-- How many refresh messages wait in the looper. -/
def pending (s : MessageQueue) : ℕ := s.mLooper.count refreshMessage

/-- The bit for refresh messages is set. -/
def Masked (s : MessageQueue) : Prop := s.mEventMask &&& eventMaskRefresh ≠ 0

/-- The bit is set exactly when one refresh message is pending, and there is never another. -/
structure Coalesced (s : MessageQueue) : Prop where
  masked_iff : s.Masked ↔ s.pending = 1
  pending_le_one : s.pending ≤ 1

/-- After a call of `refresh` a refresh message is pending. -/
def Answered (s : MessageQueue) : Action → Prop
  | .refresh => 0 < s.refresh.pending
  | .invalidate | .postMessage _ | .deliver => True

/-- The step does not hand a refresh message to the handler. -/
def HandlesNoRefresh (s : MessageQueue) : Action → Prop
  | .deliver => s.mLooper.head? ≠ some refreshMessage
  | .refresh | .invalidate | .postMessage _ => True

/-! ## What a call does -/

theorem deliver_eq (s : MessageQueue) (envelope : Envelope) : s.deliver envelope = s := by
  unfold deliver
  cases envelope.handler <;> rfl

/-- A bit that is put into a mask is in it. -/
theorem or_and_eventMaskRefresh (mask : BitVec 32) :
    (mask ||| eventMaskRefresh) &&& eventMaskRefresh = eventMaskRefresh := by
  ext i
  rw [BitVec.getElem_and, BitVec.getElem_or, Bool.and_or_distrib_right, Bool.and_self]
  cases mask[i] <;> simp

/-- The bit is set: nothing is sent. -/
theorem refresh_masked {s : MessageQueue} (h : s.Masked) :
    s.refresh = { s with mEventMask := s.mEventMask ||| eventMaskRefresh } :=
  if_neg h

/-- The bit is clear: a message is sent. -/
theorem refresh_unmasked {s : MessageQueue} (h : ¬ s.Masked) :
    s.refresh = { s with mEventMask := s.mEventMask ||| eventMaskRefresh }.sendMessage
      .mHandler REFRESH :=
  if_pos (not_not.mp h)

theorem masked_refresh (s : MessageQueue) : s.refresh.Masked := by
  have hmask : s.refresh.mEventMask = s.mEventMask ||| eventMaskRefresh := by
    by_cases h : s.Masked
    · rw [refresh_masked h]
    · rw [refresh_unmasked h]
      rfl
  unfold Masked
  rw [hmask, or_and_eventMaskRefresh]
  decide

theorem pending_sendMessage (s : MessageQueue) (handler : MessageHandler) (what : ℤ) :
    (s.sendMessage handler what).pending =
      s.pending + if (⟨handler, what⟩ : Envelope) = refreshMessage then 1 else 0 := by
  unfold pending sendMessage
  rw [List.count_append, List.count_singleton]
  simp only [beq_iff_eq]

/-! ## Runs -/

namespace Coalesced

variable {s : MessageQueue} (h : s.Coalesced)

include h

theorem pending_refresh : s.refresh.pending = 1 := by
  by_cases hmasked : s.Masked
  · rw [refresh_masked hmasked]
    exact h.masked_iff.mp hmasked
  · have hne : s.pending ≠ 1 := fun hone ↦ hmasked (h.masked_iff.mpr hone)
    have hle := h.pending_le_one
    have hsent : s.refresh.pending = s.pending + 1 := by
      rw [refresh_unmasked hmasked, pending_sendMessage]
      rfl
    omega

theorem refresh : s.refresh.Coalesced where
  masked_iff := iff_of_true s.masked_refresh h.pending_refresh
  pending_le_one := h.pending_refresh.le

/-- What leaves the mask and the number of pending refresh messages alone does no harm. -/
theorem of_eq {t : MessageQueue} (hmask : t.mEventMask = s.mEventMask)
    (hpending : t.pending = s.pending) : t.Coalesced where
  masked_iff := by
    unfold Masked
    rw [hmask, hpending]
    exact h.masked_iff
  pending_le_one := hpending.trans_le h.pending_le_one

theorem postMessage (task : ℕ) : (s.postMessage task).Coalesced := by
  apply h.of_eq (t := s.postMessage task) rfl
  have hother : (⟨.task task, defaultWhat⟩ : Envelope) ≠ refreshMessage := by
    unfold refreshMessage
    exact nofun
  unfold MessageQueue.postMessage
  rw [pending_sendMessage, if_neg hother, add_zero]

/-- Another message than one for a refresh is delivered. -/
theorem deliver_other {envelope : Envelope} {rest : List Envelope}
    (hqueue : s.mLooper = envelope :: rest) (hother : envelope ≠ refreshMessage) :
    ({ s with mLooper := rest }.deliver envelope).Coalesced := by
  rw [deliver_eq]
  apply h.of_eq (t := { s with mLooper := rest }) rfl
  unfold pending
  rw [hqueue, List.count_cons_of_ne hother]

/-- A refresh message is handled: the bit stays set, with no message left that it could stand
for. -/
theorem not_deliver_refresh {rest : List Envelope} (hqueue : s.mLooper = refreshMessage :: rest) :
    ¬ ({ s with mLooper := rest }.deliver refreshMessage).Coalesced := by
  have hcount : s.pending = rest.count refreshMessage + 1 := by
    unfold pending
    rw [hqueue, List.count_cons_self]
  have hle := h.pending_le_one
  have hmasked : s.Masked := h.masked_iff.mpr (by omega)
  rw [deliver_eq]
  intro hafter
  have hone : rest.count refreshMessage = 1 := hafter.masked_iff.mp hmasked
  omega

/-- A step leaves the bit right, and a `refresh` its message pending, exactly when it hands no
refresh message to the handler. -/
theorem step_iff (a : Action) :
    ((∀ t, s.step a = some t → t.Coalesced) ∧ s.Answered a) ↔ s.HandlesNoRefresh a := by
  cases a with
  | refresh =>
    refine iff_of_true ⟨fun t ht ↦ ?_, ?_⟩ trivial
    · cases ht
      exact h.refresh
    · exact Nat.one_pos.trans_eq h.pending_refresh.symm
  | invalidate =>
    refine iff_of_true ⟨fun t ht ↦ ?_, trivial⟩ trivial
    cases ht
    exact h
  | postMessage task =>
    refine iff_of_true ⟨fun t ht ↦ ?_, trivial⟩ trivial
    cases ht
    exact h.postMessage task
  | deliver =>
    unfold HandlesNoRefresh MessageQueue.step
    cases hqueue : s.mLooper with
    | nil => exact iff_of_true ⟨nofun, trivial⟩ nofun
    | cons envelope rest =>
      simp only [Option.some.injEq, forall_eq', List.head?_cons, ne_eq]
      constructor
      · rintro ⟨hafter, -⟩ rfl
        exact h.not_deliver_refresh hqueue hafter
      · intro hother
        exact ⟨h.deliver_other hqueue hother, trivial⟩

end Coalesced

theorem coalesced_start : start.Coalesced where
  masked_iff := iff_of_false (by unfold Masked; decide) (by decide)
  pending_le_one := by decide

/-- In every state the bit is set exactly when the one refresh message is pending, and after every
`refresh` there is one, exactly in the runs in which no refresh message is ever handled. -/
theorem coalesced_iff_handlesNoRefresh (actions : List Action) :
    (StatesAll step Coalesced start actions ∧ StepsAll step Answered start actions) ↔
      StepsAll step HandlesNoRefresh start actions := by
  have hkeep : ∀ s a t, Coalesced s → True → HandlesNoRefresh s a → step s a = some t →
      Coalesced t := fun s a t h _ hcond hstep ↦ ((h.step_iff a).mpr hcond).1 t hstep
  exact statesAll_and_stepsAll_iff (fun _ a h _ ↦ h.step_iff a) hkeep coalesced_start
    coalesced_start stepsAll_true

/-- The second of two requests, made after the first has been handled, is lost. -/
theorem not_coalesced_refresh_handled :
    ¬ (StatesAll step Coalesced start [.refresh, .deliver, .refresh] ∧
      StepsAll step Answered start [.refresh, .deliver, .refresh]) := by
  rintro ⟨-, hanswered⟩
  have hlost : 0 < ({ start.refresh with mLooper := [] } : MessageQueue).refresh.pending :=
    ((hanswered.2 _ rfl).2 _ rfl).1
  exact absurd hlost (by decide)

end MessageQueue

end WLManager.Service
