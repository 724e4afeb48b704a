import WLManager.Service.MessageQueue

/-!
# Messages from several threads

`refresh` reads and sets the mask with one atomic instruction and sends its message after that, so
other threads may come between the two, and `postMessage` may be called from any of them. What the
looper has delivered and what it still holds is, in every interleaving, every task posted, in order
and once, with at most one refresh message among them: the thread that first set the bit sends it,
and no other one ever does.
-/

namespace WLManager.Service

open Transition

/-- The queue, the number of threads that have set the bit and not sent their message yet, and what
the looper has delivered. -/
structure Callers where
  queue : MessageQueue
  sending : ℕ
  delivered : List Envelope
  deriving DecidableEq

namespace Callers

open MessageQueue

def start : Callers where
  queue := .start
  sending := 0
  delivered := []

/-- One atomic step of a thread, or a delivery. -/
inductive Action
  | android_atomic_or
  | sendRefresh
  | invalidate
  | postMessage (task : ℕ)
  | deliver
  deriving DecidableEq

/-- `refresh` up to its test: a thread that finds the bit clear goes on to send. -/
def atomicOr (s : Callers) : Callers :=
  let masked := s.queue.android_atomic_or eventMaskRefresh
  { s with
    queue := masked.2
    sending := if masked.1 &&& eventMaskRefresh = 0 then s.sending + 1 else s.sending }

def step (s : Callers) : Action → Option Callers
  | .android_atomic_or => some s.atomicOr
  | .sendRefresh =>
    match s.sending with
    | 0 => none
    | sending + 1 =>
      some { s with queue := s.queue.sendMessage .mHandler REFRESH, sending := sending }
  | .invalidate => some { s with queue := s.queue.invalidate }
  | .postMessage task => some { s with queue := s.queue.postMessage task }
  | .deliver =>
    match s.queue.mLooper with
    | [] => none
    | envelope :: rest =>
      some { s with
        queue := { s.queue with mLooper := rest }.deliver envelope
        delivered := s.delivered ++ [envelope] }

/-- The message `postMessage` sends for a task. -/
def taskMessage (task : ℕ) : Envelope := ⟨.task task, defaultWhat⟩

/-- The messages of the tasks that were posted, in order. -/
def posted (actions : List Action) : List Envelope :=
  actions.filterMap fun a ↦
    match a with
    | .postMessage task => some (taskMessage task)
    | .android_atomic_or | .sendRefresh | .invalidate | .deliver => none

/-- Everything that was ever sent: what has been delivered and what has not yet. -/
def sent (s : Callers) : List Envelope := s.delivered ++ s.queue.mLooper

theorem atomicOr_masked {s : Callers} (h : s.queue.Masked) :
    s.atomicOr = { s with queue := s.queue.refresh } := by
  have hzero : ¬ s.queue.mEventMask &&& eventMaskRefresh = 0 := h
  unfold atomicOr
  dsimp only [MessageQueue.android_atomic_or]
  rw [if_neg hzero, refresh_masked h]

theorem atomicOr_unmasked {s : Callers} (h : ¬ s.queue.Masked) :
    s.atomicOr = { s with
      queue := { s.queue with mEventMask := s.queue.mEventMask ||| eventMaskRefresh }
      sending := s.sending + 1 } := by
  have hzero : s.queue.mEventMask &&& eventMaskRefresh = 0 := not_not.mp h
  unfold atomicOr
  dsimp only [MessageQueue.android_atomic_or]
  rw [if_pos hzero]

/-- A thread that no other one interrupts does what `refresh` does. -/
theorem run_refresh_alone (s : Callers) : ∃ rest, run step s (.android_atomic_or :: rest) =
    some { s with queue := s.queue.refresh } := by
  by_cases hmasked : s.queue.Masked
  · refine ⟨[], ?_⟩
    rw [run_cons, step, Option.bind_some, run_nil, atomicOr_masked hmasked]
  · refine ⟨[.sendRefresh], ?_⟩
    rw [run_cons, step, Option.bind_some, atomicOr_unmasked hmasked, refresh_unmasked hmasked]
    rfl

theorem masked_atomicOr (s : Callers) : s.atomicOr.queue.Masked := by
  unfold Masked
  change (s.queue.mEventMask ||| eventMaskRefresh) &&& eventMaskRefresh ≠ 0
  rw [or_and_eventMaskRefresh]
  decide

theorem taskMessage_ne (task : ℕ) : taskMessage task ≠ refreshMessage := by
  unfold taskMessage refreshMessage
  simp

/-- A thread has called `refresh`. -/
def Called (actions : List Action) : Prop := .android_atomic_or ∈ actions

/-- The tasks are all there and in order, and the bit stands for one refresh message, sent or about
to be. -/
structure Accounts (actions : List Action) (s : Callers) : Prop where
  tasks : s.sent.filter (· ≠ refreshMessage) = posted actions
  masked_iff : s.queue.Masked ↔ Called actions
  none : ¬ Called actions → s.sent.count refreshMessage + s.sending = 0
  one : Called actions → s.sent.count refreshMessage + s.sending = 1

theorem called_snoc {actions : List Action} {a : Action} :
    Called (actions ++ [a]) ↔ Called actions ∨ a = .android_atomic_or := by
  unfold Called
  rw [List.mem_append, List.mem_singleton, eq_comm]

theorem posted_snoc (actions : List Action) {a : Action} (h : ∀ task, a ≠ .postMessage task) :
    posted (actions ++ [a]) = posted actions := by
  unfold posted
  rw [List.filterMap_append]
  cases a with
  | postMessage task => exact absurd rfl (h task)
  | android_atomic_or | sendRefresh | invalidate | deliver => exact List.append_nil _

/-- A step that leaves the mask alone, and sends no task. -/
theorem Accounts.of_eq {actions : List Action} {s t : Callers} {a : Action} (h : Accounts actions s)
    (ha : a ≠ .android_atomic_or) (htask : ∀ task, a ≠ .postMessage task)
    (hmask : t.queue.mEventMask = s.queue.mEventMask)
    (hfilter : t.sent.filter (· ≠ refreshMessage) = s.sent.filter (· ≠ refreshMessage))
    (hcount : t.sent.count refreshMessage + t.sending =
      s.sent.count refreshMessage + s.sending) : Accounts (actions ++ [a]) t := by
  have hcalled : Called (actions ++ [a]) ↔ Called actions := by
    rw [called_snoc]
    exact or_iff_left ha
  refine ⟨?_, ?_, ?_, ?_⟩
  · rw [hfilter, posted_snoc actions htask, h.tasks]
  · rw [hcalled, ← h.masked_iff, Masked, Masked, hmask]
  · rw [hcalled, hcount]
    exact h.none
  · rw [hcalled, hcount]
    exact h.one

theorem accounts_step {actions : List Action} {s t : Callers} {a : Action}
    (h : Accounts actions s) (hstep : step s a = some t) : Accounts (actions ++ [a]) t := by
  cases a with
  | android_atomic_or =>
    cases hstep
    have hcalled : Called (actions ++ [.android_atomic_or]) := called_snoc.mpr (.inr rfl)
    have hposted := posted_snoc actions (a := .android_atomic_or) fun _ ↦ Action.noConfusion
    refine ⟨?_, iff_of_true s.masked_atomicOr hcalled, fun hnot ↦ absurd hcalled hnot, fun _ ↦ ?_⟩
    · rw [hposted, ← h.tasks]
      rfl
    · change s.sent.count refreshMessage + s.atomicOr.sending = 1
      by_cases hmasked : s.queue.Masked
      · rw [atomicOr_masked hmasked]
        exact h.one (h.masked_iff.mp hmasked)
      · have hnone := h.none fun hbefore ↦ hmasked (h.masked_iff.mpr hbefore)
        rw [atomicOr_unmasked hmasked]
        dsimp only
        omega
  | sendRefresh =>
    obtain ⟨queue, sending, delivered⟩ := s
    cases sending with
    | zero => cases hstep
    | succ sending =>
      cases hstep
      have hsent : sent ⟨queue.sendMessage .mHandler REFRESH, sending, delivered⟩ =
          sent ⟨queue, sending + 1, delivered⟩ ++ [refreshMessage] :=
        (List.append_assoc _ _ _).symm
      refine h.of_eq Action.noConfusion (fun _ ↦ Action.noConfusion) rfl ?_ ?_
      · rw [hsent, List.filter_append]
        simp
      · rw [hsent, List.count_append, List.count_singleton_self]
        dsimp only
        omega
  | invalidate =>
    cases hstep
    exact h.of_eq Action.noConfusion (fun _ ↦ Action.noConfusion) rfl rfl rfl
  | postMessage task =>
    cases hstep
    have hsent : sent { s with queue := s.queue.postMessage task } = s.sent ++ [taskMessage task] :=
      (List.append_assoc _ _ _).symm
    have hcount : (sent { s with queue := s.queue.postMessage task }).count refreshMessage =
        s.sent.count refreshMessage := by
      rw [hsent, List.count_append, List.count_singleton, if_neg (by simp [taskMessage_ne]),
        add_zero]
    have hcalled : Called (actions ++ [.postMessage task]) ↔ Called actions :=
      called_snoc.trans (or_iff_left Action.noConfusion)
    refine ⟨?_, ?_, ?_, ?_⟩
    · rw [hsent, List.filter_append, h.tasks]
      simp [posted, taskMessage_ne]
    · rw [hcalled]
      exact h.masked_iff
    · rw [hcalled, hcount]
      exact h.none
    · rw [hcalled, hcount]
      exact h.one
  | deliver =>
    obtain ⟨⟨mask, looper⟩, sending, delivered⟩ := s
    cases looper with
    | nil => cases hstep
    | cons envelope rest =>
      simp only [step, deliver_eq, Option.some.injEq] at hstep
      have hsent : t.sent = sent ⟨⟨mask, envelope :: rest⟩, sending, delivered⟩ := by
        rw [← hstep]
        exact List.append_assoc delivered [envelope] rest
      refine h.of_eq Action.noConfusion (fun _ ↦ Action.noConfusion) ?_ ?_ ?_
      · rw [← hstep]
      · rw [hsent]
      · rw [hsent, ← hstep]

/-- In every interleaving of any number of threads: what the looper has delivered and what it holds
is every task posted so far, in order and once, and refresh messages, of which one in all is sent or
about to be once a thread has called `refresh`, and none before. -/
theorem delivered_in_order {actions : List Action} {s : Callers}
    (hrun : run step start actions = some s) :
    (s.delivered ++ s.queue.mLooper).filter (· ≠ refreshMessage) = posted actions ∧
      (s.delivered ++ s.queue.mLooper).count refreshMessage + s.sending =
        if .android_atomic_or ∈ actions then 1 else 0 := by
  have haccounts : Accounts actions s := by
    refine run_induction ⟨rfl, ?_, fun _ ↦ rfl, fun h ↦ absurd h List.not_mem_nil⟩
      (fun _ _ _ _ _ h hstep ↦ accounts_step h hstep) hrun
    exact iff_of_false (by unfold Masked; decide) List.not_mem_nil
  refine ⟨haccounts.tasks, ?_⟩
  split_ifs with hcalled
  · exact haccounts.one hcalled
  · exact haccounts.none hcalled

/-- Two threads that call `refresh` at the same time, and a task between them. -/
def twoRefreshes : List Action :=
  [.android_atomic_or, .postMessage 7, .android_atomic_or, .sendRefresh, .deliver]

theorem delivered_twoRefreshes : ∃ s, run step start twoRefreshes = some s ∧
    (s.delivered ++ s.queue.mLooper).count refreshMessage + s.sending = 1 := by
  have hrun : run step start twoRefreshes =
      some ((run step start twoRefreshes).getD start) := by decide
  exact ⟨_, hrun, (delivered_in_order hrun).2⟩

end Callers

end WLManager.Service
