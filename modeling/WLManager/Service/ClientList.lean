import Mathlib.Data.List.Nodup
import WLManager.Service.WLManagerService

/-!
# What the client list records

With requests handled one after the other, `m_client_list` is the list of accepted names that have
ever been requested: a name is recorded before its fork and never removed, so neither the end of
its client nor `StopApp`, `DestroyApp` or `binderDied` makes room for another start. The live
clients are always among the listed names, one for each name at most.
-/

namespace WLManager.Service

open Transition

/-- The names whose client has exited and which no request has named since. -/
def unnoticedExits (events : List Event) : List Name :=
  events.foldl (fun names e ↦
    match e with
    | .clientExit name => name :: names
    | .binderDied _ => names
    | .StartApp name _ | .StopApp name | .DestroyApp name => names.filter (· ≠ name)) []

/-- Unless its exit is still unnoticed, a name is listed exactly while it has a live client. -/
def TracksClients (events : List Event) (s : System) : Prop :=
  ∀ name ∉ unnoticedExits events, (name ∈ s.m_client_list ↔ name ∈ s.clients)

/-- Every fork and every `execv` of the run succeeds. -/
def AllSucceed (events : List Event) : Prop :=
  ∀ name outcome, .StartApp name outcome ∈ events → outcome = .child true

/-- The invariant of a run, with the events so far. -/
structure Recorded (events : List Event) (s : System) : Prop where
  list_nodup : s.m_client_list.Nodup
  listed : ∀ name, name ∈ s.m_client_list ↔
    Accepted name ∧ ∃ outcome, .StartApp name outcome ∈ events
  clients_nodup : s.clients.Nodup
  clients_listed : ∀ name ∈ s.clients, name ∈ s.m_client_list
  exited_listed : ∀ name, .clientExit name ∈ events → name ∈ s.m_client_list
  succeeded : AllSucceed events → s.returned = 0 ∧
    ∀ name ∈ s.m_client_list, name ∈ s.clients ∨ .clientExit name ∈ events

theorem recorded_start : Recorded [] .start where
  list_nodup := List.nodup_nil
  listed := by simp [System.start]
  clients_nodup := List.nodup_nil
  clients_listed := by simp [System.start]
  exited_listed := by simp
  succeeded _ := ⟨rfl, by simp [System.start]⟩

theorem AllSucceed.of_append {events : List Event} {e : Event}
    (h : AllSucceed (events ++ [e])) : AllSucceed events :=
  fun name outcome hmem ↦ h name outcome (List.mem_append_left _ hmem)

/-- An event that leaves the system alone. -/
theorem Recorded.ignored {events : List Event} {s : System} {e : Event} (h : Recorded events s)
    (hexit : ∀ name, e ≠ .clientExit name)
    (hstart : ∀ name outcome, e = .StartApp name outcome →
      ¬ Accepted name ∨ name ∈ s.m_client_list) : Recorded (events ++ [e]) s where
  list_nodup := h.list_nodup
  listed name := by
    rw [h.listed name]
    apply and_congr_right
    intro haccepted
    simp only [List.mem_append, List.mem_singleton]
    refine ⟨fun ⟨outcome, hmem⟩ ↦ ⟨outcome, .inl hmem⟩, ?_⟩
    rintro ⟨outcome, hmem | heq⟩
    · exact ⟨outcome, hmem⟩
    · have hlisted := (hstart name outcome heq.symm).resolve_left (not_not_intro haccepted)
      exact ((h.listed name).mp hlisted).2
  clients_nodup := h.clients_nodup
  clients_listed := h.clients_listed
  exited_listed name hmem := by
    rcases List.mem_append.mp hmem with hmem | hmem
    · exact h.exited_listed name hmem
    · exact absurd (List.mem_singleton.mp hmem).symm (hexit name)
  succeeded hall := by
    obtain ⟨hreturned, hlive⟩ := h.succeeded hall.of_append
    exact ⟨hreturned, fun name hname ↦ (hlive name hname).imp_right (List.mem_append_left _)⟩

/-- The first accepted request for a name, whatever becomes of the fork. -/
theorem Recorded.started {events : List Event} {s : System} {name : Name} {outcome : Fork}
    (h : Recorded events s) (haccepted : Accepted name) (hnew : name ∉ s.m_client_list) :
    Recorded (events ++ [.StartApp name outcome]) ((s.push_back name).fork name outcome) where
  list_nodup := by
    rw [System.fork_m_client_list, System.push_back_m_client_list]
    exact List.nodup_append_comm.mp (List.nodup_cons.mpr ⟨hnew, h.list_nodup⟩)
  listed other := by
    rw [System.fork_m_client_list, System.push_back_m_client_list, List.mem_append, h.listed other,
      List.mem_singleton]
    simp only [List.mem_append, List.mem_singleton, Event.StartApp.injEq]
    constructor
    · rintro (⟨hother, earlier, hmem⟩ | rfl)
      · exact ⟨hother, earlier, .inl hmem⟩
      · exact ⟨haccepted, outcome, .inr ⟨rfl, rfl⟩⟩
    · rintro ⟨hother, earlier, hmem | ⟨rfl, -⟩⟩
      · exact .inl ⟨hother, earlier, hmem⟩
      · exact .inr rfl
  clients_nodup := by
    have hnone : name ∉ s.clients := fun hmem ↦ hnew (h.clients_listed name hmem)
    rcases outcome with _ | _ | _
    · exact h.clients_nodup
    · exact h.clients_nodup
    · exact List.nodup_append_comm.mp (List.nodup_cons.mpr ⟨hnone, h.clients_nodup⟩)
  clients_listed other hmem := by
    rw [System.fork_m_client_list, System.push_back_m_client_list]
    rcases outcome with _ | _ | _
    · exact List.mem_append_left _ (h.clients_listed other hmem)
    · exact List.mem_append_left _ (h.clients_listed other hmem)
    · rcases List.mem_append.mp hmem with hold | hself
      · exact List.mem_append_left _ (h.clients_listed other hold)
      · exact List.mem_append_right _ hself
  exited_listed other hmem := by
    rw [System.fork_m_client_list, System.push_back_m_client_list]
    simp only [List.mem_append, List.mem_singleton, reduceCtorEq, or_false] at hmem
    exact List.mem_append_left _ (h.exited_listed other hmem)
  succeeded hall := by
    obtain ⟨hreturned, hlive⟩ := h.succeeded hall.of_append
    obtain rfl := hall name outcome (by simp)
    refine ⟨hreturned, fun other hother ↦ ?_⟩
    rcases List.mem_append.mp hother with hold | hself
    · exact (hlive other hold).imp (List.mem_append_left _) (List.mem_append_left _)
    · exact .inl (List.mem_append_right _ hself)

/-- The end of a live client. -/
theorem Recorded.exited {events : List Event} {s : System} {name : Name}
    (h : Recorded events s) (hlive : name ∈ s.clients) :
    Recorded (events ++ [.clientExit name]) (s.clientExit name) where
  list_nodup := h.list_nodup
  listed other := by
    change other ∈ s.m_client_list ↔ _
    simp [h.listed other]
  clients_nodup := h.clients_nodup.erase name
  clients_listed other hmem := h.clients_listed other (List.mem_of_mem_erase hmem)
  exited_listed other hmem := by
    rcases List.mem_append.mp hmem with hold | hself
    · exact h.exited_listed other hold
    · cases List.mem_singleton.mp hself
      exact h.clients_listed name hlive
  succeeded hall := by
    obtain ⟨hreturned, hold⟩ := h.succeeded hall.of_append
    refine ⟨hreturned, fun other hother ↦ ?_⟩
    by_cases hself : other = name
    · subst hself
      exact .inr (by simp)
    · refine (hold other hother).imp (fun hmem ↦ ?_) (List.mem_append_left _)
      exact (List.mem_erase_of_ne hself).mpr hmem

theorem recorded_run {events : List Event} {s : System}
    (hrun : run step .start events = some s) : Recorded events s := by
  refine run_induction recorded_start ?_ hrun
  intro events s e t _ h hstep
  rcases step_cases hstep with ⟨rfl, hexit, hstart⟩ | ⟨name, outcome, rfl, haccepted, hnew, rfl⟩ |
    ⟨name, rfl, hlive, rfl⟩
  · exact h.ignored hexit hstart
  · exact h.started haccepted hnew
  · exact h.exited hlive

/-- The list only ever grows: it holds the accepted names requested so far, each once, and every
live client is among them. A listed name is never started again; an accepted name that is not
listed is. While forks and `execv` succeed, no copy of the service returns from `StartApp`, and a
listed name has a live client unless its client has exited. -/
theorem client_list_records_starts {events : List Event} {s : System}
    (hrun : run step .start events = some s) :
    (s.m_client_list.Nodup ∧ ∀ name, name ∈ s.m_client_list ↔
      Accepted name ∧ ∃ outcome, .StartApp name outcome ∈ events) ∧
    (s.clients.Nodup ∧ ∀ name ∈ s.clients, name ∈ s.m_client_list) ∧
    (∀ name ∈ s.m_client_list, ∀ outcome, s.StartApp name outcome = s) ∧
    (∀ name, Accepted name → name ∉ s.m_client_list →
      name ∈ (s.StartApp name (.child true)).clients) ∧
    (∀ name, s.StopApp name = s ∧ s.DestroyApp name = s) ∧ (∀ who, s.binderDied who = s) ∧
    (AllSucceed events → s.returned = 0 ∧
      ∀ name, name ∈ s.m_client_list ↔ name ∈ s.clients ∨ .clientExit name ∈ events) := by
  have h := recorded_run hrun
  refine ⟨⟨h.list_nodup, h.listed⟩, ⟨h.clients_nodup, h.clients_listed⟩,
    fun name hlisted outcome ↦ System.StartApp_listed hlisted, ?_, fun name ↦ ⟨rfl, rfl⟩,
    fun _ ↦ rfl, ?_⟩
  · intro name haccepted hnew
    rw [System.StartApp_new haccepted hnew]
    exact List.mem_append_right _ (List.mem_singleton.mpr rfl)
  · intro hall
    obtain ⟨hreturned, hlive⟩ := h.succeeded hall
    refine ⟨hreturned, fun name ↦ ⟨hlive name, ?_⟩⟩
    rintro (hclient | hexit)
    · exact h.clients_listed name hclient
    · exact h.exited_listed name hexit

/-- A start, the end of the client and a second request for the same name. -/
def restartAfterExit : List Event :=
  [.StartApp appFilter (.child true), .clientExit appFilter, .StartApp appFilter (.child true)]

theorem run_restartAfterExit :
    run step .start restartAfterExit = some ⟨[appFilter], [], [appFilter], 0⟩ := by
  have hfirst : System.start.StartApp appFilter (.child true) =
      ⟨[appFilter], [appFilter], [appFilter], 0⟩ :=
    System.StartApp_new (List.infix_refl _) (List.not_mem_nil)
  have hsecond : System.StartApp ⟨[appFilter], [], [appFilter], 0⟩ appFilter (.child true) =
      ⟨[appFilter], [], [appFilter], 0⟩ :=
    System.StartApp_listed (List.mem_singleton.mpr rfl)
  simp [restartAfterExit, step, hfirst, hsecond, System.clientExit]

/-- The run above is one to which the law applies. -/
theorem client_list_records_restartAfterExit :
    appFilter ∈ [appFilter] ↔
      appFilter ∈ ([] : List Name) ∨ .clientExit appFilter ∈ restartAfterExit :=
  ((client_list_records_starts run_restartAfterExit).2.2.2.2.2.2
    (by simp [AllSucceed, restartAfterExit])).2 appFilter

/-- The second request has noticed the exit, yet the name is listed, has no client and gets
none. -/
theorem not_tracksClients_restartAfterExit :
    ∃ s, run step .start restartAfterExit = some s ∧ ¬ TracksClients restartAfterExit s := by
  refine ⟨_, run_restartAfterExit, fun h ↦ ?_⟩
  have hnoticed : appFilter ∉ unnoticedExits restartAfterExit := by
    simp [unnoticedExits, restartAfterExit]
  have hlive := (h appFilter hnoticed).mp (List.mem_singleton.mpr rfl)
  cases hlive

end WLManager.Service
