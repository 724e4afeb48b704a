import Mathlib.Data.List.Infix
import WLManager.Transition.Run

/-!
# The service that starts one wayland client per application

`StartApp` filters the name, looks it up in `m_client_list`, records it and forks a process that
becomes `wl_client` through `execv`. `StopApp`, `DestroyApp` and `binderDied` are stubs.
A `System` is the list together with the processes around it: the live clients, every client
process ever forked, and the copies of the service that returned from `StartApp` because their
`execv` failed.
-/

namespace WLManager.Service

/-- An application name, as the C string `String8(name).c_str()`. -/
abbrev Name := List Char

/-- The text a name has to contain to be started. -/
def appFilter : Name := "jingnote.MainActivity#0".toList

/-- `String8(name).find(...) != npos`. -/
def Accepted (name : Name) : Prop := appFilter <:+: name

instance (name : Name) : Decidable (Accepted name) :=
  inferInstanceAs (Decidable (appFilter <:+: name))

instance : LawfulBEq Name := inferInstanceAs (LawfulBEq (List Char))

/-- What becomes of `fork`: it fails, or there is a child whose `execv` succeeds or fails. -/
inductive Fork
  | failed
  | child (execv : Bool)
  deriving DecidableEq

/-- The service's list and the processes around it. -/
structure System where
  m_client_list : List Name
  clients : List Name
  forked : List Name
  returned : ℕ
  deriving DecidableEq

/-- A freshly started service. -/
def System.start : System where
  m_client_list := []
  clients := []
  forked := []
  returned := 0

namespace System

/-- `m_client_list.push_back(name)`. -/
def push_back (s : System) (name : Name) : System :=
  { s with m_client_list := s.m_client_list ++ [name] }

/-- `fork`, and in the child `execv`. A child whose `execv` fails leaves the `if` and returns from
`StartApp` like its parent. -/
def fork (s : System) (name : Name) : Fork → System
  | .failed => s
  | .child true => { s with clients := s.clients ++ [name], forked := s.forked ++ [name] }
  | .child false => { s with forked := s.forked ++ [name], returned := s.returned + 1 }

/-- Handle a whole `StartApp` request. -/
def StartApp (s : System) (name : Name) (outcome : Fork) : System :=
  if ¬ Accepted name then s
  else if name ∈ s.m_client_list then s
  else (s.push_back name).fork name outcome

def DestroyApp (s : System) (_name : Name) : System := s

def StopApp (s : System) (_name : Name) : System := s

/-- The death notification of a binder object, known by its address. -/
def binderDied (s : System) (_who : ℕ) : System := s

/-- A client process ends, killed from outside or by itself. -/
def clientExit (s : System) (name : Name) : System :=
  { s with clients := s.clients.erase name }

@[simp]
theorem push_back_m_client_list (s : System) (name : Name) :
    (s.push_back name).m_client_list = s.m_client_list ++ [name] := rfl

@[simp]
theorem fork_m_client_list (s : System) (name : Name) (outcome : Fork) :
    (s.fork name outcome).m_client_list = s.m_client_list := by
  rcases outcome with _ | _ | _ <;> rfl

theorem StartApp_rejected {s : System} {name : Name} {outcome : Fork} (h : ¬ Accepted name) :
    s.StartApp name outcome = s := if_pos h

/-- A name that is listed is not started again. -/
theorem StartApp_listed {s : System} {name : Name} {outcome : Fork}
    (h : name ∈ s.m_client_list) : s.StartApp name outcome = s := by
  unfold StartApp
  rw [if_pos h, ite_self]

theorem StartApp_new {s : System} {name : Name} {outcome : Fork} (haccepted : Accepted name)
    (hnew : name ∉ s.m_client_list) :
    s.StartApp name outcome = (s.push_back name).fork name outcome := by
  unfold StartApp
  rw [if_neg (not_not_intro haccepted), if_neg hnew]

end System

/-- What can happen to the service when requests do not overlap. -/
inductive Event
  | StartApp (name : Name) (outcome : Fork)
  | StopApp (name : Name)
  | DestroyApp (name : Name)
  | binderDied (who : ℕ)
  | clientExit (name : Name)
  deriving DecidableEq

/-- One event; only a live client can exit. -/
def step (s : System) : Event → Option System
  | .StartApp name outcome => some (s.StartApp name outcome)
  | .StopApp name => some (s.StopApp name)
  | .DestroyApp name => some (s.DestroyApp name)
  | .binderDied who => some (s.binderDied who)
  | .clientExit name => if name ∈ s.clients then some (s.clientExit name) else none

/-- Everything one event can do: nothing to the system, record a new name and fork for it, or end
one client. -/
theorem step_cases {s t : System} {e : Event} (h : step s e = some t) :
    (t = s ∧ (∀ name, e ≠ .clientExit name) ∧
      ∀ name outcome, e = .StartApp name outcome → ¬ Accepted name ∨ name ∈ s.m_client_list) ∨
    (∃ name outcome, e = .StartApp name outcome ∧ Accepted name ∧ name ∉ s.m_client_list ∧
      t = (s.push_back name).fork name outcome) ∨
    (∃ name, e = .clientExit name ∧ name ∈ s.clients ∧ t = s.clientExit name) := by
  cases e with
  | StartApp name outcome =>
    cases h
    by_cases haccepted : Accepted name
    · by_cases hlisted : name ∈ s.m_client_list
      · refine .inl ⟨System.StartApp_listed hlisted, fun _ ↦ Event.noConfusion, ?_⟩
        intro _ _ heq
        cases heq
        exact .inr hlisted
      · exact .inr (.inl ⟨name, outcome, rfl, haccepted, hlisted,
          System.StartApp_new haccepted hlisted⟩)
    · refine .inl ⟨System.StartApp_rejected haccepted, fun _ ↦ Event.noConfusion, ?_⟩
      intro _ _ heq
      cases heq
      exact .inl haccepted
  | StopApp name =>
    cases h
    exact .inl ⟨rfl, fun _ ↦ Event.noConfusion, fun _ _ ↦ Event.noConfusion⟩
  | DestroyApp name =>
    cases h
    exact .inl ⟨rfl, fun _ ↦ Event.noConfusion, fun _ _ ↦ Event.noConfusion⟩
  | binderDied who =>
    cases h
    exact .inl ⟨rfl, fun _ ↦ Event.noConfusion, fun _ _ ↦ Event.noConfusion⟩
  | clientExit name =>
    simp only [step, Option.ite_none_right_eq_some, Option.some.injEq] at h
    exact .inr (.inr ⟨name, rfl, h.1, h.2.symm⟩)

end WLManager.Service
