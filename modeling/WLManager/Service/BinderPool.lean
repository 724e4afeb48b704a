import WLManager.Collection.SlotTable
import WLManager.Service.WLManagerService

/-!
# Requests in the Binder thread pool

`main` starts a pool of Binder threads, and nothing serialises the `StartApp` handlers they run.
Here a handler advances one step at a time: it filters the name, looks it up, pushes it back and
forks. A `Pool` is the service that all handlers share and the requests taken up so far, each with
the step it is at. The size of the pool bounds how many handlers can be under way.

A name is *claimed* once a handler has found it absent: it is then in `m_client_list`, or about to
be pushed back by that handler. Only a look-up claims a name.
-/

namespace WLManager.Service

open Transition

/-- The next step of a handler. -/
inductive Pc
  | filter
  | lookUp
  | insert
  | fork
  | returned
  deriving DecidableEq

/-- A `StartApp` request and how far its handler has come. -/
structure Request where
  name : Name
  pc : Pc
  deriving DecidableEq

namespace Request

/-- One step of the handler, on the service it shares with the others. -/
def advance (r : Request) (s : System) (outcome : Fork) : Option (System × Pc) :=
  match r.pc with
  | .filter => some (s, if Accepted r.name then .lookUp else .returned)
  | .lookUp => some (s, if r.name ∈ s.m_client_list then .returned else .insert)
  | .insert => some (s.push_back r.name, .fork)
  | .fork => some (s.fork r.name outcome, .returned)
  | .returned => none

/-- The name of a request that is at the given step. -/
def nameAt (pc : Pc) (r : Request) : Option Name := if r.pc = pc then some r.name else none

@[simp]
theorem nameAt_mk (pc other : Pc) (name : Name) :
    nameAt pc ⟨name, other⟩ = if other = pc then some name else none := rfl

theorem nameAt_eq_some {pc : Pc} {r : Request} {name : Name} :
    r.nameAt pc = some name ↔ r.pc = pc ∧ r.name = name := by
  simp [nameAt]

end Request

/-- The service and the requests its pool has taken up. -/
structure Pool where
  service : System
  requests : List Request
  deriving DecidableEq

namespace Pool

def start : Pool where
  service := .start
  requests := []

/-- The number of threads that are in a handler. -/
def active (p : Pool) : ℕ := p.requests.countP fun r ↦ r.pc ≠ .returned

/-- The names of the requests that are at the given step, with multiplicity. -/
def namesAt (p : Pool) (pc : Pc) : Multiset Name :=
  SlotTable.contents (Request.nameAt pc) p.requests

/-- The pool after one of its handlers advanced. -/
def update (p : Pool) (service : System) (index : ℕ) (r : Request) : Pool :=
  ⟨service, p.requests.set index r⟩

/-- A thread takes up a request, or the handler of one advances. -/
inductive Action
  | arrive (name : Name)
  | advance (index : ℕ) (outcome : Fork)
  deriving DecidableEq

/-- One action of a pool of the given size. -/
def step (threads : ℕ) (p : Pool) : Action → Option Pool
  | .arrive name =>
    if p.active < threads then some { p with requests := p.requests ++ [⟨name, .filter⟩] }
    else none
  | .advance index outcome => do
    let r ← p.requests[index]?
    let (service, pc) ← r.advance p.service outcome
    some (p.update service index ⟨r.name, pc⟩)

/-- The names that are listed or about to be. -/
def claimed (p : Pool) : Multiset Name := ↑p.service.m_client_list + p.namesAt .insert

@[simp]
theorem update_service (p : Pool) (service : System) (index : ℕ) (r : Request) :
    (p.update service index r).service = service := rfl

theorem mem_namesAt {p : Pool} {pc : Pc} {name : Name} :
    name ∈ p.namesAt pc ↔ ∃ r ∈ p.requests, r.pc = pc ∧ r.name = name := by
  simp only [namesAt, SlotTable.mem_contents, Request.nameAt_eq_some]

/-- An advancing handler leaves one step and enters the next. -/
theorem namesAt_update {p : Pool} {service : System} {index : ℕ} {r : Request}
    (h : p.requests[index]? = some r) (next pc : Pc) :
    (p.update service index ⟨r.name, next⟩).namesAt pc + SlotTable.single (r.nameAt pc) =
      p.namesAt pc + SlotTable.single (Request.nameAt pc ⟨r.name, next⟩) := by
  obtain ⟨hlt, rfl⟩ := List.getElem?_eq_some_iff.mp h
  exact SlotTable.contents_set _ hlt _

section Steps

variable {p : Pool} {index : ℕ} {name : Name} {pc next : Pc} {service : System}
  (h : p.requests[index]? = some ⟨name, pc⟩)

include h

theorem namesAt_update_of_ne {other : Pc} (hpc : pc ≠ other) (hnext : next ≠ other) :
    (p.update service index ⟨name, next⟩).namesAt other = p.namesAt other := by
  simpa [hpc, hnext] using namesAt_update h next other

theorem namesAt_update_enter (hpc : pc ≠ next) :
    (p.update service index ⟨name, next⟩).namesAt next = p.namesAt next + {name} := by
  simpa [hpc] using namesAt_update h next next

theorem namesAt_update_leave (hpc : next ≠ pc) :
    (p.update service index ⟨name, next⟩).namesAt pc + {name} = p.namesAt pc := by
  simpa [hpc] using namesAt_update h next pc

end Steps

/-- Everything one action can do: take up a request, decide to return or to look up, claim a name,
push it back, or fork for it. -/
theorem step_cases {threads : ℕ} {p q : Pool} {a : Action} (h : step threads p a = some q) :
    (∃ name, a = .arrive name ∧ q = { p with requests := p.requests ++ [⟨name, .filter⟩] }) ∨
    (∃ index outcome name pc next, a = .advance index outcome ∧
      p.requests[index]? = some ⟨name, pc⟩ ∧ q = p.update p.service index ⟨name, next⟩ ∧
      (pc = .filter ∧ (next = .lookUp ∨ next = .returned) ∨
        pc = .lookUp ∧ name ∈ p.service.m_client_list ∧ next = .returned)) ∨
    (∃ index outcome name, a = .advance index outcome ∧
      p.requests[index]? = some ⟨name, .lookUp⟩ ∧ name ∉ p.service.m_client_list ∧
      q = p.update p.service index ⟨name, .insert⟩) ∨
    (∃ index outcome name, a = .advance index outcome ∧
      p.requests[index]? = some ⟨name, .insert⟩ ∧
      q = p.update (p.service.push_back name) index ⟨name, .fork⟩) ∨
    (∃ index outcome name, a = .advance index outcome ∧
      p.requests[index]? = some ⟨name, .fork⟩ ∧
      q = p.update (p.service.fork name outcome) index ⟨name, .returned⟩) := by
  cases a with
  | arrive name =>
    simp only [step, Option.ite_none_right_eq_some, Option.some.injEq] at h
    exact .inl ⟨name, rfl, h.2.symm⟩
  | advance index outcome =>
    obtain ⟨⟨name, pc⟩, hr, h⟩ := Option.bind_eq_some_iff.mp h
    obtain ⟨⟨service, next⟩, hadvance, h⟩ := Option.bind_eq_some_iff.mp h
    cases h
    cases pc with
    | filter =>
      cases hadvance
      refine .inr (.inl ⟨index, outcome, name, _, _, rfl, hr, rfl, .inl ⟨rfl, ?_⟩⟩)
      exact (ite_eq_or_eq _ _ _)
    | lookUp =>
      by_cases hlisted : name ∈ p.service.m_client_list
      · simp only [Request.advance, if_pos hlisted] at hadvance
        cases hadvance
        exact .inr (.inl ⟨index, outcome, name, _, _, rfl, hr, rfl, .inr ⟨rfl, hlisted, rfl⟩⟩)
      · simp only [Request.advance, if_neg hlisted] at hadvance
        cases hadvance
        exact .inr (.inr (.inl ⟨index, outcome, name, rfl, hr, hlisted, rfl⟩))
    | insert =>
      cases hadvance
      exact .inr (.inr (.inr (.inl ⟨index, outcome, name, rfl, hr, rfl⟩)))
    | fork =>
      cases hadvance
      exact .inr (.inr (.inr (.inr ⟨index, outcome, name, rfl, hr, rfl⟩)))
    | returned => cases hadvance

/-! ## One request on its own -/

/-- A step of the request taken up last. -/
theorem step_last {threads : ℕ} {service t : System} {requests : List Request} {r : Request}
    {pc : Pc} {outcome : Fork} (h : r.advance service outcome = some (t, pc)) :
    step threads ⟨service, requests ++ [r]⟩ (.advance requests.length outcome) =
      some ⟨t, requests ++ [⟨r.name, pc⟩]⟩ := by
  simp [step, h, update]

/-- A handler that no other one interrupts does what `StartApp` does. -/
theorem run_alone {threads : ℕ} {p : Pool} (hthread : p.active < threads) (name : Name)
    (outcome : Fork) :
    ∃ steps, run (step threads) p
        (.arrive name :: List.replicate steps (.advance p.requests.length outcome)) =
      some ⟨p.service.StartApp name outcome, p.requests ++ [⟨name, .returned⟩]⟩ := by
  have harrive : step threads p (.arrive name) =
      some ⟨p.service, p.requests ++ [⟨name, .filter⟩]⟩ := if_pos hthread
  simp only [run_cons, harrive, Option.bind_some]
  by_cases haccepted : Accepted name
  · have hfilter : Request.advance ⟨name, .filter⟩ p.service outcome =
        some (p.service, .lookUp) := by simp [Request.advance, haccepted]
    by_cases hlisted : name ∈ p.service.m_client_list
    · have hlookUp : Request.advance ⟨name, .lookUp⟩ p.service outcome =
          some (p.service, .returned) := by simp [Request.advance, hlisted]
      refine ⟨2, ?_⟩
      simp [List.replicate, step_last hfilter, step_last hlookUp, System.StartApp_listed hlisted]
    · have hlookUp : Request.advance ⟨name, .lookUp⟩ p.service outcome =
          some (p.service, .insert) := by simp [Request.advance, hlisted]
      have hinsert : Request.advance ⟨name, .insert⟩ p.service outcome =
          some (p.service.push_back name, .fork) := rfl
      have hfork : Request.advance ⟨name, .fork⟩ (p.service.push_back name) outcome =
          some ((p.service.push_back name).fork name outcome, .returned) := rfl
      refine ⟨4, ?_⟩
      simp [List.replicate, step_last hfilter, step_last hlookUp, step_last hinsert,
        step_last hfork, System.StartApp_new haccepted hlisted]
  · have hfilter : Request.advance ⟨name, .filter⟩ p.service outcome =
        some (p.service, .returned) := by simp [Request.advance, haccepted]
    refine ⟨1, ?_⟩
    simp [List.replicate, step_last hfilter, System.StartApp_rejected haccepted]

end Pool

end WLManager.Service
