import Mathlib.Logic.Function.Basic
import WLManager.Service.AtMostOneClient
import WLManager.Service.ClientList

/-!
# Concurrent requests as if one after the other

The handlers of the Binder pool interleave, while `StartApp` is written as if it ran alone. A run of
the pool is linearizable when its requests can be put into one order, in which a request that had
returned before another one arrived comes first, such that handling them one after the other leaves
the same list and the same processes. That is so exactly when no look-up falls between another
handler's look-up and `push_back` of the same name.

A request takes effect where it returns early, or else where it pushes its name back. The outcome of
its `fork` comes later; until then the request is put down as one whose `fork` fails, which leaves
the processes alone.
-/

namespace WLManager.Service

open Transition

namespace System

/-- Handle requests one after the other. -/
def handle (s : System) (requests : List (Name × Fork)) : System :=
  requests.foldl (fun s r ↦ s.StartApp r.1 r.2) s

/-- The same list, and the same processes in some order. -/
structure Like (s t : System) : Prop where
  m_client_list : s.m_client_list = t.m_client_list
  clients : s.clients.Perm t.clients
  forked : s.forked.Perm t.forked
  returned : s.returned = t.returned

variable {s t u : System} {name : Name}

theorem Like.refl (s : System) : s.Like s := ⟨rfl, .refl _, .refl _, rfl⟩

theorem Like.symm (h : s.Like t) : t.Like s :=
  ⟨h.m_client_list.symm, h.clients.symm, h.forked.symm, h.returned.symm⟩

theorem Like.trans (h : s.Like t) (h' : t.Like u) : s.Like u :=
  ⟨h.m_client_list.trans h'.m_client_list, h.clients.trans h'.clients, h.forked.trans h'.forked,
    h.returned.trans h'.returned⟩

theorem Like.push_back (h : s.Like t) (name : Name) : (s.push_back name).Like (t.push_back name) :=
  ⟨congrArg (· ++ [name]) h.m_client_list, h.clients, h.forked, h.returned⟩

theorem Like.fork (h : s.Like t) (name : Name) (outcome : Fork) :
    (s.fork name outcome).Like (t.fork name outcome) := by
  rcases outcome with _ | _ | _
  · exact h
  · exact ⟨h.m_client_list, h.clients, h.forked.append_right _, congrArg (· + 1) h.returned⟩
  · exact ⟨h.m_client_list, h.clients.append_right _, h.forked.append_right _, h.returned⟩

theorem push_back_fork (s : System) (name other : Name) (outcome : Fork) :
    (s.fork name outcome).push_back other = (s.push_back other).fork name outcome := by
  rcases outcome with _ | _ | _ <;> rfl

/-- Forks for two requests may change places. -/
theorem like_fork_fork (s : System) (name other : Name) (outcome outcome' : Fork) :
    ((s.fork name outcome).fork other outcome').Like
      ((s.fork other outcome').fork name outcome) := by
  have hswap : ∀ l : List Name, (l ++ [name] ++ [other]).Perm (l ++ [other] ++ [name]) := by
    intro l
    rw [List.append_assoc, List.append_assoc]
    exact (List.Perm.swap other name []).append_left l
  rcases outcome with _ | _ | _
  · exact .refl _
  · rcases outcome' with _ | _ | _
    · exact .refl _
    · exact ⟨rfl, .refl _, hswap _, rfl⟩
    · exact ⟨rfl, .refl _, hswap _, rfl⟩
  · rcases outcome' with _ | _ | _
    · exact .refl _
    · exact ⟨rfl, .refl _, hswap _, rfl⟩
    · exact ⟨rfl, hswap _, hswap _, rfl⟩

/-- The request has an effect. -/
def Starts (s : System) (name : Name) : Prop := Accepted name ∧ name ∉ s.m_client_list

theorem StartApp_of_starts (h : s.Starts name) (outcome : Fork) :
    s.StartApp name outcome = (s.push_back name).fork name outcome :=
  StartApp_new h.1 h.2

theorem StartApp_of_not_starts (h : ¬ s.Starts name) (outcome : Fork) :
    s.StartApp name outcome = s := by
  by_cases haccepted : Accepted name
  · exact StartApp_listed (by_contra fun hnew ↦ h ⟨haccepted, hnew⟩)
  · exact StartApp_rejected haccepted

theorem starts_congr (h : s.m_client_list = t.m_client_list) : s.Starts name ↔ t.Starts name := by
  unfold Starts
  rw [h]

/-- A request does not notice what an earlier one has forked. -/
theorem like_StartApp_fork (s : System) (name other : Name) (outcome outcome' : Fork) :
    ((s.fork name outcome).StartApp other outcome').Like
      ((s.StartApp other outcome').fork name outcome) := by
  have hstarts : (s.fork name outcome).Starts other ↔ s.Starts other :=
    starts_congr (fork_m_client_list s name outcome)
  by_cases h : s.Starts other
  · rw [StartApp_of_starts h, StartApp_of_starts (hstarts.mpr h), push_back_fork]
    exact like_fork_fork _ _ _ _ _
  · rw [StartApp_of_not_starts h, StartApp_of_not_starts (hstarts.not.mpr h)]
    exact .refl _

theorem Like.StartApp (h : s.Like t) (name : Name) (outcome : Fork) :
    (s.StartApp name outcome).Like (t.StartApp name outcome) := by
  have hstarts : s.Starts name ↔ t.Starts name := starts_congr h.m_client_list
  by_cases hs : s.Starts name
  · rw [StartApp_of_starts hs, StartApp_of_starts (hstarts.mp hs)]
    exact (h.push_back name).fork name outcome
  · rw [StartApp_of_not_starts hs, StartApp_of_not_starts (hstarts.not.mp hs)]
    exact h

theorem Like.handle (h : s.Like t) (requests : List (Name × Fork)) :
    (s.handle requests).Like (t.handle requests) := by
  induction requests generalizing s t with
  | nil => exact h
  | cons r requests ih => exact ih (h.StartApp r.1 r.2)

theorem like_handle_fork (s : System) (name : Name) (outcome : Fork)
    (requests : List (Name × Fork)) :
    ((s.fork name outcome).handle requests).Like ((s.handle requests).fork name outcome) := by
  induction requests generalizing s with
  | nil => exact .refl _
  | cons r requests ih =>
    have hstep := (like_StartApp_fork s name r.1 outcome r.2).handle requests
    exact hstep.trans (ih _)

theorem handle_append (s : System) (first second : List (Name × Fork)) :
    s.handle (first ++ second) = (s.handle first).handle second :=
  List.foldl_append

theorem handle_singleton (s : System) (name : Name) (outcome : Fork) :
    s.handle [(name, outcome)] = s.StartApp name outcome := rfl

/-- The list does not depend on what becomes of the forks. -/
theorem StartApp_m_client_list_congr (h : s.m_client_list = t.m_client_list) (name : Name)
    (outcome outcome' : Fork) :
    (s.StartApp name outcome).m_client_list = (t.StartApp name outcome').m_client_list := by
  have hstarts : s.Starts name ↔ t.Starts name := starts_congr h
  by_cases hs : s.Starts name
  · rw [StartApp_of_starts hs, StartApp_of_starts (hstarts.mp hs), fork_m_client_list,
      fork_m_client_list, push_back_m_client_list, push_back_m_client_list, h]
  · rw [StartApp_of_not_starts hs, StartApp_of_not_starts (hstarts.not.mp hs), h]

theorem handle_m_client_list_congr {α : Type*} (name : α → Name) (outcome outcome' : α → Fork)
    (order : List α) (h : s.m_client_list = t.m_client_list) :
    (s.handle (order.map fun i ↦ (name i, outcome i))).m_client_list =
      (t.handle (order.map fun i ↦ (name i, outcome' i))).m_client_list := by
  induction order generalizing s t with
  | nil => exact h
  | cons i order ih => exact ih (StartApp_m_client_list_congr h (name i) (outcome i) (outcome' i))

/-- One request after the other names nothing twice. -/
theorem nodup_handle (h : s.m_client_list.Nodup) (requests : List (Name × Fork)) :
    (s.handle requests).m_client_list.Nodup := by
  induction requests generalizing s with
  | nil => exact h
  | cons r requests ih =>
    apply ih
    change (s.StartApp r.1 r.2).m_client_list.Nodup
    by_cases hs : s.Starts r.1
    · rw [StartApp_of_starts hs, fork_m_client_list, push_back_m_client_list]
      apply h.append (List.nodup_singleton _)
      rw [List.disjoint_singleton]
      exact hs.2
    · rw [StartApp_of_not_starts hs]
      exact h

end System

namespace Pool

/-- The name of the request with this number. -/
def nameOf (p : Pool) (i : ℕ) : Name := (p.requests[i]?.map Request.name).getD []

/-- The requests in this order, with these outcomes of their forks. -/
def inTurn (p : Pool) (outcome : ℕ → Fork) (order : List ℕ) : List (Name × Fork) :=
  order.map fun i ↦ (p.nameOf i, outcome i)

/-- Request `i` had returned when request `j` arrived. -/
def ReturnedBefore (threads : ℕ) (actions : List Action) (i j : ℕ) : Prop :=
  ∃ first name rest p, actions = first ++ .arrive name :: rest ∧
    run (step threads) start first = some p ∧ j = p.requests.length ∧
    ∃ r, p.requests[i]? = some r ∧ r.pc = .returned

/-- The requests can be put into an order, compatible with which of them had returned before others
arrived, in which handling one after the other leaves the same list and the same processes. -/
def Linearizable (threads : ℕ) (actions : List Action) (p : Pool) : Prop :=
  ∃ (order : List ℕ) (outcome : ℕ → Fork), order.Perm (List.range p.requests.length) ∧
    (∀ i j, ReturnedBefore threads actions i j → [i, j].Sublist order) ∧
    p.service.Like (System.start.handle (p.inTurn outcome order))

/-- Every handler has returned. -/
def Quiet (p : Pool) : Prop := ∀ r ∈ p.requests, r.pc = .returned

instance (p : Pool) : Decidable p.Quiet :=
  inferInstanceAs (Decidable (∀ r ∈ p.requests, r.pc = .returned))

/-- The request has taken effect. -/
def TakenEffect (p : Pool) (i : ℕ) : Prop :=
  ∃ r, p.requests[i]? = some r ∧ (r.pc = .fork ∨ r.pc = .returned)

/-- The requests that have taken effect, in the order in which they did, with the outcomes of their
forks as far as they are known. -/
structure Ordered (threads : ℕ) (actions : List Action) (p : Pool) (order : List ℕ)
    (outcome : ℕ → Fork) : Prop where
  nodup : order.Nodup
  mem_iff : ∀ i, i ∈ order ↔ p.TakenEffect i
  like : p.service.Like (System.start.handle (p.inTurn outcome order))
  accepted : ∀ r ∈ p.requests, r.pc = .lookUp ∨ r.pc = .insert → Accepted r.name
  forking : ∀ i r, p.requests[i]? = some r → r.pc = .fork → outcome i = .failed ∧
    ∃ before after, order = before ++ i :: after ∧
      (System.start.handle (p.inTurn outcome before)).Starts r.name
  inTime : ∀ i j, ReturnedBefore threads actions i j →
    i ∈ order ∧ j < p.requests.length ∧ (j ∈ order → [i, j].Sublist order)

/-! ## Requests and their numbers -/

section Advance

variable {p : Pool} {k : ℕ} {name : Name} {pc next : Pc} {service : System}
  (hk : p.requests[k]? = some ⟨name, pc⟩)

include hk

theorem getElem?_update (i : ℕ) : (p.update service k ⟨name, next⟩).requests[i]? =
    if i = k then some ⟨name, next⟩ else p.requests[i]? := by
  obtain ⟨hlt, -⟩ := List.getElem?_eq_some_iff.mp hk
  change (p.requests.set k _)[i]? = _
  by_cases hi : i = k
  · rw [if_pos hi, hi, List.getElem?_set_self hlt]
  · rw [if_neg hi, List.getElem?_set_ne (Ne.symm hi)]

theorem nameOf_update (i : ℕ) : (p.update service k ⟨name, next⟩).nameOf i = p.nameOf i := by
  unfold nameOf
  rw [getElem?_update hk]
  split_ifs with hi
  · rw [hi, hk]
    rfl
  · rfl

theorem inTurn_update (outcome : ℕ → Fork) (order : List ℕ) :
    (p.update service k ⟨name, next⟩).inTurn outcome order = p.inTurn outcome order := by
  unfold inTurn
  simp only [nameOf_update hk]

theorem takenEffect_update_of_ne {i : ℕ} (hi : i ≠ k) :
    (p.update service k ⟨name, next⟩).TakenEffect i ↔ p.TakenEffect i := by
  unfold TakenEffect
  rw [getElem?_update hk, if_neg hi]

theorem takenEffect_update_self : (p.update service k ⟨name, next⟩).TakenEffect k ↔
    next = .fork ∨ next = .returned := by
  unfold TakenEffect
  rw [getElem?_update hk, if_pos rfl]
  simp

theorem takenEffect_iff : p.TakenEffect k ↔ pc = .fork ∨ pc = .returned := by
  unfold TakenEffect
  rw [hk]
  simp

theorem nameOf_eq : p.nameOf k = name := by
  unfold nameOf
  rw [hk]
  rfl

end Advance

theorem mem_update {p : Pool} {service : System} {k : ℕ} {r r' : Request}
    (h : r ∈ (p.update service k r').requests) : r ∈ p.requests ∨ r = r' :=
  List.mem_or_eq_of_mem_set h

theorem length_update {p : Pool} {service : System} {k : ℕ} {r : Request} :
    (p.update service k r).requests.length = p.requests.length :=
  List.length_set

theorem inTurn_update_outcome {p : Pool} {outcome : ℕ → Fork} {k : ℕ} {o : Fork} {order : List ℕ}
    (h : k ∉ order) : p.inTurn (Function.update outcome k o) order = p.inTurn outcome order := by
  refine List.map_congr_left fun i hi ↦ ?_
  rw [Function.update_of_ne (ne_of_mem_of_not_mem hi h)]

section Arrive

variable {p : Pool} {name : Name}

theorem getElem?_arrive {i : ℕ} {r : Request}
    (h : (p.requests ++ [⟨name, .filter⟩])[i]? = some r) :
    p.requests[i]? = some r ∨ r = ⟨name, .filter⟩ := by
  by_cases hi : i < p.requests.length
  · rw [List.getElem?_append_left hi] at h
    exact .inl h
  · rw [List.getElem?_append_right (not_lt.mp hi)] at h
    exact .inr (List.mem_singleton.mp (List.mem_of_getElem? h))

theorem TakenEffect.lt {i : ℕ} (h : p.TakenEffect i) : i < p.requests.length := by
  obtain ⟨r, hr, -⟩ := h
  exact (List.getElem?_eq_some_iff.mp hr).1

theorem takenEffect_arrive {i : ℕ} :
    TakenEffect { p with requests := p.requests ++ [⟨name, .filter⟩] } i ↔ p.TakenEffect i := by
  constructor
  · intro h
    obtain ⟨r, hr, hpc⟩ := h
    rcases getElem?_arrive hr with hold | rfl
    · exact ⟨r, hold, hpc⟩
    · simp at hpc
  · intro h
    obtain ⟨r, hr, hpc⟩ := h
    exact ⟨r, (List.getElem?_append_left (TakenEffect.lt ⟨r, hr, hpc⟩)).trans hr, hpc⟩

theorem inTurn_arrive {outcome : ℕ → Fork} {order : List ℕ}
    (h : ∀ i ∈ order, i < p.requests.length) :
    inTurn { p with requests := p.requests ++ [⟨name, .filter⟩] } outcome order =
      p.inTurn outcome order := by
  refine List.map_congr_left fun i hi ↦ ?_
  simp only [nameOf, List.getElem?_append_left (h i hi)]

/-- The filter decides alone where a handler goes. -/
theorem step_filter {threads k : ℕ} {o : Fork} (hk : p.requests[k]? = some ⟨name, .filter⟩) :
    step threads p (.advance k o) =
      some (p.update p.service k ⟨name, if Accepted name then .lookUp else .returned⟩) := by
  simp [step, hk, Request.advance]

end Arrive

/-- Only the arrival of a request is compared with what has returned before. -/
theorem returnedBefore_snoc {threads : ℕ} {actions : List Action} {a : Action} {i j : ℕ} :
    ReturnedBefore threads (actions ++ [a]) i j ↔
      ReturnedBefore threads actions i j ∨ ∃ name p, a = .arrive name ∧
        run (step threads) start actions = some p ∧ j = p.requests.length ∧
        ∃ r, p.requests[i]? = some r ∧ r.pc = .returned := by
  constructor
  · intro h
    obtain ⟨first, name, rest, p, hactions, hrun, hj, hr⟩ := h
    rcases List.eq_nil_or_concat rest with rfl | ⟨init, last, rfl⟩
    · obtain ⟨rfl, hlast⟩ := List.append_inj' hactions rfl
      cases hlast
      exact .inr ⟨name, p, rfl, hrun, hj, hr⟩
    · rw [List.concat_eq_append, ← List.cons_append, ← List.append_assoc] at hactions
      obtain ⟨rfl, -⟩ := List.append_inj' hactions rfl
      exact .inl ⟨first, name, init, p, rfl, hrun, hj, hr⟩
  · intro h
    rcases h with ⟨first, name, rest, p, rfl, hrun, hj, hr⟩ | ⟨name, p, rfl, hrun, hj, hr⟩
    · exact ⟨first, name, rest ++ [a], p, by simp, hrun, hj, hr⟩
    · exact ⟨actions, name, [], p, rfl, hrun, hj, hr⟩

theorem returnedBefore_advance {threads : ℕ} {actions : List Action} {k : ℕ} {o : Fork} {i j : ℕ} :
    ReturnedBefore threads (actions ++ [.advance k o]) i j ↔
      ReturnedBefore threads actions i j := by
  rw [returnedBefore_snoc]
  refine or_iff_left ?_
  rintro ⟨name, p, h, -⟩
  cases h

namespace Ordered

variable {threads : ℕ} {actions : List Action} {p : Pool} {order : List ℕ} {outcome : ℕ → Fork}
  (h : Ordered threads actions p order outcome)

include h

section Advance

variable {k : ℕ} {name : Name} {pc next : Pc} {service : System} {o : Fork}
  (hk : p.requests[k]? = some ⟨name, pc⟩)

include hk

/-- A handler that goes on without taking effect. -/
theorem goes_on (hpc : pc ≠ .fork ∧ pc ≠ .returned) (hnext : next ≠ .fork ∧ next ≠ .returned)
    (haccepted : Accepted name) :
    Ordered threads (actions ++ [.advance k o]) (p.update p.service k ⟨name, next⟩) order outcome
    where
  nodup := h.nodup
  mem_iff i := by
    rw [h.mem_iff]
    by_cases hi : i = k
    · subst hi
      rw [takenEffect_iff hk, takenEffect_update_self hk]
      simp [hpc, hnext]
    · rw [takenEffect_update_of_ne hk hi]
  like := by
    rw [inTurn_update hk]
    exact h.like
  accepted r hr hlooking := by
    rcases mem_update hr with hold | rfl
    · exact h.accepted r hold hlooking
    · exact haccepted
  forking i r hr hfork := by
    rw [getElem?_update hk] at hr
    split_ifs at hr with hi
    · cases hr
      exact absurd hfork hnext.1
    · simp only [inTurn_update hk]
      exact h.forking i r hr hfork
  inTime i j hij := by
    rw [length_update]
    exact h.inTime i j (returnedBefore_advance.mp hij)

/-- A request takes effect, its `fork` put down as failed. -/
theorem takes_effect (hpc : pc ≠ .fork ∧ pc ≠ .returned) (hnext : next = .fork ∨ next = .returned)
    (hservice : service.Like (p.service.StartApp name .failed))
    (hstarts : next = .fork → p.service.Starts name) :
    Ordered threads (actions ++ [.advance k o]) (p.update service k ⟨name, next⟩) (order ++ [k])
      (Function.update outcome k .failed) := by
  have hnew : k ∉ order := by
    rw [h.mem_iff, takenEffect_iff hk]
    simp [hpc]
  have hold : ∀ part, k ∉ part → (p.update service k ⟨name, next⟩).inTurn
      (Function.update outcome k .failed) part = p.inTurn outcome part := by
    intro part hpart
    rw [inTurn_update hk, inTurn_update_outcome hpart]
  constructor
  · exact h.nodup.append (List.nodup_singleton k) (List.disjoint_singleton.mpr hnew)
  · intro i
    rw [List.mem_append, List.mem_singleton, h.mem_iff]
    by_cases hi : i = k
    · subst hi
      simp [takenEffect_update_self hk, hnext]
    · simp [takenEffect_update_of_ne hk hi, hi]
  · have hlast : (p.update service k ⟨name, next⟩).inTurn (Function.update outcome k .failed) [k] =
        [(name, .failed)] := by
      rw [inTurn_update hk]
      simp [inTurn, nameOf_eq hk]
    have happend : (p.update service k ⟨name, next⟩).inTurn (Function.update outcome k .failed)
        (order ++ [k]) = p.inTurn outcome order ++ [(name, .failed)] := by
      rw [← hold order hnew, ← hlast]
      exact List.map_append
    rw [happend, System.handle_append, System.handle_singleton]
    exact hservice.trans (h.like.StartApp name .failed)
  · intro r hr hlooking
    rcases mem_update hr with hold | rfl
    · exact h.accepted r hold hlooking
    · rcases hnext with rfl | rfl
      · simp at hlooking
      · simp at hlooking
  · intro i r hr hfork
    rw [getElem?_update hk] at hr
    split_ifs at hr with hi
    · cases hr
      subst hi
      refine ⟨Function.update_self _ _ _, order, [], rfl, ?_⟩
      rw [hold order hnew, System.starts_congr h.like.m_client_list.symm]
      exact hstarts hfork
    · obtain ⟨hfailed, before, after, heq, hbefore⟩ := h.forking i r hr hfork
      refine ⟨?_, before, after ++ [k], by simp [heq], ?_⟩
      · rw [Function.update_of_ne hi]
        exact hfailed
      · rw [hold before fun hmem ↦ hnew (heq ▸ List.mem_append_left _ hmem)]
        exact hbefore
  · intro i j hij
    obtain ⟨hi, hlt, hj⟩ := h.inTime i j (returnedBefore_advance.mp hij)
    refine ⟨List.mem_append_left _ hi, length_update.symm ▸ hlt, fun hmem ↦ ?_⟩
    rcases List.mem_append.mp hmem with hmem | hmem
    · exact (hj hmem).trans (List.sublist_append_left _ _)
    · rw [List.mem_singleton.mp hmem]
      exact (List.singleton_sublist.mpr hi).append (List.Sublist.refl [k])

/-- The outcome of a fork becomes known. -/
theorem forks (hpc : pc = .fork) :
    Ordered threads (actions ++ [.advance k o])
      (p.update (p.service.fork name o) k ⟨name, .returned⟩) order
      (Function.update outcome k o) := by
  subst hpc
  obtain ⟨hfailed, before, after, heq, hbefore⟩ := h.forking k _ hk rfl
  have hlist : ∀ part, ((p.update (p.service.fork name o) k ⟨name, .returned⟩).inTurn
      (Function.update outcome k o) part) = p.inTurn (Function.update outcome k o) part :=
    fun part ↦ inTurn_update hk _ part
  constructor
  · exact h.nodup
  · intro i
    rw [h.mem_iff]
    by_cases hi : i = k
    · subst hi
      simp [takenEffect_iff hk, takenEffect_update_self hk]
    · rw [takenEffect_update_of_ne hk hi]
  · have hnodup := h.nodup
    rw [heq] at hnodup
    have hapart : k ∉ before ++ after := (List.nodup_middle.mp hnodup).notMem
    rw [List.mem_append, not_or] at hapart
    have hsplit : ∀ outcome', p.inTurn outcome' order =
        p.inTurn outcome' before ++ (name, outcome' k) :: p.inTurn outcome' after := by
      intro outcome'
      simp [heq, inTurn, nameOf_eq hk]
    -- before its outcome was known, the request only pushed its name back
    have hlike : p.service.Like (((System.start.handle (p.inTurn outcome before)).push_back
        name).handle (p.inTurn outcome after)) := by
      have hpushed := h.like
      rw [hsplit, hfailed, System.handle_append] at hpushed
      change p.service.Like (System.handle (System.StartApp _ name .failed) _) at hpushed
      rw [System.StartApp_of_starts hbefore] at hpushed
      exact hpushed
    rw [hlist, hsplit, inTurn_update_outcome hapart.1, inTurn_update_outcome hapart.2,
      Function.update_self, System.handle_append]
    change (p.service.fork name o).Like (System.handle (System.StartApp _ name o) _)
    rw [System.StartApp_of_starts hbefore]
    exact (hlike.fork name o).trans (System.like_handle_fork _ name o _).symm
  · intro r hr hlooking
    rcases mem_update hr with hold | rfl
    · exact h.accepted r hold hlooking
    · simp at hlooking
  · intro i r hr hfork
    rw [getElem?_update hk] at hr
    split_ifs at hr with hi
    · cases hr
      cases hfork
    · obtain ⟨hfailed', before', after', heq', hbefore'⟩ := h.forking i r hr hfork
      refine ⟨?_, before', after', heq', ?_⟩
      · rw [Function.update_of_ne hi]
        exact hfailed'
      · rw [hlist, System.starts_congr]
        · exact hbefore'
        · exact System.handle_m_client_list_congr p.nameOf _ _ before' rfl
  · intro i j hij
    rw [length_update]
    exact h.inTime i j (returnedBefore_advance.mp hij)

end Advance

/-- A request that arrives has not taken effect yet. -/
theorem arrives (hrun : run (step threads) start actions = some p) (name : Name) :
    Ordered threads (actions ++ [.arrive name])
      { p with requests := p.requests ++ [⟨name, .filter⟩] } order outcome := by
  have htaken : ∀ i, TakenEffect { p with requests := p.requests ++ [⟨name, .filter⟩] } i ↔
      p.TakenEffect i := fun i ↦ takenEffect_arrive
  have hlt : ∀ i ∈ order, i < p.requests.length := fun i hi ↦ ((h.mem_iff i).mp hi).lt
  constructor
  · exact h.nodup
  · intro i
    rw [htaken]
    exact h.mem_iff i
  · rw [inTurn_arrive hlt]
    exact h.like
  · intro r hr hlooking
    rcases List.mem_append.mp hr with hold | hlast
    · exact h.accepted r hold hlooking
    · rw [List.mem_singleton.mp hlast] at hlooking
      simp at hlooking
  · intro i r hr hfork
    have hold : p.requests[i]? = some r := by
      rcases getElem?_arrive hr with hold | rfl
      · exact hold
      · cases hfork
    obtain ⟨hfailed, before, after, heq, hbefore⟩ := h.forking i r hold hfork
    refine ⟨hfailed, before, after, heq, ?_⟩
    rw [inTurn_arrive fun j hj ↦ hlt j (heq ▸ List.mem_append_left _ hj)]
    exact hbefore
  · intro i j hij
    rw [List.length_append, List.length_singleton]
    rcases returnedBefore_snoc.mp hij with hbefore | ⟨name', p', ha, hrun', hj, r, hr, hreturned⟩
    · obtain ⟨hi, hj, hsublist⟩ := h.inTime i j hbefore
      exact ⟨hi, by omega, hsublist⟩
    · cases hrun.symm.trans hrun'
      refine ⟨(h.mem_iff i).mpr ⟨r, hr, .inr hreturned⟩, by omega, fun hmem ↦ ?_⟩
      have := hlt j hmem
      omega

end Ordered

theorem ordered_start {threads : ℕ} : Ordered threads [] start [] fun _ ↦ .failed where
  nodup := List.nodup_nil
  mem_iff i := by simp [TakenEffect, start]
  like := .refl _
  accepted r hr := absurd hr List.not_mem_nil
  forking i r hr := by simp [start] at hr
  inTime i j hij := by
    obtain ⟨first, name, rest, p, hnil, -⟩ := hij
    simp at hnil

/-- Every step keeps the order or extends it, as long as no name is claimed twice. -/
theorem exists_ordered_step {threads : ℕ} {actions : List Action} {p q : Pool} {a : Action}
    {order : List ℕ} {outcome : ℕ → Fork} (h : Ordered threads actions p order outcome)
    (hrun : run (step threads) start actions = some p) (hclaimed : p.claimed.Nodup)
    (hstep : step threads p a = some q) :
    ∃ order outcome, Ordered threads (actions ++ [a]) q order outcome := by
  rcases step_cases hstep with ⟨name, rfl, rfl⟩ |
    ⟨k, o, name, pc, next, rfl, hk, rfl, ⟨rfl, -⟩ | ⟨rfl, hlisted, rfl⟩⟩ |
    ⟨k, o, name, rfl, hk, hnew, rfl⟩ | ⟨k, o, name, rfl, hk, rfl⟩ | ⟨k, o, name, rfl, hk, rfl⟩
  · exact ⟨order, outcome, h.arrives hrun name⟩
  · rw [step_filter hk, Option.some.injEq] at hstep
    rw [← hstep]
    by_cases haccepted : Accepted name
    · rw [if_pos haccepted]
      exact ⟨order, outcome, h.goes_on hk (by simp) (by simp) haccepted⟩
    · rw [if_neg haccepted]
      refine ⟨_, _, h.takes_effect hk (by simp) (.inr rfl) ?_ Pc.noConfusion⟩
      rw [System.StartApp_rejected haccepted]
      exact .refl _
  · refine ⟨_, _, h.takes_effect hk (by simp) (.inr rfl) ?_ Pc.noConfusion⟩
    rw [System.StartApp_listed hlisted]
    exact .refl _
  · have haccepted := h.accepted _ (List.mem_of_getElem? hk) (.inl rfl)
    exact ⟨order, outcome, h.goes_on hk (by simp) (by simp) haccepted⟩
  · have haccepted := h.accepted _ (List.mem_of_getElem? hk) (.inr rfl)
    have hnew : name ∉ p.service.m_client_list := by
      intro hlisted
      apply Multiset.disjoint_left.mp (Multiset.nodup_add.mp hclaimed).2.2 hlisted
      exact mem_namesAt.mpr ⟨_, List.mem_of_getElem? hk, rfl, rfl⟩
    have hstarts : p.service.Starts name := ⟨haccepted, hnew⟩
    refine ⟨_, _, h.takes_effect hk (by simp) (.inl rfl) ?_ fun _ ↦ hstarts⟩
    rw [System.StartApp_of_starts hstarts]
    exact .refl _
  · exact ⟨order, _, h.forks hk rfl⟩

theorem exists_ordered {threads : ℕ} {actions : List Action} {p : Pool}
    (hrun : run (step threads) start actions = some p) (hclaimed : p.claimed.Nodup) :
    ∃ order outcome, Ordered threads actions p order outcome := by
  induction actions using List.reverseRecOn generalizing p with
  | nil =>
    cases hrun
    exact ⟨[], _, ordered_start⟩
  | append_singleton actions a ih =>
    obtain ⟨q, hq, hstep⟩ := run_snoc_eq_some.mp hrun
    obtain ⟨hbefore, -⟩ := (claimed_nodup_step_iff hstep).mp hclaimed
    obtain ⟨order, outcome, h⟩ := ih hq hbefore
    exact exists_ordered_step h hq hbefore hstep

theorem claimed_of_quiet {p : Pool} (h : p.Quiet) : p.claimed = ↑p.service.m_client_list := by
  have hnone : p.namesAt .insert = 0 := by
    refine Multiset.eq_zero_of_forall_notMem fun name hname ↦ ?_
    obtain ⟨r, hr, hpc, -⟩ := mem_namesAt.mp hname
    cases (h r hr).symm.trans hpc
  rw [claimed, hnone, add_zero]

/-- Over every run of the pool that is at rest: what the handlers have done together is what they
would have done one after the other, in an order that keeps to the order of calls that did not
overlap, exactly when no look-up fell between another handler's look-up and `push_back` of the same
name. -/
theorem linearizable_iff_noOverlap {threads : ℕ} {actions : List Action} {p : Pool}
    (hrun : run (step threads) start actions = some p) (hquiet : p.Quiet) :
    Linearizable threads actions p ↔ StepsAll (step threads) NoOverlap start actions := by
  rw [claimed_nodup_run_iff hrun]
  constructor
  · intro h
    obtain ⟨order, outcome, -, -, hlike⟩ := h
    rw [claimed_of_quiet hquiet, Multiset.coe_nodup, hlike.m_client_list]
    exact System.nodup_handle List.nodup_nil _
  · intro hclaimed
    obtain ⟨order, outcome, h⟩ := exists_ordered hrun hclaimed
    have hmem : ∀ i, i ∈ order ↔ i < p.requests.length := by
      intro i
      rw [h.mem_iff]
      refine ⟨TakenEffect.lt, fun hi ↦ ?_⟩
      have hi' := List.getElem?_eq_getElem hi
      exact ⟨_, hi', .inr (hquiet _ (List.mem_of_getElem? hi'))⟩
    refine ⟨order, outcome, ?_, fun i j hij ↦ ?_, h.like⟩
    · rw [List.perm_ext_iff_of_nodup h.nodup List.nodup_range]
      intro i
      rw [hmem, List.mem_range]
    · obtain ⟨-, hj, hsublist⟩ := h.inTime i j hij
      exact hsublist ((hmem j).mpr hj)

theorem linearizable_lookUpAfterPushBack :
    Linearizable 4 (lookUpAfterPushBack ++ [.advance 0 (.child true)])
      ⟨⟨[appFilter], [appFilter], [appFilter], 0⟩,
        [⟨appFilter, .returned⟩, ⟨appFilter, .returned⟩]⟩ := by
  have hrun : run (step 4) start (lookUpAfterPushBack ++ [.advance 0 (.child true)]) =
      some ⟨⟨[appFilter], [appFilter], [appFilter], 0⟩,
        [⟨appFilter, .returned⟩, ⟨appFilter, .returned⟩]⟩ := by decide
  apply (linearizable_iff_noOverlap hrun (by decide)).mpr
  exact (claimed_nodup_run_iff hrun).mpr (by decide)

end Pool

end WLManager.Service
