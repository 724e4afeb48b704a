import WLManager.Service.BinderPool

/-!
# At most one client per application

Two handlers for one name may both find it absent before either pushes it back; then both push it
back and both fork. The list and the forked clients stay free of duplicates exactly in the runs
where no handler looks a name up while another one is between its look-up and its `push_back` for
the same name, which is what a lock around the two would enforce.

The invariant is that no name is claimed twice. Every other step passes claims on without adding
one, and a client is only ever forked for a listed name.
-/

namespace WLManager.Service.Pool

open Transition

/-- No name is listed twice, and no two clients were forked for one name. -/
def AtMostOnce (p : Pool) : Prop := p.service.m_client_list.Nodup ∧ p.service.forked.Nodup

/-- A look-up does not fall between another handler's look-up and `push_back` of the same name. -/
def NoOverlap (p : Pool) : Action → Prop
  | .arrive _ => True
  | .advance index _ => ∀ r, p.requests[index]? = some r → r.pc = .lookUp →
      ∀ other ∈ p.requests, other.pc = .insert → other.name ≠ r.name

/-- A step of a handler that has already looked its name up. -/
def Finishing (p : Pool) : Action → Prop
  | .arrive _ => False
  | .advance index _ => ∀ r, p.requests[index]? = some r → r.pc = .insert ∨ r.pc = .fork

/-- Every client forked, and every one about to be, has its name in the list. -/
def ForkedListed (p : Pool) : Prop :=
  (p.service.forked + p.namesAt .fork : Multiset Name) ≤ p.service.m_client_list

theorem noOverlap_of_finishing {p : Pool} {a : Action} (h : p.Finishing a) : p.NoOverlap a := by
  cases a with
  | arrive name => trivial
  | advance index outcome =>
    intro r hr hpc
    rcases h r hr with hinsert | hfork
    · exact absurd (hpc.symm.trans hinsert) Pc.noConfusion
    · exact absurd (hpc.symm.trans hfork) Pc.noConfusion

section Claims

variable {p : Pool} {index : ℕ} {outcome : Fork} {name : Name} {pc : Pc}
  (h : p.requests[index]? = some ⟨name, pc⟩)

include h

theorem noOverlap_of_ne_lookUp (hpc : pc ≠ .lookUp) : p.NoOverlap (.advance index outcome) := by
  intro r hr hlookUp
  rw [h] at hr
  cases hr
  exact absurd hlookUp hpc

theorem noOverlap_lookUp_iff (hpc : pc = .lookUp) :
    p.NoOverlap (.advance index outcome) ↔ name ∉ p.namesAt .insert := by
  subst hpc
  simp [NoOverlap, h, mem_namesAt]

end Claims

section ClaimSteps

variable {p : Pool} {index : ℕ} {outcome : Fork} {name : Name} {pc next : Pc}

theorem claimed_arrive :
    claimed { p with requests := p.requests ++ [⟨name, .filter⟩] } = p.claimed :=
  congrArg (_ + ·) (SlotTable.contents_append_of_free _ rfl _)

/-- A step that is not about `push_back` and keeps the list. -/
theorem claimed_update {service : System} (h : p.requests[index]? = some ⟨name, pc⟩)
    (hlist : service.m_client_list = p.service.m_client_list) (hpc : pc ≠ .insert)
    (hnext : next ≠ .insert) : (p.update service index ⟨name, next⟩).claimed = p.claimed := by
  rw [claimed, claimed, update_service, hlist, namesAt_update_of_ne h hpc hnext]

/-- Finding a name absent claims it. -/
theorem claimed_lookUp (h : p.requests[index]? = some ⟨name, .lookUp⟩) :
    (p.update p.service index ⟨name, .insert⟩).claimed = name ::ₘ p.claimed := by
  calc
    _ = ↑p.service.m_client_list + (p.namesAt .insert + {name}) := by
      rw [claimed, update_service, namesAt_update_enter h Pc.noConfusion]
    _ = {name} + p.claimed := by
      unfold claimed
      rw [← add_assoc, add_comm]
    _ = name ::ₘ p.claimed := Multiset.singleton_add _ _

/-- Pushing a name back turns the handler's claim into the list's. -/
theorem claimed_insert (h : p.requests[index]? = some ⟨name, .insert⟩) :
    (p.update (p.service.push_back name) index ⟨name, .fork⟩).claimed = p.claimed := by
  have hleave :
      (p.update (p.service.push_back name) index ⟨name, .fork⟩).namesAt .insert + {name} =
        p.namesAt .insert := namesAt_update_leave h Pc.noConfusion
  calc
    _ = (↑p.service.m_client_list + {name}) +
        (p.update (p.service.push_back name) index ⟨name, .fork⟩).namesAt .insert := by
      rw [claimed, update_service, System.push_back_m_client_list, ← Multiset.coe_add,
        Multiset.coe_singleton]
    _ = ↑p.service.m_client_list + p.namesAt .insert := by
      rw [← hleave]
      abel

end ClaimSteps

/-- One step: no name is claimed twice after it exactly when none was before it and the step does
not overlap another handler's claim. -/
theorem claimed_nodup_step_iff {threads : ℕ} {p q : Pool} {a : Action}
    (h : step threads p a = some q) :
    q.claimed.Nodup ↔ p.claimed.Nodup ∧ p.NoOverlap a := by
  rcases step_cases h with ⟨name, rfl, rfl⟩ |
    ⟨index, outcome, name, pc, next, rfl, hr, rfl, hpc⟩ |
    ⟨index, outcome, name, rfl, hr, hnew, rfl⟩ | ⟨index, outcome, name, rfl, hr, rfl⟩ |
    ⟨index, outcome, name, rfl, hr, rfl⟩
  · rw [claimed_arrive]
    exact (and_iff_left trivial).symm
  · have hsame : (p.update p.service index ⟨name, next⟩).claimed = p.claimed := by
      apply claimed_update hr rfl
      all_goals rcases hpc with ⟨rfl, rfl | rfl⟩ | ⟨rfl, -, rfl⟩ <;> exact Pc.noConfusion
    rw [hsame]
    refine (and_iff_left_of_imp fun hnodup ↦ ?_).symm
    rcases hpc with ⟨rfl, -⟩ | ⟨rfl, hlisted, -⟩
    · exact noOverlap_of_ne_lookUp hr Pc.noConfusion
    · -- a listed name is not claimed by another handler as well
      rw [noOverlap_lookUp_iff hr rfl]
      exact Multiset.disjoint_left.mp (Multiset.nodup_add.mp hnodup).2.2 hlisted
  · rw [claimed_lookUp hr, Multiset.nodup_cons, noOverlap_lookUp_iff hr rfl, and_comm, claimed,
      Multiset.mem_add, not_or]
    exact and_congr_right fun _ ↦ and_iff_right hnew
  · rw [claimed_insert hr]
    exact (and_iff_left (noOverlap_of_ne_lookUp hr Pc.noConfusion)).symm
  · rw [claimed_update hr (System.fork_m_client_list p.service name outcome) Pc.noConfusion
      Pc.noConfusion]
    exact (and_iff_left (noOverlap_of_ne_lookUp hr Pc.noConfusion)).symm

/-- A whole run: no name is claimed twice at its end exactly when no step of it overlapped. -/
theorem claimed_nodup_run_iff {threads : ℕ} {actions : List Action} {p : Pool}
    (hrun : run (step threads) start actions = some p) :
    StepsAll (step threads) NoOverlap start actions ↔ p.claimed.Nodup := by
  have hstep : ∀ p a q, True → True → step threads p a = some q →
      True ∧ (q.claimed.Nodup ↔ p.claimed.Nodup ∧ p.NoOverlap a) :=
    fun p a q _ _ h ↦ ⟨trivial, claimed_nodup_step_iff h⟩
  exact stepsAll_iff_end hstep trivial Multiset.nodup_zero stepsAll_true
    hrun

/-! ## Forked clients -/

theorem forkedListed_start : start.ForkedListed := le_rfl

theorem forkedListed_step {threads : ℕ} {p q : Pool} {a : Action} (hp : p.ForkedListed)
    (h : step threads p a = some q) : q.ForkedListed := by
  unfold ForkedListed at hp ⊢
  rcases step_cases h with ⟨name, rfl, rfl⟩ |
    ⟨index, outcome, name, pc, next, rfl, hr, rfl, hpc⟩ |
    ⟨index, outcome, name, rfl, hr, hnew, rfl⟩ | ⟨index, outcome, name, rfl, hr, rfl⟩ |
    ⟨index, outcome, name, rfl, hr, rfl⟩
  · rw [namesAt, SlotTable.contents_append_of_free _ rfl]
    exact hp
  · rw [update_service, namesAt_update_of_ne hr]
    · exact hp
    all_goals rcases hpc with ⟨rfl, rfl | rfl⟩ | ⟨rfl, -, rfl⟩ <;> exact Pc.noConfusion
  · rw [update_service, namesAt_update_of_ne hr Pc.noConfusion Pc.noConfusion]
    exact hp
  · rw [update_service, namesAt_update_enter hr Pc.noConfusion, ← add_assoc,
      System.push_back_m_client_list, ← Multiset.coe_add, Multiset.coe_singleton]
    exact add_le_add_left hp {name}
  · have hleave : (p.update (p.service.fork name outcome) index ⟨name, .returned⟩).namesAt .fork +
        {name} = p.namesAt .fork := namesAt_update_leave hr Pc.noConfusion
    rw [← hleave, ← add_assoc] at hp
    rw [update_service, System.fork_m_client_list]
    refine le_trans ?_ hp
    rw [add_right_comm]
    refine add_le_add_left ?_ _
    rcases outcome with _ | _ | _
    · exact Multiset.le_add_right _ _
    · exact (Multiset.coe_add _ _).ge
    · exact (Multiset.coe_add _ _).ge

theorem atMostOnce_of_claimed {p : Pool} (hclaimed : p.claimed.Nodup) (hforked : p.ForkedListed) :
    p.AtMostOnce := by
  have hlist : (p.service.m_client_list : Multiset Name).Nodup :=
    Multiset.nodup_of_le (Multiset.le_add_right _ _) hclaimed
  refine ⟨Multiset.coe_nodup.mp hlist, Multiset.coe_nodup.mp ?_⟩
  exact Multiset.nodup_of_le ((Multiset.le_add_right _ _).trans hforked) hlist

/-- A condition under which every state a run visits is good. -/
theorem statesAll_atMostOnce {threads : ℕ} {actions : List Action}
    (h : StepsAll (step threads) NoOverlap start actions) :
    StatesAll (step threads) AtMostOnce start actions := by
  have hstep : ∀ p a q, p.claimed.Nodup ∧ p.ForkedListed → p.NoOverlap a →
      step threads p a = some q → q.claimed.Nodup ∧ q.ForkedListed :=
    fun p a q hp ha hq ↦
      ⟨(claimed_nodup_step_iff hq).mpr ⟨hp.1, ha⟩, forkedListed_step hp.2 hq⟩
  have hstart : start.claimed.Nodup ∧ start.ForkedListed :=
    ⟨Multiset.nodup_zero, forkedListed_start⟩
  refine (statesAll_of_stepsAll hstep hstart h).mono ?_
  exact fun p hp ↦ atMostOnce_of_claimed hp.1 hp.2

/-! ## Letting the handlers finish -/

/-- The handlers that hold a claim can all push their names back. -/
theorem exists_finishing (threads : ℕ) (p : Pool) :
    ∃ rest q, StepsAll (step threads) Finishing p rest ∧
      run (step threads) p rest = some q ∧
        (q.service.m_client_list : Multiset Name) = p.claimed := by
  induction hcount : (p.namesAt .insert).card generalizing p with
  | zero =>
    refine ⟨[], p, trivial, rfl, ?_⟩
    rw [claimed, Multiset.card_eq_zero.mp hcount, add_zero]
  | succ count ih =>
    have hpos : 0 < (p.namesAt .insert).card := by omega
    obtain ⟨name, hname⟩ := Multiset.card_pos_iff_exists_mem.mp hpos
    obtain ⟨⟨other, pc⟩, hmem, rfl, rfl⟩ := mem_namesAt.mp hname
    obtain ⟨index, hindex⟩ := List.mem_iff_getElem?.mp hmem
    let next := p.update (p.service.push_back other) index ⟨other, .fork⟩
    have hstep : step threads p (.advance index .failed) = some next := by
      simp [step, hindex, Request.advance, next]
    have hleave : next.namesAt .insert + {other} = p.namesAt .insert :=
      namesAt_update_leave hindex Pc.noConfusion
    have hnext : (next.namesAt .insert).card = count := by
      rw [← hleave, Multiset.card_add, Multiset.card_singleton] at hcount
      omega
    obtain ⟨rest, q, hfinishing, hrun, hlist⟩ := ih next hnext
    refine ⟨.advance index .failed :: rest, q, ⟨?_, ?_⟩, ?_, ?_⟩
    · intro r hr
      cases hindex.symm.trans hr
      exact .inl rfl
    · intro t ht
      cases hstep.symm.trans ht
      exact hfinishing
    · rw [run_cons, hstep, Option.bind_some, hrun]
    · rw [hlist, claimed_insert hindex]

/-- Over every run of the pool: `m_client_list` names nothing twice and no name gets two clients,
however the handlers under way finish, exactly when no look-up fell between another handler's
look-up and `push_back` of the same name. -/
theorem atMostOnce_iff_noOverlap {threads : ℕ} {actions : List Action} {p : Pool}
    (hrun : run (step threads) start actions = some p) :
    StepsAll (step threads) NoOverlap start actions ↔
      ∀ rest, StepsAll (step threads) Finishing p rest →
        StatesAll (step threads) AtMostOnce start (actions ++ rest) := by
  constructor
  · intro h rest hrest
    apply statesAll_atMostOnce
    rw [stepsAll_append, hrun]
    refine ⟨h, fun t ht ↦ ?_⟩
    cases ht
    exact hrest.mono fun _ _ ↦ noOverlap_of_finishing
  · intro h
    obtain ⟨rest, q, hfinishing, hq, hlist⟩ := exists_finishing threads p
    have hend : run (step threads) start (actions ++ rest) = some q := by
      rw [run_append, hrun, Option.bind_some, hq]
    have honce := statesAll_iff_prefix.mp (h rest hfinishing) _ (List.prefix_refl _) q hend
    rw [claimed_nodup_run_iff hrun, ← hlist]
    exact Multiset.coe_nodup.mpr honce.1

/-- A second request that looks the name up once the first one has pushed it back. -/
def lookUpAfterPushBack : List Action :=
  [.arrive appFilter, .advance 0 (.child true), .advance 0 (.child true),
    .advance 0 (.child true), .arrive appFilter, .advance 1 (.child true),
    .advance 1 (.child true)]

theorem run_lookUpAfterPushBack :
    run (step 4) start lookUpAfterPushBack =
      some ⟨⟨[appFilter], [], [], 0⟩, [⟨appFilter, .fork⟩, ⟨appFilter, .returned⟩]⟩ := by
  decide

theorem atMostOnce_lookUpAfterPushBack :
    StatesAll (step 4) AtMostOnce start (lookUpAfterPushBack ++ [.advance 0 (.child true)]) := by
  have honce := (atMostOnce_iff_noOverlap run_lookUpAfterPushBack).mp
    ((claimed_nodup_run_iff run_lookUpAfterPushBack).mpr (by decide))
  apply honce
  refine ⟨fun r hr ↦ ?_, fun _ _ ↦ trivial⟩
  cases hr
  exact .inr rfl

/-- Two handlers for one name that both look it up before either pushes it back. -/
def bothLookUp : List Action :=
  [.arrive appFilter, .arrive appFilter, .advance 0 (.child true), .advance 1 (.child true),
    .advance 0 (.child true), .advance 1 (.child true), .advance 0 (.child true),
    .advance 1 (.child true), .advance 0 (.child true), .advance 1 (.child true)]

/-- In the pool of four threads that `main` asks for, the name is listed twice and gets two
clients. -/
theorem not_atMostOnce_bothLookUp : ¬ StatesAll (step 4) AtMostOnce start bothLookUp := by
  intro h
  have hend : run (step 4) start bothLookUp =
      some ⟨⟨[appFilter, appFilter], [appFilter, appFilter], [appFilter, appFilter], 0⟩,
        [⟨appFilter, .returned⟩, ⟨appFilter, .returned⟩]⟩ := by decide
  have honce := statesAll_iff_prefix.mp h _ (List.prefix_refl _) _ hend
  exact absurd honce.1 (by decide)

end WLManager.Service.Pool
