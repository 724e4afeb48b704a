import Mathlib.Data.List.Infix
import Mathlib.Data.Nat.Notation

/-!
# Histories of requests on objects

A client of a message protocol issues requests on objects that earlier requests created. Its
history is the list of requests in the order in which they were issued, each with the answer
whether an object was created where one was asked for. An object is named by the position of the
entry that created it, so no two entries ever create the same object and a name means the same in
every extension of a history.

A `Signature` says of each request which objects it uses and as what kind, which kind of object it
creates, which object it destroys and whether it closes the connection. A pointer is live while
its object has been created with the right kind and not been destroyed, on a connection that has
not been closed. A history is sound when every request in it used live pointers only. `Always` is
the general form of such a property, in which every request is judged by what came before it.
-/

namespace WLManager.History

/-- The value of a pointer variable, which may never have been written. -/
inductive Ptr
  | null
  | indeterminate
  | obj (id : ℕ)
  deriving DecidableEq

/-- What the requests of a protocol do to its objects. -/
class Signature (ρ : Type*) (κ : outParam Type*) where
  uses : ρ → List (κ × Ptr)
  constructs : ρ → Option κ
  destroys : ρ → Option (κ × Ptr)
  closes : ρ → Bool
  destroys_uses : ∀ r u, destroys r = some u → u ∈ uses r
  closes_uses : ∀ r, closes r = true → uses r ≠ []

/-- A request, and whether the object it asks for was created. -/
structure Entry (ρ : Type*) where
  request : ρ
  created : Bool
  deriving DecidableEq

section Always

variable {ρ : Type*} {good : List (Entry ρ) → ρ → Prop} {log more : List (Entry ρ)} {e : Entry ρ}

/-- Every request of a history is good after the requests before it. -/
def Always (good : List (Entry ρ) → ρ → Prop) (log : List (Entry ρ)) : Prop :=
  ∀ before e after, log = before ++ e :: after → good before e.request

theorem always_nil : Always good [] := by
  intro before e after h
  exact absurd h.symm (List.append_ne_nil_of_right_ne_nil _ (List.cons_ne_nil _ _))

theorem Always.of_append (h : Always good (log ++ more)) : Always good log := by
  intro before e after hlog
  apply h before e (after ++ more)
  rw [hlog, List.append_assoc, List.cons_append]

theorem always_append_singleton :
    Always good (log ++ [e]) ↔ Always good log ∧ good log e.request := by
  refine ⟨fun h ↦ ⟨h.of_append, h log e [] rfl⟩, ?_⟩
  rintro ⟨hlog, hgood⟩ before e' after heq
  rcases List.eq_nil_or_concat after with rfl | ⟨init, last, rfl⟩
  · obtain ⟨rfl, hlast⟩ := List.append_inj' heq rfl
    cases hlast
    exact hgood
  · rw [List.concat_eq_append, ← List.cons_append, ← List.append_assoc] at heq
    obtain ⟨rfl, -⟩ := List.append_inj' heq rfl
    exact hlog before e' init rfl

/-- Requests that are good after every continuation of a history may be added to it. -/
theorem Always.append (h : Always good log)
    (hmore : ∀ past, log <+: past → ∀ e ∈ more, good past e.request) :
    Always good (log ++ more) := by
  induction more using List.reverseRecOn with
  | nil =>
    rw [List.append_nil]
    exact h
  | append_singleton more e ih =>
    rw [← List.append_assoc, always_append_singleton]
    refine ⟨ih fun past hpast e' he' ↦ hmore past hpast e' (List.mem_append_left _ he'), ?_⟩
    exact hmore _ (List.prefix_append _ _) e (List.mem_append_right _ (List.mem_singleton_self e))

end Always

open Signature

variable {ρ κ : Type*} [Signature ρ κ]

/-- The connection has not been closed. -/
def Open (log : List (Entry ρ)) : Prop := ∀ e ∈ log, closes e.request = false

/-- The object was created with this kind. -/
def Created (log : List (Entry ρ)) (kind : κ) (id : ℕ) : Prop :=
  ∃ e, log[id]? = some e ∧ e.created = true ∧ constructs e.request = some kind

/-- The pointer may be used as one to an object of this kind. -/
structure Live (log : List (Entry ρ)) (kind : κ) (p : Ptr) : Prop where
  created : ∃ id, p = .obj id ∧ Created log kind id
  kept : ∀ e ∈ log, destroys e.request ≠ some (kind, p)
  connected : Open log

/-- Everything the request uses is live. -/
def Usable (log : List (Entry ρ)) (r : ρ) : Prop := ∀ u ∈ uses r, Live log u.1 u.2

/-- Every request was usable when it was issued. -/
def Sound (log : List (Entry ρ)) : Prop := Always Usable log

theorem open_append {first second : List (Entry ρ)} :
    Open (first ++ second) ↔ Open first ∧ Open second := by
  simp only [Open, List.forall_mem_append]

theorem Created.append {log : List (Entry ρ)} {kind : κ} {id : ℕ} (h : Created log kind id)
    (more : List (Entry ρ)) : Created (log ++ more) kind id := by
  obtain ⟨e, he, hcreated⟩ := h
  obtain ⟨hlt, -⟩ := List.getElem?_eq_some_iff.mp he
  exact ⟨e, by rw [List.getElem?_append_left hlt, he], hcreated⟩

theorem Created.lt_length {log : List (Entry ρ)} {kind : κ} {id : ℕ} (h : Created log kind id) :
    id < log.length := by
  obtain ⟨e, he, -⟩ := h
  exact (List.getElem?_eq_some_iff.mp he).1

/-- The entry after a history creates the object named by the length of the history. -/
theorem created_length {log : List (Entry ρ)} {e : Entry ρ} {kind : κ} (hcreated : e.created = true)
    (hkind : constructs e.request = some kind) : Created (log ++ [e]) kind log.length :=
  ⟨e, List.getElem?_concat_length, hcreated, hkind⟩

/-- What a continuation creates is named by positions behind the history. -/
theorem created_append_iff {log more : List (Entry ρ)} {kind : κ} {id : ℕ} :
    Created (log ++ more) kind id ↔
      Created log kind id ∨ ∃ i, id = log.length + i ∧ Created more kind i := by
  constructor
  · rintro ⟨e, he, hcreated⟩
    rcases lt_or_ge id log.length with hlt | hge
    · rw [List.getElem?_append_left hlt] at he
      exact .inl ⟨e, he, hcreated⟩
    · rw [List.getElem?_append_right hge] at he
      exact .inr ⟨id - log.length, (Nat.add_sub_cancel' hge).symm, e, he, hcreated⟩
  · rintro (h | ⟨i, rfl, e, he, hcreated⟩)
    · exact h.append more
    · refine ⟨e, ?_, hcreated⟩
      rw [List.getElem?_append_right (Nat.le_add_right _ _), Nat.add_sub_cancel_left, he]

/-- An object of a longer history is one of the history before or was created since. -/
theorem Created.of_append {log more : List (Entry ρ)} {kind : κ} {id : ℕ}
    (h : Created (log ++ more) kind id) :
    Created log kind id ∨ log.length ≤ id ∧ ∃ e ∈ more, constructs e.request = some kind := by
  rcases created_append_iff.mp h with hold | ⟨i, rfl, e, he, -, hkind⟩
  · exact .inl hold
  · exact .inr ⟨Nat.le_add_right _ _, e, List.mem_of_getElem? he, hkind⟩

theorem not_created_of_forall {log : List (Entry ρ)} {kind : κ}
    (h : ∀ e ∈ log, constructs e.request ≠ some kind) (id : ℕ) : ¬ Created log kind id := by
  rintro ⟨e, he, -, hkind⟩
  exact h e (List.mem_of_getElem? he) hkind

/-- A continuation in which one request creates an object of a kind. -/
theorem created_append_one {log before after : List (Entry ρ)} {e : Entry ρ} {kind : κ} {id : ℕ}
    (hbefore : ∀ e ∈ before, constructs e.request ≠ some kind)
    (hafter : ∀ e ∈ after, constructs e.request ≠ some kind) (hcreated : e.created = true)
    (hkind : constructs e.request = some kind) :
    Created (log ++ (before ++ e :: after)) kind id ↔
      Created log kind id ∨ id = log.length + before.length := by
  have hone : ∀ i, Created (before ++ e :: after) kind i ↔ i = before.length := by
    intro i
    rw [List.append_cons, created_append_iff, created_append_iff]
    constructor
    · rintro ((h | ⟨j, rfl, e', he', -⟩) | ⟨j, -, h⟩)
      · exact absurd h (not_created_of_forall hbefore i)
      · obtain ⟨hlt, -⟩ := List.getElem?_eq_some_iff.mp he'
        rw [Nat.lt_one_iff.mp hlt, Nat.add_zero]
      · exact absurd h (not_created_of_forall hafter j)
    · rintro rfl
      exact .inl (.inr ⟨0, rfl, e, rfl, hcreated, hkind⟩)
  rw [created_append_iff]
  simp only [hone, exists_eq_right]

/-! ## Objects that exist

Whether or not the connection is still open. -/

/-- The pointer is one to an object of this kind that has been created and not destroyed. -/
structure Extant (log : List (Entry ρ)) (kind : κ) (p : Ptr) : Prop where
  created : ∃ id, p = .obj id ∧ Created log kind id
  kept : ∀ e ∈ log, destroys e.request ≠ some (kind, p)

theorem Extant.obj {log : List (Entry ρ)} {kind : κ} {id : ℕ} (h : Extant log kind (.obj id)) :
    Created log kind id := by
  obtain ⟨id', heq, hid⟩ := h.created
  cases heq
  exact hid

/-- An object that exists did so ever since its creation. -/
theorem Extant.take {log : List (Entry ρ)} {kind : κ} {id i : ℕ} (h : Extant log kind (.obj id))
    (hi : id < i) : Extant (log.take i) kind (.obj id) where
  created := by
    obtain ⟨e, he, hcreated⟩ := h.obj
    exact ⟨id, rfl, e, by rw [List.getElem?_take_of_lt hi, he], hcreated⟩
  kept := fun e he ↦ h.kept e (List.mem_of_mem_take he)

/-- Whatever was destroyed had a name the history can have given. -/
def DestroysOld (log : List (Entry ρ)) (kind : κ) : Prop :=
  ∀ e ∈ log, ∀ id, destroys e.request = some (kind, .obj id) → id < log.length

theorem DestroysOld.append {log more : List (Entry ρ)} {kind : κ} (h : DestroysOld log kind)
    (hmore : ∀ e ∈ more, ∀ id, destroys e.request = some (kind, .obj id) → id < log.length) :
    DestroysOld (log ++ more) kind := by
  intro e he id hdestroys
  have hlt : id < log.length :=
    (List.mem_append.mp he).elim (fun hold ↦ h e hold id hdestroys)
      (fun hnew ↦ hmore e hnew id hdestroys)
  rw [List.length_append]
  exact Nat.lt_add_right _ hlt

theorem destroysOld_of_forall {log : List (Entry ρ)} {kind : κ}
    (h : ∀ e ∈ log, ∀ p, destroys e.request ≠ some (kind, p)) : DestroysOld log kind :=
  fun e he _ hdestroys ↦ absurd hdestroys (h e he _)

theorem DestroysOld.append_of_forall {log more : List (Entry ρ)} {kind : κ}
    (h : DestroysOld log kind) (hmore : ∀ e ∈ more, ∀ p, destroys e.request ≠ some (kind, p)) :
    DestroysOld (log ++ more) kind :=
  h.append fun e he _ hdestroys ↦ absurd hdestroys (hmore e he _)

/-- Nothing has destroyed the object that the next request may create. -/
theorem DestroysOld.ne_next {log : List (Entry ρ)} {kind : κ} (h : DestroysOld log kind) :
    ∀ e ∈ log, destroys e.request ≠ some (kind, .obj log.length) :=
  fun e he hdestroys ↦ absurd (h e he _ hdestroys) (lt_irrefl _)

/-- Requests that create no object of a kind leave over what they do not destroy. -/
theorem extant_append_iff {log more : List (Entry ρ)} {kind : κ} {p : Ptr}
    (hmore : ∀ e ∈ more, constructs e.request ≠ some kind) :
    Extant (log ++ more) kind p ↔
      Extant log kind p ∧ ∀ e ∈ more, destroys e.request ≠ some (kind, p) := by
  have hcreated : ∀ id, Created (log ++ more) kind id ↔ Created log kind id := by
    intro id
    rw [created_append_iff]
    refine or_iff_left ?_
    rintro ⟨i, -, h⟩
    exact not_created_of_forall hmore i h
  constructor
  · rintro ⟨⟨id, hp, hid⟩, hkept⟩
    obtain ⟨hold, hnew⟩ := List.forall_mem_append.mp hkept
    exact ⟨⟨⟨id, hp, (hcreated id).mp hid⟩, hold⟩, hnew⟩
  · rintro ⟨⟨⟨id, hp, hid⟩, hold⟩, hnew⟩
    exact ⟨⟨id, hp, (hcreated id).mpr hid⟩, List.forall_mem_append.mpr ⟨hold, hnew⟩⟩

/-- Requests that create one object of a kind and destroy none. -/
theorem extant_append_one {log before after : List (Entry ρ)} {e : Entry ρ} {kind : κ} {p : Ptr}
    (hold : DestroysOld log kind) (hbefore : ∀ e ∈ before, constructs e.request ≠ some kind)
    (hafter : ∀ e ∈ after, constructs e.request ≠ some kind) (hcreated : e.created = true)
    (hkind : constructs e.request = some kind)
    (hkept : ∀ e' ∈ before ++ e :: after, ∀ p, destroys e'.request ≠ some (kind, p)) :
    Extant (log ++ (before ++ e :: after)) kind p ↔
      Extant log kind p ∨ p = .obj (log.length + before.length) := by
  constructor
  · rintro ⟨⟨id, rfl, hid⟩, hall⟩
    rcases (created_append_one hbefore hafter hcreated hkind).mp hid with h | rfl
    · exact .inl ⟨⟨id, rfl, h⟩, (List.forall_mem_append.mp hall).1⟩
    · exact .inr rfl
  · rintro (⟨⟨id, rfl, hid⟩, hall⟩ | rfl)
    · exact ⟨⟨id, rfl, hid.append _⟩,
        List.forall_mem_append.mpr ⟨hall, fun e' he' ↦ hkept e' he' _⟩⟩
    · refine ⟨⟨_, rfl, (created_append_one hbefore hafter hcreated hkind).mpr (.inr rfl)⟩,
        List.forall_mem_append.mpr ⟨fun e' he' hdestroys ↦ ?_, fun e' he' ↦ hkept e' he' _⟩⟩
      exact absurd (hold e' he' _ hdestroys) (Nat.not_lt.mpr (Nat.le_add_right _ _))

/-! ## Live pointers -/

/-- A pointer stays live under requests that neither destroy its object nor close the
connection. -/
theorem Live.append {log more : List (Entry ρ)} {kind : κ} {p : Ptr} (h : Live log kind p)
    (hkept : ∀ e ∈ more, destroys e.request ≠ some (kind, p)) (hopen : Open more) :
    Live (log ++ more) kind p where
  created := by
    obtain ⟨id, hp, hid⟩ := h.created
    exact ⟨id, hp, hid.append more⟩
  kept := List.forall_mem_append.mpr ⟨h.kept, hkept⟩
  connected := open_append.mpr ⟨h.connected, hopen⟩

/-! ## Sound histories -/

/-- In a sound history every request used pointers to objects that had been created. -/
theorem Sound.created_of_mem {log : List (Entry ρ)} {e : Entry ρ} {u : κ × Ptr} (h : Sound log)
    (he : e ∈ log) (hu : u ∈ uses e.request) : ∃ id, u.2 = .obj id ∧ Created log u.1 id := by
  obtain ⟨before, after, rfl⟩ := List.append_of_mem he
  obtain ⟨id, hp, hid⟩ := (h before e after rfl u hu).created
  exact ⟨id, hp, hid.append _⟩

/-- A request on a pointer to no object is not sound. -/
theorem not_sound_of_uses {log : List (Entry ρ)} {e : Entry ρ} {u : κ × Ptr}
    (hu : u ∈ uses e.request) (hnone : ∀ id, u.2 ≠ .obj id) : ¬ Sound (log ++ [e]) := by
  intro h
  obtain ⟨id, hp, -⟩ := ((always_append_singleton.mp h).2 u hu).created
  exact hnone id hp

theorem Sound.live_length {log : List (Entry ρ)} {e : Entry ρ} {kind : κ} (h : Sound log)
    (hopen : Open log) (hcreated : e.created = true) (hkind : constructs e.request = some kind)
    (hkept : destroys e.request = none) (hcloses : closes e.request = false) :
    Live (log ++ [e]) kind (.obj log.length) where
  created := ⟨log.length, rfl, created_length hcreated hkind⟩
  kept := by
    intro e' he' hdestroys
    rcases List.mem_append.mp he' with hold | hnew
    · -- what an earlier request destroyed had been created before
      obtain ⟨id, hp, hid⟩ := h.created_of_mem hold (destroys_uses _ _ hdestroys)
      cases hp
      exact absurd hid.lt_length (lt_irrefl _)
    · rw [List.mem_singleton.mp hnew, hkept] at hdestroys
      cases hdestroys
  connected := by
    refine open_append.mpr ⟨hopen, ?_⟩
    simpa only [Open, List.forall_mem_singleton] using hcloses

/-! ## Straight-line code

`Holding env log` is the assertion between two requests of a piece of client code: the history is
sound, the connection open, and every pointer that the code still has, with its kind, is live. -/

structure Holding (env : List (κ × Ptr)) (log : List (Entry ρ)) : Prop where
  sound : Sound log
  connected : Open log
  live : ∀ u ∈ env, Live log u.1 u.2

theorem holding_nil : Holding [] ([] : List (Entry ρ)) where
  sound := always_nil
  connected := nofun
  live := nofun

theorem Holding.mono {env env' : List (κ × Ptr)} {log : List (Entry ρ)} (h : Holding env log)
    (hsub : env' ⊆ env) : Holding env' log :=
  ⟨h.sound, h.connected, fun u hu ↦ h.live u (hsub hu)⟩

theorem Holding.cons {env : List (κ × Ptr)} {log : List (Entry ρ)} {kind : κ} {p : Ptr}
    (h : Holding env log) (hlive : Live log kind p) : Holding ((kind, p) :: env) log :=
  ⟨h.sound, h.connected, List.forall_mem_cons.mpr ⟨hlive, h.live⟩⟩

/-- A request on pointers that are held, which leaves those in `env'` alone. -/
theorem Holding.issue {env env' : List (κ × Ptr)} {log : List (Entry ρ)} {e : Entry ρ}
    (h : Holding env log) (huses : ∀ u ∈ uses e.request, u ∈ env)
    (hcloses : closes e.request = false) (hsub : env' ⊆ env)
    (hkept : ∀ u ∈ env', destroys e.request ≠ some u) :
    Holding env' (log ++ [e]) where
  sound := always_append_singleton.mpr ⟨h.sound, fun u hu ↦ h.live u (huses u hu)⟩
  connected := by
    refine open_append.mpr ⟨h.connected, ?_⟩
    simpa only [Open, List.forall_mem_singleton] using hcloses
  live u hu := by
    apply (h.live u (hsub hu)).append
    · simpa only [List.forall_mem_singleton] using hkept u hu
    · simpa only [Open, List.forall_mem_singleton] using hcloses

/-- A request that destroys nothing. -/
theorem Holding.use {env : List (κ × Ptr)} {log : List (Entry ρ)} {e : Entry ρ}
    (h : Holding env log) (huses : ∀ u ∈ uses e.request, u ∈ env)
    (hcloses : closes e.request = false) (hkept : destroys e.request = none) :
    Holding env (log ++ [e]) := by
  apply h.issue huses hcloses (List.Subset.refl env)
  intro u _
  rw [hkept]
  exact nofun

theorem Holding.useAll {env : List (κ × Ptr)} {log more : List (Entry ρ)} (h : Holding env log)
    (hmore : ∀ e ∈ more, (∀ u ∈ uses e.request, u ∈ env) ∧ closes e.request = false ∧
      destroys e.request = none) : Holding env (log ++ more) := by
  induction more generalizing log with
  | nil =>
    rw [List.append_nil]
    exact h
  | cons e more ih =>
    obtain ⟨⟨huses, hcloses, hkept⟩, hrest⟩ := List.forall_mem_cons.mp hmore
    rw [List.append_cons]
    exact ih (h.use huses hcloses hkept) hrest

/-- A request that creates an object adds a pointer to it. -/
theorem Holding.create {env : List (κ × Ptr)} {log : List (Entry ρ)} {e : Entry ρ} {kind : κ}
    (h : Holding env log) (huses : ∀ u ∈ uses e.request, u ∈ env) (hcreated : e.created = true)
    (hkind : constructs e.request = some kind) (hkept : destroys e.request = none)
    (hcloses : closes e.request = false) :
    Holding ((kind, .obj log.length) :: env) (log ++ [e]) :=
  (h.use huses hcloses hkept).cons
    (h.sound.live_length h.connected hcreated hkind hkept hcloses)

/-- A sound history closes its connection at most once. -/
theorem Sound.countP_closes_le {log : List (Entry ρ)} (h : Sound log) :
    log.countP (fun e ↦ closes e.request) ≤ 1 := by
  induction log using List.reverseRecOn with
  | nil => exact Nat.zero_le 1
  | append_singleton log e ih =>
    obtain ⟨hlog, husable⟩ := always_append_singleton.mp h
    rw [List.countP_append, List.countP_singleton]
    cases hcloses : closes e.request with
    | false => exact ih hlog
    | true =>
      obtain ⟨u, hu⟩ := List.exists_mem_of_ne_nil _ (closes_uses _ hcloses)
      have hopen := (husable u hu).connected
      have hnone : log.countP (fun e ↦ closes e.request) = 0 :=
        List.countP_eq_zero.mpr fun e' he' hclosed ↦
          Bool.noConfusion ((hopen e' he').symm.trans hclosed)
      rw [hnone]
      exact le_rfl

end WLManager.History
