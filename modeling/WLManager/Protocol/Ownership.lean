import Mathlib.Algebra.Order.Group.Multiset
import WLManager.Protocol.History

/-!
# What a history leaves to its client

`Owns owned log` says that the objects which the requests in `log` have created and not destroyed
are exactly those in `owned`, each of them once, after a history in which no request used an object
that did not exist. The rules follow a request that uses what is owned, creates an object or
destroys one, and leave the rest of `owned` alone, so that code that deals with a few objects is
verified next to any others.
-/

namespace WLManager.History

open Signature

variable {ρ κ : Type*} [Signature ρ κ] {log : List (Entry ρ)} {e : Entry ρ} {kind : κ} {p : Ptr}

/-- One more request: it may add the object it creates, and takes away the one it destroys. -/
theorem extant_snoc (h : Sound log) : Extant (log ++ [e]) kind p ↔
    (Extant log kind p ∨
      p = .obj log.length ∧ e.created = true ∧ constructs e.request = some kind) ∧
    destroys e.request ≠ some (kind, p) := by
  have hsingle : ∀ i, Created [e] kind i ↔
      i = 0 ∧ e.created = true ∧ constructs e.request = some kind := by
    intro i
    cases i with
    | zero => simp [Created]
    | succ i => simp [Created]
  constructor
  · intro hextant
    obtain ⟨id, rfl, hid⟩ := hextant.created
    obtain ⟨hold, hlast⟩ := List.forall_mem_append.mp hextant.kept
    refine ⟨?_, hlast e (List.mem_singleton_self e)⟩
    rcases created_append_iff.mp hid with hcreated | ⟨i, rfl, hi⟩
    · exact .inl ⟨⟨id, rfl, hcreated⟩, hold⟩
    · obtain ⟨rfl, hnew⟩ := (hsingle i).mp hi
      exact .inr ⟨rfl, hnew⟩
  · rintro ⟨hold | ⟨rfl, hnew⟩, hkept⟩
    · obtain ⟨id, rfl, hid⟩ := hold.created
      refine ⟨⟨id, rfl, hid.append _⟩, List.forall_mem_append.mpr ⟨hold.kept, ?_⟩⟩
      exact List.forall_mem_singleton.mpr hkept
    · refine ⟨⟨_, rfl, created_append_iff.mpr (.inr ⟨0, rfl, (hsingle 0).mpr ⟨rfl, hnew⟩⟩)⟩,
        List.forall_mem_append.mpr ⟨fun e' he' hdestroys ↦ ?_, ?_⟩⟩
      · -- what an earlier request destroyed had been created before
        obtain ⟨id, hp, hid⟩ := h.created_of_mem he' (destroys_uses _ _ hdestroys)
        cases hp
        exact absurd hid.lt_length (lt_irrefl _)
      · exact List.forall_mem_singleton.mpr hkept

/-- The history is sound, the connection open, and the objects that exist are those in `owned`. -/
structure Owns (owned : Multiset (κ × Ptr)) (log : List (Entry ρ)) : Prop where
  sound : Sound log
  connected : Open log
  nodup : owned.Nodup
  extant_iff : ∀ kind p, Extant log kind p ↔ (kind, p) ∈ owned

theorem owns_nil : Owns 0 ([] : List (Entry ρ)) where
  sound := always_nil
  connected := nofun
  nodup := Multiset.nodup_zero
  extant_iff kind p := by
    refine iff_of_false (fun h ↦ ?_) (Multiset.notMem_zero _)
    obtain ⟨id, -, hid⟩ := h.created
    exact absurd hid.lt_length (Nat.not_lt_zero id)

namespace Owns

variable {owned : Multiset (κ × Ptr)}

theorem live (h : Owns owned log) {u : κ × Ptr} (hu : u ∈ owned) : Live log u.1 u.2 where
  created := ((h.extant_iff u.1 u.2).mpr hu).created
  kept := ((h.extant_iff u.1 u.2).mpr hu).kept
  connected := h.connected

theorem sound_snoc (h : Owns owned log) (huses : ∀ u ∈ uses e.request, u ∈ owned) :
    Sound (log ++ [e]) :=
  always_append_singleton.mpr ⟨h.sound, fun u hu ↦ h.live (huses u hu)⟩

theorem open_snoc (h : Owns owned log) (hcloses : closes e.request = false) : Open (log ++ [e]) :=
  open_append.mpr ⟨h.connected, List.forall_mem_singleton.mpr hcloses⟩

/-- A request that neither creates nor destroys an object. -/
theorem use (h : Owns owned log) (huses : ∀ u ∈ uses e.request, u ∈ owned)
    (hcloses : closes e.request = false)
    (hcreates : e.created = true → constructs e.request = none)
    (hkept : destroys e.request = none) : Owns owned (log ++ [e]) where
  sound := h.sound_snoc huses
  connected := h.open_snoc hcloses
  nodup := h.nodup
  extant_iff kind p := by
    rw [extant_snoc h.sound, ← h.extant_iff]
    constructor
    · rintro ⟨hold | ⟨-, hcreated, hkind⟩, -⟩
      · exact hold
      · rw [hcreates hcreated] at hkind
        cases hkind
    · intro hold
      refine ⟨.inl hold, ?_⟩
      simp [hkept]

/-- Any number of such requests. -/
theorem useAll (h : Owns owned log) {more : List (Entry ρ)}
    (hmore : ∀ e ∈ more, (∀ u ∈ uses e.request, u ∈ owned) ∧ closes e.request = false ∧
      constructs e.request = none ∧ destroys e.request = none) : Owns owned (log ++ more) := by
  induction more generalizing log with
  | nil =>
    rw [List.append_nil]
    exact h
  | cons e more ih =>
    obtain ⟨⟨huses, hcloses, hcreates, hkept⟩, hrest⟩ := List.forall_mem_cons.mp hmore
    rw [List.append_cons]
    exact ih (h.use huses hcloses (fun _ ↦ hcreates) hkept) hrest

/-- A request that creates an object. -/
theorem create (h : Owns owned log) (huses : ∀ u ∈ uses e.request, u ∈ owned)
    (hcloses : closes e.request = false) (hcreated : e.created = true)
    (hkind : constructs e.request = some kind) (hkept : destroys e.request = none) :
    Owns ((kind, .obj log.length) ::ₘ owned) (log ++ [e]) where
  sound := h.sound_snoc huses
  connected := h.open_snoc hcloses
  nodup := by
    refine Multiset.nodup_cons.mpr ⟨fun hmem ↦ ?_, h.nodup⟩
    exact absurd ((h.extant_iff _ _).mpr hmem).obj.lt_length (lt_irrefl _)
  extant_iff kind' p := by
    rw [extant_snoc h.sound, h.extant_iff, Multiset.mem_cons, Prod.mk.injEq]
    constructor
    · rintro ⟨hold | ⟨rfl, -, hkind'⟩, -⟩
      · exact .inr hold
      · cases hkind.symm.trans hkind'
        exact .inl ⟨rfl, rfl⟩
    · intro hmem
      refine ⟨?_, ?_⟩
      · rcases hmem with ⟨rfl, rfl⟩ | hold
        · exact .inr ⟨rfl, hcreated, hkind⟩
        · exact .inl hold
      · simp [hkept]

/-- A request that destroys an object. -/
theorem destroy (h : Owns ((kind, p) ::ₘ owned) log)
    (huses : ∀ u ∈ uses e.request, u ∈ (kind, p) ::ₘ owned) (hcloses : closes e.request = false)
    (hcreates : constructs e.request = none) (hdestroys : destroys e.request = some (kind, p)) :
    Owns owned (log ++ [e]) where
  sound := h.sound_snoc huses
  connected := h.open_snoc hcloses
  nodup := (Multiset.nodup_cons.mp h.nodup).2
  extant_iff kind' p' := by
    rw [extant_snoc h.sound, h.extant_iff, Multiset.mem_cons, hcreates, hdestroys]
    constructor
    · rintro ⟨(hsame | hold) | ⟨-, -, hkind⟩, hne⟩
      · exact absurd (congrArg some hsame.symm) hne
      · exact hold
      · cases hkind
    · intro hold
      refine ⟨.inl (.inr hold), fun hsame ↦ ?_⟩
      cases hsame
      exact (Multiset.nodup_cons.mp h.nodup).1 hold

end Owns

/-- The object a pointer that may be null points to. -/
def pointee (kind : κ) : Ptr → List (κ × Ptr)
  | .obj id => [(kind, .obj id)]
  | .null | .indeterminate => []

/-- The same as what is owned through the pointer. -/
def holding (kind : κ) (p : Ptr) : Multiset (κ × Ptr) := ↑(pointee kind p)

@[simp]
theorem holding_obj (kind : κ) (id : ℕ) : holding kind (.obj id) = {(kind, .obj id)} := rfl

@[simp]
theorem holding_null (kind : κ) : holding kind .null = 0 := rfl

theorem mem_pointee {u : κ × Ptr} : u ∈ pointee kind p ↔ ∃ id, p = .obj id ∧ u = (kind, p) := by
  cases p with
  | null => simp [pointee]
  | indeterminate => simp [pointee]
  | obj id => simp [pointee]

end WLManager.History
