import SatBridge.Backend.Guarded
import SatBridge.Backend.Pool

/-!
# Pools with distinct pointers

A pool of handles on one library in which no two live handles have the same pointer. What may be
added to such a pool, and what may become of a handle in it, so that this stays true.
-/

set_option autoImplicit false

namespace SatBridge.Pool

variable {σ : Type} {lib : Library σ} {pool : Pool (GuardedSolver lib) σ} {world : World σ}
  {slot other : Nat} {s t : GuardedSolver lib}

def Distinct (pool : Pool (GuardedSolver lib) σ) : Prop :=
  ∀ slot other s t, pool.handle? slot = some s → pool.handle? other = some t →
    s.pointer = t.pointer → slot = other

theorem Distinct.pointer_ne (distinct : pool.Distinct) (live : pool.handle? slot = some s)
    (liveOther : pool.handle? other = some t) (different : other ≠ slot) : t.pointer ≠ s.pointer :=
  fun same => different (distinct other slot t s liveOther live same)

theorem Distinct.push (distinct : pool.Distinct)
    (fresh : ∀ slot t, pool.handle? slot = some t → t.pointer ≠ s.pointer) :
    Distinct (⟨world, pool.slots.push (some s)⟩ : Pool (GuardedSolver lib) σ) := by
  intro slot other t u found foundOther same
  cases handle?_push_some_iff.mp found with
  | inl new =>
      obtain ⟨here, rfl⟩ := new
      cases handle?_push_some_iff.mp foundOther with
      | inl newOther => exact here.trans newOther.1.symm
      | inr oldOther => exact absurd same.symm (fresh other u oldOther)
  | inr old =>
      cases handle?_push_some_iff.mp foundOther with
      | inl newOther =>
          obtain ⟨_, rfl⟩ := newOther
          exact absurd same (fresh slot t old)
      | inr oldOther => exact distinct slot other t u old oldOther same

theorem Distinct.set (distinct : pool.Distinct) (live : pool.handle? slot = some s)
    {entry : Option (GuardedSolver lib)} (kept : ∀ t, entry = some t → t.pointer = s.pointer) :
    Distinct (⟨world, pool.slots.setIfInBounds slot entry⟩ : Pool (GuardedSolver lib) σ) := by
  intro first second t u found foundOther same
  cases (handle?_set_eq_some_iff live).mp found with
  | inl own =>
      cases (handle?_set_eq_some_iff live).mp foundOther with
      | inl ownOther => exact own.1.trans ownOther.1.symm
      | inr oldOther =>
          rw [kept t own.2] at same
          exact absurd same.symm (distinct.pointer_ne live oldOther.2 oldOther.1)
  | inr old =>
      cases (handle?_set_eq_some_iff live).mp foundOther with
      | inl ownOther =>
          rw [kept u ownOther.2] at same
          exact absurd same (distinct.pointer_ne live old.2 old.1)
      | inr oldOther => exact distinct first second t u old.2 oldOther.2 same

end SatBridge.Pool
