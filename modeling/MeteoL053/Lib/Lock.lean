import Mathlib.Logic.Function.Basic

/-!
A lock that is taken or free, and the threads that believe they hold it.

`Exclusive` is what a binary semaphore or a mutex guarantees as long as only a
holder releases it: at most one thread holds it, and nobody holds it while it
is free.
-/

namespace Lock

variable {τ : Type}

structure Exclusive (taken : Bool) (holds : τ → Bool) : Prop where
  free : taken = false → ∀ t, holds t = false
  unique : ∀ t u, holds t = true → holds u = true → t = u

variable {taken : Bool} {holds : τ → Bool} {t u : τ}

theorem Exclusive.initial : Exclusive false fun _ : τ => false :=
  ⟨fun _ _ => rfl, fun _ _ h _ => by cases h⟩

theorem Exclusive.taken_of_holds (h : Exclusive taken holds) (ht : holds t = true) :
    taken = true := by
  cases taken with
  | true => rfl
  | false => rw [h.free rfl t] at ht; cases ht

theorem Exclusive.not_holds (h : Exclusive taken holds) (ht : holds t = true) (hne : u ≠ t) :
    holds u = false := by
  cases hu : holds u with
  | false => rfl
  | true => exact absurd (h.unique u t hu ht) hne

variable [DecidableEq τ]

/-- A thread takes the free lock. -/
theorem Exclusive.acquire (h : Exclusive taken holds) (hfree : taken = false) (t : τ) :
    Exclusive true (Function.update holds t true) := by
  refine ⟨by simp, fun u v hu hv => ?_⟩
  have hnone : ∀ w, Function.update holds t true w = true → w = t := by
    intro w hw
    by_cases e : w = t
    · exact e
    · rw [Function.update_of_ne e, h.free hfree w] at hw
      cases hw
  rw [hnone u hu, hnone v hv]

/-- The holder releases the lock. -/
theorem Exclusive.release (h : Exclusive taken holds) (ht : holds t = true) :
    Exclusive false (Function.update holds t false) := by
  have hall : ∀ u, Function.update holds t false u = false := by
    intro u
    by_cases e : u = t
    · rw [e, Function.update_self]
    · rw [Function.update_of_ne e, h.not_holds ht e]
  refine ⟨fun _ => hall, fun u v hu _ => ?_⟩
  rw [hall u] at hu
  cases hu

end Lock
