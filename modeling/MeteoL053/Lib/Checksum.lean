import Mathlib.Data.List.Basic

/-!
Checksums that are folds with a cancellable operation: a change of one element
always changes the sum, and so two lists with the same sum are equal or differ
in two places.
-/

namespace Checksum

variable {α β : Type} {f : β → α → β}

/-- The operation can be cancelled on both sides. -/
structure Cancels (f : β → α → β) : Prop where
  left : ∀ {b b' : β} {a : α}, f b a = f b' a → b = b'
  right : ∀ {b : β} {a a' : α}, f b a = f b a' → a = a'

theorem Cancels.foldl_left (hf : Cancels f) {b b' : β} {as : List α}
    (h : as.foldl f b = as.foldl f b') : b = b' := by
  induction as generalizing b b' with
  | nil => exact h
  | cons a as ih => exact hf.left (ih h)

/-- A changed element changes the sum. -/
theorem Cancels.foldl_set_ne (hf : Cancels f) {b : β} {as : List α} {i : Nat} {a : α}
    (hi : i < as.length) (ha : a ≠ as[i]) : (as.set i a).foldl f b ≠ as.foldl f b := by
  intro h
  induction as generalizing b i with
  | nil => cases hi
  | cons a' as ih =>
    cases i with
    | zero => exact ha (hf.right (hf.foldl_left h))
    | succ i => exact ih (Nat.lt_of_succ_lt_succ hi) ha h

/-- Two places in which the lists differ. -/
def DifferTwice (as bs : List α) : Prop :=
  ∃ i j : Nat, i < j ∧ as[i]? ≠ bs[i]? ∧ as[j]? ≠ bs[j]?

theorem DifferTwice.append (cs : List α) {as bs : List α} (h : DifferTwice as bs) :
    DifferTwice (cs ++ as) (cs ++ bs) := by
  obtain ⟨i, j, hij, hi, hj⟩ := h
  refine ⟨cs.length + i, cs.length + j, Nat.add_lt_add_left hij _, ?_, ?_⟩
  · simpa [List.getElem?_append_right] using hi
  · simpa [List.getElem?_append_right] using hj

theorem exists_differ {as bs : List α} (h : as ≠ bs) : ∃ i : Nat, as[i]? ≠ bs[i]? :=
  not_forall.mp fun hall => h (List.ext_getElem? hall)

/-- **Distance two.** Different lists of the same length and the same sum differ
in at least two places. -/
theorem Cancels.differTwice (hf : Cancels f) {b : β} {as bs : List α}
    (hlen : as.length = bs.length) (hsum : as.foldl f b = bs.foldl f b) (hne : as ≠ bs) :
    DifferTwice as bs := by
  induction as generalizing b bs with
  | nil => exact absurd (List.length_eq_zero_iff.mp hlen.symm).symm hne
  | cons x as ih =>
    cases bs with
    | nil => cases hlen
    | cons y bs =>
      have hlen' : as.length = bs.length := Nat.succ.inj hlen
      by_cases hxy : x = y
      · subst hxy
        have htail : as ≠ bs := fun h => hne (congrArg (x :: ·) h)
        exact (ih hlen' hsum htail).append [x]
      · -- the first elements differ, and if nothing else did the sums would too
        have htail : as ≠ bs := by
          rintro rfl
          exact hxy (hf.right (hf.foldl_left hsum))
        obtain ⟨j, hj⟩ := exists_differ htail
        refine ⟨0, j + 1, Nat.succ_pos j, ?_, hj⟩
        intro h
        exact hxy (Option.some.inj h)

end Checksum
