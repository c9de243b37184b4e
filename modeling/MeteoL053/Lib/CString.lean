import Mathlib.Data.List.Basic
import Mathlib.Logic.Function.Basic

/-!
Strings of the C library over a byte memory.

A string is the bytes before its terminating zero. A pointer into a string is
the text from there on, so the functions that search a string cut lists; the
functions that store one work on the memory.
-/

namespace CString

/-! ## Searching -/

/-- `p + strspn(p, set)`. -/
def skip (set s : List UInt8) : List UInt8 := s.dropWhile (· ∈ set)

/-- The string at `p` once the byte `strpbrk(p, set)` points to is a zero, and
the pointer behind that byte. -/
def cut (set s : List UInt8) : List UInt8 × Option (List UInt8) :=
  (s.takeWhile (· ∉ set), (s.dropWhile (· ∉ set)).tail?)

theorem skip_suffix (set s : List UInt8) : skip set s <:+ s := List.dropWhile_suffix _

theorem cut_fst_isPrefix (set s : List UInt8) : (cut set s).1 <+: s := List.takeWhile_prefix _

theorem cut_snd_suffix {set s r : List UInt8} (h : (cut set s).2 = some r) : r <:+ s := by
  unfold cut at h
  have hdrop : s.dropWhile (· ∉ set) <:+ s := List.dropWhile_suffix _
  cases hs : s.dropWhile (· ∉ set) with
  | nil =>
    rw [hs] at h
    cases h
  | cons c cs =>
    rw [hs] at h hdrop
    obtain rfl : cs = r := Option.some.inj h
    exact (List.suffix_cons c cs).trans hdrop

/-! ## Storing -/

/-- Memory, with the addresses that copies have stored to. -/
structure Memory where
  bytes : Nat → UInt8
  stored : List Nat

def Memory.store (m : Memory) (a : Nat) (b : UInt8) : Memory :=
  ⟨Function.update m.bytes a b, a :: m.stored⟩

def strcpy (m : Memory) (dst : Nat) : List UInt8 → Memory
  | [] => m.store dst 0
  | c :: cs => strcpy (m.store dst c) (dst + 1) cs

/-- `strlen` of the string at `p`, in `n` bytes of memory from there on. -/
def strlen (bytes : Nat → UInt8) : Nat → Nat → Nat
  | 0, _ => 0
  | n + 1, p => if bytes p = 0 then 0 else strlen bytes n (p + 1) + 1

variable (m : Memory) (dst : Nat) (text : List UInt8)

theorem mem_stored_strcpy (a : Nat) :
    a ∈ (strcpy m dst text).stored ↔ a ∈ m.stored ∨ dst ≤ a ∧ a ≤ dst + text.length := by
  induction text generalizing m dst with
  | nil =>
    have hend : a = dst ↔ dst ≤ a ∧ a ≤ dst + 0 := by omega
    rw [List.length_nil, ← hend, or_comm]
    exact List.mem_cons
  | cons c cs ih =>
    have hfirst : dst ≤ a ∧ a ≤ dst + (cs.length + 1) ↔
        a = dst ∨ dst + 1 ≤ a ∧ a ≤ dst + 1 + cs.length := by omega
    rw [strcpy, ih, Memory.store, List.mem_cons, List.length_cons, hfirst, or_comm (a := a = dst),
      or_assoc]

theorem strcpy_bytes_outside {a : Nat} (h : a < dst ∨ dst + text.length < a) :
    (strcpy m dst text).bytes a = m.bytes a := by
  induction text generalizing m dst with
  | nil => exact Function.update_of_ne (by rw [List.length_nil] at h; omega) _ _
  | cons c cs ih =>
    rw [List.length_cons] at h
    rw [strcpy, ih _ _ (by omega)]
    exact Function.update_of_ne (by omega) _ _

theorem strcpy_bytes_text {i : Nat} {c : UInt8} (h : text[i]? = some c) :
    (strcpy m dst text).bytes (dst + i) = c := by
  induction text generalizing m dst i with
  | nil => cases h
  | cons c' cs ih =>
    cases i with
    | zero =>
      cases h
      have hkept := strcpy_bytes_outside (m.store dst c) (dst + 1) cs (.inl (Nat.lt_succ_self dst))
      exact hkept.trans (Function.update_self ..)
    | succ i =>
      rw [strcpy, show dst + (i + 1) = dst + 1 + i by omega]
      exact ih _ _ h

theorem strcpy_bytes_end : (strcpy m dst text).bytes (dst + text.length) = 0 := by
  induction text generalizing m dst with
  | nil => exact Function.update_self ..
  | cons c cs ih =>
    rw [strcpy, List.length_cons, show dst + (cs.length + 1) = dst + 1 + cs.length by omega]
    exact ih _ _

theorem strlen_eq {bytes : Nat → UInt8} {n p k : Nat} (hk : k < n)
    (htext : ∀ i, i < k → bytes (p + i) ≠ 0) (hend : bytes (p + k) = 0) :
    strlen bytes n p = k := by
  induction n generalizing p k with
  | zero => omega
  | succ n ih =>
    cases k with
    | zero => exact if_pos hend
    | succ k =>
      have hfirst : bytes p ≠ 0 := htext 0 (Nat.succ_pos k)
      rw [strlen, if_neg hfirst, ih (p := p + 1) (k := k) (Nat.lt_of_succ_lt_succ hk)]
      · intro i hi
        rw [show p + 1 + i = p + (i + 1) by omega]
        exact htext (i + 1) (Nat.succ_lt_succ hi)
      · rw [show p + 1 + k = p + (k + 1) by omega]
        exact hend

/-- A copied string has its length. -/
theorem strlen_strcpy {n : Nat} (hn : text.length < n) (htext : ∀ c ∈ text, c ≠ 0) :
    strlen (strcpy m dst text).bytes n dst = text.length := by
  apply strlen_eq hn
  · intro i hi
    rw [strcpy_bytes_text m dst text (List.getElem?_eq_getElem hi)]
    exact htext _ (List.getElem_mem hi)
  · exact strcpy_bytes_end m dst text

end CString
