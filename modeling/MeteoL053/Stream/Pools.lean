import Mathlib.Algebra.Group.Int.Defs
import Mathlib.Algebra.GroupWithZero.Nat
import Mathlib.Data.List.Basic

/-!
The stream buffers of `threads/pools.h`: five objects, each a 23 byte message
followed by its size. Stores into a message are bounds checked, so a store
outside the message shows up as `none`.
-/

namespace MeteoL053

def streamTxPoolSize : Nat := 5
def streamBufferSize : Nat := 64
def streamMessageSize : Nat := 23

instance : NeZero streamTxPoolSize := ⟨by decide⟩

/-- A pool object, named by its place in `streamPoolObject`. -/
abbrev Obj := Fin streamTxPoolSize

/-- `poolStreamObject_t`. -/
structure PoolStreamObject where
  message : List UInt8
  size : UInt8
  message_length : message.length = streamMessageSize
  deriving DecidableEq

namespace PoolStreamObject

/-- `message[i] = b`. -/
def poke (o : PoolStreamObject) (i : Nat) (b : UInt8) : Option PoolStreamObject :=
  if i < streamMessageSize then
    some ⟨o.message.set i b, o.size, by rw [List.length_set]; exact o.message_length⟩
  else none

/-- Store `bs` from `message[p]` on, as `memcpy` does. -/
def pokes (o : PoolStreamObject) (p : Nat) : List UInt8 → Option PoolStreamObject
  | [] => some o
  | b :: bs => (o.poke p b).bind fun o => o.pokes (p + 1) bs

def setSize (o : PoolStreamObject) (n : UInt8) : PoolStreamObject := { o with size := n }

@[simp] theorem setSize_message (o : PoolStreamObject) (n : UInt8) :
    (o.setSize n).message = o.message := rfl

@[simp] theorem setSize_size (o : PoolStreamObject) (n : UInt8) : (o.setSize n).size = n := rfl

/-- `strlen(message)`: the bytes before the first zero. -/
def strlen (o : PoolStreamObject) : Nat := (o.message.takeWhile (· ≠ 0)).length

theorem strlen_eq_of_message {o : PoolStreamObject} {text rest : List UInt8}
    (hm : o.message = text ++ [0] ++ rest) (hz : ∀ c ∈ text, c ≠ 0) : o.strlen = text.length := by
  have hz' : ∀ c ∈ text, decide (c ≠ 0) = true := fun c hc => decide_eq_true (hz c hc)
  rw [strlen, hm, List.append_assoc, List.takeWhile_append_of_pos hz']
  simp

theorem eq_of_message_of_size {o o' : PoolStreamObject} (hm : o.message = o'.message)
    (hs : o.size = o'.size) : o = o' := by
  cases o
  cases o'
  cases hm
  cases hs
  rfl

/-- The first `size` bytes of the message, `none` if `size` reaches past it. -/
def bytes (o : PoolStreamObject) : Option (List UInt8) :=
  if o.size.toNat ≤ streamMessageSize then some (o.message.take o.size.toNat) else none

theorem pokes_append (o : PoolStreamObject) (p : Nat) (as bs : List UInt8) :
    o.pokes p (as ++ bs) = (o.pokes p as).bind fun o => o.pokes (p + as.length) bs := by
  induction as generalizing o p with
  | nil => rfl
  | cons a as ih =>
    simp only [List.cons_append, pokes, Option.bind_assoc, List.length_cons]
    congr 1
    funext o'
    rw [ih, Nat.add_right_comm, Nat.add_assoc]

theorem poke_eq_pokes (o : PoolStreamObject) (p : Nat) (b : UInt8) :
    o.poke p b = o.pokes p [b] := by simp [pokes]

theorem setSize_pokes (o : PoolStreamObject) (p : Nat) (n : UInt8) (bs : List UInt8) :
    (o.setSize n).pokes p bs = (o.pokes p bs).map (·.setSize n) := by
  induction bs generalizing o p with
  | nil => rfl
  | cons b bs ih =>
    by_cases h : p < streamMessageSize
    · simpa [pokes, poke, h, setSize] using ih ⟨o.message.set p b, o.size, _⟩ (p + 1)
    · simp [pokes, poke, h]

/-- Stores that do not leave the message end inside it. -/
theorem length_le_of_pokes {o o' : PoolStreamObject} {p : Nat} {bs : List UInt8}
    (h : o.pokes p bs = some o') (hne : bs ≠ []) : p + bs.length ≤ streamMessageSize := by
  induction bs generalizing o p with
  | nil => exact absurd rfl hne
  | cons b bs ih =>
    obtain ⟨o₁, hpoke, hrest⟩ := Option.bind_eq_some_iff.mp h
    have hp : p < streamMessageSize := by
      apply Classical.byContradiction
      intro hp
      simp [poke, hp] at hpoke
    rw [List.length_cons]
    cases bs with
    | nil => exact hp
    | cons b' bs =>
      have := ih hrest (List.cons_ne_nil b' bs)
      omega

/-- Stores that end inside the message replace exactly their range. -/
theorem pokes_inside (o : PoolStreamObject) (p : Nat) (bs : List UInt8)
    (h : p + bs.length ≤ streamMessageSize) :
    ∃ o', o.pokes p bs = some o' ∧ o'.size = o.size ∧
      o'.message = o.message.take p ++ bs ++ o.message.drop (p + bs.length) := by
  induction bs generalizing o p with
  | nil => exact ⟨o, rfl, rfl, by simp⟩
  | cons b bs ih =>
    rw [List.length_cons] at h
    have hp : p < streamMessageSize := by omega
    have hl : p < o.message.length := by rw [o.message_length]; exact hp
    obtain ⟨o', he, hs, hm⟩ := ih
      ⟨o.message.set p b, o.size, by rw [List.length_set]; exact o.message_length⟩ (p + 1) (by omega)
    refine ⟨o', by simp [pokes, poke, hp, he], hs, ?_⟩
    rw [hm]
    have ht : (o.message.set p b).take (p + 1) = o.message.take p ++ [b] := by
      rw [List.take_add_one, List.take_set_of_le (Nat.le_refl p)]
      simp [hl]
    have hd : (o.message.set p b).drop (p + 1 + bs.length) =
        o.message.drop (p + (bs.length + 1)) := by
      rw [List.drop_set_of_lt (by omega)]
      congr 1
      omega
    simp [ht, hd]

end PoolStreamObject

/-- An empty buffer. -/
def blank : PoolStreamObject := ⟨List.replicate streamMessageSize 0, 0, rfl⟩

end MeteoL053
