import Mathlib.Data.List.Induction
import Mathlib.Logic.Function.Basic

/-!
Fields packed into byte-wide registers.

A field is a mask in a register; a masked write replaces the bits of its mask
and keeps the rest of the register. Fields that share no bit do not see each
other's writes. `Attempt` is a masked write over a bus that fails: it reads all
bits set and writes them back.
-/

namespace RegisterFile

/-- The bits of `mask` replaced by those of `data`. -/
def setMasked (old mask data : UInt8) : UInt8 := (old &&& ~~~mask) ||| (data &&& mask)

theorem eq_iff_getLsbD {x y : UInt8} :
    x = y ↔ ∀ i, i < 8 → x.toBitVec.getLsbD i = y.toBitVec.getLsbD i :=
  ⟨fun h i _ => by rw [h],
    fun h => UInt8.toBitVec_inj.mp (BitVec.eq_of_getLsbD_eq fun i hi => h i hi)⟩

theorem getLsbD_ones {i : Nat} (hi : i < 8) : (0xFF : UInt8).toBitVec.getLsbD i = true :=
  (by decide : ∀ i, i < 8 → (0xFF : UInt8).toBitVec.getLsbD i = true) i hi

theorem setMasked_and_self (old mask data : UInt8) :
    setMasked old mask data &&& mask = data &&& mask := by
  rw [eq_iff_getLsbD]
  intro i hi
  simp only [setMasked, UInt8.toBitVec_and, UInt8.toBitVec_or, UInt8.toBitVec_not,
    BitVec.getLsbD_and, BitVec.getLsbD_or, BitVec.getLsbD_not]
  cases mask.toBitVec.getLsbD i <;> simp

theorem setMasked_and_of_disjoint {mask other : UInt8} (h : mask &&& other = 0)
    (old data : UInt8) : setMasked old mask data &&& other = old &&& other := by
  rw [eq_iff_getLsbD]
  intro i hi
  have hbit := congrArg (fun x : UInt8 => x.toBitVec.getLsbD i) h
  simp only [UInt8.toBitVec_and, BitVec.getLsbD_and] at hbit
  simp only [setMasked, UInt8.toBitVec_and, UInt8.toBitVec_or, UInt8.toBitVec_not,
    BitVec.getLsbD_and, BitVec.getLsbD_or, BitVec.getLsbD_not]
  cases hm : mask.toBitVec.getLsbD i with
  | false => simp [hi]
  | true =>
    rw [hm] at hbit
    simp_all

theorem ones_or (x : UInt8) : 0xFF ||| x = 0xFF := by
  rw [eq_iff_getLsbD]
  intro i hi
  rw [UInt8.toBitVec_or, BitVec.getLsbD_or, getLsbD_ones hi, Bool.true_or]

theorem setMasked_ones (old data : UInt8) : setMasked old 0xFF data = data := by
  rw [eq_iff_getLsbD]
  intro i hi
  simp only [setMasked, UInt8.toBitVec_and, UInt8.toBitVec_or, UInt8.toBitVec_not,
    BitVec.getLsbD_and, BitVec.getLsbD_or, BitVec.getLsbD_not, getLsbD_ones hi]
  simp

/-- Writes to the same bits agree where the registers agreed elsewhere. -/
theorem setMasked_or_inj (old old' mask data m : UInt8) :
    setMasked old mask data ||| m = setMasked old' mask data ||| m ↔
      old ||| (m ||| mask) = old' ||| (m ||| mask) := by
  simp only [eq_iff_getLsbD, setMasked, UInt8.toBitVec_and, UInt8.toBitVec_or, UInt8.toBitVec_not,
    BitVec.getLsbD_and, BitVec.getLsbD_or, BitVec.getLsbD_not]
  refine forall₂_congr fun i hi => ?_
  cases mask.toBitVec.getLsbD i <;> simp [hi]

theorem setMasked_or_mask (old mask data m : UInt8) :
    setMasked old mask data ||| m ||| mask = old ||| (m ||| mask) := by
  rw [eq_iff_getLsbD]
  intro i hi
  simp only [setMasked, UInt8.toBitVec_and, UInt8.toBitVec_or, UInt8.toBitVec_not,
    BitVec.getLsbD_and, BitVec.getLsbD_or, BitVec.getLsbD_not]
  cases mask.toBitVec.getLsbD i <;> simp [hi]

/-- All bits set are no difference where they were set. -/
theorem setMasked_ones_iff (old mask data m : UInt8) :
    setMasked 0xFF mask data ||| m = setMasked old mask data ||| m ↔
      old ||| (m ||| mask) = 0xFF := by
  simp only [eq_iff_getLsbD, setMasked, UInt8.toBitVec_and, UInt8.toBitVec_or, UInt8.toBitVec_not,
    BitVec.getLsbD_and, BitVec.getLsbD_or, BitVec.getLsbD_not]
  refine forall₂_congr fun i hi => ?_
  rw [getLsbD_ones hi]
  cases mask.toBitVec.getLsbD i <;> cases m.toBitVec.getLsbD i <;>
    cases old.toBitVec.getLsbD i <;> simp [hi]

theorem setMasked_and_not_iff (old old' mask data : UInt8) :
    setMasked old mask data &&& ~~~mask = old' &&& ~~~mask ↔ old ||| mask = old' ||| mask := by
  simp only [eq_iff_getLsbD, setMasked, UInt8.toBitVec_and, UInt8.toBitVec_or, UInt8.toBitVec_not,
    BitVec.getLsbD_and, BitVec.getLsbD_or, BitVec.getLsbD_not]
  refine forall₂_congr fun i hi => ?_
  cases mask.toBitVec.getLsbD i <;> simp [hi]

/-- The bits `mask` of register `reg`, read from bit `shift` on. -/
structure BitField (A : Type) where
  reg : A
  mask : UInt8
  shift : UInt8
  deriving DecidableEq

variable {A : Type} [DecidableEq A]

/-- The value of a field. -/
def BitField.get (f : BitField A) (regs : A → UInt8) : UInt8 := (regs f.reg &&& f.mask) >>> f.shift

/-- A masked write to one register. -/
def write (regs : A → UInt8) (reg : A) (mask data : UInt8) : A → UInt8 :=
  Function.update regs reg (setMasked (regs reg) mask data)

/-- The field holds what was written to it. -/
theorem BitField.get_write_self (f : BitField A) (regs : A → UInt8) (data : UInt8) :
    f.get (write regs f.reg f.mask data) = (data &&& f.mask) >>> f.shift := by
  simp only [get, write, Function.update_self, setMasked_and_self]

/-- Two fields without a common bit. -/
def BitField.Disjoint (f g : BitField A) : Prop := f.reg = g.reg → f.mask &&& g.mask = 0

instance (f g : BitField A) : Decidable (f.Disjoint g) :=
  inferInstanceAs (Decidable (_ → _))

/-- A write to one field is not seen in another. -/
theorem BitField.get_write_of_disjoint {f g : BitField A} (h : f.Disjoint g) (regs : A → UInt8)
    (data : UInt8) : g.get (write regs f.reg f.mask data) = g.get regs := by
  unfold get write
  by_cases hr : g.reg = f.reg
  · rw [hr, Function.update_self, setMasked_and_of_disjoint (h hr.symm)]
  · rw [Function.update_of_ne hr]

/-- **Packed settings.** Fields without common bits behave as independent
variables: a write to one of them updates that variable. -/
theorem get_write {X : Type} [DecidableEq X] {field : X → BitField A}
    (hd : ∀ x y, x ≠ y → (field x).Disjoint (field y)) (regs : A → UInt8) (x : X)
    (data : UInt8) :
    (fun y => (field y).get (write regs (field x).reg (field x).mask data)) =
      Function.update (fun y => (field y).get regs) x
        ((data &&& (field x).mask) >>> (field x).shift) := by
  funext y
  by_cases hy : y = x
  · subst hy
    rw [Function.update_self, BitField.get_write_self]
  · rw [Function.update_of_ne hy, BitField.get_write_of_disjoint (hd x y (Ne.symm hy))]

/-! ## Read, modify, write -/

/-- A masked write made in two halves: the read gives the register, or all bits
set when it fails, and the write may not be stored. -/
structure Attempt (A : Type) where
  reg : A
  mask : UInt8
  data : UInt8
  read : Bool
  stored : Bool
  deriving DecidableEq

namespace Attempt

/-- What the attempt does to the registers. -/
def apply (regs : A → UInt8) (a : Attempt A) : A → UInt8 :=
  if a.stored then
    Function.update regs a.reg (setMasked (if a.read then regs a.reg else 0xFF) a.mask a.data)
  else regs

/-- The masked write in its place. -/
def intend (regs : A → UInt8) (a : Attempt A) : A → UInt8 :=
  if a.stored then write regs a.reg a.mask a.data else regs

/-- The register is written though it was not read. -/
def Blind (a : Attempt A) : Prop := a.stored = true ∧ a.read = false

instance : DecidablePred (Blind (A := A)) := fun _ => inferInstanceAs (Decidable (_ ∧ _))

/-- The bits of a register that attempts write. -/
def rewritten (reg : A) : List (Attempt A) → UInt8
  | [] => 0
  | a :: as => (if a.stored ∧ a.reg = reg then a.mask else 0) ||| rewritten reg as

/-- A blind write to the register sets no bits but those of its mask, those that
are written again and those that are set in `final`. -/
def Harmless (reg : A) (final : UInt8) : List (Attempt A) → Prop
  | [] => True
  | a :: later =>
    (a.Blind → a.reg = reg → final ||| a.mask ||| rewritten reg later = 0xFF) ∧
      Harmless reg final later

variable {reg : A} {final : UInt8}

theorem rewritten_append (as bs : List (Attempt A)) :
    rewritten reg (as ++ bs) = rewritten reg as ||| rewritten reg bs := by
  induction as with
  | nil => exact UInt8.zero_or.symm
  | cons a as ih => rw [List.cons_append, rewritten, ih, rewritten, UInt8.or_assoc]

theorem harmless_append (as bs : List (Attempt A)) :
    Harmless reg final (as ++ bs) ↔
      Harmless reg (final ||| rewritten reg bs) as ∧ Harmless reg final bs := by
  induction as with
  | nil => simp [Harmless]
  | cons a as ih =>
    have hor : final ||| a.mask ||| rewritten reg (as ++ bs) =
        final ||| rewritten reg bs ||| a.mask ||| rewritten reg as := by
      rw [rewritten_append]
      ac_rfl
    rw [List.cons_append, Harmless, Harmless, ih, hor, and_assoc]

/-- Nothing is to be kept clear. -/
theorem harmless_ones (as : List (Attempt A)) : Harmless reg 0xFF as := by
  induction as with
  | nil => trivial
  | cons a as ih => exact ⟨fun _ _ => by rw [ones_or, ones_or], ih⟩

theorem apply_of_ne (regs : A → UInt8) {a : Attempt A} (h : ¬(a.stored = true ∧ a.reg = reg)) :
    apply regs a reg = regs reg ∧ intend regs a reg = regs reg := by
  unfold apply intend write
  cases hs : a.stored with
  | false => exact ⟨rfl, rfl⟩
  | true =>
    have hne : reg ≠ a.reg := fun he => h ⟨hs, he.symm⟩
    simp only [if_true, Function.update_of_ne hne, and_self]

theorem apply_mask (regs : A → UInt8) {a : Attempt A} (h : a.stored = true) :
    apply regs a a.reg &&& a.mask = a.data &&& a.mask := by
  rw [apply, if_pos h, Function.update_self, setMasked_and_self]

/-- One attempt keeps the bits outside its mask unless it sets some of them blindly. -/
theorem apply_frame_iff (regs : A → UInt8) (a : Attempt A) :
    apply regs a a.reg &&& ~~~a.mask = regs a.reg &&& ~~~a.mask ↔
      (a.Blind → regs a.reg ||| a.mask = 0xFF) := by
  unfold apply Blind
  cases hstored : a.stored with
  | false => simp
  | true =>
    rw [if_pos rfl, Function.update_self, setMasked_and_not_iff]
    cases hread : a.read with
    | true => simp
    | false => simp [ones_or, eq_comm]

/-- One register, up to the bits `m` that are of no interest. -/
theorem foldl_apply_or_iff (reg : A) (regs : A → UInt8) (as : List (Attempt A)) (m : UInt8) :
    as.foldl apply regs reg ||| m = as.foldl intend regs reg ||| m ↔
      Harmless reg (as.foldl intend regs reg ||| m) as := by
  induction as using List.reverseRecOn generalizing m with
  | nil => simp [Harmless]
  | append_singleton as a ih =>
    rw [List.foldl_append, List.foldl_append, List.foldl_cons, List.foldl_nil, List.foldl_cons,
      List.foldl_nil, harmless_append]
    by_cases ha : a.stored = true ∧ a.reg = reg
    · obtain ⟨hstored, rfl⟩ := ha
      have hintend : intend (as.foldl intend regs) a a.reg =
          setMasked (as.foldl intend regs a.reg) a.mask a.data := by
        rw [intend, if_pos hstored, write, Function.update_self]
      have hrewritten : rewritten a.reg [a] = a.mask := by
        rw [rewritten, if_pos ⟨hstored, rfl⟩, rewritten, UInt8.or_zero]
      rw [hintend, hrewritten, setMasked_or_mask, apply, if_pos hstored, Function.update_self]
      cases hread : a.read with
      | true =>
        have hlast : Harmless a.reg (setMasked (as.foldl intend regs a.reg) a.mask a.data ||| m) [a] :=
          ⟨fun hblind => (nomatch hblind.2.symm.trans hread), trivial⟩
        rw [if_pos rfl, setMasked_or_inj, ih, and_iff_left hlast]
      | false =>
        rw [if_neg Bool.false_ne_true, setMasked_ones_iff]
        constructor
        · intro hones
          refine ⟨by rw [hones]; exact harmless_ones as, ?_, trivial⟩
          intro _ _
          rw [rewritten, UInt8.or_zero, setMasked_or_mask, hones]
        · rintro ⟨-, hlast, -⟩
          have := hlast ⟨hstored, hread⟩ rfl
          rwa [rewritten, UInt8.or_zero, setMasked_or_mask] at this
    · have hblind : Harmless reg (as.foldl intend regs reg ||| m) [a] :=
        ⟨fun hblind he => absurd ⟨hblind.1, he⟩ ha, trivial⟩
      rw [(apply_of_ne _ ha).1, (apply_of_ne _ ha).2, rewritten, if_neg ha, rewritten,
        UInt8.zero_or, UInt8.or_zero, ih, and_iff_left hblind]

/-- **Blind writes.** Attempts do what they are to do if and only if every bit
that a blind write sets outside its mask is written again or is to be set. -/
theorem foldl_apply_eq_iff (regs : A → UInt8) (as : List (Attempt A)) :
    as.foldl apply regs = as.foldl intend regs ↔
      ∀ reg, Harmless reg (as.foldl intend regs reg) as := by
  rw [funext_iff]
  refine forall_congr' fun reg => ?_
  have h := foldl_apply_or_iff reg regs as 0
  rwa [UInt8.or_zero, UInt8.or_zero] at h

end Attempt

end RegisterFile
