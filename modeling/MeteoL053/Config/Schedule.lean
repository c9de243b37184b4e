import MeteoL053.Config.Saved

/-!
The `schedule <id> <seconds>` command of the shell against what was typed.

`cmd_sch` narrows both numbers to `uint8_t` before it looks at them.
-/

namespace MeteoL053.Config

/-! ## Decimal arguments -/

/-- `isspace` of the C library. -/
def isSpace (c : Char) : Bool := c = ' ' || (9 ≤ c.toNat && c.toNat ≤ 13)

/-- The digits from the start of a text on. -/
def atoiDigits (acc : Nat) : List Char → Nat
  | [] => acc
  | c :: cs => if c.isDigit then atoiDigits (10 * acc + (c.toNat - 48)) cs else acc

/-- A sign and the digits after it. -/
def atoiSigned : List Char → Int
  | '-' :: cs => -(atoiDigits 0 cs : Int)
  | '+' :: cs => atoiDigits 0 cs
  | cs => atoiDigits 0 cs

/-- `atoi` of the C library. The result is not defined when an `int` cannot hold
the number; here it is the number. -/
def atoi (s : String) : Int := atoiSigned (s.toList.dropWhile isSpace)

/-- A decimal argument: a sign and digits, with leading zeros or without. -/
structure Decimal where
  negative : Bool
  first : Fin 10
  rest : List (Fin 10)

namespace Decimal

def digitChar (d : Fin 10) : Char := Char.ofNat (48 + d)

/-- The characters of the argument. -/
def chars (a : Decimal) : List Char :=
  (if a.negative then ['-'] else []) ++ (a.first :: a.rest).map digitChar

def text (a : Decimal) : String := String.ofList a.chars

/-- The number its digits denote. -/
def magnitude (a : Decimal) : Nat := (a.first :: a.rest).foldl (fun acc d => 10 * acc + d.val) 0

/-- The integer it denotes. -/
def value (a : Decimal) : Int := if a.negative then -(a.magnitude : Int) else a.magnitude

theorem digitChar_isDigit (d : Fin 10) : (digitChar d).isDigit = true := by
  revert d
  decide

theorem digitChar_toNat (d : Fin 10) : (digitChar d).toNat - 48 = d.val := by
  revert d
  decide

theorem atoiDigits_map (acc : Nat) (ds : List (Fin 10)) :
    atoiDigits acc (ds.map digitChar) = ds.foldl (fun acc d => 10 * acc + d.val) acc := by
  induction ds generalizing acc with
  | nil => rfl
  | cons d ds ih =>
    rw [List.map_cons, atoiDigits, digitChar_isDigit, if_pos rfl, digitChar_toNat, List.foldl_cons]
    exact ih _

/-- `atoi` returns the denoted integer. -/
theorem atoi_text (a : Decimal) : atoi a.text = a.value := by
  obtain ⟨negative, first, rest⟩ := a
  have hfirst : ∀ d : Fin 10, isSpace (digitChar d) = false ∧ digitChar d ≠ '-' ∧
      digitChar d ≠ '+' := by decide
  obtain ⟨hspace, hminus, hplus⟩ := hfirst first
  have hdigits := atoiDigits_map 0 (first :: rest)
  cases negative with
  | true =>
    simp only [atoi, text, chars, String.toList_ofList, if_pos, List.singleton_append]
    rw [List.dropWhile_cons_of_neg (by decide), atoiSigned, hdigits]
    rfl
  | false =>
    simp only [atoi, text, chars, String.toList_ofList, Bool.false_eq_true, if_false,
      List.nil_append, List.map_cons]
    rw [List.dropWhile_cons_of_neg (by simp [hspace]), atoiSigned]
    · rw [← List.map_cons, hdigits]
      rfl
    · simpa using hminus
    · simpa using hplus

end Decimal

/-! ## What the command is for -/

/-- The schedule registered under the id `id`. -/
def registered (list : Fin scheduleListSize → Option Fitted) (id : Int) :
    Option (Fin scheduleListSize × Fitted) :=
  if h : 0 < id ∧ id < scheduleListSize then
    (list ⟨id.toNat, by omega⟩).map fun t => (⟨id.toNat, by omega⟩, t)
  else none

/-- The interval `n` for the thread `t` with the entry `i` of `appConfiguration`. -/
def assign (i : Fin scheduleListSize) (t : Fitted) (n : UInt16) (st : Station) : Station :=
  { st with
    interval := Function.update st.interval t n
    appConfiguration :=
      { st.appConfiguration with
        interval := Function.update st.appConfiguration.interval i n } }

/-- The assignment that `schedule <id> <n>` asks for, if any. -/
def asked (list : Fin scheduleListSize → Option Fitted) (id n : Int) :
    Option (Fin scheduleListSize × Fitted × UInt16) :=
  if 1 ≤ n ∧ n ≤ 65535 then
    (registered list id).map fun x => (x.1, x.2, UInt16.ofNat n.toNat)
  else none

def assignAsked : Option (Fin scheduleListSize × Fitted × UInt16) → Station → Station
  | some (i, t, n), st => assign i t n st
  | none, st => st

/-- The command asks for an assignment. -/
def Valid (list : Fin scheduleListSize → Option Fitted) (id n : Int) : Prop :=
  (registered list id).isSome = true ∧ 1 ≤ n ∧ n ≤ 65535

theorem asked_isSome_iff (list : Fin scheduleListSize → Option Fitted) (id n : Int) :
    (asked list id n).isSome = true ↔ Valid list id n := by
  unfold asked Valid
  split
  · next h => simp [h]
  · next h => simp [h]

theorem toNat_ofInt (z : Int) : (UInt8.ofInt z).toNat = (z % 256).toNat := by
  have h : (z % 256).toNat < 256 := by omega
  simp only [UInt8.ofInt, UInt8.toNat_ofNat']
  exact Nat.mod_eq_of_lt h

/-- `cmd_sch` does what it is asked for by the low bytes of its arguments. -/
theorem setSchedule_eq (id n : Int) (st : Station) :
    setSchedule (UInt8.ofInt id) (UInt8.ofInt n) st =
      assignAsked (asked st.scheduleList (id % 256) (n % 256)) st := by
  have hn : UInt8.ofInt n > 0 ↔ 1 ≤ n % 256 ∧ n % 256 ≤ 65535 := by
    rw [gt_iff_lt, UInt8.lt_iff_toNat_lt, toNat_ofInt, UInt8.toNat_zero]
    omega
  have hid : UInt8.ofInt id > 0 ∧ (UInt8.ofInt id).toNat < scheduleListSize ↔
      0 < id % 256 ∧ id % 256 < scheduleListSize := by
    rw [gt_iff_lt, UInt8.lt_iff_toNat_lt, toNat_ofInt, UInt8.toNat_zero]
    omega
  have hval : (UInt8.ofInt n).toUInt16 = UInt16.ofNat (n % 256).toNat := by
    apply UInt16.toNat_inj.mp
    have h : (n % 256).toNat < 256 := by omega
    rw [UInt8.toNat_toUInt16, toNat_ofInt, UInt16.toNat_ofNat', Nat.mod_eq_of_lt (by omega)]
  unfold setSchedule asked registered
  by_cases h : UInt8.ofInt id > 0 ∧ (UInt8.ofInt id).toNat < scheduleListSize
  · have hlt : (id % 256).toNat < scheduleListSize := toNat_ofInt id ▸ h.2
    have hindex : (⟨(id % 256).toNat, hlt⟩ : Fin scheduleListSize) =
        ⟨(UInt8.ofInt id).toNat, h.2⟩ := Fin.ext (toNat_ofInt id).symm
    rw [dif_pos h, dif_pos (hid.mp h), hindex]
    cases st.scheduleList ⟨(UInt8.ofInt id).toNat, h.2⟩ with
    | none => simp [assignAsked]
    | some t =>
      by_cases hpos : UInt8.ofInt n > 0
      · have hmsg : (UInt8.ofInt n).toUInt32.toUInt16 = UInt16.ofNat (n % 256).toNat := by
          rw [UInt8.toUInt16_toUInt32, hval]
        simp only [if_pos hpos, if_pos (hn.mp hpos), Option.map_some, assignAsked, assign, msgSend,
          nextInterval, hval, hmsg]
      · simp only [if_neg hpos, if_neg (mt hn.mpr hpos), assignAsked]
  · rw [dif_neg h, dif_neg (mt hid.mpr h)]
    simp [assignAsked]

/-! ## When it does what was typed -/

/-- A station in which every interval is `w`. -/
def uniform (list : Fin scheduleListSize → Option Fitted) (w : UInt16) : Station where
  eeprom := Eeprom.eepromInit fun _ => 0
  appConfiguration := ⟨version, 0, fun _ => w⟩
  scheduleList := list
  interval := fun _ => w

theorem exists_ne_ne (m n : UInt16) : ∃ w : UInt16, m ≠ w ∧ n ≠ w := by
  have hsucc : ∀ k : UInt16, ∀ d : UInt16, d ≠ 0 → k ≠ k + d := by
    intro k d hd he
    exact hd (by simpa using he.symm)
  by_cases h : n = m + 1
  · refine ⟨m + 2, hsucc m 2 (by decide), ?_⟩
    rw [h]
    exact fun he => absurd (UInt16.add_right_inj m |>.mp he) (by decide)
  · exact ⟨m + 1, hsucc m 1 (by decide), h⟩

/-- Assignments that act alike on every station are the same. -/
theorem assignAsked_inj (list : Fin scheduleListSize → Option Fitted)
    {x y : Option (Fin scheduleListSize × Fitted × UInt16)}
    (h : ∀ st : Station, st.scheduleList = list → assignAsked x st = assignAsked y st) : x = y := by
  match x, y with
  | none, none => rfl
  | some (i, t, n), none =>
    obtain ⟨w, hw, -⟩ := exists_ne_ne n n
    have he := congrArg (fun st => st.appConfiguration.interval i) (h (uniform list w) rfl)
    simp [assignAsked, assign, uniform] at he
    exact absurd he hw
  | none, some (i, t, n) =>
    obtain ⟨w, hw, -⟩ := exists_ne_ne n n
    have he := congrArg (fun st => st.appConfiguration.interval i) (h (uniform list w) rfl)
    simp [assignAsked, assign, uniform] at he
    exact absurd he.symm hw
  | some (i, t, n), some (j, u, m) =>
    obtain ⟨w, hn, hm⟩ := exists_ne_ne n m
    have hst := h (uniform list w) rfl
    have hi := congrArg (fun st => st.appConfiguration.interval i) hst
    have ht := congrArg (fun st => st.interval t) hst
    simp only [assignAsked, assign, uniform, Function.update_self, Function.update_apply] at hi ht
    split at hi
    · next hij =>
      split at ht
      · next htu => rw [hij, htu, hi]
      · exact absurd ht hn
    · exact absurd hi hn

theorem asked_mod_eq_iff (list : Fin scheduleListSize → Option Fitted) (id n : Int) :
    asked list (id % 256) (n % 256) = asked list id n ↔
      Valid list id n ∧ n ≤ 255 ∨ ¬ Valid list id n ∧ ¬ Valid list (id % 256) (n % 256) := by
  by_cases hv : Valid list id n
  · obtain ⟨hreg, hn1, hn2⟩ := hv
    have hid : 0 < id ∧ id < scheduleListSize := by
      unfold registered at hreg
      split at hreg
      · assumption
      · cases hreg
    have hmod : id % 256 = id := by
      have : (scheduleListSize : Int) = 10 := rfl
      omega
    obtain ⟨x, hx⟩ := Option.isSome_iff_exists.mp hreg
    rw [hmod]
    simp only [asked, hx, Option.map_some, if_pos (And.intro hn1 hn2)]
    constructor
    · intro he
      refine .inl ⟨⟨hreg, hn1, hn2⟩, ?_⟩
      split at he
      · have hval := congrArg UInt16.toNat (Prod.mk.inj (Prod.mk.inj (Option.some.inj he)).2).2
        simp only [UInt16.toNat_ofNat'] at hval
        omega
      · cases he
    · rintro (⟨-, hle⟩ | ⟨hnv, -⟩)
      · have hnmod : n % 256 = n := by omega
        rw [hnmod, if_pos ⟨hn1, hn2⟩]
      · exact absurd ⟨hreg, hn1, hn2⟩ hnv
  · have hnone : asked list id n = none := by
      rwa [← asked_isSome_iff, Option.not_isSome_iff_eq_none] at hv
    rw [hnone, ← Option.not_isSome_iff_eq_none, asked_isSome_iff]
    simp [hv]

/-- For every schedule list and all decimal arguments: whatever else the station
holds, the command does exactly what was typed, if and only if it asks for at
most 255 seconds for a registered id, or for nothing both as typed and in its
low bytes. -/
theorem cmdSch_sets_typed_iff (list : Fin scheduleListSize → Option Fitted) (a b : Decimal) :
    (∀ st : Station, st.scheduleList = list →
      (cmdSch atoi [a.text, b.text] st).1 = assignAsked (asked list a.value b.value) st) ↔
    Valid list a.value b.value ∧ b.value ≤ 255 ∨
      ¬ Valid list a.value b.value ∧ ¬ Valid list (a.value % 256) (b.value % 256) := by
  have hcmd : ∀ st : Station, st.scheduleList = list → (cmdSch atoi [a.text, b.text] st).1 =
      assignAsked (asked list (a.value % 256) (b.value % 256)) st := by
    rintro st rfl
    simp only [cmdSch, a.atoi_text, b.atoi_text]
    exact setSchedule_eq a.value b.value st
  rw [← asked_mod_eq_iff]
  constructor
  · intro h
    exact assignAsked_inj list fun st hst => (hcmd st hst).symm.trans (h st hst)
  · intro h st hst
    rw [hcmd st hst, h]

/-- Only the BMP280 is registered; every interval is 10 seconds. -/
def bmp280Only : Station := uniform (fun i => if i.val = 1 then some ⟨.bmp280, rfl⟩ else none) 10

/-- `schedule 1 300` sets 44 seconds, `schedule 257 60` sets the interval of
the thread with id 1. -/
theorem cmdSch_truncates :
    (cmdSch atoi ["1", "300"] bmp280Only).1.interval ⟨.bmp280, rfl⟩ = 44 ∧
    (cmdSch atoi ["1", "300"] bmp280Only).1.appConfiguration.interval 1 = 44 ∧
    (cmdSch atoi ["257", "60"] bmp280Only).1.interval ⟨.bmp280, rfl⟩ = 60 ∧
    (cmdSch atoi ["257", "60"] bmp280Only).1.appConfiguration.interval 1 = 60 := by
  decide +kernel

end MeteoL053.Config
