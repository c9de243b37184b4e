import MeteoL053.Calls

/-!
The EEPROM driver of `eeprom_lld.c`. `osalDbgAssert` is compiled out, so every
helper goes on from whatever state it finds. How long the flash stays busy is
an oracle: the `n`-th `eepromWaitForReady` since power-on sees `waits n`.
-/

namespace MeteoL053.Eeprom

/-- `eepromState_t`. -/
inductive EepromState where
  | ninit
  | ready
  | activeWrite
  | unlocked
  | failed
  deriving DecidableEq, Repr

/-- What one wait sees: the clock when it starts, and the clock at each poll
that finds `BSY` set. The poll after the last of them finds it clear. -/
structure Wait where
  start : UInt16
  busy : List UInt16

/-- The polling loop of `eepromWaitForReady`. -/
def pollBusy (start stop : UInt16) : List UInt16 → Msg
  | [] => .ok
  | now :: busy => if timeIsInRange now start stop then pollBusy start stop busy else .timeout

/-- `eepromWaitForReady`; `OSAL_MS2I(1000)` is 1000 ticks. -/
def eepromWaitForReady (w : Wait) : Msg := pollBusy w.start (w.start + 1000) w.busy

def dataEepromBase : UInt32 := 0x08080000
def flashPekey1 : UInt32 := 0x89ABCDEF
def flashPekey2 : UInt32 := 0x02030405

/-- A byte store to the EEPROM, and whether the memory took it. -/
structure Store where
  addr : UInt32
  data : UInt8
  taken : Bool
  deriving DecidableEq, Repr

/-- The flash interface: `BSY`, the bits of `PECR` the driver uses, whether
`PEKEYR` has seen the first key, the memory, and every byte store so far. -/
structure Flash where
  busy : Bool
  pelock : Bool
  erase : Bool
  data : Bool
  errie : Bool
  eopie : Bool
  key1 : Bool
  mem : UInt32 → UInt8
  stores : List Store

/-- The interface after a reset of the microcontroller. -/
def Flash.reset (mem : UInt32 → UInt8) : Flash where
  busy := false
  pelock := true
  erase := false
  data := false
  errie := false
  eopie := false
  key1 := false
  mem := mem
  stores := []

/-- A write to `PEKEYR`: the two keys in order clear `PELOCK`. -/
def Flash.writePekeyr (key : UInt32) (f : Flash) : Flash :=
  if !f.pelock then f
  else if f.key1 then { f with key1 := false, pelock := key != flashPekey2 }
  else { f with key1 := key == flashPekey1 }

/-- The memory takes a byte store if it is unlocked and not busy. -/
def Flash.takes (f : Flash) : Bool := !f.pelock && !f.busy

/-- A byte store. One that is taken makes the flash busy, any other has no effect. -/
def Flash.store (addr : UInt32) (data : UInt8) (f : Flash) : Flash :=
  { f with
    busy := f.busy || f.takes
    mem := if f.takes then Function.update f.mem addr data else f.mem
    stores := f.stores ++ [⟨addr, data, f.takes⟩] }

/-- `EEPROMDriver_t` with the flash behind it and the number of waits made. -/
structure Driver where
  state : EepromState
  flash : Flash
  waited : Nat

/-- `EEPROM__init` on the driver a reset leaves. -/
def eepromInit (mem : UInt32 → UInt8) : Driver where
  state := .ready
  flash := .reset mem
  waited := 0

section Functions

variable (waits : Nat → Wait)

/-- The `n`-th wait times out. -/
def TimedOut (n : Nat) : Prop := eepromWaitForReady (waits n) ≠ .ok

instance (n : Nat) : Decidable (TimedOut waits n) := inferInstanceAs (Decidable (_ ≠ _))

/-- The driver after a wait that ended with `BSY` as in `busy`. -/
def Driver.waitedFor (busy : Bool) (d : Driver) : Driver :=
  { d with flash := { d.flash with busy := busy }, waited := d.waited + 1 }

/-- A wait, and what the driver does when it succeeds. All helpers mark the
driver as failed and return when their wait times out. -/
def Driver.afterWait (d : Driver) (next : Driver → Driver) : Driver :=
  if TimedOut waits d.waited then { d.waitedFor true with state := .failed }
  else next (d.waitedFor false)

def unlockEeprom (d : Driver) : Driver :=
  d.afterWait waits fun d =>
    if d.flash.pelock then
      { d with
        flash := (d.flash.writePekeyr flashPekey1).writePekeyr flashPekey2
        state := .unlocked }
    else d

def eepromProgram (addr : UInt32) (data : UInt8) (d : Driver) : Driver :=
  d.afterWait waits fun d => { d with flash := d.flash.store addr data }

def lockEeprom (state : EepromState) (d : Driver) : Driver :=
  d.afterWait waits fun d =>
    { d with
      flash := { d.flash with errie := false, eopie := false, pelock := true }
      state := state }

/-- The loop of `writeRegistersToEeprom`, from its `i`-th turn on. -/
def programFrom (addr : UInt32) (i : UInt32) : List UInt8 → Driver → Driver
  | [], d => d
  | b :: data, d =>
    programFrom addr (i + 1) data (eepromProgram waits (dataEepromBase + addr + i) b d)

/-- `writeRegistersToEeprom` up to its loop. -/
def openEeprom (d : Driver) : Driver :=
  let d := unlockEeprom waits { d with state := .activeWrite }
  { d with flash := { d.flash with erase := false, data := false } }

def writeRegistersToEeprom (addr : UInt32) (data : List UInt8) (d : Driver) : Driver :=
  lockEeprom waits .ready (programFrom waits addr 0 data (openEeprom waits d))

/-- The bytes at `addr`. -/
def Flash.read (f : Flash) (addr : UInt32) (size : Nat) : List UInt8 :=
  (List.range size).map fun i => f.mem (dataEepromBase + addr + UInt32.ofNat i)

/-- `eepromRead`: the bytes read, `none` when the buffer is left as it was. -/
def eepromRead (addr : UInt32) (size : Nat) (d : Driver) : Option (List UInt8) × Driver :=
  if TimedOut waits d.waited then (none, { d.waitedFor true with state := .failed })
  else (some (d.flash.read addr size), d.waitedFor false)

/-- A call of `EEPROM__write` or `EEPROM__read`. -/
inductive EepromCall where
  | write (addr : UInt32) (data : List UInt8)
  | read (addr : UInt32) (size : Nat)

def EepromCall.perform : EepromCall → Driver → Driver
  | write addr data, d => writeRegistersToEeprom waits addr data d
  | read addr size, d => (eepromRead waits addr size d).2

def performAll : List EepromCall → Driver → Driver
  | [], d => d
  | c :: calls, d => performAll calls (c.perform waits d)

end Functions

section Specifications

variable {waits : Nat → Wait}

theorem Driver.afterWait_of_ok {d : Driver} (next : Driver → Driver)
    (h : ¬ TimedOut waits d.waited) :
    d.afterWait waits next = next (d.waitedFor false) := if_neg h

/-- What holds whether or not the wait times out. -/
theorem Driver.afterWait_ind {P : Driver → Prop} {d : Driver} {next : Driver → Driver}
    (failed : P { d.waitedFor true with state := .failed })
    (ok : P (next (d.waitedFor false))) : P (d.afterWait waits next) := by
  unfold Driver.afterWait
  split
  · exact failed
  · exact ok

/-- From a locked interface the two keys clear `PELOCK`. -/
theorem Flash.writePekeyr_keys {f : Flash} (hp : f.pelock = true) (hk : f.key1 = false) :
    (f.writePekeyr flashPekey1).writePekeyr flashPekey2 = { f with pelock := false } := by
  simp [writePekeyr, hp, hk]

/-! ### Waits -/

@[simp] theorem unlockEeprom_waited (d : Driver) :
    (unlockEeprom waits d).waited = d.waited + 1 := by
  apply Driver.afterWait_ind (P := fun e => e.waited = d.waited + 1)
  · rfl
  · split <;> rfl

@[simp] theorem openEeprom_waited (d : Driver) : (openEeprom waits d).waited = d.waited + 1 :=
  unlockEeprom_waited _

@[simp] theorem eepromProgram_waited (addr : UInt32) (b : UInt8) (d : Driver) :
    (eepromProgram waits addr b d).waited = d.waited + 1 :=
  Driver.afterWait_ind (P := fun e => e.waited = d.waited + 1) rfl rfl

@[simp] theorem lockEeprom_waited (state : EepromState) (d : Driver) :
    (lockEeprom waits state d).waited = d.waited + 1 :=
  Driver.afterWait_ind (P := fun e => e.waited = d.waited + 1) rfl rfl

@[simp] theorem programFrom_waited (addr i : UInt32) (data : List UInt8) (d : Driver) :
    (programFrom waits addr i data d).waited = d.waited + data.length := by
  induction data generalizing i d with
  | nil => rfl
  | cons b data ih =>
    simp only [programFrom, ih, eepromProgram_waited, List.length_cons]
    omega

/-- A write makes one wait to unlock, one for each byte and one to lock. -/
theorem write_waited (addr : UInt32) (data : List UInt8) (d : Driver) :
    (writeRegistersToEeprom waits addr data d).waited = d.waited + data.length + 2 := by
  simp only [writeRegistersToEeprom, lockEeprom_waited, programFrom_waited, openEeprom_waited]
  omega

/-! ### The state on return -/

theorem lockEeprom_state (state : EepromState) (d : Driver) :
    (lockEeprom waits state d).state = if TimedOut waits d.waited then .failed else state := by
  unfold lockEeprom Driver.afterWait
  split <;> rfl

/-- Only the last wait of a write decides its state on return. -/
theorem write_state (addr : UInt32) (data : List UInt8) (d : Driver) :
    (writeRegistersToEeprom waits addr data d).state =
      if TimedOut waits (d.waited + data.length + 1) then .failed else .ready := by
  have hw : d.waited + 1 + data.length = d.waited + data.length + 1 := by omega
  simp only [writeRegistersToEeprom, lockEeprom_state, programFrom_waited, openEeprom_waited, hw]

/-! ### A write without a timeout -/

/-- What the stores of a write leave of the memory. -/
def programmed (addr : UInt32) (i : UInt32) : List UInt8 → (UInt32 → UInt8) → UInt32 → UInt8
  | [], mem => mem
  | b :: data, mem =>
    programmed addr (i + 1) data (Function.update mem (dataEepromBase + addr + i) b)

/-- The stores of a write, all of them taken. -/
def storesOf (addr : UInt32) (i : UInt32) : List UInt8 → List Store
  | [] => []
  | b :: data => ⟨dataEepromBase + addr + i, b, true⟩ :: storesOf addr (i + 1) data

theorem unlockEeprom_of_ok {d : Driver} (hw : ¬ TimedOut waits d.waited)
    (hk : d.flash.key1 = false) :
    (unlockEeprom waits d).flash = { d.flash with busy := false, pelock := false } := by
  rw [unlockEeprom, Driver.afterWait_of_ok _ hw]
  by_cases hp : (d.waitedFor false).flash.pelock = true
  · rw [if_pos hp]
    exact Flash.writePekeyr_keys hp hk
  · rw [if_neg hp]
    have hopen : d.flash.pelock = false := Bool.not_eq_true _ ▸ hp
    rw [← hopen]
    rfl

theorem eepromProgram_of_ok (addr : UInt32) (b : UInt8) {d : Driver}
    (hw : ¬ TimedOut waits d.waited) :
    (eepromProgram waits addr b d).flash = { d.flash with busy := false }.store addr b := by
  rw [eepromProgram, Driver.afterWait_of_ok _ hw]
  rfl

/-- Every byte finds the flash ready, since the wait before it has succeeded; the
last one leaves it busy. -/
theorem programFrom_of_ok (addr i : UInt32) (data : List UInt8) {d : Driver}
    (hw : ∀ k < data.length, ¬ TimedOut waits (d.waited + k)) (hp : d.flash.pelock = false) :
    (programFrom waits addr i data d).flash =
      { d.flash with
        busy := if data = [] then d.flash.busy else true
        mem := programmed addr i data d.flash.mem
        stores := d.flash.stores ++ storesOf addr i data } := by
  induction data generalizing i d with
  | nil => simp only [programFrom, programmed, storesOf, List.append_nil, if_pos]
  | cons b data ih =>
    have hstep := eepromProgram_of_ok (dataEepromBase + addr + i) b (hw 0 (Nat.succ_pos _))
    rw [programFrom, ih, hstep]
    · simp [Flash.store, Flash.takes, hp, programmed, storesOf]
    · intro k hk
      have := hw (k + 1) (Nat.succ_lt_succ hk)
      rwa [eepromProgram_waited, show d.waited + 1 + k = d.waited + (k + 1) by omega]
    · rw [hstep]
      exact hp

theorem openEeprom_of_ok {d : Driver} (hw : ¬ TimedOut waits d.waited)
    (hk : d.flash.key1 = false) :
    (openEeprom waits d).flash =
      { d.flash with busy := false, pelock := false, erase := false, data := false } := by
  have hunlock := unlockEeprom_of_ok (d := { d with state := .activeWrite }) hw hk
  simp only [openEeprom, hunlock]

/-- The bytes of a write that is under way, with no timeout so far. -/
theorem programFrom_openEeprom_mem (addr : UInt32) (data : List UInt8) {d : Driver}
    (hw : ∀ k ≤ data.length, ¬ TimedOut waits (d.waited + k)) (hk : d.flash.key1 = false) :
    (programFrom waits addr 0 data (openEeprom waits d)).flash.mem =
      programmed addr 0 data d.flash.mem := by
  have hopen := openEeprom_of_ok (hw 0 (Nat.zero_le _)) hk
  rw [programFrom_of_ok, hopen]
  · intro k hlt
    have := hw (k + 1) hlt
    rwa [openEeprom_waited, Nat.add_assoc, Nat.add_comm 1]
  · rw [hopen]

/-- A write whose waits all succeed stores its bytes and locks the memory again. -/
theorem write_of_ok (addr : UInt32) (data : List UInt8) {d : Driver}
    (hw : ∀ k ≤ data.length + 1, ¬ TimedOut waits (d.waited + k)) (hk : d.flash.key1 = false) :
    (writeRegistersToEeprom waits addr data d).flash =
      { Flash.reset (programmed addr 0 data d.flash.mem) with
        stores := d.flash.stores ++ storesOf addr 0 data } := by
  have hopen := openEeprom_of_ok (hw 0 (Nat.zero_le _)) hk
  rw [writeRegistersToEeprom, lockEeprom, Driver.afterWait_of_ok]
  · dsimp only [Driver.waitedFor]
    rw [programFrom_of_ok, hopen]
    · simp [Flash.reset, hk]
    · intro k hlt
      have := hw (k + 1) (by omega)
      rwa [openEeprom_waited, Nat.add_assoc, Nat.add_comm 1]
    · rw [hopen]
  · have := hw (data.length + 1) (Nat.le_refl _)
    simpa [Nat.add_assoc, Nat.add_comm 1] using this

/-! ### The key register between calls -/

/-- No helper leaves `PEKEYR` between its two keys. -/
theorem unlockEeprom_key1 {d : Driver} (h : d.flash.key1 = false) :
    (unlockEeprom waits d).flash.key1 = false := by
  apply Driver.afterWait_ind (P := fun e => e.flash.key1 = false)
  · exact h
  · split
    · next hp => rw [Flash.writePekeyr_keys hp h]; exact h
    · exact h

theorem programFrom_key1 (addr i : UInt32) (data : List UInt8) (d : Driver) :
    (programFrom waits addr i data d).flash.key1 = d.flash.key1 := by
  induction data generalizing i d with
  | nil => rfl
  | cons b data ih =>
    rw [programFrom, ih]
    exact Driver.afterWait_ind (P := fun e => e.flash.key1 = d.flash.key1) rfl rfl

theorem lockEeprom_key1 (state : EepromState) (d : Driver) :
    (lockEeprom waits state d).flash.key1 = d.flash.key1 :=
  Driver.afterWait_ind (P := fun e => e.flash.key1 = d.flash.key1) rfl rfl

theorem EepromCall.perform_key1 (c : EepromCall) {d : Driver} (h : d.flash.key1 = false) :
    (c.perform waits d).flash.key1 = false := by
  cases c with
  | write addr data =>
    simp only [perform, writeRegistersToEeprom, lockEeprom_key1, programFrom_key1, openEeprom]
    exact unlockEeprom_key1 h
  | read addr size =>
    simp only [perform, eepromRead]
    split <;> exact h

theorem performAll_key1 (calls : List EepromCall) {d : Driver} (h : d.flash.key1 = false) :
    (performAll waits calls d).flash.key1 = false := by
  induction calls generalizing d with
  | nil => exact h
  | cons c calls ih => exact ih (c.perform_key1 h)

/-! ### Reading back -/

/-- Stores behind an address leave it alone, as long as the addresses do not wrap. -/
theorem programmed_before (addr : UInt32) (data : List UInt8) (mem : UInt32 → UInt8) {i j : Nat}
    (hi : i < j) (hj : j + data.length ≤ 2 ^ 32) :
    programmed addr (UInt32.ofNat j) data mem (dataEepromBase + addr + UInt32.ofNat i) =
      mem (dataEepromBase + addr + UInt32.ofNat i) := by
  induction data generalizing j mem with
  | nil => rfl
  | cons b data ih =>
    simp only [List.length_cons] at hj
    have hne : dataEepromBase + addr + UInt32.ofNat i ≠ dataEepromBase + addr + UInt32.ofNat j := by
      intro h
      have := congrArg UInt32.toNat ((UInt32.add_right_inj _).1 h)
      simp only [UInt32.toNat_ofNat'] at this
      omega
    have := ih (Function.update mem (dataEepromBase + addr + UInt32.ofNat j) b) (j := j + 1)
      (by omega) (by omega)
    rw [UInt32.ofNat_add j 1] at this
    rw [programmed, show (1 : UInt32) = UInt32.ofNat 1 from rfl, this, Function.update_of_ne hne]

theorem programmed_get (addr : UInt32) (data : List UInt8) (mem : UInt32 → UInt8) (j i : Nat)
    (hj : j + data.length ≤ 2 ^ 32) (hi : i < data.length) :
    programmed addr (UInt32.ofNat j) data mem (dataEepromBase + addr + UInt32.ofNat (j + i)) =
      data[i] := by
  induction data generalizing i j mem with
  | nil => cases hi
  | cons b data ih =>
    simp only [List.length_cons] at hj hi
    rw [programmed, show (1 : UInt32) = UInt32.ofNat 1 from rfl, ← UInt32.ofNat_add]
    cases i with
    | zero =>
      simp only [Nat.add_zero, List.getElem_cons_zero]
      rw [programmed_before addr data _ (Nat.lt_add_one j) (by omega), Function.update_self]
    | succ i =>
      have := ih (Function.update mem (dataEepromBase + addr + UInt32.ofNat j) b) (j + 1) i
        (by omega) (by omega)
      rwa [show j + 1 + i = j + (i + 1) by omega] at this

/-- A write stores nothing outside its range. -/
theorem programmed_of_ne (addr : UInt32) (data : List UInt8) (mem : UInt32 → UInt8) {j : Nat}
    {x : UInt32} (hx : ∀ i < data.length, x ≠ dataEepromBase + addr + UInt32.ofNat (j + i)) :
    programmed addr (UInt32.ofNat j) data mem x = mem x := by
  induction data generalizing j mem with
  | nil => rfl
  | cons b data ih =>
    have hrest := ih (Function.update mem (dataEepromBase + addr + UInt32.ofNat j) b) (j := j + 1)
      fun i hi => by
        have := hx (i + 1) (Nat.succ_lt_succ hi)
        rwa [show j + (i + 1) = j + 1 + i by omega] at this
    rw [UInt32.ofNat_add j 1] at hrest
    have hne : x ≠ dataEepromBase + addr + UInt32.ofNat j := hx 0 (Nat.succ_pos _)
    rw [programmed, show (1 : UInt32) = UInt32.ofNat 1 from rfl, hrest, Function.update_of_ne hne]

/-- A write that is under way has its bytes before the old ones. -/
theorem read_programmed (addr : UInt32) (data : List UInt8) (size : Nat) {f f' : Flash}
    (hmem : f'.mem = programmed addr 0 data f.mem) (hlen : data.length ≤ size)
    (hsize : size ≤ 2 ^ 32) :
    f'.read addr size = data ++ (f.read addr size).drop data.length := by
  apply List.ext_getElem
  · simp only [Flash.read, List.length_map, List.length_range, List.length_append, List.length_drop]
    omega
  · intro i hi hi'
    have hi : i < size := by simpa [Flash.read] using hi
    by_cases h : i < data.length
    · have hget := programmed_get addr data f.mem 0 i (by omega) h
      rw [Nat.zero_add] at hget
      rw [List.getElem_append_left h]
      simp only [Flash.read, List.getElem_map, List.getElem_range, hmem]
      exact hget
    · have hne : programmed addr 0 data f.mem (dataEepromBase + addr + UInt32.ofNat i) =
          f.mem (dataEepromBase + addr + UInt32.ofNat i) := by
        refine programmed_of_ne addr data f.mem (j := 0) fun k hk heq => ?_
        have := congrArg UInt32.toNat ((UInt32.add_right_inj _).1 heq)
        simp only [UInt32.toNat_ofNat'] at this
        omega
      rw [List.getElem_append_right (Nat.le_of_not_lt h)]
      simp only [Flash.read, List.getElem_drop, List.getElem_map, List.getElem_range, hmem,
        Nat.add_sub_cancel' (Nat.le_of_not_lt h)]
      exact hne

variable (waits) in
theorem programFrom_snoc (addr : UInt32) (j : Nat) (data : List UInt8) (b : UInt8) (d : Driver) :
    programFrom waits addr (UInt32.ofNat j) (data ++ [b]) d =
      eepromProgram waits (dataEepromBase + addr + UInt32.ofNat (j + data.length)) b
        (programFrom waits addr (UInt32.ofNat j) data d) := by
  induction data generalizing j d with
  | nil => rfl
  | cons c data ih =>
    have hnext : UInt32.ofNat j + 1 = UInt32.ofNat (j + 1) := (UInt32.ofNat_add j 1).symm
    have hlen : j + 1 + data.length = j + (data.length + 1) := by omega
    rw [List.cons_append, programFrom, programFrom, hnext, ih, List.length_cons, hlen]

/-- What a write without a timeout stored is read back. -/
theorem read_write (addr : UInt32) (data : List UInt8) {d : Driver}
    (hlen : data.length ≤ 2 ^ 32)
    (hw : ∀ k ≤ data.length + 1, ¬ TimedOut waits (d.waited + k)) (hk : d.flash.key1 = false) :
    (writeRegistersToEeprom waits addr data d).flash.read addr data.length = data := by
  rw [write_of_ok addr data hw hk]
  apply List.ext_getElem
  · simp [Flash.read]
  · intro i hi hi'
    have := programmed_get addr data d.flash.mem 0 i (by omega) hi'
    simpa [Flash.read, Flash.reset] using this

end Specifications

/-! ## Failed writes -/

/-- The write of `data` at `addr` from `d` does not mask a failure: it ends
`READY` only with all its bytes taken by the memory and `PELOCK` set
again, and it ends `FAILED` when one of its waits timed out. -/
structure Unmasked (waits : Nat → Wait) (addr : UInt32) (data : List UInt8) (d d' : Driver) :
    Prop where
  stored : d'.state = .ready → d'.flash.pelock = true ∧
    ∀ i, ∀ h : i < data.length,
      ⟨dataEepromBase + addr + UInt32.ofNat i, data[i], true⟩ ∈
        d'.flash.stores.drop d.flash.stores.length
  failed : (∃ n, d.waited ≤ n ∧ n < d'.waited ∧ TimedOut waits n) → d'.state = .failed

theorem mem_storesOf (addr : UInt32) (data : List UInt8) (j i : Nat) (h : i < data.length) :
    ⟨dataEepromBase + addr + UInt32.ofNat (j + i), data[i], true⟩ ∈
      storesOf addr (UInt32.ofNat j) data := by
  induction data generalizing j i with
  | nil => cases h
  | cons b data ih =>
    cases i with
    | zero => exact List.mem_cons_self
    | succ i =>
      have := ih (j + 1) i (Nat.lt_of_succ_lt_succ h)
      rw [show j + 1 + i = j + (i + 1) by omega, UInt32.ofNat_add j 1] at this
      exact List.mem_cons_of_mem _ this

/-- After any calls on an initialised driver, a write does not mask a failure
exactly when its closing lock step times out or none of its waits does: a
timeout while unlocking or at a byte is overwritten by the `READY` of the lock
step. -/
theorem write_unmasked_iff (waits : Nat → Wait) (mem : UInt32 → UInt8) (calls : List EepromCall)
    (addr : UInt32) (data : List UInt8) :
    Unmasked waits addr data (performAll waits calls (eepromInit mem))
        (writeRegistersToEeprom waits addr data (performAll waits calls (eepromInit mem))) ↔
      TimedOut waits ((performAll waits calls (eepromInit mem)).waited + data.length + 1) ∨
      ∀ k ≤ data.length + 1,
        ¬ TimedOut waits ((performAll waits calls (eepromInit mem)).waited + k) := by
  have hkey : (performAll waits calls (eepromInit mem)).flash.key1 = false :=
    performAll_key1 calls rfl
  generalize performAll waits calls (eepromInit mem) = d at hkey
  have hstate := @write_state waits addr data d
  have hwaited := @write_waited waits addr data d
  constructor
  · intro h
    apply Decidable.or_iff_not_imp_left.2
    intro hlock k hk hk'
    rw [if_neg hlock] at hstate
    have := h.failed ⟨d.waited + k, by omega, by omega, hk'⟩
    rw [hstate] at this
    cases this
  · rintro (hlock | hok)
    · rw [if_pos hlock] at hstate
      exact ⟨fun h => absurd (hstate.symm.trans h) (by decide), fun _ => hstate⟩
    · have hflash := write_of_ok addr data hok hkey
      constructor
      · intro _
        rw [hflash]
        refine ⟨rfl, fun i h => ?_⟩
        have := mem_storesOf addr data 0 i h
        simpa using this
      · rintro ⟨n, hn, hn', hto⟩
        have := hok (n - d.waited) (by omega)
        rw [show d.waited + (n - d.waited) = n by omega] at this
        exact absurd hto this

/-- The flash is busy for a second at the second wait and ready at all others. -/
def busyAtFirstByte (n : Nat) : Wait where
  start := 0
  busy := if n = 1 then [1000] else []

/-- A write of the byte 3 to an erased memory: the wait of `eepromProgram` times
out, nothing is stored, and the driver ends `READY`. -/
theorem write_masks_timeout :
    TimedOut busyAtFirstByte 1 ∧
    (writeRegistersToEeprom busyAtFirstByte 0 [3] (eepromInit fun _ => 0)).state = .ready ∧
    (writeRegistersToEeprom busyAtFirstByte 0 [3] (eepromInit fun _ => 0)).flash.stores = [] ∧
    ¬ Unmasked busyAtFirstByte 0 [3] (eepromInit fun _ => 0)
      (writeRegistersToEeprom busyAtFirstByte 0 [3] (eepromInit fun _ => 0)) := by
  have hto : TimedOut busyAtFirstByte 1 := by decide
  have hready : (writeRegistersToEeprom busyAtFirstByte 0 [3]
      (eepromInit fun _ => 0)).state = .ready := by decide
  refine ⟨hto, hready, by decide, fun h => ?_⟩
  have := h.failed ⟨1, by decide, by decide, hto⟩
  rw [hready] at this
  cases this

end MeteoL053.Eeprom
