import MeteoL053.Eeprom

/-!
Reads and writes of the EEPROM in any order, when the flash is never busy for
too long: a read returns the latest bytes written, every call leaves the driver
READY with the memory locked, and no assertion of the driver fails.
-/

namespace MeteoL053.Eeprom

/-! ## The assertions -/

section Asserts

variable (waits : Nat → Wait)

/-- The `osalDbgAssert` conditions of the byte loop, from its `i`-th turn on: one of
the loop and one of `eepromProgram`. -/
def programAsserts (addr : UInt32) (i : UInt32) : List UInt8 → Driver → List Bool
  | [], _ => []
  | b :: data, d =>
    [decide (d.state = .unlocked), decide (d.state = .unlocked)] ++
      programAsserts addr (i + 1) data (eepromProgram waits (dataEepromBase + addr + i) b d)

/-- The conditions of `writeRegistersToEeprom`, `unlockEeprom`, the byte loop and
`lockEeprom`, in the order in which a write comes to them. -/
def writeAsserts (addr : UInt32) (data : List UInt8) (d : Driver) : List Bool :=
  let active := { d with state := EepromState.activeWrite }
  let unlocked := unlockEeprom waits active
  let opened := { unlocked with flash := { unlocked.flash with erase := false, data := false } }
  [decide (d.state = .ready), decide (active.state = .activeWrite)] ++
    programAsserts waits addr 0 data opened ++
    [decide ((programFrom waits addr 0 data opened).state = .unlocked)]

/-- The conditions a call comes to. -/
def EepromCall.asserts : EepromCall → Driver → List Bool
  | write addr data, d => writeAsserts waits addr data d
  | read _ _, d => [d.state = .ready]

end Asserts

/-! ## What the memory is to hold -/

/-- `DATA_EEPROM_END`. -/
def dataEepromEnd : UInt32 := 0x080807FF

/-- Bytes of the data EEPROM. -/
def eepromSize : Nat := dataEepromEnd.toNat - dataEepromBase.toNat + 1

/-- The range of a call lies inside the data EEPROM. -/
def EepromCall.Inside : EepromCall → Prop
  | write addr data => addr.toNat + data.length ≤ eepromSize
  | read addr size => addr.toNat + size ≤ eepromSize

instance : DecidablePred EepromCall.Inside
  | .write addr data => inferInstanceAs (Decidable (addr.toNat + data.length ≤ eepromSize))
  | .read addr size => inferInstanceAs (Decidable (addr.toNat + size ≤ eepromSize))

/-- The byte a call writes at offset `a` of the EEPROM, if it covers it. -/
def EepromCall.byteAt (a : Nat) : EepromCall → Option UInt8
  | write addr data => if addr.toNat ≤ a then data[a - addr.toNat]? else none
  | read _ _ => none

/-- The byte at offset `a` after some calls: that of the latest write that covers
it, or the one that was there before. -/
def latest (mem : UInt32 → UInt8) (calls : List EepromCall) (a : Nat) : UInt8 :=
  (calls.reverse.findSome? (EepromCall.byteAt a)).getD (mem (dataEepromBase + UInt32.ofNat a))

theorem latest_cons (mem : UInt32 → UInt8) (c : EepromCall) (calls : List EepromCall) (a : Nat) :
    latest mem (c :: calls) a = (calls.reverse.findSome? (EepromCall.byteAt a)).getD
      ((c.byteAt a).getD (mem (dataEepromBase + UInt32.ofNat a))) := by
  rw [latest, List.reverse_cons, List.findSome?_append]
  cases calls.reverse.findSome? (EepromCall.byteAt a) with
  | some b => rfl
  | none =>
    rw [Option.none_or, List.findSome?_singleton]
    rfl

/-! ## One call -/

/-- The address of an offset, in the sums of the source. -/
theorem base_add_offset (addr : UInt32) (i : Nat) :
    dataEepromBase + addr + UInt32.ofNat i = dataEepromBase + UInt32.ofNat (addr.toNat + i) := by
  rw [UInt32.ofNat_add, UInt32.ofNat_toNat, UInt32.add_assoc]

theorem offset_injective {a a' : Nat} (ha : a < eepromSize) (ha' : a' < eepromSize)
    (h : dataEepromBase + UInt32.ofNat a = dataEepromBase + UInt32.ofNat a') : a = a' := by
  have hsize : eepromSize = 2048 := rfl
  have := congrArg UInt32.toNat ((UInt32.add_right_inj _).1 h)
  simp only [UInt32.toNat_ofNat'] at this
  omega

/-- A write leaves its own bytes in its range and the old ones elsewhere. -/
theorem programmed_offset (addr : UInt32) (data : List UInt8) (mem : UInt32 → UInt8)
    (hin : (EepromCall.write addr data).Inside) {a : Nat} (ha : a < eepromSize) :
    programmed addr 0 data mem (dataEepromBase + UInt32.ofNat a) =
      ((EepromCall.write addr data).byteAt a).getD (mem (dataEepromBase + UInt32.ofNat a)) := by
  have hsize : eepromSize = 2048 := rfl
  have hin' : addr.toNat + data.length ≤ eepromSize := hin
  by_cases hcover : addr.toNat ≤ a ∧ a - addr.toNat < data.length
  · obtain ⟨hle, hlt⟩ := hcover
    have hget := programmed_get addr data mem 0 (a - addr.toNat) (by omega) hlt
    rw [Nat.zero_add, base_add_offset, Nat.add_sub_cancel' hle] at hget
    simp only [EepromCall.byteAt, if_pos hle, List.getElem?_eq_getElem hlt, Option.getD_some]
    exact hget
  · have hnone : (EepromCall.write addr data).byteAt a = none := by
      simp only [EepromCall.byteAt]
      split
      · exact List.getElem?_eq_none (by omega)
      · rfl
    rw [hnone]
    refine programmed_of_ne addr data mem (j := 0) fun i hi h => ?_
    rw [Nat.zero_add, base_add_offset] at h
    have := offset_injective ha (by omega) h
    omega

/-- Between two calls: `READY`, the memory locked, no key seen. -/
structure Resting (d : Driver) : Prop where
  state : d.state = .ready
  pelock : d.flash.pelock = true
  key1 : d.flash.key1 = false

section Calls

variable {waits : Nat → Wait} (hw : ∀ n, ¬ TimedOut waits n)
include hw

theorem unlockEeprom_state {d : Driver} (hp : d.flash.pelock = true) :
    (unlockEeprom waits d).state = .unlocked := by
  rw [unlockEeprom, Driver.afterWait_of_ok _ (hw _)]
  exact congrArg Driver.state (if_pos hp)

theorem eepromProgram_state (addr : UInt32) (b : UInt8) (d : Driver) :
    (eepromProgram waits addr b d).state = d.state := by
  rw [eepromProgram, Driver.afterWait_of_ok _ (hw _)]
  rfl

theorem programFrom_state (addr i : UInt32) (data : List UInt8) (d : Driver) :
    (programFrom waits addr i data d).state = d.state := by
  induction data generalizing i d with
  | nil => rfl
  | cons b data ih => rw [programFrom, ih, eepromProgram_state hw]

theorem programAsserts_hold (addr i : UInt32) (data : List UInt8) {d : Driver}
    (hd : d.state = .unlocked) : ∀ ok ∈ programAsserts waits addr i data d, ok = true := by
  induction data generalizing i d with
  | nil => exact fun ok hok => absurd hok List.not_mem_nil
  | cons b data ih =>
    have hnext : (eepromProgram waits (dataEepromBase + addr + i) b d).state = .unlocked := by
      rw [eepromProgram_state hw, hd]
    intro ok hok
    rw [programAsserts, hd] at hok
    rcases List.mem_append.mp hok with hok | hok
    · simpa using hok
    · exact ih (i + 1) hnext ok hok

/-- No assertion of a call fails. -/
theorem EepromCall.asserts_hold (c : EepromCall) {d : Driver} (h : Resting d) :
    ∀ ok ∈ c.asserts waits d, ok = true := by
  cases c with
  | read addr size => simp [asserts, h.state]
  | write addr data =>
    have hunlocked := unlockEeprom_state hw (d := { d with state := .activeWrite }) h.pelock
    intro ok hok
    simp only [asserts, writeAsserts, h.state, programFrom_state hw, hunlocked, List.mem_append] at hok
    rcases hok with (hok | hok) | hok
    · simpa using hok
    · exact programAsserts_hold hw addr 0 data rfl ok hok
    · simpa using hok

theorem write_resting (addr : UInt32) (data : List UInt8) {d : Driver} (h : Resting d) :
    Resting (writeRegistersToEeprom waits addr data d) := by
  have hflash := write_of_ok addr data (fun k _ => hw (d.waited + k)) h.key1
  refine ⟨?_, ?_, ?_⟩
  · rw [write_state, if_neg (hw _)]
  · rw [hflash]
    rfl
  · rw [hflash]
    rfl

theorem eepromRead_eq (addr : UInt32) (size : Nat) (d : Driver) :
    eepromRead waits addr size d =
      (some (d.flash.read addr size), d.waitedFor false) := if_neg (hw _)

theorem EepromCall.perform_resting (c : EepromCall) {d : Driver} (h : Resting d) :
    Resting (c.perform waits d) := by
  cases c with
  | write addr data => exact write_resting hw addr data h
  | read addr size =>
    rw [perform, eepromRead_eq hw]
    exact ⟨h.state, h.pelock, h.key1⟩

theorem write_mem (addr : UInt32) (data : List UInt8) {d : Driver} (h : Resting d) :
    (writeRegistersToEeprom waits addr data d).flash.mem = programmed addr 0 data d.flash.mem := by
  rw [write_of_ok addr data (fun k _ => hw (d.waited + k)) h.key1]
  rfl

theorem EepromCall.perform_mem (c : EepromCall) (hin : c.Inside) {d : Driver} (h : Resting d)
    {a : Nat} (ha : a < eepromSize) :
    (c.perform waits d).flash.mem (dataEepromBase + UInt32.ofNat a) =
      (c.byteAt a).getD (d.flash.mem (dataEepromBase + UInt32.ofNat a)) := by
  cases c with
  | write addr data =>
    rw [perform, write_mem hw addr data h, programmed_offset addr data _ hin ha]
  | read addr size =>
    rw [perform, eepromRead_eq hw]
    rfl

/-! ## Any number of calls -/

theorem performAll_resting (calls : List EepromCall) {d : Driver} (h : Resting d) :
    Resting (performAll waits calls d) := by
  induction calls generalizing d with
  | nil => exact h
  | cons c calls ih => exact ih (c.perform_resting hw h)

/-- The memory holds the latest bytes written. -/
theorem performAll_mem (calls : List EepromCall) (hin : ∀ c ∈ calls, c.Inside) {d : Driver}
    (h : Resting d) {a : Nat} (ha : a < eepromSize) :
    (performAll waits calls d).flash.mem (dataEepromBase + UInt32.ofNat a) =
      latest d.flash.mem calls a := by
  induction calls generalizing d with
  | nil => rfl
  | cons c calls ih =>
    have hrest := ih (fun c' hc' => hin c' (List.mem_cons_of_mem c hc')) (c.perform_resting hw h)
    rw [performAll, hrest, latest, latest_cons, c.perform_mem hw (hin c List.mem_cons_self) h ha]

end Calls

/-- The flash is never busy. -/
def neverBusy (_ : Nat) : Wait := ⟨0, []⟩

/-- Two writes that overlap. -/
def overlapping : List EepromCall := [.write 5 [1, 2, 3], .write 6 [9]]

end MeteoL053.Eeprom
