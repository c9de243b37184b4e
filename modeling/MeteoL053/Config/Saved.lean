import MeteoL053.Config.Intervals
import MeteoL053.Eeprom

/-!
The stored configuration: how `main` loads it, the `schedule` and `save`
commands of the shell, and what a reboot makes of them. One interval has three
copies, in the EEPROM, in `appConfiguration` and in the thread's configuration.
-/

namespace MeteoL053.Config

open Eeprom

/-! ## The bytes of `appConfiguration` -/

/-- The bytes of an `appConfiguration_t` in memory. -/
def AppConfiguration.bytes (cfg : AppConfiguration) : List UInt8 :=
  cfg.version :: cfg.pad ::
    (List.finRange scheduleListSize).flatMap fun i =>
      [(cfg.interval i).toUInt8, (cfg.interval i >>> 8).toUInt8]

/-- `sizeof(appConfiguration)`. -/
def configSize : Nat := 22

/-- The `appConfiguration_t` with the given bytes. -/
def AppConfiguration.ofBytes (bytes : List UInt8) : AppConfiguration where
  version := bytes.getD 0 0
  pad := bytes.getD 1 0
  interval i :=
    (bytes.getD (2 * i + 2) 0).toUInt16 + (bytes.getD (2 * i + 3) 0).toUInt16 * 256

@[simp] theorem AppConfiguration.bytes_length (cfg : AppConfiguration) :
    cfg.bytes.length = configSize := rfl

theorem halfWord_bytes (v : UInt16) :
    v.toUInt8.toUInt16 + (v >>> 8).toUInt8.toUInt16 * 256 = v := by
  apply UInt16.toNat_inj.1
  have h : v.toNat < 2 ^ 16 := v.toNat_lt
  simp [Nat.shiftRight_eq_div_pow]
  omega

theorem AppConfiguration.ofBytes_bytes (cfg : AppConfiguration) : ofBytes cfg.bytes = cfg := by
  have hinterval : (ofBytes cfg.bytes).interval = cfg.interval := by
    funext i
    rw [← halfWord_bytes (cfg.interval i)]
    revert i
    simp only [Fin.forall_fin_succ]
    exact ⟨rfl, rfl, rfl, rfl, rfl, rfl, rfl, rfl, rfl, rfl, nofun⟩
  calc ofBytes cfg.bytes
    _ = ⟨cfg.version, cfg.pad, (ofBytes cfg.bytes).interval⟩ := rfl
    _ = cfg := by rw [hinterval]

/-! ## The station -/

/-- The sensors the shipped `appCfg.h` enables. -/
def Sensor.enabled : Sensor → Bool
  | bmp280 | veml7700 | ml8511 | power => true
  | bh1750 | rain | wind | as3935 => false

/-- A sensor thread of the shipped firmware. -/
abbrev Fitted := { s : Sensor // s.enabled = true }

/-- The name a thread registers its schedule under. -/
def Sensor.name : Sensor → String
  | bmp280 => "BMP280"
  | bh1750 => "BH1750"
  | veml7700 => "VEML7700"
  | ml8511 => "ML8511"
  | rain => "Rain"
  | wind => "Wind"
  | as3935 => "AS3935"
  | power => "Power"

/-- The memory a configuration lives in. `scheduleList` has the threads whose
schedule is registered, `interval` the field of each thread's configuration. -/
structure Station where
  eeprom : Driver
  appConfiguration : AppConfiguration
  scheduleList : Fin scheduleListSize → Option Fitted
  interval : Fitted → UInt16

/-- `VERSION`. -/
def version : UInt8 := 3

/-- `CONFIG_BASE_ADDR`. -/
def configBaseAddr : UInt32 := 0

/-- The version check of `main`. -/
def checkVersion (cfg : AppConfiguration) : AppConfiguration :=
  if cfg.version ≠ version then
    { cfg with version := version, interval := fun _ => defaultTaskInterval }
  else cfg

section Functions

variable (waits : Nat → Wait) (atoi : String → Int)

/-- `main` from `EEPROM__read` to the thread configurations; a failed read
leaves the zeros of the static variable. -/
def boot (d : Driver) : Station :=
  let (bytes, d) := eepromRead waits configBaseAddr configSize d
  let cfg := checkVersion (.ofBytes (bytes.getD (List.replicate configSize 0)))
  { eeprom := d
    appConfiguration := cfg
    scheduleList := fun _ => none
    interval := fun s => startInterval cfg s.1 }

/-- A reset leaves only the content of the EEPROM, and `EEPROM__init` follows. -/
def restart (d : Driver) : Driver := { eepromInit d.flash.mem with waited := d.waited }

def reboot (st : Station) : Station := boot waits (restart st.eeprom)

/-- `chMsgSend` to a sensor thread returns when the thread has stored the message. -/
def msgSend (t : Fitted) (msg : UInt32) (st : Station) : Station :=
  { st with interval := Function.update st.interval t (nextInterval (st.interval t) (some msg)) }

/-- The assignment of `cmd_sch` when both arguments are there. -/
def setSchedule (id intervalI : UInt8) (st : Station) : Station :=
  if h : id > 0 ∧ id.toNat < scheduleListSize then
    match st.scheduleList ⟨id.toNat, h.2⟩ with
    | some t =>
      if intervalI > 0 then
        let st := msgSend t intervalI.toUInt32 st
        { st with
          appConfiguration :=
            { st.appConfiguration with
              interval :=
                Function.update st.appConfiguration.interval ⟨id.toNat, h.2⟩ intervalI.toUInt16 } }
      else st
    | none => st
  else st

/-- `chprintf`'s `%6u` and `%11s`. -/
def padLeft (width : Nat) (s : String) : String :=
  String.ofList (List.replicate (width - s.length) ' ') ++ s

/-- The table `cmd_sch` ends with. -/
def scheduleTable (st : Station) : List String :=
  (List.finRange scheduleListSize).filterMap fun i =>
    (st.scheduleList i).map fun t =>
      padLeft 6 (toString t.1.hwId.val) ++ "  " ++ padLeft 11 t.1.name ++ "  " ++
        padLeft 6 (toString (st.interval t).toNat) ++ " seconds\r\n"

/-- `cmd_sch`: the station after it and what it prints. -/
def cmdSch (argv : List String) (st : Station) : Station × List String :=
  let st :=
    match argv with
    | [id, interval] => setSchedule (UInt8.ofInt (atoi id)) (UInt8.ofInt (atoi interval)) st
    | _ => st
  let wrong := if argv.length ≠ 0 ∧ argv.length ≠ 2 then ["wrong params\r\n"] else []
  (st, wrong ++ scheduleTable st)

/-- `cmd_save`. -/
def cmdSave (st : Station) : Station × List String :=
  ({ st with eeprom :=
      writeRegistersToEeprom waits configBaseAddr st.appConfiguration.bytes st.eeprom }, ["OK\r\n"])

/-- What happens between two boots: a thread's schedule reaches the list, or
the user enters a command. -/
inductive Event where
  | register (s : Fitted)
  | schedule (argv : List String)
  | save
  deriving DecidableEq

def Event.perform : Event → Station → Station
  | register s, st => { st with scheduleList := Function.update st.scheduleList s.1.hwId (some s) }
  | schedule argv, st => (cmdSch atoi argv st).1
  | save, st => (cmdSave waits st).1

def performAll : List Event → Station → Station
  | [], st => st
  | e :: es, st => performAll es (e.perform waits atoi st)

/-- The station right after the last `save` of a run from `st`, or `saved` when
the run has none. -/
def lastSaved : List Event → Station → Station → Station
  | [], _, saved => saved
  | e :: es, st, saved =>
    lastSaved es (e.perform waits atoi st) (if e = .save then e.perform waits atoi st else saved)

end Functions

/-! ## What a reboot finds -/

/-- The configuration a boot makes of the flash. -/
def loadConfig (f : Flash) : AppConfiguration :=
  checkVersion (.ofBytes (f.read configBaseAddr configSize))

theorem checkVersion_version (cfg : AppConfiguration) : (checkVersion cfg).version = version := by
  unfold checkVersion
  split
  · rfl
  · next h => exact Decidable.of_not_not h

theorem checkVersion_of_version {cfg : AppConfiguration} (h : cfg.version = version) :
    checkVersion cfg = cfg := if_neg (not_not_intro h)

theorem hwId_injective {s t : Fitted} (h : s.1.hwId = t.1.hwId) : s = t := by
  obtain ⟨s, hs⟩ := s
  obtain ⟨t, ht⟩ := t
  apply Subtype.ext
  cases s <;> cases hs <;> cases t <;> cases ht <;> first | rfl | exact absurd h (by decide)

theorem startInterval_fitted (cfg : AppConfiguration) (s : Fitted) :
    startInterval cfg s.1 = cfg.seconds s.1 := by
  obtain ⟨s, hs⟩ := s
  apply startInterval_eq_seconds
  · rintro rfl; cases hs
  · rintro rfl; cases hs

section Reboot

variable {waits : Nat → Wait} {atoi : String → Int} (hw : ∀ n, ¬ TimedOut waits n)

include hw in
theorem boot_eq (d : Driver) :
    boot waits d =
      { eeprom := d.waitedFor false
        appConfiguration := loadConfig d.flash
        scheduleList := fun _ => none
        interval := fun s => startInterval (loadConfig d.flash) s.1 } := by
  simp only [boot, eepromRead, if_neg (hw d.waited)]
  rfl

/-- The three copies agree: the threads run with the intervals of
`appConfiguration`, and the flash holds the intervals of `saved`. -/
structure Agree (st saved : Station) : Prop where
  version : st.appConfiguration.version = version
  threads : ∀ s, st.interval s = startInterval st.appConfiguration s.1
  listed : ∀ i t, st.scheduleList i = some t → t.1.hwId = i
  stored : ∀ s, startInterval (loadConfig st.eeprom.flash) s.1 = saved.interval s
  keys : st.eeprom.flash.key1 = false

include hw in
theorem Agree.boot (mem : UInt32 → UInt8) :
    Agree (boot waits (eepromInit mem)) (boot waits (eepromInit mem)) := by
  rw [boot_eq hw]
  constructor
  · exact checkVersion_version _
  · exact fun _ => rfl
  · exact fun _ _ h => absurd h (by simp)
  · exact fun _ => rfl
  · rfl

theorem Agree.register {st saved : Station} (h : Agree st saved) (s : Fitted) :
    Agree ((Event.register s).perform waits atoi st) saved := by
  refine { h with listed := fun i t hi => ?_ }
  simp only [Event.perform, Function.update_apply] at hi
  split at hi
  · next heq =>
    obtain rfl := Option.some.inj hi
    exact heq.symm
  · exact h.listed i t hi

/-- The thread that gets the message is the one whose entry of
`appConfiguration` changes, and the positive interval replaces its default. -/
theorem Agree.setSchedule {st saved : Station} (h : Agree st saved) (id intervalI : UInt8) :
    Agree (setSchedule id intervalI st) saved := by
  unfold Config.setSchedule
  split
  case isFalse => exact h
  case isTrue hid =>
    split
    case h_2 => exact h
    case h_1 t ht =>
      split
      case isFalse => exact h
      case isTrue hpos =>
        have hlist := h.listed _ _ ht
        refine { h with threads := fun s => ?_ }
        have hpos' : intervalI.toUInt16 > 0 := by
          have := UInt8.lt_iff_toNat_lt.1 hpos
          exact UInt16.lt_iff_toNat_lt.2 (by simpa using this)
        have hs := h.threads s
        rw [startInterval_fitted] at hs ⊢
        by_cases heq : s = t
        · subst heq
          simp [msgSend, nextInterval, AppConfiguration.seconds, hlist, hpos']
        · have hne : s.1.hwId ≠ ⟨id.toNat, hid.2⟩ := by
            intro hc
            exact heq (hwId_injective (hc.trans hlist.symm))
          simp only [AppConfiguration.seconds, msgSend, Function.update_of_ne heq,
            Function.update_of_ne hne]
          exact hs

include hw in
/-- A save stores the bytes of `appConfiguration`. -/
theorem Agree.save_read {st saved : Station} (h : Agree st saved) :
    (cmdSave waits st).1.eeprom.flash.read configBaseAddr configSize = st.appConfiguration.bytes := by
  have hlen := st.appConfiguration.bytes_length
  have hread := read_write configBaseAddr st.appConfiguration.bytes (by rw [hlen]; decide)
    (fun k _ => hw (st.eeprom.waited + k)) h.keys
  rwa [hlen] at hread

include hw in
/-- A save stores exactly the intervals the threads run with. -/
theorem Agree.save {st saved : Station} (h : Agree st saved) :
    Agree (cmdSave waits st).1 (cmdSave waits st).1 := by
  have hload : loadConfig (cmdSave waits st).1.eeprom.flash = st.appConfiguration := by
    rw [loadConfig, h.save_read hw, AppConfiguration.ofBytes_bytes,
      checkVersion_of_version h.version]
  constructor
  · exact h.version
  · exact h.threads
  · exact h.listed
  · intro s
    rw [hload]
    exact (h.threads s).symm
  · exact EepromCall.perform_key1 (.write _ _) h.keys

include hw in
theorem Agree.perform {st saved : Station} (h : Agree st saved) (e : Event) :
    Agree (e.perform waits atoi st) (if e = .save then e.perform waits atoi st else saved) := by
  cases e with
  | register s => exact h.register s
  | schedule argv =>
    simp only [reduceCtorEq, if_false, Event.perform, cmdSch]
    split
    · exact h.setSchedule _ _
    · exact h
  | save => exact h.save hw

include hw in
theorem Agree.performAll {st saved : Station} (h : Agree st saved) (es : List Event) :
    Agree (performAll waits atoi es st) (lastSaved waits atoi es st saved) := by
  induction es generalizing st saved with
  | nil => exact h
  | cons e es ih => exact ih (h.perform hw e)

end Reboot

/-- Whatever the EEPROM held at first and whatever was entered, after a reboot
every thread runs with its interval of the last `save`, or of the first boot
when nothing was saved. -/
theorem interval_survives_reboot {waits : Nat → Wait} (hw : ∀ n, ¬ TimedOut waits n)
    (atoi : String → Int) (mem : UInt32 → UInt8) (es : List Event) (s : Fitted) :
    (reboot waits (performAll waits atoi es (boot waits (eepromInit mem)))).interval s =
      (lastSaved waits atoi es (boot waits (eepromInit mem))
        (boot waits (eepromInit mem))).interval s := by
  rw [reboot, boot_eq hw]
  exact ((Agree.boot hw mem).performAll hw es).stored s

/-- On an erased EEPROM: one minute for the BMP280, saved, then seven seconds,
not saved. The reboot brings the minute back. -/
theorem interval_survives_reboot_savedMinute :
    (reboot (fun _ => ⟨0, []⟩)
      (performAll (fun _ => ⟨0, []⟩) (fun s => if s = "60" then 60 else if s = "7" then 7 else 1)
        [.register ⟨.bmp280, rfl⟩, .schedule ["1", "60"], .save, .schedule ["1", "7"]]
        (boot (fun _ => ⟨0, []⟩) (eepromInit fun _ => 0xFF)))).interval ⟨.bmp280, rfl⟩ = 60 :=
  (interval_survives_reboot (fun _ h => h rfl) _ _ _ _).trans (by decide +kernel)

/-! ## A save that is cut short -/

/-- The EEPROM after `n` steps of the write of `cmd_save`: the first unlocks it,
each of the others stores one byte. -/
def saving (waits : Nat → Wait) (cfg : AppConfiguration) (d : Driver) : Nat → Driver
  | 0 => d
  | n + 1 => programFrom waits configBaseAddr 0 (cfg.bytes.take n) (openEeprom waits d)

/-- The version a boot finds in the flash. -/
def storedVersion (f : Flash) : UInt8 :=
  (AppConfiguration.ofBytes (f.read configBaseAddr configSize)).version

section Saving

variable {waits : Nat → Wait} {cfg : AppConfiguration} {d : Driver}

theorem saving_program (i : Fin configSize) :
    eepromProgram waits (dataEepromBase + configBaseAddr + UInt32.ofNat i) (cfg.bytes.getD i 0)
        (saving waits cfg d (i + 1)) =
      saving waits cfg d (i + 2) := by
  have hi : i.val < cfg.bytes.length := i.2
  have htake : cfg.bytes.take (i + 1) = cfg.bytes.take i ++ [cfg.bytes.getD i 0] := by
    rw [List.take_succ_eq_append_getElem hi, List.getD_eq_getElem?_getD,
      List.getElem?_eq_getElem hi, Option.getD_some]
  have hlen : 0 + (cfg.bytes.take i).length = i := by
    rw [Nat.zero_add, List.length_take_of_le (Nat.le_of_lt hi)]
  have hsnoc := programFrom_snoc waits configBaseAddr 0 (cfg.bytes.take i)
    (cfg.bytes.getD i 0) (openEeprom waits d)
  rw [hlen, ← htake] at hsnoc
  exact hsnoc.symm

theorem saving_lock :
    lockEeprom waits .ready (saving waits cfg d (configSize + 1)) =
      writeRegistersToEeprom waits configBaseAddr cfg.bytes d := by
  have htake : cfg.bytes.take configSize = cfg.bytes := List.take_of_length_le (Nat.le_refl _)
  rw [saving, htake, writeRegistersToEeprom]

variable (hw : ∀ n, ¬ TimedOut waits n)

variable (cfg) in
include hw in
/-- The bytes stored so far stand before what was saved earlier. -/
theorem saving_read (hk : d.flash.key1 = false) {n : Nat} (hn : n ≤ configSize) :
    (saving waits cfg d (n + 1)).flash.read configBaseAddr configSize =
      cfg.bytes.take n ++ (d.flash.read configBaseAddr configSize).drop n := by
  have hlen : (cfg.bytes.take n).length = n := List.length_take_of_le hn
  have hmem := programFrom_openEeprom_mem configBaseAddr (cfg.bytes.take n)
    (fun k _ => hw (d.waited + k)) hk
  have hread := read_programmed configBaseAddr (cfg.bytes.take n) configSize hmem
    (by rw [hlen]; exact hn) (by decide)
  rwa [hlen] at hread

end Saving

theorem getD_take_append_drop (new old : List UInt8) {n : Nat} (hn : n ≤ new.length) (j : Nat) :
    (new.take n ++ old.drop n).getD j 0 = if j < n then new.getD j 0 else old.getD j 0 := by
  have hlen : (new.take n).length = n := List.length_take_of_le hn
  simp only [List.getD_eq_getElem?_getD]
  split
  · next hj => rw [List.getElem?_append_left (by rw [hlen]; exact hj), List.getElem?_take_of_lt hj]
  · next hj =>
    have hle : n ≤ j := Nat.le_of_not_lt hj
    rw [List.getElem?_append_right (by rw [hlen]; exact hle), hlen, List.getElem?_drop,
      Nat.add_sub_cancel' hle]

/-- The seconds of a thread depend on its own two bytes only. -/
theorem ofBytes_seconds_congr {a b : List UInt8} {s : Sensor}
    (hlow : a.getD (2 * s.hwId + 2) 0 = b.getD (2 * s.hwId + 2) 0)
    (hhigh : a.getD (2 * s.hwId + 3) 0 = b.getD (2 * s.hwId + 3) 0) :
    (AppConfiguration.ofBytes a).seconds s = (AppConfiguration.ofBytes b).seconds s := by
  have hinterval : (AppConfiguration.ofBytes a).interval s.hwId =
      (AppConfiguration.ofBytes b).interval s.hwId := by
    simp only [AppConfiguration.ofBytes, hlow, hhigh]
  rw [AppConfiguration.seconds, hinterval]
  rfl

section CutShort

variable {waits : Nat → Wait} {atoi : String → Int} (hw : ∀ n, ¬ TimedOut waits n)

include hw in
/-- Once something was saved, the flash has the version of the firmware. -/
theorem storedVersion_performAll {st saved : Station} (h : Agree st saved) (es : List Event)
    (hv : .save ∈ es ∨ storedVersion st.eeprom.flash = version) :
    storedVersion (performAll waits atoi es st).eeprom.flash = version := by
  induction es generalizing st saved with
  | nil => exact hv.resolve_left List.not_mem_nil
  | cons e es ih =>
    apply ih (h.perform hw e)
    have hsame : (e.perform waits atoi st).eeprom = st.eeprom →
        (.save ∈ es ∨ storedVersion st.eeprom.flash = version) →
        .save ∈ es ∨ storedVersion (e.perform waits atoi st).eeprom.flash = version :=
      fun heq hv => by rwa [heq]
    cases e with
    | register s => exact hsame rfl (by simpa using hv)
    | schedule argv =>
      refine hsame ?_ (by simpa using hv)
      simp only [Event.perform, cmdSch]
      split
      · unfold setSchedule
        split
        · split
          · split <;> rfl
          · rfl
        · rfl
      · rfl
    | save =>
      right
      have hread := h.save_read hw
      simp only [Event.perform, storedVersion, hread]
      exact h.version

include hw in
/-- **A save cut short** after `n` bytes. A thread whose entry was reached has
its new interval and one whose entry was not has its saved one, the latter only
if the flash had the version of the firmware before: the version is byte 0. -/
theorem interval_cut_short {st saved : Station} (h : Agree st saved) {n : Nat}
    (hn : n ≤ configSize) (s : Fitted) :
    (n = 0 → (boot waits (restart (saving waits st.appConfiguration st.eeprom (n + 1)))).interval s =
      saved.interval s) ∧
    (2 * s.1.hwId + 4 ≤ n →
      (boot waits (restart (saving waits st.appConfiguration st.eeprom (n + 1)))).interval s =
        st.interval s) ∧
    (n ≤ 2 * s.1.hwId + 2 → storedVersion st.eeprom.flash = version →
      (boot waits (restart (saving waits st.appConfiguration st.eeprom (n + 1)))).interval s =
        saved.interval s) := by
  have hread := saving_read st.appConfiguration hw h.keys hn
  have hbytes := getD_take_append_drop st.appConfiguration.bytes
    (st.eeprom.flash.read configBaseAddr configSize) hn
  have hboot : (boot waits
      (restart (saving waits st.appConfiguration st.eeprom (n + 1)))).interval s =
      startInterval (loadConfig (saving waits st.appConfiguration st.eeprom (n + 1)).flash) s.1 := by
    rw [boot_eq hw]
    rfl
  rw [hboot, loadConfig, hread, startInterval_fitted]
  have hsaved := h.stored s
  rw [loadConfig, startInterval_fitted] at hsaved
  refine ⟨fun h0 => ?_, fun hreached => ?_, fun hbefore hstored => ?_⟩
  · subst h0
    exact hsaved
  · have hversion := hbytes 0
    rw [if_pos (by omega)] at hversion
    have hcurrent : (AppConfiguration.ofBytes st.appConfiguration.bytes).seconds s.1 =
        st.interval s := by
      rw [AppConfiguration.ofBytes_bytes, h.threads s, startInterval_fitted]
    rw [checkVersion_of_version (hversion.trans h.version), ← hcurrent]
    apply ofBytes_seconds_congr
    · rw [hbytes, if_pos (by omega)]
    · rw [hbytes, if_pos (by omega)]
  · have hversion : (AppConfiguration.ofBytes (st.appConfiguration.bytes.take n ++
        (st.eeprom.flash.read configBaseAddr configSize).drop n)).version = version := by
      refine (hbytes 0).trans ?_
      split
      · exact h.version
      · exact hstored
    rw [checkVersion_of_version hstored] at hsaved
    rw [checkVersion_of_version hversion, ← hsaved]
    apply ofBytes_seconds_congr
    · rw [hbytes, if_neg (by omega)]
    · rw [hbytes, if_neg (by omega)]

end CutShort

end MeteoL053.Config
