import Mathlib.Data.List.Perm.Subperm
import MeteoL053.Lib.Threads
import MeteoL053.Config.Intervals

/-!
The registration of the devices: every device thread posts its `schedule_t` and
its `hw_t` once, and the threads of `scheduleListThread.c` and `hwListThread.c`
put what they fetch at its id in `scheduleList` and `hwList`.

Posts and fetches interleave in any way. The other work of a device thread
touches neither the mailboxes nor the lists and is left out.
-/

namespace MeteoL053.Registry

open CallTree Config

/-! ## The code -/

/-- The threads `main` starts that register something. -/
inductive Device where
  | hc12
  | sensor (s : Sensor)
  deriving DecidableEq

/-- The `hwId` of the thread configurations in `main`. -/
def Device.hwId : Device → Nat
  | hc12 => 0
  | sensor s => s.hwId

/-- `registerScheduleMail` and `registerHwMail`. -/
inductive Mail where
  | schedule
  | hw
  deriving DecidableEq

/-- `SCHEDULE_LIST_SIZE` and `HW_LIST_SIZE`, the sizes of the lists and of the
mailboxes. -/
def listSize : Mail → Nat
  | .schedule => scheduleListSize
  | .hw => 10

inductive Call where
  /-- `chMBPostTimeout(&mail, &record, TIME_IMMEDIATE)`; a record is known by its device -/
  | post (m : Mail) (d : Device)
  /-- `chMBFetchTimeout(&mail, &record, TIME_INFINITE)` -/
  | fetch (m : Mail)
  /-- `list[id] = record` -/
  | put (m : Mail) (id : Nat) (d : Device)
  | chThdSleepMilliseconds (ms : Nat)
  deriving DecidableEq

abbrev Reply : Call → Type
  | .post .. => Bool
  | .fetch _ => Device
  | _ => Unit

/-- The blocks: a device thread that is not started, that registers or that has
registered, and the loop of a registry thread. -/
inductive Label where
  | off
  | register
  | running
  | fetch
  deriving DecidableEq

abbrev Code := Prog Call Reply

/-- Make the call `c`. -/
abbrev ask (c : Call) : Code (Reply c) := Prog.perform c

/-- A device thread up to its last post; the results of the posts are discarded. -/
def register : Device → Code Label
  | .hc12 => do
    let _ ← ask (.post .hw .hc12)
    return .running
  | .sensor .wind => do
    let _ ← ask (.post .schedule (.sensor .wind))
    let _ ← ask (.post .hw (.sensor .wind))
    return .running
  | .sensor s => do
    let _ ← ask (.post .schedule (.sensor s))
    ask (.chThdSleepMilliseconds 1000)
    let _ ← ask (.post .hw (.sensor s))
    return .running

/-- One turn of `registerScheduleThread` and of `registerHwThread`. -/
def registerThread (m : Mail) : Code Label := do
  let record ← ask (.fetch m)
  ask (.put m record.hwId record)
  return .fetch

/-! ## The system -/

inductive Thread where
  | device (d : Device)
  | registry (m : Mail)
  deriving DecidableEq

def body : Thread → Label → Code Label
  | .device d, .register => register d
  | .registry m, .fetch => registerThread m
  | _, l => .ret l

structure State where
  mail : Mail → List Device
  list : Mail → Nat → Option Device

/-- A post fails on a full mailbox; a fetch waits for a record. -/
def possible (s : State) : (c : Call) → Reply c → Prop
  | .post m _, r => r = decide ((s.mail m).length < listSize m)
  | .fetch m, r => (s.mail m).head? = some r
  | _, _ => True

instance (s : State) : (c : Call) → (r : Reply c) → Decidable (possible s c r)
  | .post .., _ => inferInstanceAs (Decidable (_ = _))
  | .fetch _, _ => inferInstanceAs (Decidable (_ = _))
  | .put .., _ => isTrue trivial
  | .chThdSleepMilliseconds _, _ => isTrue trivial

def effect (s : State) : (c : Call) → Reply c → State
  | .post m d, r =>
    { s with mail := Function.update s.mail m (if r then s.mail m ++ [d] else s.mail m) }
  | .fetch m, _ => { s with mail := Function.update s.mail m (s.mail m).tail }
  | .put m id d, _ =>
    { s with list := Function.update s.list m (Function.update (s.list m) id (some d)) }
  | _, _ => s

/-- The devices and the two registry threads. -/
def system : System Thread Call Reply Label State where
  body := body
  possible _ := possible
  effect _ := effect

instance (t : Thread) (s : State) (c : Call) (r : Reply c) : Decidable (system.possible t s c r) :=
  inferInstanceAs (Decidable (possible s c r))

/-- The `USE_*` of `appCfg.h`. The radio and the power thread are always started. -/
abbrev Features := Sensor → Bool

def Features.starts (F : Features) : Device → Bool
  | .hc12 | .sensor .power => true
  | .sensor s => F s

/-- When `main` has started the threads. -/
def initial (F : Features) : Pool Thread Call Reply Label State where
  shared := ⟨fun _ => [], fun _ _ => none⟩
  prog
    | .device d => .ret (if F.starts d then .register else .off)
    | .registry _ => .ret .fetch

/-! ## What registration is for -/

/-- The radio has no schedule. -/
def Device.posts (d : Device) (m : Mail) : Bool :=
  match d, m with
  | hc12, .schedule => false
  | _, _ => true

/-- The lists hold the records of the started devices, each at its own id, and
nothing else. -/
def Registered (F : Features) (s : State) : Prop :=
  ∀ m i d, s.list m i = some d ↔ F.starts d = true ∧ d.posts m = true ∧ d.hwId = i

/-- Every started device has posted, and the registry threads wait, or are about
to wait, at empty mailboxes. -/
def Drained (F : Features) (p : Pool Thread Call Reply Label State) : Prop :=
  (∀ d, F.starts d = true → p.prog (.device d) = .ret .running) ∧
    ∀ m, p.shared.mail m = [] ∧
      (p.prog (.registry m) = .ret .fetch ∨ p.AboutTo (.registry m) (.fetch m))

/-- No post fails, every id is an index of its list, and the lists are complete
once the mailboxes are drained. -/
structure Complete (F : Features) (p : Pool Thread Call Reply Label State) : Prop where
  room : ∀ t m d, p.AboutTo t (.post m d) → (p.shared.mail m).length < listSize m
  index : ∀ t m i d, p.AboutTo t (.put m i d) → i < listSize m
  lists : Drained F p → Registered F p.shared

/-- No two sensors with one id are enabled. -/
def Distinct (F : Features) : Prop :=
  ¬(F .bh1750 = true ∧ F .veml7700 = true) ∧ ¬(F .wind = true ∧ F .as3935 = true)

/-! ## The invariant -/

/-- Which posts a device thread has made, and what a registry thread has fetched
and not yet put. -/
structure Phase where
  posted : Mail → Bool := fun _ => false
  hand : Option Device := none

/-- A device posts its own record once to each mailbox. -/
def deviceMonitor (F : Features) (d : Device) : Monitor Call Reply Phase where
  hangs _ := False
  allows φ
    | .post m d' => d' = d ∧ F.starts d = true ∧ d.posts m = true ∧ φ.posted m = false
    | .chThdSleepMilliseconds _ => True
    | _ => False
  answers _ _ _ := True
  next φ
    | .post m _, _ => { φ with posted := Function.update φ.posted m true }
    | _, _ => φ

/-- A registry thread puts what it has fetched. -/
def registryMonitor (m : Mail) : Monitor Call Reply Phase where
  hangs _ := False
  allows φ
    | .fetch m' => m' = m ∧ φ.hand = none
    | .put m' id d => m' = m ∧ φ.hand = some d ∧ id = d.hwId
    | _ => False
  answers _ _ _ := True
  next φ
    | .fetch _, d => { φ with hand := some d }
    | .put .., _ => { φ with hand := none }
    | _, _ => φ

def monitors (F : Features) : Thread → Monitor Call Reply Phase
  | .device d => deviceMonitor F d
  | .registry m => registryMonitor m

/-- What the phase is where a block begins. -/
def Continues (F : Features) : Thread → Label → Phase → Prop
  | .device d, .off, _ => F.starts d = false
  | .device d, .register, φ => F.starts d = true ∧ φ = {}
  | .device d, .running, φ => F.starts d = true ∧ ∀ m, φ.posted m = d.posts m
  | .registry _, .fetch, φ => φ.hand = none
  | _, _, _ => False

theorem register_follows {F : Features} {d : Device} (hd : F.starts d = true) :
    (register d).wp (deviceMonitor F d) {} (Continues F (.device d)) := by
  have hsensor : ∀ s, d = .sensor s → ∀ k : Code Label,
      k.wp (deviceMonitor F d) ⟨Function.update (fun _ => false) .schedule true, none⟩
        (Continues F (.device d)) →
      (ask (.post .schedule (.sensor s)) >>= fun _ => k).wp (deviceMonitor F d) {}
        (Continues F (.device d)) := by
    rintro s rfl k hk
    exact Prog.wp_step ⟨rfl, hd, rfl, rfl⟩ fun _ _ => hk
  have hhw : ∀ s, d = .sensor s →
      (ask (.post .hw (.sensor s)) >>= fun _ => pure Label.running).wp (deviceMonitor F d)
        ⟨Function.update (fun _ => false) .schedule true, none⟩ (Continues F (.device d)) := by
    rintro s rfl
    refine Prog.wp_step ⟨rfl, hd, rfl, rfl⟩ fun _ _ => ⟨hd, fun m => ?_⟩
    cases m <;> rfl
  cases d with
  | hc12 =>
    refine Prog.wp_step ⟨rfl, hd, rfl, rfl⟩ fun _ _ => ⟨hd, fun m => ?_⟩
    cases m <;> rfl
  | sensor s =>
    cases s with
    | wind => exact hsensor _ rfl _ (hhw _ rfl)
    | _ =>
      apply hsensor _ rfl
      apply Prog.wp_step trivial
      intro _ _
      exact hhw _ rfl

theorem registerThread_follows (F : Features) (m : Mail) {φ : Phase} (hφ : φ.hand = none) :
    (registerThread m).wp (registryMonitor m) φ (Continues F (.registry m)) := by
  apply Prog.wp_step (And.intro rfl hφ)
  intro d _
  exact Prog.wp_step ⟨rfl, rfl, rfl⟩ fun _ _ => rfl

theorem body_follows (F : Features) (t : Thread) (l : Label) (φ : Phase)
    (h : Continues F t l φ) : (body t l).wp (monitors F t) φ (Continues F t) := by
  cases t with
  | device d =>
    cases l with
    | off | running => exact h
    | register =>
      obtain ⟨hd, rfl⟩ := h
      exact register_follows hd
    | fetch => exact h.elim
  | registry m =>
    cases l with
    | fetch => exact registerThread_follows F m h
    | off | register | running => exact h.elim

/-- One mailbox with its list: the devices that have posted, what the registry
thread has in hand, the mailbox and the list. -/
structure Kept (F : Features) (m : Mail) (posted : Device → Bool) (hand : Option Device)
    (mail : List Device) (list : Nat → Option Device) : Prop where
  started : ∀ d, posted d = true → F.starts d = true ∧ d.posts m = true
  nodup : mail.Nodup
  inMail : ∀ d ∈ mail, posted d = true
  inHand : ∀ d, hand = some d → posted d = true
  inList : ∀ i d, list i = some d → d.hwId = i ∧ posted d = true
  reached : ∀ d, posted d = true → d ∈ mail ∨ hand = some d ∨ (list d.hwId).isSome = true

namespace Kept

variable {F : Features} {m : Mail} {posted : Device → Bool} {hand : Option Device}
  {mail : List Device} {list : Nat → Option Device} {d : Device}

def devices : List Device :=
  [.hc12, .sensor .bmp280, .sensor .bh1750, .sensor .veml7700, .sensor .ml8511, .sensor .rain,
    .sensor .wind, .sensor .as3935, .sensor .power]

theorem mem_devices (d : Device) : d ∈ devices := by
  cases d with
  | hc12 => decide
  | sensor s => cases s <;> decide

/-- Nine devices that post once never fill a mailbox of ten. -/
theorem room (h : Kept F m posted hand mail list) : mail.length < listSize m := by
  have hle : mail.length ≤ devices.length :=
    (h.nodup.subperm fun d _ => mem_devices d).length_le
  have hsize : devices.length < listSize m := by cases m <;> decide
  omega

theorem post (h : Kept F m posted hand mail list) (hs : F.starts d = true)
    (hp : d.posts m = true) (hd : posted d = false) :
    Kept F m (Function.update posted d true) hand (mail ++ [d]) list := by
  have hup : ∀ e, posted e = true → Function.update posted d true e = true := by
    intro e he
    by_cases hed : e = d
    · rw [hed, Function.update_self]
    · rwa [Function.update_of_ne hed]
  have hnew : d ∉ mail := fun hm => by simp [h.inMail d hm] at hd
  constructor
  · intro e he
    by_cases hed : e = d
    · rw [hed]
      exact ⟨hs, hp⟩
    · rw [Function.update_of_ne hed] at he
      exact h.started e he
  · refine List.nodup_append.mpr ⟨h.nodup, by simp, ?_⟩
    rintro e he e' he' rfl
    exact hnew (List.mem_singleton.mp he' ▸ he)
  · intro e he
    rcases List.mem_append.mp he with he | he
    · exact hup e (h.inMail e he)
    · rw [List.mem_singleton.mp he, Function.update_self]
  · exact fun e he => hup e (h.inHand e he)
  · exact fun i e he => ⟨(h.inList i e he).1, hup e (h.inList i e he).2⟩
  · intro e he
    by_cases hed : e = d
    · exact .inl (by simp [hed])
    · rw [Function.update_of_ne hed] at he
      exact (h.reached e he).imp_left (List.mem_append_left [d])

theorem fetch {rest : List Device} (h : Kept F m posted none (d :: rest) list) :
    Kept F m posted (some d) rest list where
  started := h.started
  nodup := (List.nodup_cons.mp h.nodup).2
  inMail e he := h.inMail e (List.mem_cons_of_mem d he)
  inHand e he := by
    cases he
    exact h.inMail d List.mem_cons_self
  inList := h.inList
  reached e he := by
    rcases h.reached e he with hm | hh | hl
    · rcases List.mem_cons.mp hm with rfl | hm
      · exact .inr (.inl rfl)
      · exact .inl hm
    · cases hh
    · exact .inr (.inr hl)

/-- A record that was at the id of the new one is gone; its slot is not empty. -/
theorem put (h : Kept F m posted (some d) mail list) :
    Kept F m posted none mail (Function.update list d.hwId (some d)) where
  started := h.started
  nodup := h.nodup
  inMail := h.inMail
  inHand e he := nomatch he
  inList i e he := by
    by_cases hi : i = d.hwId
    · subst hi
      rw [Function.update_self] at he
      cases he
      exact ⟨rfl, h.inHand d rfl⟩
    · rw [Function.update_of_ne hi] at he
      exact h.inList i e he
  reached e he := by
    by_cases hi : e.hwId = d.hwId
    · rw [hi, Function.update_self]
      exact .inr (.inr rfl)
    · rw [Function.update_of_ne hi]
      rcases h.reached e he with hm | hh | hl
      · exact .inl hm
      · cases hh
        exact absurd rfl hi
      · exact .inr (.inr hl)

end Kept

/-- The global invariant. -/
def AllKept (F : Features) (ph : Thread → Phase) (s : State) : Prop :=
  ∀ m, Kept F m (fun d => (ph (.device d)).posted m) (ph (.registry m)).hand (s.mail m) (s.list m)

theorem allKept_device {F : Features} {ph : Thread → Phase} {s : State} {d : Device} {c : Call}
    {r : Reply c} (hJ : AllKept F ph s) (hc : (deviceMonitor F d).allows (ph (.device d)) c)
    (hr : possible s c r) :
    AllKept F (Function.update ph (.device d) ((deviceMonitor F d).next (ph (.device d)) c r))
      (effect s c r) := by
  cases c with
  | post m d' =>
    obtain ⟨rfl, hs, hp, hd⟩ := hc
    have htrue : r = true := hr.trans (decide_eq_true (hJ m).room)
    intro m'
    have hposted : (fun e => (Function.update ph (.device d')
        ((deviceMonitor F d').next (ph (.device d')) (.post m d') r) (.device e)).posted m') =
        if m' = m then Function.update (fun e => (ph (.device e)).posted m) d' true
        else fun e => (ph (.device e)).posted m' := by
      funext e
      by_cases he : e = d' <;> by_cases hm : m' = m <;> simp [deviceMonitor, he, hm]
    rw [hposted, Function.update_of_ne (by simp)]
    by_cases hm : m' = m
    · subst hm
      simpa [effect, htrue] using (hJ m').post hs hp hd
    · simpa [effect, hm] using hJ m'
  | chThdSleepMilliseconds ms =>
    rw [show (deviceMonitor F d).next (ph (.device d)) (.chThdSleepMilliseconds ms) r =
      ph (.device d) from rfl, Function.update_eq_self]
    exact hJ
  | fetch m | put m i e => exact hc.elim

theorem allKept_registry {F : Features} {ph : Thread → Phase} {s : State} {m : Mail} {c : Call}
    {r : Reply c} (hJ : AllKept F ph s) (hc : (registryMonitor m).allows (ph (.registry m)) c)
    (hr : possible s c r) :
    AllKept F (Function.update ph (.registry m) ((registryMonitor m).next (ph (.registry m)) c r))
      (effect s c r) := by
  intro m'
  have hdev : ∀ e, Function.update ph (.registry m)
      ((registryMonitor m).next (ph (.registry m)) c r) (.device e) = ph (.device e) := fun e =>
    Function.update_of_ne (by simp) _ _
  simp only [hdev]
  cases c with
  | fetch m₁ =>
    obtain ⟨rfl, hhand⟩ := hc
    by_cases hm : m' = m₁
    · subst hm
      obtain ⟨rest, hrest⟩ := List.head?_eq_some_iff.mp hr
      have hk := hJ m'
      rw [hhand, hrest] at hk
      simpa [registryMonitor, effect, hrest] using hk.fetch
    · simpa [registryMonitor, effect, hm] using hJ m'
  | put m₁ i d =>
    obtain ⟨rfl, hhand, rfl⟩ := hc
    by_cases hm : m' = m₁
    · subst hm
      have hk := hJ m'
      rw [hhand] at hk
      simpa [registryMonitor, effect] using hk.put
    · simpa [registryMonitor, effect, hm] using hJ m'
  | post m₁ d | chThdSleepMilliseconds ms => exact hc.elim

variable {F : Features} {p : Pool Thread Call Reply Label State}

theorem initial_inv (F : Features) :
    System.Inv (monitors F) (Continues F) (AllKept F) (initial F) := by
  refine ⟨fun _ => {}, fun t => ?_, fun m => ?_⟩
  · cases t with
    | device d =>
      cases hd : F.starts d <;> simp [initial, hd, Continues]
    | registry m => rfl
  · constructor <;> simp [initial]

theorem reachable_inv (h : system.Reachable (initial F) p) :
    System.Inv (monitors F) (Continues F) (AllKept F) p := by
  refine h.invariant (fun t l φ => body_follows F t l φ) (fun ph s t c r hJ hc hr => ?_)
    (initial_inv F)
  cases t with
  | device d => exact ⟨trivial, allKept_device hJ hc hr⟩
  | registry m => exact ⟨trivial, allKept_registry hJ hc hr⟩

/-! ## When the lists are complete -/

theorem hwId_lt (d : Device) (m : Mail) : d.hwId < listSize m := by
  have h : d.hwId < 10 := by
    cases d with
    | hc12 => decide
    | sensor s => exact s.hwId.isLt
  cases m <;> exact h

/-- Equal ids are those of one device or of one of two pairs. -/
theorem hwId_eq_cases {d e : Device} (h : d.hwId = e.hwId) :
    d = e ∨ (d = .sensor .bh1750 ∧ e = .sensor .veml7700) ∨
      (d = .sensor .veml7700 ∧ e = .sensor .bh1750) ∨
      (d = .sensor .wind ∧ e = .sensor .as3935) ∨ (d = .sensor .as3935 ∧ e = .sensor .wind) := by
  have hall : ∀ d ∈ Kept.devices, ∀ e ∈ Kept.devices, d.hwId = e.hwId →
      d = e ∨ (d = .sensor .bh1750 ∧ e = .sensor .veml7700) ∨
        (d = .sensor .veml7700 ∧ e = .sensor .bh1750) ∨
        (d = .sensor .wind ∧ e = .sensor .as3935) ∨
        (d = .sensor .as3935 ∧ e = .sensor .wind) := by decide
  exact hall d (Kept.mem_devices d) e (Kept.mem_devices e) h

theorem hwId_injOn (hF : Distinct F) {d e : Device} (hd : F.starts d = true)
    (he : F.starts e = true) (h : d.hwId = e.hwId) : d = e := by
  rcases hwId_eq_cases h with rfl | ⟨rfl, rfl⟩ | ⟨rfl, rfl⟩ | ⟨rfl, rfl⟩ | ⟨rfl, rfl⟩
  · rfl
  · exact absurd ⟨hd, he⟩ hF.1
  · exact absurd ⟨he, hd⟩ hF.1
  · exact absurd ⟨hd, he⟩ hF.2
  · exact absurd ⟨he, hd⟩ hF.2

theorem registered_of_drained (hinv : System.Inv (monitors F) (Continues F) (AllKept F) p)
    (hd : Drained F p) (hF : Distinct F) : Registered F p.shared := by
  obtain ⟨ph, hwp, hJ⟩ := hinv
  obtain ⟨hdone, hmail⟩ := hd
  have hposted : ∀ d, F.starts d = true → ∀ m, (ph (.device d)).posted m = d.posts m := by
    intro d hs
    have hw := hwp (.device d)
    rw [hdone d hs] at hw
    exact hw.2
  have hhand : ∀ m, (ph (.registry m)).hand = none := by
    intro m
    have hw := hwp (.registry m)
    rcases (hmail m).2 with hk | ⟨k, hk⟩
    · rw [hk] at hw
      exact hw
    · rw [hk] at hw
      exact hw.1.2
  intro m i d
  constructor
  · intro hl
    obtain ⟨rfl, hp⟩ := (hJ m).inList i d hl
    obtain ⟨hs, hpm⟩ := (hJ m).started d hp
    exact ⟨hs, hpm, rfl⟩
  · rintro ⟨hs, hpm, rfl⟩
    -- the record has left the mailbox, so its slot is taken, by a device with its id
    rcases (hJ m).reached d ((hposted d hs m).trans hpm) with hm | hh | hl
    · rw [(hmail m).1] at hm
      cases hm
    · rw [hhand m] at hh
      cases hh
    · obtain ⟨e, he⟩ := Option.isSome_iff_exists.mp hl
      obtain ⟨hid, hpe⟩ := (hJ m).inList _ e he
      rw [he, hwId_injOn hF ((hJ m).started e hpe).1 hs hid]

theorem distinct_of_registered {s : State} (h : Registered F s) : Distinct F := by
  have hclash : ∀ a b : Sensor, a ≠ b → a.hwId = b.hwId → F.starts (.sensor a) = true →
      F.starts (.sensor b) = true → False := by
    intro a b hab hid ha hb
    have hla := (h .hw a.hwId (.sensor a)).mpr ⟨ha, rfl, rfl⟩
    have hlb := (h .hw a.hwId (.sensor b)).mpr ⟨hb, rfl, congrArg Fin.val hid.symm⟩
    rw [hla] at hlb
    cases hlb
    exact hab rfl
  constructor
  · exact fun hb => hclash .bh1750 .veml7700 (by decide) rfl hb.1 hb.2
  · exact fun hb => hclash .wind .as3935 (by decide) rfl hb.1 hb.2

/-- For every set of features and in every state of every run: no post fails,
every id is an index, and the lists are complete when the mailboxes are drained,
the latter if and only if no two enabled sensors have one id. -/
theorem complete_iff (h : system.Reachable (initial F) p) :
    Complete F p ↔ (Drained F p → Distinct F) := by
  have hinv := reachable_inv h
  constructor
  · exact fun hc hd => distinct_of_registered (hc.lists hd)
  · intro hF
    refine ⟨fun t m d hp => ?_, fun t m i d hput => ?_, fun hd => ?_⟩
    · obtain ⟨ph, -, hJ⟩ := hinv
      exact (hJ m).room
    · obtain ⟨ph, hallow, -⟩ := hinv.allows hput
      cases t with
      | device e => exact hallow.elim
      | registry m' =>
        obtain ⟨-, -, rfl⟩ := hallow
        exact hwId_lt d m
    · exact registered_of_drained hinv hd (hF hd)

/-- A record is posted, fetched and put. -/
def carry (m : Mail) (d : Device) : List (Thread × (c : Call) × Reply c) :=
  [(.device d, ⟨.post m d, true⟩), (.registry m, ⟨.fetch m, d⟩),
    (.registry m, ⟨.put m d.hwId d, ()⟩)]

/-- The run in which a device registers, each of its records being put at once. -/
def enroll : Device → List (Thread × (c : Call) × Reply c)
  | .hc12 => carry .hw .hc12
  | .sensor .wind => carry .schedule (.sensor .wind) ++ carry .hw (.sensor .wind)
  | .sensor s =>
    carry .schedule (.sensor s) ++ [(.device (.sensor s), ⟨.chThdSleepMilliseconds 1000, ()⟩)] ++
      carry .hw (.sensor s)

/-- `Drained`, computed. -/
def drained (F : Features) (p : Pool Thread Call Reply Label State) : Bool :=
  (Kept.devices.all fun d => !F.starts d || p.nextBlock (.device d) = some .running) &&
    [Mail.schedule, .hw].all fun m =>
      (p.shared.mail m).isEmpty && p.nextBlock (.registry m) = some .fetch

theorem drained_of_eq_true (h : drained F p = true) : Drained F p := by
  simp only [drained, Bool.and_eq_true, List.all_eq_true] at h
  refine ⟨fun d hs => ?_, fun m => ?_⟩
  · have hd := h.1 d (Kept.mem_devices d)
    rw [hs] at hd
    exact Pool.prog_of_nextBlock (of_decide_eq_true hd)
  · have hm := h.2 m (by cases m <;> simp)
    exact ⟨List.isEmpty_iff.mp hm.1, .inl (Pool.prog_of_nextBlock (of_decide_eq_true hm.2))⟩

/-- All sensors but the second of each pair. -/
def withoutClash : Features
  | .veml7700 | .as3935 => false
  | _ => true

theorem complete_iff_withoutClash :
    ∃ p, system.Reachable (initial withoutClash) p ∧ Drained withoutClash p ∧
      Complete withoutClash p := by
  obtain ⟨p, hp, hf⟩ := System.Reachable.exists_of_playAll system (initial withoutClash)
    ((Kept.devices.filter withoutClash.starts).flatMap enroll) (drained withoutClash) (b := true)
    (by decide +kernel)
  exact ⟨p, hp, drained_of_eq_true hf,
    (complete_iff hp).mpr fun _ => ⟨by simp [withoutClash], by simp [withoutClash]⟩⟩

/-- The shipped sensors and a BH1750. -/
def withBh1750 : Features
  | .bmp280 | .veml7700 | .ml8511 | .bh1750 => true
  | _ => false

/-- The VEML7700 takes the place of the BH1750 in both lists. -/
theorem veml7700_replaces_bh1750 :
    ∃ p, system.Reachable (initial withBh1750) p ∧ Drained withBh1750 p ∧
      (∀ m, p.shared.list m 2 = some (.sensor .veml7700)) ∧ ¬ Complete withBh1750 p := by
  obtain ⟨p, hp, hf⟩ := System.Reachable.exists_of_playAll system (initial withBh1750)
    ((Kept.devices.filter withBh1750.starts).flatMap enroll)
    (fun p => (drained withBh1750 p, p.shared.list .schedule 2, p.shared.list .hw 2))
    (b := (true, some (.sensor .veml7700), some (.sensor .veml7700))) (by decide +kernel)
  simp only [Prod.mk.injEq] at hf
  obtain ⟨hd, hsch, hhw⟩ := hf
  have hdrained := drained_of_eq_true hd
  refine ⟨p, hp, hdrained, fun m => ?_, fun hc => ?_⟩
  · cases m with
    | schedule => exact hsch
    | hw => exact hhw
  · have hl := (hc.lists hdrained .hw 2 (.sensor .bh1750)).mpr ⟨rfl, rfl, rfl⟩
    rw [hhw] at hl
    cases hl

end MeteoL053.Registry
