import MeteoL053.Station.Configuration

/-!
The configuration of the running station refines the model of its commands:
whatever the threads do meanwhile, the commands that were entered act one after
the other, as `Config.performAll` has them for the recorded order of commands and
registrations.

A `schedule` command takes effect where it first looks at the list; the message
and the two stores come later and are what the shell still has to do. A `save`
takes effect with the end of its write; until then the EEPROM is some bytes ahead.
-/

namespace MeteoL053.Station.Settings

open CallTree Config Registry

/-! ## The other threads -/

section Threads

variable {F : Features} {t : Thread} {φ : Phase}

theorem hc12_follows (b : Block) : (hc12 b).wp (monitor F .hc12) φ fun _ _ => True := by
  have hlift : ∀ {p : Fw Block}, p.All Hc12.RadioCall →
      (lift .hc12 p).wp (monitor F .hc12) φ fun _ _ => True := fun hp =>
    Prog.wp_mono _ _ (fun _ _ _ => trivial) (lift_waitless .hc12 (hp.mono waitless_of_radioCall))
  cases b with
  | start =>
    refine idle_keeps.step trivial fun _ => ?_
    refine Prog.wp_step ⟨trivial, trivial⟩ fun _ _ => ?_
    apply Prog.wp_bind_of _ _ _ (lift_ordinary .hc12 normalMode_ordinary)
    exact fun _ _ _ => trivial
  | ping => exact hlift Hc12.ping_all
  | _ => exact hlift Hc12.transmit_all

/-- Between the blocks of a thread. -/
def Continues (F : Features) : Thread → Label → Phase → Prop
  | .shell, .shell l, φ => AtLabel l φ
  | .sensor x, l, φ => l = .off ∨ F.starts (.sensor x) = true ∧ Runs l φ
  | _, _, _ => True

theorem sensor_follows (x : Setup) (s : Sensor) (l : Label)
    (hs : x.features.starts (.sensor s) = true) (h : Runs l φ) :
    (sensorCode x s l).wp (monitor x.features (.sensor s)) φ
      fun l φ => x.features.starts (.sensor s) = true ∧ Runs l φ := by
  have hnone : intervalOf l ≠ none := by
    rw [h.interval]
    exact Option.some_ne_none _
  unfold sensorCode
  split
  · apply Prog.wp_bind_of _ _ _ (lift_follows (bmp280_follows x.fuel x.bmp280Line x.bmp280 _ hs h))
    exact fun _ _ hl => ⟨hs, hl⟩
  · exact absurd rfl hnone
  · apply Prog.wp_bind_of _ _ _ (lift_follows (veml7700_follows _ _ hs h))
    exact fun _ _ hl => ⟨hs, hl⟩
  · apply Prog.wp_bind_of _ _ _ (ml8511_follows x.uv _ hs h)
    exact fun _ _ hl => ⟨hs, hl⟩
  · exact absurd rfl hnone
  · exact absurd rfl hnone
  · exact absurd rfl hnone
  · exact absurd rfl hnone
  · exact absurd rfl hnone
  · apply Prog.wp_bind_of _ _ _ (power_follows x.fuel x.power _ hs h)
    exact fun _ _ hl => ⟨hs, hl⟩
  · exact ⟨hs, h⟩

theorem registry_follows (m : Mail) :
    (liftRegistry (registerThread m)).wp (monitor F (.registry m)) φ fun _ _ => True := by
  refine Prog.wp_step ⟨trivial, rfl⟩ fun record _ => ?_
  exact Prog.wp_step ⟨trivial, rfl, rfl, rfl⟩ fun _ _ => trivial

theorem body_follows (x : Setup) (t : Thread) (l : Label) (φ : Phase)
    (h : Continues x.features t l φ) :
    (body x t l).wp (monitor x.features t) φ (Continues x.features t) := by
  unfold body
  split
  · apply Prog.wp_bind_of _ _ _ (hc12_follows _)
    exact fun _ _ _ => trivial
  · apply Prog.wp_bind_of _ _ _ (shell_follows x.as3935 _ h)
    exact fun _ _ hl => hl
  · rcases h with rfl | ⟨hs, hl⟩
    · -- a thread that was not started stays where it is
      next s => cases s <;> exact .inl rfl
    · exact Prog.wp_mono _ _ (fun _ _ => .inr) (sensor_follows x _ _ hs hl)
  · apply Prog.wp_bind_of _ _ _ (registry_follows _)
    exact fun _ _ _ => trivial
  · exact idle_keeps.step trivial fun _ => trivial
  · exact idle_keeps.step trivial fun _ => trivial
  · exact h

end Threads

/-! ## The commands one after the other -/

section Abstract

variable (waits : Nat → Eeprom.Wait)

theorem performAll_snoc (es : List Event) (e : Event) (st : Config.Station) :
    performAll waits atoi (es ++ [e]) st = e.perform waits atoi (performAll waits atoi es st) := by
  induction es generalizing st with
  | nil => rfl
  | cons e' es ih => exact ih _

/-- What the command is for an index of the list. -/
theorem setSchedule_of_index {i n : UInt8} {id : Fin scheduleListSize} (h : indexOf i = some id)
    (st : Config.Station) :
    Config.setSchedule i n st =
      match st.scheduleList id with
      | some t => if n > 0 then assign id t n.toUInt16 st else st
      | none => st := by
  have hid : i > 0 ∧ i.toNat < scheduleListSize := by
    unfold indexOf at h
    split at h
    · split at h
      · exact ⟨‹_›, ‹_›⟩
      · cases h
    · cases h
  have hindex : (⟨i.toNat, hid.2⟩ : Fin scheduleListSize) = id := by
    rw [indexOf, if_pos hid.1, dif_pos hid.2] at h
    exact Option.some.inj h
  unfold Config.setSchedule
  rw [dif_pos hid, hindex]
  cases st.scheduleList id with
  | none => rfl
  | some t =>
    simp only [assign, msgSend, nextInterval, UInt8.toUInt16_toUInt32]

theorem setSchedule_of_no_index {i n : UInt8} (h : indexOf i = none) (st : Config.Station) :
    Config.setSchedule i n st = st := by
  unfold Config.setSchedule
  split
  · next hid => rw [indexOf, if_pos hid.1, dif_pos hid.2] at h; cases h
  · rfl

/-- A command that is only to show the table has no effect. -/
theorem perform_of_table {e : Event} (h : Todo.of (some e) = .table) (st : Config.Station) :
    e.perform waits atoi st = st := by
  cases e with
  | register s => cases h
  | save => cases h
  | schedule argv =>
    match argv with
    | [id, interval] =>
      cases hindex : indexOf (UInt8.ofInt (atoi id)) with
      | none => exact setSchedule_of_no_index hindex st
      | some i => rw [Todo.of, hindex] at h; cases h
    | [] => rfl
    | [_] => rfl
    | _ :: _ :: _ :: _ => rfl

end Abstract

/-- The events that were entered. -/
def isCommand : Event → Bool
  | .register _ => false
  | _ => true

theorem eventOf_isCommand {F : Features} {line : List UInt8} {e : Event}
    (h : eventOf F line = some e) : isCommand e = true := by
  unfold eventOf dispatchEvent at h
  obtain ⟨⟨cmd, argv⟩, -, h⟩ := Option.bind_eq_some_iff.mp h
  split at h
  · cases h
  · obtain ⟨c, -, hc⟩ := Option.bind_eq_some_iff.mp h
    cases c <;> cases hc <;> rfl

/-! ## The invariant -/

/-- The command that is to take effect when the shell goes on. -/
def Todo.Awaits (todo : Todo) (e : Option Event) : Prop :=
  match todo with
  | .table => ∃ argv, e = some (.schedule argv) ∧ Todo.of e = .table
  | .lookUp id n => ∃ a b, e = some (.schedule [a, b]) ∧
      indexOf (UInt8.ofInt (atoi a)) = some id ∧ n = UInt8.ofInt (atoi b)
  | .save n => e = some .save ∧ n ≤ configSize + 1
  | _ => e = none

/-- The steps of the write that are done. -/
def Todo.steps : Todo → Nat
  | .save n => n
  | _ => 0

/-- `appConfiguration` when the shell is done. -/
def Todo.applied (todo : Todo) (cfg : AppConfiguration) : AppConfiguration :=
  match todo with
  | .assign _ id n | .store id n =>
    { cfg with interval := Function.update cfg.interval id n.toUInt16 }
  | _ => cfg

/-- The interval of a thread when the shell is done. -/
def Todo.intervalOf (todo : Todo) (x : Sensor) (v : UInt16) : UInt16 :=
  match todo with
  | .assign y _ n => if x = y then n.toUInt16 else v
  | _ => v

/-- A record of a sensor of the shipped firmware. -/
def Known (d : Device) : Prop := ∃ x : Fitted, d = .sensor x.1

/-- The records on their way to the schedule list, and in it. -/
structure Kept (hand : Option Device) (r : Registry.State) : Prop where
  mail : ∀ d ∈ r.mail .schedule, Known d
  hand : ∀ d, hand = some d → Known d
  listed : ∀ i d, r.list .schedule i = some d → Known d ∧ d.hwId = i

/-- The message of the command under way, and the interval it carries. -/
structure Delivers (shell : Phase) (s : State) : Prop where
  found : ∀ x id n, shell.todo = .assign x id n → s.scheduleList id = some x
  message : ∀ x m, shell.talk = .sending x m → ∃ id n, shell.todo = .assign x id n ∧ m = n.toUInt32
  arrived : ∀ x m, shell.talk = .sending x m → s.msgs x = .idle → s.interval x = m.toUInt16

/-- The station against the abstract one. -/
structure Refines (F : Features) (waits : Nat → Eeprom.Wait) (st : Config.Station) (shell : Phase)
    (s : State) : Prop where
  entered : entered F s.keys = s.order.filter isCommand ++ s.pending.toList
  line : (typed s.keys).line = shell.line
  pending : shell.todo.Awaits s.pending
  eeprom : s.eeprom = saving waits s.appConfiguration st.eeprom shell.todo.steps
  app : st.appConfiguration = shell.todo.applied s.appConfiguration
  list : ∀ i, (st.scheduleList i).map Subtype.val = s.scheduleList i
  interval : ∀ x : Fitted, st.interval x = shell.todo.intervalOf x.1 (s.interval x.1)

/-- The intervals of the threads. -/
structure Intervals (ph : Thread → Phase) (s : State) : Prop where
  thread : ∀ x, (ph (.sensor x)).interval = s.interval x
  stored : ∀ x m, (ph (.sensor x)).talk = .stored m → s.interval x = m.toUInt16

section Steps

variable {F : Features} {waits : Nat → Eeprom.Wait} {ph : Thread → Phase} {s : State} {t : Thread}
  {c : Call} {r : Reply c}

theorem effect_msgs : (effect F waits t s c r).msgs = s.msgs.after t c r := by
  cases c <;> first | rfl | (cases t <;> rfl)

theorem effect_registry (h : ∀ c', c ≠ .registry c') :
    (effect F waits t s c r).registry = s.registry := by
  cases c with
  | registry c' => exact absurd rfl (h c')
  | setInterval n => cases t <;> rfl
  | _ => rfl

theorem known_of_starts {x : Sensor} (h : Features.starts Sensor.enabled (.sensor x) = true) :
    Known (.sensor x) := by
  cases x <;> first | exact ⟨⟨_, rfl⟩, rfl⟩ | cases h

/-! ### The registry -/

theorem Kept.post {hand : Option Device} {q : Registry.State} (h : Kept hand q) {m : Mail}
    {d : Device} {ok : Bool} (hd : m = .schedule → Known d) :
    Kept hand (Registry.effect q (.post m d) ok) where
  mail e he := by
    cases m with
    | schedule =>
      simp only [Registry.effect, Function.update_self] at he
      split at he
      · rcases List.mem_append.mp he with he | he
        · exact h.mail e he
        · rw [List.mem_singleton.mp he]
          exact hd rfl
      · exact h.mail e he
    | hw => exact h.mail e he
  hand := h.hand
  listed := h.listed

theorem Kept.fetch {hand : Option Device} {q : Registry.State} (h : Kept hand q) {d : Device}
    (hd : (q.mail .schedule).head? = some d) :
    Kept (some d) (Registry.effect q (.fetch .schedule) d) where
  mail e he := by
    simp only [Registry.effect, Function.update_self] at he
    exact h.mail e (List.mem_of_mem_tail he)
  hand e he := by
    cases he
    exact h.mail d (List.mem_of_mem_head? hd)
  listed := h.listed

theorem Kept.put {hand : Option Device} {q : Registry.State} (h : Kept hand q) {d : Device}
    (hd : hand = some d) :
    Kept none (Registry.effect q (.put .schedule d.hwId d) ()) where
  mail := h.mail
  hand e he := by cases he
  listed i e he := by
    simp only [Registry.effect, Function.update_self] at he
    by_cases hi : i = d.hwId
    · subst hi
      rw [Function.update_self] at he
      cases he
      exact ⟨h.hand d hd, rfl⟩
    · rw [Function.update_of_ne hi] at he
      exact h.listed i e he

/-- The mailbox and the list of the other mail do not matter. -/
theorem Kept.of_hw {hand : Option Device} {q q' : Registry.State} (h : Kept hand q)
    (hmail : q'.mail .schedule = q.mail .schedule) (hlist : q'.list .schedule = q.list .schedule) :
    Kept hand q' where
  mail := by rw [hmail]; exact h.mail
  hand := h.hand
  listed := by rw [hlist]; exact h.listed

/-- Only registry calls change what a registry thread has in hand. -/
theorem next_hand (h : ∀ m, c ≠ .registry (.fetch m)) (h' : ∀ m i d, c ≠ .registry (.put m i d))
    (φ : Phase) : ((monitor F t).next φ c r).hand = φ.hand := by
  cases t with
  | shell =>
    cases c with
    | streamRead =>
      simp only [monitor, Phase.next, shellNext]
      split <;> rfl
    | _ => rfl
  | sensor x => cases c <;> rfl
  | registry m =>
    cases c with
    | registry c' =>
      cases c' with
      | fetch m => exact absurd rfl (h m)
      | put m i d => exact absurd rfl (h' m i d)
      | _ => rfl
    | _ => rfl
  | _ => rfl

/-- A post to the schedule list is the own record of a started sensor thread. -/
theorem known_of_post (hF : F = Sensor.enabled) {d : Device} {φ : Phase}
    (ha : (monitor F t).allows φ (.registry (.post .schedule d))) : Known d := by
  cases t with
  | sensor x =>
    obtain ⟨rfl, hstarts⟩ := ha.2
    rw [hF] at hstarts
    exact known_of_starts hstarts
  | _ => exact ha.2.elim

theorem Kept.call (hF : F = Sensor.enabled) (h : Kept (ph (.registry .schedule)).hand s.registry)
    (ha : (monitor F t).allows (ph t) c) (hr : possible t s c r) :
    Kept (Function.update ph t ((monitor F t).next (ph t) c r) (.registry .schedule)).hand
      (effect F waits t s c r).registry := by
  cases c with
  | registry c' =>
    cases c' with
    | post m d =>
      rw [apply_update_same Phase.hand (next_hand (by simp) (by simp) (ph t))]
      refine h.post fun hm => ?_
      subst hm
      exact known_of_post hF ha
    | fetch m =>
      cases t with
      | registry m' =>
        obtain rfl : m = m' := ha.2
        cases m with
        | schedule =>
          rw [Function.update_self]
          exact h.fetch hr.2
        | hw =>
          rw [Function.update_of_ne (by simp)]
          exact h.of_hw rfl rfl
      | _ => exact ha.2.elim
    | put m id d =>
      cases t with
      | registry m' =>
        obtain ⟨rfl, hhand, rfl⟩ := ha.2
        cases m with
        | schedule =>
          rw [Function.update_self]
          exact h.put hhand
        | hw =>
          rw [Function.update_of_ne (by simp)]
          exact h.of_hw rfl rfl
      | _ => exact ha.2.elim
    | chThdSleepMilliseconds ms => cases t <;> exact ha.2.elim
  | _ =>
    rw [apply_update_same Phase.hand (next_hand (by simp) (by simp) (ph t)),
      effect_registry (by simp)]
    exact h

/-! ### The intervals -/

theorem effect_interval (h : ∀ n, c ≠ .setInterval n) :
    (effect F waits t s c r).interval = s.interval := by
  cases c with
  | setInterval n => exact absurd rfl (h n)
  | _ => rfl

theorem next_interval (h : ∀ n, c ≠ .setInterval n) (φ : Phase) :
    ((monitor F t).next φ c r).interval = φ.interval := by
  cases t with
  | shell =>
    cases c with
    | streamRead =>
      simp only [monitor, Phase.next, shellNext]
      split <;> rfl
    | _ => rfl
  | sensor x =>
    cases c with
    | setInterval n => exact absurd rfl (h n)
    | _ => rfl
  | registry m =>
    cases c with
    | registry c' => cases c' <;> rfl
    | _ => rfl
  | _ => rfl

theorem stored_of_next (h : ∀ n, c ≠ .setInterval n) {talk : Talk} {m : UInt32}
    (hm : talk.next c r = .stored m) : talk = .stored m := by
  cases c with
  | setInterval n => exact absurd rfl (h n)
  | chMsgSend x m => cases hm
  | chMsgSent x => cases hm
  | chMsgGet => cases hm
  | chMsgRelease => cases hm
  | chMsgWait timeout =>
    cases r with
    | false => exact hm
    | true => cases hm
  | _ => exact hm

theorem Intervals.call (h : Intervals ph s) (ha : (monitor F t).allows (ph t) c) :
    Intervals (Function.update ph t ((monitor F t).next (ph t) c r)) (effect F waits t s c r) := by
  by_cases hc : ∃ n, c = .setInterval n
  · obtain ⟨n, rfl⟩ := hc
    obtain ⟨⟨x, rfl⟩, m, hgot, rfl⟩ := ha.1
    have heffect : (effect F waits (.sensor x) s (.setInterval m.toUInt16) r).interval =
        Function.update s.interval x m.toUInt16 := rfl
    have hnext : (monitor F (.sensor x)).next (ph (.sensor x)) (.setInterval m.toUInt16) r =
        { ph (.sensor x) with interval := m.toUInt16, talk := .stored m } := by
      simp only [monitor, Phase.next, sensorNext, Talk.next, hgot]
    rw [hnext]
    constructor
    · intro y
      rw [heffect]
      by_cases e : y = x
      · subst e
        rw [Function.update_self, Function.update_self]
      · rw [Function.update_of_ne (by simpa using e), Function.update_of_ne e]
        exact h.thread y
    · intro y m' hy
      rw [heffect]
      by_cases e : y = x
      · subst e
        rw [Function.update_self] at hy
        cases hy
        rw [Function.update_self]
      · rw [Function.update_of_ne (by simpa using e)] at hy
        rw [Function.update_of_ne e]
        exact h.stored y m' hy
  · have hc' : ∀ n, c ≠ .setInterval n := fun n hn => hc ⟨n, hn⟩
    constructor
    · intro y
      rw [apply_update_same Phase.interval (next_interval hc' (ph t)), effect_interval hc']
      exact h.thread y
    · intro y m hy
      rw [effect_interval hc']
      exact h.stored y m (of_update ph (fun _ φ => φ.talk = .stored m) (stored_of_next hc') hy)

/-! ### The message of the command under way -/

/-- What a receiver has is the message of the command. -/
theorem assign_of_taken {x : Sensor} {m : UInt32} (hmeet : Meeting (Phase.talk ∘ ph) s.msgs)
    (h : Delivers (ph .shell) s) (hx : s.msgs x = .taken m) :
    ∃ id n, (ph .shell).todo = .assign x id n ∧ m = n.toUInt32 :=
  h.message x m (hmeet.sender x m (.inr hx))

theorem taken_of_got {x : Sensor} {m : UInt32} (hmeet : Meeting (Phase.talk ∘ ph) s.msgs)
    (h : (ph (.sensor x)).talk = .got m ∨ (ph (.sensor x)).talk = .stored m) :
    s.msgs x = .taken m := by
  have hserves := hmeet.server x
  rw [Function.comp_apply] at hserves
  rcases h with h | h
  · rwa [h] at hserves
  · rwa [h] at hserves

/-- A new record at its id leaves the entries that are there. -/
theorem scheduleList_put {hand : Option Device} (hkept : Kept hand s.registry) {d : Device}
    (hd : Known d) {id : Fin scheduleListSize} {x : Sensor} (hx : s.scheduleList id = some x) :
    { s with registry := Registry.effect s.registry (.put .schedule d.hwId d) () }.scheduleList id =
      some x := by
  obtain ⟨y, rfl⟩ := hd
  have hlist : s.registry.list .schedule id = some (.sensor x) := by
    unfold State.scheduleList at hx
    split at hx
    · next hl => rw [hl, Option.some.inj hx]
    · cases hx
  obtain ⟨⟨z, hz⟩, hid⟩ := hkept.listed id _ hlist
  cases hz
  simp only [State.scheduleList, Registry.effect, Function.update_self]
  by_cases e : (id : Nat) = y.1.hwId
  · have hyz : y = z := hwId_injective (Fin.ext (e.symm.trans hid.symm))
    subst hyz
    rw [show (Device.sensor y.1).hwId = (id : Nat) from e.symm, Function.update_self]
  · rw [show (Device.sensor y.1).hwId = (y.1.hwId : Nat) from rfl, Function.update_of_ne e, hlist]

/-! ### The shell -/

/-- The command under way delivers its message, and the station is the abstract
one after the recorded order. -/
structure Linear (F : Features) (waits : Nat → Eeprom.Wait) (st₀ : Config.Station) (shell : Phase)
    (s : State) : Prop where
  delivers : Delivers shell s
  refines : Refines F waits (performAll waits atoi s.order st₀) shell s

variable {st₀ : Config.Station} {shell : Phase}

/-- What is known of the station while the shell has `todo` left to do. -/
theorem Refines.doing {st : Config.Station} {todo : Todo} (h : Refines F waits st shell s)
    (htodo : shell.todo = todo) :
    todo.Awaits s.pending ∧ s.eeprom = saving waits s.appConfiguration st.eeprom todo.steps ∧
      st.appConfiguration = todo.applied s.appConfiguration ∧
      ∀ x : Fitted, st.interval x = todo.intervalOf x.1 (s.interval x.1) := by
  subst htodo
  exact ⟨h.pending, h.eeprom, h.app, h.interval⟩

theorem Delivers.of_no_assign (htodo : ∀ x id n, shell.todo ≠ .assign x id n)
    (htalk : ∀ x m, shell.talk ≠ .sending x m) : Delivers shell s where
  found x id n h := absurd h (htodo x id n)
  message x m h := absurd h (htalk x m)
  arrived x m h := absurd h (htalk x m)

/-- Without an assignment under way nothing is being sent. -/
theorem Delivers.not_sending (h : Delivers shell s)
    (htodo : ∀ x id n, shell.todo ≠ .assign x id n) (x : Sensor) (m : UInt32) :
    shell.talk ≠ .sending x m := by
  intro htalk
  obtain ⟨id, n, hassign, -⟩ := h.message x m htalk
  exact htodo x id n hassign

/-! ### What is typed -/

/-- What a line leaves the shell to do. -/
theorem todo_of_cases (e : Option Event) :
    Todo.of e = .nothing ∨ Todo.of e = .table ∨ (∃ id n, Todo.of e = .lookUp id n) ∨
      Todo.of e = .save 0 := by
  unfold Todo.of
  split
  · split
    · exact .inr (.inr (.inl ⟨_, _, rfl⟩))
    · exact .inr (.inl rfl)
  · exact .inr (.inl rfl)
  · exact .inr (.inr (.inr rfl))
  · exact .inl rfl

theorem awaits_of {e : Option Event} (he : ∀ x, e ≠ some (.register x)) : (Todo.of e).Awaits e := by
  match e with
  | none => rfl
  | some (.register x) => exact absurd rfl (he x)
  | some .save => exact ⟨rfl, Nat.zero_le _⟩
  | some (.schedule [a, b]) =>
    cases hindex : indexOf (UInt8.ofInt (atoi a)) with
    | none =>
      have htable : Todo.of (some (.schedule [a, b])) = .table := by rw [Todo.of, hindex]
      rw [htable]
      exact ⟨_, rfl, htable⟩
    | some id =>
      have hlookUp : Todo.of (some (.schedule [a, b])) = .lookUp id (UInt8.ofInt (atoi b)) := by
        rw [Todo.of, hindex]
      rw [hlookUp]
      exact ⟨a, b, rfl, hindex, rfl⟩
  | some (.schedule []) => exact ⟨_, rfl, rfl⟩
  | some (.schedule [_]) => exact ⟨_, rfl, rfl⟩
  | some (.schedule (_ :: _ :: _ :: _)) => exact ⟨_, rfl, rfl⟩

/-- A key that does not end the line. -/
theorem Linear.edit (h : Linear F waits st₀ shell s) (htodo : shell.todo = .nothing) {k : UInt8}
    (hk : k ≠ 0x0D) :
    Linear F waits st₀ { shell with line := Settings.edit shell.line k } (s.key F k) := by
  obtain ⟨hdelivers, href⟩ := h
  have hkey : s.key F k = { s with keys := s.keys ++ [k] } := by
    simp only [State.key, if_neg hk]
  have htyped : typed (s.keys ++ [k]) =
      ⟨(typed s.keys).lines, Settings.edit (typed s.keys).line k⟩ := by
    rw [typed_snoc, Typed.key, if_neg hk]
  rw [hkey]
  refine ⟨.of_no_assign (by simp [htodo]) (hdelivers.not_sending (by simp [htodo])), ?_⟩
  exact { href with
    entered := by rw [Settings.entered, htyped]; exact href.entered
    line := by rw [htyped, href.line] }

/-- The end of a line. Its command is pending. -/
theorem Linear.enter (h : Linear F waits st₀ shell s) (htodo : shell.todo = .nothing) :
    Linear F waits st₀ { shell with line := [], todo := .of (eventOf F shell.line) }
      (s.key F 0x0D) := by
  obtain ⟨hdelivers, href⟩ := h
  obtain ⟨hpending, heeprom, happ, hinterval⟩ := href.doing htodo
  have hkey : s.key F 0x0D =
      { s with keys := s.keys ++ [0x0D], pending := eventOf F shell.line } := by
    rw [State.key, if_pos rfl, href.line]
  have htyped : typed (s.keys ++ [0x0D]) = ⟨(typed s.keys).lines ++ [shell.line], []⟩ := by
    rw [typed_snoc, Typed.key, if_pos rfl, href.line]
  have hentered : entered F (s.keys ++ [0x0D]) =
      s.order.filter isCommand ++ (eventOf F shell.line).toList := by
    have hlines := href.entered
    rw [show s.pending = none from hpending] at hlines
    rw [Settings.entered, htyped, List.filterMap_append]
    rw [show (typed s.keys).lines.filterMap (eventOf F) = _ from hlines]
    cases hevent : eventOf F shell.line <;> simp [hevent]
  have hawaits : (Todo.of (eventOf F shell.line)).Awaits (eventOf F shell.line) := by
    refine awaits_of fun x hx => ?_
    cases eventOf_isCommand hx
  have htalk := hdelivers.not_sending (by simp [htodo])
  rw [hkey]
  generalize eventOf F shell.line = e at hentered hawaits
  -- none of what a line leaves to do has changed the configuration yet
  rcases todo_of_cases e with he | he | ⟨id, n, he⟩ | he <;>
    rw [he] at hawaits ⊢ <;>
    exact ⟨.of_no_assign (by simp) htalk,
      hentered, by rw [htyped], hawaits, heeprom, happ, href.list, hinterval⟩

/-! ### The commands take effect -/

theorem State.commit_of_none (h : s.pending = none) : s.commit = s := by
  simp only [commit, h, Option.toList_none, List.append_nil]
  rw [← h]

/-- The state after the command `e` took effect. -/
theorem State.commit_of_some {e : Event} (h : s.pending = some e) :
    s.commit = { s with pending := none, order := s.order ++ [e] } := by
  rw [commit, h, Option.toList_some]

theorem entered_commit {e : Event} (he : isCommand e = true) (h : s.pending = some e)
    (hentered : entered F s.keys = s.order.filter isCommand ++ s.pending.toList) :
    entered F s.keys = (s.order ++ [e]).filter isCommand ++ [] := by
  rw [hentered, h, List.filter_append, List.append_nil, List.filter_cons_of_pos he]
  rfl

/-- The abstract command that is looked up. -/
theorem perform_lookUp (waits : Nat → Eeprom.Wait) {a b : String} {id : Fin scheduleListSize}
    (hindex : indexOf (UInt8.ofInt (atoi a)) = some id) (st : Config.Station) :
    (Event.schedule [a, b]).perform waits atoi st =
      match st.scheduleList id with
      | some t => if UInt8.ofInt (atoi b) > 0 then assign id t (UInt8.ofInt (atoi b)).toUInt16 st
          else st
      | none => st :=
  setSchedule_of_index hindex st

/-- **A command without effect** is done with. -/
theorem Linear.commit_same (h : Linear F waits st₀ shell s) {e : Event} (hpending : s.pending = some e)
    (he : isCommand e = true) (hsteps : shell.todo.steps = 0)
    (happ : shell.todo.applied s.appConfiguration = s.appConfiguration)
    (hinterval : ∀ x v, shell.todo.intervalOf x v = v)
    (htodo : ∀ x id n, shell.todo ≠ .assign x id n)
    (hsame : e.perform waits atoi (performAll waits atoi s.order st₀) =
      performAll waits atoi s.order st₀) :
    Linear F waits st₀ { shell with todo := .nothing } s.commit := by
  obtain ⟨hdelivers, href⟩ := h
  rw [State.commit_of_some hpending]
  refine ⟨.of_no_assign (by simp) (hdelivers.not_sending htodo), ?_⟩
  have hst : performAll waits atoi (s.order ++ [e]) st₀ = performAll waits atoi s.order st₀ := by
    rw [performAll_snoc, hsame]
  constructor
  · exact entered_commit he hpending href.entered
  · exact href.line
  · rfl
  · simp only [hst]
    rw [href.eeprom, hsteps]
    rfl
  · simp only [hst]
    rw [href.app, happ]
    rfl
  · simp only [hst]
    exact href.list
  · intro x
    simp only [hst]
    rw [href.interval, hinterval]
    rfl

/-- The table of a command that assigns nothing. -/
theorem Linear.table (h : Linear F waits st₀ shell s) (htodo : shell.todo = .table) :
    Linear F waits st₀ { shell with todo := .nothing } s.commit := by
  obtain ⟨argv, hpending, htable⟩ := (h.refines.doing htodo).1
  rw [hpending] at htable
  exact h.commit_same hpending rfl (by rw [htodo]; rfl) (by rw [htodo]; rfl)
    (fun _ _ => by rw [htodo]; rfl) (by simp [htodo]) (perform_of_table waits htable _)

/-- **The command takes effect** where the shell first looks at the list. -/
theorem Linear.lookUp {id : Fin scheduleListSize} {n : UInt8} (h : Linear F waits st₀ shell s)
    (htodo : shell.todo = .lookUp id n) :
    Linear F waits st₀
      { shell with todo := shell.todo.next (.scheduleList id) (s.scheduleList id) } s.commit := by
  obtain ⟨a, b, hpending, hindex, rfl⟩ := (h.refines.doing htodo).1
  have hperform := perform_lookUp waits (b := b) hindex (performAll waits atoi s.order st₀)
  -- without an entry, or with a zero interval, nothing changes
  have hnothing := fun hsame => h.commit_same hpending rfl (by rw [htodo]; rfl) (by rw [htodo]; rfl)
    (fun _ _ => by rw [htodo]; rfl) (by simp [htodo]) hsame
  obtain ⟨hdelivers, href⟩ := h
  have htalk := hdelivers.not_sending (by simp [htodo])
  obtain ⟨-, heeprom, happ, hinterval⟩ := href.doing htodo
  have hlist := href.list id
  rw [htodo]
  cases hentry : (performAll waits atoi s.order st₀).scheduleList id with
  | none =>
    rw [hentry] at hperform hlist
    rw [← hlist]
    exact hnothing hperform
  | some t =>
    rw [hentry] at hperform hlist
    rw [← hlist]
    by_cases hn : UInt8.ofInt (atoi b) > 0
    · simp only [if_pos hn] at hperform
      simp only [Option.map_some, Todo.next, if_pos hn]
      rw [State.commit_of_some hpending]
      have hst := (performAll_snoc waits s.order (.schedule [a, b]) st₀).trans hperform
      refine ⟨⟨?_, fun x m hm => absurd hm (htalk x m), fun x m hm => absurd hm (htalk x m)⟩, ?_⟩
      · rintro _ _ _ ⟨⟩
        exact hlist.symm
      · constructor
        · exact entered_commit rfl hpending href.entered
        · exact href.line
        · rfl
        · simp only [hst]
          exact heeprom
        · simp only [hst, assign, Todo.applied]
          rw [happ]
          rfl
        · simp only [hst]
          exact href.list
        · intro y
          simp only [hst, assign, Todo.intervalOf]
          by_cases e : y = t
          · subst e
            rw [Function.update_self, if_pos rfl]
          · rw [Function.update_of_ne e, if_neg (fun he => e (Subtype.ext he))]
            exact hinterval y
    · simp only [if_neg hn] at hperform
      simp only [Option.map_some, Todo.next, if_neg hn]
      exact hnothing hperform

/-- The message is queued. -/
theorem Linear.send {x : Sensor} {id : Fin scheduleListSize} {n : UInt8}
    (h : Linear F waits st₀ shell s) (htodo : shell.todo = .assign x id n) :
    Linear F waits st₀ { shell with talk := .sending x n.toUInt32 }
      { s with msgs := Function.update s.msgs x (.queued n.toUInt32) } := by
  obtain ⟨hdelivers, href⟩ := h
  refine ⟨⟨hdelivers.found, ?_, ?_⟩, { href with }⟩
  · rintro _ _ ⟨⟩
    exact ⟨id, n, htodo, rfl⟩
  · rintro _ _ ⟨⟩ hidle
    simp at hidle

/-- The sender is released: the thread has the interval. -/
theorem Linear.sent {x : Sensor} {m : UInt32} (h : Linear F waits st₀ shell s)
    (htalk : shell.talk = .sending x m) (hidle : s.msgs x = .idle) :
    Linear F waits st₀ { shell with todo := shell.todo.next (.chMsgSent x) (), talk := .none } s := by
  obtain ⟨hdelivers, href⟩ := h
  obtain ⟨id, n, htodo, rfl⟩ := hdelivers.message x m htalk
  have harrived := hdelivers.arrived x _ htalk hidle
  obtain ⟨hpending, heeprom, happ, hinterval⟩ := href.doing htodo
  rw [htodo]
  refine ⟨.of_no_assign (by simp [Todo.next]) (by simp), ?_⟩
  exact { href with
    pending := hpending
    eeprom := heeprom
    app := happ
    interval := by
      intro y
      rw [hinterval y]
      simp only [Todo.intervalOf, Todo.next]
      split
      · next hy => rw [hy, harrived, UInt8.toUInt16_toUInt32]
      · rfl }

/-- The entry of `appConfiguration` is stored. -/
theorem Linear.store {id : Fin scheduleListSize} {n : UInt8} (h : Linear F waits st₀ shell s)
    (htodo : shell.todo = .store id n) :
    Linear F waits st₀ { shell with todo := .nothing }
      { s with
        appConfiguration :=
          { s.appConfiguration with
            interval := Function.update s.appConfiguration.interval id n.toUInt16 } } := by
  obtain ⟨hdelivers, href⟩ := h
  obtain ⟨hpending, heeprom, happ, hinterval⟩ := href.doing htodo
  refine ⟨.of_no_assign (by simp) (hdelivers.not_sending (by simp [htodo])), ?_⟩
  exact { href with pending := hpending, eeprom := heeprom, app := happ, interval := hinterval }

/-- A step of the write of a save. -/
theorem Linear.save_step {n : Nat} {d : Eeprom.Driver} (h : Linear F waits st₀ shell s) (n' : Nat)
    (htodo : shell.todo = .save n) (hn' : n' ≤ configSize + 1)
    (hd : ∀ d₀, s.eeprom = saving waits s.appConfiguration d₀ n →
      d = saving waits s.appConfiguration d₀ n') :
    Linear F waits st₀ { shell with todo := .save n' } { s with eeprom := d } := by
  obtain ⟨hdelivers, href⟩ := h
  obtain ⟨hpending, heeprom, happ, hinterval⟩ := href.doing htodo
  refine ⟨.of_no_assign (by simp) (hdelivers.not_sending (by simp [htodo])), ?_⟩
  exact { href with
    pending := ⟨hpending.1, hn'⟩, eeprom := hd _ heeprom, app := happ, interval := hinterval }

/-- **A save takes effect** with the end of the write. -/
theorem Linear.lock (h : Linear F waits st₀ shell s) (htodo : shell.todo = .save (configSize + 1)) :
    Linear F waits st₀ { shell with todo := .nothing }
      { s with eeprom := Eeprom.lockEeprom waits .ready s.eeprom }.commit := by
  obtain ⟨hdelivers, href⟩ := h
  obtain ⟨hpending, heeprom, happ, hinterval⟩ := href.doing htodo
  rw [State.commit_of_some (s := { s with eeprom := Eeprom.lockEeprom waits .ready s.eeprom })
    hpending.1]
  refine ⟨.of_no_assign (by simp) (hdelivers.not_sending (by simp [htodo])), ?_⟩
  have hst := performAll_snoc waits s.order .save st₀
  have hlock : Eeprom.lockEeprom waits .ready s.eeprom =
      (performAll waits atoi (s.order ++ [.save]) st₀).eeprom := by
    rw [hst, heeprom]
    simp only [Todo.steps, Event.perform, cmdSave, happ]
    exact saving_lock
  constructor
  · exact entered_commit rfl hpending.1 href.entered
  · exact href.line
  · rfl
  · exact hlock
  · simp only [hst]
    exact happ
  · simp only [hst]
    exact href.list
  · simp only [hst]
    exact hinterval

/-- A look at the list: the first of a command makes it take effect. -/
theorem Linear.look {i : Fin scheduleListSize} {r : Option Sensor} (h : Linear F waits st₀ shell s)
    (hreads : shell.todo.Reads i) (hentry : r = s.scheduleList i) :
    Linear F waits st₀ ((monitor F .shell).next shell (.scheduleList i) r)
      (effect F waits .shell s (.scheduleList i) r) := by
  -- a look that is not the first of its command changes nothing
  have hagain : s.pending = none → shell.todo.next (.scheduleList i) r = shell.todo →
      Linear F waits st₀ ((monitor F .shell).next shell (.scheduleList i) r)
        (effect F waits .shell s (.scheduleList i) r) := by
    intro hpending htodo
    have hsame : (monitor F .shell).next shell (.scheduleList i) r = shell := by
      simp only [monitor, Phase.next, shellNext, Talk.next, htodo]
    have hcommit : effect F waits .shell s (.scheduleList i) r = s :=
      State.commit_of_none hpending
    rw [hsame, hcommit]
    exact h
  cases htodo : shell.todo with
  | table =>
    have hnext : (monitor F .shell).next shell (.scheduleList i) r =
        { shell with todo := .nothing } := by
      simp only [monitor, Phase.next, shellNext, Talk.next, Todo.next, htodo]
    rw [hnext]
    exact h.table htodo
  | lookUp id n =>
    rw [htodo] at hreads
    obtain rfl : i = id := hreads
    subst hentry
    exact h.lookUp htodo
  | nothing =>
    exact hagain (h.refines.doing htodo).1 (by rw [htodo]; cases r <;> rfl)
  | assign x id n =>
    exact hagain (h.refines.doing htodo).1 (by rw [htodo]; cases r <;> rfl)
  | store id n =>
    rw [htodo] at hreads
    exact hreads.elim
  | save n =>
    rw [htodo] at hreads
    exact hreads.elim

/-- A call of the shell. -/
theorem Linear.shell_call (h : Linear F waits st₀ shell s)
    (ha : (monitor F .shell).allows shell c) (hr : possible .shell s c r) :
    Linear F waits st₀ ((monitor F .shell).next shell c r) (effect F waits .shell s c r) := by
  cases c with
  | streamRead =>
    have htodo : shell.todo = .nothing := ha.2
    by_cases hk : r = 0x0D
    · subst hk
      exact h.enter htodo
    · have hnext : (monitor F .shell).next shell .streamRead r =
          { shell with line := Settings.edit shell.line r } := by
        simp only [monitor, Phase.next, shellNext, if_neg hk, Talk.next]
      rw [hnext]
      exact h.edit htodo hk
  | scheduleList i => exact h.look ha.2 hr.2
  | chMsgSend x m =>
    obtain ⟨id, n, htodo, rfl⟩ := ha.2
    exact h.send htodo
  | chMsgSent x =>
    obtain ⟨-, m, htalk⟩ := ha.1
    exact h.sent htalk hr.1
  | setAppInterval i v =>
    obtain ⟨n, htodo, rfl⟩ := ha.2
    exact h.store htodo
  | eepromUnlock =>
    refine h.save_step 1 ha.2 (by decide) fun d₀ hd => ?_
    rw [hd]
    rfl
  | eepromProgram i =>
    refine h.save_step (i + 2) ha.2 (Nat.succ_le_succ i.2) fun d₀ hd => ?_
    rw [hd, saving_program]
  | eepromLock => exact h.lock ha.2
  | registry c' => exact ha.2.elim
  | chMsgWait timeout =>
    obtain ⟨⟨x, hx⟩, -⟩ := ha.1
    cases hx
  | chMsgGet =>
    obtain ⟨⟨x, hx⟩, -⟩ := ha.1
    cases hx
  | chMsgRelease =>
    obtain ⟨⟨x, hx⟩, -⟩ := ha.1
    cases hx
  | setInterval n =>
    obtain ⟨⟨x, hx⟩, -⟩ := ha.1
    cases hx
  | _ => exact h

/-! ### The other threads -/

/-- A call to the registry that leaves the schedule list and registers no sensor. -/
theorem Linear.unregistered (h : Linear F waits st₀ shell s) {c' : Registry.Call}
    {r : Registry.Reply c'} (hreg : registration c' = [])
    (hlist : (Registry.effect s.registry c' r).list .schedule = s.registry.list .schedule) :
    Linear F waits st₀ shell (effect F waits t s (.registry c') r) := by
  obtain ⟨hdelivers, href⟩ := h
  have hschedule : { s with registry := Registry.effect s.registry c' r }.scheduleList =
      s.scheduleList := by
    funext i
    simp only [State.scheduleList, hlist]
  simp only [effect, hreg, List.append_nil]
  constructor
  · exact { hdelivers with found := by rw [hschedule]; exact hdelivers.found }
  · exact { href with list := by rw [hschedule]; exact href.list }

/-- **A registration takes effect** with the store to the list. -/
theorem Linear.put {hand : Option Device} (h : Linear F waits st₀ shell s)
    (hkept : Kept hand s.registry) {d : Device} (hd : Known d) :
    Linear F waits st₀ shell (effect F waits t s (.registry (.put .schedule d.hwId d)) ()) := by
  obtain ⟨hdelivers, href⟩ := h
  obtain ⟨x, rfl⟩ := hd
  have hreg : registration (.put .schedule (Device.sensor x.1).hwId (.sensor x.1)) =
      [.register x] := by
    simp only [registration, toFitted_val]
    rfl
  have hst := performAll_snoc waits s.order (.register x) st₀
  simp only [effect, hreg]
  refine ⟨{ hdelivers with
    found := fun y id n hy => scheduleList_put hkept ⟨x, rfl⟩ (hdelivers.found y id n hy) }, ?_⟩
  constructor
  · simp only [List.filter_append]
    rw [show [Event.register x].filter isCommand = [] from rfl, List.append_nil]
    exact href.entered
  · exact href.line
  · exact href.pending
  · simp only [hst]
    exact href.eeprom
  · simp only [hst]
    exact href.app
  · intro i
    simp only [hst, Event.perform, State.scheduleList, Registry.effect, Function.update_self]
    by_cases e : i = x.1.hwId
    · subst e
      rw [Function.update_self, show (Device.sensor x.1).hwId = (x.1.hwId : Nat) from rfl,
        Function.update_self]
      rfl
    · have hne : (i : Nat) ≠ (Device.sensor x.1).hwId := fun he => e (Fin.ext he)
      rw [Function.update_of_ne e, Function.update_of_ne hne]
      exact href.list i
  · simp only [hst]
    exact href.interval

/-- A thread stores the interval of its message. -/
theorem Linear.setInterval {x : Sensor} {m : UInt32} (h : Linear F waits st₀ (ph .shell) s)
    (hmeet : Meeting (Phase.talk ∘ ph) s.msgs) (hgot : (ph (.sensor x)).talk = .got m) :
    Linear F waits st₀ (ph .shell)
      { s with interval := Function.update s.interval x m.toUInt16 } := by
  obtain ⟨hdelivers, href⟩ := h
  have htaken := taken_of_got hmeet (.inl hgot)
  obtain ⟨id, n, htodo, rfl⟩ := assign_of_taken hmeet hdelivers htaken
  refine ⟨{ hdelivers with arrived := ?_ }, { href with interval := ?_ }⟩
  · intro y m' hy hidle
    by_cases e : y = x
    · subst e
      rw [htaken] at hidle
      cases hidle
    · simp only [Function.update_of_ne e]
      exact hdelivers.arrived y m' hy hidle
  · intro y
    rw [href.interval y, htodo]
    simp only [Todo.intervalOf]
    split
    · rfl
    · next hy => rw [Function.update_of_ne hy]

/-- A receiver takes its message or releases the sender. -/
theorem Linear.receive {x : Sensor} {q : Rendezvous} (h : Linear F waits st₀ shell s)
    (hq : q = .idle → ∀ m, shell.talk = .sending x m → s.interval x = m.toUInt16) :
    Linear F waits st₀ shell { s with msgs := Function.update s.msgs x q } := by
  obtain ⟨hdelivers, href⟩ := h
  refine ⟨{ hdelivers with arrived := ?_ }, { href with }⟩
  intro y m hy hidle
  by_cases e : y = x
  · subst e
    simp only [Function.update_self] at hidle
    exact hq hidle m hy
  · simp only [Function.update_of_ne e] at hidle
    exact hdelivers.arrived y m hy hidle

/-- A call of a sensor thread. -/
theorem Linear.sensor_call {x : Sensor} (h : Linear F waits st₀ (ph .shell) s)
    (hmeet : Meeting (Phase.talk ∘ ph) s.msgs) (hintervals : Intervals ph s)
    (ha : (monitor F (.sensor x)).allows (ph (.sensor x)) c) (hr : possible (.sensor x) s c r) :
    Linear F waits st₀ (ph .shell) (effect F waits (.sensor x) s c r) := by
  cases c with
  | chMsgSend y m => exact absurd ha.1.1 (by simp)
  | chMsgSent y => exact absurd ha.1.1 (by simp)
  | streamRead => exact ha.2.elim
  | scheduleList i => exact ha.2.elim
  | setAppInterval i v => exact ha.2.elim
  | eepromUnlock => exact ha.2.elim
  | eepromProgram i => exact ha.2.elim
  | eepromLock => exact ha.2.elim
  | chMsgWait timeout =>
    cases r with
    | false => exact h
    | true =>
      obtain ⟨m, hm⟩ := hr.1 rfl
      have heffect : effect F waits (.sensor x) s (.chMsgWait timeout) true =
          { s with msgs := Function.update s.msgs x (.taken m) } := by
        simp only [effect, Messages.after, hm]
      rw [heffect]
      exact h.receive (by simp)
  | setInterval n =>
    obtain ⟨-, m, hgot, rfl⟩ := ha.1
    exact h.setInterval hmeet hgot
  | chMsgRelease =>
    obtain ⟨-, m, hstored⟩ := ha.1
    refine h.receive fun _ m' hm' => ?_
    have htaken := taken_of_got hmeet (.inr hstored)
    have hsend := hmeet.sender x m (.inr htaken)
    rw [Function.comp_apply, hm'] at hsend
    cases hsend
    exact hintervals.stored x m hstored
  | registry c' =>
    cases c' with
    | post m d => exact h.unregistered rfl rfl
    | _ => exact ha.2.elim
  | _ => exact h

theorem Linear.registry_call {m : Mail} (h : Linear F waits st₀ shell s)
    (hkept : Kept (ph (.registry .schedule)).hand s.registry)
    (ha : (monitor F (.registry m)).allows (ph (.registry m)) c)
    (hr : possible (.registry m) s c r) :
    Linear F waits st₀ shell (effect F waits (.registry m) s c r) := by
  cases c with
  | chMsgSend y v => exact absurd ha.1.1 (by simp)
  | chMsgSent y => exact absurd ha.1.1 (by simp)
  | chMsgWait timeout => exact absurd ha.1.1 (by simp)
  | chMsgGet => exact absurd ha.1.1 (by simp)
  | chMsgRelease => exact absurd ha.1.1 (by simp)
  | setInterval n => exact absurd ha.1.1 (by simp)
  | streamRead => exact ha.2.elim
  | scheduleList i => exact ha.2.elim
  | setAppInterval i v => exact ha.2.elim
  | eepromUnlock => exact ha.2.elim
  | eepromProgram i => exact ha.2.elim
  | eepromLock => exact ha.2.elim
  | registry c' =>
    cases c' with
    | post m' d => exact ha.2.elim
    | chThdSleepMilliseconds ms => exact ha.2.elim
    | fetch m' => exact h.unregistered rfl rfl
    | put m' id d =>
      obtain ⟨rfl, hhand, rfl⟩ := ha.2
      cases m' with
      | schedule => exact h.put hkept (hkept.hand d hhand)
      | hw => exact h.unregistered rfl rfl
  | _ => exact h

theorem Linear.other_call (h : Linear F waits st₀ shell s) (hs : t ≠ .shell)
    (hx : ∀ x, t ≠ .sensor x) (hm : ∀ m, t ≠ .registry m)
    (ha : (monitor F t).allows (ph t) c) : Linear F waits st₀ shell (effect F waits t s c r) := by
  have hallows : otherAllows c := by
    cases t with
    | shell => exact absurd rfl hs
    | sensor x => exact absurd rfl (hx x)
    | registry m => exact absurd rfl (hm m)
    | _ => exact ha.2
  cases c with
  | chMsgSend y v => exact absurd ha.1.1 hs
  | chMsgSent y => exact absurd ha.1.1 hs
  | chMsgWait timeout => exact absurd ha.1.1 (by simpa using hx)
  | chMsgGet => exact absurd ha.1.1 (by simpa using hx)
  | chMsgRelease => exact absurd ha.1.1 (by simpa using hx)
  | setInterval n => exact absurd ha.1.1 (by simpa using hx)
  | streamRead => exact hallows.elim
  | scheduleList i => exact hallows.elim
  | setAppInterval i v => exact hallows.elim
  | eepromUnlock => exact hallows.elim
  | eepromProgram i => exact hallows.elim
  | eepromLock => exact hallows.elim
  | registry c' =>
    cases c' with
    | post m d => exact h.unregistered rfl rfl
    | _ => exact hallows.elim
  | _ => exact h

/-! ### All threads -/

/-- The phases fit the state. -/
structure Fits (F : Features) (waits : Nat → Eeprom.Wait) (st₀ : Config.Station)
    (ph : Thread → Phase) (s : State) : Prop where
  meeting : Meeting (Phase.talk ∘ ph) s.msgs
  kept : Kept (ph (.registry .schedule)).hand s.registry
  intervals : Intervals ph s
  linear : Linear F waits st₀ (ph .shell) s

/-- **Step.** Every call keeps the station in step with the abstract one. -/
theorem Fits.call (hF : F = Sensor.enabled) (h : Fits F waits st₀ ph s)
    (ha : (monitor F t).allows (ph t) c) (hr : possible t s c r) :
    Fits F waits st₀ (Function.update ph t ((monitor F t).next (ph t) c r))
      (effect F waits t s c r) where
  meeting := by
    rw [Function.comp_update, effect_msgs]
    exact h.meeting.call ha.1 hr.1
  kept := h.kept.call hF ha hr
  intervals := h.intervals.call ha
  linear := by
    cases t with
    | shell =>
      rw [Function.update_self]
      exact h.linear.shell_call ha hr
    | sensor x =>
      rw [Function.update_of_ne (by simp)]
      exact h.linear.sensor_call h.meeting h.intervals ha hr
    | registry m =>
      rw [Function.update_of_ne (by simp)]
      exact h.linear.registry_call h.kept ha hr
    | hc12 | anemometer | lightning =>
      rw [Function.update_of_ne (by simp)]
      exact h.linear.other_call (by simp) (by simp) (by simp) ha

/-- The entry that was found is found again. -/
theorem Fits.answers (h : Fits F waits st₀ ph s) (ha : (monitor F t).allows (ph t) c)
    (hr : possible t s c r) : (monitor F t).answers (ph t) c r := by
  rintro rfl
  cases c with
  | scheduleList i =>
    intro x id n htodo
    have hreads : (ph .shell).todo.Reads i := ha.2
    rw [htodo] at hreads
    obtain rfl : i = id := hreads
    exact hr.2.trans (h.linear.delivers.found x i n htodo)
  | _ => trivial

end Steps

/-! ## The refinement -/

section Runs

variable {waits : Nat → Eeprom.Wait} {x : Setup} {p : Pool Thread Call Reply Label State}

/-- The phases when the threads start. -/
def startPhase (cfg : AppConfiguration) : Thread → Phase
  | .sensor x => { interval := startInterval cfg x }
  | _ => {}

theorem fits_started (F : Features) (x : Setup) (d : Eeprom.Driver) :
    Fits F waits (boot waits d) (startPhase (boot waits d).appConfiguration)
      (started x (boot waits d)).shared where
  meeting := by
    have htalk : Phase.talk ∘ startPhase (boot waits d).appConfiguration = fun _ => .none := by
      funext t
      cases t <;> rfl
    rw [htalk]
    exact Meeting.initial
  kept := ⟨by simp [started], by simp [startPhase], by simp [started]⟩
  intervals := ⟨fun _ => rfl, by simp [startPhase]⟩
  linear := by
    refine ⟨.of_no_assign (by simp [startPhase]) (by simp [startPhase]), ?_⟩
    exact ⟨rfl, rfl, rfl, rfl, rfl, fun _ => rfl, fun _ => rfl⟩

theorem reachable_fits (hF : x.features = Sensor.enabled) {d : Eeprom.Driver}
    (h : (system waits x).Reachable (started x (boot waits d)) p) :
    System.Inv (monitor x.features) (Continues x.features)
      (Fits x.features waits (boot waits d)) p := by
  refine h.invariant (body_follows x)
    (fun ph s t c r hJ ha hr => ⟨hJ.answers ha hr, hJ.call hF ha hr⟩) ?_
  refine ⟨startPhase (boot waits d).appConfiguration, fun t => ?_, fits_started _ x d⟩
  cases t with
  | sensor s =>
    -- the sensors that are started are those of the shipped firmware
    have hstart : Continues x.features (.sensor s)
        (startLabel x (boot waits d).appConfiguration (.sensor s))
        (startPhase (boot waits d).appConfiguration (.sensor s)) := by
      simp only [startLabel]
      split
      · next hs =>
        refine .inr ⟨hs, ?_⟩
        rw [hF] at hs
        cases s <;> first | exact ⟨rfl, rfl⟩ | cases hs
      · exact .inl rfl
    exact hstart
  | shell => exact (rfl : ({} : Phase) = {})
  | _ => trivial

section Refines

variable {F : Features} {st : Config.Station} {shell : Phase} {s : State}

/-- The list of the station is the abstract one at all times. -/
theorem Refines.scheduleList_eq (h : Refines F waits st shell s) :
    s.station.scheduleList = st.scheduleList := by
  funext i
  simp only [State.station]
  rw [← h.list i]
  cases st.scheduleList i with
  | none => rfl
  | some t => exact toFitted_val t

/-- With nothing left to do the station is the abstract one. -/
theorem Refines.station_eq (h : Refines F waits st shell s) (htodo : shell.todo = .nothing) :
    s.station = st := by
  obtain ⟨-, heeprom, happ, hinterval⟩ := h.doing htodo
  have happ' : s.appConfiguration = st.appConfiguration := happ.symm
  have hinterval' : (fun t : Fitted => s.interval t.1) = st.interval :=
    funext fun t => (hinterval t).symm
  calc s.station
    _ = ⟨s.eeprom, s.appConfiguration, s.station.scheduleList, fun t => s.interval t.1⟩ := rfl
    _ = ⟨st.eeprom, st.appConfiguration, st.scheduleList, st.interval⟩ := by
        rw [show s.eeprom = st.eeprom from heeprom, h.scheduleList_eq, happ', hinterval']

/-- Without a save under way no step of a write is done. -/
theorem Refines.steps_eq (h : Refines F waits st shell s) (hsave : s.pending ≠ some .save) :
    shell.todo.steps = 0 := by
  cases htodo : shell.todo with
  | save n => exact absurd (h.doing htodo).1.1 hsave
  | _ => rfl

end Refines

/-- No call takes anything back from the order. -/
theorem order_prefix_effect {F : Features} {t : Thread} {s : State} (c : Call) (r : Reply c) :
    s.order <+: (effect F waits t s c r).order := by
  cases c with
  | registry c' => exact List.prefix_append _ _
  | scheduleList i => exact List.prefix_append _ _
  | eepromLock => exact List.prefix_append _ _
  | setInterval n => cases t <;> exact List.prefix_refl _
  | _ => exact List.prefix_refl _

theorem order_prefix {q : Pool Thread Call Reply Label State} (h : (system waits x).Reachable p q) :
    p.shared.order <+: q.shared.order :=
  h.shared_invariant (P := fun s => p.shared.order <+: s.order) (List.prefix_refl _)
    fun _ _ c r hs => hs.trans (order_prefix_effect c r)

/-- **The commands act one after the other.** Whatever keys the shell reads and
however the threads of the shipped firmware interleave, the recorded order only
grows and has, among the registrations that were made, the commands of the lines
that were entered, but for the one that is pending. At every time the schedule
list is what the model of the commands makes of that order, and so is the EEPROM,
but for the first steps of the save that is pending. When the shell waits for a
key nothing is pending and the whole configuration is the model's. Every sensor
thread that waits does so for a thousand ticks per second of its interval. -/
theorem commands_linearise (waits : Nat → Eeprom.Wait) (mem : UInt32 → UInt8) (x : Setup)
    (hF : x.features = Sensor.enabled) (p : Pool Thread Call Reply Label State)
    (h : (system waits x).Reachable (started x (boot waits (Eeprom.eepromInit mem))) p) :
    entered x.features p.shared.keys =
      p.shared.order.filter isCommand ++ p.shared.pending.toList ∧
    p.shared.station.scheduleList =
      (performAll waits atoi p.shared.order (boot waits (Eeprom.eepromInit mem))).scheduleList ∧
    (∃ n,
      p.shared.eeprom = saving waits p.shared.appConfiguration
        (performAll waits atoi p.shared.order (boot waits (Eeprom.eepromInit mem))).eeprom n ∧
      (p.shared.pending ≠ some .save → n = 0) ∧
      (∀ i, p.AboutTo .shell (.eepromProgram i) → n = i + 1) ∧
      (p.AboutTo .shell .eepromLock → n = configSize + 1)) ∧
    (p.AboutTo .shell .streamRead →
      p.shared.pending = none ∧
      p.shared.station =
        performAll waits atoi p.shared.order (boot waits (Eeprom.eepromInit mem))) ∧
    (∀ s timeout, p.AboutTo (.sensor s) (.chMsgWait timeout) →
      timeout.toNat = 1000 * (p.shared.interval s).toNat) ∧
    ∀ q, (system waits x).Reachable p q → p.shared.order <+: q.shared.order := by
  obtain ⟨ph, hwp, hfits⟩ := reachable_fits hF h
  have hallows : ∀ {t c}, p.AboutTo t c → (monitor x.features t).allows (ph t) c :=
    fun hc => hc.allows (hwp _)
  have href := hfits.linear.refines
  refine ⟨href.entered, href.scheduleList_eq,
    ⟨_, href.eeprom, href.steps_eq, fun i hi => ?_, fun hlock => ?_⟩,
    fun hprompt => ?_, fun s timeout hwait => ?_, fun q => order_prefix⟩
  · have htodo : (ph .shell).todo = .save (i + 1) := (hallows hi).2
    rw [htodo]
    rfl
  · have htodo : (ph .shell).todo = .save (configSize + 1) := (hallows hlock).2
    rw [htodo]
    rfl
  · have htodo : (ph .shell).todo = .nothing := (hallows hprompt).2
    exact ⟨(href.doing htodo).1, href.station_eq htodo⟩
  · have htimeout : timeout = waitTimeout (ph (.sensor s)).interval := (hallows hwait).2
    rw [htimeout, hfits.intervals.thread s, waitTimeout_toNat]

/-! ## A reset -/

/-- What a reset finds: the station is the abstract one `st`, with `k` bytes of a
save in the EEPROM. -/
structure CutAfter (waits : Nat → Eeprom.Wait) (st : Config.Station) (s : State) (k : Nat) :
    Prop where
  bound : k ≤ configSize
  eeprom : k = 0 ∧ s.eeprom = st.eeprom ∨
    s.eeprom = saving waits st.appConfiguration st.eeprom (k + 1) ∧
      ∀ t : Fitted, st.interval t = s.interval t.1

theorem Refines.cutAfter {F : Features} {st : Config.Station} {shell : Phase} {s : State}
    (h : Refines F waits st shell s) : CutAfter waits st s (shell.todo.steps - 1) := by
  cases htodo : shell.todo with
  | save n =>
    obtain ⟨hpending, heeprom, happ, hinterval⟩ := h.doing htodo
    cases n with
    | zero => exact ⟨Nat.zero_le _, .inl ⟨rfl, heeprom⟩⟩
    | succ k =>
      refine ⟨Nat.le_of_succ_le_succ hpending.2, .inr ⟨?_, hinterval⟩⟩
      rw [heeprom, happ]
      rfl
  | _ => exact ⟨Nat.zero_le _, .inl ⟨rfl, (h.doing htodo).2.1⟩⟩

theorem storedVersion_boot (hw : ∀ n, ¬ Eeprom.TimedOut waits n) (mem : UInt32 → UInt8) :
    storedVersion (boot waits (Eeprom.eepromInit mem)).eeprom.flash =
      mem Eeprom.dataEepromBase := by
  rw [boot_eq hw]
  rfl

/-- **A reset at any time.** `k` bytes of the save that is pending are in the
EEPROM, none when there is none. After the reset, with no byte stored every thread
runs with its interval of the last save of the recorded order; a thread whose two
bytes are stored runs with the interval it had; and one whose bytes are not, with
that of the last save, provided that something was saved before or the EEPROM had
the version of the firmware from the start. Nothing is said of the thread of which
one byte is stored. -/
theorem reset_keeps_saved (waits : Nat → Eeprom.Wait) (hw : ∀ n, ¬ Eeprom.TimedOut waits n)
    (mem : UInt32 → UInt8) (x : Setup) (hF : x.features = Sensor.enabled)
    (p : Pool Thread Call Reply Label State)
    (h : (system waits x).Reachable (started x (boot waits (Eeprom.eepromInit mem))) p) :
    ∃ k ≤ configSize,
      (p.shared.pending ≠ some .save → k = 0) ∧
      (∀ i, p.AboutTo .shell (.eepromProgram i) → k = i) ∧
      (p.AboutTo .shell .eepromLock → k = configSize) ∧
      (p.AboutTo .shell .streamRead →
        k = 0 ∧ p.shared.order.filter isCommand = entered x.features p.shared.keys) ∧
      ∀ s : Fitted,
        (k = 0 → (reboot waits p.shared.station).interval s =
          (lastSaved waits atoi p.shared.order (boot waits (Eeprom.eepromInit mem))
            (boot waits (Eeprom.eepromInit mem))).interval s) ∧
        (2 * s.1.hwId + 4 ≤ k →
          (reboot waits p.shared.station).interval s = p.shared.interval s.1) ∧
        (k ≤ 2 * s.1.hwId + 2 →
          .save ∈ p.shared.order ∨ mem Eeprom.dataEepromBase = version →
          (reboot waits p.shared.station).interval s =
            (lastSaved waits atoi p.shared.order (boot waits (Eeprom.eepromInit mem))
              (boot waits (Eeprom.eepromInit mem))).interval s) := by
  obtain ⟨ph, hwp, hfits⟩ := reachable_fits hF h
  have hallows : ∀ {c}, p.AboutTo .shell c → (monitor x.features .shell).allows (ph .shell) c :=
    fun hc => hc.allows (hwp .shell)
  have href := hfits.linear.refines
  have hagree : Agree (performAll waits atoi p.shared.order _) (lastSaved waits atoi _ _ _) :=
    (Agree.boot hw mem).performAll hw p.shared.order
  have hversion : .save ∈ p.shared.order ∨ mem Eeprom.dataEepromBase = version →
      storedVersion (performAll waits atoi p.shared.order
        (boot waits (Eeprom.eepromInit mem))).eeprom.flash = version := by
    intro hv
    apply storedVersion_performAll hw (Agree.boot hw mem)
    rwa [storedVersion_boot hw]
  refine ⟨(ph .shell).todo.steps - 1, href.cutAfter.bound, fun hsave => ?_, fun i hi => ?_,
    fun hlock => ?_, fun hprompt => ?_, fun s => ?_⟩
  · rw [href.steps_eq hsave]
  · have htodo : (ph .shell).todo = .save (i + 1) := (hallows hi).2
    rw [htodo]
    rfl
  · have htodo : (ph .shell).todo = .save (configSize + 1) := (hallows hlock).2
    rw [htodo]
    rfl
  · have htodo : (ph .shell).todo = .nothing := (hallows hprompt).2
    refine ⟨by rw [htodo]; rfl, ?_⟩
    rw [href.entered, show p.shared.pending = none from (href.doing htodo).1]
    exact (List.append_nil _).symm
  · have hreboot : reboot waits p.shared.station = boot waits (restart p.shared.eeprom) := rfl
    rw [hreboot]
    rcases href.cutAfter.eeprom with ⟨hk, heeprom⟩ | ⟨heeprom, hinterval⟩
    · have hsaved := hagree.stored s
      rw [heeprom, boot_eq hw, hk]
      exact ⟨fun _ => hsaved, fun hreached => absurd hreached (by omega), fun _ _ => hsaved⟩
    · have hcut := interval_cut_short hw hagree href.cutAfter.bound s
      rw [heeprom, ← hinterval s]
      exact ⟨hcut.1, hcut.2.1, fun hbefore hv => hcut.2.2 hbefore (hversion hv)⟩

/-! ### A run -/

/-- The shipped firmware; the conversions do not matter here. -/
def shipped : Setup where
  features := Sensor.enabled
  fuel := 0
  bmp280Line := none
  bmp280 := ⟨fun _ => 0, fun _ => 0, fun _ => 0⟩
  veml7700 := ⟨fun _ => 0, id, fun _ _ => 0, fun _ _ => 0, fun _ _ => false, id⟩
  ml8511Line := false
  uv _ := none
  power := ⟨fun _ _ => 0, fun _ _ => 0⟩
  as3935 := 3

/-- An EEPROM whose waits succeed. -/
def ready : Nat → Eeprom.Wait := fun _ => ⟨0, []⟩

/-- A call of a thread and its answer. -/
abbrev Made := Thread × (c : Call) × Reply c

/-- The keys of a text, with their echo. -/
def types (text : String) : List Made :=
  (MeteoL053.Shell.typed text).flatMap fun c =>
    [(.shell, ⟨.streamRead, c⟩), (.shell, ⟨.streamPut c, ()⟩)]

def uvMakes (c : Call) (r : Reply c) : Made := (.sensor .ml8511, ⟨c, r⟩)

def shellMakes (c : Call) (r : Reply c) : Made := (.shell, ⟨c, r⟩)

/-- An EEPROM that has a configuration of this version, with 771 s for all. -/
def threes : UInt32 → UInt8 := fun _ => 3

/-- The UV sensor registers and measures, and `schedule 3 60` is entered. -/
def scheduleRun : List Made :=
  [uvMakes (.registry (.post .schedule (.sensor .ml8511))) true,
    (.registry .schedule, ⟨.registry (.fetch .schedule), .sensor .ml8511⟩),
    (.registry .schedule, ⟨.registry (.put .schedule 3 (.sensor .ml8511)), ()⟩),
    uvMakes (.fw (.chThdSleepMilliseconds 1000)) (), uvMakes (.fw (.setHwStatus .unknown)) (),
    uvMakes (.registry (.post .hw (.sensor .ml8511))) true, uvMakes .adcAcquireBus (),
    uvMakes .adcStart (), uvMakes (.adcStartConversion .device1) (), uvMakes .adcWait (.ok, 0),
    uvMakes .adcStop (), uvMakes .adcReleaseBus (), uvMakes (.fw (.setHwStatus .error)) (),
    shellMakes (.print "\r\n") (), shellMakes (.print "ChibiOS/RT Shell\r\n") (),
    shellMakes (.print "ch> ") ()] ++
  types "schedule 3 60" ++
  [shellMakes .streamRead (0x0D : UInt8), shellMakes (.print "\r\n") (),
    shellMakes (.scheduleList ⟨3, by decide⟩) (some .ml8511),
    shellMakes (.scheduleList ⟨3, by decide⟩) (some .ml8511),
    shellMakes (.chMsgSend .ml8511 60) (), uvMakes (.chMsgWait 771000) true,
    uvMakes .chMsgGet (60 : UInt32), uvMakes (.setInterval 60) (), uvMakes .chMsgRelease (),
    shellMakes (.chMsgSent .ml8511) (), shellMakes (.setAppInterval ⟨3, by decide⟩ 60) ()] ++
  (List.finRange scheduleListSize).flatMap (fun i =>
    if i.val = 3 then
      [shellMakes (.scheduleList i) (some .ml8511), shellMakes (.interval .ml8511) (60 : UInt16),
        shellMakes (.print "     3       ML8511      60 seconds\r\n") ()]
    else [shellMakes (.scheduleList i) none]) ++
  [shellMakes (.print "ch> ") ()]

/-- `save` is entered and `n` bytes are stored. -/
def saveRun (n : Nat) : List Made :=
  types "save" ++
  [shellMakes .streamRead (0x0D : UInt8), shellMakes (.print "\r\n") (),
    shellMakes .eepromUnlock ()] ++
  ((List.finRange configSize).take n).map fun i => shellMakes (.eepromProgram i) ()

/-- The end of the save. -/
def savedRun : List Made :=
  [shellMakes .eepromLock (), shellMakes (.print "OK\r\n") (), shellMakes (.print "ch> ") ()]

/-- What the whole run leaves as its order. -/
def savedOrder : List Event := [.register ⟨.ml8511, rfl⟩, .schedule ["3", "60"], .save]

/-- After `schedule 3 60` and `save` the shell waits for keys again. -/
theorem savedRun_reachable :
    ∃ p, (system ready shipped).Reachable
        (started shipped (boot ready (Eeprom.eepromInit threes))) p ∧
      p.AboutTo .shell .streamRead ∧ p.shared.interval .ml8511 = 60 ∧
      p.shared.order = savedOrder := by
  obtain ⟨p, hp, hf⟩ := System.Reachable.exists_of_playAll (system ready shipped)
    (started shipped (boot ready (Eeprom.eepromInit threes)))
    (scheduleRun ++ saveRun configSize ++ savedRun)
    (fun p => ((system ready shipped).currentCall p .shell, p.shared.interval .ml8511,
      p.shared.order))
    (b := (some .streamRead, 60, savedOrder)) (by decide +kernel)
  simp only [Prod.mk.injEq] at hf
  obtain ⟨q, hq, hprompt, hshared⟩ := hp.exists_aboutTo hf.1
  exact ⟨q, hq, hprompt, hshared ▸ hf.2.1, hshared ▸ hf.2.2⟩

theorem commands_linearise_save :
    ∃ p, (system ready shipped).Reachable
        (started shipped (boot ready (Eeprom.eepromInit threes))) p ∧
      p.shared.interval .ml8511 = 60 ∧
      entered Sensor.enabled p.shared.keys = [.schedule ["3", "60"], .save] ∧
      p.shared.station =
        performAll ready atoi savedOrder (boot ready (Eeprom.eepromInit threes)) := by
  obtain ⟨p, hp, hprompt, hinterval, horder⟩ := savedRun_reachable
  obtain ⟨hentered, -, -, hkey, -⟩ := commands_linearise ready threes shipped rfl p hp
  obtain ⟨hpending, hstation⟩ := hkey hprompt
  rw [horder, hpending] at hentered
  rw [horder] at hstation
  exact ⟨p, hp, hinterval, hentered, hstation⟩

/-- The save is cut short when the entry of the UV sensor is complete. -/
theorem saveRun_reachable :
    ∃ p, (system ready shipped).Reachable
        (started shipped (boot ready (Eeprom.eepromInit threes))) p ∧
      p.AboutTo .shell (.eepromProgram ⟨10, by decide⟩) ∧ p.shared.interval .ml8511 = 60 ∧
      p.shared.order = [.register ⟨.ml8511, rfl⟩, .schedule ["3", "60"]] := by
  obtain ⟨p, hp, hf⟩ := System.Reachable.exists_of_playAll (system ready shipped)
    (started shipped (boot ready (Eeprom.eepromInit threes))) (scheduleRun ++ saveRun 10)
    (fun p => ((system ready shipped).currentCall p .shell, p.shared.interval .ml8511,
      p.shared.order))
    (b := (some (.eepromProgram ⟨10, by decide⟩), 60,
      [.register ⟨.ml8511, rfl⟩, .schedule ["3", "60"]])) (by decide +kernel)
  simp only [Prod.mk.injEq] at hf
  obtain ⟨q, hq, hprogram, hshared⟩ := hp.exists_aboutTo hf.1
  exact ⟨q, hq, hprogram, hshared ▸ hf.2.1, hshared ▸ hf.2.2⟩

/-- A reset after the save, and one in the middle of it: there the UV sensor has
its new interval and the power thread still the one from before. -/
theorem reset_keeps_saved_save :
    (∃ p, (system ready shipped).Reachable
        (started shipped (boot ready (Eeprom.eepromInit threes))) p ∧
      p.shared.order = savedOrder ∧
      (reboot ready p.shared.station).interval ⟨.ml8511, rfl⟩ = 60) ∧
    ∃ p, (system ready shipped).Reachable
        (started shipped (boot ready (Eeprom.eepromInit threes))) p ∧
      p.AboutTo .shell (.eepromProgram ⟨10, by decide⟩) ∧
      (reboot ready p.shared.station).interval ⟨.ml8511, rfl⟩ = 60 ∧
      (reboot ready p.shared.station).interval ⟨.power, rfl⟩ = 771 := by
  constructor
  · obtain ⟨p, hp, hprompt, -, horder⟩ := savedRun_reachable
    obtain ⟨k, -, -, -, -, hkey, hreset⟩ :=
      reset_keeps_saved ready (fun _ h => h rfl) threes shipped rfl p hp
    have hsaved := (hreset ⟨.ml8511, rfl⟩).1 (hkey hprompt).1
    rw [horder] at hsaved
    exact ⟨p, hp, horder, hsaved.trans (by decide +kernel)⟩
  · obtain ⟨p, hp, hprogram, hinterval, horder⟩ := saveRun_reachable
    obtain ⟨k, -, -, hbytes, -, -, hreset⟩ :=
      reset_keeps_saved ready (fun _ h => h rfl) threes shipped rfl p hp
    obtain rfl : k = 10 := hbytes _ hprogram
    have huv := (hreset ⟨.ml8511, rfl⟩).2.1 (by decide)
    have hpower := (hreset ⟨.power, rfl⟩).2.2 (by decide) (.inr rfl)
    rw [horder] at hpower
    exact ⟨p, hp, hprogram, huv.trans hinterval, hpower.trans (by decide +kernel)⟩

end Runs

end MeteoL053.Station.Settings
