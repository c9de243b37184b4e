import MeteoL053.Station.Threads

/-!
The messages from the shell to the sensor threads. `chMsgSend` queues a message
and returns when its receiver, which has taken it, releases the sender; here
these are the calls `chMsgSend` and `chMsgSent`.
-/

namespace MeteoL053.Station

open CallTree Config

/-! ## The kernel -/

/-- The message of the shell to a sensor thread. -/
inductive Rendezvous where
  | idle
  | queued (msg : UInt32)
  | taken (msg : UInt32)
  deriving DecidableEq

abbrev Messages := Sensor → Rendezvous

namespace Messages

/-- The message to a thread. -/
def inbox (msgs : Messages) : Thread → Rendezvous
  | .sensor x => msgs x
  | _ => .idle

instance (r : Rendezvous) : Decidable (∃ m, r = .queued m) :=
  match r with
  | .queued m => isTrue ⟨m, rfl⟩
  | .idle => isFalse fun ⟨_, h⟩ => Rendezvous.noConfusion h
  | .taken _ => isFalse fun ⟨_, h⟩ => Rendezvous.noConfusion h

/-- A sender is released by its receiver; a wait for a message may end without
one. -/
def Possible (t : Thread) (msgs : Messages) : (c : Call) → Reply c → Prop
  | .chMsgSent x, _ => msgs x = .idle
  | .chMsgWait _, r => r = true → ∃ m, msgs.inbox t = .queued m
  | .chMsgGet, r => msgs.inbox t = .taken r
  | _, _ => True

instance (t : Thread) (msgs : Messages) (c : Call) (r : Reply c) :
    Decidable (msgs.Possible t c r) := by
  revert r
  apply Call.casesOn (motive := fun c => ∀ r : Reply c, Decidable (msgs.Possible t c r)) c <;>
    intros <;> first
    | exact isTrue trivial
    | exact inferInstanceAs (Decidable (_ = true → ∃ _, _ = _))
    | exact inferInstanceAs (Decidable (_ = _))

/-- The messages after a call. -/
def after (t : Thread) (msgs : Messages) : (c : Call) → Reply c → Messages
  | .chMsgSend x m, _ => Function.update msgs x (.queued m)
  | .chMsgWait _, r =>
    match r, t, msgs.inbox t with
    | true, .sensor x, .queued m => Function.update msgs x (.taken m)
    | _, _, _ => msgs
  | .chMsgRelease, _ =>
    match t with
    | .sensor x => Function.update msgs x .idle
    | _ => msgs
  | _, _ => msgs

end Messages

/-! ## The threads -/

/-- Where a thread is with a message. -/
inductive Talk where
  | none
  /-- the shell has sent a message to this sensor -/
  | sending (x : Sensor) (msg : UInt32)
  /-- the sensor thread has a sender -/
  | serving
  /-- and knows the message -/
  | got (msg : UInt32)
  /-- and has stored the interval -/
  | stored (msg : UInt32)
  deriving DecidableEq

/-- Messages go from the shell to sensor threads, which store what they get. -/
def Talk.Allows (t : Thread) (talk : Talk) : Call → Prop
  | .chMsgSend .. => t = .shell ∧ talk = .none
  | .chMsgSent x => t = .shell ∧ ∃ m, talk = .sending x m
  | .chMsgWait _ => (∃ x, t = .sensor x) ∧ talk = .none
  | .chMsgGet => (∃ x, t = .sensor x) ∧ talk = .serving
  | .setInterval n => (∃ x, t = .sensor x) ∧ ∃ m, talk = .got m ∧ n = m.toUInt16
  | .chMsgRelease => (∃ x, t = .sensor x) ∧ ∃ m, talk = .stored m
  | _ => True

def Talk.next (talk : Talk) : (c : Call) → Reply c → Talk
  | .chMsgSend x m, _ => .sending x m
  | .chMsgSent _, _ => .none
  | .chMsgWait _, r => if r then .serving else talk
  | .chMsgGet, r => .got r
  | .setInterval _, _ =>
    match talk with
    | .got m => .stored m
    | _ => talk
  | .chMsgRelease, _ => .none
  | _, _ => talk

/-- What a sensor thread knows of its message. -/
def Talk.Serves (r : Rendezvous) : Talk → Prop
  | .none => ∀ m, r ≠ .taken m
  | .serving => ∃ m, r = .taken m
  | .got m | .stored m => r = .taken m
  | .sending .. => False

/-- A message that is not idle is the one the shell has sent, and its receiver
serves it when it has taken it. -/
structure Meeting (talk : Thread → Talk) (msgs : Messages) : Prop where
  sender : ∀ x m, msgs x = .queued m ∨ msgs x = .taken m → talk .shell = .sending x m
  server : ∀ x, (talk (.sensor x)).Serves (msgs x)

namespace Meeting

variable {talk : Thread → Talk} {msgs : Messages} {x : Sensor} {m : UInt32}

theorem initial : Meeting (fun _ => .none) fun _ => .idle where
  sender x m h := by simp at h
  server x := by
    intro m h
    cases h

theorem idle_of_none (h : Meeting talk msgs) (hnone : talk .shell = .none) (x : Sensor) :
    msgs x = .idle := by
  cases hx : msgs x with
  | idle => rfl
  | queued m =>
    rw [h.sender x m (.inl hx)] at hnone
    cases hnone
  | taken m =>
    rw [h.sender x m (.inr hx)] at hnone
    cases hnone

theorem send (h : Meeting talk msgs) (hnone : talk .shell = .none) :
    Meeting (Function.update talk .shell (.sending x m)) (Function.update msgs x (.queued m)) where
  sender y m' hy := by
    rw [Function.update_self]
    by_cases e : y = x
    · subst e
      simp only [Function.update_self, Rendezvous.queued.injEq, reduceCtorEq, or_false] at hy
      rw [hy]
    · rw [Function.update_of_ne e, h.idle_of_none hnone y] at hy
      simp at hy
  server y := by
    have hne : Thread.sensor y ≠ .shell := by simp
    have hy := h.server y
    rw [Function.update_of_ne hne]
    by_cases e : y = x
    · subst e
      rw [h.idle_of_none hnone] at hy
      rw [Function.update_self]
      -- without a message the receiver serves none
      cases ht : talk (.sensor y) with
      | none =>
        intro m' hm'
        cases hm'
      | serving =>
        rw [ht] at hy
        obtain ⟨_, hm'⟩ := hy
        cases hm'
      | sending | got | stored =>
        rw [ht] at hy
        cases hy
    · rwa [Function.update_of_ne e]

theorem sent (h : Meeting talk msgs) (hsend : talk .shell = .sending x m)
    (hidle : msgs x = .idle) : Meeting (Function.update talk .shell .none) msgs where
  sender y m' hy := by
    have hxy := h.sender y m' hy
    rw [hsend] at hxy
    cases hxy
    rw [hidle] at hy
    simp at hy
  server y := by
    have hne : Thread.sensor y ≠ .shell := by simp
    rw [Function.update_of_ne hne]
    exact h.server y

/-- A step of the receiver `x`, whose message becomes `r`. -/
theorem receive (h : Meeting talk msgs) {r : Rendezvous} {talk' : Talk}
    (hsend : ∀ m, r = .queued m ∨ r = .taken m → talk .shell = .sending x m)
    (hserves : talk'.Serves r) :
    Meeting (Function.update talk (.sensor x) talk') (Function.update msgs x r) where
  sender y m hy := by
    have hne : Thread.shell ≠ .sensor x := by simp
    rw [Function.update_of_ne hne]
    by_cases e : y = x
    · subst e
      rw [Function.update_self] at hy
      exact hsend m hy
    · rw [Function.update_of_ne e] at hy
      exact h.sender y m hy
  server y := by
    by_cases e : y = x
    · subst e
      simpa only [Function.update_self] using hserves
    · have hne : Thread.sensor y ≠ .sensor x := by simpa using e
      rw [Function.update_of_ne e, Function.update_of_ne hne]
      exact h.server y

/-- A step of the receiver that leaves its message. -/
theorem receive_same (h : Meeting talk msgs) {talk' : Talk} (hserves : talk'.Serves (msgs x)) :
    Meeting (Function.update talk (.sensor x) talk') msgs := by
  have hreceive := h.receive (h.sender x) hserves
  rwa [Function.update_eq_self] at hreceive

/-- **Step.** A call keeps the messages in order. -/
theorem call (h : Meeting talk msgs) {t : Thread} {c : Call} {r : Reply c}
    (ha : (talk t).Allows t c) (hr : msgs.Possible t c r) :
    Meeting (Function.update talk t ((talk t).next c r)) (msgs.after t c r) := by
  have hsame : Meeting (Function.update talk t (talk t)) msgs := by
    rw [Function.update_eq_self]
    exact h
  cases c with
  | chMsgSend x m =>
    obtain ⟨rfl, hnone⟩ := ha
    exact h.send hnone
  | chMsgSent x =>
    obtain ⟨rfl, m, hsend⟩ := ha
    exact h.sent hsend hr
  | chMsgWait timeout =>
    obtain ⟨⟨x, rfl⟩, hnone⟩ := ha
    cases r with
    | false => exact hsame
    | true =>
      obtain ⟨m, hm⟩ := hr rfl
      have hmsgs : msgs.after (.sensor x) (.chMsgWait timeout) true =
          Function.update msgs x (.taken m) := by
        simp only [Messages.after, hm]
      rw [hmsgs]
      refine h.receive (fun m' hm' => ?_) ⟨m, rfl⟩
      simp only [reduceCtorEq, Rendezvous.taken.injEq, false_or] at hm'
      subst hm'
      exact h.sender x m (.inl hm)
  | chMsgGet =>
    obtain ⟨⟨x, rfl⟩, -⟩ := ha
    exact h.receive_same hr
  | setInterval n =>
    obtain ⟨⟨x, rfl⟩, m, hgot, -⟩ := ha
    have hx := h.server x
    have hnext : (talk (.sensor x)).next (.setInterval n) r = .stored m := by
      simp only [Talk.next, hgot]
    rw [hgot] at hx
    rw [hnext]
    exact h.receive_same hx
  | chMsgRelease =>
    obtain ⟨⟨x, rfl⟩, -⟩ := ha
    refine h.receive (fun m hm => by simp at hm) ?_
    intro m hm
    cases hm
  | _ => exact hsame

end Meeting

end MeteoL053.Station
