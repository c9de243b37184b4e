import MeteoL053.Stream.System

/-!
What holds in every state of the stream system.

A phase says how far a thread is with the buffer it works on. The monitors let
a producer and the stream thread move between phases in the order of the
source; `Good` ties the phases to the pool, the mailbox, the buffers and the
channel, and every call the monitors allow keeps it.
-/

namespace MeteoL053.Stream

open CallTree Tokens

/-! ## Items and buffers -/

/-- The bytes of an item's buffer that are sent. -/
def itemBytes : Item → List UInt8
  | .reading r => Msp.frame (Msp.hc12HwIdOffset + r.cmd) r.args
  | .text t => t.chars

/-- The bytes the channel carries for an item. -/
def wire (m : Item) : List UInt8 := itemBytes m ++ Msp.trailer

/-- The buffer holds the item, ready to be sent. -/
def Carries (v : PoolStreamObject) (m : Item) : Prop := v.bytes = some (itemBytes m)

theorem createMspFrame_carries (obj : PoolStreamObject) (r : Reading) :
    ∃ v, Msp.createMspFrame obj r.cmd r.args = some v ∧ Carries v (.reading r) := by
  obtain ⟨v, hv, hs, hm⟩ := Msp.createMspFrame_eq obj r.cmd r.args r.args_length
  have hl := r.args_length
  have hsize : v.size.toNat ≤ streamMessageSize := by
    rw [hs]
    simp only [streamMessageSize]
    omega
  refine ⟨v, hv, ?_⟩
  rw [Carries, PoolStreamObject.bytes, if_pos hsize, hs, hm, itemBytes,
    List.take_left' (Msp.frame_length _ _)]

theorem copyText_carries (obj : PoolStreamObject) (t : Text) :
    ∃ v, copyText obj t.chars = some v ∧ Carries v (.text t) := by
  have hl := t.chars_length
  simp only [streamMessageSize] at hl
  obtain ⟨v, hv, -, hm⟩ := obj.pokes_inside 0 (t.chars ++ [0])
    (by simp only [List.length_append, List.length_singleton, streamMessageSize]; omega)
  have hlen : v.strlen = t.chars.length :=
    PoolStreamObject.strlen_eq_of_message hm t.chars_ne_zero
  have hsize : (UInt8.ofNat v.strlen).toNat = t.chars.length := by
    rw [hlen, UInt8.toNat_ofNat']
    omega
  refine ⟨v.setSize (UInt8.ofNat v.strlen), by simp [copyText, hv], ?_⟩
  rw [Carries, PoolStreamObject.bytes, PoolStreamObject.setSize_size, hsize,
    if_pos (by simp only [streamMessageSize]; omega), PoolStreamObject.setSize_message, hm]
  simp [itemBytes]

/-! ## Phases and monitors -/

/-- How far a thread is with its buffer: a producer is `ready` to send an item,
`owns` a buffer for it and has `filled` it; the stream thread has `fetched` a
buffer, `loaded` and `written` its bytes, `stored` the trailer and `sent` it. -/
inductive Phase where
  | idle
  | ready (m : Item)
  | owns (o : Obj) (m : Item)
  | filled (o : Obj) (m : Item)
  | fetched (o : Obj)
  | loaded (o : Obj) (v : PoolStreamObject)
  | written (o : Obj)
  | stored (o : Obj)
  | sent (o : Obj)

namespace Phase

/-- The buffer of the phase. -/
def obj : Phase → Option Obj
  | idle | ready _ => none
  | owns o _ | filled o _ | fetched o | loaded o _ | written o | stored o | sent o => some o

/-- The item a producer is busy with. -/
def item : Phase → Option Item
  | ready m | owns _ m | filled _ m => some m
  | _ => none

/-- What the channel has carried of the items taken from the mailbox so far:
all of them, or all but the rest of the last one. -/
def Delivered (mem : Obj → PoolStreamObject) (channel : List UInt8) (taken : List Item) :
    Phase → Prop
  | fetched o => ∃ sent m, taken = sent ++ [m] ∧ Carries (mem o) m ∧ channel = sent.flatMap wire
  | loaded _ v => ∃ sent m, taken = sent ++ [m] ∧ Carries v m ∧ channel = sent.flatMap wire
  | written _ | stored _ =>
    ∃ sent m, taken = sent ++ [m] ∧ channel = sent.flatMap wire ++ itemBytes m
  | _ => channel = taken.flatMap wire

/-- The buffer of a producer that is about to post holds its item. -/
def Sound (mem : Obj → PoolStreamObject) : Phase → Prop
  | filled o m => Carries (mem o) m
  | _ => True

variable {mem : Obj → PoolStreamObject} {o : Obj} {v : PoolStreamObject} {φ : Phase}

/-- A store to a buffer matters only to the phase that has the buffer. -/
theorem Sound.store (h : φ.Sound mem) (ho : φ.obj ≠ some o) :
    φ.Sound (Function.update mem o v) := by
  cases φ with
  | filled o' m =>
    have hne : o' ≠ o := fun e => ho (congrArg some e)
    simpa [Sound, hne] using h
  | _ => trivial

theorem Delivered.store {channel : List UInt8} {taken : List Item}
    (h : φ.Delivered mem channel taken) (ho : φ.obj ≠ some o) :
    φ.Delivered (Function.update mem o v) channel taken := by
  cases φ with
  | fetched o' =>
    have hne : o' ≠ o := fun e => ho (congrArg some e)
    simpa [Delivered, hne] using h
  | _ => exact h

end Phase

def producerMonitor : Monitor Call Reply Phase where
  hangs _ := False
  allows φ
    | .nextItem => φ = .idle
    | .chPoolAlloc => ∃ m, φ = .ready m
    | .load o => ∃ m, φ = .owns o m
    | .store o v => ∃ m, φ = .owns o m ∧ Carries v m
    | .chMBPost o => ∃ m, φ = .filled o m
    | _ => False
  answers _ _ _ := True
  next φ
    | .nextItem, m => .ready m
    | .chPoolAlloc, r =>
      match φ, r with
      | .ready m, some o => .owns o m
      | _, _ => .idle
    | .store o _, _ =>
      match φ with
      | .owns _ m => .filled o m
      | _ => .idle
    | .chMBPost _, _ => .idle
    | _, _ => φ

def consumerMonitor : Monitor Call Reply Phase where
  hangs _ := False
  allows φ
    | .chMBFetch => φ = .idle
    | .load o => φ = .fetched o
    | .chnWrite bs =>
      (∃ o v, φ = .loaded o v ∧ v.bytes = some bs) ∨ ∃ o, φ = .stored o ∧ bs = Msp.trailer
    | .store o _ => φ = .written o
    | .chPoolFree o => φ = .sent o
    | .chPoolAlloc | .chMBPost _ | .nextItem => False
    | _ => True
  answers _
    | .load _, v => v.bytes.isSome
    | _, _ => True
  next φ
    | .chMBFetch, some o => .fetched o
    | .load o, v => .loaded o v
    | .chnWrite _, _ =>
      match φ with
      | .loaded o _ => .written o
      | .stored o => .sent o
      | _ => φ
    | .store o _, _ => .stored o
    | .chPoolFree _, _ => .idle
    | _, _ => φ

variable {ι : Type}

def monitor : Thread ι → Monitor Call Reply Phase
  | .producer _ => producerMonitor
  | .hc12 => consumerMonitor

/-! ## Every block follows its monitor -/

/-- A producer fills the buffer it has got with what it has to send, and posts it. -/
theorem fill_follows {α : Type} (o : Obj) (a : α) {m : Item}
    {fill : PoolStreamObject → Option PoolStreamObject}
    (hfill : ∀ obj, ∃ v, fill obj = some v ∧ Carries v m) :
    (do
      let obj ← ask (.load o)
      let obj ← orHang (fill obj)
      ask (.store o obj)
      let _ ← ask (.chMBPost o)
      return a : Fw α).wp producerMonitor (.owns o m) fun _ φ => φ = .idle := by
  refine Prog.wp_step ⟨m, rfl⟩ fun obj _ => ?_
  obtain ⟨v, hv, hc⟩ := hfill obj
  simp only [hv, orHang, Prog.ret_bind]
  refine Prog.wp_step ⟨m, rfl, hc⟩ fun _ _ => ?_
  exact Prog.wp_step ⟨m, rfl⟩ fun _ _ => rfl

theorem sendReading_follows (r : Reading) :
    (sendReading r.cmd r.args).wp producerMonitor (.ready (.reading r)) fun _ φ => φ = .idle := by
  refine Prog.wp_step ⟨_, rfl⟩ fun o _ => ?_
  cases o with
  | none => rfl
  | some o => exact fill_follows o () fun obj => createMspFrame_carries obj r

theorem cmdSend_follows (t : Text) :
    (cmdSend t.chars).wp producerMonitor (.ready (.text t)) fun _ φ => φ = .idle := by
  refine Prog.wp_step ⟨_, rfl⟩ fun o _ => ?_
  cases o with
  | none => rfl
  | some o => exact fill_follows o true fun obj => copyText_carries obj t

theorem produce_follows :
    produce.wp producerMonitor .idle fun _ φ => φ = .idle := by
  apply Prog.wp_step rfl
  intro m _
  cases m with
  | reading r =>
    apply Prog.wp_bind_of _ _ _ (sendReading_follows r)
    rintro _ _ rfl
    rfl
  | text t =>
    apply Prog.wp_bind_of _ _ _ (cmdSend_follows t)
    rintro _ _ rfl
    rfl

/-- The calls that do not touch the stream. -/
abbrev silent : Call → Bool
  | .chPoolAlloc | .chPoolFree _ | .chMBPost _ | .chMBFetch | .load _ | .store _ _
  | .nextItem | .chnWrite _ => false
  | _ => true

theorem wp_silent {α : Type} {c : Call} {k : Reply c → Fw α} {φ : Phase} {Q : α → Phase → Prop}
    (hc : silent c = true) :
    (Prog.call c k).wp consumerMonitor φ Q ↔ ∀ r, (k r).wp consumerMonitor φ Q := by
  cases c <;> first
    | exact ⟨fun h r => h.2 r trivial, fun h => ⟨trivial, fun r _ => h r⟩⟩
    | cases hc

theorem normalMode_follows (φ : Phase) :
    Hc12.normalMode.wp consumerMonitor φ fun _ φ' => φ' = φ := by
  simp (disch := rfl) [Hc12.normalMode, inFn, wp_silent]

theorem wakeUp_follows (φ : Phase) : Hc12.wakeUp.wp consumerMonitor φ fun _ φ' => φ' = φ := by
  simp (disch := rfl) [Hc12.wakeUp, inFn, Prog.wp_bind, wp_silent]

theorem goToSleep_follows (φ : Phase) :
    Hc12.goToSleep.wp consumerMonitor φ fun _ φ' => φ' = φ := by
  simp (disch := rfl) [Hc12.goToSleep, inFn, Prog.wp_bind, wp_silent]

theorem checkStatus_follows (φ : Phase) :
    Hc12.checkStatus.wp consumerMonitor φ fun _ φ' => φ' = φ := by
  simp (disch := rfl) [Hc12.checkStatus, Hc12.progMode, Hc12.normalMode, inFn, Prog.wp_bind,
    wp_silent]

theorem start_follows : Hc12.start.wp consumerMonitor .idle fun _ φ => φ = .idle := by
  simp (disch := rfl) only [Hc12.start, Prog.perform_bind, wp_silent]
  intro _
  apply Prog.wp_bind_of _ _ _ (normalMode_follows _)
  rintro _ _ rfl
  rfl

theorem ping_follows : Hc12.ping.wp consumerMonitor .idle fun _ φ => φ = .idle := by
  apply Prog.wp_bind_of _ _ _ (checkStatus_follows _)
  rintro _ _ rfl
  simp (disch := rfl) only [Prog.perform_bind, wp_silent, Prog.wp_ite]
  intro status
  split
  · apply Prog.wp_bind_of _ _ _ (goToSleep_follows _)
    rintro _ _ rfl
    simp (disch := rfl) [wp_silent]
  · simp

theorem transmit_follows : Hc12.transmit.wp consumerMonitor .idle fun _ φ => φ = .idle := by
  simp only [Hc12.transmit, Prog.perform_bind]
  refine ⟨rfl, fun o _ => ?_⟩
  cases o with
  | none =>
    apply Prog.wp_bind_of _ _ _ (goToSleep_follows _)
    rintro _ _ rfl
    rfl
  | some o =>
    apply Prog.wp_bind_of _ _ _ (wakeUp_follows _)
    rintro _ _ rfl
    simp (disch := rfl) only [wp_silent]
    intro _
    refine ⟨rfl, fun v hv => ?_⟩
    obtain ⟨bs, hbs⟩ := Option.isSome_iff_exists.mp hv
    obtain ⟨v', hv', -, hm⟩ := v.pokes_inside 0 [0x0A, 0x0D] (by decide)
    have ht : v'.message.take 2 = Msp.trailer := by simp [hm, Msp.trailer]
    simp only [hbs, hv', orHang, Prog.ret_bind]
    refine ⟨.inl ⟨_, _, rfl, hbs⟩, fun _ _ => ⟨rfl, fun _ _ => ⟨.inr ⟨_, rfl, ht⟩, fun _ _ => ?_⟩⟩⟩
    simp (disch := rfl) only [wp_silent]
    intro _
    refine ⟨rfl, fun _ _ => ?_⟩
    simp (disch := rfl) only [wp_silent]
    intro _
    rfl

theorem body_follows (t : Thread ι) (l : Block) :
    (body t l).wp (monitor t) .idle fun _ φ => φ = .idle := by
  cases t with
  | producer i => exact produce_follows
  | hc12 =>
    cases l with
    | start => exact start_follows
    | ping => exact ping_follows
    | _ => exact transmit_follows

/-! ## The global invariant -/

/-- The phases and the shared state agree. `log` says where each posted item
is: taken by the stream thread, or waiting in the mailbox in posting order. -/
structure Good (items : Item → Prop) (ph : Thread ι → Phase) (s : State ι) : Prop where
  conserved : Conserved s.places
  held : s.held = Phase.obj ∘ ph
  item : ∀ t m, (ph t).item = some m → s.item t = some m
  sound : ∀ t, (ph t).Sound s.mem
  items_item : ∀ t m, s.item t = some m → items m
  items_posted : ∀ m ∈ s.posted, items m
  log : ∃ taken queue, s.posted = taken ++ queue ∧
    List.Forall₂ (fun o m => Carries (s.mem o) m) s.mail queue ∧
    (ph .hc12).Delivered s.mem s.channel taken

variable {items : Item → Prop} {ph : Thread ι → Phase} {s : State ι} {t : Thread ι} {o : Obj}
  {m : Item} {φ : Phase}

theorem Good.held_eq (h : Good items ph s) (t : Thread ι) : s.places.held t = (ph t).obj :=
  congrFun h.held t

theorem Good.initial (mem : Obj → PoolStreamObject) :
    Good items (fun _ : Thread ι => .idle) (initial mem).shared where
  conserved := Conserved.initial (l := (List.finRange streamTxPoolSize).reverse)
    (by decide) (by decide)
  held := rfl
  item := by simp [Phase.item]
  sound _ := trivial
  items_item := by simp [Stream.initial]
  items_posted := by simp [Stream.initial]
  log := ⟨[], [], rfl, .nil, rfl⟩

/-- A store to the buffer `t` has is seen by no other thread and not in the mailbox. -/
theorem Good.storeOther (h : Good items ph s) (ht : (ph t).obj = some o)
    (v : PoolStreamObject) :
    (∀ u, u ≠ t → (ph u).obj ≠ some o) ∧
      ∀ queue, List.Forall₂ (fun o m => Carries (s.mem o) m) s.mail queue →
        List.Forall₂ (fun o' m => Carries (Function.update s.mem o v o') m) s.mail queue := by
  have hheld : s.places.held t = some o := (h.held_eq t).trans ht
  constructor
  · intro u hu ho
    exact hu (h.conserved.holder_unique ((h.held_eq u).trans ho) hheld)
  · intro queue hq
    have hmem : o ∉ s.mail := h.conserved.not_mem_queue hheld
    refine (List.forall₂_iff_zip.mpr ⟨(List.forall₂_iff_zip.mp hq).1, fun {o' m'} hz => ?_⟩)
    have hne : o' ≠ o := fun e => hmem (e ▸ (List.of_mem_zip hz).1)
    simpa [hne] using (List.forall₂_iff_zip.mp hq).2 hz

/-- While a thread has a buffer the mailbox is not full. -/
theorem Good.mail_lt (h : Good items ph s) (ht : (ph t).obj = some o) :
    s.mail.length < streamTxPoolSize := by
  have hlt := h.conserved.queue_length_lt ((h.held_eq t).trans ht)
  rwa [Fintype.card_fin] at hlt

variable [DecidableEq ι]

/-- A new phase of `t` with a new buffer. -/
theorem Good.held_update (h : Good items ph s) (t : Thread ι) (φ : Phase) :
    Function.update s.held t φ.obj = Phase.obj ∘ Function.update ph t φ := by
  rw [h.held, Function.comp_update]

/-- A new phase of `t` with the same buffer. -/
theorem Good.held_same (h : Good items ph s) (hφ : φ.obj = (ph t).obj) :
    s.held = Phase.obj ∘ Function.update ph t φ := by
  rw [← h.held_update, hφ, ← h.held_eq]
  exact (Function.update_eq_self t s.held).symm

/-- A new phase of `t` about the same item, or about none. -/
theorem Good.item_update (h : Good items ph s)
    (hφ : ∀ m, φ.item = some m → (ph t).item = some m) :
    ∀ u m, (Function.update ph t φ u).item = some m → s.item u = some m :=
  (Function.forall_update_iff ph fun u φ => ∀ m, φ.item = some m → s.item u = some m).mpr
    ⟨fun m hm => h.item t m (hφ m hm), fun u _ => h.item u⟩

theorem Good.sound_update (h : Good items ph s) (hφ : φ.Sound s.mem) :
    ∀ u, (Function.update ph t φ u).Sound s.mem :=
  (Function.forall_update_iff ph fun _ φ => φ.Sound s.mem).mpr ⟨hφ, fun u _ => h.sound u⟩

/-- A call that changes neither the phase nor the state. -/
theorem Good.same (h : Good items ph s) (t : Thread ι) :
    Good items (Function.update ph t (ph t)) s := by
  rwa [Function.update_eq_self]

/-! ## Calls of the producers -/

theorem Good.nextItem (h : Good items ph s) (ht : ph t = .idle) (hne : t ≠ .hc12)
    (hm : items m) :
    Good items (Function.update ph t (.ready m))
      { s with item := Function.update s.item t (some m) } where
  conserved := h.conserved
  held := h.held_same (by rw [ht]; rfl)
  item := by
    intro u m' hu
    by_cases e : u = t
    · subst e
      simpa [Phase.item] using hu
    · simpa [e] using h.item u m' (by simpa [e] using hu)
  sound := h.sound_update trivial
  items_item := by
    intro u m' hu
    by_cases e : u = t
    · subst e
      obtain rfl : m = m' := by simpa using hu
      exact hm
    · exact h.items_item u m' (by simpa [e] using hu)
  items_posted := h.items_posted
  log := by simpa [hne.symm] using h.log

theorem Good.allocNone (h : Good items ph s) (ht : ph t = .ready m) (hne : t ≠ .hc12)
    (hfree : s.free = []) :
    Good items (Function.update ph t .idle)
      { s with free := s.free.tail, held := Function.update s.held t none } := by
  have hheld : Function.update s.held t none = s.held := by
    have hn : s.held t = none := (h.held_eq t).trans (by rw [ht]; rfl)
    rw [← hn, Function.update_eq_self]
  rw [hfree, List.tail_nil, ← hfree, hheld]
  exact {
    conserved := h.conserved
    held := h.held_same (by rw [ht]; rfl)
    item := h.item_update (by simp [Phase.item])
    sound := h.sound_update trivial
    items_item := h.items_item
    items_posted := h.items_posted
    log := by simpa [hne.symm] using h.log }

theorem Good.allocSome (h : Good items ph s) (ht : ph t = .ready m) (hne : t ≠ .hc12)
    (hfree : s.free = o :: s.free.tail) :
    Good items (Function.update ph t (.owns o m))
      { s with free := s.free.tail, held := Function.update s.held t (some o) } where
  conserved := h.conserved.alloc hfree ((h.held_eq t).trans (by rw [ht]; rfl))
  held := h.held_update t (.owns o m)
  item := h.item_update (by simp [ht, Phase.item])
  sound := h.sound_update trivial
  items_item := h.items_item
  items_posted := h.items_posted
  log := by simpa [hne.symm] using h.log

theorem Good.fill (h : Good items ph s) (ht : ph t = .owns o m) (hne : t ≠ .hc12)
    {v : PoolStreamObject} (hv : Carries v m) :
    Good items (Function.update ph t (.filled o m))
      { s with mem := Function.update s.mem o v } := by
  obtain ⟨hother, hmail⟩ := h.storeOther (t := t) (o := o) (by rw [ht]; rfl) v
  exact {
    conserved := h.conserved
    held := h.held_same (by rw [ht]; rfl)
    item := h.item_update (by simp [ht, Phase.item])
    sound := (Function.forall_update_iff ph fun _ φ => φ.Sound (Function.update s.mem o v)).mpr
      ⟨by simpa [Phase.Sound] using hv, fun u hu => (h.sound u).store (hother u hu)⟩
    items_item := h.items_item
    items_posted := h.items_posted
    log := by
      obtain ⟨taken, queue, hp, hq, hc⟩ := h.log
      refine ⟨taken, queue, hp, hmail queue hq, ?_⟩
      rw [Function.update_of_ne hne.symm]
      exact hc.store (hother _ hne.symm) }

theorem Good.post (h : Good items ph s) (ht : ph t = .filled o m) (hne : t ≠ .hc12) :
    Good items (Function.update ph t .idle)
      { s with
        mail := s.mail ++ [o]
        held := Function.update s.held t none
        posted := s.posted ++ (s.item t).toList } := by
  have hitem : s.item t = some m := h.item t m (by rw [ht]; rfl)
  have hcarries : Carries (s.mem o) m := by simpa [ht, Phase.Sound] using h.sound t
  exact {
    conserved := h.conserved.post ((h.held_eq t).trans (by rw [ht]; rfl))
    held := h.held_update t .idle
    item := h.item_update (by simp [Phase.item])
    sound := h.sound_update trivial
    items_item := h.items_item
    items_posted := by
      intro m' hm'
      rw [hitem, Option.toList_some, List.mem_append, List.mem_singleton] at hm'
      rcases hm' with hm' | rfl
      · exact h.items_posted m' hm'
      · exact h.items_item t m' hitem
    log := by
      obtain ⟨taken, queue, hp, hq, hc⟩ := h.log
      refine ⟨taken, queue ++ [m], by simp [hp, hitem], ?_, ?_⟩
      · exact List.rel_append hq (.cons hcarries .nil)
      · simpa [hne.symm] using hc }

/-! ## Calls of the stream thread -/

theorem Good.fetchNone (h : Good items ph s) (ht : ph .hc12 = .idle) (hmail : s.mail = []) :
    Good items (Function.update ph .hc12 .idle)
      { s with mail := s.mail.tail, held := Function.update s.held .hc12 none } := by
  have hn : s.held .hc12 = none := (h.held_eq _).trans (by rw [ht]; rfl)
  have hheld : Function.update s.held .hc12 none = s.held := by
    rw [← hn, Function.update_eq_self]
  have hph : Function.update ph .hc12 .idle = ph := by rw [← ht, Function.update_eq_self]
  rw [hmail, List.tail_nil, ← hmail, hheld, hph]
  exact h

theorem Good.fetchSome (h : Good items ph s) (ht : ph .hc12 = .idle)
    (hmail : s.mail = o :: s.mail.tail) :
    Good items (Function.update ph .hc12 (.fetched o))
      { s with mail := s.mail.tail, held := Function.update s.held .hc12 (some o) } := by
  obtain ⟨taken, queue, hp, hq, hc⟩ := h.log
  rw [hmail] at hq
  obtain ⟨m, queue, hm, hrest, rfl⟩ := List.forall₂_cons_left_iff.mp hq
  exact {
    conserved := h.conserved.fetch hmail ((h.held_eq _).trans (by rw [ht]; rfl))
    held := h.held_update .hc12 (.fetched o)
    item := h.item_update (by simp [Phase.item])
    sound := h.sound_update trivial
    items_item := h.items_item
    items_posted := h.items_posted
    log := by
      rw [ht] at hc
      refine ⟨taken ++ [m], queue, by simp [hp], hrest, ?_⟩
      rw [Function.update_self]
      exact ⟨taken, m, rfl, hm, hc⟩ }

/-- A step of the stream thread that leaves the pool, the mailbox and the
buffers alone. -/
theorem Good.hc12Write (h : Good items ph s) (hobj : φ.obj = (ph .hc12).obj)
    (hitem : φ.item = none) (hsound : φ.Sound s.mem) (bs : List UInt8)
    (hdel : ∀ taken, (ph .hc12).Delivered s.mem s.channel taken →
      φ.Delivered s.mem (s.channel ++ bs) taken) :
    Good items (Function.update ph .hc12 φ) { s with channel := s.channel ++ bs } where
  conserved := h.conserved
  held := h.held_same hobj
  item := h.item_update (by simp [hitem])
  sound := h.sound_update hsound
  items_item := h.items_item
  items_posted := h.items_posted
  log := by
    obtain ⟨taken, queue, hp, hq, hc⟩ := h.log
    refine ⟨taken, queue, hp, hq, ?_⟩
    rw [Function.update_self]
    exact hdel taken hc

theorem Good.storeTrailer (h : Good items ph s) (ht : ph .hc12 = .written o)
    (v : PoolStreamObject) :
    Good items (Function.update ph .hc12 (.stored o))
      { s with mem := Function.update s.mem o v } := by
  obtain ⟨hother, hmail⟩ := h.storeOther (t := .hc12) (o := o) (by rw [ht]; rfl) v
  exact {
    conserved := h.conserved
    held := h.held_same (by rw [ht]; rfl)
    item := h.item_update (by simp [Phase.item])
    sound := (Function.forall_update_iff ph fun _ φ => φ.Sound (Function.update s.mem o v)).mpr
      ⟨trivial, fun u hu => (h.sound u).store (hother u hu)⟩
    items_item := h.items_item
    items_posted := h.items_posted
    log := by
      obtain ⟨taken, queue, hp, hq, hc⟩ := h.log
      rw [ht] at hc
      refine ⟨taken, queue, hp, hmail queue hq, ?_⟩
      rw [Function.update_self]
      exact hc }

theorem Good.free (h : Good items ph s) (ht : ph .hc12 = .sent o) :
    Good items (Function.update ph .hc12 .idle)
      { s with free := o :: s.free, held := Function.update s.held .hc12 none } where
  conserved := h.conserved.free ((h.held_eq _).trans (by rw [ht]; rfl))
  held := h.held_update .hc12 .idle
  item := h.item_update (by simp [Phase.item])
  sound := h.sound_update trivial
  items_item := h.items_item
  items_posted := h.items_posted
  log := by
    obtain ⟨taken, queue, hp, hq, hc⟩ := h.log
    rw [ht] at hc
    refine ⟨taken, queue, hp, hq, ?_⟩
    rw [Function.update_self]
    exact hc

/-! ## Every call keeps the invariant -/

theorem Good.producerCall {i : ι} (h : Good items ph s) {c : Call} {r : Reply c}
    (ha : producerMonitor.allows (ph (.producer i)) c)
    (hr : possible items (.producer i) s c r) :
    Good items (Function.update ph (.producer i) (producerMonitor.next (ph (.producer i)) c r))
      (effect (.producer i) s c r) := by
  have hne : Thread.producer i ≠ .hc12 := by simp
  cases c with
  | nextItem => exact h.nextItem ha hne hr
  | chPoolAlloc =>
    obtain ⟨m, hm⟩ := ha
    rw [hm]
    cases r with
    | none => exact h.allocNone hm hne (List.head?_eq_none_iff.mp hr.symm)
    | some o => exact h.allocSome hm hne (List.cons_head?_tail hr.symm).symm
  | load o => exact h.same (.producer i)
  | store o v =>
    obtain ⟨m, hm, hv⟩ := ha
    rw [hm]
    exact h.fill hm hne hv
  | chMBPost o =>
    obtain ⟨m, hm⟩ := ha
    have hlt := h.mail_lt (t := .producer i) (o := o) (by rw [hm]; rfl)
    obtain rfl : r = true := hr.trans (by simp [hlt])
    exact h.post hm hne
  | _ => exact ha.elim

theorem Good.consumerCall (h : Good items ph s) {c : Call} {r : Reply c}
    (ha : consumerMonitor.allows (ph .hc12) c) (hr : possible items .hc12 s c r) :
    consumerMonitor.answers (ph .hc12) c r ∧
      Good items (Function.update ph .hc12 (consumerMonitor.next (ph .hc12) c r))
        (effect .hc12 s c r) := by
  cases c with
  | chMBFetch =>
    have ht : ph .hc12 = .idle := ha
    refine ⟨trivial, ?_⟩
    cases r with
    | none =>
      simp only [consumerMonitor, ht]
      exact h.fetchNone ht (List.head?_eq_none_iff.mp hr.symm)
    | some o => exact h.fetchSome ht (List.cons_head?_tail hr.symm).symm
  | load o =>
    have ht : ph .hc12 = .fetched o := ha
    have hr : r = s.mem o := hr
    obtain ⟨taken, queue, -, -, hc⟩ := h.log
    rw [ht] at hc
    obtain ⟨sent, m, -, hm, -⟩ := hc
    refine ⟨by rw [hr]; exact Option.isSome_iff_exists.mpr ⟨_, hm⟩, ?_⟩
    have hw := h.hc12Write (φ := .loaded o r) (by rw [ht]; rfl) rfl trivial []
      (by rw [ht, hr, List.append_nil]; exact fun _ hc => hc)
    rw [List.append_nil] at hw
    exact hw
  | chnWrite bs =>
    refine ⟨trivial, ?_⟩
    rcases ha with ⟨o, v, ht, hv⟩ | ⟨o, ht, rfl⟩
    · rw [ht]
      refine h.hc12Write (φ := .written o) (by rw [ht]; rfl) rfl trivial _ ?_
      rw [ht]
      rintro taken ⟨sent, m, htaken, hm, hc⟩
      obtain rfl : bs = itemBytes m := Option.some.inj (hv.symm.trans hm)
      exact ⟨sent, m, htaken, by rw [hc]⟩
    · rw [ht]
      refine h.hc12Write (φ := .sent o) (by rw [ht]; rfl) rfl trivial _ ?_
      rw [ht]
      rintro taken ⟨sent, m, rfl, hc⟩
      simp [Phase.Delivered, hc, wire]
  | store o v => exact ⟨trivial, h.storeTrailer ha v⟩
  | chPoolFree o => exact ⟨trivial, h.free ha⟩
  | chPoolAlloc | chMBPost _ | nextItem => exact ha.elim
  | _ => exact ⟨trivial, h.same .hc12⟩

/-- **Invariant.** In every reachable state each thread is in a phase of its
monitor and the phases agree with the shared state. -/
theorem reachable_good {mem : Obj → PoolStreamObject}
    {p : Pool (Thread ι) Call Reply Block (State ι)}
    (h : (system ι items).Reachable (initial mem) p) :
    System.Inv monitor (fun _ _ φ => φ = .idle) (Good items) p := by
  refine h.invariant ?_ ?_ ?_
  · rintro t l φ rfl
    exact body_follows t l
  · intro ph s t c r hg ha hr
    cases t with
    | producer i => exact ⟨trivial, hg.producerCall ha hr⟩
    | hc12 => exact hg.consumerCall ha hr
  · refine ⟨fun _ => .idle, fun t => ?_, Good.initial mem⟩
    cases t <;> rfl

end MeteoL053.Stream
