import MeteoL053.Stream.Invariant

/-!
What the stream system guarantees: no stream buffer is lost, freed twice or
touched by a thread that does not have it, and what the radio carries is read
back by an MSP receiver as the posted readings in order.
-/

namespace MeteoL053.Stream

open CallTree Tokens

variable {ι : Type} [DecidableEq ι] {items : Item → Prop} {mem : Obj → PoolStreamObject}
  {p : Pool (Thread ι) Call Reply Block (State ι)}

/-! ## The buffers -/

/-- A thread that stands before a post, a store or a free has the buffer. -/
theorem held_of_aboutTo (h : (system ι items).Reachable (initial mem) p) {t : Thread ι} {c : Call}
    {o : Obj} (ht : p.AboutTo t c)
    (hc : c = .chMBPost o ∨ c = .chPoolFree o ∨ ∃ v, c = .store o v) :
    p.shared.held t = some o := by
  obtain ⟨ph, ha, hg⟩ := (reachable_good h).allows ht
  refine (hg.held_eq t).trans ?_
  cases t with
  | producer i =>
    rcases hc with rfl | rfl | ⟨v, rfl⟩
    · obtain ⟨m, hm⟩ := ha
      rw [hm]
      rfl
    · exact ha.elim
    · obtain ⟨m, hm, -⟩ := ha
      rw [hm]
      rfl
  | hc12 =>
    rcases hc with rfl | rfl | ⟨v, rfl⟩
    · exact ha.elim
    · rw [show ph .hc12 = .sent o from ha]
      rfl
    · rw [show ph .hc12 = .written o from ha]
      rfl

/-- **Buffer conservation.** In every reachable state the pool objects are
partitioned between the pool, the mailbox and the threads. Only the thread that
has a buffer posts it, frees it or writes to it, and the post cannot fail. No
thread keeps a buffer beyond the end of its turn, and none leaves the defined
behaviour of the source. -/
theorem buffers_conserved (h : (system ι items).Reachable (initial mem) p) :
    Conserved p.shared.places ∧
    (∀ t o, p.AboutTo t (.chMBPost o) → p.shared.held t = some o ∧
      ∀ r, possible items t p.shared (.chMBPost o) r → r = true) ∧
    (∀ t o, p.AboutTo t (.chPoolFree o) → p.shared.held t = some o) ∧
    (∀ t o v, p.AboutTo t (.store o v) → p.shared.held t = some o) ∧
    (∀ t l, p.prog t = .ret l → p.shared.held t = none) ∧
    ∀ t, p.prog t ≠ .hang := by
  have hinv := reachable_good h
  obtain ⟨ph, hwp, hg⟩ := hinv
  refine ⟨hg.conserved, fun t o ht => ?_, fun t o ht => ?_, fun t o v ht => ?_,
    fun t l ht => ?_, fun t => ?_⟩
  · have hheld := held_of_aboutTo h ht (.inl rfl)
    refine ⟨hheld, fun r hr => ?_⟩
    have hlt := hg.mail_lt (t := t) ((hg.held_eq t).symm.trans hheld)
    exact hr.trans (by simp [hlt])
  · exact held_of_aboutTo h ht (.inr (.inl rfl))
  · exact held_of_aboutTo h ht (.inr (.inr ⟨v, rfl⟩))
  · have hidle := hwp t
    rw [ht] at hidle
    exact (hg.held_eq t).trans (by rw [hidle]; rfl)
  · refine (reachable_good h).not_hang fun φ => ?_
    cases t <;> exact id

def sampleReading : Reading := ⟨1, [0x244D3C0A], by decide⟩

/-- One producer fills a buffer with `sampleReading` and posts it. -/
def sampleRun : List (Thread Unit × (c : Call) × Reply c) :=
  [(.producer (), ⟨.nextItem, .reading sampleReading⟩),
   (.producer (), ⟨.chPoolAlloc, some (4 : Obj)⟩),
   (.producer (), ⟨.load 4, blank⟩),
   (.producer (), ⟨.store 4 ((Msp.createMspFrame blank 1 [0x244D3C0A]).getD blank), ()⟩),
   (.producer (), ⟨.chMBPost 4, true⟩)]

theorem buffers_conserved_sampleRun :
    ∃ p, (system Unit fun _ => True).Reachable (initial fun _ => blank) p ∧
      p.shared.mail = [4] ∧ Conserved p.shared.places := by
  obtain ⟨p, h, hm⟩ := System.Reachable.exists_of_playAll (system Unit fun _ => True)
    (initial fun _ => blank) sampleRun (fun p => p.shared.mail) (b := [4]) (by decide +kernel)
  exact ⟨p, h, hm, (buffers_conserved h).1⟩

/-! ## The radio channel -/

def isReading : Item → Bool
  | .reading _ => true
  | .text _ => false

/-- What a receiver should make of a reading. -/
def packet (r : Reading) : UInt8 × List UInt32 := (Msp.hc12HwIdOffset + r.cmd, r.args)

theorem exists_readings {l : List Item} (h : ∀ m ∈ l, isReading m = true) :
    ∃ rs : List Reading, l = rs.map .reading := by
  induction l with
  | nil => exact ⟨[], rfl⟩
  | cons m l ih =>
    obtain ⟨rs, rfl⟩ := ih fun m' hm' => h m' (List.mem_cons_of_mem m hm')
    cases m with
    | reading r => exact ⟨r :: rs, rfl⟩
    | text t => cases h (.text t) List.mem_cons_self

theorem flatMap_wire (rs : List Reading) :
    (rs.map Item.reading).flatMap wire =
      (rs.map packet).flatMap fun q => Msp.frame q.1 q.2 ++ Msp.trailer := by
  simp [List.flatMap_map, wire, itemBytes, packet]

theorem run_readings (rs : List Reading) :
    Msp.Receiver.idle.run ((rs.map Item.reading).flatMap wire) = (.idle, rs.map packet) := by
  rw [flatMap_wire]
  refine Msp.run_wire _ fun q hq => ?_
  obtain ⟨r, -, rfl⟩ := List.mem_map.mp hq
  have hr := r.args_length
  simp only [packet]
  omega

/-- Whole wires followed by a message without its trailer. -/
theorem receive_message (rs : List Reading) (r : Reading) :
    Msp.receive ((rs.map Item.reading).flatMap wire ++ itemBytes (.reading r)) =
      (rs ++ [r]).map packet := by
  have hr := r.args_length
  have hf := Msp.run_frame (Msp.hc12HwIdOffset + r.cmd) r.args (by omega)
  simp [Msp.receive, Msp.Receiver.run_append, run_readings, itemBytes, hf, packet]

/-- What the channel carries decodes to the readings taken from the mailbox,
the last one perhaps excepted, which the stream thread then still has. -/
theorem Phase.Delivered.receive {φ : Phase} {channel : List UInt8} {rs : List Reading}
    (h : φ.Delivered mem channel (rs.map .reading)) :
    ∃ sent rest, rs = sent ++ rest ∧ Msp.receive channel = sent.map packet ∧
      rest.length ≤ φ.obj.toList.length := by
  -- either whole wires only, or a last reading of which nothing or the message was written
  have hall : channel = (rs.map Item.reading).flatMap wire →
      ∃ sent rest, rs = sent ++ rest ∧ Msp.receive channel = sent.map packet ∧
        rest.length ≤ φ.obj.toList.length := by
    rintro rfl
    exact ⟨rs, [], by simp, by rw [Msp.receive, run_readings], Nat.zero_le _⟩
  have hlast : ∀ {sent : List Item} {m : Item}, rs.map Item.reading = sent ++ [m] →
      ∃ sent' r, sent = sent'.map .reading ∧ m = .reading r ∧ rs = sent' ++ [r] := by
    intro sent m hrs
    obtain ⟨sent', last, rfl, hs, hl⟩ := List.map_eq_append_iff.mp hrs
    obtain ⟨r, rfl, hm⟩ := List.map_eq_singleton_iff.mp hl
    exact ⟨sent', r, hs.symm, hm.symm, rfl⟩
  cases φ with
  | fetched o =>
    obtain ⟨sent, m, hrs, -, rfl⟩ := h
    obtain ⟨sent, r, rfl, rfl, rfl⟩ := hlast hrs
    exact ⟨sent, [r], rfl, by rw [Msp.receive, run_readings], Nat.le_refl _⟩
  | loaded o v =>
    obtain ⟨sent, m, hrs, -, rfl⟩ := h
    obtain ⟨sent, r, rfl, rfl, rfl⟩ := hlast hrs
    exact ⟨sent, [r], rfl, by rw [Msp.receive, run_readings], Nat.le_refl _⟩
  | written o =>
    obtain ⟨sent, m, hrs, rfl⟩ := h
    obtain ⟨sent, r, rfl, rfl, rfl⟩ := hlast hrs
    exact ⟨sent ++ [r], [], by simp, receive_message sent r, Nat.zero_le _⟩
  | stored o =>
    obtain ⟨sent, m, hrs, rfl⟩ := h
    obtain ⟨sent, r, rfl, rfl, rfl⟩ := hlast hrs
    exact ⟨sent ++ [r], [], by simp, receive_message sent r, Nat.zero_le _⟩
  | _ => exact hall h

/-- **Telemetry round trip.** In every reachable state of producers that post
readings, the receiver has decoded the posted readings in posting order up to
those that are still in the mailbox or in the hands of the stream thread.
Every frame fits a message and `createMspFrame` stores only inside it. -/
theorem readings_delivered
    (h : (system ι fun m => isReading m = true).Reachable (initial mem) p) :
    (∃ sent waiting : List Reading, p.shared.posted = (sent ++ waiting).map .reading ∧
      Msp.receive p.shared.channel = sent.map packet ∧
      waiting.length ≤ p.shared.mail.length + (p.shared.held .hc12).toList.length) ∧
    (∀ (obj : PoolStreamObject) (r : Reading), ∃ obj',
      Msp.createMspFrame obj r.cmd r.args = some obj' ∧
      obj'.size.toNat = 6 + 4 * r.args.length ∧ obj'.size.toNat ≤ streamMessageSize) ∧
    ∀ t, p.prog t ≠ .hang := by
  refine ⟨?_, fun obj r => ?_, fun t => ?_⟩
  · obtain ⟨ph, -, hg⟩ := reachable_good h
    obtain ⟨taken, queue, hp, hq, hdel⟩ := hg.log
    obtain ⟨rs, hrs⟩ := exists_readings hg.items_posted
    rw [hp] at hrs
    obtain ⟨taken, queue, rfl, rfl, rfl⟩ := List.append_eq_map_iff.mp hrs
    obtain ⟨sent, rest, rfl, hrec, hlen⟩ := hdel.receive
    refine ⟨sent, rest ++ queue, by simp [hp], hrec, ?_⟩
    have hmail : p.shared.mail.length = queue.length := by simpa using hq.length_eq
    have hheld : p.shared.held .hc12 = (ph .hc12).obj := hg.held_eq .hc12
    rw [hheld, List.length_append]
    omega
  · obtain ⟨obj', he, hs, -⟩ := Msp.createMspFrame_eq obj r.cmd r.args r.args_length
    have hr := r.args_length
    refine ⟨obj', he, by omega, ?_⟩
    simp only [streamMessageSize]
    omega
  · refine (reachable_good h).not_hang fun φ => ?_
    cases t <;> exact id

/-- After `sampleRun` the stream thread starts up and sends the posted buffer. -/
def deliveryRun : List (Thread Unit × (c : Call) × Reply c) :=
  sampleRun ++
  [(.hc12, ⟨.setHwStatus .unknown, ()⟩),
   (.hc12, ⟨.enter .normalMode, ()⟩), (.hc12, ⟨.palSetLine .hc12Set, ()⟩),
   (.hc12, ⟨.chThdSleepMilliseconds 50, ()⟩), (.hc12, ⟨.leave .normalMode true, ()⟩),
   (.hc12, ⟨.enter .checkStatus, ()⟩), (.hc12, ⟨.setStatus .nok, ()⟩),
   (.hc12, ⟨.chBSemWaitTimeout 500, false⟩), (.hc12, ⟨.leave .checkStatus false, ()⟩),
   (.hc12, ⟨.status, .ok⟩),
   (.hc12, ⟨.enter .goToSleep, ()⟩), (.hc12, ⟨.status, .ok⟩),
   (.hc12, ⟨.palClearLine .hc12Enable, ()⟩), (.hc12, ⟨.chThdSleepMilliseconds 10, ()⟩),
   (.hc12, ⟨.setStatus .sleep, ()⟩), (.hc12, ⟨.leave .goToSleep true, ()⟩),
   (.hc12, ⟨.setHwStatus .ok, ()⟩),
   (.hc12, ⟨.chMBFetch, some (4 : Obj)⟩),
   (.hc12, ⟨.enter .wakeUp, ()⟩), (.hc12, ⟨.status, .sleep⟩),
   (.hc12, ⟨.palSetLine .hc12Enable, ()⟩), (.hc12, ⟨.chThdSleepMilliseconds 500, ()⟩),
   (.hc12, ⟨.setStatus .ok, ()⟩), (.hc12, ⟨.leave .wakeUp true, ()⟩),
   (.hc12, ⟨.chBSemWait, ()⟩),
   (.hc12, ⟨.load 4, (Msp.createMspFrame blank 1 [0x244D3C0A]).getD blank⟩),
   (.hc12, ⟨.chnWrite (Msp.frame 1 [0x244D3C0A]), ()⟩)]

theorem readings_delivered_deliveryRun :
    ∃ p, (system Unit fun m => isReading m = true).Reachable (initial fun _ => blank) p ∧
      Msp.receive p.shared.channel = [(1, [0x244D3C0A])] ∧ p.shared.mail = [] ∧
      ∃ sent waiting : List Reading, p.shared.posted = (sent ++ waiting).map .reading ∧
        Msp.receive p.shared.channel = sent.map packet := by
  obtain ⟨p, h, hp⟩ := System.Reachable.exists_of_playAll
    (system Unit fun m => isReading m = true) (initial fun _ => blank) deliveryRun
    (fun p => (Msp.receive p.shared.channel, p.shared.mail))
    (b := ([(1, [0x244D3C0A])], [])) (by decide +kernel)
  obtain ⟨hc, hm⟩ := Prod.mk.inj hp
  obtain ⟨⟨sent, waiting, hposted, hrec, -⟩, -⟩ := readings_delivered h
  exact ⟨p, h, hc, hm, sent, waiting, hposted, hrec⟩

end MeteoL053.Stream
