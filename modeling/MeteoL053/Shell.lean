import MeteoL053.Lib.CString
import MeteoL053.Stream.System

/-!
The shell from the keys to the pool buffer: the line editor `shellGetLine`, the
tokenizer `parse_arguments`, and `cmd_send`, which copies its argument into an
object of `streamMemPool` with `strcpy`.

The options for escape sequences, history, completion and the exit command are
off, as `shell.h` sets them. `char` is unsigned on this target.
-/

namespace MeteoL053.Shell

open CString

def shellMaxLineLength : Nat := 64
def shellMaxArguments : Nat := 4

/-! ## The line editor -/

structure Edited where
  line : List UInt8
  /-- what the terminal was sent -/
  echo : List UInt8
  /-- the keys not read -/
  rest : List UInt8
  deriving DecidableEq

/-- `shellGetLine` with the text before `p` in `line`; `none` is a channel that
was reset before the line was complete. -/
def shellGetLine (size : Nat) (line echo : List UInt8) : List UInt8 → Option Edited
  | [] => none
  | c :: keys =>
    if c = 8 ∨ c = 127 then
      if line ≠ [] then shellGetLine size line.dropLast (echo ++ [0x08, 0x20, 0x08]) keys
      else shellGetLine size line echo keys
    else if c = 0x0D then
      some ⟨line, echo ++ [0x0D, 0x0A], keys⟩
    else if c < 0x20 then
      shellGetLine size line echo keys
    else if line.length < size - 1 then
      shellGetLine size (line ++ [c]) (echo ++ [c]) keys
    else shellGetLine size line echo keys

/-- The text of a line buffer of `size` bytes. -/
structure IsLine (size : Nat) (line : List UInt8) : Prop where
  fits : line.length < size
  printable : ∀ c ∈ line, 0x20 ≤ c

theorem IsLine.ne_zero {size : Nat} {line : List UInt8} (h : IsLine size line) :
    ∀ c ∈ line, c ≠ 0 := by
  rintro c hc rfl
  exact absurd (h.printable 0 hc) (by decide)

theorem IsLine.dropLast {size : Nat} {line : List UInt8} (h : IsLine size line) :
    IsLine size line.dropLast where
  fits := Nat.lt_of_le_of_lt (List.dropLast_prefix line).length_le h.fits
  printable c hc := h.printable c (List.dropLast_subset line hc)

theorem IsLine.snoc {size : Nat} {line : List UInt8} {c : UInt8} (h : IsLine size line)
    (hc : ¬ c < 0x20) (hroom : line.length < size - 1) : IsLine size (line ++ [c]) where
  fits := by
    rw [List.length_append, List.length_singleton]
    omega
  printable c' hc' := by
    rcases List.mem_append.mp hc' with hc' | hc'
    · exact h.printable c' hc'
    · rw [List.mem_singleton.mp hc']
      exact UInt8.not_lt.mp hc

/-- Whatever is typed, the line fits its buffer and has no zero in it. -/
theorem shellGetLine_isLine {size : Nat} {line echo keys : List UInt8} {e : Edited}
    (h : IsLine size line) (he : shellGetLine size line echo keys = some e) :
    IsLine size e.line := by
  induction keys generalizing line echo with
  | nil => cases he
  | cons c keys ih =>
    unfold shellGetLine at he
    split at he
    · split at he
      · exact ih h.dropLast he
      · exact ih h he
    · split at he
      · cases he
        exact h
      · split at he
        · exact ih h he
        · next hc =>
          split at he
          · next hroom => exact ih (h.snoc hc hroom) he
          · exact ih h he

/-! ## The tokenizer -/

/-- The token at `p`: up to a quote if it starts with one, else up to white
space. -/
def cutToken (p : List UInt8) : List UInt8 × Option (List UInt8) :=
  if p.head? = some 0x22 then cut [0x22] p.tail else cut [0x20, 0x09] p

/-- `parse_arguments` with `*saveptr`: the token and the new `*saveptr`. A
pointer is the text from it on. -/
def parseArguments : Option (List UInt8) → Option (List UInt8) × Option (List UInt8)
  | none => (none, none)
  | some s =>
    let (token, saveptr) := cutToken (skip [0x20, 0x09] s)
    (if token ≠ [] then some token else none, saveptr)

/-- The arguments, `slots` of which are free in `args`; `none` for too many. -/
def collectArguments (saveptr : Option (List UInt8)) : Nat → Option (List (List UInt8))
  | 0 => if (parseArguments saveptr).1 = none then some [] else none
  | slots + 1 =>
    match parseArguments saveptr with
    | (none, _) => some []
    | (some lp, saveptr) => (collectArguments saveptr slots).map (lp :: ·)

/-- The command and the arguments that `shellThread` takes from a line. -/
def splitLine (line : List UInt8) : Option (List UInt8 × List (List UInt8)) :=
  match parseArguments (some line) with
  | (none, _) => none
  | (some cmd, saveptr) => (collectArguments saveptr shellMaxArguments).map (cmd, ·)

theorem cutToken_infix (p : List UInt8) :
    (cutToken p).1 <:+: p ∧ ∀ r, (cutToken p).2 = some r → r <:+: p := by
  have htail := (List.tail_suffix p).isInfix
  unfold cutToken
  split
  · exact ⟨(cut_fst_isPrefix _ _).isInfix.trans htail,
      fun r hr => (cut_snd_suffix hr).isInfix.trans htail⟩
  · exact ⟨(cut_fst_isPrefix _ _).isInfix, fun r hr => (cut_snd_suffix hr).isInfix⟩

/-- Tokens and what is left of the line are pieces of it. -/
theorem parseArguments_infix {saveptr : Option (List UInt8)} {line : List UInt8}
    (hsave : ∀ s, saveptr = some s → s <:+: line) :
    (∀ t, (parseArguments saveptr).1 = some t → t <:+: line) ∧
      ∀ r, (parseArguments saveptr).2 = some r → r <:+: line := by
  cases saveptr with
  | none => exact ⟨fun _ h => (nomatch h), fun _ h => (nomatch h)⟩
  | some s =>
    have hp : skip [0x20, 0x09] s <:+: line :=
      (skip_suffix [0x20, 0x09] s).isInfix.trans (hsave s rfl)
    obtain ⟨htoken, hrest⟩ := cutToken_infix (skip [0x20, 0x09] s)
    unfold parseArguments
    constructor
    · intro t ht
      dsimp only at ht
      split at ht
      · obtain rfl := Option.some.inj ht
        exact htoken.trans hp
      · cases ht
    · exact fun r hr => (hrest r hr).trans hp

theorem collectArguments_infix {saveptr : Option (List UInt8)} {slots : Nat}
    {args : List (List UInt8)} {line : List UInt8} (hsave : ∀ s, saveptr = some s → s <:+: line)
    (h : collectArguments saveptr slots = some args) : ∀ arg ∈ args, arg <:+: line := by
  induction slots generalizing saveptr args with
  | zero =>
    unfold collectArguments at h
    split at h
    · cases h
      simp
    · cases h
  | succ slots ih =>
    obtain ⟨htoken, hrest⟩ := parseArguments_infix hsave
    unfold collectArguments at h
    split at h
    · cases h
      simp
    · next lp saveptr' hparse =>
      rw [hparse] at htoken hrest
      obtain ⟨args', hargs, rfl⟩ := Option.map_eq_some_iff.mp h
      intro arg harg
      rcases List.mem_cons.mp harg with rfl | harg
      · exact htoken _ rfl
      · exact ih hrest hargs arg harg

theorem splitLine_infix {line cmd : List UInt8} {args : List (List UInt8)}
    (h : splitLine line = some (cmd, args)) : ∀ arg ∈ args, arg <:+: line := by
  have hline : ∀ s, some line = some s → s <:+: line := by
    rintro s ⟨⟩
    exact List.infix_refl line
  obtain ⟨-, hrest⟩ := parseArguments_infix hline
  unfold splitLine at h
  split at h
  · cases h
  · next cmd' saveptr hparse =>
    rw [hparse] at hrest
    obtain ⟨args', hargs, heq⟩ := Option.map_eq_some_iff.mp h
    cases heq
    exact collectArguments_infix hrest hargs

/-! ## `cmd_send` -/

/-- `streamMemPool`, `streamMail` and the memory from `streamPoolObject` on, in
which free objects hold their links. `copied` is history: the addresses the
last `strcpy` stored to. -/
structure Buffers where
  free : List Obj
  mail : List Obj
  ram : Nat → UInt8
  copied : List Nat

/-- The RAM of the station. -/
def ramSize : Nat := 8192

def messageAt (o : Obj) : Nat := o.val * (streamMessageSize + 1)

def sizeAt (o : Obj) : Nat := messageAt o + streamMessageSize

/-- `cmd_send`, with what it prints. -/
def cmdSend (argv : List (List UInt8)) (b : Buffers) : Buffers × String :=
  match argv with
  | [arg] =>
    match b.free with
    | o :: free =>
      let m := strcpy ⟨b.ram, []⟩ (messageAt o) arg
      let size := UInt8.ofNat (strlen m.bytes ramSize (messageAt o))
      let mail := if b.mail.length < streamTxPoolSize then b.mail ++ [o] else b.mail
      (⟨free, mail, Function.update m.bytes (sizeAt o) size, m.stored⟩, "OK" ++ "\r\n")
    | [] => (b, "\r\n")
  | _ => (b, "Usage: param missing\r\n")

/-- What the command owes the object `o` it got: the copy stays in its message,
the terminating zero included, the rest of the memory stays, and the size is
the length of the argument. -/
structure Respects (b b' : Buffers) (o : Obj) (arg : List UInt8) : Prop where
  inside : ∀ a ∈ b'.copied, messageAt o ≤ a ∧ a < messageAt o + streamMessageSize
  others : ∀ a, a < messageAt o ∨ sizeAt o < a → b'.ram a = b.ram a
  size : (b'.ram (sizeAt o)).toNat = arg.length

/-- An argument of a line that was typed has no zero in it and is shorter than
the line buffer. -/
theorem argument_isLine {keys : List UInt8} {e : Edited} {cmd : List UInt8}
    {args : List (List UInt8)} (he : shellGetLine shellMaxLineLength [] [] keys = some e)
    (hargs : splitLine e.line = some (cmd, args)) :
    ∀ arg ∈ args, IsLine shellMaxLineLength arg := by
  have hempty : IsLine shellMaxLineLength [] := ⟨by decide, by simp⟩
  have hline := shellGetLine_isLine hempty he
  intro arg harg
  have hpiece := splitLine_infix hargs arg harg
  exact ⟨Nat.lt_of_le_of_lt hpiece.length_le hline.fits,
    fun c hc => hline.printable c (hpiece.subset hc)⟩

theorem respects_cmdSend {b : Buffers} {o : Obj} {free : List Obj} {arg : List UInt8}
    (hfree : b.free = o :: free) (harg : IsLine shellMaxLineLength arg)
    (hfits : arg.length < streamMessageSize) : Respects b (cmdSend [arg] b).1 o arg := by
  have hlen : arg.length < 64 := harg.fits
  have hstrlen := strlen_strcpy ⟨b.ram, []⟩ (messageAt o) arg (n := ramSize)
    (Nat.lt_trans hlen (by decide)) harg.ne_zero
  constructor
  · intro a ha
    simp only [cmdSend, hfree, mem_stored_strcpy, List.not_mem_nil, false_or] at ha
    omega
  · intro a ha
    simp only [cmdSend, hfree]
    unfold sizeAt at ha ⊢
    rw [Function.update_of_ne (by omega), strcpy_bytes_outside _ _ _ (by omega)]
  · simp only [cmdSend, hfree, Function.update_self, hstrlen, UInt8.toNat_ofNat']
    omega

theorem fits_of_respects {b : Buffers} {o : Obj} {free : List Obj} {arg : List UInt8}
    (hfree : b.free = o :: free) (h : Respects b (cmdSend [arg] b).1 o arg) :
    arg.length < streamMessageSize := by
  have hend := h.inside (messageAt o + arg.length)
  simp only [cmdSend, hfree, mem_stored_strcpy] at hend
  have := hend (.inr ⟨Nat.le_add_right _ _, Nat.le_refl _⟩)
  omega

/-- The object at its place in memory. -/
def object (ram : Nat → UInt8) (o : Obj) : PoolStreamObject where
  message := (List.range streamMessageSize).map fun i => ram (messageAt o + i)
  size := ram (sizeAt o)
  message_length := by rw [List.length_map, List.length_range]

/-- A copy that ends inside the message, byte by byte. -/
theorem object_strcpy_message {ram : Nat → UInt8} {o : Obj} {arg : List UInt8} (size : UInt8)
    (hfits : arg.length < streamMessageSize) :
    (object (Function.update (strcpy ⟨ram, []⟩ (messageAt o) arg).bytes (sizeAt o) size) o).message =
      arg ++ [0] ++ (object ram o).message.drop (arg.length + 1) := by
  apply List.ext_getElem?
  intro i
  rcases Nat.lt_or_ge i streamMessageSize with hi | hi
  · have hread : messageAt o + i ≠ sizeAt o := by
      unfold sizeAt
      omega
    simp only [object, List.getElem?_map, List.getElem?_range hi, Option.map_some,
      Function.update_of_ne hread]
    rcases Nat.lt_trichotomy i arg.length with hlt | rfl | hgt
    · rw [List.append_assoc, List.getElem?_append_left hlt, List.getElem?_eq_getElem hlt,
        strcpy_bytes_text _ _ _ (List.getElem?_eq_getElem hlt)]
    · rw [List.append_assoc, List.getElem?_append_right (Nat.le_refl _), Nat.sub_self,
        strcpy_bytes_end]
      rfl
    · rw [strcpy_bytes_outside _ _ _ (.inr (by omega)),
        List.getElem?_append_right (by rw [List.length_append, List.length_singleton]; omega),
        List.getElem?_drop, List.length_append, List.length_singleton,
        Nat.add_sub_cancel' hgt, List.getElem?_map, List.getElem?_range hi]
      rfl
  · rw [List.getElem?_eq_none, List.getElem?_eq_none]
    · simp only [List.length_append, List.length_drop, PoolStreamObject.message_length,
        List.length_singleton]
      omega
    · rw [PoolStreamObject.message_length]
      exact hi

/-- An argument that fits is what the producers of the stream system copy. -/
theorem copyText_object {b : Buffers} {o : Obj} {free : List Obj} {arg : List UInt8}
    (hfree : b.free = o :: free) (harg : IsLine shellMaxLineLength arg)
    (hfits : arg.length < streamMessageSize) :
    Stream.copyText (object b.ram o) arg = some (object (cmdSend [arg] b).1.ram o) := by
  obtain ⟨o', hpokes, -, hmessage⟩ := (object b.ram o).pokes_inside 0 (arg ++ [0])
    (by rw [List.length_append, List.length_singleton]; omega)
  rw [List.take_zero, List.nil_append, Nat.zero_add, List.length_append,
    List.length_singleton] at hmessage
  have hstrlen : o'.strlen = strlen (strcpy ⟨b.ram, []⟩ (messageAt o) arg).bytes ramSize
      (messageAt o) := by
    rw [PoolStreamObject.strlen_eq_of_message hmessage harg.ne_zero,
      strlen_strcpy _ _ _ (Nat.lt_trans harg.fits (by decide)) harg.ne_zero]
  have hsize : (cmdSend [arg] b).1.ram (sizeAt o) = UInt8.ofNat o'.strlen := by
    simp only [cmdSend, hfree, Function.update_self, hstrlen]
  rw [Stream.copyText, hpokes]
  refine congrArg some (PoolStreamObject.eq_of_message_of_size ?_ hsize.symm)
  simp only [cmdSend, hfree]
  exact hmessage.trans (object_strcpy_message _ hfits).symm

/-- For every line that can be typed and every state of the pool: `send` with
one argument respects the buffer it gets if and only if the argument is shorter
than a message, or there is no buffer. -/
theorem cmdSend_respects_iff (b : Buffers) (keys : List UInt8) (e : Edited) (arg : List UInt8)
    (he : shellGetLine shellMaxLineLength [] [] keys = some e)
    (hargs : splitLine e.line = some ([0x73, 0x65, 0x6E, 0x64], [arg])) :
    (∀ o free, b.free = o :: free → Respects b (cmdSend [arg] b).1 o arg) ↔
      b.free = [] ∨ arg.length < streamMessageSize := by
  have harg := argument_isLine he hargs arg (List.mem_singleton_self arg)
  constructor
  · intro h
    cases hfree : b.free with
    | nil => exact .inl rfl
    | cons o free => exact .inr (fits_of_respects hfree (h o free hfree))
  · rintro (hempty | hfits) o free hfree
    · cases hempty.symm.trans hfree
    · exact respects_cmdSend hfree harg hfits

/-- The bytes of a text. -/
def typed (text : String) : List UInt8 := text.toList.map fun c => UInt8.ofNat c.toNat

/-- Object 3 is the next free one, object 4 is queued. -/
def oneQueued : Buffers := ⟨[3, 2, 1, 0], [4], fun _ => 0, []⟩

theorem cmdSend_respects_iff_quoted :
    shellGetLine shellMaxLineLength [] [] (typed "sent\x08d \"light rain\"\r") =
      some ⟨typed "send \"light rain\"", typed "sent\x08 \x08d \"light rain\"\r\n", []⟩ ∧
    splitLine (typed "send \"light rain\"") =
      some ([0x73, 0x65, 0x6E, 0x64], [typed "light rain"]) ∧
    ∀ o free, oneQueued.free = o :: free →
      Respects oneQueued (cmdSend [typed "light rain"] oneQueued).1 o (typed "light rain") :=
  ⟨by decide +kernel, by decide +kernel,
    (cmdSend_respects_iff oneQueued (typed "sent\x08d \"light rain\"\r")
      ⟨typed "send \"light rain\"", typed "sent\x08 \x08d \"light rain\"\r\n", []⟩
      (typed "light rain") (by decide +kernel) (by decide +kernel)).mpr (.inr (by decide +kernel))⟩

/-- An argument of 30 characters reaches into the message that is queued. -/
theorem long_send_overwrites_queued :
    shellGetLine shellMaxLineLength [] [] (typed "send abcdefghijklmnopqrstuvwxyz0123\r") =
      some ⟨typed "send abcdefghijklmnopqrstuvwxyz0123",
        typed "send abcdefghijklmnopqrstuvwxyz0123\r\n", []⟩ ∧
    splitLine (typed "send abcdefghijklmnopqrstuvwxyz0123") =
      some ([0x73, 0x65, 0x6E, 0x64], [typed "abcdefghijklmnopqrstuvwxyz0123"]) ∧
    (object (cmdSend [typed "abcdefghijklmnopqrstuvwxyz0123"] oneQueued).1.ram 4).message.take 6 =
      typed "yz0123" ∧
    ¬ Respects oneQueued (cmdSend [typed "abcdefghijklmnopqrstuvwxyz0123"] oneQueued).1 3
      (typed "abcdefghijklmnopqrstuvwxyz0123") := by
  refine ⟨by decide +kernel, by decide +kernel, by decide +kernel, ?_⟩
  intro h
  exact absurd (fits_of_respects rfl h) (by decide +kernel)

end MeteoL053.Shell
