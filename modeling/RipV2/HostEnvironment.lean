import Mathlib.Data.Stream.Defs
import RipV2.EffectLogic
import RipV2.Packets

/-!
The operating system around the daemon. What it is going to answer is part of
the state and arbitrary; every datagram it has taken in full is recorded.
-/

namespace RipV2.HostEnvironment

open RipV2.ByteOrder
open RipV2.EffectLogic
open RipV2.Packets

/-- Nanoseconds on the monotonic clock. -/
abbrev Instant := Nat

/-- Nanoseconds. -/
abbrev Duration := Nat

/-- Durations are counted in nanoseconds. -/
def durationFromSecs (secs : UInt64) : Duration := secs.toNat * 1000000000

def durationFromMillis (millis : UInt64) : Duration := millis.toNat * 1000000

/-- A datagram handed to a socket bound to the device `ifName`. -/
structure Transmission where
  ifName : String
  ifIndex : UInt32
  target : SocketAddrV4
  payload : List UInt8
deriving DecidableEq, Repr

/-- The answers to come: clock readings, results of opening a socket, results
of sending a datagram of a given length, and lookups that do not change. -/
structure Answers where
  endian : Endian
  environ : String → Option String
  instants : Stream' Instant
  subsecNanos : Stream' UInt64
  socketResults : Stream' (Except String Unit)
  sendResults : Stream' (Nat → Except String Nat)
  ifNametoindex : List UInt8 → UInt32
  lastOsError : String

/-- The operating system: the answers it still has to give, and the datagrams it has sent. -/
structure Host where
  answers : Answers
  sent : List Transmission

/-- The host has other answers ready, and still has sent what it has. -/
def Host.renew (answers : Answers) (host : Host) : Host :=
  { host with answers }

/-- Every socket opens and every datagram is taken in full. -/
def Answers.Reliable (answers : Answers) : Prop :=
  (∀ n, answers.socketResults n = .ok ()) ∧
    ∀ n length, answers.sendResults n length = .ok length

/-- Time has passed: more may have been sent, and what worked still works. -/
structure Host.Moved (host host' : Host) : Prop where
  sent : ∃ sent, host'.sent = host.sent ++ sent
  reliable : host.answers.Reliable → host'.answers.Reliable

/-- A little-endian machine with these interfaces on which the clock stands at
`now`, no setting is made and everything works. -/
def Answers.steady (now : Instant) (ifNames : List String) : Answers where
  endian := .little
  environ _ := none
  instants _ := now
  subsecNanos _ := 0
  socketResults _ := .ok ()
  sendResults _ length := .ok length
  ifNametoindex name :=
    match ifNames.findIdx? fun ifName => ifName.toUTF8.data.toList == name with
    | some i => UInt32.ofNat (i + 1)
    | none => 0
  lastOsError := "No such device (os error 19)"

theorem Answers.steady_reliable (now : Instant) (ifNames : List String) :
    (Answers.steady now ifNames).Reliable :=
  ⟨fun _ => rfl, fun _ _ => rfl⟩

/-- Something asked of the host, which may fail. -/
abbrev HostM (ε α : Type) := EStateM ε Host α

variable {ε : Type}

/-- `std::time::Instant::now` -/
def instantNow : HostM ε Instant := fun host =>
  .ok host.answers.instants.head
    { host with answers := { host.answers with instants := host.answers.instants.tail } }

@[simp] theorem run_instantNow (host : Host) :
    (instantNow : HostM ε Instant).run host = .ok host.answers.instants.head
      { host with answers := { host.answers with instants := host.answers.instants.tail } } :=
  rfl

/-- The clock's fraction of a second, from which the source draws its random numbers. -/
def systemSubsecNanos : HostM ε UInt64 := fun host =>
  .ok host.answers.subsecNanos.head
    { host with answers := { host.answers with subsecNanos := host.answers.subsecNanos.tail } }

/-- Whether a socket opens is for the host to say. -/
def openSocket : HostM String Unit := fun host =>
  let host' :=
    { host with answers := { host.answers with socketResults := host.answers.socketResults.tail } }
  match host.answers.socketResults.head with
  | .ok () => .ok () host'
  | .error e => .error e host'

/-- `send_to`, with the callers' check that the whole buffer was taken. -/
def sendTo (shortSendMessage : String) (transmission : Transmission) : HostM String Unit :=
  fun host =>
    let host' :=
      { host with answers := { host.answers with sendResults := host.answers.sendResults.tail } }
    match host.answers.sendResults.head transmission.payload.length with
    | .error e => .error e host'
    | .ok sentn =>
        if sentn ≠ transmission.payload.length then .error shortSendMessage host'
        else .ok () { host' with sent := host.sent ++ [transmission] }

/-- `str::parse::<u64>`: an optional plus sign, then decimal digits without overflow. -/
def parseU64 (text : String) : Option UInt64 :=
  let digits := if text.toList.head? = some '+' then text.toList.tail else text.toList
  if digits.isEmpty || !digits.all Char.isDigit then none
  else
    let n := digits.foldl (fun acc c => acc * 10 + (c.toNat - '0'.toNat)) 0
    if n < 2 ^ 64 then some (UInt64.ofNat n) else none

/-- A variable that is missing or no number gives way to the default. -/
def Answers.envU64OrDefault (answers : Answers) (name : String) (default : UInt64) : UInt64 :=
  ((answers.environ name).bind parseU64).getD default

/-- The remainder of the clock's reading, shifted to the range. -/
def randomMillisInRange (minMillis maxMillis : UInt64) : HostM ε UInt64 := do
  let rangeLen := maxMillis - minMillis + 1
  let randomSeed ← systemSubsecNanos
  return minMillis + randomSeed % rangeLen

/-- The duration drawn from a range of milliseconds. -/
def Host.drawnMillis (minMillis maxMillis : UInt64) (host : Host) : Duration :=
  durationFromMillis
    (minMillis + host.answers.subsecNanos.head % (maxMillis - minMillis + 1))

/-- The host after a draw. -/
def Host.drawn (host : Host) : Host :=
  { host with answers := { host.answers with subsecNanos := host.answers.subsecNanos.tail } }

@[simp] theorem Host.drawn_sent (host : Host) : host.drawn.sent = host.sent := rfl

theorem run_randomMillisInRange (minMillis maxMillis : UInt64) (host : Host) :
    (do return durationFromMillis (← randomMillisInRange minMillis maxMillis) :
      HostM ε Duration).run host = .ok (host.drawnMillis minMillis maxMillis) host.drawn := rfl

def ifnamsiz : Nat := 16

/-- The buffer holds the name's bytes over zeros; libc reads it up to the first zero. -/
def Answers.ifcNametoindex (answers : Answers) (ifName : String) : Except String UInt32 :=
  let bytes := ifName.toUTF8.data.toList
  if bytes.length ≥ ifnamsiz - 1 then
    .error ("invalid interface name: " ++ ifName)
  else
    let buffer := bytes.take ifnamsiz ++ (List.replicate ifnamsiz 0).drop bytes.length
    let ifIndex := answers.ifNametoindex (buffer.takeWhile (· != 0))
    if ifIndex = 0 then .error answers.lastOsError else .ok ifIndex

theorem moved_instantNow (host : Host) :
    host.Moved (finalState ((instantNow : HostM ε Instant).run host)) :=
  ⟨⟨[], by simp⟩, id⟩

theorem moved_drawn (host : Host) : host.Moved host.drawn :=
  ⟨⟨[], by simp⟩, id⟩

/-- On a machine of this byte order the computation sends these datagrams one
after the other; a failure may cut the list short, and where everything works
there is none. -/
def Sends (endian : Endian) (full : List Transmission) (m : HostM ε Unit) : Prop :=
  ∀ host, host.answers.endian = endian → ∃ sent, sent <+: full ∧
    (finalState (m.run host)).sent = host.sent ++ sent ∧
    (finalState (m.run host)).answers.endian = endian ∧
    (succeeded (m.run host) = true → sent = full) ∧
    (host.answers.Reliable →
      succeeded (m.run host) = true ∧ (finalState (m.run host)).answers.Reliable)

theorem Sends.moved {full : Endian → List Transmission} {m : HostM ε Unit}
    (h : ∀ endian, Sends endian (full endian) m) (host : Host) :
    host.Moved (finalState (m.run host)) := by
  obtain ⟨sent, -, hsent, -, -, hreliable⟩ := h host.answers.endian host rfl
  exact ⟨⟨sent, hsent⟩, fun hworks => (hreliable hworks).2⟩

theorem sends_pure (endian : Endian) : Sends endian [] (pure () : HostM ε Unit) :=
  fun host hendian => ⟨[], List.prefix_refl _, by simp, hendian, fun _ => rfl,
    fun hreliable => ⟨rfl, hreliable⟩⟩

theorem sends_openSocket (endian : Endian) : Sends endian [] openSocket := by
  intro host hendian
  refine ⟨[], List.prefix_refl _, ?_, ?_, fun _ => rfl, fun hreliable => ?_⟩
  · simp only [openSocket, EStateM.run]
    cases host.answers.socketResults.head <;> simp
  · simp only [openSocket, EStateM.run]
    cases host.answers.socketResults.head <;> exact hendian
  · have hhead : host.answers.socketResults.head = .ok () := hreliable.1 0
    simp only [openSocket, EStateM.run, hhead]
    exact ⟨rfl, fun n => hreliable.1 (n + 1), hreliable.2⟩

theorem sends_sendTo (endian : Endian) (message : String) (transmission : Transmission) :
    Sends endian [transmission] (sendTo message transmission) := by
  intro host hendian
  simp only [sendTo, EStateM.run]
  cases hresult : host.answers.sendResults.head transmission.payload.length with
  | error e =>
      refine ⟨[], List.nil_prefix, by simp, hendian, by simp, fun hreliable => ?_⟩
      exact absurd (hresult.symm.trans (hreliable.2 0 _)) (by simp)
  | ok sentn =>
      by_cases hfull : sentn = transmission.payload.length
      · simp only [hfull, ne_eq, not_true_eq_false, if_false]
        exact ⟨[transmission], List.prefix_refl _, rfl, hendian, fun _ => rfl,
          fun hreliable => ⟨rfl, hreliable.1, fun n => hreliable.2 (n + 1)⟩⟩
      · simp only [hfull, ne_eq, not_false_eq_true, if_true]
        refine ⟨[], List.nil_prefix, by simp, hendian, by simp, fun hreliable => ?_⟩
        exact absurd (Except.ok.inj (hresult.symm.trans (hreliable.2 0 _))) hfull

theorem sends_bind {endian : Endian} {full full' : List Transmission} {x : HostM ε Unit}
    {f : Unit → HostM ε Unit} (hx : Sends endian full x) (hf : Sends endian full' (f ())) :
    Sends endian (full ++ full') (x >>= f) := by
  intro host hendian
  obtain ⟨sent, hprefix, hsent, hendian₁, hall, hreliable⟩ := hx host hendian
  rw [EStateM.run_bind]
  cases hrun : x.run host with
  | error e host₁ =>
      rw [hrun] at hsent hendian₁ hreliable
      refine ⟨sent, hprefix.trans (List.prefix_append _ _), hsent, hendian₁, by simp,
        fun hworks => ?_⟩
      exact absurd (hreliable hworks).1 (by simp)
  | ok a host₁ =>
      rw [hrun] at hsent hendian₁ hall hreliable
      obtain rfl := hall rfl
      obtain ⟨sent', hprefix', hsent', hendian', hall', hreliable'⟩ := hf host₁ hendian₁
      refine ⟨sent ++ sent', List.prefix_append_right_inj _ |>.mpr hprefix', ?_, hendian',
        fun hsucceeded => by rw [hall' hsucceeded], fun hworks => ?_⟩
      · rw [hsent', ← List.append_assoc, ← hsent, finalState_ok]
      · exact hreliable' (hreliable hworks).2

theorem sends_forM {α : Type} {endian : Endian} {full : α → List Transmission}
    {f : α → HostM ε PUnit} {as : List α} (hf : ∀ a ∈ as, Sends endian (full a) (f a)) :
    Sends endian (as.flatMap full) (as.forM f) := by
  induction as with
  | nil => exact sends_pure endian
  | cons a as ih =>
      simp only [List.forM_eq_forM, List.forM_cons, List.flatMap_cons]
      exact sends_bind (hf a (by simp)) (ih fun b hb => hf b (by simp [hb]))

theorem sends_endian {endian : Endian} {full : List Transmission} {f : Endian → HostM ε Unit}
    (hf : Sends endian full (f endian)) :
    Sends endian full (do f (← get).answers.endian) := by
  rintro host rfl
  exact hf host rfl

end RipV2.HostEnvironment
