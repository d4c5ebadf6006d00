import Mathlib.Data.BitVec

/-! `RedirectUdpSocket`: a guest UDP flow redirected to a connected host socket. Its
callbacks, the readable event on the host socket and the retry timer `StartReading` arms when
the packet pool is empty, run on the I/O reactor one at a time, so a history is a list of
events.
-/

namespace MVisor.Uip

/-- A redirect rule of the backend, as far as `InitializeRedirect` reads it. -/
structure RedirectRule where
  protocol : Nat
  matchIp : BitVec 32
  matchPort : BitVec 16
  targetIp : BitVec 32
  targetPort : BitVec 16
  deriving DecidableEq, Repr

/-- Whether `InitializeRedirect`'s loop stops at `rule` for a flow to `dip:dport`: a rule for
any protocol (0) or UDP (0x11) that matches the destination.
-/
def RedirectRule.matches (rule : RedirectRule) (dip : BitVec 32) (dport : BitVec 16) : Bool :=
  (rule.protocol == 0 || rule.protocol == 0x11) && rule.matchIp == dip && rule.matchPort == dport

/-- The address `InitializeRedirect` connects to: the target of the first matching rule, or the
flow's own destination.
-/
def redirectTarget (rules : List RedirectRule) (dip : BitVec 32) (dport : BitVec 16)
    : BitVec 32 × BitVec 16 :=
  match rules.find? (·.matches dip dport) with
  | some rule => (rule.targetIp, rule.targetPort)
  | none => (dip, dport)

@[simp] theorem RedirectRule.matches_iff (rule : RedirectRule) (dip : BitVec 32) (dport : BitVec 16)
    : rule.matches dip dport = true
      ↔ (rule.protocol = 0 ∨ rule.protocol = 0x11) ∧ rule.matchIp = dip ∧ rule.matchPort = dport := by
  simp [RedirectRule.matches, and_assoc]

/-- A matching rule after rules that do not match gives the target, whatever follows it. -/
theorem redirectTarget_first_match {pre post : List RedirectRule} {rule : RedirectRule}
    {dip : BitVec 32} {dport : BitVec 16} (first : rule.matches dip dport = true)
    (skipped : ∀ r ∈ pre, r.matches dip dport = false)
    : redirectTarget (pre ++ rule :: post) dip dport = (rule.targetIp, rule.targetPort) := by
  have none : pre.find? (·.matches dip dport) = none := List.find?_eq_none.mpr fun r mem => by
    simp only [skipped r mem, Bool.false_eq_true, not_false_eq_true]
  simp only [redirectTarget, List.find?_append, none,
    @List.find?_cons_of_pos _ (·.matches dip dport) rule post first, Option.none_or]

theorem redirectTarget_no_match {rules : List RedirectRule} {dip : BitVec 32} {dport : BitVec 16}
    (skipped : ∀ r ∈ rules, r.matches dip dport = false)
    : redirectTarget rules dip dport = (dip, dport) := by
  have none : rules.find? (·.matches dip dport) = none := List.find?_eq_none.mpr fun r mem => by
    simp only [skipped r mem, Bool.false_eq_true, not_false_eq_true]
  simp only [redirectTarget, none]

/-- Only rules for any protocol or UDP take part in the search. -/
theorem redirectTarget_udp_rules (rules : List RedirectRule) (dip : BitVec 32) (dport : BitVec 16)
    : redirectTarget (rules.filter fun r => r.protocol == 0 || r.protocol == 0x11) dip dport
      = redirectTarget rules dip dport := by
  have same : (fun r : RedirectRule => decide
      ((r.protocol == 0 || r.protocol == 0x11) = true ∧ r.matches dip dport = true))
      = (·.matches dip dport) := by
    funext r
    by_cases m : r.matches dip dport = true
    · simp [m, ((RedirectRule.matches_iff _ _ _).mp m).1]
    · simp [m]
  simp only [redirectTarget, List.find?_filter, same]

/-- A UDP payload. -/
abbrev Datagram := List (BitVec 8)

/-- What the socket's callbacks read and write: `fd_` (-1 once closed), whether `fd_` is
polled, `wait_timer_`, `active_time_`, the datagrams queued on the host socket, and the retry
timers the reactor holds for this socket, by the reactor's timer ids; and, recorded by the
model, the address connected to, the payloads passed to `OnDataFromHost` and sent to the host,
and whether the destructor has run. `maxPayload` is `UIP_MAX_UDP_PAYLOAD` of a packet.
-/
structure RedirectUdpSocket where
  dip : BitVec 32
  dport : BitVec 16
  maxPayload : Nat
  fd : Int
  polling : Bool
  waitTimer : Option Nat
  activeTime : Int
  inbox : List Datagram
  timers : List Nat
  nextTimer : Nat
  destination : Option (BitVec 32 × BitVec 16)
  delivered : List Datagram
  sent : List Datagram
  destroyed : Bool

namespace RedirectUdpSocket

/-- A socket for a flow to `dip:dport` before `InitializeRedirect`: no descriptor, no timer. The
constructor is not in the repository.
-/
def create (dip : BitVec 32) (dport : BitVec 16) (maxPayload : Nat) (now : Int)
    : RedirectUdpSocket where
  dip := dip
  dport := dport
  maxPayload := maxPayload
  fd := -1
  polling := false
  waitTimer := none
  activeTime := now
  inbox := []
  timers := []
  nextTimer := 0
  destination := none
  delivered := []
  sent := []
  destroyed := false

/-- `InitializeRedirect`: `socketFd` is what `socket` returns and `connectOk` whether `connect`
succeeded; a failed connect closes the descriptor, a successful one starts edge-triggered
polling for input.
-/
def initializeRedirect (s : RedirectUdpSocket) (rules : List RedirectRule) (socketFd : Int)
    (connectOk : Bool) : Except String RedirectUdpSocket :=
  if ¬ socketFd ≥ 0 then throw "fd_ >= 0"
  else
    let s := { s with fd := socketFd, destination := some (redirectTarget rules s.dip s.dport) }
    if connectOk then pure { s with polling := true } else pure { s with fd := -1 }

/-- What `InitializeRedirect` did when it returned. -/
theorem initializeRedirect_ok {s s' : RedirectUdpSocket} {rules : List RedirectRule}
    {socketFd : Int} {connectOk : Bool}
    (h : s.initializeRedirect rules socketFd connectOk = .ok s')
    : socketFd ≥ 0 ∧ s' = { s with
        fd := if connectOk then socketFd else -1, polling := s.polling || connectOk
        destination := some (redirectTarget rules s.dip s.dport) } := by
  unfold initializeRedirect at h
  split_ifs at h with fd <;> cases h <;> exact ⟨fd, by simp [*]⟩

/-- `InitializeRedirect` connects to the target of the first rule, in list order, for any
protocol or UDP whose address and port are the flow's destination, and to the destination itself
when no rule matches; rules for other protocols take no part. Witness: the rule loop breaks at
the first match, and its protocol test comes before the address test.
-/
theorem redirect_connects_first_match {s s' : RedirectUdpSocket} {rules : List RedirectRule}
    {socketFd : Int} {connectOk : Bool}
    (h : s.initializeRedirect rules socketFd connectOk = .ok s')
    : (∀ pre rule post, rules = pre ++ rule :: post
        → (rule.protocol = 0 ∨ rule.protocol = 0x11) ∧ rule.matchIp = s.dip
          ∧ rule.matchPort = s.dport
        → (∀ r ∈ pre, ¬ ((r.protocol = 0 ∨ r.protocol = 0x11) ∧ r.matchIp = s.dip
          ∧ r.matchPort = s.dport))
        → s'.destination = some (rule.targetIp, rule.targetPort))
      ∧ ((∀ r ∈ rules, ¬ ((r.protocol = 0 ∨ r.protocol = 0x11) ∧ r.matchIp = s.dip
          ∧ r.matchPort = s.dport))
        → s'.destination = some (s.dip, s.dport))
      ∧ s.initializeRedirect (rules.filter fun r => r.protocol == 0 || r.protocol == 0x11)
          socketFd connectOk = .ok s' := by
  have filtered : s.initializeRedirect (rules.filter fun r => r.protocol == 0 || r.protocol == 0x11)
      socketFd connectOk = .ok s' := by
    rw [← h]
    simp only [initializeRedirect, redirectTarget_udp_rules]
  obtain ⟨-, rfl⟩ := initializeRedirect_ok h
  refine ⟨fun pre rule post split first skipped => ?_, fun skipped => ?_, filtered⟩
  · rw [split, redirectTarget_first_match ((RedirectRule.matches_iff _ _ _).mpr first)
      fun r mem => Bool.eq_false_iff.mpr fun m => skipped r mem ((RedirectRule.matches_iff _ _ _).mp m)]
  · rw [redirectTarget_no_match
      fun r mem => Bool.eq_false_iff.mpr fun m => skipped r mem ((RedirectRule.matches_iff _ _ _).mp m)]

/-- Rules for the DNS flow to 10.0.2.3:53: one for TCP, then one for UDP, then one for any
protocol.
-/
def dnsRules : List RedirectRule :=
  [⟨6, 0x0a000203, 53, 0x01010101, 53⟩, ⟨0x11, 0x0a000203, 53, 0x08080808, 53⟩,
    ⟨0, 0x0a000203, 53, 0x09090909, 53⟩]

/-- The DNS flow under `dnsRules` is connected to the UDP rule's target, 8.8.8.8:53. -/
theorem dns_flow_takes_udp_rule
    : ∃ s', (create 0x0a000203 53 1472 0).initializeRedirect dnsRules 5 true = .ok s'
      ∧ s'.destination = some (0x08080808, 53)
      ∧ (create 0x0a000203 53 1472 0).initializeRedirect
          (dnsRules.filter fun r => r.protocol == 0 || r.protocol == 0x11) 5 true = .ok s' := by
  obtain ⟨first, -, filtered⟩ :=
    @redirect_connects_first_match (create 0x0a000203 53 1472 0) _ dnsRules 5 true (by rfl)
  exact ⟨_, rfl, first [dnsRules[0]] dnsRules[1] [dnsRules[2]] rfl (by decide) (by decide),
    filtered⟩

/-- `active()`: the flow has not been idle for `timeoutSeconds` (`REDIRECT_TIMEOUT_SECONDS`)
and the socket is open.
-/
def active (s : RedirectUdpSocket) (now : Int) (timeoutSeconds : Int) : Bool :=
  if now - s.activeTime ≥ timeoutSeconds then false
  else if s.fd = -1 then false
  else true

/-- `io_->AddTimer(10, false, ...)`: a one-shot retry timer under the reactor's next id, which
`wait_timer_` now names.
-/
def addWaitTimer (s : RedirectUdpSocket) : RedirectUdpSocket :=
  { s with
    waitTimer := some s.nextTimer, timers := s.timers ++ [s.nextTimer]
    nextTimer := s.nextTimer + 1 }

/-- `OnDataFromHost` of a packet holding `datagram`, received into `UIP_MAX_UDP_PAYLOAD` bytes
(a longer datagram is truncated); `active_time_` is refreshed.
-/
def onDataFromHost (s : RedirectUdpSocket) (datagram : Datagram) (now : Int)
    : RedirectUdpSocket :=
  { s with delivered := s.delivered ++ [datagram.take s.maxPayload], activeTime := now }

/-- The loop of `StartReading` with `inbox` queued on the host socket, from its `k`-th
iteration: `allocOk k` is the outcome of its `AllocatePacket` and `recvError k` whether its
`recv` meets a pending socket error (an ICMP port unreachable, reported as `ECONNREFUSED` on a
connected UDP socket), which fails it although datagrams are queued. An empty pool arms a
retry timer and returns; a failed `recv`, on an empty socket or on a pending error, releases
the packet and returns; each datagram read goes to the guest.
-/
def readLoop (allocOk recvError : Nat → Bool) (now : Int)
    : Nat → RedirectUdpSocket → List Datagram → RedirectUdpSocket
  | k, s, [] =>
    if s.fd = -1 then { s with inbox := [] }
    else if !allocOk k then { s.addWaitTimer with inbox := [] }
    else { s with inbox := [] }
  | k, s, datagram :: rest =>
    if s.fd = -1 then { s with inbox := datagram :: rest }
    else if !allocOk k then { s.addWaitTimer with inbox := datagram :: rest }
    else if recvError k then { s with inbox := datagram :: rest }
    else readLoop allocOk recvError now (k + 1) (s.onDataFromHost datagram now) rest

/-- `StartReading`. -/
def startReading (s : RedirectUdpSocket) (allocOk recvError : Nat → Bool) (now : Int)
    : RedirectUdpSocket :=
  readLoop allocOk recvError now 0 s s.inbox

/-- The retry timer `timer` expiring: the reactor drops it, the callback clears `wait_timer_`
and calls `StartReading`.
-/
def fireWaitTimer (s : RedirectUdpSocket) (timer : Nat) (allocOk recvError : Nat → Bool)
    (now : Int) : RedirectUdpSocket :=
  { s with timers := s.timers.erase timer, waitTimer := none }.startReading allocOk recvError now

/-- `~RedirectUdpSocket`: polling stops and the descriptor is closed, and the timer
`wait_timer_` names is removed from the reactor.
-/
def destroy (s : RedirectUdpSocket) : RedirectUdpSocket :=
  let s := if s.fd ≠ -1 then { s with polling := false, fd := -1 } else s
  let s := match s.waitTimer with
    | some timer => { s with timers := s.timers.erase timer }
    | none => s
  { s with destroyed := true }

/-- `OnPacketFromGuest` of a packet holding `data`; `result` is what `send` returns. -/
def onPacketFromGuest (s : RedirectUdpSocket) (data : Datagram) (result : Int) (now : Int)
    : Except String RedirectUdpSocket :=
  if s.fd = -1 then pure s
  else if result < 0 then pure s
  else if result ≠ data.length then throw "ret == (int)packet->data_length"
  else pure { s with sent := s.sent ++ [data], activeTime := now }

end RedirectUdpSocket

/-- What happens to a redirected socket on the reactor: a datagram reaching the host socket,
which raises a readable edge; a retry timer expiring; a packet from the guest; the destructor.
`allocOk` gives the outcomes of the callback's `AllocatePacket` calls, in order, and
`recvError` which of its `recv` calls meet a pending socket error.
-/
inductive UdpEvent where
  | arrive (datagram : Datagram) (allocOk recvError : Nat → Bool) (now : Int)
  | fire (timer : Nat) (allocOk recvError : Nat → Bool) (now : Int)
  | fromGuest (data : Datagram) (result : Int) (now : Int)
  | destroy

namespace RedirectUdpSocket

/-- One event. A datagram raises a readable edge only while the descriptor is polled; a timer
fires only while the reactor holds it, whether or not the socket still exists; nothing reaches
a destroyed socket but its timers; a panic has no next state.
-/
def step (s : RedirectUdpSocket) : UdpEvent → Option RedirectUdpSocket
  | .arrive datagram allocOk recvError now =>
    if s.polling then
      some ({ s with inbox := s.inbox ++ [datagram] }.startReading allocOk recvError now)
    else none
  | .fire timer allocOk recvError now =>
    if timer ∈ s.timers then some (s.fireWaitTimer timer allocOk recvError now) else none
  | .fromGuest data result now =>
    if s.destroyed then none else (s.onPacketFromGuest data result now).toOption
  | .destroy => if s.destroyed then none else some s.destroy

/-- A history of events, stopping at the first that cannot happen. -/
def run (s : RedirectUdpSocket) : List UdpEvent → Option RedirectUdpSocket
  | [] => some s
  | event :: rest => (s.step event).bind (·.run rest)

theorem run_cons_some {s final : RedirectUdpSocket} {event : UdpEvent} {rest : List UdpEvent}
    (h : s.run (event :: rest) = some final)
    : ∃ next, s.step event = some next ∧ next.run rest = some final :=
  Option.bind_eq_some.mp h

end RedirectUdpSocket

end MVisor.Uip
