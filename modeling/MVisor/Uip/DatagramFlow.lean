import MVisor.Uip.RedirectUdpRuns
import MVisor.Panic

/-! The datagrams of a redirected UDP socket over any history of events. Each datagram the host
socket receives is passed to the guest once and in arrival order, cut to
`UIP_MAX_UDP_PAYLOAD`, or is still queued behind those passed; while the socket is open, a
queued datagram always has a retry timer pending, so the edge-triggered reader never strands
it, unless a `recv` met a pending socket error: `StartReading` then returns with datagrams
queued and no timer armed. Each guest packet `send` accepts is sent once and in order.
`active_time_`, which the idle timeout reads, is the clock of the last event that moved a
datagram either way. `recv` fails on an empty socket and on a pending socket error.
-/

namespace MVisor.Uip

namespace UdpEvent

/-- The datagram an event brings to the host socket. -/
def arrived : UdpEvent → Option Datagram
  | .arrive datagram _ _ _ => some datagram
  | _ => none

/-- The guest packet an event hands to `send`, when `send` does not fail. -/
def accepted : UdpEvent → Option Datagram
  | .fromGuest data result _ => if result < 0 then none else some data
  | _ => none

/-- The clock an event's callback reads with `time(nullptr)`. -/
def clock : UdpEvent → Option Int
  | .arrive _ _ _ now | .fire _ _ _ now | .fromGuest _ _ now => some now
  | .destroy => none

/-- Whether no `recv` of the event's read loop meets a pending socket error. -/
def recvClean : UdpEvent → Prop
  | .arrive _ _ recvError _ | .fire _ _ recvError _ => ∀ k, recvError k = false
  | .fromGuest .. | .destroy => True

end UdpEvent

namespace RedirectUdpSocket

/-- What the socket has taken from the host: the datagrams passed to the guest, then those
still queued, cut as `recv` will cut them.
-/
def received (s : RedirectUdpSocket) : List Datagram :=
  s.delivered ++ s.inbox.map (·.take s.maxPayload)

-----------------------------------------------------------------------------------------------
-- The read loop

/-- The read loop changes neither the descriptor, nor `destroyed`, nor what was sent, nor the
payload size.
-/
theorem readLoop_frame {allocOk recvError : Nat → Bool} {now : Int} {k : Nat}
    {s : RedirectUdpSocket} {inbox : List Datagram}
    : (readLoop allocOk recvError now k s inbox).fd = s.fd
      ∧ (readLoop allocOk recvError now k s inbox).destroyed = s.destroyed
      ∧ (readLoop allocOk recvError now k s inbox).sent = s.sent
      ∧ (readLoop allocOk recvError now k s inbox).maxPayload = s.maxPayload := by
  induction inbox generalizing k s with
  | nil => unfold readLoop; split_ifs <;> simp [addWaitTimer]
  | cons datagram rest ih =>
    unfold readLoop
    split_ifs
    · simp
    · simp [addWaitTimer]
    · simp
    · simpa [onDataFromHost] using ih

/-- The read loop passes datagrams from the front of the queue it is given to the guest, and
leaves the rest queued.
-/
theorem readLoop_received {allocOk recvError : Nat → Bool} {now : Int} {k : Nat}
    {s : RedirectUdpSocket} {inbox : List Datagram}
    : (readLoop allocOk recvError now k s inbox).received
      = s.delivered ++ inbox.map (·.take s.maxPayload) := by
  induction inbox generalizing k s with
  | nil => unfold readLoop; split_ifs <;> simp [received, addWaitTimer]
  | cons datagram rest ih =>
    unfold readLoop
    split_ifs
    · simp [received]
    · simp [received, addWaitTimer]
    · simp [received]
    · simp [ih, onDataFromHost]

/-- When no `recv` meets a pending socket error, the read loop returns with the socket closed,
the queue empty, or a retry timer armed.
-/
theorem readLoop_stops {allocOk recvError : Nat → Bool} {now : Int} {k : Nat}
    {s : RedirectUdpSocket} {inbox : List Datagram} (clean : ∀ k, recvError k = false)
    : (readLoop allocOk recvError now k s inbox).fd = -1
      ∨ (readLoop allocOk recvError now k s inbox).inbox = []
      ∨ (readLoop allocOk recvError now k s inbox).waitTimer.isSome := by
  induction inbox generalizing k s with
  | nil =>
    unfold readLoop
    split_ifs with closed
    · exact .inl closed
    · exact .inr (.inl rfl)
    · exact .inr (.inl rfl)
  | cons datagram rest ih =>
    unfold readLoop
    split_ifs with closed empty failed
    · exact .inl closed
    · exact .inr (.inr rfl)
    · exact absurd failed (by simp [clean])
    · exact ih

/-- The destructor closes the descriptor and marks the socket destroyed, and leaves the
datagrams passed, queued and sent as they were.
-/
theorem destroy_frame (s : RedirectUdpSocket)
    : s.destroy.fd = -1 ∧ s.destroy.destroyed = true ∧ s.destroy.delivered = s.delivered
      ∧ s.destroy.inbox = s.inbox ∧ s.destroy.sent = s.sent
      ∧ s.destroy.maxPayload = s.maxPayload ∧ s.destroy.activeTime = s.activeTime := by
  dsimp only [RedirectUdpSocket.destroy]
  split_ifs with opened <;> split
  all_goals exact ⟨by simp_all, rfl, rfl, rfl, rfl, rfl, rfl⟩

-----------------------------------------------------------------------------------------------
-- Each event

/-- What `OnPacketFromGuest` can do and return: nothing on a closed socket or a failed `send`,
and otherwise record the packet sent.
-/
theorem onPacketFromGuest_ok {s s' : RedirectUdpSocket} {data : Datagram} {result now : Int}
    (h : s.onPacketFromGuest data result now = .ok s')
    : (s' = s ∧ (s.fd = -1 ∨ result < 0))
      ∨ (s.fd ≠ -1 ∧ 0 ≤ result ∧ s' = { s with sent := s.sent ++ [data], activeTime := now }) := by
  unfold onPacketFromGuest at h
  split_ifs at h with closed negative <;> cases h
  · exact .inl ⟨rfl, .inl closed⟩
  · exact .inl ⟨rfl, .inr negative⟩
  · exact .inr ⟨closed, by omega, rfl⟩

/-- What a step can be: the read loop, after a datagram arrives or a retry timer fires, over
the socket with the datagram queued and with the event's `recv` outcomes; a guest packet; or
the destructor.
-/
theorem step_cases {s s' : RedirectUdpSocket} {event : UdpEvent} (h : s.step event = some s')
    : (∃ allocOk recvError now, ∃ t : RedirectUdpSocket,
        s' = readLoop allocOk recvError now 0 t t.inbox
        ∧ t.fd = s.fd ∧ t.destroyed = s.destroyed ∧ t.sent = s.sent
        ∧ t.maxPayload = s.maxPayload ∧ t.delivered = s.delivered
        ∧ t.inbox = s.inbox ++ event.arrived.toList ∧ event.accepted = none
        ∧ t.activeTime = s.activeTime ∧ event.clock = some now
        ∧ (event.recvClean → ∀ k, recvError k = false))
      ∨ (∃ data result now, event = .fromGuest data result now ∧ s.destroyed = false
          ∧ s.onPacketFromGuest data result now = .ok s')
      ∨ (event = .destroy ∧ s.destroyed = false ∧ s' = s.destroy) := by
  cases event with
  | arrive datagram allocOk recvError now =>
    simp only [step, Option.ite_none_right_eq_some, Option.some.injEq] at h
    obtain ⟨-, rfl⟩ := h
    exact .inl ⟨allocOk, recvError, now, _, rfl, rfl, rfl, rfl, rfl, rfl, rfl, rfl, rfl, rfl, id⟩
  | fire timer allocOk recvError now =>
    simp only [step, Option.ite_none_right_eq_some, Option.some.injEq] at h
    obtain ⟨-, rfl⟩ := h
    exact .inl ⟨allocOk, recvError, now, _, rfl, rfl, rfl, rfl, rfl, rfl,
      (List.append_nil _).symm, rfl, rfl, rfl, id⟩
  | fromGuest data result now =>
    simp only [step, Option.ite_none_left_eq_some, Bool.not_eq_true] at h
    exact .inr (.inl ⟨data, result, now, rfl, h.1, ok_of_toOption_eq_some h.2⟩)
  | destroy =>
    simp only [step, Option.ite_none_left_eq_some, Bool.not_eq_true, Option.some.injEq] at h
    exact .inr (.inr ⟨rfl, h.1, h.2.symm⟩)

/-- Every event takes from the host the datagram it brings, if any, and nothing else; the
payload size never changes.
-/
theorem received_step {s s' : RedirectUdpSocket} {event : UdpEvent} (h : s.step event = some s')
    : s'.received = s.received ++ (event.arrived.map (·.take s.maxPayload)).toList
      ∧ s'.maxPayload = s.maxPayload := by
  rcases step_cases h with ⟨allocOk, recvError, now, t, rfl, -, -, -, size, delivered, inbox, -⟩
    | ⟨data, result, now, rfl, -, sent⟩ | ⟨rfl, -, rfl⟩
  · rw [readLoop_received]
    simp [readLoop_frame, received, size, delivered, inbox]
    cases event.arrived <;> rfl
  · rcases onPacketFromGuest_ok sent with ⟨rfl, -⟩ | ⟨-, -, rfl⟩
      <;> simp [received, UdpEvent.arrived]
  · simp [received, UdpEvent.arrived, destroy_frame]

/-- No guest packet reaches a destroyed socket, and it stays destroyed. -/
theorem destroyed_step {s s' : RedirectUdpSocket} {event : UdpEvent}
    (destroyed : s.destroyed = true) (h : s.step event = some s')
    : event.accepted = none ∧ s'.destroyed = true := by
  rcases step_cases h with ⟨allocOk, recvError, now, t, rfl, -, same, -, -, -, -, none, -⟩
    | ⟨-, -, -, -, alive, -⟩ | ⟨-, alive, -⟩
  · exact ⟨none, by rw [(@readLoop_frame allocOk recvError now 0 t t.inbox).2.1, same, destroyed]⟩
  all_goals simp [destroyed] at alive

/-- A socket whose descriptor is closed sends nothing and keeps it closed; an open one sends
each guest packet `send` accepts, or is destroyed and closed.
-/
theorem sent_step {s s' : RedirectUdpSocket} {event : UdpEvent} (h : s.step event = some s')
    : (s.fd = -1 → s'.sent = s.sent ∧ s'.fd = -1)
      ∧ (s.fd ≠ -1 → (s'.sent = s.sent ++ event.accepted.toList ∧ s'.fd = s.fd)
        ∨ (s'.sent = s.sent ∧ s'.fd = -1 ∧ s'.destroyed = true ∧ event.accepted = none)) := by
  rcases step_cases h with ⟨allocOk, recvError, now, t, rfl, fd, -, sent, -, -, -, none, -⟩
    | ⟨data, result, now, rfl, -, ok⟩ | ⟨rfl, -, rfl⟩
  · obtain ⟨fd', -, sent', -⟩ := @readLoop_frame allocOk recvError now 0 t t.inbox
    simp [fd', fd, sent', sent, none]
  · rcases onPacketFromGuest_ok ok with ⟨rfl, closed | negative⟩ | ⟨opened, nonneg, rfl⟩
    · simp [closed]
    · simp [UdpEvent.accepted, negative]
    · simp [UdpEvent.accepted, opened, not_lt.mpr nonneg]
  · simp [UdpEvent.accepted, destroy_frame]

-----------------------------------------------------------------------------------------------
-- Whole histories

/-- Over a history, the socket takes from the host exactly the datagrams the history brings,
in order.
-/
theorem received_run {s s' : RedirectUdpSocket} {events : List UdpEvent}
    (h : s.run events = some s')
    : s'.received = s.received ++ (events.filterMap UdpEvent.arrived).map (·.take s.maxPayload)
      ∧ s'.maxPayload = s.maxPayload := by
  induction events generalizing s with
  | nil => cases h; simp
  | cons event rest ih =>
    obtain ⟨next, one, more⟩ := run_cons_some h
    obtain ⟨taken, size⟩ := received_step one
    obtain ⟨taken', size'⟩ := ih more
    refine ⟨?_, size'.trans size⟩
    cases arrived : event.arrived <;>
      simp [taken', taken, size, arrived, List.filterMap_cons]

/-- A destroyed socket gets no guest packet for the rest of any history. -/
theorem destroyed_run {s s' : RedirectUdpSocket} {events : List UdpEvent}
    (destroyed : s.destroyed = true) (h : s.run events = some s')
    : events.filterMap UdpEvent.accepted = [] := by
  induction events generalizing s with
  | nil => rfl
  | cons event rest ih =>
    obtain ⟨next, one, more⟩ := run_cons_some h
    obtain ⟨none, still⟩ := destroyed_step destroyed one
    simp [List.filterMap_cons, none, ih still more]

/-- Over a history, a closed socket sends nothing, and an open one sends the guest packets
`send` accepts before its destructor, in order.
-/
theorem sent_run {s s' : RedirectUdpSocket} {events : List UdpEvent}
    (h : s.run events = some s')
    : s'.sent = s.sent ++ if s.fd = -1 then [] else events.filterMap UdpEvent.accepted := by
  induction events generalizing s with
  | nil => cases h; simp
  | cons event rest ih =>
    obtain ⟨next, one, more⟩ := run_cons_some h
    obtain ⟨closed, opened⟩ := sent_step one
    by_cases fd : s.fd = -1
    · obtain ⟨same, still⟩ := closed fd
      rw [ih more, same, if_pos still, if_pos fd]
    · rw [if_neg fd, ih more]
      rcases opened fd with ⟨sent, same⟩ | ⟨sent, shut, destroyed, none⟩
      · rw [sent, same, if_neg fd, List.filterMap_cons]
        cases event.accepted <;> simp
      · rw [sent, if_pos shut, List.filterMap_cons, none, destroyed_run destroyed more]

/-- The invariant of the reader: a destroyed socket is closed, and an open socket has an empty
queue or a retry timer armed.
-/
structure Reading (s : RedirectUdpSocket) : Prop where
  closed : s.destroyed = true → s.fd = -1
  drained : s.fd ≠ -1 → s.inbox = [] ∨ s.waitTimer.isSome

/-- Every event whose `recv` calls meet no pending socket error keeps the reader's invariant.
Witness: such a read loop only returns with the queue empty or a timer armed
(`readLoop_stops`), and the destructor closes the descriptor.
-/
theorem Reading.step {s s' : RedirectUdpSocket} {event : UdpEvent} (inv : Reading s)
    (h : s.step event = some s') (clean : event.recvClean) : Reading s' := by
  rcases step_cases h with
    ⟨allocOk, recvError, now, t, rfl, fd, destroyed, -, -, -, -, -, -, -, noError⟩
    | ⟨data, result, now, rfl, -, ok⟩ | ⟨rfl, -, rfl⟩
  · obtain ⟨fd', destroyed', -⟩ := @readLoop_frame allocOk recvError now 0 t t.inbox
    refine ⟨fun gone => ?_, fun opened => ?_⟩
    · rw [fd', fd]
      exact inv.closed (destroyed ▸ destroyed' ▸ gone)
    rcases @readLoop_stops allocOk recvError now 0 t t.inbox (noError clean)
      with shut | empty | armed
    · exact absurd shut opened
    · exact .inl empty
    · exact .inr armed
  · rcases onPacketFromGuest_ok ok with ⟨rfl, -⟩ | ⟨-, -, rfl⟩
    · exact inv
    · exact ⟨inv.closed, inv.drained⟩
  · have shut := s.destroy_frame.1
    exact ⟨fun _ => shut, fun opened => absurd shut opened⟩

theorem Reading.run {s s' : RedirectUdpSocket} {events : List UdpEvent} (inv : Reading s)
    (h : s.run events = some s') (clean : ∀ event ∈ events, event.recvClean) : Reading s' := by
  induction events generalizing s with
  | nil => cases h; exact inv
  | cons event rest ih =>
    obtain ⟨next, one, more⟩ := run_cons_some h
    exact ih (inv.step one (clean event (List.mem_cons_self _ _))) more
      fun other mem => clean other (List.mem_cons_of_mem _ mem)

/-- `InitializeRedirect` leaves the socket with nothing received or sent, an empty queue, no
timer, and its descriptor open exactly when `connect` succeeded.
-/
theorem initializeRedirect_fresh {dip : BitVec 32} {dport : BitVec 16} {maxPayload : Nat}
    {now : Int} {rules : List RedirectRule} {socketFd : Int} {connectOk : Bool}
    {connected : RedirectUdpSocket}
    (initialized : (create dip dport maxPayload now).initializeRedirect rules socketFd connectOk
      = .ok connected)
    : connected.delivered = [] ∧ connected.inbox = [] ∧ connected.sent = []
      ∧ connected.maxPayload = maxPayload ∧ connected.destroyed = false
      ∧ connected.waitTimer = none ∧ connected.timers = [] ∧ connected.nextTimer = 0
      ∧ (connected.fd = -1 ↔ connectOk = false) := by
  obtain ⟨fd, rfl⟩ := initializeRedirect_ok initialized
  cases connectOk <;> simp [create]
  omega

/-- After `InitializeRedirect` and any history of readable edges, timer expirations,
allocation outcomes, guest packets and the destructor, the guest has been passed every
datagram the host socket received, once each and in arrival order, cut to
`UIP_MAX_UDP_PAYLOAD`, save those still queued, which follow them in order; and the host has
been sent every guest packet `send` accepted before the destructor, once each and in order, or
nothing when `connect` failed. Witness: each event's step (`received_step`, `sent_step`), and
no guest packet reaches a destroyed socket.
-/
theorem datagrams_pass_once_in_order {dip : BitVec 32} {dport : BitVec 16} {maxPayload : Nat}
    {now : Int} {rules : List RedirectRule} {socketFd : Int} {connectOk : Bool}
    {connected s : RedirectUdpSocket} {events : List UdpEvent}
    (initialized : (create dip dport maxPayload now).initializeRedirect rules socketFd connectOk
      = .ok connected)
    (h : connected.run events = some s)
    : s.delivered ++ s.inbox.map (·.take maxPayload)
        = (events.filterMap UdpEvent.arrived).map (·.take maxPayload)
      ∧ s.sent = if connectOk then events.filterMap UdpEvent.accepted else [] := by
  obtain ⟨delivered, inbox, sent, size, -, -, -, -, fd⟩ := initializeRedirect_fresh initialized
  obtain ⟨taken, size'⟩ := received_run h
  refine ⟨?_, ?_⟩
  · simpa [received, delivered, inbox, size, size'] using taken
  · rw [sent_run h, sent]
    cases connectOk <;> simp_all

/-- The history of a DNS query answered by two datagrams, the first read at once, the second
while the packet pool is empty and then by the retry timer.
-/
def dnsAnswers : List UdpEvent :=
  [.fromGuest [7] 1 0, .arrive [1] (fun _ => true) (fun _ => false) 1,
    .arrive [2] (fun _ => false) (fun _ => false) 2, .fire 0 (fun _ => true) (fun _ => false) 3]

/-- Over `dnsAnswers`, the guest gets both answers, in order, and the query is sent. -/
theorem dns_answers_pass_in_order
    : ∃ connected s, dnsSocket = .ok connected ∧ connected.run dnsAnswers = some s
      ∧ (s.delivered ++ s.inbox.map (·.take 1472)
          = (dnsAnswers.filterMap UdpEvent.arrived).map (·.take 1472)
        ∧ s.sent = if true then dnsAnswers.filterMap UdpEvent.accepted else [])
      ∧ s.delivered = [[1], [2]] ∧ s.sent = [[7]] :=
  ⟨_, _, rfl, rfl, @datagrams_pass_once_in_order 0x0a000203 53 1472 0 [] 5 true _ _
    dnsAnswers rfl rfl, rfl, rfl⟩

/-- After `InitializeRedirect` and any history of events in which no `recv` meets a pending
socket error, an open socket has no datagram queued on it, or a retry timer pending in the
reactor whose expiry reads the queue again: the edge-triggered reader leaves no datagram
waiting for an edge that may not come. Witness: such a read loop returns only with the queue
empty or a timer armed (`Reading`), and `wait_timer_` names a pending timer (`TimerBook`).
-/
theorem queued_datagram_has_retry_without_socket_errors {dip : BitVec 32} {dport : BitVec 16}
    {maxPayload : Nat} {now : Int} {rules : List RedirectRule} {socketFd : Int}
    {connectOk : Bool} {connected s : RedirectUdpSocket} {events : List UdpEvent}
    (initialized : (create dip dport maxPayload now).initializeRedirect rules socketFd connectOk
      = .ok connected)
    (h : connected.run events = some s) (clean : ∀ event ∈ events, event.recvClean)
    (opened : s.fd ≠ -1)
    : s.inbox = [] ∨ ∃ timer, s.waitTimer = some timer ∧ timer ∈ s.timers := by
  obtain ⟨-, inbox, -, -, destroyed, waitTimer, timers, -, -⟩ :=
    initializeRedirect_fresh initialized
  have book : TimerBook connected :=
    ⟨fun _ _ named => by simp [waitTimer] at named, fun _ mem => by simp [timers] at mem,
      timers ▸ List.nodup_nil⟩
  have reading : Reading s :=
    Reading.run ⟨fun gone => by simp [destroyed] at gone, fun _ => .inl inbox⟩ h clean
  have alive : s.destroyed = false := by
    cases gone : s.destroyed
    · rfl
    · exact absurd (reading.closed gone) opened
  rcases reading.drained opened with empty | armed
  · exact .inl empty
  · obtain ⟨timer, named⟩ := Option.isSome_iff_exists.mp armed
    exact .inr ⟨timer, named, (book.run h).named alive timer named⟩

/-- One datagram reaches the DNS socket while the packet pool is empty: it is queued, and the
retry timer armed for it is pending. Had its `recv` met a pending socket error instead, the
datagram would stay queued with no timer at all, until another datagram raises an edge.
-/
theorem dns_datagram_waits_for_retry
    : (∃ connected s, dnsSocket = .ok connected
        ∧ connected.run [.arrive [1] (fun _ => false) (fun _ => false) 0] = some s
        ∧ s.fd ≠ -1 ∧ (s.inbox = [] ∨ ∃ timer, s.waitTimer = some timer ∧ timer ∈ s.timers)
        ∧ s.inbox = [[1]])
      ∧ ∃ connected s, dnsSocket = .ok connected
        ∧ connected.run [.arrive [1] (fun _ => true) (fun _ => true) 0] = some s
        ∧ s.fd ≠ -1 ∧ s.inbox = [[1]] ∧ s.waitTimer = none :=
  ⟨⟨_, _, rfl, rfl, by decide,
    @queued_datagram_has_retry_without_socket_errors 0x0a000203 53 1472 0 [] 5 true _ _
      [.arrive [1] (fun _ => false) (fun _ => false) 0] rfl rfl
      (by simp [UdpEvent.recvClean]) (by decide), rfl⟩,
    _, _, rfl, rfl, by decide, rfl, rfl⟩

-----------------------------------------------------------------------------------------------
-- The idle clock

/-- How many datagrams the socket has moved, either way. -/
def traffic (s : RedirectUdpSocket) : Nat :=
  s.delivered.length + s.sent.length

/-- The read loop refreshes `active_time_` exactly when it passes a datagram to the guest. -/
theorem readLoop_activeTime {allocOk recvError : Nat → Bool} {now : Int} {k : Nat}
    {s : RedirectUdpSocket} {inbox : List Datagram}
    : ((readLoop allocOk recvError now k s inbox).delivered = s.delivered
        ∧ (readLoop allocOk recvError now k s inbox).activeTime = s.activeTime)
      ∨ (s.delivered.length < (readLoop allocOk recvError now k s inbox).delivered.length
        ∧ (readLoop allocOk recvError now k s inbox).activeTime = now) := by
  induction inbox generalizing k s with
  | nil => unfold readLoop; split_ifs <;> simp [addWaitTimer]
  | cons datagram rest ih =>
    unfold readLoop
    split_ifs
    · simp
    · simp [addWaitTimer]
    · simp
    · rcases @ih (k + 1) (s.onDataFromHost datagram now) with ⟨same, clock⟩ | ⟨grew, clock⟩
      · rw [same, clock]
        exact .inr ⟨by simp [onDataFromHost], rfl⟩
      · have passed : (s.onDataFromHost datagram now).delivered.length
            = s.delivered.length + 1 := by simp [onDataFromHost]
        exact .inr ⟨by omega, clock⟩

/-- Each event either moves no datagram and leaves `active_time_` as it was, or moves some and
sets `active_time_` to its own clock.
-/
theorem activeTime_step {s s' : RedirectUdpSocket} {event : UdpEvent}
    (h : s.step event = some s')
    : (s'.traffic = s.traffic ∧ s'.activeTime = s.activeTime)
      ∨ (s.traffic < s'.traffic ∧ event.clock = some s'.activeTime) := by
  rcases step_cases h with
    ⟨allocOk, recvError, now, t, rfl, -, -, sent, -, delivered, -, -, kept, clock, -⟩
    | ⟨data, result, now, rfl, -, ok⟩ | ⟨rfl, -, rfl⟩
  · have sent' := (@readLoop_frame allocOk recvError now 0 t t.inbox).2.2.1
    rcases @readLoop_activeTime allocOk recvError now 0 t t.inbox
      with ⟨same, kept'⟩ | ⟨grew, refreshed⟩
    · exact .inl ⟨by simp only [traffic, same, sent', delivered, sent], kept'.trans kept⟩
    · refine .inr ⟨?_, by rw [refreshed, clock]⟩
      rw [delivered] at grew
      simp only [traffic, sent', sent]
      omega
  · rcases onPacketFromGuest_ok ok with ⟨rfl, -⟩ | ⟨-, -, rfl⟩
    · exact .inl ⟨rfl, rfl⟩
    · exact .inr ⟨by simp [traffic], rfl⟩
  · simp [traffic, destroy_frame]

/-- Over every history, either the socket moves no datagram and `active_time_` keeps its
value, or some event is the last to move one, and `active_time_` is that event's clock. Failed
sends, retries that find the pool or the queue empty, packets on a closed socket and the
destructor never refresh it: only traffic keeps `active()` from reporting the flow idle after
`REDIRECT_TIMEOUT_SECONDS`. Witness: each event moves nothing and keeps the clock, or moves a
datagram and sets it (`activeTime_step`).
-/
theorem active_time_of_last_traffic {s s' : RedirectUdpSocket} {events : List UdpEvent}
    (h : s.run events = some s')
    : (s'.traffic = s.traffic ∧ s'.activeTime = s.activeTime)
      ∨ ∃ pre event post mid mid', events = pre ++ event :: post ∧ s.run pre = some mid
        ∧ mid.step event = some mid' ∧ mid.traffic < mid'.traffic ∧ mid'.run post = some s'
        ∧ s'.traffic = mid'.traffic ∧ event.clock = some s'.activeTime := by
  induction events generalizing s with
  | nil => cases h; exact .inl ⟨rfl, rfl⟩
  | cons event rest ih =>
    obtain ⟨next, one, more⟩ := run_cons_some h
    rcases ih more with ⟨quiet, kept⟩
      | ⟨pre, last, post, mid, mid', split, before, moved, grew, after, quiet, clock⟩
    · rcases activeTime_step one with ⟨same, kept'⟩ | ⟨grew, clock⟩
      · exact .inl ⟨quiet.trans same, kept.trans kept'⟩
      · exact .inr ⟨[], event, rest, s, next, rfl, rfl, one, grew, more, quiet, kept ▸ clock⟩
    · exact .inr ⟨event :: pre, last, post, mid, mid', by rw [split]; rfl,
        by simp only [run, one, Option.some_bind, before], moved, grew, after, quiet, clock⟩

/-- The DNS socket sends a query at second 0 and passes an answer to the guest at second 1;
then a `send` fails at second 9, a second answer finds the pool empty at second 20, and the
retry at second 30 meets a pending socket error.
-/
def idleAfterAnswer : List UdpEvent :=
  [.fromGuest [7] 1 0, .arrive [1] (fun _ => true) (fun _ => false) 1, .fromGuest [8] (-1) 9,
    .arrive [2] (fun _ => false) (fun _ => false) 20, .fire 0 (fun _ => true) (fun _ => true) 30]

/-- Over `idleAfterAnswer`, `active_time_` stays at second 1, with the second answer queued. -/
theorem failed_send_keeps_idle_clock
    : ∃ connected s, dnsSocket = .ok connected ∧ connected.run idleAfterAnswer = some s
      ∧ ((s.traffic = connected.traffic ∧ s.activeTime = connected.activeTime)
        ∨ ∃ pre event post mid mid', idleAfterAnswer = pre ++ event :: post
          ∧ connected.run pre = some mid ∧ mid.step event = some mid'
          ∧ mid.traffic < mid'.traffic ∧ mid'.run post = some s ∧ s.traffic = mid'.traffic
          ∧ event.clock = some s.activeTime)
      ∧ s.activeTime = 1 ∧ s.inbox = [[2]] :=
  ⟨_, _, rfl, rfl, active_time_of_last_traffic rfl, rfl, rfl⟩

end RedirectUdpSocket

end MVisor.Uip
