import MVisor.Uip.RedirectUdp

/-! The retry timers of a redirected UDP socket over any history of readable edges, timer
expirations, allocation and `recv` outcomes and guest packets. `wait_timer_` always names a
timer the reactor still holds, but a readable edge while a retry is pending arms a second one,
which `wait_timer_` forgets.
-/

namespace MVisor.Uip.RedirectUdpSocket

/-- The reactor's retry timers for the socket are distinct and older than its next id, and
while the socket lives `wait_timer_` names one of them.
-/
structure TimerBook (s : RedirectUdpSocket) : Prop where
  named : s.destroyed = false → ∀ timer, s.waitTimer = some timer → timer ∈ s.timers
  older : ∀ timer ∈ s.timers, timer < s.nextTimer
  distinct : s.timers.Nodup

/-- The timer book only reads `destroyed_`, `wait_timer_`, the reactor's timers and its next
id.
-/
theorem TimerBook.of_same {s s' : RedirectUdpSocket} (book : TimerBook s)
    (destroyed : s'.destroyed = s.destroyed) (waitTimer : s'.waitTimer = s.waitTimer)
    (timers : s'.timers = s.timers) (nextTimer : s'.nextTimer = s.nextTimer) : TimerBook s' where
  named alive timer named := by
    rw [timers]
    exact book.named (destroyed ▸ alive) timer (waitTimer ▸ named)
  older timer mem := by
    rw [nextTimer]
    exact book.older timer (timers ▸ mem)
  distinct := timers ▸ book.distinct

/-- Arming a retry timer keeps the book: its id is new. -/
theorem TimerBook.addWaitTimer {s : RedirectUdpSocket} (book : TimerBook s)
    : TimerBook s.addWaitTimer where
  named _ timer named := by
    simp only [RedirectUdpSocket.addWaitTimer, Option.some.injEq] at named
    simp only [RedirectUdpSocket.addWaitTimer, named, List.mem_append, List.mem_singleton,
      or_true]
  older timer mem := by
    simp only [RedirectUdpSocket.addWaitTimer, List.mem_append, List.mem_singleton] at mem ⊢
    rcases mem with old | rfl
    · exact Nat.lt_succ_of_lt (book.older timer old)
    · exact Nat.lt_succ_self _
  distinct := by
    refine List.nodup_append.mpr ⟨book.distinct, List.nodup_singleton _, ?_⟩
    intro timer old new
    rw [List.mem_singleton.mp new] at old
    exact Nat.lt_irrefl _ (book.older _ old)

theorem TimerBook.readLoop {allocOk recvError : Nat → Bool} {now : Int} {k : Nat}
    {s : RedirectUdpSocket} {inbox : List Datagram} (book : TimerBook s)
    : TimerBook (readLoop allocOk recvError now k s inbox) := by
  induction inbox generalizing k s with
  | nil =>
    unfold RedirectUdpSocket.readLoop
    split
    · exact book.of_same rfl rfl rfl rfl
    split
    · exact book.addWaitTimer.of_same rfl rfl rfl rfl
    · exact book.of_same rfl rfl rfl rfl
  | cons datagram rest ih =>
    unfold RedirectUdpSocket.readLoop
    split
    · exact book.of_same rfl rfl rfl rfl
    split
    · exact book.addWaitTimer.of_same rfl rfl rfl rfl
    split
    · exact book.of_same rfl rfl rfl rfl
    · exact ih (book.of_same rfl rfl rfl rfl)

/-- The destructor removes at most one retry timer from the reactor. -/
theorem destroy_timers (s : RedirectUdpSocket)
    : s.destroy.nextTimer = s.nextTimer
      ∧ (s.destroy.timers = s.timers ∨ ∃ timer, s.destroy.timers = s.timers.erase timer) := by
  cases waitTimer : s.waitTimer <;> by_cases opened : s.fd ≠ -1
    <;> simp [RedirectUdpSocket.destroy, waitTimer, opened]

/-- Every event keeps the timer book. -/
theorem TimerBook.step {s s' : RedirectUdpSocket} {event : UdpEvent} (book : TimerBook s)
    (h : s.step event = some s') : TimerBook s' := by
  cases event with
  | arrive datagram allocOk recvError now =>
    simp only [RedirectUdpSocket.step, Option.ite_none_right_eq_some, Option.some.injEq] at h
    obtain ⟨-, rfl⟩ := h
    exact TimerBook.readLoop (book.of_same rfl rfl rfl rfl)
  | fire timer allocOk recvError now =>
    simp only [RedirectUdpSocket.step, Option.ite_none_right_eq_some, Option.some.injEq] at h
    obtain ⟨-, rfl⟩ := h
    refine TimerBook.readLoop ⟨(fun _ _ named => by cases named), fun other mem => ?_,
      book.distinct.erase timer⟩
    exact book.older other (List.mem_of_mem_erase mem)
  | fromGuest data result now =>
    simp only [RedirectUdpSocket.step, Option.ite_none_left_eq_some] at h
    obtain ⟨-, h⟩ := h
    unfold onPacketFromGuest at h
    split at h
    · cases h; exact book
    split at h
    · cases h; exact book
    split at h
    · cases h
    · cases h; exact book.of_same rfl rfl rfl rfl
  | destroy =>
    simp only [RedirectUdpSocket.step, Option.ite_none_left_eq_some, Option.some.injEq] at h
    obtain ⟨-, rfl⟩ := h
    obtain ⟨nextTimer, kept | ⟨timer, erased⟩⟩ := s.destroy_timers
    · exact ⟨(fun destroyed => by cases destroyed), kept ▸ nextTimer ▸ book.older,
        kept ▸ book.distinct⟩
    · refine ⟨(fun destroyed => by cases destroyed), fun other mem => ?_,
        erased ▸ book.distinct.erase timer⟩
      rw [erased] at mem
      exact nextTimer ▸ book.older other (List.mem_of_mem_erase mem)

theorem TimerBook.run {s s' : RedirectUdpSocket} {events : List UdpEvent} (book : TimerBook s)
    (h : s.run events = some s') : TimerBook s' := by
  induction events generalizing s with
  | nil => cases h; exact book
  | cons event rest ih =>
    obtain ⟨next, one, more⟩ := run_cons_some h
    exact ih (book.step one) more

/-- After `InitializeRedirect` and any history of readable edges, timer expirations, allocation
outcomes and guest packets, `wait_timer_` of a live socket is null or names a retry timer the
reactor still holds, so the destructor's `RemoveTimer(wait_timer_)` never names an expired
timer. Witness: arming takes a fresh id, and the expiring timer's own callback clears
`wait_timer_`.
-/
theorem wait_timer_names_pending {dip : BitVec 32} {dport : BitVec 16} {maxPayload : Nat}
    {now : Int} {rules : List RedirectRule} {socketFd : Int} {connectOk : Bool}
    {connected s : RedirectUdpSocket} {events : List UdpEvent}
    (initialized : (create dip dport maxPayload now).initializeRedirect rules socketFd connectOk
      = .ok connected)
    (h : connected.run events = some s) (alive : s.destroyed = false)
    : ∀ timer, s.waitTimer = some timer → timer ∈ s.timers := by
  have start : TimerBook connected := by
    unfold initializeRedirect at initialized
    split at initialized
    · cases initialized
    split at initialized <;> cases initialized <;>
      exact ⟨(fun _ _ named => by cases named), (fun _ mem => by cases mem), List.nodup_nil⟩
  exact (start.run h).named alive

/-- A socket for a flow to 10.0.2.3:53, no redirect rule, connected on descriptor 5. -/
def dnsSocket : Except String RedirectUdpSocket :=
  (create 0x0a000203 53 1472 0).initializeRedirect [] 5 true

/-- One datagram reaches the DNS socket while the packet pool is empty: `wait_timer_` names the
retry timer armed for it.
-/
theorem dns_retry_timer_named
    : ∃ connected s, dnsSocket = .ok connected
      ∧ connected.run [.arrive [1] (fun _ => false) (fun _ => false) 0] = some s
      ∧ ∀ timer, s.waitTimer = some timer → timer ∈ s.timers :=
  ⟨_, _, rfl, rfl, @wait_timer_names_pending 0x0a000203 53 1472 0 [] 5 true _ _
    [.arrive [1] (fun _ => false) (fun _ => false) 0] rfl rfl rfl⟩

/-- Two datagrams reach the DNS socket, and each readable edge finds the packet pool empty: two
retry timers are pending, `wait_timer_` names only the second, and after the destructor the
reactor still holds the first, whose callback then runs on the destroyed socket.
-/
theorem second_edge_orphans_retry_timer
    : ∃ connected s, dnsSocket = .ok connected
      ∧ connected.run [.arrive [1] (fun _ => false) (fun _ => false) 0,
          .arrive [2] (fun _ => false) (fun _ => false) 0] = some s
      ∧ s.timers = [0, 1] ∧ s.waitTimer = some 1
      ∧ s.destroy.timers = [0]
      ∧ (s.destroy.step (.fire 0 (fun _ => false) (fun _ => false) 1)).isSome :=
  ⟨_, _, rfl, rfl, rfl, rfl, rfl, rfl⟩

end MVisor.Uip.RedirectUdpSocket
