import MVisor.Vfio.ConfigSpace

/-! Runs of guest config-space accesses after `Connect`. The device's config space and
`pci_header_` stay equal, so a read refreshes nothing, and the VFIO trigger of MSI vector 0
follows the header's enable bit after every access.
-/

namespace MVisor.Vfio.ConfigState

-----------------------------------------------------------------------------------------
-- What one access can do
-----------------------------------------------------------------------------------------

/-- A returning `UpdateMsiRoutes` changed only `msi_config_.enabled` and the trigger, which
is the eventfd exactly when the header's enable bit is set.
-/
theorem updateMsiRoutes_ok {state next : ConfigState} {irqSetOk : Bool}
    (h : state.updateMsiRoutes irqSetOk = .ok next)
    : next = { state with
        msiEnabled := state.msiEnableBit
        msiTrigger := if state.msiEnableBit then state.eventFd else -1 } := by
  simp only [updateMsiRoutes] at h
  split at h
  · cases h
  · split at h
    · cases h
      simp [msiEnableBit]
    · cases h

/-- A returning write stored its bytes in both copies of config space, and either re-armed
MSI from the written header or left the trigger alone when it did not touch the control
word's low byte.
-/
theorem writePciConfigSpace_ok {state next : ConfigState} {offset : Nat}
    {data : List (BitVec 8)} {irqSetOk : Bool}
    (h : state.writePciConfigSpace offset data irqSetOk = .ok next)
    : let written := { state with
        pciHeader := writeBytes state.pciHeader offset data
        deviceConfig := writeBytes state.deviceConfig offset data }
      (rangesOverlap offset data.length (state.msiOffset + pciMsiFlags) 1 = true
        ∧ written.updateMsiRoutes irqSetOk = .ok next)
      ∨ (rangesOverlap offset data.length (state.msiOffset + pciMsiFlags) 1 = false
        ∧ next = written) := by
  simp only [writePciConfigSpace, pciDeviceWritePciConfigSpace] at h
  split at h
  · cases h
  · split at h
    · cases h
    · split at h
      next overlap => exact .inl ⟨overlap, h⟩
      next apart =>
        cases h
        exact .inr ⟨by simpa using apart, rfl⟩

/-- A returning read copied the device's bytes into the header and answered with the
header's bytes.
-/
theorem readPciConfigSpace_ok {state next : ConfigState} {offset length : Nat}
    {data : List (BitVec 8)}
    (h : state.readPciConfigSpace offset length = .ok (next, data))
    : next = { state with
        pciHeader := copyBytes state.pciHeader state.deviceConfig offset length }
      ∧ data = readBytes next.pciHeader offset length := by
  simp only [readPciConfigSpace, pciDeviceReadPciConfigSpace] at h
  split at h
  · cases h
  · cases h
    exact ⟨rfl, rfl⟩

-----------------------------------------------------------------------------------------
-- The wiring invariant
-----------------------------------------------------------------------------------------

/-- The device's config space equals `pci_header_`, and VFIO's MSI trigger is the eventfd
exactly when the header's enable bit is set.
-/
structure Wired (state : ConfigState) : Prop where
  mirrored : state.deviceConfig = state.pciHeader
  trigger : state.msiTrigger = if state.msiEnableBit then state.eventFd else -1

/-- The state `Connect` leaves is wired when the device reports MSI disabled. -/
theorem attach_wired {header : Nat → BitVec 8} {msiOffset : Nat} {eventFd : Int}
    (disabled : (attach header msiOffset eventFd).msiEnableBit = false)
    : (attach header msiOffset eventFd).Wired :=
  ⟨rfl, by rw [disabled]; rfl⟩

/-- A write that does not touch the control word's low byte leaves the enable bit alone. -/
theorem msiEnableBit_written {state : ConfigState} {offset : Nat} {data : List (BitVec 8)}
    (apart : rangesOverlap offset data.length (state.msiOffset + pciMsiFlags) 1 = false)
    : ({ state with pciHeader := writeBytes state.pciHeader offset data } : ConfigState).msiEnableBit
      = state.msiEnableBit := by
  have outside : ¬ (offset ≤ state.msiOffset + pciMsiFlags
      ∧ state.msiOffset + pciMsiFlags < offset + data.length) := by
    simp only [rangesOverlap, Bool.and_eq_false_iff, decide_eq_false_iff_not] at apart
    omega
  simp only [msiEnableBit, writeBytes, outside, if_false]

/-- Every access keeps the device's config space equal to `pci_header_`: a read copies
equal bytes and a write stores the same bytes in both.
-/
theorem step_mirrored {state next : ConfigState} {access : ConfigAccess}
    (mirrored : state.deviceConfig = state.pciHeader) (h : state.step access = .ok next)
    : next.deviceConfig = next.pciHeader := by
  cases access with
  | read offset length =>
      obtain ⟨⟨after, data⟩, hread, hnext⟩ := bind_eq_ok h
      cases hnext
      obtain ⟨rfl, -⟩ := readPciConfigSpace_ok hread
      simp [mirrored]
  | write offset data irqSetOk =>
      rcases writePciConfigSpace_ok h with ⟨-, hupdate⟩ | ⟨-, rfl⟩
      · rw [updateMsiRoutes_ok hupdate]
        simp [mirrored]
      · simp [mirrored]

/-- Every access keeps the state wired. Witness: a read changes nothing, since the two
copies of config space are equal; a write either re-arms MSI from the new header or does
not touch the enable bit.
-/
theorem Wired.step {state next : ConfigState} {access : ConfigAccess} (wired : state.Wired)
    (h : state.step access = .ok next)
    : next.Wired := by
  refine ⟨step_mirrored wired.mirrored h, ?_⟩
  cases access with
  | read offset length =>
      obtain ⟨⟨after, data⟩, hread, hnext⟩ := bind_eq_ok h
      cases hnext
      obtain ⟨rfl, -⟩ := readPciConfigSpace_ok hread
      simpa [wired.mirrored] using wired.trigger
  | write offset data irqSetOk =>
      rcases writePciConfigSpace_ok h with ⟨-, hupdate⟩ | ⟨apart, rfl⟩
      · rw [updateMsiRoutes_ok hupdate]
        rfl
      · have same := msiEnableBit_written apart
        simp only [msiEnableBit] at same ⊢
        rw [same]
        exact wired.trigger

/-- Every run from a wired state ends wired, by induction over the accesses. -/
theorem Wired.run {state final : ConfigState} {accesses : List ConfigAccess}
    (wired : state.Wired) (h : state.run accesses = .ok final)
    : final.Wired := by
  induction accesses generalizing state with
  | nil => cases h; exact wired
  | cons access rest ih =>
      obtain ⟨next, hstep, hrest⟩ := run_cons_ok h
      exact ih (wired.step hstep) hrest

-----------------------------------------------------------------------------------------
-- MSI wiring
-----------------------------------------------------------------------------------------

/-- From the state `Connect` leaves with MSI disabled, after every sequence of guest config
reads and writes (any offsets, lengths, data and VFIO answers) that did not panic, VFIO's
trigger for MSI vector 0 is the vector's eventfd exactly when the header's enable bit is
set, and -1 otherwise.
-/
theorem msi_trigger_follows_enable_bit {header : Nat → BitVec 8} {msiOffset : Nat}
    {eventFd : Int} (disabled : (attach header msiOffset eventFd).msiEnableBit = false)
    (accesses : List ConfigAccess) {final : ConfigState}
    (h : (attach header msiOffset eventFd).run accesses = .ok final)
    : final.msiTrigger = if final.msiEnableBit then final.eventFd else -1 :=
  ((attach_wired disabled).run h).trigger

/-- With MSI at 0x50 and eventfd 5, the guest sets the enable bit, and VFIO's trigger becomes
the eventfd; it then clears it, and the trigger is withdrawn.
-/
theorem msi_enabled_then_disabled
    : (attach (fun _ => 0) 0x50 5).msiEnableBit = false
      ∧ (∃ enabled, (attach (fun _ => 0) 0x50 5).run [.write 0x52 [0x01] true] = .ok enabled
        ∧ enabled.msiTrigger = (if enabled.msiEnableBit then enabled.eventFd else -1)
        ∧ enabled.msiTrigger = 5)
      ∧ ∃ disabled, (attach (fun _ => 0) 0x50 5).run
          [.write 0x52 [0x01] true, .write 0x52 [0x00] true] = .ok disabled
        ∧ disabled.msiTrigger = (if disabled.msiEnableBit then disabled.eventFd else -1)
        ∧ disabled.msiTrigger = -1 :=
  ⟨rfl,
    ⟨_, rfl,
      msi_trigger_follows_enable_bit (rfl : (attach (fun _ => 0) 0x50 5).msiEnableBit = false)
        [.write 0x52 [0x01] true] rfl, rfl⟩,
    _, rfl,
    msi_trigger_follows_enable_bit (rfl : (attach (fun _ => 0) 0x50 5).msiEnableBit = false)
      [.write 0x52 [0x01] true, .write 0x52 [0x00] true] rfl, rfl⟩

-----------------------------------------------------------------------------------------
-- Header sanity
-----------------------------------------------------------------------------------------

/-- The low byte of BAR `i` is not that of a populated memory BAR with the 64-bit type bit.
-/
def BarSanitized (regionSizes : Nat → BitVec 64) (i : Nat) (value : BitVec 8) : Prop :=
  regionSizes i ≠ 0 → value &&& pciBaseAddressSpaceIo = 0
    → value &&& pciBaseAddressMemType64 = 0

/-- What `SetupPciConfiguration` promises of byte `k` of the guest-visible header: interrupt
pin 0, no multi-function bit, class code 0x030200, and populated memory BARs 32-bit.
-/
def Sanitized (regionSizes : Nat → BitVec 64) (k : Nat) (value : BitVec 8) : Prop :=
  (k = pciInterruptPinOffset → value = 0)
  ∧ (k = pciHeaderTypeOffset → value &&& pciMultiFunction = 0)
  ∧ (k = pciClassCodeOffset → value = 0x00)
  ∧ (k = pciClassCodeOffset + 1 → value = 0x02)
  ∧ (k = pciClassCodeOffset + 2 → value = 0x03)
  ∧ ∀ i < 6, k = pciBaseAddress0Offset + 4 * i → BarSanitized regionSizes i value

theorem setupBar_other {regionSizes : Nat → BitVec 64}
    (acc : (Nat → BitVec 8) × List PciBarRegistration) {i k : Nat}
    (other : k ≠ pciBaseAddress0Offset + 4 * i)
    : (setupBar regionSizes acc i).1 k = acc.1 k := by
  obtain ⟨header, bars⟩ := acc
  simp only [setupBar]
  split_ifs <;> simp [Function.update_noteq other]

theorem setupBar_sanitized {regionSizes : Nat → BitVec 64}
    (acc : (Nat → BitVec 8) × List PciBarRegistration) (i : Nat)
    : BarSanitized regionSizes i
        ((setupBar regionSizes acc i).1 (pciBaseAddress0Offset + 4 * i)) := by
  obtain ⟨header, bars⟩ := acc
  intro populated memory
  simp only [setupBar] at memory ⊢
  split_ifs at memory ⊢ with empty io wide
  · exact absurd empty populated
  · exact absurd memory io
  · have cleared : ~~~pciBaseAddressMemType64 &&& pciBaseAddressMemType64 = 0 := by decide
    simp only [Function.update_same]
    rw [BitVec.and_assoc, cleared]
    exact BitVec.and_zero
  · simpa using wide

/-- The BAR loop sanitizes the low byte of every BAR it visits and no other byte, by
induction over the visited indices.
-/
theorem foldl_setupBar (regionSizes : Nat → BitVec 64)
    : ∀ (indices : List Nat) (acc : (Nat → BitVec 8) × List PciBarRegistration),
      indices.Nodup
      → (∀ k, (∀ i ∈ indices, k ≠ pciBaseAddress0Offset + 4 * i)
          → (indices.foldl (setupBar regionSizes) acc).1 k = acc.1 k)
        ∧ ∀ i ∈ indices, BarSanitized regionSizes i
            ((indices.foldl (setupBar regionSizes) acc).1 (pciBaseAddress0Offset + 4 * i))
  | [], _, _ => ⟨fun _ _ => rfl, fun _ member => absurd member (List.not_mem_nil _)⟩
  | i :: rest, acc, distinct => by
      obtain ⟨fresh, distinct⟩ := List.nodup_cons.mp distinct
      obtain ⟨frame, sanitized⟩ := foldl_setupBar regionSizes rest (setupBar regionSizes acc i)
        distinct
      refine ⟨fun k other => ?_, fun j member => ?_⟩
      · rw [List.foldl_cons, frame k (fun j member => other j (by simp [member])),
          setupBar_other acc (other i (by simp))]
      · rcases List.mem_cons.mp member with rfl | later
        · rw [List.foldl_cons, frame _ (fun other member same => fresh (by
            rwa [show j = other by omega]))]
          exact setupBar_sanitized acc j
        · exact sanitized j later

/-- A returning `SetupPciConfiguration` rewrite leaves every byte of the header sanitized.
-/
theorem sanitizePciHeader_ok {raw : Nat → BitVec 8} {regionSizes : Nat → BitVec 64}
    {header : Nat → BitVec 8} {bars : List PciBarRegistration}
    (h : sanitizePciHeader raw regionSizes = .ok (header, bars))
    : ∀ k, Sanitized regionSizes k (header k) := by
  simp only [sanitizePciHeader] at h
  split at h
  · cases h
  next normal =>
    injection h with h
    obtain ⟨rfl, -⟩ := Prod.ext_iff.mp h
    clear h
    obtain ⟨frame, sanitizedBars⟩ := foldl_setupBar regionSizes (List.range 6)
      (writeBytes _ pciClassCodeOffset [0x00, 0x02, 0x03], []) (List.nodup_range 6)
    have outside : ∀ k, k < pciBaseAddress0Offset ∨ pciBaseAddress0Offset + 4 * 6 ≤ k
        → ∀ i ∈ List.range 6, k ≠ pciBaseAddress0Offset + 4 * i := by
      intro k hk i hi
      simp only [List.mem_range] at hi
      omega
    intro k
    refine ⟨?_, ?_, ?_, ?_, ?_, fun i hi same => same ▸ sanitizedBars i (List.mem_range.mpr hi)⟩
    all_goals
      rintro rfl
      rw [frame _ (outside _ (by decide))]
    · rfl
    · exact (congrArg (· &&& pciMultiFunction) (not_not.mp normal)).trans (by decide)
    all_goals rfl

/-- Bytes no access of a run writes keep their header value: reads copy equal bytes and a
write changes only the bytes it covers.
-/
theorem step_untouched {state next : ConfigState} {access : ConfigAccess} {k : Nat}
    (mirrored : state.deviceConfig = state.pciHeader) (h : state.step access = .ok next)
    (untouched : access.writes k = false)
    : next.pciHeader k = state.pciHeader k := by
  cases access with
  | read offset length =>
      obtain ⟨⟨after, data⟩, hread, hnext⟩ := bind_eq_ok h
      cases hnext
      obtain ⟨rfl, -⟩ := readPciConfigSpace_ok hread
      simp [mirrored]
  | write offset data irqSetOk =>
      have outside : ¬ (offset ≤ k ∧ k < offset + data.length) := by
        simpa [ConfigAccess.writes] using untouched
      rcases writePciConfigSpace_ok h with ⟨-, hupdate⟩ | ⟨-, rfl⟩
      · rw [updateMsiRoutes_ok hupdate]
        exact writeBytes_of_not_mem outside
      · exact writeBytes_of_not_mem outside

theorem run_untouched {state final : ConfigState} {accesses : List ConfigAccess} {k : Nat}
    (mirrored : state.deviceConfig = state.pciHeader) (h : state.run accesses = .ok final)
    (untouched : ∀ access ∈ accesses, access.writes k = false)
    : final.pciHeader k = state.pciHeader k := by
  induction accesses generalizing state with
  | nil => cases h; rfl
  | cons access rest ih =>
      obtain ⟨next, hstep, hrest⟩ := run_cons_ok h
      rw [ih (step_mirrored mirrored hstep) hrest (fun a member => untouched a (by simp [member])),
        step_untouched mirrored hstep (untouched access (by simp))]

theorem run_mirrored {state final : ConfigState} {accesses : List ConfigAccess}
    (mirrored : state.deviceConfig = state.pciHeader) (h : state.run accesses = .ok final)
    : final.deviceConfig = final.pciHeader := by
  induction accesses generalizing state with
  | nil => cases h; exact mirrored
  | cons access rest ih =>
      obtain ⟨next, hstep, hrest⟩ := run_cons_ok h
      exact ih (step_mirrored mirrored hstep) hrest

/-- A device whose BAR1 low byte reports a 64-bit memory BAR while only region 0 is
populated, as the upper half of a 64-bit BAR0 can.
-/
def wideBar1Raw : Nat → BitVec 8 := fun k => if k = 0x14 then 0x04 else 0

def bar0Only : Nat → BitVec 64 := fun i => if i = 0 then 0x1000 else 0

/-- After `Connect`, a guest dword write at 0x3c passed through to the device makes the next
read of the interrupt pin return 1, and the unpopulated BAR1 reads as a memory BAR with the
64-bit type bit from the start.
-/
theorem guest_reads_unsanitized_bytes
    : ∃ header bars, sanitizePciHeader wideBar1Raw bar0Only = .ok (header, bars)
      ∧ (∃ final, (attach header 0x50 5).run [.write 0x3c [0x00, 0x01, 0x00, 0x00] true]
            = .ok final
          ∧ ∃ after, final.readPciConfigSpace 0x3d 1 = .ok (after, [0x01]))
      ∧ ∃ after, (attach header 0x50 5).readPciConfigSpace 0x14 1 = .ok (after, [0x04]) :=
  ⟨_, _, rfl, ⟨_, rfl, _, rfl⟩, _, rfl⟩

/-- After `Connect`, for every device image, MSI placement and sequence of guest accesses, a
guest read returns the value `SetupPciConfiguration` installed at every sanitized byte that
no write of the sequence covered. Witness: the two copies of config space stay equal, so
the byte keeps its header value through the run (`run_untouched`) and the read returns it.
-/
theorem sanitized_header_survives {raw : Nat → BitVec 8} {regionSizes : Nat → BitVec 64}
    {header : Nat → BitVec 8} {bars : List PciBarRegistration}
    (sanitized : sanitizePciHeader raw regionSizes = .ok (header, bars))
    (msiOffset : Nat) (eventFd : Int) (accesses : List ConfigAccess) {final : ConfigState}
    (h : (attach header msiOffset eventFd).run accesses = .ok final)
    {offset length : Nat} {after : ConfigState} {data : List (BitVec 8)}
    (read : final.readPciConfigSpace offset length = .ok (after, data))
    {k : Nat} (inside : offset ≤ k ∧ k < offset + length)
    (untouched : ∀ access ∈ accesses, access.writes k = false)
    : Sanitized regionSizes k (data.getD (k - offset) 0) := by
  obtain ⟨rfl, rfl⟩ := readPciConfigSpace_ok read
  have unchanged := run_untouched rfl h untouched
  simp only [run_mirrored rfl h, copyBytes_self, readBytes_getD inside, unchanged]
  exact sanitizePciHeader_ok sanitized k

/-- The guest writes interrupt line 0x0b with a byte write at 0x3c and reads the header's
first dword, then reads line and pin: the pin, which no write covered, is still 0.
-/
theorem line_write_keeps_irq_pin
    : ∃ header bars, sanitizePciHeader wideBar1Raw bar0Only = .ok (header, bars)
      ∧ ∃ final after data,
        (attach header 0x50 5).run [.write 0x3c [0x0b] true, .read 0x00 4] = .ok final
        ∧ final.readPciConfigSpace 0x3c 2 = .ok (after, data)
        ∧ Sanitized bar0Only 0x3d (data.getD (0x3d - 0x3c) 0)
        ∧ data = [0x0b, 0x00] :=
  ⟨_, _, rfl, _, _, _, rfl, rfl,
    sanitized_header_survives (rfl : sanitizePciHeader wideBar1Raw bar0Only = _) 0x50 5
      [.write 0x3c [0x0b] true, .read 0x00 4] rfl (by exact rfl)
      (by decide : 0x3c ≤ 0x3d ∧ 0x3d < 0x3c + 2) (by decide), rfl⟩

-----------------------------------------------------------------------------------------
-- Which writes abort
-----------------------------------------------------------------------------------------

/-- The control byte's queue-size field gives one vector exactly when it is zero. -/
theorem vectors_eq_one_iff (control : BitVec 8)
    : 1 <<< ((control &&& pciMsiFlagsQsize) >>> 4).toNat = 1 ↔ control &&& pciMsiFlagsQsize = 0 := by
  revert control
  decide

/-- A guest config write of at most four bytes inside config space aborts the VM exactly when
it touches the MSI control word's low byte and either the byte it leaves there has a nonzero
queue-size field or VFIO rejects the `VFIO_DEVICE_SET_IRQS` that follows, whether that
binds the eventfd (enable bit set) or unbinds it (enable bit clear). Witness:
`UpdateMsiRoutes` asserts `nr_vectors == 1` and panics on every rejected ioctl.
-/
theorem msi_control_write_aborts_iff {state : ConfigState} {offset : Nat}
    {data : List (BitVec 8)} {irqSetOk : Bool}
    (short : data.length ≤ 4) (inside : offset + data.length ≤ pciDeviceConfigSize)
    : (∃ message, state.writePciConfigSpace offset data irqSetOk = .error message)
      ↔ rangesOverlap offset data.length (state.msiOffset + pciMsiFlags) 1 = true
        ∧ (writeBytes state.pciHeader offset data (state.msiOffset + pciMsiFlags)
            &&& pciMsiFlagsQsize ≠ 0 ∨ irqSetOk = false) := by
  simp only [writePciConfigSpace, pciDeviceWritePciConfigSpace, short, inside, not_true_eq_false,
    if_false]
  split
  next overlap =>
    simp only [updateMsiRoutes, ne_eq, vectors_eq_one_iff, overlap, true_and]
    split_ifs <;> simp_all [throw, throwThe, MonadExceptOf.throw]
  next apart => simp [apart]

/-- After `Connect` with MSI at 0x50, a guest writing 0x10 to the control byte (queue size of
two vectors, enable bit clear) aborts the VM although VFIO accepts the ioctl, and a guest
writing 0 there aborts it when VFIO rejects the unbind.
-/
theorem guest_control_writes_abort
    : (∃ message, (attach (fun _ => 0) 0x50 5).writePciConfigSpace 0x52 [0x10] true
          = .error message)
      ∧ ∃ message, (attach (fun _ => 0) 0x50 5).writePciConfigSpace 0x52 [0x00] false
          = .error message :=
  ⟨(msi_control_write_aborts_iff (by decide) (by decide)).mpr ⟨rfl, .inl (by decide)⟩,
    (msi_control_write_aborts_iff (by decide) (by decide)).mpr ⟨rfl, .inr rfl⟩⟩

end MVisor.Vfio.ConfigState
