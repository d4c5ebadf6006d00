import MVisor.Vfio.Regions

/-! The config-space proxy: the guest-visible header `pci_header_`, the device's own
config space behind `device_fd_`, and the guest's reads and writes between them.
Config space is byte-addressed; multi-byte registers are little-endian, so a flag of the
MSI control word is a bit of the byte that holds it.
-/

namespace MVisor.Vfio

/-- `PCI_DEVICE_CONFIG_SIZE`. -/
def pciDeviceConfigSize : Nat := 256

def pciClassCodeOffset : Nat := 0x09
def pciHeaderTypeOffset : Nat := 0x0e
def pciBaseAddress0Offset : Nat := 0x10
def pciInterruptPinOffset : Nat := 0x3d

def pciMultiFunction : BitVec 8 := 0x80
def pciHeaderTypeNormal : BitVec 8 := 0x00
/-- `PCI_BASE_ADDRESS_SPACE_IO`, in the low byte of a BAR. -/
def pciBaseAddressSpaceIo : BitVec 8 := 0x01
/-- `PCI_BASE_ADDRESS_MEM_TYPE_64`, in the low byte of a BAR. -/
def pciBaseAddressMemType64 : BitVec 8 := 0x04

/-- `PCI_MSI_FLAGS`: the control word's offset in the MSI capability. -/
def pciMsiFlags : Nat := 2
/-- `PCI_MSI_FLAGS_ENABLE` (0x0001), in the control word's low byte. -/
def pciMsiFlagsEnable : BitVec 8 := 0x01
/-- `PCI_MSI_FLAGS_QSIZE` (0x0070), in the control word's low byte. -/
def pciMsiFlagsQsize : BitVec 8 := 0x70

/-- The bytes `offset ..< offset + data.length` replaced by `data`. -/
def writeBytes (bytes : Nat → BitVec 8) (offset : Nat) (data : List (BitVec 8))
    : Nat → BitVec 8 :=
  fun k => if offset ≤ k ∧ k < offset + data.length then data.getD (k - offset) 0 else bytes k

/-- The bytes `offset ..< offset + length` of `source` copied over `target`. -/
def copyBytes (target source : Nat → BitVec 8) (offset length : Nat) : Nat → BitVec 8 :=
  fun k => if offset ≤ k ∧ k < offset + length then source k else target k

def readBytes (bytes : Nat → BitVec 8) (offset length : Nat) : List (BitVec 8) :=
  (List.range length).map fun k => bytes (offset + k)

theorem writeBytes_of_not_mem {bytes : Nat → BitVec 8} {offset k : Nat}
    {data : List (BitVec 8)} (outside : ¬ (offset ≤ k ∧ k < offset + data.length))
    : writeBytes bytes offset data k = bytes k := by
  simp [writeBytes, outside]

@[simp] theorem copyBytes_self (bytes : Nat → BitVec 8) (offset length : Nat)
    : copyBytes bytes bytes offset length = bytes := by
  funext k
  simp [copyBytes]

theorem readBytes_getD {bytes : Nat → BitVec 8} {offset length k : Nat}
    (inside : offset ≤ k ∧ k < offset + length)
    : (readBytes bytes offset length).getD (k - offset) 0 = bytes k := by
  simp [readBytes, List.getD_eq_getElem?_getD, show k - offset < length by omega,
    show offset + (k - offset) = k by omega]

/-- Modelled from the spec: `ranges_overlap` (from the repository's utilities, not present)
tells whether `[first1, first1 + len1)` and `[first2, first2 + len2)` share a byte.
-/
def rangesOverlap (first1 len1 first2 len2 : Nat) : Bool :=
  first1 < first2 + len2 && first2 < first1 + len1

/-- A BAR `SetupPciConfiguration` registers with the bus model (`AddPciBar`). -/
structure PciBarRegistration where
  index : Nat
  size : BitVec 64
  type : BarType
  deriving DecidableEq, Repr

/-- One iteration of the BAR loop of `SetupPciConfiguration`: a populated BAR is registered
as PIO or MMIO, and a memory BAR loses its 64-bit type bit.
-/
def setupBar (regionSizes : Nat → BitVec 64)
    (acc : (Nat → BitVec 8) × List PciBarRegistration) (i : Nat)
    : (Nat → BitVec 8) × List PciBarRegistration :=
  let (header, bars) := acc
  let size := regionSizes i
  if size = 0 then (header, bars)
  else
    let low := pciBaseAddress0Offset + 4 * i
    let bar := header low
    if bar &&& pciBaseAddressSpaceIo ≠ 0 then (header, bars ++ [⟨i, size, .pio⟩])
    else
      let header :=
        if bar &&& pciBaseAddressMemType64 ≠ 0 then
          Function.update header low (bar &&& ~~~pciBaseAddressMemType64)
        else header
      (header, bars ++ [⟨i, size, .mmio⟩])

/-- The header rewrites and BAR loop of `SetupPciConfiguration`, applied to the 256 bytes
read from the device: interrupt pin 0, multi-function bit cleared (the rest must then be
`PCI_HEADER_TYPE_NORMAL`), class code 0x030200, and a registration per populated BAR.
The capability walk that follows reads the header and does not change it.
-/
def sanitizePciHeader (raw : Nat → BitVec 8) (regionSizes : Nat → BitVec 64)
    : Except String ((Nat → BitVec 8) × List PciBarRegistration) :=
  let header := Function.update raw pciInterruptPinOffset 0
  let headerType := header pciHeaderTypeOffset &&& ~~~pciMultiFunction
  let header := Function.update header pciHeaderTypeOffset headerType
  if headerType ≠ pciHeaderTypeNormal then throw "pci_header_.header_type == PCI_HEADER_TYPE_NORMAL"
  else
    let header := writeBytes header pciClassCodeOffset [0x00, 0x02, 0x03]
    pure ((List.range 6).foldl (setupBar regionSizes) (header, []))

/-- What the config-space proxy reads and writes: `pci_header_`, the device's config space
(as the config region of `device_fd_` holds it), `msi_config_.offset` and `.enabled`,
`interrupts_[0].event_fd`, and the trigger VFIO holds for MSI vector 0 (-1 for none).
-/
structure ConfigState where
  pciHeader : Nat → BitVec 8
  deviceConfig : Nat → BitVec 8
  msiOffset : Nat
  msiEnabled : Bool
  eventFd : Int
  msiTrigger : Int

namespace ConfigState

/-- The enable bit of the MSI control register in the guest-visible header. -/
def msiEnableBit (state : ConfigState) : Bool :=
  state.pciHeader (state.msiOffset + pciMsiFlags) &&& pciMsiFlagsEnable ≠ 0

/-- The state `Connect` leaves: the sanitized header written back to the device, and no
MSI trigger registered with VFIO yet.
-/
def attach (header : Nat → BitVec 8) (msiOffset : Nat) (eventFd : Int) : ConfigState where
  pciHeader := header
  deviceConfig := header
  msiOffset := msiOffset
  msiEnabled := false
  eventFd := eventFd
  msiTrigger := -1

/-- `VfioPci::UpdateMsiRoutes` for the one vector this core supports: read the control
word, assert a queue size of one vector, and hand VFIO the eventfd when enabled or -1 when
not; `irqSetOk` is VFIO's answer to `VFIO_DEVICE_SET_IRQS`, and a rejection panics.
-/
def updateMsiRoutes (state : ConfigState) (irqSetOk : Bool) : Except String ConfigState :=
  let control := state.pciHeader (state.msiOffset + pciMsiFlags)
  let enabled := control &&& pciMsiFlagsEnable ≠ 0
  let nrVectors := 1 <<< ((control &&& pciMsiFlagsQsize) >>> 4).toNat
  if nrVectors ≠ 1 then throw "nr_vectors == 1"
  else
    let eventFd := if enabled then state.eventFd else -1
    if irqSetOk then pure { state with msiEnabled := enabled, msiTrigger := eventFd }
    else throw "failed to set MSI %u event_fd=%d"

/-- Modelled from the spec: the base model's `PciDevice::WritePciConfigSpace` is not in the
repository; it stores the written bytes in `pci_header_` ("let the base PCI model update
internal state").
-/
def pciDeviceWritePciConfigSpace (state : ConfigState) (offset : Nat) (data : List (BitVec 8))
    : ConfigState :=
  { state with pciHeader := writeBytes state.pciHeader offset data }

/-- Modelled from the spec: the base model's `PciDevice::ReadPciConfigSpace` extracts the
requested bytes of `pci_header_` ("delegate the byte-level extraction to the base PCI
model").
-/
def pciDeviceReadPciConfigSpace (state : ConfigState) (offset length : Nat) : List (BitVec 8) :=
  readBytes state.pciHeader offset length

/-- `VfioPci::WritePciConfigSpace`: forward the bytes to the device, let the base model
store them, and re-arm MSI when the write touches the control word's low byte. The device's
pwrite is taken to succeed and its config space to keep what is written.
-/
def writePciConfigSpace (state : ConfigState) (offset : Nat) (data : List (BitVec 8))
    (irqSetOk : Bool) : Except String ConfigState :=
  let length := data.length
  if ¬ length ≤ 4 then throw "length <= 4"
  else if ¬ offset + length ≤ pciDeviceConfigSize then
    throw "offset + length <= PCI_DEVICE_CONFIG_SIZE"
  else
    let state := { state with deviceConfig := writeBytes state.deviceConfig offset data }
    let state := state.pciDeviceWritePciConfigSpace offset data
    if rangesOverlap offset length (state.msiOffset + pciMsiFlags) 1 then
      state.updateMsiRoutes irqSetOk
    else pure state

/-- `VfioPci::ReadPciConfigSpace`: refresh the requested bytes of `pci_header_` from the
device, then let the base model extract them.
-/
def readPciConfigSpace (state : ConfigState) (offset length : Nat)
    : Except String (ConfigState × List (BitVec 8)) :=
  if ¬ offset + length ≤ pciDeviceConfigSize then
    throw "offset + length <= PCI_DEVICE_CONFIG_SIZE"
  else
    let state := { state with pciHeader := copyBytes state.pciHeader state.deviceConfig offset length }
    pure (state, state.pciDeviceReadPciConfigSpace offset length)

end ConfigState

/-- A guest config-space access; a write carries VFIO's answer to the IRQ-set it may cause. -/
inductive ConfigAccess where
  | read (offset length : Nat)
  | write (offset : Nat) (data : List (BitVec 8)) (irqSetOk : Bool)
  deriving DecidableEq, Repr

/-- Whether an access writes byte `k` of config space. -/
def ConfigAccess.writes : ConfigAccess → Nat → Bool
  | .read _ _, _ => false
  | .write offset data _, k => offset ≤ k && k < offset + data.length

namespace ConfigState

def step (state : ConfigState) : ConfigAccess → Except String ConfigState
  | .read offset length => Prod.fst <$> state.readPciConfigSpace offset length
  | .write offset data irqSetOk => state.writePciConfigSpace offset data irqSetOk

/-- A sequence of guest accesses, stopping at the first panic. -/
def run (state : ConfigState) : List ConfigAccess → Except String ConfigState
  | [] => pure state
  | access :: rest => do run (← state.step access) rest

theorem run_cons_ok {state final : ConfigState} {access : ConfigAccess}
    {rest : List ConfigAccess} (h : state.run (access :: rest) = .ok final)
    : ∃ next, state.step access = .ok next ∧ next.run rest = .ok final :=
  bind_eq_ok h

end ConfigState

end MVisor.Vfio
