import MVisor.Panic

/-! VFIO regions, PCI BARs and the IO resources a passthrough device publishes.
An mmap of the device descriptor is abstracted to the mapping it made, so a published
RAM resource still says which bytes of the device file back it.
-/

namespace MVisor

namespace Vfio

/-- `VFIO_REGION_INFO_FLAG_READ`. -/
def vfioRegionInfoFlagRead : BitVec 32 := 0x1
/-- `VFIO_REGION_INFO_FLAG_WRITE`. -/
def vfioRegionInfoFlagWrite : BitVec 32 := 0x2
/-- `VFIO_REGION_INFO_FLAG_MMAP`. -/
def vfioRegionInfoFlagMmap : BitVec 32 := 0x4

def protRead : BitVec 32 := 0x1
def protWrite : BitVec 32 := 0x2

/-- `PCI_BAR_NUMS`: the BARs of a type-0 header. -/
def pciBarNums : Nat := 6

/-- What `mmap(nullptr, length, protect, MAP_SHARED, device_fd_, offset)` returned: the
mapping of `length` bytes of the device file from `fileOffset`, or `MAP_FAILED`.
-/
inductive HostMemory where
  | mapping (length fileOffset : BitVec 64) (protect : BitVec 32)
  | mapFailed
  deriving DecidableEq, Repr

/-- A sparse mmap area of a region (`VfioMmapArea`); `mmap` is null until the BAR is
mapped.
-/
structure VfioMmapArea where
  offset : BitVec 64
  size : BitVec 64
  mmap : Option HostMemory := none
  deriving DecidableEq, Repr

/-- A VFIO region as `SetupVfioDevice` records it (`VfioRegion`). -/
structure VfioRegion where
  index : Nat := 0
  flags : BitVec 32 := 0
  offset : BitVec 64 := 0
  size : BitVec 64 := 0
  type : Int := 0
  subtype : Int := 0
  mmapAreas : List VfioMmapArea := []
  deriving DecidableEq, Repr

inductive IoResourceType where
  | pio
  | mmio
  | ram
  deriving DecidableEq, Repr

/-- The two kinds `SetupPciConfiguration` registers a BAR as (`AddPciBar`). -/
inductive BarType where
  | pio
  | mmio
  deriving DecidableEq, Repr

def BarType.resourceType : BarType → IoResourceType
  | .pio => .pio
  | .mmio => .mmio

/-- A BAR's trap window is never RAM. -/
theorem BarType.resourceType_ne_ram (type : BarType) : type.resourceType ≠ .ram := by
  cases type <;> simp [BarType.resourceType]

/-- A BAR of the base PCI model (`pci_bars_[i]`): the guest address the guest programmed,
the size `AddPciBar` gave it, and the host memory `MapBarRegion` stores for a whole region.
-/
structure PciBar where
  address : BitVec 64 := 0
  size : BitVec 64 := 0
  type : BarType := .mmio
  hostMemory : Option HostMemory := none
  deriving DecidableEq, Repr

/-- A resource the device publishes to the device manager (`IoResource`). -/
structure IoResource where
  type : IoResourceType
  base : BitVec 64
  length : BitVec 64
  hostMemory : Option HostMemory
  deriving DecidableEq, Repr

/-- The identity `RemoveIoResource` looks a resource up by. -/
def IoResource.key (resource : IoResource) : IoResourceType × BitVec 64 :=
  (resource.type, resource.base)

/-- A memory-management call on the device descriptor, in the order the device makes them. -/
inductive Syscall where
  | mmap (length fileOffset : BitVec 64) (protect : BitVec 32) (result : HostMemory)
  | munmap (address : Option HostMemory) (length : BitVec 64)
  deriving DecidableEq, Repr

/-- What the BAR mapper reads and writes: `regions_`, `pci_bars_`, the device's published
IO resources and the log of its mmap and munmap calls.
-/
structure BarState where
  regions : Nat → VfioRegion
  pciBars : Nat → PciBar
  ioResources : List IoResource
  syscalls : List Syscall

namespace BarState

@[simps]
def setBar (state : BarState) (index : Nat) (bar : PciBar) : BarState :=
  { state with pciBars := Function.update state.pciBars index bar }

@[simps]
def setRegion (state : BarState) (index : Nat) (region : VfioRegion) : BarState :=
  { state with regions := Function.update state.regions index region }

/-- `Device::AddIoResource`: publish a resource after the ones already published. -/
@[simps]
def addIoResource (state : BarState) (type : IoResourceType) (base length : BitVec 64)
    (hostMemory : Option HostMemory) : BarState :=
  { state with ioResources := state.ioResources ++ [⟨type, base, length, hostMemory⟩] }

/-- Modelled from the spec: the base device's `RemoveIoResource(type, base)` is not in the
repository; it withdraws the first published resource of that type and base ("for each
published RAM/MMIO resource, unregister"), and does nothing when there is none.
-/
@[simps]
def removeIoResource (state : BarState) (type : IoResourceType) (base : BitVec 64)
    : BarState :=
  { state with ioResources := state.ioResources.eraseP (fun r => r.key == (type, base)) }

/-- `mmap` of the device descriptor; `ok` is the host's answer to this call. -/
@[simps]
def mmap (state : BarState) (ok : Bool) (length fileOffset : BitVec 64) (protect : BitVec 32)
    : BarState × HostMemory :=
  let result := if ok then HostMemory.mapping length fileOffset protect else .mapFailed
  ({ state with syscalls := state.syscalls ++ [.mmap length fileOffset protect result] }, result)

@[simps]
def munmap (state : BarState) (address : Option HostMemory) (length : BitVec 64) : BarState :=
  { state with syscalls := state.syscalls ++ [.munmap address length] }

end BarState

end Vfio

end MVisor
