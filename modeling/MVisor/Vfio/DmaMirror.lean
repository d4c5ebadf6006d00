import MVisor.Vfio.Regions
import Mathlib.Logic.Relation

/-! The DMA mirror: `SetupDmaMaps` maps the RAM slots of the flat view it reads and then
registers a memory listener that maps and unmaps slots as the topology changes. Connect's
steps interleave with the memory manager's transitions; a transition reaches the mirror
only once the listener is registered.
-/

namespace MVisor.Vfio

/-- The memory manager's region types, as far as the mirror tells them apart
(`kMemoryTypeRam` or any other).
-/
inductive MemoryType where
  | ram
  | other
  deriving DecidableEq, Repr

/-- A slot of the flat view (`MemorySlot`): guest-physical `[begin, end)` backed by host
virtual address `hva`, and its region's type.
-/
structure MemorySlot where
  begin : BitVec 64
  «end» : BitVec 64
  hva : BitVec 64
  type : MemoryType
  deriving DecidableEq, Repr

/-- `VFIO_DMA_MAP_FLAG_READ | VFIO_DMA_MAP_FLAG_WRITE`. -/
def vfioDmaMapFlagReadWrite : BitVec 32 := 0x3

/-- A mapping of the VFIO container, as `VFIO_IOMMU_MAP_DMA` installs it. -/
structure DmaMapping where
  iova : BitVec 64
  size : BitVec 64
  vaddr : BitVec 64
  flags : BitVec 32
  deriving DecidableEq, Repr

/-- The `vfio_iommu_type1_dma_map` that `MapDmaPages` issues for a slot. -/
def MemorySlot.dmaMap (slot : MemorySlot) : DmaMapping :=
  ⟨slot.begin, slot.end - slot.begin, slot.hva, vfioDmaMapFlagReadWrite⟩

/-- `VfioPci::MapDmaPages`; `ok` is the kernel's answer, and a refusal panics. -/
def mapDmaPages (container : List DmaMapping) (slot : MemorySlot) (ok : Bool)
    : Except String (List DmaMapping) :=
  if ok then pure (container ++ [slot.dmaMap]) else throw "failed to map 0x%lx-0x%lx"

/-- Whether `mapping` lies inside `[iova, iova + size)`. -/
def DmaMapping.within (mapping : DmaMapping) (iova size : BitVec 64) : Bool :=
  iova.toNat ≤ mapping.iova.toNat && mapping.iova.toNat + mapping.size.toNat ≤ iova.toNat + size.toNat

/-- `VfioPci::UnmapDmaPages`: `VFIO_IOMMU_UNMAP_DMA` of the slot's range, which drops every
mapping inside it; the result is not checked.
-/
def unmapDmaPages (container : List DmaMapping) (slot : MemorySlot) : List DmaMapping :=
  container.filter fun mapping => !mapping.within slot.begin (slot.end - slot.begin)

/-- The memory listener `SetupDmaMaps` registers: a RAM slot is unmapped or mapped, any
other slot ignored.
-/
def dmaListener (container : List DmaMapping) (slot : MemorySlot) (unmap ok : Bool)
    : Except String (List DmaMapping) :=
  if slot.type = .ram then
    if unmap then pure (unmapDmaPages container slot) else mapDmaPages container slot ok
  else pure container

/-- The body of `SetupDmaMaps`'s loop over the flat view it read. -/
def setupDmaMapsSlot (container : List DmaMapping) (slot : MemorySlot) (ok : Bool)
    : Except String (List DmaMapping) :=
  if slot.type = .ram then mapDmaPages container slot ok else pure container

def MemorySlot.Disjoint (a b : MemorySlot) : Prop :=
  a.end ≤ b.begin ∨ b.end ≤ a.begin

/-- The memory manager's flat view: non-empty slots that do not overlap. -/
structure FlatView where
  slots : List MemorySlot
  nonempty : ∀ slot ∈ slots, slot.begin < slot.end
  disjoint : slots.Pairwise MemorySlot.Disjoint

/-- A topology transition: the slots it removes from the view and the slots it adds, and
the view that results.
-/
structure Transition where
  removed : List MemorySlot
  added : List MemorySlot
  next : FlatView

/-- The transition removes slots of `view`, and its result is what is left plus what it adds.
-/
def Transition.Valid (transition : Transition) (view : FlatView) : Prop :=
  (∀ slot ∈ transition.removed, slot ∈ view.slots)
  ∧ transition.next.slots = view.slots.filter (· ∉ transition.removed) ++ transition.added

/-- The memory manager's delivery of a transition to a registered listener: an unmap for
every removed slot, then a map for every added slot; `mapOk` is the kernel's answer to each
map.
-/
def deliver (container : List DmaMapping) (transition : Transition)
    (mapOk : MemorySlot → Bool) : Except String (List DmaMapping) := do
  let container ← transition.removed.foldlM (fun c slot => dmaListener c slot true true) container
  transition.added.foldlM (fun c slot => dmaListener c slot false (mapOk slot)) container

/-- Where `Connect` is in `SetupDmaMaps`. -/
inductive SetupPhase where
  | pending
  | mapping (rest : List MemorySlot)
  | registered
  deriving DecidableEq, Repr

/-- The flat view, the progress of `SetupDmaMaps`, and the container's mappings. -/
structure DmaSystem where
  view : FlatView
  phase : SetupPhase
  container : List DmaMapping

/-- One step of `SetupDmaMaps`, or a topology transition at any point of it; a transition
reaches the container only through a registered listener. A panic has no next state.
-/
inductive DmaStep : DmaSystem → DmaSystem → Prop
  | getMemoryFlatView {view : FlatView} {container : List DmaMapping}
      : DmaStep ⟨view, .pending, container⟩ ⟨view, .mapping view.slots, container⟩
  | mapSlot {view : FlatView} {slot : MemorySlot} {rest : List MemorySlot}
      {container mapped : List DmaMapping} (ok : Bool)
      (h : setupDmaMapsSlot container slot ok = .ok mapped)
      : DmaStep ⟨view, .mapping (slot :: rest), container⟩ ⟨view, .mapping rest, mapped⟩
  | registerMemoryListener {view : FlatView} {container : List DmaMapping}
      : DmaStep ⟨view, .mapping [], container⟩ ⟨view, .registered, container⟩
  | transition {view : FlatView} {phase : SetupPhase} {container delivered : List DmaMapping}
      (transition : Transition) (mapOk : MemorySlot → Bool) (valid : transition.Valid view)
      (h : (if phase = .registered then deliver container transition mapOk else pure container)
        = .ok delivered)
      : DmaStep ⟨view, phase, container⟩ ⟨transition.next, phase, delivered⟩

/-- `Connect` starts `SetupDmaMaps` with a fresh container. -/
def DmaSystem.initial (view : FlatView) : DmaSystem := ⟨view, .pending, []⟩

/-- The mappings the container should hold for a list of slots: one per RAM slot. -/
def ramMappings (slots : List MemorySlot) : List DmaMapping :=
  (slots.filter (·.type = .ram)).map MemorySlot.dmaMap

end MVisor.Vfio
