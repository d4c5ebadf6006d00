import MVisor.Vfio.DmaMirror
import Mathlib.Data.List.Pairwise
import Mathlib.Data.List.Perm.Basic

/-! Runs of `SetupDmaMaps` interleaved with topology transitions. A transition between the
flat-view read and the listener registration is lost to the mirror; with none there, the
container holds exactly the RAM slots of the view at every point after `Connect`.
-/

namespace MVisor.Vfio

-----------------------------------------------------------------------------------------
-- What the listener does to the container
-----------------------------------------------------------------------------------------

@[simp] theorem ramMappings_nil : ramMappings [] = [] := rfl

theorem ramMappings_append (a b : List MemorySlot)
    : ramMappings (a ++ b) = ramMappings a ++ ramMappings b := by
  simp [ramMappings]

theorem ramMappings_cons (slot : MemorySlot) (rest : List MemorySlot)
    : ramMappings (slot :: rest)
      = (if slot.type = .ram then [slot.dmaMap] else []) ++ ramMappings rest := by
  by_cases ram : slot.type = .ram <;> simp [ramMappings, ram]

theorem MemorySlot.disjoint_symm : Symmetric MemorySlot.Disjoint :=
  fun _ _ apart => apart.symm

/-- In a flat view, the unmap of a slot's range catches that slot's mapping and no other
slot's. Witness: two distinct slots of the view are disjoint and non-empty.
-/
theorem FlatView.within_iff {view : FlatView} {slot other : MemorySlot}
    (present : slot ∈ view.slots) (member : other ∈ view.slots)
    : other.dmaMap.within slot.begin (slot.end - slot.begin) = true ↔ other = slot := by
  have sized := view.nonempty slot present
  constructor
  · intro inside
    by_contra different
    have apart := view.disjoint.forall MemorySlot.disjoint_symm member present different
    have otherSized := view.nonempty other member
    simp only [DmaMapping.within, MemorySlot.dmaMap, Bool.and_eq_true, decide_eq_true_eq] at inside
    unfold MemorySlot.Disjoint at apart
    bv_omega
  · rintro rfl
    simp [DmaMapping.within, MemorySlot.dmaMap]

/-- Unmapping a slot of the view from mappings of view slots removes exactly that slot's
mapping. Witness: `within_iff` decides the kernel's filter on every remaining mapping.
-/
theorem dmaListener_unmap {view : FlatView} {slot : MemorySlot} (present : slot ∈ view.slots)
    {slots : List MemorySlot} (inView : ∀ other ∈ slots, other ∈ view.slots)
    {container : List DmaMapping} (mirrored : container.Perm (ramMappings slots))
    : ∃ unmapped, dmaListener container slot true true = .ok unmapped
      ∧ unmapped.Perm (ramMappings (slots.filter (· ≠ slot))) := by
  by_cases ram : slot.type = .ram
  · refine ⟨unmapDmaPages container slot, by simp [dmaListener, ram], ?_⟩
    refine (mirrored.filter _).trans (List.Perm.of_eq ?_)
    simp only [ramMappings, List.filter_map, List.filter_filter]
    congr 1
    apply List.filter_congr
    intro other member
    have inside := FlatView.within_iff present (inView other member)
    by_cases same : other = slot <;> simp_all
  · refine ⟨container, by simp [dmaListener, ram], mirrored.trans (List.Perm.of_eq ?_)⟩
    simp only [ramMappings, List.filter_filter]
    congr 1
    apply List.filter_congr
    intro other _
    by_cases same : other = slot <;> simp_all

/-- The unmaps of a transition's removed slots leave the mappings of the slots not removed,
by induction over the removed slots.
-/
theorem foldlM_unmap {view : FlatView}
    : ∀ (removed : List MemorySlot), (∀ slot ∈ removed, slot ∈ view.slots)
      → ∀ {slots : List MemorySlot}, (∀ other ∈ slots, other ∈ view.slots)
      → ∀ {container : List DmaMapping}, container.Perm (ramMappings slots)
      → ∃ unmapped, removed.foldlM (fun c slot => dmaListener c slot true true) container
          = .ok unmapped
        ∧ unmapped.Perm (ramMappings (slots.filter (· ∉ removed)))
  | [], _, slots, _, container, mirrored => ⟨container, rfl, by simpa using mirrored⟩
  | slot :: rest, present, slots, inView, container, mirrored => by
      obtain ⟨unmapped, hslot, hperm⟩ :=
        dmaListener_unmap (present slot (by simp)) inView mirrored
      obtain ⟨final, hrest, hfinal⟩ := foldlM_unmap rest (fun s m => present s (by simp [m]))
        (fun other member => inView other (List.mem_of_mem_filter member)) hperm
      refine ⟨final, by simp [hslot, hrest], hfinal.trans (List.Perm.of_eq ?_)⟩
      simp only [List.filter_filter, List.mem_cons, not_or]
      congr 2
      funext other
      simp [Bool.and_comm]

/-- The maps of a transition's added slots append the added RAM slots' mappings, by
induction over the added slots; a refused map is a panic and never returns.
-/
theorem foldlM_map {mapOk : MemorySlot → Bool}
    : ∀ (added : List MemorySlot) {container mapped : List DmaMapping},
      added.foldlM (fun c slot => dmaListener c slot false (mapOk slot)) container = .ok mapped
      → mapped = container ++ ramMappings added
  | [], container, mapped, h => by cases h; simp
  | slot :: rest, container, mapped, h => by
      rw [List.foldlM_cons] at h
      obtain ⟨middle, hslot, hrest⟩ := bind_eq_ok h
      rw [foldlM_map rest hrest, ramMappings_cons]
      by_cases ram : slot.type = .ram
      · cases hok : mapOk slot <;>
          simp [dmaListener, mapDmaPages, ram, hok] at hslot
        simp [← hslot, ram]
      · simp only [dmaListener, ram, if_false] at hslot
        cases hslot
        simp [ram]

/-- A delivered transition turns mappings of the old view's RAM slots into mappings of the
new view's. Witness: the removed slots' unmaps, then the added slots' maps, with the
transition's `Valid` equation relating the two views.
-/
theorem deliver_mirrors {view : FlatView} {transition : Transition}
    (valid : transition.Valid view) {mapOk : MemorySlot → Bool}
    {container delivered : List DmaMapping} (mirrored : container.Perm (ramMappings view.slots))
    (h : deliver container transition mapOk = .ok delivered)
    : delivered.Perm (ramMappings transition.next.slots) := by
  obtain ⟨unmapped, hunmap, hperm⟩ := foldlM_unmap transition.removed valid.1 (fun _ m => m)
    mirrored
  obtain ⟨middle, hfirst, hsecond⟩ := bind_eq_ok h
  rw [hunmap] at hfirst
  cases hfirst
  rw [foldlM_map transition.added hsecond, valid.2, ramMappings_append]
  exact hperm.append_right _

-----------------------------------------------------------------------------------------
-- Runs of `SetupDmaMaps` against the memory manager
-----------------------------------------------------------------------------------------

/-- The spec's hot-added slot: RAM `[0x40000000, 0x80000000)` at host address 0x7f00000000.
-/
def hotAddSlot : MemorySlot := ⟨0x40000000, 0x80000000, 0x7f00000000, .ram⟩

def hotAddView : FlatView := ⟨[hotAddSlot], by decide, List.pairwise_singleton _ _⟩

def emptyView : FlatView := ⟨[], by simp, List.Pairwise.nil⟩

/-- The transition that removes the hot-added slot again. -/
def hotRemove : Transition := ⟨[hotAddSlot], [], emptyView⟩

/-- `SetupDmaMaps` reads a view holding the slot, the slot is removed before the listener is
registered, and `Connect` returns with the slot still mapped in a container whose view no
longer has it.
-/
theorem removal_before_listener_leaves_stale_mapping
    : ∃ final, Relation.ReflTransGen DmaStep (DmaSystem.initial hotAddView) final
      ∧ final.phase = .registered
      ∧ final.container = [hotAddSlot.dmaMap]
      ∧ ramMappings final.view.slots = [] :=
  ⟨_, .tail (.tail (.tail (.single .getMemoryFlatView)
      (.transition hotRemove (fun _ => true) ⟨by simp [hotRemove, hotAddView], by decide⟩ rfl))
      (.mapSlot true rfl)) .registerMemoryListener,
    rfl, rfl, rfl⟩

/-- The container mirrors the view as far as `SetupDmaMaps` has got: empty before it reads
the view, the RAM slots of the part it has mapped while it iterates, and the RAM slots of
the current view once the listener is registered.
-/
def DmaSystem.Mirrored (system : DmaSystem) : Prop :=
  match system.phase with
  | .pending => system.container = []
  | .mapping rest =>
      ∃ done, system.view.slots = done ++ rest ∧ system.container.Perm (ramMappings done)
  | .registered => system.container.Perm (ramMappings system.view.slots)

/-- A step other than a transition landing while `SetupDmaMaps` iterates over the view it
has read.
-/
def AtomicSetupStep (system next : DmaSystem) : Prop :=
  DmaStep system next ∧ ∀ rest, system.phase = .mapping rest → next.view = system.view

/-- Every such step keeps the container mirroring the view, by cases on the step; a
delivered transition is `deliver_mirrors`.
-/
theorem DmaSystem.Mirrored.step {system next : DmaSystem} (mirrored : system.Mirrored)
    (h : AtomicSetupStep system next)
    : next.Mirrored := by
  obtain ⟨step, quiet⟩ := h
  cases step with
  | getMemoryFlatView => exact ⟨[], rfl, by rw [show _ = [] from mirrored]; rfl⟩
  | @mapSlot view slot rest container mapped ok hmap =>
      obtain ⟨done, hview, hperm⟩ := mirrored
      refine ⟨done ++ [slot], by simpa using hview, ?_⟩
      rw [ramMappings_append, ramMappings_cons, ramMappings_nil, List.append_nil]
      by_cases ram : slot.type = .ram
      · cases ok <;> simp [setupDmaMapsSlot, mapDmaPages, ram] at hmap
        simpa [← hmap, ram] using hperm.append_right [slot.dmaMap]
      · simp only [setupDmaMapsSlot, ram, if_false, pure_eq_ok, Except.ok.injEq] at hmap
        simpa [← hmap, ram] using hperm
  | @registerMemoryListener view container =>
      obtain ⟨done, hview, hperm⟩ := mirrored
      show container.Perm (ramMappings view.slots)
      rw [show view.slots = done by simpa using hview]
      exact hperm
  | @transition view phase container delivered transition mapOk valid hdeliver =>
      cases phase with
      | pending =>
          simp only [reduceCtorEq, if_false, pure_eq_ok, Except.ok.injEq] at hdeliver
          subst hdeliver
          exact mirrored
      | mapping rest =>
          simp only [reduceCtorEq, if_false, pure_eq_ok, Except.ok.injEq] at hdeliver
          subst hdeliver
          have same : transition.next = view := quiet rest rfl
          simpa [DmaSystem.Mirrored, same] using mirrored
      | registered =>
          simp only [if_true] at hdeliver
          exact deliver_mirrors valid mirrored hdeliver

theorem DmaSystem.Mirrored.run {system final : DmaSystem} (mirrored : system.Mirrored)
    (h : Relation.ReflTransGen AtomicSetupStep system final)
    : final.Mirrored := by
  induction h with
  | refl => exact mirrored
  | tail _ step ih => exact ih.step step

/-- For every initial flat view and every interleaving of `SetupDmaMaps` with topology
transitions in which no transition lands between its read of the flat view and its
listener registration, at every point after `Connect` returns the container holds one
read-write mapping `[begin, end) → hva` for each RAM slot of the current view and nothing
else.
-/
theorem dma_mirror_after_connect (view : FlatView) {final : DmaSystem}
    (run : Relation.ReflTransGen AtomicSetupStep (DmaSystem.initial view) final)
    (connected : final.phase = .registered)
    : final.container.Perm (ramMappings final.view.slots)
      ∧ ∀ mapping, mapping ∈ final.container
        ↔ ∃ slot ∈ final.view.slots, slot.type = .ram ∧ slot.dmaMap = mapping := by
  have mirrored : final.Mirrored :=
    DmaSystem.Mirrored.run (show (DmaSystem.initial view).Mirrored from rfl) run
  simp only [DmaSystem.Mirrored, connected] at mirrored
  refine ⟨mirrored, fun mapping => ?_⟩
  rw [mirrored.mem_iff]
  simp [ramMappings, and_assoc]

/-- The transition that hot-adds the spec's slot to an empty view. -/
def hotAdd : Transition := ⟨[], [hotAddSlot], hotAddView⟩

/-- `Connect` over an empty view, then the hot add, delivered to the registered listener: the
container maps the added slot.
-/
theorem hot_add_mirrored_after_connect
    : ∃ final, Relation.ReflTransGen AtomicSetupStep (DmaSystem.initial emptyView) final
      ∧ final.phase = .registered
      ∧ (final.container.Perm (ramMappings final.view.slots)
        ∧ ∀ mapping, mapping ∈ final.container
          ↔ ∃ slot ∈ final.view.slots, slot.type = .ram ∧ slot.dmaMap = mapping)
      ∧ final.view = hotAddView ∧ final.container = [hotAddSlot.dmaMap] :=
  have run : Relation.ReflTransGen AtomicSetupStep (DmaSystem.initial emptyView)
      ⟨hotAddView, .registered, [hotAddSlot.dmaMap]⟩ :=
    .tail (.tail (.single ⟨.getMemoryFlatView, by simp [DmaSystem.initial]⟩)
      ⟨.registerMemoryListener, fun _ _ => rfl⟩)
      ⟨.transition hotAdd (fun _ => true) ⟨by simp [hotAdd], by decide⟩ rfl,
        fun _ registered => nomatch registered⟩
  ⟨_, run, rfl, dma_mirror_after_connect emptyView run rfl, rfl, rfl⟩

end MVisor.Vfio
