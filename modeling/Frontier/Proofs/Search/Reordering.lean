/-
# Reordering — disks that list their directories in another order

How a directory is listed is up to the file system, and may change from one
search to the next.  Two disks that differ in no more than that have the same
ways (`Way.of_reorders`), and what covers the roots on the one covers them on
the other (`Covered.of_reorders`).
-/
import Frontier.Proofs.Search.Ledger
import Mathlib

namespace Frontier

open Search (Listing)

/-- The second disk answers what the first one answers, but it may list a directory in another
order. -/
structure Disk.Reorders (disk disk' : Disk) : Prop where
  kind : disk'.kind = disk.kind
  isLink : disk'.isLink = disk.isLink
  canonical : disk'.canonical = disk.canonical
  list (path : Path) : (disk'.list path).map Multiset.ofList = (disk.list path).map Multiset.ofList

namespace Disk.Reorders

variable {disk disk' : Disk} {path : Path} {listing : Listing}

theorem refl (disk : Disk) : disk.Reorders disk := ⟨rfl, rfl, rfl, fun _ => rfl⟩

theorem symm (h : disk.Reorders disk') : disk'.Reorders disk :=
  ⟨h.kind.symm, h.isLink.symm, h.canonical.symm, fun path => (h.list path).symm⟩

theorem classify (h : disk.Reorders disk') : disk'.classify path = disk.classify path := by
  rw [Disk.classify, Disk.classify, h.kind, h.isLink]

theorem exists_listing (h : disk.Reorders disk') (hlist : disk.list path = .ok listing) :
    ∃ listing', disk'.list path = .ok listing' ∧ listing'.Perm listing := by
  have hsame := h.list path
  rw [hlist] at hsame
  cases hlist' : disk'.list path with
  | error e =>
      rw [hlist'] at hsame
      cases hsame
  | ok listing' =>
      rw [hlist'] at hsame
      exact ⟨listing', rfl, Multiset.coe_eq_coe.mp (Except.ok.inj hsame)⟩

theorem root (h : disk.Reorders disk') (path : Path) :
    Place.root disk' path = Place.root disk path := by
  rw [Place.root, Place.root, h.canonical]

theorem ofEntry (h : disk.Reorders disk') (p : Place) (e : DirEntry) :
    p.ofEntry disk' e = p.ofEntry disk e := by
  rw [Place.ofEntry, Place.ofEntry, Place.childKey, Place.childKey, h.canonical]

end Disk.Reorders

namespace Search

variable {plan plan' : Plan} {disk disk' : Disk} {roots : List Path} {p c : Place}
  {ps : List Place}

theorem keptRoots_of_reorders (h : disk.Reorders disk') :
    keptRoots disk' roots = keptRoots disk roots := by
  rw [keptRoots, keptRoots, funext h.root]

theorem mem_childrenOf_of_reorders (h : plan.disk.Reorders plan'.disk)
    (hmax : plan'.maxDepth = plan.maxDepth) (hc : c ∈ childrenOf plan' p) :
    c ∈ childrenOf plan p := by
  obtain ⟨hdir, hdepth, listing, e, hlist, he, rfl⟩ := mem_childrenOf_iff.mp hc
  rw [h.kind] at hdir
  rw [hmax] at hdepth
  obtain ⟨listing', hlist', hperm⟩ := h.symm.exists_listing hlist
  exact mem_childrenOf_iff.mpr
    ⟨hdir, hdepth, listing', e, hlist', hperm.mem_iff.mpr he, h.ofEntry p e⟩

theorem Way.of_reorders (h : plan.disk.Reorders plan'.disk)
    (hmax : plan'.maxDepth = plan.maxDepth) (hway : Way plan' roots ps) : Way plan roots ps := by
  induction hway with
  | root hp =>
      rw [keptRoots_of_reorders h] at hp
      exact .root hp
  | step _ hc hroot hnew ih =>
      rw [rootMarks, keptRoots_of_reorders h] at hroot
      exact .step ih (mem_childrenOf_of_reorders h hmax hc) hroot hnew

theorem Covered.of_reorders (h : plan.disk.Reorders plan'.disk)
    (hmax : plan'.maxDepth = plan.maxDepth) (hps : Covered plan' roots ps) :
    Covered plan roots ps := by
  refine ⟨hps.nodup, ?_, ?_, ?_⟩
  · intro p hp
    rw [← keptRoots_of_reorders h] at hp
    exact hps.roots_subset p hp
  · intro p hp
    obtain ⟨before, hway, hbefore⟩ := hps.ways p hp
    exact ⟨before, hway.of_reorders h hmax, hbefore⟩
  · intro p hp c hc
    exact hps.closed p hp c (mem_childrenOf_of_reorders h.symm hmax.symm hc)

end Search

end Frontier
