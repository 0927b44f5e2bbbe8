/-
# Plain disks — directories and no links

What is proved of a search for disks without symbolic links needs no more of
the disk than that its listings are *plain*.  Every volume that holds no link,
and whose names are proper and differ where they stand together, is such a disk
(`Volume.plain_disk`).
-/
import Frontier.Proofs.Search.PathJoin
import Frontier.Search.Examination
import Frontier.Search.Volume
import Mathlib

namespace Frontier

/-- The names in a listing. -/
def Search.namesOf (listing : Search.Listing) : List OsText :=
  listing.filterMap fun part => part.toOption.map DirEntry.name

/-- A disk without symbolic links: a directory lists proper names, each of them once, and says of
none that it is a link. -/
structure Disk.Plain (disk : Disk) : Prop where
  proper {p : Path} {listing : Search.Listing} {e : DirEntry} :
    disk.list p = .ok listing → .ok e ∈ listing → Path.Proper e.name
  not_link {p : Path} {listing : Search.Listing} {e : DirEntry} :
    disk.list p = .ok listing → .ok e ∈ listing → e.isLink = false
  names_nodup {p : Path} {listing : Search.Listing} :
    disk.list p = .ok listing → (Search.namesOf listing).Nodup

/-- A file tree without links. -/
inductive Node.Plain : Node → Prop
  | file : Plain .file
  | special : Plain .special
  | dir {entries : List (OsText × Node)} : (entries.map Prod.fst).Nodup →
      (∀ e ∈ entries, Path.Proper e.1) → (∀ e ∈ entries, Plain e.2) → Plain (.dir entries)

namespace Node

theorem mem_of_find? {entries : List (OsText × Node)} {name : OsText} {n : Node}
    (h : find? entries name = some n) : (name, n) ∈ entries := by
  obtain ⟨⟨name', n'⟩, hfind, rfl⟩ := Option.map_eq_some_iff.mp h
  have hname : name' = name := by simpa using List.find?_some hfind
  exact hname ▸ List.mem_of_find?_eq_some hfind

theorem Plain.of_dir {entries : List (OsText × Node)} (h : Plain (Node.dir entries)) :
    (entries.map Prod.fst).Nodup ∧ ∀ e ∈ entries, Path.Proper e.1 ∧ e.2.Plain := by
  cases h with
  | dir hnodup hproper hall => exact ⟨hnodup, fun e he => ⟨hproper e he, hall e he⟩⟩

theorem Plain.at? {n n' : Node} {names : List OsText} (h : n.Plain) (hat : n.at? names = some n') :
    n'.Plain := by
  induction names generalizing n with
  | nil =>
      cases n <;> cases hat <;> exact h
  | cons name rest ih =>
      cases h with
      | file | special => cases hat
      | dir _ _ hall =>
          rw [Node.at?] at hat
          split at hat
          · next m hfind => exact ih (hall _ (mem_of_find? hfind)) hat
          · cases hat

end Node

namespace Volume

variable {v : Volume}

theorem plain_node (h : v.top.Plain) {last : Bool} {p : Path} {n : Node}
    (hn : v.node last p = .ok n) : n.Plain := by
  unfold node at hn
  cases hlocation : v.resolve last p with
  | error e =>
      rw [hlocation] at hn
      cases hn
  | ok location =>
      rw [hlocation] at hn
      cases hat : v.top.at? location with
      | none => simp [Bind.bind, Except.bind, hat] at hn
      | some n' =>
          obtain rfl : n' = n := by simpa [Bind.bind, Except.bind, hat] using hn
          exact h.at? hat

/-- What is listed is what a directory holds. -/
theorem exists_entries_of_list (h : v.top.Plain) {p : Path} {listing : Search.Listing}
    (hlist : v.disk.list p = .ok listing) :
    ∃ entries, (Node.dir entries).Plain ∧
      listing = entries.map fun e => .ok ⟨e.1, isLinkNode e.2⟩ := by
  have hlist' : (v.node true p).bind listNode = .ok listing := hlist
  cases hnode : v.node true p with
  | error e =>
      rw [hnode] at hlist'
      cases hlist'
  | ok n =>
      rw [hnode] at hlist'
      have hplain := plain_node h hnode
      cases n with
      | dir entries =>
          cases hlist'
          exact ⟨entries, hplain, rfl⟩
      | _ => cases hlist'

/-- A volume without links is a plain disk. -/
theorem plain_disk (h : v.top.Plain) : v.disk.Plain where
  proper hlist he := by
    obtain ⟨entries, hdir, rfl⟩ := exists_entries_of_list h hlist
    obtain ⟨entry, hentry, heq⟩ := List.mem_map.mp he
    cases heq
    exact (hdir.of_dir.2 entry hentry).1
  not_link hlist he := by
    obtain ⟨entries, hdir, rfl⟩ := exists_entries_of_list h hlist
    obtain ⟨⟨name, n⟩, hentry, heq⟩ := List.mem_map.mp he
    cases heq
    cases (hdir.of_dir.2 _ hentry).2 <;> rfl
  names_nodup hlist := by
    obtain ⟨entries, hdir, rfl⟩ := exists_entries_of_list h hlist
    have hnames : Search.namesOf (entries.map fun e => .ok ⟨e.1, isLinkNode e.2⟩) =
        entries.map Prod.fst := by
      rw [Search.namesOf, List.filterMap_map, ← List.filterMap_eq_map]
      rfl
    rw [hnames]
    exact hdir.of_dir.1

end Volume

end Frontier
