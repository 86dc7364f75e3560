import Courtside.Data.Disk

/-!
# Disks with the same files

Two disks that have been written to in different orders need not agree on which file a path
names, but a reader sees only what the files hold.  `SameFiles held` says that two disks show
the same at every path, except where a file is held open.

Saving and removing on both sides keeps it.  Opening a file on one side adds a path that is
held, and writing through the handle, while the other side saves the file, takes it back
(`SameFiles.finish`).
-/

universe u v

namespace Courtside

namespace Disk

variable {π : Type u} {β : Type v} [DecidableEq π]

/-- The disks show the same at every path that is not held. -/
def SameFiles (held : π → Prop) (disk disk' : Disk π β) : Prop :=
  ∀ p, ¬ held p → disk.read p = disk'.read p

variable {held held' : π → Prop} {disk disk' : Disk π β} {p : π} {i : ℕ} {b : β}

theorem SameFiles.refl (held : π → Prop) (disk : Disk π β) : SameFiles held disk disk :=
  fun _ _ ↦ rfl

theorem SameFiles.mono (h : SameFiles held disk disk') (hheld : ∀ q, held q → held' q) :
    SameFiles held' disk disk' := fun q hq ↦ h q fun hq' ↦ hq (hheld q hq')

theorem read_remove (disk : Disk π β) (gone : π → Bool) (q : π) :
    (disk.remove gone).read q = if gone q then none else disk.read q := by
  rw [read, file?_remove]
  split <;> rfl

theorem SameFiles.save (h : SameFiles held disk disk') (p : π) (b : β) :
    SameFiles held (disk.save p b) (disk'.save p b) := by
  intro q hq
  rw [read_save, read_save, h q hq]

theorem SameFiles.saveAll (h : SameFiles held disk disk') (writes : List (π × β)) :
    SameFiles held (disk.saveAll writes) (disk'.saveAll writes) := by
  induction writes generalizing disk disk' with
  | nil => exact h
  | cons write writes ih => exact ih (h.save write.1 write.2)

theorem SameFiles.remove (h : SameFiles held disk disk') (gone : π → Bool) :
    SameFiles held (disk.remove gone) (disk'.remove gone) := by
  intro q hq
  rw [read_remove, read_remove, h q hq]

/-- A file that is opened on one side is held from then on. -/
theorem SameFiles.openTrunc (h : SameFiles held disk disk') (p : π) (b : β) :
    SameFiles (fun q ↦ q = p ∨ held q) (disk.openTrunc p b).2 disk' := by
  intro q hq
  obtain ⟨hne, hq⟩ := not_or.mp hq
  rw [read, file?_openTrunc, if_neg hne]
  exact h q hq

/-- A file that is written through its handle is held no longer, if it is saved on the other
side. -/
theorem SameFiles.finish (h : SameFiles (fun q ↦ q = p ∨ held q) disk disk') {f : β → β}
    (hfile : disk.file? p = some (i, b)) :
    SameFiles held (disk.modify i f) (disk'.save p (f b)) := by
  intro q hq
  by_cases hqp : q = p
  · rw [hqp, read_save_self, read, file?_modify_self f hfile, Option.map_some]
  · rw [read_save_of_ne _ _ hqp, read, file?_modify_of_ne f hfile hqp]
    exact h q (not_or.mpr ⟨hqp, hq⟩)

/-- Opening a file and writing through its handle saves it. -/
theorem SameFiles.modify_openTrunc (disk : Disk π β) (p : π) (b : β) (f : β → β) :
    SameFiles (fun _ ↦ False) ((disk.openTrunc p b).2.modify (disk.openTrunc p b).1 f)
      (disk.save p (f b)) := by
  refine SameFiles.finish ?_ (by rw [file?_openTrunc, if_pos rfl])
  exact (SameFiles.refl _ disk).openTrunc p b

theorem SameFiles.trans {disk'' : Disk π β} (h : SameFiles held disk disk')
    (h' : SameFiles held disk' disk'') : SameFiles held disk disk'' :=
  fun q hq ↦ (h q hq).trans (h' q hq)

theorem SameFiles.symm (h : SameFiles held disk disk') : SameFiles held disk' disk :=
  fun q hq ↦ (h q hq).symm

end Disk

end Courtside
