import Courtside.Data.Dict

/-!
# Files and open handles

A `Disk` keeps names and files apart: `entries` says which file a path names,
`content` what a file holds.  A handle is the file itself, so it survives the
removal of its name; writing through it then changes a file that nothing names any
more.  Two paths never name one file, and a new file is one that no path has named
before: both are fields.

`file?` is the observation the laws are about: the handle and the content which a
path leads to.  Every operation changes it at one path, or removes it, and leaves it
alone elsewhere; a write through a handle shows at the path that names its file
(`file?_modify_self`) and nowhere else (`file?_modify_of_ne`).
-/

universe u v

namespace Courtside

/-- Named files. -/
structure Disk (π : Type u) (β : Type v) [DecidableEq π] where
  /-- The file which a path names. -/
  entries : Dict π ℕ
  /-- What a file holds, named or not. -/
  content : ℕ → β
  /-- The file which is created next. -/
  next : ℕ
  /-- Named files have been created. -/
  lt_next : ∀ p i, entries.get? p = some i → i < next
  /-- A file has one name. -/
  name_unique : ∀ p q i, entries.get? p = some i → entries.get? q = some i → p = q

namespace Disk

variable {π : Type u} {β : Type v} [DecidableEq π]

/-- The disk without files. -/
def empty (default : β) : Disk π β where
  entries := Dict.empty
  content := fun _ ↦ default
  next := 0
  lt_next := fun _ _ h ↦ by cases h
  name_unique := fun _ _ _ h ↦ by cases h

/-- The file at a path, with what it holds. -/
def file? (disk : Disk π β) (p : π) : Option (ℕ × β) :=
  (disk.entries.get? p).map fun i ↦ (i, disk.content i)

/-- What the file at a path holds. -/
def read (disk : Disk π β) (p : π) : Option β := (disk.file? p).map Prod.snd

/-- The paths that name a file. -/
def paths (disk : Disk π β) : List π := disk.entries.keys

theorem mem_paths_iff {disk : Disk π β} {p : π} : p ∈ disk.paths ↔ ∃ b, disk.read p = some b := by
  rw [paths, Dict.mem_keys_iff]
  simp [read, file?]

/-- Changes the file behind a handle. -/
def modify (disk : Disk π β) (i : ℕ) (f : β → β) : Disk π β :=
  { disk with content := fun j ↦ if j = i then f (disk.content j) else disk.content j }

/-- Creates a file under a name. -/
def create (disk : Disk π β) (p : π) (b : β) : Disk π β where
  entries := disk.entries.set p disk.next
  content := fun j ↦ if j = disk.next then b else disk.content j
  next := disk.next + 1
  lt_next := by
    intro q i hq
    rw [Dict.get?_set] at hq
    split at hq
    · cases hq; exact Nat.lt_succ_self _
    · exact Nat.lt_succ_of_lt (disk.lt_next q i hq)
  name_unique := by
    intro q r i hq hr
    rw [Dict.get?_set] at hq hr
    split at hq <;> split at hr
    · exact (‹q = p›).trans (‹r = p›).symm
    · cases hq; exact absurd (disk.lt_next r _ hr) (Nat.lt_irrefl _)
    · cases hr; exact absurd (disk.lt_next q _ hq) (Nat.lt_irrefl _)
    · exact disk.name_unique q r i hq hr

/-- Opens a path for writing: an existing file is emptied, a missing one created.
Returns the handle. -/
def openTrunc (disk : Disk π β) (p : π) (b : β) : ℕ × Disk π β :=
  match disk.entries.get? p with
  | some i => (i, disk.modify i fun _ ↦ b)
  | none => (disk.next, disk.create p b)

/-- Opens, writes and closes. -/
def save (disk : Disk π β) (p : π) (b : β) : Disk π β := (disk.openTrunc p b).2

/-- Removes the names that satisfy a test. -/
def remove (disk : Disk π β) (gone : π → Bool) : Disk π β :=
  { disk with
    entries := disk.entries.filterKeys fun p ↦ !gone p
    lt_next := fun p i h ↦ by
      rw [Dict.get?_filterKeys] at h
      split at h
      · exact disk.lt_next p i h
      · cases h
    name_unique := fun p q i hp hq ↦ by
      rw [Dict.get?_filterKeys] at hp hq
      split at hp <;> split at hq
      · exact disk.name_unique p q i hp hq
      all_goals first | cases hp | cases hq }

/-! ## Writing through a handle -/

theorem entries_of_file? {disk : Disk π β} {p : π} {i : ℕ} {b : β}
    (h : disk.file? p = some (i, b)) : disk.entries.get? p = some i ∧ disk.content i = b := by
  obtain ⟨j, hj, heq⟩ := Option.map_eq_some_iff.mp h
  obtain ⟨rfl, rfl⟩ := Prod.mk.inj heq
  exact ⟨hj, rfl⟩

/-- The path that names a file shows what is written to it. -/
theorem file?_modify_self {disk : Disk π β} {p : π} {i : ℕ} {b : β} (f : β → β)
    (h : disk.file? p = some (i, b)) : (disk.modify i f).file? p = some (i, f b) := by
  obtain ⟨hp, rfl⟩ := entries_of_file? h
  simp [file?, modify, hp]

/-- A write shows at no other path. -/
theorem file?_modify_of_ne {disk : Disk π β} {p q : π} {i : ℕ} {b : β} (f : β → β)
    (h : disk.file? p = some (i, b)) (hq : q ≠ p) : (disk.modify i f).file? q = disk.file? q := by
  obtain ⟨hp, -⟩ := entries_of_file? h
  cases hj : disk.entries.get? q with
  | none => simp [file?, modify, hj]
  | some j =>
      have hji : j ≠ i := fun hji ↦ hq (disk.name_unique q p i (hji ▸ hj) hp)
      simp [file?, modify, hj, hji]

/-! ## Opening and saving -/

/-- **Opening.**  The path leads to the handle, whose file is empty; nothing else
changes. -/
theorem file?_openTrunc (disk : Disk π β) (p q : π) (b : β) :
    (disk.openTrunc p b).2.file? q =
      if q = p then some ((disk.openTrunc p b).1, b) else disk.file? q := by
  unfold openTrunc
  split
  · next i hi =>
      have hfile : disk.file? p = some (i, disk.content i) := by rw [file?, hi, Option.map_some]
      split
      · next hq => rw [hq]; exact file?_modify_self _ hfile
      · next hq => exact file?_modify_of_ne _ hfile hq
  · split
    · next hq => simp [file?, create, hq]
    · next hq =>
        rw [file?, create, Dict.get?_set_of_ne _ _ hq, file?]
        cases hj : disk.entries.get? q with
        | none => rfl
        | some j =>
            have hjn : j ≠ disk.next := Nat.ne_of_lt (disk.lt_next q j hj)
            simp [hjn]

/-- Opening a file that exists gives its handle. -/
theorem fst_openTrunc_of_file? {disk : Disk π β} {p : π} {i : ℕ} {b : β} (b' : β)
    (h : disk.file? p = some (i, b)) : (disk.openTrunc p b').1 = i := by
  rw [openTrunc, (entries_of_file? h).1]

theorem file?_save_of_ne (disk : Disk π β) {p q : π} (b : β) (h : q ≠ p) :
    (disk.save p b).file? q = disk.file? q := by rw [save, file?_openTrunc, if_neg h]

/-- Reading after a file has been saved. -/
theorem read_save (disk : Disk π β) (p q : π) (b : β) :
    (disk.save p b).read q = if q = p then some b else disk.read q := by
  rw [read, save, file?_openTrunc]
  split <;> rfl

@[simp] theorem read_save_self (disk : Disk π β) (p : π) (b : β) :
    (disk.save p b).read p = some b := by rw [read_save, if_pos rfl]

theorem read_save_of_ne (disk : Disk π β) {p q : π} (b : β) (h : q ≠ p) :
    (disk.save p b).read q = disk.read q := by rw [read_save, if_neg h]

/-! ## Sequences of writes -/

/-- Saves files one after the other. -/
def saveAll (disk : Disk π β) (writes : List (π × β)) : Disk π β :=
  writes.foldl (fun disk write ↦ disk.save write.1 write.2) disk

@[simp] theorem saveAll_nil (disk : Disk π β) : disk.saveAll [] = disk := rfl

@[simp] theorem saveAll_cons (disk : Disk π β) (write : π × β) (writes : List (π × β)) :
    disk.saveAll (write :: writes) = (disk.save write.1 write.2).saveAll writes := rfl

theorem saveAll_append (disk : Disk π β) (writes₁ writes₂ : List (π × β)) :
    disk.saveAll (writes₁ ++ writes₂) = (disk.saveAll writes₁).saveAll writes₂ :=
  List.foldl_append

/-- A path that is not written to keeps its file. -/
theorem file?_saveAll_of_forall_ne {writes : List (π × β)} {p : π}
    (h : ∀ write ∈ writes, p ≠ write.1) (disk : Disk π β) :
    (disk.saveAll writes).file? p = disk.file? p := by
  induction writes generalizing disk with
  | nil => rfl
  | cons write writes ih =>
      obtain ⟨hne, h⟩ := List.forall_mem_cons.mp h
      rw [saveAll_cons, ih h, file?_save_of_ne _ _ hne]

/-- A file was written, or was there before. -/
theorem mem_of_read_saveAll {writes : List (π × β)} {disk : Disk π β} {p : π} {b : β}
    (h : (disk.saveAll writes).read p = some b) : (p, b) ∈ writes ∨ disk.read p = some b := by
  induction writes generalizing disk with
  | nil => exact .inr h
  | cons write writes ih =>
      rcases ih h with hmem | hread
      · exact .inl (List.mem_cons_of_mem _ hmem)
      · rw [read_save] at hread
        split at hread
        · next hp =>
            obtain rfl : write.2 = b := Option.some.inj hread
            exact .inl (hp ▸ List.mem_cons_self)
        · exact .inr hread

/-- A file that is written only once, or always with the same content, is there
afterwards. -/
theorem read_saveAll_of_mem {writes : List (π × β)} {p : π} {b : β} (hmem : (p, b) ∈ writes)
    (hsame : ∀ b', (p, b') ∈ writes → b' = b) (disk : Disk π β) :
    (disk.saveAll writes).read p = some b := by
  induction writes generalizing disk with
  | nil => cases hmem
  | cons write writes ih =>
      by_cases htail : (p, b) ∈ writes
      · exact ih htail (fun b' h ↦ hsame b' (List.mem_cons_of_mem _ h)) _
      · obtain rfl : (p, b) = write := (List.mem_cons.mp hmem).resolve_right htail
        -- no later write touches the path: it would be this one again
        have hne : ∀ write ∈ writes, p ≠ write.1 := by
          rintro ⟨_, b'⟩ hw rfl
          exact htail (hsame b' (List.mem_cons_of_mem _ hw) ▸ hw)
        rw [saveAll_cons, read, file?_saveAll_of_forall_ne hne, ← read, read_save_self]

/-! ## Removing -/

/-- A removed name leads nowhere; its file, if it is open, is still there. -/
theorem file?_remove (disk : Disk π β) (gone : π → Bool) (p : π) :
    (disk.remove gone).file? p = if gone p then none else disk.file? p := by
  rw [file?, remove, Dict.get?_filterKeys, file?]
  cases gone p <;> rfl

end Disk

end Courtside
