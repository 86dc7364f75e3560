import Mathlib.Data.List.Basic

/-!
# Absolute paths

A `Path` is the list of components of an absolute path in which `.`, `..` and empty
components have been resolved; there are no links.  `Path.join dir name` is what
opening `os.path.join(dir, name)` reaches: the components of `name` are entered one
by one, starting from the root if `name` is itself absolute.

`Inside` is containment in a directory, `dir` itself excluded.  A name without a separator
stays in its directory (`join_plain`).  Any other name amounts to a `Walk`, some directories
up and then down, and stays exactly if the way down is the way back and goes on
(`inside_foldl_enter_iff`).
-/

namespace Courtside

/-- An absolute path: its components, outermost first. -/
abbrev Path := List String

namespace Path

/-- The parts of a name between its separators. -/
def components (name : String) : List String := (name.toList.splitOn '/').map String.ofList

/-- One component further. -/
def enter (dir : Path) (component : String) : Path :=
  if component = "" ∨ component = "." then dir
  else if component = ".." then dir.dropLast
  else dir ++ [component]

/-- What `os.path.join(dir, name)` denotes. -/
def join (dir : Path) (name : String) : Path :=
  (components name).foldl enter (if name.toList.head? = some '/' then [] else dir)

/-- A name that can be the name of a directory entry. -/
def Plain (name : String) : Prop :=
  '/' ∉ name.toList ∧ name ≠ "" ∧ name ≠ "." ∧ name ≠ ".."

instance : DecidablePred Plain := fun _ ↦ inferInstanceAs (Decidable (_ ∧ _))

/-- Such a component is entered. -/
theorem enter_plain {component : String} (h : Plain component) (dir : Path) :
    enter dir component = dir ++ [component] := by
  obtain ⟨-, hempty, hdot, hdots⟩ := h
  rw [enter, if_neg (not_or.mpr ⟨hempty, hdot⟩), if_neg hdots]

theorem components_plain {name : String} (h : Plain name) : components name = [name] := by
  rw [components, List.splitOn_eq_singleton h.1, List.map_singleton, String.ofList_toList]

theorem Plain.head?_ne {name : String} (h : Plain name) : name.toList.head? ≠ some '/' :=
  fun hsep ↦ h.1 (List.mem_of_mem_head? hsep)

/-- A name without a separator denotes an entry of the directory. -/
theorem join_plain {name : String} (h : Plain name) (dir : Path) :
    join dir name = dir ++ [name] := by
  rw [join, components_plain h, if_neg h.head?_ne, List.foldl_cons, List.foldl_nil, enter_plain h]

/-- The first component of a name ends at its first separator. -/
theorem components_append_cons {component : String} (h : '/' ∉ component.toList) (name : String) :
    components (component ++ "/" ++ name) = component :: components name := by
  have hlist : (component ++ "/" ++ name).toList = component.toList ++ '/' :: name.toList := by
    simp
  rw [components, hlist, List.splitOn_append_cons_self_of_not_mem h, List.map_cons,
    String.ofList_toList, components]

/-- A name below an entry of a directory is entered from there. -/
theorem foldl_enter_append_cons {component : String} (h : Plain component) (name : String)
    (dir : Path) :
    (components (component ++ "/" ++ name)).foldl enter dir =
      (components name).foldl enter (dir ++ [component]) := by
  rw [components_append_cons h.1, List.foldl_cons, enter_plain h]

/-- A leading `./` changes nothing, except that the name is not absolute. -/
theorem join_dot (name : String) (dir : Path) :
    join dir ("." ++ "/" ++ name) = (components name).foldl enter dir := by
  rw [join, components_append_cons (by decide), List.foldl_cons, enter, if_pos (.inr rfl), if_neg]
  simp

/-- The path lies below the directory. -/
def Inside (dir path : Path) : Prop := dir <+: path ∧ path ≠ dir

instance (dir path : Path) : Decidable (Inside dir path) := inferInstanceAs (Decidable (_ ∧ _))

theorem inside_append_cons (dir : Path) (c : String) (rest : List String) :
    Inside dir (dir ++ c :: rest) :=
  ⟨List.prefix_append _ _, fun h ↦ by simp at h⟩

/-- Containment is about what follows a common part. -/
theorem inside_append_iff (base dir path : Path) :
    Inside (base ++ dir) (base ++ path) ↔ Inside dir path := by
  rw [Inside, Inside, List.prefix_append_right_inj, ne_eq, List.append_cancel_left_eq]

/-- Two entries of a directory have nothing in common. -/
theorem not_inside_sibling {c d : String} (h : c ≠ d) {dir path : Path}
    (hpath : Inside (dir ++ [d]) path) : ¬ Inside (dir ++ [c]) path := by
  obtain ⟨⟨rest, rfl⟩, -⟩ := hpath
  rintro ⟨hbelow, -⟩
  rw [List.append_assoc, List.prefix_append_right_inj] at hbelow
  exact h (List.cons_prefix_cons.mp hbelow).1

/-! ## Walks -/

/-- Up some directories, and then down. -/
structure Walk where
  ups : ℕ
  names : List String
deriving DecidableEq, Repr

namespace Walk

/-- One component further. -/
def enter (walk : Walk) (component : String) : Walk :=
  if component = "" ∨ component = "." then walk
  else if component = ".." then
    if walk.names = [] then { walk with ups := walk.ups + 1 }
    else { walk with names := walk.names.dropLast }
  else { walk with names := walk.names ++ [component] }

/-- Where the walk ends. -/
def after (dir : Path) (walk : Walk) : Path := dir.take (dir.length - walk.ups) ++ walk.names

theorem after_enter (dir : Path) (walk : Walk) (component : String) :
    after dir (walk.enter component) = Path.enter (after dir walk) component := by
  rw [enter, Path.enter]
  by_cases hskip : component = "" ∨ component = "."
  · rw [if_pos hskip, if_pos hskip]
  · rw [if_neg hskip, if_neg hskip]
    by_cases hup : component = ".."
    · rw [if_pos hup, if_pos hup]
      by_cases hnames : walk.names = []
      · -- one directory further up
        rw [if_pos hnames, after, after, hnames, List.append_nil, List.append_nil,
          List.dropLast_eq_take, List.take_take, List.length_take]
        have hlength : dir.length - (walk.ups + 1) =
            min (min (dir.length - walk.ups) dir.length - 1) (dir.length - walk.ups) := by
          omega
        exact congrArg (List.take · dir) hlength
      · rw [if_neg hnames, after, after, List.dropLast_append_of_ne_nil hnames]
    · rw [if_neg hup, if_neg hup, after, after, List.append_assoc]

/-- The walk that some components describe. -/
def ofComponents (components : List String) : Walk := components.foldl enter ⟨0, []⟩

/-- Entering the components of a name one by one is a walk. -/
theorem foldl_enter_eq (dir : Path) (components : List String) :
    components.foldl Path.enter dir = after dir (ofComponents components) := by
  have hwalk : ∀ walk : Walk, components.foldl Path.enter (after dir walk) =
      after dir (components.foldl enter walk) := by
    induction components with
    | nil => exact fun _ ↦ rfl
    | cons component components ih =>
        intro walk
        rw [List.foldl_cons, List.foldl_cons, ← after_enter, ih]
  have hstart : after dir ⟨0, []⟩ = dir := by
    rw [after, Nat.sub_zero, List.take_length, List.append_nil]
  rw [ofComponents, ← hwalk, hstart]

/-- The walk leads below the directory: what it has gone up it comes down again, and then
further. -/
def Stays (dir : Path) (walk : Walk) : Prop :=
  Inside (dir.drop (dir.length - walk.ups)) walk.names

instance (dir : Path) : DecidablePred (Stays dir) := fun walk ↦
  inferInstanceAs (Decidable (Inside (dir.drop (dir.length - walk.ups)) walk.names))

theorem inside_after_iff (dir : Path) (walk : Walk) :
    Inside dir (after dir walk) ↔ Stays dir walk := by
  have hiff := inside_append_iff (dir.take (dir.length - walk.ups))
    (dir.drop (dir.length - walk.ups)) walk.names
  rwa [List.take_append_drop] at hiff

end Walk

/-- **Staying inside.** -/
theorem inside_foldl_enter_iff (dir : Path) (components : List String) :
    Inside dir (components.foldl enter dir) ↔ (Walk.ofComponents components).Stays dir := by
  rw [Walk.foldl_enter_eq, Walk.inside_after_iff]

end Path

end Courtside
