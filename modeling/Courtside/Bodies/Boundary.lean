import Courtside.Data.Multipart

/-!
# The boundaries of the app

The app puts its bodies together by hand, each with a boundary of its own: the word
`Boundary-` and a fresh UUID.  Such a boundary consists of letters, digits and dashes and
begins with a word that nothing else in a body contains, so whether it occurs in a body
depends only on what the app has not written itself (`isBoundary_boundary`).
-/

namespace Courtside

/-- A UUID: sixteen octets. -/
structure UUID where
  bytes : List UInt8
  length_bytes : bytes.length = 16

namespace UUID

/-- A digit in base sixteen, in upper case. -/
def hexDigit (n : Fin 16) : Char := n.val.digitChar.toUpper

def hexDigits (b : UInt8) : List Char :=
  [hexDigit (Fin.ofNat 16 (b.toNat / 16)), hexDigit (Fin.ofNat 16 b.toNat)]

variable (uuid : UUID)

/-- The digits of so many octets, from an index on. -/
def group (index count : ℕ) : List Char :=
  ((uuid.bytes.drop index).take count).flatMap hexDigits

/-- `uuidString`: five groups of digits, with dashes between them. -/
def uuidString : String :=
  String.ofList (uuid.group 0 4 ++ '-' :: uuid.group 4 2 ++ '-' :: uuid.group 6 2 ++
    '-' :: uuid.group 8 2 ++ '-' :: uuid.group 10 6)

/-- `"Boundary-\(UUID().uuidString)"`. -/
def boundary : String := "Boundary-" ++ uuid.uuidString

/-- The octets from 240 on. -/
def sample : UUID where
  bytes := (List.range 16).map fun n ↦ UInt8.ofNat (240 + n)
  length_bytes := rfl

example : sample.boundary = "Boundary-F0F1F2F3-F4F5-F6F7-F8F9-FAFBFCFDFEFF" := by
  decide

/-! ## Octets -/

/-- A letter, a digit or a dash. -/
def isBoundaryOctet (b : UInt8) : Bool :=
  (48 ≤ b && b ≤ 57) || (65 ≤ b && b ≤ 90) || (97 ≤ b && b ≤ 122) || b = 45

theorem mem_group {index count : ℕ} {c : Char} (h : c ∈ uuid.group index count) :
    ∃ n, c = hexDigit n := by
  obtain ⟨b, -, hc⟩ := List.mem_flatMap.mp h
  rcases List.mem_pair.mp hc with rfl | rfl <;> exact ⟨_, rfl⟩

theorem mem_uuidString {c : Char} (h : c ∈ uuid.uuidString.toList) :
    c = '-' ∨ ∃ n, c = hexDigit n := by
  rw [uuidString, String.toList_ofList] at h
  simp only [List.mem_append, List.mem_cons] at h
  rcases h with (((h | rfl | h) | rfl | h) | rfl | h) | rfl | h
  all_goals first | exact .inl rfl | exact .inr (uuid.mem_group h)

theorem mem_boundary {b : UInt8} (h : b ∈ octets uuid.boundary) : isBoundaryOctet b = true := by
  have hword : ∀ b ∈ octets "Boundary-", isBoundaryOctet b = true := List.all_eq_true.mp rfl
  have hdash : ∀ b ∈ String.utf8EncodeChar '-', isBoundaryOctet b = true := List.all_eq_true.mp rfl
  have hdigits : ∀ n, (String.utf8EncodeChar (hexDigit n)).all isBoundaryOctet = true := by decide
  rw [boundary, octets_append, List.mem_append, octets_eq_flatMap uuid.uuidString,
    List.mem_flatMap] at h
  rcases h with h | ⟨c, hc, hb⟩
  · exact hword b h
  · rcases uuid.mem_uuidString hc with rfl | ⟨n, rfl⟩
    · exact hdash b hb
    · exact List.all_eq_true.mp (hdigits n) b hb

theorem notMem_boundary {b : UInt8} (h : isBoundaryOctet b = false) : b ∉ octets uuid.boundary := by
  intro hmem
  cases h.symm.trans (uuid.mem_boundary hmem)

theorem length_group {index count : ℕ} (h : index + count ≤ 16) :
    (uuid.group index count).length = 2 * count := by
  have hcount : ((uuid.bytes.drop index).take count).length = count := by
    rw [List.length_take, List.length_drop, uuid.length_bytes]
    omega
  have htwo : ∀ b ∈ (uuid.bytes.drop index).take count, (hexDigits b).length = 2 :=
    fun _ _ ↦ rfl
  rw [group, List.length_flatMap, List.map_congr_left htwo, List.map_const', hcount,
    List.sum_replicate_nat, Nat.mul_comm]

theorem length_uuidString : uuid.uuidString.toList.length = 36 := by
  rw [uuidString, String.toList_ofList]
  simp [length_group]

/-- A boundary may have seventy octets at most. -/
theorem length_boundary : (octets uuid.boundary).length = 45 := by
  have hword : (octets "Boundary-").length = 9 := by decide
  have hdigit : ∀ n, (String.utf8EncodeChar (hexDigit n)).length = 1 := by decide
  have hone : ∀ c ∈ uuid.uuidString.toList, (String.utf8EncodeChar c).length = 1 := by
    intro c hc
    rcases uuid.mem_uuidString hc with rfl | ⟨n, rfl⟩
    · rfl
    · exact hdigit n
  rw [boundary, octets_append, List.length_append, hword, octets_eq_flatMap uuid.uuidString,
    List.length_flatMap, List.map_congr_left hone, List.map_const', List.sum_replicate_nat,
    length_uuidString]

/-- The boundary occurs only where the word it begins with does. -/
theorem not_boundary_infix {text : Octets} (h : ¬ octets "Boundary-" <:+: text) :
    ¬ octets uuid.boundary <:+: text := by
  have hstarts : octets "Boundary-" <+: octets uuid.boundary := by
    rw [boundary, octets_append]
    exact List.prefix_append _ _
  exact fun hoccurs ↦ h (hstarts.isInfix.trans hoccurs)

theorem not_boundary_infix_of_notMem {text : Octets} (h : 45 ∉ text) :
    ¬ octets uuid.boundary <:+: text :=
  uuid.not_boundary_infix fun hoccurs ↦ h (hoccurs.subset (by decide))

theorem isBoundary_boundary : IsBoundary (octets uuid.boundary) where
  separators b hb := by
    have hall : ∀ b ∈ ([10, 13, 32, 34] : Octets), (!isBoundaryOctet b) = true :=
      List.all_eq_true.mp rfl
    exact uuid.notMem_boundary (by simpa using hall b hb)
  header text htext := uuid.not_boundary_infix (by revert text; decide)

end UUID

end Courtside
