/-
# Parts of paths

A path is cut at its slashes, so that the parts of a joined path are those of both.  A name comes
as one part, and brings the path of a directory to that of what the directory holds.

Main definitions:

* `RawText.IsName` : bytes that are one part of a path and lead down.

Main results:

* `parts_append` : a slash divides the parts of a path;
* `way_join` : a name comes behind the parts of its directory.
-/
import Reachability.File.Path
import Reachability.Proofs.Text.Cutting
import Reachability.Proofs.Text.Raw

namespace Reachability

open File

namespace RawText

/-! ## Names -/

/-- Bytes that are a name: no slash, and neither nothing nor one or two dots. -/
structure IsName (name : RawText) : Prop where
  noSlash : slash ∉ name.bytes
  nonempty : name.bytes ≠ []
  notHere : name.bytes ≠ [dot]
  notUp : name.bytes ≠ [dot, dot]

theorem IsName.part {name : RawText} (h : IsName name) :
    Part.of? name.bytes = some (.name name) := by
  rw [Part.of?, if_neg h.nonempty, if_neg h.notHere, if_neg h.notUp]

/-- A text that is a name. -/
theorem isName_ofText {s : String} (noSlash : '/' ∉ s.toList) (nonempty : s.toList ≠ [])
    (notHere : s.toList ≠ ['.']) (notUp : s.toList ≠ ['.', '.']) : IsName (ofText s) where
  noSlash there := noSlash (Utf8.mem_of_mem_encode there (by decide))
  nonempty same := nonempty (Utf8.encode_inj.1 same)
  notHere same := notHere (Utf8.encode_inj.1 same)
  notUp same := notUp (Utf8.encode_inj.1 same)

/-! ## Parts -/

/-- A slash divides the parts of a path. -/
theorem parts_append (front back : List UInt8) :
    parts ⟨front ++ slash :: back⟩ = parts ⟨front⟩ ++ parts ⟨back⟩ := by
  rw [parts, Text.fields_append, List.filterMap_append]
  rfl

theorem IsName.parts {name : RawText} (h : IsName name) : name.parts = [.name name] := by
  rw [RawText.parts, Text.fields_eq_singleton h.noSlash, List.filterMap_cons_some h.part]
  rfl

theorem IsName.isAbsolute {name : RawText} (h : IsName name) : name.isAbsolute = false := by
  rw [RawText.isAbsolute, beq_eq_false_iff_ne]
  intro first
  exact h.noSlash (List.mem_of_mem_head? first)

/-! ## Joined paths -/

section Join

variable {path name : RawText}

/-- Where a name is put behind a path, there is a slash between them. -/
theorem bytes_join (path : RawText) (h : IsName name) :
    (path.bytes = [] ∧ path.join name = name) ∨
      ∃ front, (path.join name).bytes = front ++ slash :: name.bytes ∧
        (path.bytes = front ∨ path.bytes = front ++ [slash]) := by
  rw [join, h.isAbsolute, Bool.false_or]
  by_cases empty : path.bytes = []
  · exact .inl ⟨empty, if_pos (List.isEmpty_iff.2 empty)⟩
  rw [if_neg (by rwa [List.isEmpty_iff])]
  right
  by_cases ends : path.endsInSlash = true
  · rw [if_pos ends]
    rw [endsInSlash, beq_iff_eq, List.getLast?_eq_some_iff] at ends
    obtain ⟨front, hfront⟩ := ends
    exact ⟨front, by rw [hfront, List.append_assoc, List.singleton_append], .inr hfront⟩
  · rw [if_neg ends]
    exact ⟨path.bytes, rfl, .inl rfl⟩

/-- A name comes behind the parts of its directory. -/
theorem parts_join (h : IsName name) :
    (path.join name).parts = path.parts ++ [.name name] := by
  obtain ⟨bytes⟩ := path
  have nothing : parts ⟨[]⟩ = [] := rfl
  rcases bytes_join ⟨bytes⟩ h with ⟨empty, same⟩ | ⟨front, hjoin, rfl | rfl⟩
  · obtain rfl : bytes = [] := empty
    rw [same, h.parts, nothing, List.nil_append]
  · rw [show (join ⟨bytes⟩ name) = ⟨bytes ++ slash :: name.bytes⟩ from
      congrArg RawText.mk hjoin, parts_append]
    exact congrArg _ h.parts
  · rw [show (join ⟨front ++ [slash]⟩ name) = ⟨front ++ slash :: name.bytes⟩ from
      congrArg RawText.mk hjoin, parts_append, parts_append, nothing, List.append_nil]
    exact congrArg _ h.parts

/-- The last byte of a joined path is that of the name. -/
theorem getLast?_join (h : IsName name) :
    (path.join name).bytes.getLast? = name.bytes.getLast? := by
  rcases bytes_join path h with ⟨-, same⟩ | ⟨front, hjoin, -⟩
  · rw [same]
  · rw [hjoin, List.getLast?_append_cons, List.getLast?_cons_of_ne_nil h.nonempty]

theorem endsInSlash_join (h : IsName name) : (path.join name).endsInSlash = false := by
  rw [endsInSlash, getLast?_join h, beq_eq_false_iff_ne]
  intro last
  exact h.noSlash (List.mem_of_mem_getLast? last)

/-- What is walked to a name: the parts of its directory, and the name. -/
theorem way_join (h : IsName name) :
    (path.join name).way = ⟨path.parts ++ [.name name], false⟩ := by
  rw [way, parts_join h, endsInSlash_join h]

/-- The bytes of a joined path are those of both, and a slash. -/
theorem mem_bytes_join (h : IsName name) {b : UInt8} (there : b ∈ path.bytes) :
    b ∈ (path.join name).bytes := by
  rcases bytes_join path h with ⟨empty, -⟩ | ⟨front, hjoin, same | same⟩
  · rw [empty] at there
    cases there
  · rw [hjoin, ← same]
    exact List.mem_append_left _ there
  · rw [same] at there
    rw [hjoin]
    simpa [or_assoc] using Or.inl (List.mem_append.1 there)

/-- A joined path is no shorter. -/
theorem size_le_size_join (h : IsName name) : path.size ≤ (path.join name).size := by
  rcases bytes_join path h with ⟨empty, -⟩ | ⟨front, hjoin, same | same⟩
  · rw [size, empty]
    exact Nat.zero_le _
  · rw [size, size, hjoin, same, List.length_append]
    exact Nat.le_add_right _ _
  · rw [size, size, hjoin, same, List.length_append, List.length_append, List.length_cons]
    exact Nat.add_le_add_left (Nat.succ_le_succ (Nat.zero_le _)) _

end Join

end RawText
end Reachability
