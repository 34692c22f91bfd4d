/-
# Literal addresses

An address of version 6 is told from any other text by its colons, so that no text is an address of
both versions.  A typed address loses the white space and the brackets around it and nothing else.

Main definitions:

* `IsBareOf` : a host that is left of a typed address.

Main results:

* `Ipv4.colon_not_mem`, `Ipv6.colon_mem` : where colons stand;
* `IpAddress.ofText?_eq_v6_iff` : which texts are addresses of version 6;
* `isBareOf_bareHost` : what is left of a typed address.
-/
import Reachability.Net.Address
import Reachability.Proofs.Text.Cutting

namespace Reachability

/-! ## The two versions -/

/-- A character that does not separate stands in some field. -/
theorem Text.exists_field_of_mem {sep c : Char} {cs : List Char} (h : c ∈ cs) (hne : c ≠ sep) :
    ∃ f ∈ fields sep cs, c ∈ f := by
  induction cs with
  | nil => cases h
  | cons d cs ih =>
    by_cases separates : d = sep
    · rw [fields, if_pos separates]
      rcases List.mem_cons.1 h with rfl | h
      · exact absurd separates hne
      · obtain ⟨f, hf, hc⟩ := ih h
        exact ⟨f, List.mem_cons_of_mem _ hf, hc⟩
    · obtain ⟨f, fs, before, after⟩ := fields_cons_of_ne separates cs
      rw [after]
      rcases List.mem_cons.1 h with rfl | h
      · exact ⟨c :: f, List.mem_cons_self, List.mem_cons_self⟩
      · obtain ⟨g, hg, hc⟩ := ih h
        rw [before] at hg
        rcases List.mem_cons.1 hg with rfl | hg
        · exact ⟨d :: g, List.mem_cons_self, List.mem_cons_of_mem _ hc⟩
        · exact ⟨g, List.mem_cons_of_mem _ hg, hc⟩

namespace Ipv4

theorem isDigit_of_part? {cs : List Char} {n : UInt8} (h : part? cs = some n) :
    ∀ c ∈ cs, Text.isDigit c = true := by
  unfold part? at h
  split at h
  case isTrue => cases h
  case isFalse formed =>
    simp only [Bool.or_eq_true, not_or, Bool.not_eq_true, Bool.not_eq_false'] at formed
    exact List.all_eq_true.1 formed.2

/-- An address of version 4 has no colon. -/
theorem colon_not_mem {cs : List Char} {ip : Ipv4} (h : ofChars? cs = some ip) : ':' ∉ cs := by
  intro colon
  obtain ⟨f, hf, inside⟩ := Text.exists_field_of_mem colon (show (':' : Char) ≠ '.' by decide)
  unfold ofChars? at h
  split at h
  case h_2 => cases h
  case h_1 a b c d parts =>
    simp only [Option.bind_eq_bind, Option.bind_eq_some_iff] at h
    obtain ⟨_, ha, _, hb, _, hc, _, hd, -⟩ := h
    rw [parts] at hf
    have digit : Text.isDigit ':' = true := by
      simp only [List.mem_cons, List.not_mem_nil, or_false] at hf
      rcases hf with rfl | rfl | rfl | rfl
      · exact isDigit_of_part? ha _ inside
      · exact isDigit_of_part? hb _ inside
      · exact isDigit_of_part? hc _ inside
      · exact isDigit_of_part? hd _ inside
    exact absurd digit (by decide)

end Ipv4

namespace Ipv6

theorem colon_mem_of_cutGap? {cs : List Char} {pieces : List Char × List Char}
    (h : cutGap? cs = some pieces) : ':' ∈ cs := by
  induction cs using cutGap?.induct generalizing pieces with
  | case1 rest => exact List.mem_cons_self
  | case2 c rest noGap ih =>
    rw [cutGap?.eq_2 c rest noGap, Option.map_eq_some_iff] at h
    obtain ⟨later, found, -⟩ := h
    exact List.mem_cons_of_mem _ (ih found)
  | case3 => cases h

/-- Without a colon there are at most two groups. -/
theorem length_of_tailGroups? {cs : List Char} {groups : List UInt16} (h : ':' ∉ cs)
    (read : tailGroups? cs = some groups) : groups.length ≤ 2 := by
  unfold tailGroups? at read
  split at read
  case isTrue =>
    obtain rfl := Option.some.inj read
    exact Nat.zero_le 2
  case isFalse =>
    rw [Text.fields_eq_singleton h, groups?] at read
    split at read
    · obtain rfl := Option.some.inj read
      exact Nat.le_refl 2
    · obtain ⟨g, -, rfl⟩ := Option.map_eq_some_iff.1 read
      exact Nat.le_succ 1

/-- An address of version 6 has a colon. -/
theorem colon_mem {cs : List Char} {ip : Ipv6} (h : ofChars? cs = some ip) : ':' ∈ cs := by
  unfold ofChars? at h
  split at h
  case h_2 found => exact colon_mem_of_cutGap? found
  case h_1 =>
    by_contra colon
    obtain ⟨groups, read, made⟩ := Option.bind_eq_some_iff.1 h
    have few := length_of_tailGroups? colon read
    unfold ofGroups? at made
    split at made
    case isFalse => cases made
    case isTrue eight => omega

end Ipv6

/-- A text is an address of version 6 whether or not the other version is tried first. -/
theorem IpAddress.ofText?_eq_v6_iff {text : String} {ip : Ipv6} :
    IpAddress.ofText? text = some (.v6 ip) ↔ Ipv6.ofText? text = some ip := by
  unfold IpAddress.ofText?
  cases h4 : Ipv4.ofText? text with
  | none =>
    rw [Option.map_eq_some_iff]
    constructor
    · rintro ⟨ip', read, same⟩
      rw [read, IpAddress.v6.inj same]
    · intro read
      exact ⟨ip, read, rfl⟩
  | some ip4 =>
    constructor
    · intro h
      cases h
    · intro h6
      exact absurd (Ipv6.colon_mem h6) (Ipv4.colon_not_mem h4)

/-! ## Typed addresses -/

/-- The host is what is left of a typed address: around it stand white space, and within that
opening brackets in front and closing brackets behind; it has none of them at its ends. -/
def IsBareOf (host address : List Char) : Prop :=
  ∃ front opens closes back, address = front ++ (opens ++ (host ++ closes) ++ back) ∧
    (∀ c ∈ front, Text.isBlank c = true) ∧ (∀ c ∈ back, Text.isBlank c = true) ∧
    Text.IsTrim (opens ++ (host ++ closes)) ∧
    (∀ c ∈ opens, c = '[') ∧ (∀ c ∈ closes, c = ']') ∧
    host.head? ≠ some '[' ∧ host.getLast? ≠ some ']'

theorem isBareOf_bareHost (address : String) :
    IsBareOf (bareHost address).toList address.toList := by
  obtain ⟨front, back, blank, blank', parts⟩ := Text.exists_eq_append_strip address.toList
  have trim := Text.isTrim_strip address.toList
  generalize within : Text.strip address.toList = cs at parts trim
  have host : (bareHost address).toList =
      ((cs.dropWhile (· == '[')).reverse.dropWhile (· == ']')).reverse := by
    rw [bareHost, String.toList_ofList, within]
  rw [host]
  generalize rest : cs.dropWhile (· == '[') = behind
  -- the brackets that are dropped on either side
  have opened : cs.takeWhile (· == '[') ++ behind = cs := by
    rw [← rest]
    exact List.takeWhile_append_dropWhile
  have closed : (behind.reverse.dropWhile (· == ']')).reverse ++
      (behind.reverse.takeWhile (· == ']')).reverse = behind := by
    rw [← List.reverse_append, List.takeWhile_append_dropWhile, List.reverse_reverse]
  refine ⟨front, cs.takeWhile (· == '['), (behind.reverse.takeWhile (· == ']')).reverse, back,
    ?_, blank, blank', ?_, ?_, ?_, ?_, ?_⟩
  · rw [closed, opened, parts]
  · rw [closed, opened]
    exact trim
  · intro c hc
    have bracket := List.mem_takeWhile_imp hc
    exact beq_iff_eq.1 bracket
  · intro c hc
    have bracket := List.mem_takeWhile_imp (List.mem_reverse.1 hc)
    exact beq_iff_eq.1 bracket
  · intro starts
    have first : behind.head? = some '[' := by
      rw [← closed, List.head?_append, starts]
      rfl
    have dropped := List.head?_dropWhile_not (· == '[') cs
    rw [rest, first] at dropped
    exact absurd dropped (by decide)
  · intro ends
    have last := Text.getLast?_dropWhile_reverse (p := (· == ']')) ends
    exact absurd last (by decide)

end Reachability
