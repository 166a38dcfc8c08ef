import ConfigReplica.Codec.Basic
import Std.Data.ExtTreeMap

/-!
# Codecs of maps

A map is written as its number of entries and then its entries in the order of their keys; entries
are read in any order, and a repeated key replaces what it had before.
-/

namespace ConfigReplica

/-- Maps from text, in the order of the text's bytes. Two maps with the same entries are equal. -/
abbrev Dict (α : Type) := Std.ExtTreeMap String α

namespace Codec

variable {κ α : Type} [Ord κ] [Std.TransOrd κ]

/-- Maps with ordered keys. -/
def map (key : Codec κ) (value : Codec α) : Codec (Std.ExtTreeMap κ α) where
  write m := (list (pair key value)).write m.toList
  read bytes :=
    match (list (pair key value)).read bytes with
    | .error fault => .error fault
    | .ok (entries, rest) => .ok (Std.ExtTreeMap.ofList entries, rest)

/-- A map is made up of its entries. -/
theorem ofList_toList [Std.LawfulEqOrd κ] (m : Std.ExtTreeMap κ α) :
    Std.ExtTreeMap.ofList m.toList = m := by
  classical
  apply Std.ExtTreeMap.ext_getElem?
  intro k
  have distinct := Std.ExtTreeMap.distinct_keys_toList (t := m)
  cases found : m[k]? with
  | some v =>
    have mem : (k, v) ∈ m.toList := Std.ExtTreeMap.mem_toList_iff_getElem?_eq_some.2 found
    have same : compare k k = .eq := Std.ReflCmp.compare_self
    exact Std.ExtTreeMap.getElem?_ofList_of_mem same distinct mem
  | none =>
    apply Std.ExtTreeMap.getElem?_ofList_of_contains_eq_false
    simp only [Std.ExtTreeMap.map_fst_toList_eq_keys, Std.ExtTreeMap.contains_keys]
    rw [Std.ExtTreeMap.contains_eq_isSome_getElem?, found]
    rfl

theorem faithful_map [Std.LawfulEqOrd κ] {key : Codec κ} {value : Codec α} (hk : key.Faithful)
    (hv : value.Faithful) (solid : key.Solid) : (map key value).Faithful := by
  intro m rest small
  have solidPair : (pair key value).Solid := fun p => by
    have := solid p.1
    simp only [pair, List.length_append]
    omega
  have read := faithful_list (faithful_pair hk hv) solidPair m.toList rest small
  simp only [map, read, ofList_toList]

/-- Maps from text. -/
def dict (value : Codec α) : Codec (Dict α) :=
  map text value

theorem solid_text : text.Solid := fun s => by
  have : 0 < (writeGroups 10 (Bytes.utf8 s).length).length := by
    unfold writeGroups
    split <;> simp
  simp only [text, bytes, length, List.length_append]
  omega

theorem faithful_dict {value : Codec α} (h : value.Faithful) : (dict value).Faithful :=
  faithful_map faithful_text h solid_text

end Codec

end ConfigReplica
