import Std.Data.ExtTreeMap

/-!
# Variants of configuration

There are seven kinds of configuration objects: four of the account and three of each group. A
variant has a name, by which rows and messages refer to it, and a number of its own on the network,
its namespace.
-/

namespace ConfigReplica

/-- A kind of configuration object. -/
inductive Variant where
  | userProfile
  | contacts
  | convoInfoVolatile
  | userGroups
  | groupInfo
  | groupKeys
  | groupMembers
  deriving DecidableEq, Repr

namespace Variant

/-- The variants of an account, in the order in which they are pushed. -/
def ofAccount : List Variant :=
  [.userProfile, .contacts, .convoInfoVolatile, .userGroups]

/-- The variants of a group, in the order in which they are pushed. -/
def ofGroup : List Variant :=
  [.groupInfo, .groupMembers, .groupKeys]

/-- All variants. -/
def all : List Variant :=
  ofAccount ++ ofGroup

/-- The variants in the order of their numbers in frames. -/
def tagged : List Variant :=
  [.userProfile, .contacts, .convoInfoVolatile, .userGroups, .groupInfo, .groupKeys, .groupMembers]

/-- The name of a variant. -/
def name : Variant → String
  | .userProfile => "user_profile"
  | .contacts => "contacts"
  | .convoInfoVolatile => "convo_info_volatile"
  | .userGroups => "user_groups"
  | .groupInfo => "group_info"
  | .groupKeys => "group_keys"
  | .groupMembers => "group_members"

/-- The variant with this name. -/
def ofName? (name : String) : Option Variant :=
  all.find? fun variant => variant.name == name

/-- The namespace of a variant. -/
def namespaceId : Variant → Nat
  | .userProfile => 2
  | .contacts => 3
  | .convoInfoVolatile => 4
  | .userGroups => 5
  | .groupKeys => 12
  | .groupInfo => 13
  | .groupMembers => 14

/-- The variant with this namespace. -/
def ofNamespace? (n : Int) : Option Variant :=
  all.find? fun variant => (variant.namespaceId : Int) == n

/-- The place of a variant among all of them. -/
def rank : Variant → Nat
  | .userProfile => 0
  | .contacts => 1
  | .convoInfoVolatile => 2
  | .userGroups => 3
  | .groupInfo => 4
  | .groupMembers => 5
  | .groupKeys => 6

instance : Ord Variant := ⟨compareOn rank⟩

instance : Std.TransOrd Variant :=
  inferInstanceAs (Std.TransCmp (compareOn rank))

instance : Std.LawfulEqOrd Variant where
  eq_of_compare {a b} h := by
    have same : a.rank = b.rank := Std.compare_eq_iff_eq.mp h
    cases a <;> cases b <;> first | rfl | cases same

/-- Whether objects of the variant belong to a group. -/
def isGroupScoped : Variant → Bool
  | .groupInfo | .groupKeys | .groupMembers => true
  | _ => false

@[simp] theorem mem_all (variant : Variant) : variant ∈ all := by
  cases variant <;> decide

@[simp] theorem mem_tagged (variant : Variant) : variant ∈ tagged := by
  cases variant <;> decide

/-- A variant is found by its name. -/
@[simp] theorem ofName?_name (variant : Variant) : ofName? variant.name = some variant := by
  cases variant <;> decide

end Variant

end ConfigReplica
