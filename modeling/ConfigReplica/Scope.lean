import ConfigReplica.Identity
import ConfigReplica.Variant

/-!
# Scopes and destinations

An object belongs to a scope: the account itself, or one of its groups. The updates of a scope are
pushed to one destination on the network.
-/

namespace ConfigReplica

/-- The owner of an object. -/
inductive Scope where
  | account
  | group (id : GroupId)
  deriving DecidableEq, Repr

namespace Scope

/-- The group, where the scope is one. -/
def group? : Scope → Option GroupId
  | .account => none
  | .group id => some id

/-- Whether objects of a variant may belong to the scope. -/
def admits : Scope → Variant → Bool
  | .account, variant => !variant.isGroupScoped
  | .group _, variant => variant.isGroupScoped

/-- The variants of the scope, in the order in which they are pushed. -/
def variants : Scope → List Variant
  | .account => Variant.ofAccount
  | .group _ => Variant.ofGroup

/-- The key of the row that holds the object of a variant. -/
def slotKey : Scope → Variant → String
  | .account, variant => variant.name
  | .group id, variant => variant.name ++ ":" ++ id.hex

instance : Ord Scope := ⟨compareOn group?⟩

instance : Std.TransOrd Scope :=
  inferInstanceAs (Std.TransCmp (compareOn group?))

instance : Std.LawfulEqOrd Scope where
  eq_of_compare {a b} h := by
    have same : a.group? = b.group? := Std.compare_eq_iff_eq.mp h
    cases a <;> cases b <;> simp_all [group?]

/-- How messages name the scope: groups by the first ten digits. -/
def label : Scope → String
  | .account => "user"
  | .group id => "group_" ++ String.ofList (id.hex.toList.take 10)

end Scope

/-- Where updates are sent: the swarm of an account or of a group. -/
inductive Destination where
  | contact (id : Identity)
  | closedGroup (id : GroupId)
  deriving DecidableEq, Repr

namespace Destination

/-- The text by which the network knows the destination. -/
def swarmKey : Destination → String
  | .contact id => id.hex
  | .closedGroup id => id.hex

/-- The scope whose objects are pushed there. -/
def scope : Destination → Scope
  | .contact _ => .account
  | .closedGroup id => .group id

/-- A number that tells the two kinds apart. -/
def rank : Destination → Nat
  | .contact _ => 0
  | .closedGroup _ => 1

/-- The identity that the destination is named by. -/
def identity : Destination → Identity
  | .contact id => id
  | .closedGroup id => id.identity

instance : Ord Destination := ⟨compareLex (compareOn rank) (compareOn identity)⟩

instance : Std.TransOrd Destination :=
  inferInstanceAs (Std.TransCmp (compareLex (compareOn rank) (compareOn identity)))

instance : Std.LawfulEqOrd Destination where
  eq_of_compare {a b} h := by
    have both : compareOn rank a b = .eq ∧ compareOn identity a b = .eq :=
      Ordering.then_eq_eq.mp h
    simp only [compareOn, Std.compare_eq_iff_eq] at both
    rcases a with a | ⟨⟨a⟩⟩ <;> rcases b with b | ⟨⟨b⟩⟩ <;> simp_all [rank, identity]

end Destination

end ConfigReplica
