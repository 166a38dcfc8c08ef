import ConfigReplica.Proofs.Routing.Builds
import ConfigReplica.Proofs.Routing.NodeSets

/-!
# Nodes that were stored

Nodes are stored as their texts, and texts are trimmed when they are read. The parts of a node are
not: its keys are brought to lower case, and its address is taken as it is. So a node can be made
with blanks before its address, and then its text reads back as the node without them
(`Node.stripped?`), or as none where the address is nothing but blanks. This is all that can happen
to a node that was made of parts (`Node.Made.toOption_parse_text`): blanks within the address or at
its end, hyphens and all other characters are kept.

Hence sets of nodes and paths come back unchanged exactly if no address begins with a blank
(`stored_nodes_unchanged_iff`). Otherwise a node is given that is not the one that was stored
(`stored_node_altered`).
-/

namespace ConfigReplica.Routing

/-! ### Blanks before an address -/

namespace Node

variable {node : Node}

/-- The node was made of parts that pass. -/
def Made (node : Node) : Prop :=
  ∃ address port ed25519 x25519, ofParts address port ed25519 x25519 = .ok node

/-- The address begins with no blank. -/
def Plain (node : Node) : Prop :=
  ∀ c ∈ node.address.toList.head?, Text.isBlank c = false

/-- The node without the blanks that its address begins with. There is none if these are all. -/
def stripped? (node : Node) : Option Node :=
  match node.address.toList.dropWhile Text.isBlank with
  | [] => none
  | c :: rest => some { node with address := String.ofList (c :: rest) }

/-- What a node was made of is not empty, and its keys are digits in lower case. -/
theorem Made.parts (made : node.Made) :
    node.address.toList ≠ [] ∧ IsKey node.ed25519 ∧ IsKey node.x25519 := by
  obtain ⟨address, port, ed25519, x25519, made⟩ := made
  obtain ⟨some, ed, x, checkedEd, checkedX, rfl⟩ := ofParts_eq_ok.mp made
  exact ⟨by simpa using some, .of_checkKey checkedEd, .of_checkKey checkedX⟩

/-- **The text of a node that was made** reads back as what is left of the node. -/
theorem Made.toOption_parse_text (made : node.Made) :
    (parse node.text).toOption = node.stripped? := by
  obtain ⟨-, ed25519, x25519⟩ := made.parts
  rw [parse_text ed25519 x25519]
  unfold stripped?
  cases left : node.address.toList.dropWhile Text.isBlank with
  | nil => rfl
  | cons c rest =>
    have whole : ofParts (String.ofList (c :: rest)) node.port node.ed25519 node.x25519 =
        .ok { node with address := String.ofList (c :: rest) } :=
      ofParts_eq_ok.mpr ⟨by simp, _, _, ed25519.checkKey_eq _, x25519.checkKey_eq _, rfl⟩
    rw [whole]
    rfl

/-- What is left begins with no blank. -/
theorem plain_of_stripped? {other : Node} (left : other.stripped? = some node) : node.Plain := by
  unfold stripped? at left
  have head := List.head?_dropWhile_not Text.isBlank other.address.toList
  split at left
  · cases left
  · next c rest cut =>
    rw [cut] at head
    cases left
    intro first begins
    rw [String.toList_ofList] at begins
    obtain rfl := Option.some.inj begins
    exact head

/-- Nothing is taken exactly if there is no blank to take. -/
theorem Made.stripped?_eq_self_iff (made : node.Made) :
    node.stripped? = some node ↔ node.Plain := by
  refine ⟨plain_of_stripped?, fun plain => ?_⟩
  obtain ⟨some, -, -⟩ := made.parts
  obtain ⟨c, rest, address⟩ := List.exists_cons_of_ne_nil some
  have begins : Text.isBlank c = false := plain c (by rw [address]; rfl)
  unfold stripped?
  rw [address, List.dropWhile_cons, begins, if_neg Bool.false_ne_true]
  dsimp only
  rw [← address, String.ofList_toList]

end Node

namespace NodeSet

variable {nodes : NodeSet} {node : Node}

/-- The nodes of a set without the blanks that their addresses begin with. -/
def stripped (nodes : NodeSet) : NodeSet :=
  .ofList (nodes.toList.filterMap Node.stripped?)

/-- What is left of a set is what is left of its nodes. -/
theorem mem_stripped : node ∈ stripped nodes ↔ ∃ other ∈ nodes, other.stripped? = some node := by
  rw [stripped, Std.ExtTreeSet.mem_ofList, List.contains_iff_mem, List.mem_filterMap]
  simp only [Std.ExtTreeSet.mem_toList]

/-- **The texts of nodes that were made** stand for what is left of the nodes. -/
theorem ofTexts_texts_of_made (made : ∀ node ∈ nodes, node.Made) :
    ofTexts nodes.texts = stripped nodes := by
  have read : nodes.toList.filterMap ((fun text => (Node.parse text).toOption) ∘ Node.text) =
      nodes.toList.filterMap Node.stripped? := by
    refine List.filterMap_congr fun node mem => ?_
    exact (made node (Std.ExtTreeSet.mem_toList.mp mem)).toOption_parse_text
  rw [ofTexts, texts, List.filterMap_map, read, stripped]

/-- A set stays as it is exactly if no address in it begins with a blank. -/
theorem stripped_eq_self_iff (made : ∀ node ∈ nodes, node.Made) :
    stripped nodes = nodes ↔ ∀ node ∈ nodes, node.Plain := by
  constructor
  · intro same node mem
    rw [← same] at mem
    obtain ⟨other, -, left⟩ := mem_stripped.mp mem
    exact Node.plain_of_stripped? left
  · intro plain
    refine Std.ExtTreeSet.ext_mem fun node => mem_stripped.trans ?_
    have kept {other : Node} (mem : other ∈ nodes) : other.stripped? = some other :=
      (made other mem).stripped?_eq_self_iff.mpr (plain other mem)
    constructor
    · rintro ⟨other, mem, left⟩
      rw [kept mem] at left
      exact Option.some.inj left ▸ mem
    · intro mem
      exact ⟨node, mem, kept mem⟩

end NodeSet

/-! ### Sets in the store -/

section Sets

variable {s : Store} {nodes : NodeSet} {table : Table} {key : String}

/-- Reading a row right after a set was stored in it. -/
theorem loadNodes_saveNodes (works : s.Works) (made : ∀ node ∈ nodes, node.Made)
    (short : (textsCodec.write nodes.texts).length < UInt64.size) :
    ∃ s₁, saveNodes table key nodes s = .ok () s₁ ∧
      loadNodes table key s₁ = .ok (some (.stripped nodes)) (s₁.noted (.read ⟨table, key⟩)) := by
  let s₁ := (s.noted (.write ⟨table, key⟩)).insert ⟨table, key⟩ (textsCodec.write nodes.texts)
  have works₁ : s₁.Works := works
  have row : s₁.row? ⟨table, key⟩ = some (textsCodec.write nodes.texts) :=
    (Store.row?_insert _ _ _ _).trans (if_pos rfl)
  have loaded := StoreM.load_of_row textsCodec table key s₁ (works₁ _ _) row
    (Codec.decode_write faithful_textsCodec _ short)
  refine ⟨s₁, saveNodes_of_works works table key nodes, (bind_of_ok loaded).trans ?_⟩
  rw [Option.map_some, NodeSet.ofTexts_texts_of_made made]
  rfl

/-- **A pool that was stored** comes back as what is left of its nodes. -/
theorem Pool.get_set (works : s.Works) (made : ∀ node ∈ nodes, node.Made)
    (short : (textsCodec.write nodes.texts).length < UInt64.size) :
    ∃ s₁ s₂, Pool.set nodes s = .ok () s₁ ∧ Pool.get s₁ = .ok (.stripped nodes) s₂ := by
  obtain ⟨s₁, saved, loaded⟩ := loadNodes_saveNodes works made short
  exact ⟨s₁, _, saved, bind_of_ok loaded⟩

/-- **A swarm that was stored** comes back as what is left of its nodes, if anything is. -/
theorem Swarm.get?_set (works : s.Works) (made : ∀ node ∈ nodes, node.Made)
    (short : (textsCodec.write nodes.texts).length < UInt64.size) (destination : String) :
    ∃ s₁ s₂, Swarm.set destination nodes s = .ok () s₁ ∧
      Swarm.get? destination s₁ =
        .ok (if (NodeSet.stripped nodes).isEmpty then none else some (.stripped nodes)) s₂ := by
  obtain ⟨s₁, saved, loaded⟩ := loadNodes_saveNodes works made short
  refine ⟨s₁, s₁.noted (.read (Swarm.cell destination)), saved, (bind_of_ok loaded).trans ?_⟩
  cases empty : (NodeSet.stripped nodes).isEmpty <;> simp [Option.filter, empty] <;> rfl

end Sets

/-! ### Paths in the store -/

/-- **Paths that were stored** come back as they are exactly if no address of a hop begins with a
blank. -/
theorem PathM.paths_setPaths {c : PathCache} (works : c.store.Works) {first second : Hops}
    (distinct : first.toList.Nodup ∧ second.toList.Nodup)
    (made : ∀ node ∈ first.toList ++ second.toList, node.Made) :
    ∃ c₁ c₂ found, setPaths [first, second] c = .ok [⟨0, first⟩, ⟨1, second⟩] c₁ ∧
      paths c₁ = .ok found c₂ ∧
      (found = [⟨0, first⟩, ⟨1, second⟩] ↔
        ∀ node ∈ first.toList ++ second.toList, node.Plain) := by
  obtain ⟨c₁, ran, works₁, rows⟩ := Build.setPaths_of_works works distinct
  obtain ⟨c₂, asked⟩ := paths_of_answers works₁.answers
  refine ⟨c₁, c₂, _, ran, asked, pathsAt_eq_iff.trans ?_⟩
  -- a row holds its hop exactly if nothing was taken of the address
  have held (path : Path) (mem : path ∈ [Path.mk 0 first, ⟨1, second⟩]) (hop : Fin pathLength) :
      hopAt? c₁.store.row? path.index hop = some (path.hops.get hop) ↔
        (path.hops.get hop).Plain := by
    have made := forall_hop_iff.mpr made path mem hop
    rw [hopAt?_eq_of_row (rows path mem hop), made.toOption_parse_text, made.stripped?_eq_self_iff]
  rw [← forall_hop_iff]
  exact forall₂_congr fun path mem => forall_congr' (held path mem)

/-- **Stored nodes come back unchanged exactly if no address begins with a blank.** A set of nodes
that were made of parts is stored as the pool, and as a swarm if it has any nodes, and two paths of
such nodes are stored. Over stores that work everything is stored and given again. -/
theorem stored_nodes_unchanged_iff {s : Store} (works : s.Works) {nodes : NodeSet}
    (made : ∀ node ∈ nodes, node.Made) (short : (textsCodec.write nodes.texts).length < UInt64.size)
    (destination : String) {c : PathCache} (pathsWork : c.store.Works) {first second : Hops}
    (distinct : first.toList.Nodup ∧ second.toList.Nodup)
    (hopsMade : ∀ node ∈ first.toList ++ second.toList, node.Made) :
    (∃ s₁ s₂ found, Pool.set nodes s = .ok () s₁ ∧ Pool.get s₁ = .ok found s₂ ∧
      found = .stripped nodes ∧ (found = nodes ↔ ∀ node ∈ nodes, node.Plain)) ∧
    (nodes ≠ ∅ → ∃ s₁ s₂ found, Swarm.set destination nodes s = .ok () s₁ ∧
      Swarm.get? destination s₁ = .ok found s₂ ∧ found.getD ∅ = .stripped nodes ∧
      (found = some nodes ↔ ∀ node ∈ nodes, node.Plain)) ∧
    ∃ c₁ c₂ found, PathM.setPaths [first, second] c = .ok [⟨0, first⟩, ⟨1, second⟩] c₁ ∧
      PathM.paths c₁ = .ok found c₂ ∧
      (found = [⟨0, first⟩, ⟨1, second⟩] ↔
        ∀ node ∈ first.toList ++ second.toList, node.Plain) := by
  refine ⟨?_, fun some => ?_, PathM.paths_setPaths pathsWork distinct hopsMade⟩
  · obtain ⟨s₁, s₂, stored, got⟩ := Pool.get_set works made short
    exact ⟨s₁, s₂, _, stored, got, rfl, NodeSet.stripped_eq_self_iff made⟩
  · obtain ⟨s₁, s₂, stored, got⟩ := Swarm.get?_set works made short destination
    refine ⟨s₁, s₂, _, stored, got, ?_, ?_⟩
    · split
      · next empty => exact (Std.ExtTreeSet.isEmpty_iff.mp empty).symm
      · rfl
    · rw [← NodeSet.stripped_eq_self_iff made]
      split
      · next empty =>
        -- an empty set is not the one that was stored
        rw [Std.ExtTreeSet.isEmpty_iff.mp empty]
        exact ⟨nofun, fun same => absurd same.symm some⟩
      · exact ⟨Option.some.inj, congrArg Option.some⟩

/-- A node like the others but for a blank before its address. -/
def blankNode : Node :=
  { digitNode '1' with address := " storage" }

/-- The address of such a node begins with a letter. -/
theorem plain_digitNode (digit : Char) : (digitNode digit).Plain := by
  intro c begins
  have head : (digitNode digit).address.toList.head? = some 's' := by
    change "storage".toList.head? = some 's'
    decide +kernel
  obtain rfl := Option.some.inj (head.symm.trans begins)
  rfl

/-- Such a node can be made of its parts, with any address that is not empty. -/
theorem made_digits {digit : Char} (known : digit = '1' ∨ digit = '2' ∨ digit = '3')
    {address : String} (some : address.isEmpty = false) :
    ({ digitNode digit with address } : Node).Made :=
  ⟨address, 22021, (digitNode digit).ed25519, (digitNode digit).x25519, Node.ofParts_eq_ok.mpr
    ⟨some, _, _, checkKey_digits known _, checkKey_digits known _, rfl⟩⟩

/-- The set of this one node. -/
def blankSet : NodeSet :=
  .ofList [blankNode]

theorem mem_blankSet {node : Node} : node ∈ blankSet ↔ node = blankNode := by
  rw [blankSet, Std.ExtTreeSet.mem_ofList, List.contains_iff_mem, List.mem_singleton]

theorem made_of_mem_blankSet : ∀ node ∈ blankSet, node.Made := by
  intro node mem
  rw [mem_blankSet.mp mem]
  exact made_digits (.inl rfl) rfl

/-- The row of the set is not too long. -/
theorem short_blankSet : (textsCodec.write blankSet.texts).length < UInt64.size := by
  decide +kernel

/-- Two paths of nodes without blanks come back, and a node with a blank does not. -/
theorem stored_nodes_unchanged_iff_blank :
    (∃ s₁ s₂ found, Pool.set blankSet {} = .ok () s₁ ∧ Pool.get s₁ = .ok found s₂ ∧
      found ≠ blankSet) ∧
    (∃ s₁ s₂ found, Swarm.set "05aa" blankSet {} = .ok () s₁ ∧
      Swarm.get? "05aa" s₁ = .ok found s₂ ∧ found ≠ some blankSet) ∧
    ∃ c₁ c₂ found, PathM.setPaths firstHops { store := {} } = .ok found c₁ ∧
      PathM.paths c₁ = .ok found c₂ := by
  -- the nodes of both paths have plain addresses, the node of the set has not
  have hops : ∀ node ∈ (digitHops '1' '2' '3').toList ++ (digitHops '2' '3' '1').toList,
      node.Made ∧ node.Plain := by
    have one : (digitNode '1').Made := made_digits (.inl rfl) rfl
    have two : (digitNode '2').Made := made_digits (.inr (.inl rfl)) rfl
    have three : (digitNode '3').Made := made_digits (.inr (.inr rfl)) rfl
    simp [digitHops, one, two, three, plain_digitNode]
  have blank : ¬ ∀ node ∈ blankSet, node.Plain := by
    intro plain
    have begins : Text.isBlank ' ' = false := plain _ (mem_blankSet.mpr rfl) ' ' rfl
    cases begins
  obtain ⟨⟨s₁, s₂, found, stored, got, -, same⟩, swarm, c₁, c₂, found', set, asked, whole⟩ :=
    stored_nodes_unchanged_iff (s := {}) (fun _ _ => rfl) made_of_mem_blankSet short_blankSet "05aa"
      (c := { store := {} }) (fun _ _ => rfl) (by decide +kernel) fun node mem => (hops node mem).1
  have some : blankSet ≠ ∅ := by
    intro empty
    exact Std.ExtTreeSet.not_mem_empty (empty ▸ mem_blankSet.mpr rfl)
  obtain ⟨s₃, s₄, found'', stored', got', -, same'⟩ := swarm some
  rw [whole.mpr fun node mem => (hops node mem).2] at asked
  exact ⟨⟨s₁, s₂, found, stored, got, mt same.mp blank⟩,
    ⟨s₃, s₄, found'', stored', got', mt same'.mp blank⟩, c₁, c₂, _, set, asked⟩

/-- **A node that comes back as another one**: the only node of a pool was made of parts that pass,
and another one is given. -/
theorem stored_node_altered : blankNode.Made ∧
    ∃ s₁ s₂ found, Pool.set blankSet {} = .ok () s₁ ∧ Pool.get s₁ = .ok found s₂ ∧
      digitNode '1' ∈ found ∧ blankNode ∉ found := by
  have left : blankNode.stripped? = some (digitNode '1') := by decide +kernel
  obtain ⟨s₁, s₂, stored, got⟩ :=
    Pool.get_set (s := {}) (fun _ _ => rfl) made_of_mem_blankSet short_blankSet
  refine ⟨made_digits (.inl rfl) rfl, s₁, s₂, _, stored, got, ?_, fun mem => ?_⟩
  · exact NodeSet.mem_stripped.mpr ⟨blankNode, mem_blankSet.mpr rfl, left⟩
  · obtain ⟨other, mem, same⟩ := NodeSet.mem_stripped.mp mem
    rw [mem_blankSet.mp mem, left] at same
    exact absurd same (by decide +kernel)

end ConfigReplica.Routing
