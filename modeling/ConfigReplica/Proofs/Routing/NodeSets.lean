import ConfigReplica.Proofs.Routing.NodeText
import ConfigReplica.Proofs.Store.Steps
import ConfigReplica.Routing.Pool
import Mathlib.Data.List.Basic

/-!
# Rows of node sets

The pool and each swarm are one row: the texts of the nodes. Reading a row leaves out the texts of
no node and does not tell two texts of one node apart, so that a row and the set in it (`nodesAt?`)
are two things; but the nodes of such a set all have texts that read back (`readable_of_held`).
Therefore taking a node out of the pool or a swarm takes out that node and no other (`Loses`).
-/

namespace ConfigReplica.Routing

/-- The texts of a set are written such that they can be read. -/
theorem faithful_textsCodec : textsCodec.Faithful :=
  Codec.faithful_list Codec.faithful_text Codec.solid_text

/-- The place of the row of the pool. -/
def Pool.cell : Cell :=
  ⟨.nodePool, Pool.key⟩

/-- The place of the row of a swarm. -/
def Swarm.cell (destination : String) : Cell :=
  ⟨.swarms, destination⟩

/-- The set of nodes in a row. It is empty where there is no row, and there is none where the row
cannot be read. -/
def nodesAt? (rows : Cell → Option Bytes) (cell : Cell) : Option NodeSet :=
  match rows cell with
  | none => some ∅
  | some bytes => (textsCodec.decode bytes).toOption.map NodeSet.ofTexts

section Held

variable {rows rows' : Cell → Option Bytes} {cell : Cell} {nodes : NodeSet}

/-- The set in a row depends on that row alone. -/
theorem nodesAt?_congr (same : rows' cell = rows cell) :
    nodesAt? rows' cell = nodesAt? rows cell := by
  unfold nodesAt?
  rw [same]

/-- Where there is no row the set is empty. -/
theorem nodesAt?_of_free (free : rows cell = none) : nodesAt? rows cell = some ∅ := by
  unfold nodesAt?
  rw [free]

/-- The nodes in a row have texts that read back. -/
theorem readable_of_held (held : nodesAt? rows cell = some nodes) {node : Node}
    (mem : node ∈ nodes) : Node.parse node.text = .ok node := by
  unfold nodesAt? at held
  split at held
  · cases held
    exact absurd mem Std.ExtTreeSet.not_mem_empty
  · next bytes row =>
    obtain ⟨texts, -, rfl⟩ := Option.map_eq_some_iff.mp held
    -- each of them was read from one of the texts
    rw [NodeSet.ofTexts, Std.ExtTreeSet.mem_ofList, List.contains_iff_mem,
      List.mem_filterMap] at mem
    obtain ⟨text, -, parsed⟩ := mem
    cases read : Node.parse text with
    | error fault =>
      rw [read] at parsed
      cases parsed
    | ok node' =>
      rw [read] at parsed
      cases parsed
      exact Node.parse_text_of_parse read

/-- The texts of nodes that read back stand for these nodes. -/
theorem ofTexts_texts (readable : ∀ node ∈ nodes, Node.parse node.text = .ok node) :
    NodeSet.ofTexts nodes.texts = nodes := by
  have read : nodes.texts.filterMap (fun text => (Node.parse text).toOption) = nodes.toList := by
    have each : ∀ node ∈ nodes.toList, (Node.parse node.text).toOption = some node := by
      intro node mem
      rw [readable node (Std.ExtTreeSet.mem_toList.mp mem)]
      rfl
    rw [NodeSet.texts, List.filterMap_map]
    exact (List.filterMap_eq_map_iff_forall_eq_some.mpr each).trans (List.map_id _)
  rw [NodeSet.ofTexts, read]
  refine Std.ExtTreeSet.ext_mem fun node => ?_
  rw [Std.ExtTreeSet.mem_ofList, List.contains_iff_mem, Std.ExtTreeSet.mem_toList]

/-- What was written is read back. -/
theorem nodesAt?_of_row (readable : ∀ node ∈ nodes, Node.parse node.text = .ok node)
    (row : rows cell = some (textsCodec.write nodes.texts))
    (short : (textsCodec.write nodes.texts).length < UInt64.size) :
    nodesAt? rows cell = some nodes := by
  unfold nodesAt?
  rw [row]
  dsimp only
  rw [Codec.decode_write faithful_textsCodec _ short]
  exact congrArg some (ofTexts_texts readable)

end Held

/-! ### Reading -/

section Steps

variable {s s' : Store} {table : Table} {key : String} {nodes : NodeSet} {node : Node}

/-- Reading gives the set in the row; where there is no row, nothing, which counts as the empty set.
-/
theorem loadNodes_of_held (works : s.Works) (held : nodesAt? s.row? ⟨table, key⟩ = some nodes) :
    ∃ found : Option NodeSet,
      loadNodes table key s = .ok found (s.noted (.read ⟨table, key⟩)) ∧ found.getD ∅ = nodes := by
  have takes := works s.past (.read ⟨table, key⟩)
  unfold nodesAt? at held
  cases row : s.row? ⟨table, key⟩ with
  | none =>
    rw [row] at held
    cases held
    exact ⟨none, bind_of_ok (StoreM.load_of_free textsCodec _ _ _ takes row), rfl⟩
  | some bytes =>
    -- the row decodes, as it holds a set
    rw [row] at held
    obtain ⟨texts, decoded, rfl⟩ := Option.map_eq_some_iff.mp held
    cases read : textsCodec.decode bytes with
    | error fault =>
      rw [read] at decoded
      cases decoded
    | ok texts' =>
      rw [read] at decoded
      cases decoded
      exact ⟨some (.ofTexts texts),
        bind_of_ok (StoreM.load_of_row textsCodec _ _ _ takes row read), rfl⟩

/-- The pool that is read is the set in its row. -/
theorem Pool.get_of_held (works : s.Works) (held : nodesAt? s.row? Pool.cell = some nodes) :
    Pool.get s = .ok nodes (s.noted (.read Pool.cell)) := by
  obtain ⟨found, ran, rfl⟩ := loadNodes_of_held works held
  exact bind_of_ok ran

/-- A row that cannot be read is an error. -/
theorem loadNodes_of_unreadable (held : nodesAt? s.row? ⟨table, key⟩ = none) :
    ∃ error, loadNodes table key s = .error error (s.noted (.read ⟨table, key⟩)) := by
  rcases StoreM.load_cases textsCodec table key s with ⟨found, ran, given⟩ | ⟨error, ran⟩
  · -- it would be readable
    unfold nodesAt? at held
    cases row : s.row? ⟨table, key⟩ with
    | none =>
      rw [row] at held
      cases held
    | some bytes =>
      rw [row] at held given
      obtain ⟨texts, decoded, -⟩ := given
      dsimp only at held
      rw [decoded] at held
      cases held
  · exact ⟨error, bind_of_error ran⟩

/-- What was given is what the row holds. -/
theorem held_of_loadNodes {found : Option NodeSet} (ran : loadNodes table key s = .ok found s') :
    nodesAt? s.row? ⟨table, key⟩ = some (found.getD ∅) := by
  obtain ⟨texts, s₁, loaded, given⟩ := bind_eq_ok.mp ran
  cases given
  unfold nodesAt?
  rcases StoreM.load_cases textsCodec table key s with ⟨value, same, holds⟩ | ⟨error, failed⟩
  · cases loaded.symm.trans same
    cases row : s.row? ⟨table, key⟩ with
    | none =>
      rw [row] at holds
      rw [holds]
      rfl
    | some bytes =>
      rw [row] at holds
      obtain ⟨texts, decoded, rfl⟩ := holds
      simp only [decoded]
      rfl
  · cases loaded.symm.trans failed

/-- The pool that was given is what its row holds. -/
theorem Pool.held_of_get {pool : NodeSet} (got : Pool.get s = .ok pool s') :
    nodesAt? s.row? Pool.cell = some pool := by
  obtain ⟨found, s₁, ran, given⟩ := bind_eq_ok.mp got
  cases given
  exact held_of_loadNodes ran

/-! ### Taking a node out -/

/-- The set in a row loses a node, and no other row changes. -/
structure Loses (node : Node) (cell : Cell) (s s' : Store) : Prop where
  fault : s'.fault = s.fault
  others : ∀ other, other ≠ cell → s'.row? other = s.row? other
  left : (∀ bytes, s'.row? cell = some bytes → bytes.length < UInt64.size) →
    nodesAt? s'.row? cell = (nodesAt? s.row? cell).map fun nodes => nodes.erase node

namespace Loses

variable {cell : Cell}

/-- Leaving out a node that is not there changes nothing. -/
theorem erase_of_notMem (absent : node ∉ nodes) : nodes.erase node = nodes := by
  refine Std.ExtTreeSet.ext_mem fun other => ?_
  rw [Std.ExtTreeSet.mem_erase]
  refine ⟨And.right, fun mem => ⟨fun same => absent ?_, mem⟩⟩
  rwa [Std.compare_eq_iff_eq.mp same]

/-- Nothing is to be done where the node is not there. -/
theorem absent (held : nodesAt? s.row? cell = some nodes) (absent : node ∉ nodes)
    (fault : s'.fault = s.fault) (rows : s'.row? = s.row?) : Loses node cell s s' where
  fault := fault
  others other _ := congrFun rows other
  left _ := by
    rw [rows, held, Option.map_some, erase_of_notMem absent]

/-- Nothing is done where the row cannot be read. -/
theorem unreadable (held : nodesAt? s.row? cell = none) (fault : s'.fault = s.fault)
    (rows : s'.row? = s.row?) : Loses node cell s s' where
  fault := fault
  others other _ := congrFun rows other
  left _ := by
    rw [rows, held]
    rfl

/-- The smaller set is written over the larger one. -/
theorem saved (held : nodesAt? s.row? cell = some nodes) (fault : s'.fault = s.fault)
    (rows : ∀ other, s'.row? other =
      if other = cell then some (textsCodec.write (NodeSet.texts (nodes.erase node)))
      else s.row? other) :
    Loses node cell s s' where
  fault := fault
  others other apart := (rows other).trans (if_neg apart)
  left sized := by
    have row := (rows cell).trans (if_pos rfl)
    rw [held, Option.map_some]
    refine nodesAt?_of_row (fun other mem => ?_) row (sized _ row)
    exact readable_of_held held (Std.ExtTreeSet.mem_erase.mp mem).2

/-- The row goes with its last node. -/
theorem forgotten (held : nodesAt? s.row? cell = some nodes) (last : nodes.erase node = ∅)
    (fault : s'.fault = s.fault)
    (rows : ∀ other, s'.row? other = if other = cell then none else s.row? other) :
    Loses node cell s s' where
  fault := fault
  others other apart := (rows other).trans (if_neg apart)
  left _ := by
    rw [held, Option.map_some, last]
    exact nodesAt?_of_free ((rows cell).trans (if_pos rfl))

end Loses

/-- In a store that works a set of nodes is written. -/
theorem saveNodes_of_works (works : s.Works) (table : Table) (key : String) (nodes : NodeSet) :
    saveNodes table key nodes s = .ok ()
      ((s.noted (.write ⟨table, key⟩)).insert ⟨table, key⟩ (textsCodec.write nodes.texts)) := by
  have put := StoreM.put_eq table key s (textsCodec.write nodes.texts)
  rw [works] at put
  exact put

/-- **Taking a node out of the pool.** -/
theorem Pool.remove_loses (works : s.Works) (node : Node) :
    Loses node Pool.cell s (stateAfter (Pool.remove node) s) := by
  let s₁ := s.noted (.read Pool.cell)
  have works₁ : s₁.Works := works
  cases held : nodesAt? s.row? Pool.cell with
  -- the row cannot be read, and the error comes before any write
  | none =>
    obtain ⟨error, ran⟩ := loadNodes_of_unreadable held
    have failed : Pool.remove node s = .error error s₁ := bind_of_error (bind_of_error ran)
    rw [stateAfter_of_error failed]
    exact .unreadable held rfl rfl
  -- the set is read and written again only where the node is in it
  | some nodes =>
    have got : Pool.get s = .ok nodes s₁ := Pool.get_of_held works held
    unfold Pool.remove
    rw [stateAfter_bind_of_ok got]
    split
    · next there =>
      have wrote : Pool.set (nodes.erase node) s₁ = _ :=
        saveNodes_of_works works₁ .nodePool Pool.key _
      rw [stateAfter_bind_of_ok wrote]
      exact .saved held rfl fun other => Store.row?_insert _ _ _ _
    · next gone =>
      exact .absent held (fun mem => gone (Std.ExtTreeSet.contains_iff_mem.mpr mem)) rfl rfl

/-- The swarm that is read is the set in its row; an empty one counts as none. -/
theorem Swarm.get?_of_held {destination : String} (works : s.Works)
    (held : nodesAt? s.row? (Swarm.cell destination) = some nodes) :
    ∃ swarm : Option NodeSet,
      Swarm.get? destination s = .ok swarm (s.noted (.read (Swarm.cell destination))) ∧
        swarm.getD ∅ = nodes := by
  obtain ⟨found, ran, same⟩ := loadNodes_of_held works held
  refine ⟨_, bind_of_ok ran, ?_⟩
  cases found with
  | none => exact same
  | some set =>
    cases empty : set.isEmpty with
    | false => simpa [Option.filter, empty] using same
    | true =>
      rw [← same, Option.filter, empty]
      exact (Std.ExtTreeSet.isEmpty_iff.mp empty).symm

/-- Reading a swarm leaves the faults of the store as they are. -/
theorem Swarm.fault_get? (destination : String) (s : Store) :
    (stateAfter (Swarm.get? destination) s).fault = s.fault :=
  StoreM.fault_bind (StoreM.fault_bind (StoreM.fault_load _ _ _ s) fun _ _ => rfl) fun _ _ => rfl

/-- Reading a swarm changes no row. -/
theorem Swarm.row?_stateAfter_get? (destination : String) (s : Store) :
    (stateAfter (Swarm.get? destination) s).row? = s.row? := by
  have found := stateAfter_bind_pure (loadNodes .swarms destination)
    (fun nodes => nodes.filter fun nodes => !nodes.isEmpty) s
  have texts := stateAfter_bind_pure (StoreM.load textsCodec .swarms destination)
    (fun texts => texts.map NodeSet.ofTexts) s
  exact (congrArg Store.row? (found.trans texts)).trans (StoreM.row?_stateAfter_load _ _ _ s)

/-- A swarm that cannot be read is an error. -/
theorem Swarm.drop_of_unreadable {destination : String}
    (held : nodesAt? s.row? (Swarm.cell destination) = none) (node : Node) :
    ∃ error, Swarm.drop destination node s =
      .error error (s.noted (.read (Swarm.cell destination))) := by
  obtain ⟨error, ran⟩ := loadNodes_of_unreadable held
  exact ⟨error, bind_of_error (bind_of_error ran)⟩

/-- **Taking a node out of a swarm.** -/
theorem Swarm.drop_of_held {destination : String} (works : s.Works)
    (held : nodesAt? s.row? (Swarm.cell destination) = some nodes) (node : Node) :
    ∃ there s', Swarm.drop destination node s = .ok there s' ∧
      Loses node (Swarm.cell destination) s s' := by
  let s₁ := s.noted (.read (Swarm.cell destination))
  have works₁ : s₁.Works := works
  obtain ⟨swarm, got, same⟩ := Swarm.get?_of_held works held
  unfold Swarm.drop
  rw [bind_of_ok got]
  -- no swarm is kept: the set is empty
  cases swarm with
  | none =>
    cases same
    exact ⟨_, _, rfl, .absent held Std.ExtTreeSet.not_mem_empty rfl rfl⟩
  | some set =>
    cases same
    -- the node is in the swarm, as its last one or with others, or it is not
    dsimp only
    split
    · next there =>
      split
      · next last =>
        -- the last node takes the row with it
        have deleted : Swarm.forget destination s₁ = _ := StoreM.delete_eq .swarms destination s₁
        rw [works₁] at deleted
        rw [bind_of_ok deleted]
        exact ⟨_, _, rfl, .forgotten held (Std.ExtTreeSet.isEmpty_iff.mp last) rfl fun other =>
          Store.row?_erase _ _ _⟩
      · next more =>
        have wrote : Swarm.set destination (set.erase node) s₁ = _ :=
          saveNodes_of_works works₁ .swarms destination _
        rw [bind_of_ok wrote]
        exact ⟨_, _, rfl, .saved held rfl fun other => Store.row?_insert _ _ _ _⟩
    · next gone =>
      have absent : node ∉ set := fun mem => gone (Std.ExtTreeSet.contains_iff_mem.mpr mem)
      exact ⟨_, _, rfl, .absent held absent rfl rfl⟩

end Steps

end ConfigReplica.Routing
