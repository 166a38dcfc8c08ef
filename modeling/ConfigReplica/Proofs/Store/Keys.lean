import ConfigReplica.Ledger
import ConfigReplica.Proofs.IdentityText
import ConfigReplica.Proofs.Routing.NodeGrammar
import ConfigReplica.Proofs.Session.Reaching

/-!
# Rows under keys of several parts

Two tables of the store have keys that are put together of parts. The hash of the last message from
a node for a destination stands under the text of the node and the destination, joined by a bar; an
object stands under the name of its variant and, in a group, the digits of the group, joined by a
colon. A row is that of one node and destination, or of one scope and variant, as long as the parts
can be told from the whole.

* The address of a node may be any text, with hyphens and bars in it. The destination has no bar,
  so the last bar is the joint whatever stands before it, and what stands before it is the text of
  one node only (`Ledger.cursorKey_inj`).
* The name of a variant has no colon, and its key is longer than the name in a group only
  (`Scope.slotKey_inj`).

So the ledger remembers for each node and destination what was noted for them last, however many
others were noted in between (`Ledger.noteAll_spec`), and storing an object leaves the rows of all
others as they are (`Device.keepsToRow`). Both together are `rows_stay_apart`.
-/

namespace ConfigReplica

open Config

namespace Ledger

/-! ### Keys of hashes -/

/-- The place of the row with the hash of the last message. -/
def cursorCell (node : Routing.Node) (destination : String) : Cell :=
  ⟨.lastHashes, cursorKey node destination⟩

/-- The key of a hash is two parts with a bar in between. -/
theorem toList_cursorKey (node : Routing.Node) (destination : String) :
    (cursorKey node destination).toList = node.text.toList ++ '|' :: destination.toList := by
  simp [cursorKey]

/-- Nothing is between two joints if no bar comes after the first. -/
theorem eq_nil_of_joint {middle back back' : List Char} (plain : '|' ∉ back)
    (same : '|' :: back = middle ++ '|' :: back') : middle = [] := by
  cases middle with
  | nil => rfl
  | cons first middle =>
    rw [List.cons_append] at same
    obtain ⟨-, rest⟩ := List.cons.inj same
    have bar : '|' ∈ middle ++ '|' :: back' := List.mem_append_right _ (List.mem_cons_self ..)
    exact absurd (rest ▸ bar) plain

/-- **The last bar is the joint.** -/
theorem eq_of_joined {front front' back back' : List Char} (plain : '|' ∉ back)
    (plain' : '|' ∉ back') (same : front ++ '|' :: back = front' ++ '|' :: back') :
    front = front' ∧ back = back' := by
  -- one of the fronts is the other and some more, and there is no more
  rcases List.append_eq_append_iff.mp same with ⟨middle, longer, rest⟩ | ⟨middle, longer, rest⟩
  · obtain rfl := eq_nil_of_joint plain rest
    exact ⟨by simpa using longer.symm, by simpa using rest⟩
  · obtain rfl := eq_nil_of_joint plain' rest
    exact ⟨by simpa using longer, by simpa using rest.symm⟩

/-- **Different nodes and destinations have different keys.** -/
theorem cursorKey_inj {node other : Routing.Node} {destination destination' : String}
    (made : node.Made) (made' : other.Made) (plain : '|' ∉ destination.toList)
    (plain' : '|' ∉ destination'.toList)
    (same : cursorKey node destination = cursorKey other destination') :
    node = other ∧ destination = destination' := by
  have joined := congrArg String.toList same
  rw [toList_cursorKey, toList_cursorKey] at joined
  obtain ⟨texts, destinations⟩ := eq_of_joined plain plain' joined
  exact ⟨made.text_injective made' (String.toList_inj.mp texts), String.toList_inj.mp destinations⟩

/-! ### Messages that are noted -/

/-- A message was fetched from a node for a destination. -/
structure Fetch where
  node : Routing.Node
  destination : String
  hash : String

namespace Fetch

/-- The message is from this node and for this destination. -/
def Matches (fetch : Fetch) (node : Routing.Node) (destination : String) : Prop :=
  fetch.node = node ∧ fetch.destination = destination

instance (fetch : Fetch) (node : Routing.Node) (destination : String) :
    Decidable (fetch.Matches node destination) :=
  inferInstanceAs (Decidable (_ ∧ _))

/-- What is relied on: the node was made of parts that pass, the destination has no bar, and the
hash is no longer than a row may be. -/
structure Sound (fetch : Fetch) : Prop where
  made : fetch.node.Made
  plain : '|' ∉ fetch.destination.toList
  short : (Codec.text.write fetch.hash).length < UInt64.size

/-- Takes note of the message. -/
def note (fetch : Fetch) : StoreM Unit :=
  setLastHash fetch.node fetch.destination fetch.hash

/-- Its row is that of a node and a destination exactly if it is from the one and for the other. -/
theorem Sound.cell_eq_iff {fetch : Fetch} (sound : fetch.Sound) {node : Routing.Node}
    {destination : String} (made : node.Made) (plain : '|' ∉ destination.toList) :
    cursorCell node destination = cursorCell fetch.node fetch.destination ↔
      fetch.Matches node destination := by
  constructor
  · intro same
    obtain ⟨nodes, destinations⟩ :=
      cursorKey_inj made sound.made plain sound.plain (congrArg Cell.key same)
    exact ⟨nodes.symm, destinations.symm⟩
  · rintro ⟨rfl, rfl⟩
    rfl

end Fetch

/-- Takes note of one message after the other. -/
def noteAll (fetches : List Fetch) : StoreM Unit :=
  fetches.forM Fetch.note

/-- The hash of the last of these messages that is from a node and for a destination. -/
def lastOf (fetches : List Fetch) (node : Routing.Node) (destination : String) : Option String :=
  (fetches.findRev? fun fetch => fetch.Matches node destination).map Fetch.hash

section Runs

variable {s s' : Store} {fetch : Fetch} {fetches : List Fetch} {node : Routing.Node}
  {destination : String}

/-- The last of some messages is the last of the later ones, if any of them is for the place. -/
theorem lastOf_cons (fetch : Fetch) (fetches : List Fetch) (node : Routing.Node)
    (destination : String) :
    lastOf (fetch :: fetches) node destination =
      (lastOf fetches node destination).or
        (if fetch.Matches node destination then some fetch.hash else none) := by
  unfold lastOf
  rw [List.findRev?]
  cases fetches.findRev? fun fetch => fetch.Matches node destination with
  | some later => rfl
  | none =>
    by_cases here : fetch.Matches node destination
    · simp [here]
    · simp [here]

/-- It is the hash of one of them. -/
theorem exists_of_lastOf {hash : String} (last : lastOf fetches node destination = some hash) :
    ∃ fetch ∈ fetches, fetch.hash = hash := by
  unfold lastOf at last
  rw [List.findRev?_eq_find?_reverse] at last
  obtain ⟨fetch, found, same⟩ := Option.map_eq_some_iff.mp last
  exact ⟨fetch, List.mem_reverse.mp (List.mem_of_find?_eq_some found), same⟩

/-- **What a run of messages leaves in the store**: under each node and destination the hash that
was noted last, or what was there, and in other tables what was there. -/
structure Noted (fetches : List Fetch) (s s' : Store) : Prop where
  works : s'.Works
  cursors : ∀ node destination, node.Made → '|' ∉ destination.toList →
    s'.row? (cursorCell node destination) =
      ((lastOf fetches node destination).map Codec.text.write).or
        (s.row? (cursorCell node destination))
  others : ∀ cell, cell.table ≠ .lastHashes → s'.row? cell = s.row? cell

/-- Taking note of one message writes one row. -/
theorem note_of_works (works : s.Works) (fetch : Fetch) :
    ∃ s', fetch.note s = .ok () s' ∧ s'.Works ∧ ∀ cell,
      s'.row? cell = if cell = cursorCell fetch.node fetch.destination
        then some (Codec.text.write fetch.hash) else s.row? cell := by
  let cell := cursorCell fetch.node fetch.destination
  let bytes := Codec.text.write fetch.hash
  have ran : fetch.note s = .ok () ((s.noted (.write cell)).insert cell bytes) :=
    StoreM.put_of_granted bytes (works _ _)
  exact ⟨_, ran, works, fun other => Store.row?_insert _ cell other bytes⟩

/-- **A step**: the message that is noted now is the last one for its node and destination. -/
theorem Noted.cons {s₁ : Store} (sound : fetch.Sound)
    (first : ∀ cell, s₁.row? cell = if cell = cursorCell fetch.node fetch.destination
      then some (Codec.text.write fetch.hash) else s.row? cell)
    (rest : Noted fetches s₁ s') : Noted (fetch :: fetches) s s' where
  works := rest.works
  cursors node destination made plain := by
    rw [rest.cursors node destination made plain, lastOf_cons, first]
    -- a later message for the place hides the one that is noted now
    cases lastOf fetches node destination with
    | some later => rfl
    | none =>
      by_cases here : fetch.Matches node destination
      · rw [if_pos ((sound.cell_eq_iff made plain).mpr here), if_pos here]
        rfl
      · rw [if_neg (here ∘ (sound.cell_eq_iff made plain).mp), if_neg here]
        rfl
  others cell table := by
    have other : cell ≠ cursorCell fetch.node fetch.destination := by
      rintro rfl
      exact table rfl
    rw [rest.others cell table, first, if_neg other]

/-- **A run**: all messages are noted. -/
theorem noteAll_spec (works : s.Works) (sound : ∀ fetch ∈ fetches, fetch.Sound) :
    ∃ s', noteAll fetches s = .ok () s' ∧ Noted fetches s s' := by
  induction fetches generalizing s with
  | nil => exact ⟨s, rfl, works, fun _ _ _ _ => rfl, fun _ _ => rfl⟩
  | cons fetch fetches ih =>
    rw [List.forall_mem_cons] at sound
    obtain ⟨s₁, ran, works₁, first⟩ := note_of_works works fetch
    obtain ⟨s', ran', rest⟩ := ih works₁ sound.2
    exact ⟨s', (bind_of_ok ran).trans ran', rest.cons sound.1 first⟩

/-- **What is asked for after a run** over a table that was empty. -/
theorem Noted.lastHash_eq (noted : Noted fetches s s')
    (empty : ∀ key, s.row? ⟨.lastHashes, key⟩ = none) (sound : ∀ fetch ∈ fetches, fetch.Sound)
    (made : node.Made) (plain : '|' ∉ destination.toList) :
    lastHash node destination s' = .ok (lastOf fetches node destination)
      (s'.noted (.read (cursorCell node destination))) := by
  have row := noted.cursors node destination made plain
  have granted : s'.fault s'.past (.read (cursorCell node destination)) = none := noted.works _ _
  rw [show s.row? (cursorCell node destination) = none from empty _, Option.or_none] at row
  cases last : lastOf fetches node destination with
  | none =>
    rw [last] at row
    exact StoreM.load_of_free Codec.text _ _ s' granted row
  | some hash =>
    rw [last] at row
    obtain ⟨fetch, mem, rfl⟩ := exists_of_lastOf last
    have decoded := Codec.decode_write Codec.faithful_text fetch.hash (sound fetch mem).short
    exact StoreM.load_of_row Codec.text _ _ s' granted row decoded

end Runs

end Ledger

/-- Destinations are known by digits, and no digit is a bar. -/
theorem Destination.bar_notMem_swarmKey (destination : Destination) :
    '|' ∉ destination.swarmKey.toList := by
  have plain (id : Identity) : '|' ∉ id.hex.toList := by
    intro mem
    rw [Identity.hex, Hex.encode, String.toList_ofList] at mem
    have digit := Hex.isSome_value?_iff.mpr (Hex.isDigit_of_mem_encodeChars mem)
    cases digit
  cases destination with
  | contact id => exact plain id
  | closedGroup group => exact plain group.identity

/-! ### Rows of objects -/

namespace Device

variable {d d' : Device} {scope : Scope} {variant : Variant} {time : Int64}

/-- The row at a place is what it was. -/
def SameRow (cell : Cell) (d d' : Device) : Prop :=
  d'.store.row? cell = d.store.row? cell

/-- Rows that are the same are the same at each place. -/
theorem SameRow.of_rows (same : d'.store.rows = d.store.rows) (cell : Cell) :
    SameRow cell d d' := by
  unfold SameRow Store.row?
  rw [same]

/-- What every step leaves as it was, the action leaves as it was. -/
theorem sameRow_of_within {α : Type} {action : SessionM α} {cell : Cell}
    (within : Within (SameRow cell) action) (d : Device) :
    SameRow cell d (stateAfter action d) := by
  have steps := within d
  generalize stateAfter action d = d' at steps
  induction steps with
  | refl => rfl
  | tail past step ih => exact step.trans ih

/-- Looking something up writes nothing. -/
theorem looking_sameRow (cell : Cell) : SessionM.Looking (SameRow cell) :=
  ⟨fun _ _ => rfl, fun _ _ => rfl, fun _ _ _ => rfl, fun _ _ _ _ => rfl, fun _ _ => rfl⟩

end Device

namespace SessionM

open Device

variable {d d' : Device} {scope : Scope} {variant : Variant} {time : Int64}

/-- Writing one row leaves another as it was. -/
theorem within_put {cell : Cell} {table : Table} {key : String} (other : cell ≠ ⟨table, key⟩)
    (bytes : Bytes) : Within (SameRow cell) (onStore (StoreM.put table key bytes)) := by
  refine .step fun d => ?_
  have put := onStore_put table key bytes d
  split at put
  · rw [stateAfter_of_ok put, SameRow, row?_setRow, if_neg other]
    rfl
  · rw [stateAfter_of_error put]
    rfl

/-- **Storing the object of a handle** leaves all rows but its own as they were, whether it fails or
not. -/
theorem sameRow_persistObject (handle : Handle) (time : Int64) (d : Device) {cell : Cell}
    (other : cell ≠ (d.session.object handle).scope.cell (d.session.object handle).variant) :
    SameRow cell d (stateAfter (persistObject handle time) d) := by
  have looks : object handle d = .ok (d.session.object handle) d := rfl
  unfold persistObject
  rw [stateAfter_bind_of_ok looks]
  -- which row is written is known now, and nothing that comes before the write changes it
  apply sameRow_of_within
  split
  · exact .throw _
  · refine ((looking_sameRow cell).within_checkPresent _).bind fun _ => ?_
    exact (within_put other _).bind fun _ => .step fun _ => rfl

/-- Getting to an object leaves all rows as they were. -/
theorem rows_of_reaches {handle : Handle} (tidy : d.Tidy)
    (reaches : d.Reaches scope variant handle d') : d'.store.rows = d.store.rows := by
  obtain ⟨d₁, checked, ran⟩ := reaches.looked
  have alike := alike_of_checkPresent checked
  calc d'.store.rows = d₁.store.rows := (found_of_ok (alike.tidy tidy) ran).loaded.rows
    _ = d.store.rows := alike.rows

/-- Storing the object of a scope and variant is getting to it and storing it. -/
theorem persist_cases (tidy : d.Tidy) (variant : Variant) (scope : Scope) (time : Int64) :
    (∃ error d', Alike d d' ∧ persist variant scope time d = .error error d') ∨
      ∃ handle d', d.Reaches scope variant handle d' ∧
        persist variant scope time d = persistObject handle time d' := by
  have unfolded (d : Device) : persist variant scope time d =
      reach variant scope (fun handle => persistObject handle time) d := rfl
  rcases reach_cases tidy variant scope with ⟨error, d', alike, fails, -⟩ | ⟨handle, d', reaches⟩
  · exact .inl ⟨error, d', alike, (unfolded d).trans (fails _)⟩
  · refine .inr ⟨handle, d', reaches, ?_⟩
    rw [unfolded, reach_of_reaches reaches, reach_of_ready reaches.ready]

end SessionM

namespace Device

/-- **Storing an object keeps to its row.** If it succeeds, the row holds the object of the scope
and variant. The rows of all other scopes and variants are as they were, whether it fails or not. -/
structure KeepsToRow (d : Device) (scope : Scope) (variant : Variant) (time : Int64) : Prop where
  own : ∀ d', SessionM.persist variant scope time d = .ok () d' →
    ∃ o, d.Finds scope variant o ∧ d'.store.row? ⟨.configs, scope.slotKey variant⟩ =
      some (StoredObject.codec.write { time, dump := o.dump })
  others : ∀ other v, ¬ (other = scope ∧ v = variant) →
    (stateAfter (SessionM.persist variant scope time) d).store.row? ⟨.configs, other.slotKey v⟩ =
      d.store.row? ⟨.configs, other.slotKey v⟩

variable {d d' : Device} {scope : Scope} {variant : Variant} {handle : Handle} {time : Int64}

/-- An object that was stored is in its row. -/
theorem Ready.row?_persisted (ready : d.Ready scope variant handle)
    (stored : SessionM.persistObject handle time d = .ok () d') :
    d'.store.row? (scope.cell variant) =
      some (StoredObject.codec.write { time, dump := (d.session.object handle).dump }) := by
  obtain ⟨-, -, hasScope, hasVariant, -⟩ := ready.tidy scope variant handle ready.placed
  have own : scope.cell variant =
      (d.session.object handle).scope.cell (d.session.object handle).variant := by
    rw [hasScope, hasVariant]
  rw [ready.persistObject_eq] at stored
  split at stored
  · cases stored
    exact (row?_saved (d.noted _) handle time _).trans (if_pos own)
  · cases stored

/-- From a tidy device, storing an object keeps to its row. -/
theorem keepsToRow (tidy : d.Tidy) (scope : Scope) (variant : Variant) (time : Int64) :
    d.KeepsToRow scope variant time := by
  rcases SessionM.persist_cases tidy variant scope time with ⟨error, d', alike, failed⟩ |
    ⟨handle, d', reaches, ran⟩
  · -- nothing is stored
    refine ⟨fun d'' stored => ?_, fun other v _ => ?_⟩
    · cases failed.symm.trans stored
    · rw [stateAfter_of_error failed]
      exact SameRow.of_rows alike.rows _
  · have ready := reaches.ready
    refine ⟨fun d'' stored => ?_, fun other v differs => ?_⟩
    · rw [ran] at stored
      exact ⟨_, reaches.finds (.inl ⟨handle, ready.placed, rfl⟩), ready.row?_persisted stored⟩
    · obtain ⟨-, -, hasScope, hasVariant, -⟩ := ready.tidy scope variant handle ready.placed
      have away : other.cell v ≠
          (d'.session.object handle).scope.cell (d'.session.object handle).variant := by
        intro same
        rw [hasScope, hasVariant] at same
        exact differs (Scope.cell_inj same)
      have kept := SessionM.sameRow_persistObject handle time d' away
      rw [stateAfter, ran, ← stateAfter]
      exact kept.trans (SameRow.of_rows (SessionM.rows_of_reaches tidy reaches) _)

end Device

/-- **Rows do not get into each other's way.** Any messages are noted by a ledger over a store that
works and holds no hashes yet; their nodes were made of parts that pass, with any addresses, and
their destinations have no bar, as those of the network. Then for any node and destination the
ledger gives the hash that was noted for this node and this destination last, and none if none was
noted; and no other table is touched. The key of the row of an object tells its scope and its
variant. So to store an object never changes the row of another one, neither when a session stores
what it holds under a handle nor when it is asked to store the object of a scope and variant. -/
theorem rows_stay_apart {s : Store} (works : s.Works)
    (empty : ∀ key, s.row? ⟨.lastHashes, key⟩ = none) {fetches : List Ledger.Fetch}
    (sound : ∀ fetch ∈ fetches, fetch.Sound) :
    (∃ s', Ledger.noteAll fetches s = .ok () s' ∧
      (∀ node destination, node.Made → '|' ∉ destination.toList →
        ∃ s'', Ledger.lastHash node destination s' =
          .ok (Ledger.lastOf fetches node destination) s'') ∧
      ∀ cell, cell.table ≠ .lastHashes → s'.row? cell = s.row? cell) ∧
    (∀ destination : Destination, '|' ∉ destination.swarmKey.toList) ∧
    (Function.Injective fun slot : Variant × Scope => slot.2.slotKey slot.1) ∧
    (∀ (d : Device) (handle : Handle) (time : Int64) (scope : Scope) (variant : Variant),
      ¬ (scope = (d.session.object handle).scope ∧ variant = (d.session.object handle).variant) →
      (stateAfter (SessionM.persistObject handle time) d).store.row?
        ⟨.configs, scope.slotKey variant⟩ = d.store.row? ⟨.configs, scope.slotKey variant⟩) ∧
    ∀ d : Device, d.Reached → ∀ scope variant time, d.KeepsToRow scope variant time := by
  -- the ledger, the keys, what is held under a handle, and what is asked for by scope and variant
  refine ⟨?_, Destination.bar_notMem_swarmKey, ?_, ?_, fun d reached => ?_⟩
  · obtain ⟨s', ran, noted⟩ := Ledger.noteAll_spec works sound
    refine ⟨s', ran, fun node destination made plain => ?_, noted.others⟩
    exact ⟨_, noted.lastHash_eq empty sound made plain⟩
  · rintro ⟨variant, scope⟩ ⟨v, other⟩ same
    obtain ⟨rfl, rfl⟩ := Scope.slotKey_inj same
    rfl
  · intro d handle time scope variant differs
    exact SessionM.sameRow_persistObject handle time d fun same => differs (Scope.cell_inj same)
  · exact Device.keepsToRow reached.tidy

/-- A node whose address has a bar and ends like the text of a node. -/
def barNode : Routing.Node :=
  { Routing.digitNode '1' with address := "storage|05aa-22021" }

/-- Messages from it and from another node, for one destination. -/
def barFetches : List Ledger.Fetch :=
  [⟨barNode, "05aa", "first"⟩, ⟨Routing.digitNode '1', "05aa", "other"⟩,
    ⟨barNode, "05aa", "second"⟩]

/-- Each node has its own last message, a destination without messages has none, and to store the
contacts changes nothing about the groups. -/
theorem rows_stay_apart_bars :
    (∀ fetch ∈ barFetches, fetch.Sound) ∧
    (∃ s', Ledger.noteAll barFetches {} = .ok () s' ∧
      (∃ s'', Ledger.lastHash barNode "05aa" s' = .ok (some "second") s'') ∧
      (∃ s'', Ledger.lastHash (Routing.digitNode '1') "05aa" s' = .ok (some "other") s'') ∧
      ∃ s'', Ledger.lastHash (Routing.digitNode '1') "05bb" s' = .ok none s'') ∧
    (stateAfter (SessionM.persist .contacts .account 9) (Device.fresh 5)).store.row?
      ⟨.configs, "user_groups"⟩ = none := by
  have bar : barNode.Made := Routing.made_digits (.inl rfl) rfl
  have plain : (Routing.digitNode '1').Made := Routing.made_digits (.inl rfl) rfl
  have sound : ∀ fetch ∈ barFetches, fetch.Sound := by
    simp only [barFetches, List.forall_mem_cons, List.not_mem_nil, false_implies, implies_true,
      and_true]
    exact ⟨⟨bar, by decide, by decide +kernel⟩, ⟨plain, by decide, by decide +kernel⟩,
      ⟨bar, by decide, by decide +kernel⟩⟩
  obtain ⟨⟨s', ran, asked, -⟩, -, -, -, stored⟩ :=
    rows_stay_apart (s := {}) (fun _ _ => rfl) (fun _ => rfl) sound
  -- what is asked for is told from the list of messages alone
  have second : Ledger.lastOf barFetches barNode "05aa" = some "second" := by decide +kernel
  have other : Ledger.lastOf barFetches (Routing.digitNode '1') "05aa" = some "other" := by
    decide +kernel
  have none : Ledger.lastOf barFetches (Routing.digitNode '1') "05bb" = none := by decide +kernel
  have kept := (stored _ (Device.reached_fresh 5) .account .contacts 9).others .account .userGroups
    (by decide)
  exact ⟨sound, ⟨s', ran, second ▸ asked _ _ bar (by decide), other ▸ asked _ _ plain (by decide),
    none ▸ asked _ _ plain (by decide)⟩, kept⟩

end ConfigReplica
