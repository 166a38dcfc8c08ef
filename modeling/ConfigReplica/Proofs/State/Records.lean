import ConfigReplica.Config.Edit
import ConfigReplica.Proofs.Json.RoundTrip
import ConfigReplica.Proofs.State.Join

/-!
# Records that are read back

A record of a sound shape is read back from its text (`Record.decode_encode`). Where
every visible value of a collection is a record under its own key (`State.Files`), all
of them are read, and they are exactly the records that show under their keys
(`State.records_of_files`), in the order of these keys.

Edits list and store records at their home; a record that is stored under a new key is
written with the time of the edit (`EditM.setRecord_of_new`).
-/

namespace ConfigReplica.Config

namespace Record

variable {α : Type} [Record α]

/-- **Records are read as they are written.** -/
theorem decode_encode (sound : (shape α).isSound = true) (record : α) :
    decode (encode record) = .ok record := by
  unfold decode encode
  rw [Json.Shape.decode_encode sound]
  exact congrArg Except.ok (ofValue_toValue record)

/-- Different records have different texts. -/
theorem encode_injective (sound : (shape α).isSound = true) :
    Function.Injective (encode : α → String) := by
  intro a b same
  have read := decode_encode sound a
  rw [same, decode_encode sound b] at read
  exact (Except.ok.inj read).symm

end Record

namespace State

variable {s : State} {collection : String}

/-- What is visible in a collection is what its keys show. -/
theorem mem_live_iff {key text : String} :
    (key, text) ∈ s.live collection ↔ s.get? collection key = some text := by
  simp only [live, List.mem_filterMap, Std.ExtTreeMap.mem_toList_iff_getElem?_eq_some, Prod.exists,
    Option.map_eq_some_iff, Prod.mk.injEq, get?, find?, Option.bind_eq_some_iff]
  constructor
  · rintro ⟨_, e, found, _, shown, rfl, rfl⟩
    exact ⟨e, found, shown⟩
  · rintro ⟨e, found, shown⟩
    exact ⟨key, e, found, text, shown, rfl, rfl⟩

/-- Visible values come in the order of their keys. -/
theorem pairwise_live (s : State) (collection : String) :
    (s.live collection).Pairwise fun p q => compare p.1 q.1 = .lt := by
  refine List.pairwise_filterMap.mpr ?_
  refine Std.ExtTreeMap.ordered_keys_toList.imp ?_
  rintro ⟨key, e⟩ ⟨key', e'⟩ ordered p shown p' shown'
  obtain ⟨_, -, rfl⟩ := Option.map_eq_some_iff.mp shown
  obtain ⟨_, -, rfl⟩ := Option.map_eq_some_iff.mp shown'
  exact ordered

/-- A new key shows what is put there, and the others show what they did. -/
theorem get?_put_of_new {key : String} (new : s.find? collection key = none) (e : Entry)
    (collection' key' : String) :
    (s.put collection key e).get? collection' key' =
      if collection' = collection ∧ key' = key then e.value else s.get? collection' key' := by
  have admitted : s.admits collection key e = true := by rw [admits, new]
  simp only [get?, find?_put, admitted, and_true]
  split <;> rfl

section Listed

/-- A function that may fail is applied to all items exactly if it can be applied to each, and what
comes out stands for an item each. -/
theorem mapM_cases {β γ ε : Type} (f : β → Except ε γ) (items : List β) :
    ((∃ results, items.mapM f = .ok results) ↔ ∀ x ∈ items, ∃ y, f x = .ok y) ∧
    ∀ results, items.mapM f = .ok results → ∀ y, y ∈ results ↔ ∃ x ∈ items, f x = .ok y := by
  induction items with
  -- the results come in the order of the items, so each step adds one in front
  | nil => exact ⟨by simp [pure, Except.pure], fun results ran => by cases ran; simp⟩
  | cons x items ih =>
    obtain ⟨all, mem⟩ := ih
    rw [List.mapM_cons, List.forall_mem_cons, ← all]
    cases first : f x with
    | error error =>
      refine ⟨by simp [bind, Except.bind], fun results ran => ?_⟩
      simp [bind, Except.bind] at ran
    | ok y =>
      cases rest : items.mapM f with
      | error error =>
        refine ⟨by simp [bind, Except.bind], fun results ran => ?_⟩
        simp [bind, Except.bind] at ran
      | ok results =>
        refine ⟨by simp [bind, Except.bind, pure, Except.pure], fun results' ran y' => ?_⟩
        obtain rfl : y :: results = results' := Except.ok.inj ran
        rw [List.mem_cons, mem results rest]
        simp [first, eq_comm]

variable {α : Type} [Record α]

/-- **Records are listed** exactly if every visible value of their collection can be read; the list
has what is read then. -/
theorem records_cases (s : State) (α : Type) [Record α] :
    ((∃ records, s.records α = .ok records) ↔
      ∀ key text, s.get? (Record.collection α) key = some text →
        ∃ record : α, Record.decode text = .ok record) ∧
    ∀ records, s.records α = .ok records → ∀ record, record ∈ records ↔
      ∃ key text, s.get? (Record.collection α) key = some text ∧
        Record.decode text = .ok record := by
  obtain ⟨all, mem⟩ := mapM_cases
    (fun entry : String × String => (Record.decode entry.2 : Except Error α))
    (s.live (Record.collection α))
  simp only [Prod.forall, Prod.exists, mem_live_iff] at all mem
  exact ⟨all, mem⟩

end Listed

section Files

variable {α : Type} [Record α]

/-- A record is read from what shows under its key. -/
theorem record?_congr {t : State} {key : String}
    (same : s.get? (Record.collection α) key = t.get? (Record.collection α) key) :
    s.record? α key = t.record? α key := by
  unfold record?
  rw [same]

/-- **Filed records.** Every visible value of the collection of a type of records is
such a record, under its own key. -/
def Files (s : State) (α : Type) [Record α] : Prop :=
  ∀ key text, s.get? (Record.collection α) key = some text →
    ∃ record : α, Record.key record = key ∧ Record.encode record = text

/-- Texts of records are all read. -/
theorem mapM_decode (sound : (Record.shape α).isSound = true) (rows : List (String × String))
    (filed : ∀ row ∈ rows, ∃ record : α, Record.key record = row.1 ∧ Record.encode record = row.2) :
    ∃ records : List α, rows.mapM (fun (_, text) => Record.decode text) = .ok records ∧
      records.map (fun record => (Record.key record, Record.encode record)) = rows := by
  induction rows with
  | nil => exact ⟨[], rfl, rfl⟩
  | cons row rows ih =>
    obtain ⟨key, text⟩ := row
    obtain ⟨record, rfl, rfl⟩ := filed _ (List.mem_cons_self ..)
    obtain ⟨records, read, back⟩ := ih fun row mem => filed row (List.mem_cons_of_mem _ mem)
    refine ⟨record :: records, ?_, ?_⟩
    · simp only [List.mapM_cons, Record.decode_encode sound, bind, Except.bind, read, pure,
        Except.pure]
    · rw [List.map_cons, back]

/-- **All filed records are read**, in the order of their keys. -/
theorem records_of_files (sound : (Record.shape α).isSound = true) (h : s.Files α) :
    ∃ records : List α, s.records α = .ok records ∧
      (∀ record, record ∈ records ↔
        s.get? (Record.collection α) (Record.key record) = some (Record.encode record)) ∧
      records.Pairwise fun a b => compare (Record.key a) (Record.key b) = .lt := by
  obtain ⟨records, read, rows⟩ := mapM_decode sound (s.live (Record.collection α))
    fun row mem => h row.1 row.2 (mem_live_iff.mp mem)
  refine ⟨records, read, fun record => ?_, ?_⟩
  · -- the records are the rows, since a text belongs to one record only
    rw [← mem_live_iff, ← rows, List.mem_map]
    constructor
    · exact fun mem => ⟨record, mem, rfl⟩
    · rintro ⟨other, mem, same⟩
      rwa [← Record.encode_injective sound (Prod.mk.inj same).2]
  · have ordered := s.pairwise_live (Record.collection α)
    rw [← rows, List.pairwise_map] at ordered
    exact ordered

/-- A filed record is found under its key exactly if it shows there. -/
theorem record?_eq_some_iff (sound : (Record.shape α).isSound = true) (h : s.Files α) {record : α} :
    s.record? α (Record.key record) = .ok (some record) ↔
      s.get? (Record.collection α) (Record.key record) = some (Record.encode record) := by
  constructor
  · intro read
    unfold record? at read
    split at read
    · cases read
    · next text shown =>
      obtain ⟨other, -, rfl⟩ := h _ _ shown
      rw [Record.decode_encode sound] at read
      obtain rfl : other = record := Option.some.inj (Except.ok.inj read)
      exact shown
  · intro shown
    rw [record?, shown]
    dsimp only
    rw [Record.decode_encode sound]
    rfl

end Files

end State

/-! ### Edits of records -/

namespace EditM

variable {α β : Type} {d d' : Draft}

/-- A sequence goes on where its first part ended. -/
theorem bind_of_ok {first : EditM α} {x : α} (ran : first d = .ok x d') (next : α → EditM β) :
    (first >>= next) d = next x d' := by
  simp only [bind, EStateM.bind, ran]

/-- A result may be left unused. -/
theorem discard_of_ok {step : EditM α} {x : α} (ran : step d = .ok x d') :
    (discard step : EditM Unit) d = .ok () d' := by
  change EStateM.map _ step d = _
  rw [EStateM.map, ran]

/-- Records are listed at their home. -/
theorem records_of_home [Record α] {found : List α} (home : Record.home α = d.variant)
    (read : d.state.records α = .ok found) : records α d = .ok found d := by
  have here : checkHome α d = .ok () d := by
    simp only [checkHome, look, Record.checkHome, if_pos home]
  rw [records, bind_of_ok here, look, read]

/-- And looked up there. -/
theorem record?_of_home [Record α] {key : String} {found : Option α}
    (home : Record.home α = d.variant) (read : d.state.record? α key = .ok found) :
    record? α key d = .ok found d := by
  have here : checkHome α d = .ok () d := by
    simp only [checkHome, look, Record.checkHome, if_pos home]
  rw [record?, bind_of_ok here, look, read]

/-- A record is stored at its home under a new key, with the time of the edit. -/
theorem setRecord_of_new [Record α] (record : α) (home : Record.home α = d.variant)
    {rule : MergeRule} (declared : d.variant.rule? (Record.collection α) = some rule)
    (key : (Record.key record).isEmpty = false)
    (new : d.state.find? (Record.collection α) (Record.key record) = none) :
    setRecord record d = .ok true { d with
      state := d.state.put (Record.collection α) (Record.key record)
        { timestamp := d.timestamp, origin := d.origin, value := some (Record.encode record) } } := by
  -- the key is new, so nothing is older than the entry and it is admitted
  have here : checkHome α d = .ok () d := by
    simp only [checkHome, look, Record.checkHome, if_pos home]
  rw [setRecord, bind_of_ok here]
  simp [set, declared, key, State.get?, new, Draft.put, Draft.entry, Draft.stamp,
    State.reveals, State.admits]

end EditM

end ConfigReplica.Config
