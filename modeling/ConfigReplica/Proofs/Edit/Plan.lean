import ConfigReplica.Config.Edit
import ConfigReplica.Proofs.State.Join

/-!
# Plans of edits

An edit is any function of a draft as far as its type goes, but whoever writes one
has only the operations of `EditM` to build it from. `EditM.Plan step` says how
`step` is built: from looking at the draft, setting and removing keys and drawing
random bytes, in sequence, each part chosen by what the parts before it gave, with
or without going on after a failure.

A plan tells what its step writes. `Plan.writes` lists the entries that the step
puts into a draft; it reads them off the operations that report a change. All that
is said here of planned edits is said of this list:

* the edited state is the old one with the list written to it
  (`Plan.state_after`);
* each write keeps to the schema of the variant (`Plan.conforms`);
* no write was covered before (`Plan.fresh`), so an edit that writes something
  ends in another state (`Plan.writes_eq_nil`).
-/

namespace ConfigReplica.Config

/-- The entry may stand under the key in objects of the variant: the collection is
declared, the key is not empty, and a removal is allowed there. -/
def Conforms (variant : Variant) : Write → Prop
  | (collection, key, e) =>
    key.isEmpty = false ∧ ∃ rule, variant.rule? collection = some rule ∧
      (e.value = none → rule = .lastWriterWins)

namespace EditM

variable {α β : Type}

/-- The draft that a step leaves behind, whether it fails or not. -/
def after (step : EditM α) (d : Draft) : Draft :=
  match step d with
  | .ok _ d' => d'
  | .error _ d' => d'

/-- **How a step is built** from the operations on drafts. -/
inductive Plan : {α : Type} → EditM α → Type 1
  | look {α : Type} (f : Draft → Except Error α) : Plan (look f)
  | set (collection key json : String) : Plan (set collection key json)
  | remove (collection key : String) : Plan (remove collection key)
  | draw (count : Nat) : Plan (draw count)
  | attempt {α : Type} {step : EditM α} (plan : Plan step) : Plan (attempt step)
  | bind {α β : Type} {first : EditM α} {next : α → EditM β} (plan : Plan first)
      (plans : (x : α) → Plan (next x)) : Plan (first >>= next)

/-- The entries that a step puts into a draft, in order. -/
def Plan.writes : {α : Type} → {step : EditM α} → Plan step → Draft → List Write
  | _, _, .look _, _ => []
  | _, _, .set collection key json, d =>
    match EditM.set collection key json d with
    | .ok true _ => [(collection, key, d.entry collection key (some json))]
    | _ => []
  | _, _, .remove collection key, d =>
    match EditM.remove collection key d with
    | .ok true _ => [(collection, key, d.entry collection key none)]
    | _ => []
  | _, _, .draw _, _ => []
  | _, _, .attempt plan, d => plan.writes d
  | _, _, @Plan.bind _ _ first _ plan plans, d =>
    plan.writes d ++
      match first d with
      | .ok x d' => (plans x).writes d'
      | .error _ _ => []

/-! ### Edits that are planned

Everything edits are written with has a plan: reading, fields and records.
-/

namespace Plan

variable {α β : Type}

protected def pure (x : α) : Plan (pure x : EditM α) :=
  .look fun _ => .ok x

protected def map (f : α → β) {step : EditM α} (plan : Plan step) : Plan (f <$> step) :=
  .bind plan fun x => .pure (f x)

def get? (collection key : String) : Plan (EditM.get? collection key) :=
  .look _

def field? (shape : Json.Shape) (collection key : String) :
    Plan (EditM.field? shape collection key) :=
  .look _

def setField (shape : Json.Shape) (collection key : String) (value : shape.Value) :
    Plan (EditM.setField shape collection key value) :=
  .set _ _ _

def setOrRemove (shape : Json.Shape) (collection key : String) :
    (value : Option shape.Value) → Plan (EditM.setOrRemove shape collection key value)
  | some value => .setField shape collection key value
  | none => .remove collection key

section Records

variable (α) [Record α]

def checkHome : Plan (EditM.checkHome α) :=
  .look _

def record? (key : String) : Plan (EditM.record? α key) :=
  .bind (checkHome α) fun _ => .look _

def records : Plan (EditM.records α) :=
  .bind (checkHome α) fun _ => .look _

variable {α} in
def setRecord (record : α) : Plan (EditM.setRecord record) :=
  .bind (checkHome α) fun _ => .set _ _ _

def eraseRecord (key : String) : Plan (EditM.eraseRecord α key) :=
  .bind (checkHome α) fun _ => .remove _ _

end Records

end Plan

/-! ### Single operations -/

section Operations

variable (d : Draft) (collection key json : String)

/-- Putting an entry that differs from what is visible reports a change if the
entry is admitted, and does nothing otherwise. -/
theorem put_cases {value : Option String} (differs : d.state.get? collection key ≠ value) :
    (d.state.admits collection key (d.entry collection key value) = true ∧
      d.put collection key value =
        (true, { d with state := d.state.put collection key (d.entry collection key value) })) ∨
    d.put collection key value = (false, d) := by
  unfold Draft.put State.reveals
  -- if the entry is not admitted the state is as before, and it cannot reveal anything
  cases admitted : d.state.admits collection key (d.entry collection key value) with
  | true =>
    refine .inl ⟨rfl, ?_⟩
    have shown : d.state.get? collection key ≠ (d.entry collection key value).value := differs
    simp [shown, admitted]
  | false =>
    refine .inr ?_
    simp [State.put, admitted]

/-- What setting a key can do: write an entry that conforms and is admitted, or
leave the draft alone and report no change. -/
theorem set_cases :
    (Conforms d.variant (collection, key, d.entry collection key (some json)) ∧
      d.state.admits collection key (d.entry collection key (some json)) = true ∧
      set collection key json d =
        .ok true { d with
          state := d.state.put collection key (d.entry collection key (some json)) }) ∨
    set collection key json d = .ok false d ∨
    ∃ error, set collection key json d = .error error d := by
  unfold EditM.set
  -- the three outcomes, in the order in which the checks are made
  cases declared : d.variant.rule? collection with
  | none => exact .inr (.inr ⟨_, rfl⟩)
  | some rule =>
    cases empty : key.isEmpty with
    | true => exact .inr (.inr ⟨.misuse .emptyKey, by simp⟩)
    | false =>
      by_cases same : d.state.get? collection key = some json
      · exact .inr (.inl (by simp [same]))
      · rcases put_cases d collection key same with ⟨admitted, put⟩ | put
        · refine .inl ⟨⟨empty, rule, declared, fun none => ?_⟩, admitted, by simp [same, put]⟩
          exact absurd none (by simp [Draft.entry])
        · exact .inr (.inl (by simp [same, put]))

/-- What removing a key can do. -/
theorem remove_cases :
    (d.variant.rule? collection = some .lastWriterWins ∧
      d.state.get? collection key ≠ none ∧
      d.state.admits collection key (d.entry collection key none) = true ∧
      remove collection key d =
        .ok true { d with state := d.state.put collection key (d.entry collection key none) }) ∨
    remove collection key d = .ok false d ∨
    ∃ error, remove collection key d = .error error d := by
  unfold EditM.remove
  -- it is refused unless the collection lets its keys be removed
  cases declared : d.variant.rule? collection with
  | none => exact .inr (.inr ⟨_, rfl⟩)
  | some rule =>
    cases rule with
    | addOnly => exact .inr (.inr ⟨_, rfl⟩)
    | lastWriterWins =>
      by_cases same : d.state.get? collection key = none
      · exact .inr (.inl (by simp [same]))
      · rcases put_cases d collection key same with ⟨admitted, put⟩ | put
        · exact .inl ⟨rfl, same, admitted, by simp [same, put]⟩
        · exact .inr (.inl (by simp [same, put]))

end Operations

/-! ### Planned steps -/

namespace Plan

variable {step : EditM α}

/-- Setting a key leaves behind the draft with its writes put in. -/
theorem after_set (collection key json : String) (d : Draft) :
    after (EditM.set collection key json) d =
      { d with state := d.state.putAll ((Plan.set collection key json).writes d) } := by
  unfold after Plan.writes
  rcases set_cases d collection key json with ⟨-, -, done⟩ | done | ⟨error, done⟩ <;>
    rw [done] <;> rfl

/-- Removing a key leaves behind the draft with its writes put in. -/
theorem after_remove (collection key : String) (d : Draft) :
    after (EditM.remove collection key) d =
      { d with state := d.state.putAll ((Plan.remove collection key).writes d) } := by
  unfold after Plan.writes
  rcases remove_cases d collection key with ⟨-, -, -, done⟩ | done | ⟨error, done⟩ <;>
    rw [done] <;> rfl

/-- Trying a step leaves behind what the step does. -/
theorem after_attempt (step : EditM α) (d : Draft) :
    after (EditM.attempt step) d = after step d := by
  unfold after EditM.attempt
  cases step d <;> rfl

/-- Looking leaves the draft alone. -/
theorem after_look (f : Draft → Except Error α) (d : Draft) : after (EditM.look f) d = d := by
  unfold after EditM.look
  cases f d <;> rfl

/-- What a sequence leaves behind. -/
theorem after_bind (first : EditM α) (next : α → EditM β) (d : Draft) :
    after (first >>= next) d =
      match first d with
      | .ok x d' => after (next x) d'
      | .error _ d' => d' := by
  simp only [after, Bind.bind, EStateM.bind]
  cases first d <;> rfl

/-- **What a planned step leaves behind**: the draft with the writes put into its
state, and with some random bytes drawn. -/
theorem after_eq (plan : Plan step) (d : Draft) :
    ∃ entropy, after step d = { d with state := d.state.putAll (plan.writes d), entropy } := by
  induction plan generalizing d with
  | look f => exact ⟨d.entropy, after_look f d⟩
  | set collection key json => exact ⟨d.entropy, after_set collection key json d⟩
  | remove collection key => exact ⟨d.entropy, after_remove collection key d⟩
  | draw count => exact ⟨_, rfl⟩
  | attempt plan ih =>
    rw [after_attempt]
    exact ih d
  | @bind α β first next plan plans ih ihs =>
    obtain ⟨entropy, left⟩ := ih d
    rw [after_bind]
    unfold after at left
    simp only [Plan.writes]
    cases done : first d with
    | error error d' =>
      rw [done] at left
      exact ⟨entropy, by simpa using left⟩
    | ok x d' =>
      -- the second part starts from what the first one left behind
      rw [done] at left
      obtain rfl : d' = _ := left
      obtain ⟨entropy', rest⟩ := ihs x { d with
        state := d.state.putAll (plan.writes d), entropy }
      exact ⟨entropy', by simpa [State.putAll_append] using rest⟩

/-- The state that a planned step leaves behind. -/
theorem state_after (plan : Plan step) (d : Draft) :
    (after step d).state = d.state.putAll (plan.writes d) := by
  obtain ⟨entropy, left⟩ := plan.after_eq d
  rw [left]

/-- The draft between two parts of a sequence. -/
theorem eq_of_ok (plan : Plan step) {d d' : Draft} {x : α} (done : step d = .ok x d') :
    ∃ entropy, d' = { d with state := d.state.putAll (plan.writes d), entropy } := by
  obtain ⟨entropy, left⟩ := plan.after_eq d
  unfold after at left
  rw [done] at left
  exact ⟨entropy, left⟩

/-- A write of a sequence is one of its first part, or of what follows it. -/
theorem mem_writes_bind {first : EditM α} {next : α → EditM β} {plan : Plan first}
    {plans : (x : α) → Plan (next x)} {d : Draft} {w : Write} :
    w ∈ (plan.bind plans).writes d ↔
      w ∈ plan.writes d ∨ ∃ x d', first d = .ok x d' ∧ w ∈ (plans x).writes d' := by
  simp only [Plan.writes, List.mem_append]
  cases done : first d <;> simp

/-- **Writes conform.** Nothing is written that the schema of the variant forbids. -/
theorem conforms (plan : Plan step) {d : Draft} (h : d.state.Every (Conforms d.variant)) :
    ∀ w ∈ plan.writes d, Conforms d.variant w := by
  -- only setting and removing write; a sequence writes what its parts write
  induction plan generalizing d with
  | look f => exact fun w mem => absurd mem List.not_mem_nil
  | set collection key json =>
    intro w mem
    unfold Plan.writes at mem
    rcases set_cases d collection key json with ⟨conforms, -, done⟩ | done | ⟨error, done⟩ <;>
      rw [done] at mem
    · rwa [List.mem_singleton.mp mem]
    · exact absurd mem List.not_mem_nil
    · exact absurd mem List.not_mem_nil
  | remove collection key =>
    intro w mem
    unfold Plan.writes at mem
    rcases remove_cases d collection key with ⟨rule, shown, -, done⟩ | done | ⟨error, done⟩ <;>
      rw [done] at mem
    · -- the key is not empty, since something was found under it
      obtain rfl := List.mem_singleton.mp mem
      cases found : d.state.find? collection key with
      | none => exact absurd (by simp [State.get?, found]) shown
      | some old => exact ⟨(h collection key old found).1, .lastWriterWins, rule, fun _ => rfl⟩
    · exact absurd mem List.not_mem_nil
    · exact absurd mem List.not_mem_nil
  | draw count => exact fun w mem => absurd mem List.not_mem_nil
  | attempt plan ih => exact ih h
  | bind plan plans ih ihs =>
    intro w mem
    rcases mem_writes_bind.mp mem with mem | ⟨x, d', done, mem⟩
    · exact ih h w mem
    · obtain ⟨entropy, rfl⟩ := plan.eq_of_ok done
      have middle := h.putAll (ih h)
      exact ihs x (d := { d with state := d.state.putAll (plan.writes d), entropy }) middle w mem

/-- **Writes are news.** No write was covered by the state before the step. -/
theorem fresh (plan : Plan step) (d : Draft) :
    ∀ w ∈ plan.writes d, ¬ d.state.Covers w.1 w.2.1 w.2.2 := by
  -- only what is admitted is written, and what is admitted was not covered
  induction plan generalizing d with
  | look f => exact fun w mem => absurd mem List.not_mem_nil
  | set collection key json =>
    intro w mem
    unfold Plan.writes at mem
    rcases set_cases d collection key json with ⟨-, admitted, done⟩ | done | ⟨error, done⟩ <;>
      rw [done] at mem
    · rw [List.mem_singleton.mp mem]
      exact State.admits_iff.mp admitted
    · exact absurd mem List.not_mem_nil
    · exact absurd mem List.not_mem_nil
  | remove collection key =>
    intro w mem
    unfold Plan.writes at mem
    rcases remove_cases d collection key with ⟨-, -, admitted, done⟩ | done | ⟨error, done⟩ <;>
      rw [done] at mem
    · rw [List.mem_singleton.mp mem]
      exact State.admits_iff.mp admitted
    · exact absurd mem List.not_mem_nil
    · exact absurd mem List.not_mem_nil
  | draw count => exact fun w mem => absurd mem List.not_mem_nil
  | attempt plan ih => exact ih d
  | bind plan plans ih ihs =>
    intro w mem
    rcases mem_writes_bind.mp mem with mem | ⟨x, d', done, mem⟩
    · exact ih d w mem
    · -- the draft in between covers all that was covered before
      obtain ⟨entropy, rfl⟩ := plan.eq_of_ok done
      exact fun covered => ihs x _ w mem (covered.putAll _)

/-- **What a step sets**, wherever it sets it and whatever the parts before it gave. -/
def Sets (P : String → String → String → Prop) : {α : Type} → {step : EditM α} → Plan step → Prop
  | _, _, .look _ => True
  | _, _, .set collection key json => P collection key json
  | _, _, .remove _ _ => True
  | _, _, .draw _ => True
  | _, _, .attempt plan => plan.Sets P
  | _, _, .bind plan plans => plan.Sets P ∧ ∀ x, (plans x).Sets P

/-- What a step writes are the texts that it sets, and removals. -/
theorem Sets.writes {P : String → String → String → Prop} {plan : Plan step} (sets : plan.Sets P)
    (d : Draft) : ∀ w ∈ plan.writes d, ∀ json, w.2.2.value = some json → P w.1 w.2.1 json := by
  induction plan generalizing d with
  -- induction on the plan, where looking and drawing write nothing
  | look f => exact fun w mem => absurd mem List.not_mem_nil
  | set collection key json =>
    intro w mem
    unfold Plan.writes at mem
    split at mem
    · rw [List.mem_singleton.mp mem]
      rintro _ ⟨⟩
      exact sets
    · exact absurd mem List.not_mem_nil
  | remove collection key =>
    intro w mem
    unfold Plan.writes at mem
    -- a removal writes no text
    split at mem
    · rw [List.mem_singleton.mp mem]
      exact nofun
    · exact absurd mem List.not_mem_nil
  | draw count => exact fun w mem => absurd mem List.not_mem_nil
  | attempt plan ih => exact ih sets d
  | bind plan plans ih ihs =>
    intro w mem
    -- a write of two steps is one of the first, or one of the second at what the first gave
    rcases mem_writes_bind.mp mem with mem | ⟨x, d', -, mem⟩
    · exact ih sets.1 d w mem
    · exact ihs x (sets.2 x) d' w mem

/-- A step that ends in the state in which it began wrote nothing. -/
theorem writes_eq_nil (plan : Plan step) {d : Draft} (h : (after step d).state = d.state) :
    plan.writes d = [] := by
  -- a write is covered after the step, and was not before
  rw [List.eq_nil_iff_forall_not_mem]
  intro w mem
  have covered : (d.state.putAll (plan.writes d)).Covers w.1 w.2.1 w.2.2 :=
    State.covers_putAll mem
  rw [← plan.state_after d, h] at covered
  exact plan.fresh d w mem covered

end Plan

end EditM

end ConfigReplica.Config
