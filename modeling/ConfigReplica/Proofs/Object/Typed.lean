import ConfigReplica.Proofs.Json.Nesting
import ConfigReplica.Proofs.Object.Acceptance

/-!
# Typed edits

An edit that sets a key to a text may set it to any text, and other replicas refuse
what is not JSON (`Object.push_of_raw_text_refused`). Fields and records are written by
a shape instead (`EditM.Plan.IsTyped`), and what a shape writes is JSON unless it is
nested too deep.

So a state that typed edits and merges led to (`State.IsTyped`) passes the check that
updates are held to, whichever replica looks at it (`State.IsTyped.check`).
-/

namespace ConfigReplica.Config

open Json

/-- The text was written for a value of a shape, and lists and objects are not nested too deep
in it. -/
def TypedText (json : String) : Prop :=
  ∃ (shape : Shape) (value : shape.Value), shape.depth < maxDepth ∧ json = shape.encode value

theorem TypedText.check {json : String} (typed : TypedText json) : Json.check json = .ok () := by
  obtain ⟨shape, value, within, rfl⟩ := typed
  exact Shape.check_encode within value

/-- The entry is a removal, or its text was written for a value. -/
def Typed (w : Write) : Prop :=
  ∀ json, w.2.2.value = some json → TypedText json

theorem Typed.wellFormed {w : Write} (typed : Typed w) : WellFormed w :=
  fun json value => (typed json value).check

namespace EditM.Plan

/-- **A typed edit** sets keys to texts that it writes for values. -/
def IsTyped : {α : Type} → {step : EditM α} → Plan step → Prop
  | _, _, .look _ => True
  | _, _, .set _ _ json => TypedText json
  | _, _, .remove _ _ => True
  | _, _, .draw _ => True
  | _, _, .attempt plan => plan.IsTyped
  | _, _, .bind plan plans => plan.IsTyped ∧ ∀ x, (plans x).IsTyped

variable {α : Type} {step : EditM α}

/-- A typed edit sets nothing but typed texts. -/
theorem IsTyped.sets {plan : Plan step} (typed : plan.IsTyped) :
    plan.Sets fun _ _ json => TypedText json := by
  induction plan with
  | look f => trivial
  | set collection key json => exact typed
  | remove collection key => trivial
  | draw count => trivial
  | attempt plan ih => exact ih typed
  | bind plan plans ih ihs => exact ⟨ih typed.1, fun x => ihs x (typed.2 x)⟩

/-- What a typed edit writes is typed. -/
theorem IsTyped.writes {plan : Plan step} (typed : plan.IsTyped) (d : Draft) :
    ∀ w ∈ plan.writes d, Typed w :=
  typed.sets.writes d

/-- Setting a field is typed, if the field is not nested too deep. -/
theorem isTyped_setField {shape : Shape} (within : shape.depth < maxDepth)
    (collection key : String) (value : shape.Value) :
    (Plan.setField shape collection key value).IsTyped :=
  ⟨shape, value, within, rfl⟩

end EditM.Plan

namespace State

variable {variant : Variant} {s : State}

/-- **A state of typed edits and merges**: an object of the variant came to it in a life in which
edits wrote nothing but typed entries. -/
def IsTyped (variant : Variant) (s : State) : Prop :=
  ∃ scope origin o h, Object.Reached variant scope origin o h ∧ (∀ w ∈ h.written, Typed w) ∧
    o.state = s

theorem isTyped_empty (variant : Variant) : empty.IsTyped variant :=
  ⟨.account, 0, _, _, .start, fun _ mem => absurd mem List.not_mem_nil, rfl⟩

/-- One typed edit of an object without entries. -/
theorem isTyped_of_edit {scope : Scope} {origin : UInt64} {α : Type} {step : EditM α}
    {plan : EditM.Plan step} (typed : plan.IsTyped) {now : Int64} {entropy : Entropy}
    {done : Edited α} (ran : (Object.blank variant scope origin).edit now entropy step = .ok done) :
    done.object.state.IsTyped variant :=
  ⟨scope, origin, _, _, .next .start (.edit plan now entropy ran), typed.writes _, rfl⟩

/-- **Such a state passes the check of every replica.** -/
theorem IsTyped.check (typed : s.IsTyped variant) : s.check variant = .ok () := by
  obtain ⟨scope, origin, o, h, life, written, rfl⟩ := typed
  have conforming := life.conforming
  rw [life.variant_eq] at conforming
  exact check_eq_ok_iff.mpr ⟨conforming, life.wellFormed fun w mem => (written w mem).wellFormed⟩

end State

/-! ### Texts that are refused -/

namespace Object

/-- Contacts in which one text was written. -/
def noting (json : String) : Object :=
  { blank .contacts .account 1 with
    state := State.empty.write "contacts" "x" ⟨5, 1, some json⟩
    seqno := 1
    dirty := true
    needsDump := true }

theorem edit_noting (json : String) (entropy : Entropy) :
    (blank .contacts .account 1).edit 5 entropy (EditM.set "contacts" "x" json) =
      .ok ⟨noting json, entropy, .ok true⟩ :=
  rfl

/-- Other replicas refuse them for their one text. -/
theorem merge_noting {json : String} {fault : Fault} (bad : check json = .error fault)
    (short : (noting json).pushFrame.length ≤ maxSize) :
    (blank .contacts .account 2).merge "m" (noting json).push.data =
      .error (.corruptUpdate "m" (.schema (.badValue "contacts" "x" fault))) := by
  have refused : (noting json).state.check .contacts = .error (.badValue "contacts" "x" fault) := by
    have entries : (noting json).state.entries = [("contacts", "x", ⟨5, 1, some json⟩)] := rfl
    have entry : State.checkEntry .contacts ("contacts", "x", ⟨5, 1, some json⟩) =
        (check json).mapError fun fault => .badValue "contacts" "x" fault := rfl
    unfold State.check
    rw [entries, List.forM_eq_forM, List.forM_cons, entry, bad]
    rfl
  have read := readUpdate_push (noting json) (blank .contacts .account 2) rfl
  rw [if_neg (not_lt.mpr short), show (noting json).variant = .contacts from rfl, refused] at read
  unfold merge
  rw [read]
  rfl

end Object

end ConfigReplica.Config
