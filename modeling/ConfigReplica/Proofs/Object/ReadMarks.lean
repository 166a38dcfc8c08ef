import ConfigReplica.Config.ReadMark
import ConfigReplica.Proofs.Object.Records
import Mathlib.Data.List.Induction

/-!
# How far conversations were read

A conversation is marked as read up to a time, or as unread, again and again. `Conversation.Marked`
are the objects that such calls lead to: each edit makes any number of them, at any time, as long as
the writes among them find a time to be stamped with (`Conversation.Timely`). Clocks may stand still
or go back from one edit to the next.

Nothing is lost or added on the way through stored texts. The record that is found under the key of
a conversation is the fold of the marks that were set on it (`recordOf`), and this fold sums the
marks up (`Summarises`):

* it was read up to the greatest of the given times, or zero (`readUpTo`);
* it counts as unread if it was marked so, and neither was the mark taken back nor was the
  conversation read any further since (`LeftUnread`).

`Mark.apply` does to the record what a call does to its stored text (`Tells.step`). All that is said
about objects follows from this step, call after call (`Tells.run`) and edit after edit
(`Marked.tells`). Keys of conversations are told apart (`keyOf_inj`), so calls for other
conversations leave the record alone.
-/

namespace ConfigReplica.Config

namespace Conversation

/-! ### Marks -/

/-- What a conversation is marked with: that it was read up to a time, or whether it is unread. -/
inductive Mark where
  | read (time : Int64)
  | unread (flag : Bool)
  deriving DecidableEq, Repr

/-- A mark for a conversation. -/
structure Call where
  kind : ConversationKind
  id : String
  mark : Mark
  deriving DecidableEq, Repr

namespace Call

/-- Where the record of the conversation is kept. -/
def key (call : Call) : String :=
  keyOf call.kind call.id

/-- The step of an edit that sets the mark. -/
def step (call : Call) : EditM Bool :=
  match call.mark with
  | .read time => markRead call.kind call.id time
  | .unread flag => setUnread call.kind call.id flag

end Call

variable (kind : ConversationKind) (id : String)

namespace Mark

/-- The record of a conversation after a mark. -/
def apply (found : Option Conversation) (mark : Mark) : Option Conversation :=
  let c := found.getD { kind, id }
  match mark with
  | read time =>
    if time ≤ c.lastRead then found else some { c with lastRead := time, unread := false }
  | unread flag => some { c with unread := flag }

/-- The mark is not worth a record. -/
def Idle : Mark → Prop
  | read time => time ≤ 0
  | unread _ => False

/-- How far a conversation was read after a mark. -/
def raise (upTo : Int) : Mark → Int
  | read time => max upTo time.toInt
  | unread _ => upTo

end Mark

/-- The marks of one conversation. -/
def marksOf (calls : List Call) : List Mark :=
  (calls.filter fun call => call.kind = kind ∧ call.id = id).map Call.mark

/-- What calls record of a conversation. -/
def recordOf (calls : List Call) : Option Conversation :=
  (marksOf kind id calls).foldl (Mark.apply kind id) none

/-- The greatest of zero and the times of marks. -/
def readUpTo (marks : List Mark) : Int :=
  marks.foldl Mark.raise 0

/-- The last flag that was set is up, and the conversation was not read any further since. -/
def LeftUnread (marks : List Mark) : Prop :=
  ∃ before after, marks = before ++ .unread true :: after ∧ (∀ flag, .unread flag ∉ after) ∧
    ∀ time, .read time ∈ after → time.toInt ≤ readUpTo before

/-- **The record sums up the marks** that were set on its conversation. -/
structure Summarises (marks : List Mark) (c : Conversation) : Prop where
  kind_eq : c.kind = kind
  id_eq : c.id = id
  lastRead_eq : c.lastRead.toInt = readUpTo marks
  unread_iff : c.unread = true ↔ LeftUnread marks

/-- Which of the calls change the record of their conversation, after others. -/
def changes (past : List Call) : List Call → List Bool
  | [] => []
  | call :: calls =>
    decide (recordOf call.kind call.id (past ++ [call]) ≠ recordOf call.kind call.id past) ::
      changes (past ++ [call]) calls

/-! ### One more mark -/

section Append

variable {kind id} {marks : List Mark} {mark : Mark} {time : Int64} {flag : Bool}

/-- More marks raise what the marks before them came to. -/
theorem readUpTo_append (marks rest : List Mark) :
    readUpTo (marks ++ rest) = rest.foldl Mark.raise (readUpTo marks) :=
  List.foldl_append

/-- A time raises it if it is greater. -/
theorem readUpTo_append_read :
    readUpTo (marks ++ [.read time]) = max (readUpTo marks) time.toInt :=
  readUpTo_append ..

/-- A flag leaves it alone. -/
theorem readUpTo_append_unread : readUpTo (marks ++ [.unread flag]) = readUpTo marks :=
  readUpTo_append ..

/-- Nothing is read any further by marks that reach no further. -/
theorem foldl_raise_of_le {upTo : Int} {marks : List Mark}
    (below : ∀ time, .read time ∈ marks → time.toInt ≤ upTo) :
    marks.foldl Mark.raise upTo = upTo := by
  induction marks with
  | nil => rfl
  | cons mark marks ih =>
    have same : mark.raise upTo = upTo := by
      cases mark with
      | read time => exact max_eq_left (below time (List.mem_cons_self ..))
      | unread flag => rfl
    rw [List.foldl_cons, same]
    exact ih fun time mem => below time (List.mem_cons_of_mem _ mem)

/-- Where a mark stands in a longer history: at its end, or in what was there before. -/
theorem split_append {before after : List Mark} {held : Mark}
    (split : marks ++ [mark] = before ++ held :: after) :
    (after = [] ∧ mark = held) ∨
      ∃ rest, after = rest ++ [mark] ∧ marks = before ++ held :: rest := by
  rcases after.eq_nil_or_concat with rfl | ⟨rest, last, rfl⟩
  · exact .inl ⟨rfl, List.singleton_inj.mp (List.append_inj' split rfl).2⟩
  · rw [List.concat_eq_append, ← List.cons_append, ← List.append_assoc] at split
    obtain ⟨rfl, same⟩ := List.append_inj' split rfl
    obtain rfl := List.singleton_inj.mp same
    exact .inr ⟨rest, List.concat_eq_append, rfl⟩

/-- A flag that is set last decides. -/
theorem leftUnread_append_unread : LeftUnread (marks ++ [.unread flag]) ↔ flag = true := by
  constructor
  · rintro ⟨before, after, split, silent, -⟩
    -- no flag stands behind the one that is left, so it is the last mark
    rcases split_append split with ⟨-, same⟩ | ⟨rest, rfl, -⟩
    · exact Mark.unread.inj same
    · exact absurd (List.mem_append_right _ (List.mem_singleton_self _)) (silent flag)
  · rintro rfl
    exact ⟨marks, [], rfl, fun _ => List.not_mem_nil, fun _ mem => absurd mem List.not_mem_nil⟩

/-- A time that is given last takes the flag back if it reaches any further. -/
theorem leftUnread_append_read :
    LeftUnread (marks ++ [.read time]) ↔ LeftUnread marks ∧ time.toInt ≤ readUpTo marks := by
  -- what stands behind the flag does not reach beyond what stands before it
  have reached {before after : List Mark}
      (below : ∀ time, .read time ∈ after → time.toInt ≤ readUpTo before) :
      readUpTo (before ++ .unread true :: after) = readUpTo before := by
    rw [readUpTo_append, List.foldl_cons]
    exact foldl_raise_of_le below
  constructor
  · rintro ⟨before, after, split, silent, below⟩
    rcases split_append split with ⟨-, same⟩ | ⟨rest, rfl, rfl⟩
    · cases same
    · have within (time') (mem : .read time' ∈ rest) := below time' (List.mem_append_left _ mem)
      have quiet (flag) (mem : .unread flag ∈ rest) := silent flag (List.mem_append_left _ mem)
      refine ⟨⟨before, rest, rfl, quiet, within⟩, ?_⟩
      rw [reached within]
      exact below time (List.mem_append_right _ (List.mem_singleton_self _))
  · rintro ⟨⟨before, after, rfl, silent, below⟩, last⟩
    rw [reached below] at last
    refine ⟨before, after ++ [.read time], by simp, fun flag mem => ?_, fun time' mem => ?_⟩
    · rcases List.mem_append.mp mem with mem | mem
      · exact silent flag mem
      · cases List.mem_singleton.mp mem
    · rcases List.mem_append.mp mem with mem | mem
      · exact below time' mem
      · cases List.mem_singleton.mp mem
        exact last

/-- The record is there already, or the mark is worth one. -/
theorem Mark.apply_eq_none_iff {found : Option Conversation} :
    mark.apply kind id found = none ↔ found = none ∧ mark.Idle := by
  cases mark with
  | read time =>
    cases found with
    | none => simp [apply, Idle]
    | some c =>
      simp only [apply, Option.getD_some]
      split <;> simp
  | unread flag => simp [apply, Idle]

/-- **The next mark is summed up with the others.** Where there is no record, a new one stands for
all marks so far. -/
theorem Summarises.apply {found : Option Conversation}
    (sums : Summarises kind id marks (found.getD { kind, id })) (mark : Mark) :
    Summarises kind id (marks ++ [mark]) ((mark.apply kind id found).getD { kind, id }) := by
  -- a time that reaches no further changes nothing, and one that does takes the flag back
  cases mark with
  | read time =>
    unfold Mark.apply
    by_cases reached : time ≤ (found.getD { kind, id }).lastRead
    · have within : time.toInt ≤ readUpTo marks := by
        rwa [Int64.le_iff_toInt_le, sums.lastRead_eq] at reached
      simp only [if_pos reached]
      refine ⟨sums.kind_eq, sums.id_eq, ?_, ?_⟩
      · rw [readUpTo_append_read, max_eq_left within, sums.lastRead_eq]
      · rw [leftUnread_append_read, sums.unread_iff, and_iff_left within]
    · have beyond : readUpTo marks < time.toInt := by
        rwa [Int64.le_iff_toInt_le, sums.lastRead_eq, not_le] at reached
      simp only [if_neg reached, Option.getD_some]
      refine ⟨sums.kind_eq, sums.id_eq, ?_, ?_⟩
      · rw [readUpTo_append_read, max_eq_right beyond.le]
      · simp [leftUnread_append_read, beyond]
  | unread flag =>
    refine ⟨sums.kind_eq, sums.id_eq, ?_, ?_⟩
    · rw [readUpTo_append_unread]
      exact sums.lastRead_eq
    · rw [leftUnread_append_unread]
      exact Iff.rfl

end Append

/-! ### Records as folds of calls -/

section Records

variable {kind id} {past calls : List Call} {call : Call}

/-- A call is one more mark for its own conversation. -/
theorem recordOf_append :
    recordOf kind id (past ++ [call]) =
      if call.kind = kind ∧ call.id = id then call.mark.apply kind id (recordOf kind id past)
      else recordOf kind id past := by
  unfold recordOf marksOf
  rw [List.filter_append, List.map_append, List.foldl_append]
  by_cases same : call.kind = kind ∧ call.id = id
  · rw [if_pos same, List.filter_cons_of_pos (by simpa using same)]
    rfl
  · rw [if_neg same, List.filter_cons_of_neg (by simpa using same)]
    rfl

/-- Calls for other conversations are passed over. -/
theorem recordOf_append_of_others
    (others : ∀ call ∈ calls, ¬ (call.kind = kind ∧ call.id = id)) :
    recordOf kind id (past ++ calls) = recordOf kind id past := by
  have none : calls.filter (fun call => call.kind = kind ∧ call.id = id) = [] :=
    List.filter_eq_nil_iff.mpr fun call mem => by simpa using others call mem
  rw [recordOf, recordOf, marksOf, List.filter_append, none, List.append_nil, marksOf]

/-- **The record of a conversation sums up the marks that were set on it.** There is one unless no
mark was worth it. -/
theorem recordOf_spec (kind : ConversationKind) (id : String) (calls : List Call) :
    Summarises kind id (marksOf kind id calls) ((recordOf kind id calls).getD { kind, id }) ∧
    (recordOf kind id calls = none ↔ ∀ mark ∈ marksOf kind id calls, mark.Idle) := by
  unfold recordOf
  induction marksOf kind id calls using List.reverseRecOn with
  | nil =>
    refine ⟨⟨rfl, rfl, rfl, ?_⟩, by simp⟩
    simp [LeftUnread]
  | append_singleton marks mark ih =>
    obtain ⟨sums, none_iff⟩ := ih
    rw [List.foldl_append]
    refine ⟨sums.apply mark, ?_⟩
    rw [List.foldl_cons, List.foldl_nil, Mark.apply_eq_none_iff, none_iff]
    simp [or_imp, forall_and]

/-- A record is that of its conversation. -/
theorem recordOf_named {c : Conversation} (recorded : recordOf kind id calls = some c) :
    c.kind = kind ∧ c.id = id := by
  have sums := (recordOf_spec kind id calls).1
  rw [recorded] at sums
  exact ⟨sums.kind_eq, sums.id_eq⟩

end Records

/-- Keys tell conversations apart. -/
theorem keyOf_inj {kind kind' : ConversationKind} {id id' : String} :
    keyOf kind id = keyOf kind' id' ↔ kind = kind' ∧ id = id' := by
  constructor
  · intro same
    have chars : (keyOf kind id).toList = (keyOf kind' id').toList := congrArg String.toList same
    simp only [keyOf, String.toList_append] at chars
    -- labels differ in their first letters
    cases kind <;> cases kind' <;> simp [ConversationKind.label] at chars ⊢ <;>
      exact String.toList_inj.mp chars
  · rintro ⟨rfl, rfl⟩
    rfl

/-! ### Calls in drafts -/

section Drafts

variable {d : Draft} {past calls : List Call} {call : Call}

/-- If the call changes the record, there is a time to stamp the write with. -/
def Call.IsTimely (call : Call) (d : Draft) : Prop :=
  ∀ found, d.state.record? Conversation call.key = .ok found →
    call.mark.apply call.kind call.id found = found ∨
      d.HasRoom Collection.conversations call.key

/-- Every call of an edit finds a time, each in the draft that the calls before it left behind. -/
def Timely : Draft → List Call → Prop
  | _, [] => True
  | d, call :: calls => call.IsTimely d ∧ Timely (EditM.after call.step d) calls

/-- The keys of conversations show what calls recorded, and nothing else. -/
structure Tells (d : Draft) (past : List Call) : Prop where
  here : Record.home Conversation = d.variant
  shown : ∀ kind id, d.state.get? Collection.conversations (keyOf kind id) =
    (recordOf kind id past).map Record.encode

/-- A record is read from its text. -/
theorem record?_of_shown {s : State} {key : String} {found : Option Conversation}
    (shown : s.get? Collection.conversations key = found.map Record.encode) :
    s.record? Conversation key = .ok found := by
  have shown : s.get? (Record.collection Conversation) key = found.map Record.encode := shown
  rw [State.record?, shown]
  cases found with
  | none => rfl
  | some c =>
    simp only [Option.map_some, Record.decode_encode storable.sound]
    rfl

/-- The record of a conversation is found, or a new one is begun. -/
theorem Tells.findOrNew (tells : Tells d past) (kind : ConversationKind) (id : String) :
    findOrNew kind id d = .ok ((recordOf kind id past).getD { kind, id }) d := by
  have looked := EditM.record?_of_home tells.here (record?_of_shown (tells.shown kind id))
  rw [Conversation.findOrNew, EditM.bind_of_ok looked]
  rfl

/-- A call that leaves the record alone needs no write. -/
theorem Tells.idle (tells : Tells d past)
    (same : recordOf call.kind call.id (past ++ [call]) = recordOf call.kind call.id past) :
    Tells d (past ++ [call]) := by
  refine ⟨tells.here, fun kind id => ?_⟩
  rw [tells.shown]
  by_cases mine : call.kind = kind ∧ call.id = id
  · obtain ⟨rfl, rfl⟩ := mine
    rw [same]
  · rw [recordOf_append, if_neg mine]

/-- Storing what a call makes of the record. -/
theorem Tells.store (tells : Tells d past) {c : Conversation}
    (recorded : recordOf call.kind call.id (past ++ [call]) = some c)
    (room : some c = recordOf call.kind call.id past ∨
      d.HasRoom Collection.conversations call.key) :
    ∃ d', EditM.setRecord c d = .ok (decide (some c ≠ recordOf call.kind call.id past)) d' ∧
      Tells d' (past ++ [call]) := by
  have key : Record.key c = call.key := by
    obtain ⟨kind_eq, id_eq⟩ := recordOf_named recorded
    exact keyOf_inj.mpr ⟨kind_eq, id_eq⟩
  -- the text under the key is that of the record so far, so writing it tells whether it changed
  have before : d.state.get? (Record.collection Conversation) (Record.key c) =
      (recordOf call.kind call.id past).map Record.encode := by
    rw [key]
    exact tells.shown call.kind call.id
  have can :
      d.CanShow (Record.collection Conversation) (Record.key c) (some (Record.encode c)) := by
    rcases room with same | room
    · exact .inl (by rw [before, ← same]; rfl)
    · exact .inr (by rw [key]; exact room)
  have shows := can.shows
  have stored := EditM.setRecord_eq storable c tells.here can
  -- another record has another text
  have flag : (d.showing (Record.collection Conversation) (Record.key c)
      (some (Record.encode c))).1 = decide (some c ≠ recordOf call.kind call.id past) := by
    have told := Option.map_injective (Record.encode_injective storable.sound)
    rw [Bool.eq_iff_iff, shows.changed_iff, shows.shown, before, decide_eq_true_iff,
      ← Option.map_some, told.ne_iff]
  rw [flag] at stored
  refine ⟨_, stored, ⟨?_, fun kind id => ?_⟩⟩
  · rw [shows.only]
    exact tells.here
  · by_cases mine : call.kind = kind ∧ call.id = id
    · obtain ⟨rfl, rfl⟩ := mine
      rw [recorded]
      exact key ▸ shows.shown
    · have other : ¬ (Collection.conversations = Record.collection Conversation ∧
          keyOf kind id = Record.key c) := by
        rintro ⟨-, same⟩
        obtain ⟨rfl, rfl⟩ := keyOf_inj.mp (same.trans key)
        exact mine ⟨rfl, rfl⟩
      rw [recordOf_append, if_neg mine, ← tells.shown, State.get?, shows.others _ _ other]
      rfl

/-- **A call does to the stored record what it says**, and reports whether this changed it. -/
theorem Tells.step (tells : Tells d past) (timely : call.IsTimely d) :
    ∃ d', call.step d =
        .ok (decide (recordOf call.kind call.id (past ++ [call]) ≠
          recordOf call.kind call.id past)) d' ∧
      Tells d' (past ++ [call]) := by
  -- both calls look up the record first, and start from a new one where there is none
  have looked := tells.findOrNew call.kind call.id
  have next : recordOf call.kind call.id (past ++ [call]) =
      call.mark.apply call.kind call.id (recordOf call.kind call.id past) := by
    rw [recordOf_append, if_pos ⟨rfl, rfl⟩]
  have room := timely _ (record?_of_shown (tells.shown call.kind call.id))
  rw [← next] at room
  unfold Call.step
  cases marked : call.mark with
  | read time =>
    dsimp only
    rw [markRead, EditM.bind_of_ok looked]
    rw [marked, Mark.apply] at next
    -- a time that was passed already changes nothing, and nothing is written
    by_cases reached : time ≤
        ((recordOf call.kind call.id past).getD { kind := call.kind, id := call.id }).lastRead
    · rw [if_pos reached] at next
      rw [if_pos reached, next, decide_eq_false (not_not.mpr rfl)]
      exact ⟨d, rfl, tells.idle next⟩
    · rw [if_neg reached] at next
      rw [if_neg reached, next]
      exact tells.store next (next ▸ room)
  | unread flag =>
    dsimp only
    rw [setUnread, EditM.bind_of_ok looked]
    rw [marked, Mark.apply] at next
    -- a flag is stored even where it is the same
    rw [next]
    exact tells.store next (next ▸ room)

/-- **All calls of an edit do so**, one after the other. -/
theorem Tells.run (tells : Tells d past) (timely : Timely d calls) :
    ∃ d', calls.mapM Call.step d = .ok (changes past calls) d' ∧ Tells d' (past ++ calls) := by
  induction calls generalizing d past with
  | nil => exact ⟨d, rfl, by rwa [List.append_nil]⟩
  | cons call calls ih =>
    obtain ⟨d', ran, tells'⟩ := tells.step timely.1
    have left : EditM.after call.step d = d' := by rw [EditM.after, ran]
    obtain ⟨d'', rest, tells''⟩ := ih tells' (left ▸ timely.2)
    refine ⟨d'', ?_, by rwa [List.append_assoc] at tells''⟩
    rw [List.mapM_cons, EditM.bind_of_ok ran, EditM.bind_of_ok rest]
    rfl

end Drafts

/-! ### Parts of an edit -/

section Parts

variable {past before after calls : List Call} {call : Call}

/-- There is a flag for each call. -/
theorem length_changes : (changes past calls).length = calls.length := by
  induction calls generalizing past with
  | nil => rfl
  | cons call calls ih => exact congrArg Nat.succ ih

/-- The flag of a call is told by the calls before it. -/
theorem getElem?_changes :
    (changes past (before ++ call :: after))[before.length]? =
      some (decide (recordOf call.kind call.id (past ++ (before ++ [call])) ≠
        recordOf call.kind call.id (past ++ before))) := by
  induction before generalizing past with
  | nil => simp [changes]
  | cons first before ih =>
    have rest := @ih (past ++ [first])
    simpa [changes, List.append_assoc] using rest

/-- What finds a time also does without the calls after it. -/
theorem Timely.init {d : Draft} (timely : Timely d (before ++ after)) : Timely d before := by
  induction before generalizing d with
  | nil => trivial
  | cons call before ih => exact ⟨timely.1, ih timely.2⟩

end Parts

/-! ### Objects -/

/-- **The objects that marks lead to**, each with all calls that were made. An edit makes any calls
at any time that is left for them. -/
inductive Marked (scope : Scope) (origin : UInt64) : Object → List Call → Prop
  | start : Marked scope origin (.blank .convoInfoVolatile scope origin) []
  | edit {o : Object} {past calls : List Call} {done : Edited (List Bool)}
      (marked : Marked scope origin o past) (now : Int64) (entropy : Entropy)
      (timely : Timely (o.draft now entropy) calls)
      (ran : o.edit now entropy (calls.mapM Call.step) = .ok done) :
      Marked scope origin done.object (past ++ calls)

section Objects

variable {scope : Scope} {origin : UInt64} {o : Object} {past calls : List Call}

/-- A live object takes timely calls. -/
theorem edit_of_tells {now : Int64} {entropy : Entropy} (live : o.destroyed = false)
    (tells : Tells (o.draft now entropy) past) (timely : Timely (o.draft now entropy) calls) :
    ∃ done, o.edit now entropy (calls.mapM Call.step) = .ok done ∧
      done.result = .ok (changes past calls) ∧ done.object.destroyed = false ∧
      ∀ now entropy, Tells (done.object.draft now entropy) (past ++ calls) := by
  obtain ⟨d, ran, told⟩ := tells.run timely
  refine ⟨_, Object.edit_of_ok live ran, rfl, ?_, fun now entropy => ⟨?_, fun kind id => ?_⟩⟩
  · exact (Object.destroyed_revise o _).trans live
  · exact tells.here.trans (Object.variant_revise o _).symm
  · rw [← told.shown]
    exact congrArg (fun s : State => s.get? _ _) (Object.state_revise o _)

/-- **What calls recorded is what the object shows**, whenever it is edited next. -/
theorem Marked.tells (marked : Marked scope origin o past) :
    o.destroyed = false ∧ ∀ now entropy, Tells (o.draft now entropy) past := by
  induction marked with
  | start =>
    refine ⟨rfl, fun now entropy => ⟨rfl, fun kind id => ?_⟩⟩
    exact congrArg (Option.bind · Entry.value) (State.find?_empty _ _)
  | edit marked now entropy timely ran ih =>
    obtain ⟨done, ran', -, kept⟩ := edit_of_tells ih.1 (ih.2 now entropy) timely
    obtain rfl := Except.ok.inj (ran.symm.trans ran')
    exact kept

/-- Records are found as they were recorded. -/
theorem Marked.record?_eq (marked : Marked scope origin o past) (kind : ConversationKind)
    (id : String) :
    o.record? Conversation (keyOf kind id) = .ok (recordOf kind id past) := by
  have tells := marked.tells.2 0 (.constant 0)
  rw [Object.record?_of_home tells.here]
  exact record?_of_shown (tells.shown kind id)

/-- Timely calls lead on. -/
theorem Marked.edit_ok (marked : Marked scope origin o past) {now : Int64} {entropy : Entropy}
    (timely : Timely (o.draft now entropy) calls) :
    ∃ done, o.edit now entropy (calls.mapM Call.step) = .ok done ∧
      done.result = .ok (changes past calls) ∧ Marked scope origin done.object (past ++ calls) := by
  obtain ⟨live, tells⟩ := marked.tells
  obtain ⟨done, ran, flags, -⟩ := edit_of_tells live (tells now entropy) timely
  exact ⟨done, ran, flags, marked.edit now entropy timely ran⟩

/-- **Read marks only move forward.** Whatever calls were made so far and whatever the clocks
showed, the object has a record of a conversation unless no mark was worth one, and the record
sums up the marks of this conversation. A further edit makes all of its calls, if there is time
left for them:

* each gives whether the stored record of its conversation is another one than before it;
* conversations that none of them is for keep their records. -/
theorem read_marks_climb (marked : Marked scope origin o past) :
    (∀ kind id, ∃ found, o.record? Conversation (keyOf kind id) = .ok found ∧
      found = recordOf kind id past ∧
      (found = none ↔ ∀ mark ∈ marksOf kind id past, mark.Idle) ∧
      ∀ c, found = some c → Summarises kind id (marksOf kind id past) c) ∧
    ∀ now entropy calls, Timely (o.draft now entropy) calls →
      ∃ done flags, o.edit now entropy (calls.mapM Call.step) = .ok done ∧
        done.result = .ok flags ∧ flags.length = calls.length ∧
        Marked scope origin done.object (past ++ calls) ∧
        (∀ before call after, calls = before ++ call :: after →
          ∃ earlier later changed,
            o.edit now entropy (before.mapM Call.step) = .ok earlier ∧
            o.edit now entropy ((before ++ [call]).mapM Call.step) = .ok later ∧
            flags[before.length]? = some changed ∧
            (changed = true ↔ later.object.record? Conversation call.key ≠
              earlier.object.record? Conversation call.key)) ∧
        ∀ kind id, (∀ call ∈ calls, ¬ (call.kind = kind ∧ call.id = id)) →
          done.object.record? Conversation (keyOf kind id) =
            o.record? Conversation (keyOf kind id) := by
  refine ⟨fun kind id => ?_, fun now entropy calls timely => ?_⟩
  · obtain ⟨sums, none_iff⟩ := recordOf_spec kind id past
    -- the record is the fold of the marks, and the fold is what sums them up
    refine ⟨_, marked.record?_eq kind id, rfl, none_iff, fun c recorded => ?_⟩
    rwa [recorded] at sums
  · obtain ⟨done, ran, flags, marked'⟩ := marked.edit_ok timely
    refine ⟨done, _, ran, flags, length_changes, marked', ?_, fun kind id others => ?_⟩
    · rintro before call after rfl
      -- the calls before this one, without it and with it, are edits of their own
      obtain ⟨earlier, ran₁, -, marked₁⟩ := marked.edit_ok timely.init
      have within : Timely (o.draft now entropy) ((before ++ [call]) ++ after) := by
        rwa [List.append_assoc]
      obtain ⟨later, ran₂, -, marked₂⟩ := marked.edit_ok within.init
      refine ⟨earlier, later, _, ran₁, ran₂, getElem?_changes, ?_⟩
      rw [decide_eq_true_iff, Call.key, marked₁.record?_eq, marked₂.record?_eq]
      exact not_congr (Except.ok.injEq _ _).symm.to_iff
    · rw [marked.record?_eq, marked'.record?_eq, recordOf_append_of_others others]

/-- The messages of a contact were read up to time 7. -/
def firstReading : Call := ⟨.oneToOne, "x", .read 7⟩

/-- They are marked as unread, and read up to an earlier time; a room is read for the first time. -/
def laterMarks : List Call :=
  [⟨.oneToOne, "x", .unread true⟩, ⟨.oneToOne, "x", .read (-3)⟩, ⟨.community, "x", .read 1⟩]

/-- Where the messages were read, by a clock that showed 100. -/
def readAhead : Object :=
  let start := Object.blank .convoInfoVolatile .account 1
  start.revise (EditM.after ([firstReading].mapM Call.step) (start.draft 100 (.constant 0))).state

/-- It comes about by one edit. -/
theorem marked_readAhead : Marked .account 1 readAhead [firstReading] := by
  have timely : Timely ((Object.blank .convoInfoVolatile .account 1).draft 100 (.constant 0))
      [firstReading] := by
    refine ⟨fun _ _ => .inr fun old found => ?_, trivial⟩
    exact absurd (found.symm.trans (State.find?_empty _ _)) (by simp)
  obtain ⟨done, ran, -, marked⟩ := Marked.start.edit_ok timely
  rwa [Object.edit_cases ran] at marked

/-- The clock went back to 5 before the later marks were set, so they are stamped after 100. The
second one changes nothing. -/
theorem read_marks_climb_behind :
    Marked .account 1 readAhead [firstReading] ∧
    Timely (readAhead.draft 5 (.constant 0)) laterMarks ∧
    ∃ done, readAhead.edit 5 (.constant 0) (laterMarks.mapM Call.step) = .ok done ∧
      done.result = .ok [true, false, true] ∧
      Marked .account 1 done.object (firstReading :: laterMarks) ∧
      done.object.record? Conversation (keyOf .oneToOne "x") =
        .ok (some { kind := .oneToOne, id := "x", lastRead := 7, unread := true }) := by
  -- a stamp that is known is compared with the greatest time
  have room_of_stamp {d : Draft} {key : String} (time : Option Int64)
      (stamped : (d.state.find? Collection.conversations key).map Entry.timestamp = time)
      (below : time.all (· < Int64.maxValue) = true) : d.HasRoom Collection.conversations key := by
    intro old found
    rw [found] at stamped
    subst stamped
    exact of_decide_eq_true below
  have timely : Timely (readAhead.draft 5 (.constant 0)) laterMarks :=
    ⟨fun _ _ => .inr (room_of_stamp (some 100) (by decide +kernel) (by decide)),
      fun _ _ => .inr (room_of_stamp (some 101) (by decide +kernel) (by decide)),
      fun _ _ => .inr (room_of_stamp none (by decide +kernel) (by decide)), trivial⟩
  obtain ⟨-, further⟩ := read_marks_climb marked_readAhead
  obtain ⟨done, flags, ran, ended, -, marked, -, -⟩ := further 5 (.constant 0) laterMarks timely
  -- it is the edit that the calls themselves make, which tells the answers
  obtain ⟨done', ran', ended', -⟩ := marked_readAhead.edit_ok timely
  obtain rfl := Except.ok.inj (ran.symm.trans ran')
  have result : changes [firstReading] laterMarks = [true, false, true] := by decide
  obtain ⟨found, read, folded, -⟩ := (read_marks_climb marked).1 .oneToOne "x"
  refine ⟨marked_readAhead, timely, done, ran, by rw [ended', result], marked, ?_⟩
  rw [read, folded]
  rfl

end Objects

end Conversation

end ConfigReplica.Config
