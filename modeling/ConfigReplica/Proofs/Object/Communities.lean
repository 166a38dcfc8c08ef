import ConfigReplica.Proofs.Object.Records

/-!
# Communities beside each other

A community stands under its address and its room, joined by a slash. Addresses are taken without
slashes at their ends and in lower case, so one community may be written in many ways. Two of them
share a key nevertheless if a slash in the room of one stands where the other has its joint
(`Overlap`): room `b/c` of `https://a` and room `c` of `https://a/b`. Nothing else makes keys meet
(`key_eq_iff`), in particular not where rooms have no slash (`not_overlap`).

Storing one community after another keeps the first unless they overlap
(`communities_stay_apart`). If they do, the second replaces the first, and this is not reported as a
failure. Listing communities also needs all the others to be readable, while each single one is
found without them.
-/

namespace ConfigReplica.Config

namespace CommunityEntry

/-! ### Keys -/

/-- Two communities: the addresses differ, also without slashes at the end and in lower case, or
the rooms do. -/
def Distinct (a b : CommunityEntry) : Prop :=
  normalize a.baseUrl ≠ normalize b.baseUrl ∨ a.room ≠ b.room

instance (a b : CommunityEntry) : Decidable (Distinct a b) :=
  inferInstanceAs (Decidable (_ ∨ _))

/-- No community is distinct from itself. -/
theorem not_distinct_self (c : CommunityEntry) : ¬ c.Distinct c := by
  simp [Distinct]

/-- The address of the first community is that of the second and some of the second's room. -/
def Extends (a b : CommunityEntry) (middle : List Char) : Prop :=
  normalize a.baseUrl = normalize b.baseUrl ++ '/' :: middle ∧
    b.room.toList = middle ++ '/' :: a.room.toList

/-- What stands between two slashes ends one address and begins the other room. -/
def Overlap (a b : CommunityEntry) : Prop :=
  ∃ middle, a.Extends b middle ∨ b.Extends a middle

/-- The key of a community, part by part. -/
theorem toList_key (c : CommunityEntry) :
    (Record.key c).toList = normalize c.baseUrl ++ '/' :: c.room.toList :=
  String.toList_ofList

/-- One address goes on where the other ends, up to the joint. -/
theorem extends_of_append {a b : CommunityEntry} (apart : a.Distinct b) {rest : List Char}
    (base : normalize a.baseUrl = normalize b.baseUrl ++ rest)
    (room : '/' :: b.room.toList = rest ++ '/' :: a.room.toList) :
    ∃ middle, a.Extends b middle := by
  cases rest with
  | nil =>
    -- the joints are at the same place, so nothing tells the two apart
    have sameRoom : b.room = a.room := String.toList_inj.mp (List.cons.inj room).2
    have sameBase : normalize a.baseUrl = normalize b.baseUrl := base.trans (List.append_nil _)
    rcases apart with differs | differs
    · exact absurd sameBase differs
    · exact absurd sameRoom.symm differs
  | cons first middle =>
    rw [List.cons_append] at room
    obtain ⟨rfl, below⟩ := List.cons.inj room
    exact ⟨middle, base, below⟩

/-- **Keys meet exactly where communities overlap.** -/
theorem key_eq_iff {a b : CommunityEntry} (apart : a.Distinct b) :
    Record.key a = Record.key b ↔ a.Overlap b := by
  -- a text that is joined in two ways has one joint before the other
  rw [← String.toList_inj, toList_key, toList_key, List.append_eq_append_iff]
  constructor
  · rintro (⟨rest, base, room⟩ | ⟨rest, base, room⟩)
    · have apart' : b.Distinct a := apart.imp Ne.symm Ne.symm
      exact (extends_of_append apart' base room).imp fun _ => .inr
    · exact (extends_of_append apart base room).imp fun _ => .inl
  · rintro ⟨middle, ⟨base, room⟩ | ⟨base, room⟩⟩
    · exact .inr ⟨'/' :: middle, base, congrArg ('/' :: ·) room⟩
    · exact .inl ⟨'/' :: middle, base, congrArg ('/' :: ·) room⟩

/-- Rooms without slashes keep communities apart. -/
theorem not_overlap {a b : CommunityEntry} (plainA : '/' ∉ a.room.toList)
    (plainB : '/' ∉ b.room.toList) : ¬ a.Overlap b := by
  rintro ⟨middle, ⟨-, room⟩ | ⟨-, room⟩⟩
  · exact plainB (room ▸ List.mem_append_right _ (List.mem_cons_self ..))
  · exact plainA (room ▸ List.mem_append_right _ (List.mem_cons_self ..))

/-! ### Two communities in one state -/

/-- A state in which a community was stored: its key shows its text, and all other keys show what
they showed. -/
structure StoredIn (c : CommunityEntry) (s t : State) : Prop where
  shown : t.get? Collection.communities (Record.key c) = some (Record.encode c)
  others : ∀ key, key ≠ Record.key c →
    t.get? Collection.communities key = s.get? Collection.communities key

/-- All communities can be read that stand under other keys than these two. -/
def OthersRead (s : State) (a b : CommunityEntry) : Prop :=
  ∀ key text, key ≠ Record.key a → key ≠ Record.key b →
    s.get? Collection.communities key = some text →
      ∃ c : CommunityEntry, Record.decode text = .ok c

/-- **What an object holds after it took two communities**, the second one last. Where they overlap,
the second stands in the place of the first. Otherwise both are found, and both are listed if the
others can be read. -/
structure TookBoth (o : Object) (a b : CommunityEntry) (o' : Object) : Prop where
  latter : o'.record? CommunityEntry (Record.key b) = .ok (some b)
  former_iff : o'.record? CommunityEntry (Record.key a) = .ok (some a) ↔ ¬ a.Overlap b
  replaced : a.Overlap b → o'.record? CommunityEntry (Record.key a) = .ok (some b)
  listed_iff : ¬ a.Overlap b →
    ((∃ records, o'.records CommunityEntry = .ok records ∧ a ∈ records ∧ b ∈ records) ↔
      OthersRead o.state a b)

section States

variable {s t u : State} {a b : CommunityEntry}

/-- What shows under the keys after both were stored. -/
theorem get?_of_both (first : a.StoredIn s t) (second : b.StoredIn t u) (key : String) :
    u.get? Collection.communities key =
      if key = Record.key b then some (Record.encode b)
      else if key = Record.key a then some (Record.encode a)
      else s.get? Collection.communities key := by
  by_cases latter : key = Record.key b
  · rw [if_pos latter, latter, second.shown]
  · rw [if_neg latter, second.others key latter]
    by_cases former : key = Record.key a
    · rw [if_pos former, former, first.shown]
    · rw [if_neg former, first.others key former]

/-- Communities are listed if all can be read, those that were stored and the others. -/
theorem exists_records_iff (first : a.StoredIn s t) (second : b.StoredIn t u) :
    (∃ records, u.records CommunityEntry = .ok records) ↔ OthersRead s a b := by
  have shown := get?_of_both first second
  rw [(u.records_cases CommunityEntry).1]
  constructor
  · -- each key is looked at: it is one of the two, or it was there before
    intro all key text notA notB held
    refine all key text ?_
    rw [← held]
    exact (shown key).trans ((if_neg notB).trans (if_neg notA))
  · intro others key text held
    have held : u.get? Collection.communities key = some text := held
    rw [shown] at held
    split at held
    · exact ⟨b, Option.some.inj held ▸ Record.decode_encode storable.sound b⟩
    · next notB =>
      split at held
      · exact ⟨a, Option.some.inj held ▸ Record.decode_encode storable.sound a⟩
      · next notA => exact others key text notA notB held

/-- A community whose key shows its text is in the list. -/
theorem mem_records_of_shown {c : CommunityEntry} {records : List CommunityEntry}
    (read : u.records CommunityEntry = .ok records)
    (shown : u.get? Collection.communities (Record.key c) = some (Record.encode c)) :
    c ∈ records :=
  ((u.records_cases CommunityEntry).2 records read c).mpr
    ⟨_, _, shown, Record.decode_encode storable.sound c⟩

end States

/-! ### Objects that take two communities -/

section Objects

variable {o o' : Object} {d : Draft} {a b : CommunityEntry} {s : State}

/-- Storing one after the other comes to that. -/
theorem tookBoth_of_storedIn (home : o'.variant = .userGroups) (apart : a.Distinct b)
    (first : a.StoredIn o.state s) (second : b.StoredIn s o'.state) : TookBoth o a b o' := by
  -- the two keys are one exactly where the communities overlap
  have keys := key_eq_iff apart
  have latter : o'.record? CommunityEntry (Record.key b) = .ok (some b) :=
    Object.record?_of_shown storable home.symm second.shown
  have replaced (overlap : a.Overlap b) :
      o'.record? CommunityEntry (Record.key a) = .ok (some b) := by
    rw [keys.mpr overlap]
    exact latter
  have kept (free : ¬ a.Overlap b) :
      o'.state.get? Collection.communities (Record.key a) = some (Record.encode a) := by
    rw [second.others _ fun same => free (keys.mp same)]
    exact first.shown
  refine ⟨latter, ⟨fun former overlap => ?_, fun free => ?_⟩, replaced, fun free => ?_⟩
  · -- one record stands under the one key, and the two differ
    obtain rfl := Option.some.inj (Except.ok.inj (former.symm.trans (replaced overlap)))
    exact not_distinct_self a apart
  · exact Object.record?_of_shown storable home.symm (kept free)
  · rw [← exists_records_iff first second, Object.records_of_home home.symm]
    constructor
    · rintro ⟨records, read, -⟩
      exact ⟨records, read⟩
    · rintro ⟨records, read⟩
      exact ⟨records, read, mem_records_of_shown read (kept free),
        mem_records_of_shown read second.shown⟩

/-- A draft of memberships takes a community. -/
theorem setRecord_storedIn (home : d.variant = .userGroups) (c : CommunityEntry)
    (can : d.CanShow (Record.collection CommunityEntry) (Record.key c) (some (Record.encode c))) :
    ∃ changed d', EditM.setRecord c d = .ok changed d' ∧ d'.variant = .userGroups ∧
      c.StoredIn d.state d'.state := by
  -- the edit stores the record at its home, and nothing else shows another value
  have stored := EditM.setRecord_eq storable c home.symm can
  have shows := can.shows
  refine ⟨_, _, stored, ?_, shows.shown, fun key other => ?_⟩
  · rw [shows.only]
    exact home
  · exact congrArg (Option.bind · Entry.value) (shows.others _ _ fun both => other both.2)

/-- One edit takes two communities. -/
theorem edit_both (home : o.variant = .userGroups) (live : o.destroyed = false)
    (apart : a.Distinct b) {now : Int64} {entropy : Entropy}
    (can : (o.draft now entropy).CanShow Collection.communities (Record.key a)
      (some (Record.encode a)))
    (can' : (EditM.after (EditM.setRecord a) (o.draft now entropy)).CanShow Collection.communities
      (Record.key b) (some (Record.encode b))) :
    ∃ both changed, o.edit now entropy (do
        let _ ← EditM.setRecord a
        EditM.setRecord b) = .ok both ∧
      both.result = .ok changed ∧ TookBoth o a b both.object := by
  -- the second community is stored in the draft that the first one left behind
  obtain ⟨_, d, ran, home₁, stored⟩ := setRecord_storedIn (d := o.draft now entropy) home a can
  have left : EditM.after (EditM.setRecord a) (o.draft now entropy) = d := by
    rw [EditM.after, ran]
  rw [left] at can'
  obtain ⟨changed, d', ran', -, stored'⟩ := setRecord_storedIn home₁ b can'
  have both : (do let _ ← EditM.setRecord a; EditM.setRecord b : EditM Bool)
      (o.draft now entropy) = .ok changed d' := by
    rw [EditM.bind_of_ok ran, ran']
  refine ⟨_, changed, Object.edit_of_ok live both, rfl, tookBoth_of_storedIn ?_ apart stored ?_⟩
  · exact (Object.variant_revise o _).trans home
  · rwa [Object.state_revise]

/-- **Storing one community never overwrites another**, unless the two overlap. A live object of
memberships takes any two different communities one after the other, in two edits at any times or
in one, whatever else it holds, if there are times left to stamp the writes with. -/
theorem communities_stay_apart (o : Object) (home : o.variant = .userGroups)
    (live : o.destroyed = false) (a b : CommunityEntry) (apart : a.Distinct b)
    (now now' : Int64) (entropy entropy' : Entropy)
    (can : (o.draft now entropy).CanShow Collection.communities (Record.key a)
      (some (Record.encode a))) :
    (∃ first changed, o.edit now entropy (EditM.setRecord a) = .ok first ∧
      first.result = .ok changed ∧
      ((first.object.draft now' entropy').CanShow Collection.communities (Record.key b)
          (some (Record.encode b)) →
        ∃ second changed', first.object.edit now' entropy' (EditM.setRecord b) = .ok second ∧
          second.result = .ok changed' ∧ TookBoth o a b second.object)) ∧
    ((EditM.after (EditM.setRecord a) (o.draft now entropy)).CanShow Collection.communities
        (Record.key b) (some (Record.encode b)) →
      ∃ both changed, o.edit now entropy (do
          let _ ← EditM.setRecord a
          EditM.setRecord b) = .ok both ∧
        both.result = .ok changed ∧ TookBoth o a b both.object) := by
  refine ⟨?_, edit_both home live apart can⟩
  obtain ⟨changed, d, ran, -, stored⟩ := setRecord_storedIn (d := o.draft now entropy) home a can
  -- the object between the two edits is one that can be edited too
  refine ⟨_, changed, Object.edit_of_ok live ran, rfl, fun can' => ?_⟩
  have home' : (o.revise d.state).variant = .userGroups := (Object.variant_revise o _).trans home
  have live' : (o.revise d.state).destroyed = false := (Object.destroyed_revise o _).trans live
  obtain ⟨changed', d', ran', -, stored'⟩ :=
    setRecord_storedIn (d := (o.revise d.state).draft now' entropy') home' b can'
  refine ⟨_, changed', Object.edit_of_ok live' ran', rfl, tookBoth_of_storedIn ?_ apart stored ?_⟩
  · exact (Object.variant_revise _ _).trans home'
  · rw [Object.state_revise]
    rwa [Object.draft, Object.state_revise] at stored'

/-- Where all entries are older than the edit, two writes find a time. -/
theorem hasRoom_after (home : d.variant = .userGroups) (c : CommunityEntry)
    (early : d.timestamp < Int64.maxValue)
    (older : ∀ key e, d.state.find? Collection.communities key = some e →
      e.timestamp < d.timestamp) (key : String) :
    d.HasRoom Collection.communities key ∧
      (EditM.after (EditM.setRecord c) d).HasRoom Collection.communities key := by
  have room (key) : d.HasRoom Collection.communities key :=
    fun old found => Int64.lt_trans (older key old found) early
  have stamped : d.stamp Collection.communities (Record.key c) = d.timestamp := by
    unfold Draft.stamp
    cases found : d.state.find? Collection.communities (Record.key c) with
    | none => rfl
    | some old => exact if_neg (Int64.not_le.mpr (older _ old found))
  refine ⟨room key, fun e found => ?_⟩
  -- what is found afterwards is older than the edit, or it is the first write itself
  have stored := EditM.setRecord_eq storable c home.symm (.inr (room (Record.key c)))
  rw [EditM.after, stored] at found
  dsimp only [Draft.showing] at found
  split at found
  · exact room key e found
  · rw [Draft.written, State.find?_write] at found
    split at found
    · obtain rfl := Option.some.inj found
      change d.stamp Collection.communities (Record.key c) < _
      rwa [stamped]
    · exact room key e found

/-- Two rooms of one server, whose address is written in two ways. -/
def lobby : CommunityEntry := ⟨"A//", "lobby", "k1", 1⟩

def games : CommunityEntry := ⟨"a", "games", "k2", 2⟩

/-- Both are listed. -/
theorem communities_stay_apart_rooms :
    ∃ first second, first.variant = .userGroups ∧ lobby.Distinct games ∧
      (first.draft 5 (.constant 0)).CanShow Collection.communities
        (Record.key lobby) (some (Record.encode lobby)) ∧
      TookBoth first lobby games second ∧
      ∃ records, second.records CommunityEntry = .ok records ∧ lobby ∈ records ∧
        games ∈ records := by
  let start : Object := .blank .userGroups .account 1
  have apart : lobby.Distinct games := .inr (by decide)
  have free : ¬ lobby.Overlap games := not_overlap (by decide) (by decide)
  have empty (key) : start.state.find? Collection.communities key = none := State.find?_empty _ _
  have room (key) := hasRoom_after (d := start.draft 5 (.constant 0)) rfl lobby (by decide)
    (fun key e found => absurd (found.symm.trans (empty key)) (by simp)) key
  -- nothing is stored yet, so there is room for the first room and then for the second one
  obtain ⟨-, one⟩ := communities_stay_apart start rfl rfl lobby games apart 5 5 (.constant 0)
    (.constant 0) (.inr (room _).1)
  obtain ⟨both, changed, ran, -, took⟩ := one (.inr (room _).2)
  refine ⟨start, both.object, rfl, apart, .inr (room _).1, took, (took.listed_iff free).mpr ?_⟩
  -- no key was shown before, so no other room takes part
  intro key text _ _ held
  rw [State.get?, empty] at held
  cases held

/-- A room whose name has a slash, and a room of a server whose address goes on with how that name
begins. -/
def nested : CommunityEntry := ⟨"https://a", "b/c", "k1", 1⟩

def below : CommunityEntry := ⟨"https://a/b", "c", "k2", 2⟩

/-- Memberships with a community that cannot be read. -/
def unreadable : Object :=
  { Object.blank .userGroups .account 1 with
    state := State.empty.write Collection.communities "x" ⟨4, 1, some "1"⟩ }

/-- It is all that is found among the communities. -/
theorem find?_unreadable (key : String) :
    unreadable.state.find? Collection.communities key =
      if key = "x" then some ⟨4, 1, some "1"⟩ else none := by
  rw [unreadable, State.find?_write, State.find?_empty]
  simp

/-- **Communities go missing.** Storing the second of two that overlap replaces the first one,
without a failure. And where one community cannot be read, none is listed. -/
theorem overlap_replaces :
    nested.Distinct below ∧ nested ≠ below ∧
    (∃ done changed, (Object.blank .userGroups .account 1).edit 5 (.constant 0)
        (do let _ ← EditM.setRecord nested; EditM.setRecord below) = .ok done ∧
      done.result = .ok changed ∧
      done.object.record? CommunityEntry (Record.key nested) = .ok (some below)) ∧
    lobby.Distinct games ∧
    ∃ done changed, unreadable.edit 5 (.constant 0)
        (do let _ ← EditM.setRecord lobby; EditM.setRecord games) = .ok done ∧
      done.result = .ok changed ∧
      ¬ ∃ records, done.object.records CommunityEntry = .ok records ∧ lobby ∈ records ∧
        games ∈ records := by
  let start : Object := .blank .userGroups .account 1
  have apart : nested.Distinct below := .inr (by decide)
  have overlap : nested.Overlap below := ⟨['b'], .inr ⟨by decide +kernel, by decide⟩⟩
  have distinct : lobby.Distinct games := .inr (by decide)
  have free : ¬ lobby.Overlap games := not_overlap (by decide) (by decide)
  refine ⟨apart, by decide, ?_, distinct, ?_⟩
  · -- in an object without entries there is room for both, and the second takes the key of the
    -- first
    have room := hasRoom_after (d := start.draft 5 (.constant 0)) rfl nested (by decide)
      fun key e found => absurd (found.symm.trans (State.find?_empty _ key)) (by simp)
    obtain ⟨done, changed, ran, ended, took⟩ :=
      edit_both (o := start) rfl rfl apart (.inr (room _).1) (.inr (room _).2)
    exact ⟨done, changed, ran, ended, took.replaced overlap⟩
  · -- the unreadable community stays where it is, so no list is given
    have older (key e) (found : unreadable.state.find? Collection.communities key = some e) :
        e.timestamp < 5 := by
      rw [find?_unreadable] at found
      split at found
      · obtain rfl := Option.some.inj found
        decide
      · cases found
    have room := hasRoom_after (d := unreadable.draft 5 (.constant 0)) rfl lobby (by decide) older
    obtain ⟨done, changed, ran, ended, took⟩ :=
      edit_both (o := unreadable) rfl rfl distinct (.inr (room _).1) (.inr (room _).2)
    refine ⟨done, changed, ran, ended, fun listed => ?_⟩
    have held : unreadable.state.get? Collection.communities "x" = some "1" := by
      rw [State.get?, find?_unreadable]
      rfl
    have other (c : CommunityEntry) : "x" ≠ Record.key c := by
      intro same
      have chars := toList_key c
      rw [← same] at chars
      -- the key has a slash
      have slash : '/' ∈ "x".toList := by simp [chars]
      exact absurd slash (by decide)
    obtain ⟨c, read⟩ := (took.listed_iff free).mp listed "x" "1" (other _) (other _) held
    cases read

end Objects

end CommunityEntry

end ConfigReplica.Config
