import ConfigReplica.Proofs.Ledger.Pruning
import ConfigReplica.Proofs.Store.Steps
import Mathlib.Data.List.Infix

/-!
# Messages are taken once within the window

A ledger is asked about messages one after the other, for any number of destinations and at times
that need not grow (`Ledger.offered`). What is recorded for a destination changes only when a new
message is offered for it, and is then pruned (`Ledger.recorded_offer`). So a message that was taken
stays recorded until a pruning drops it, and until then it is not taken again
(`Ledger.kept_or_forgotten`).

The store is taken to work, and every row to have a length of 64 bits (`Store.Sized`); what is
written is read back then.
-/

namespace ConfigReplica

/-- A message that arrives for a destination at a time. -/
structure Delivery where
  destination : String
  hash : String
  time : Int64
  deriving DecidableEq, Repr

namespace Ledger

/-- Asks the ledger whether a message is to be taken. -/
def offer (ledger : Ledger) (d : Delivery) : StoreM Bool :=
  ledger.accept d.destination d.hash d.time

/-- The store once the ledger was asked about these messages in turn. -/
def offered (ledger : Ledger) (s : Store) (deliveries : List Delivery) : Store :=
  deliveries.foldl (fun s d => stateAfter (ledger.offer d) s) s

/-- The ledger takes a message. -/
def Takes (ledger : Ledger) (s : Store) (d : Delivery) : Prop :=
  ∃ s', ledger.offer d s = .ok true s'

/-- A message is taken if the answer says so. -/
theorem takes_of_yields {ledger : Ledger} {s : Store} {d : Delivery}
    (takes : yields (ledger.offer d) s id = true) : ledger.Takes s d := by
  obtain ⟨_, ran, rfl⟩ := exists_of_yields takes
  exact ⟨_, ran⟩

/-- The place of the row with the received hashes of a destination. -/
def cell (destination : String) : Cell :=
  ⟨.receivedHashes, destination⟩

/-- What is recorded for a destination: nothing, where there is no row that can be read. -/
def recorded (s : Store) (destination : String) : Received :=
  match s.row? (cell destination) with
  | none => ∅
  | some bytes => (codec.decode bytes).toOption.getD ∅

/-- What is written can be read. -/
theorem faithful_codec : codec.Faithful :=
  Codec.faithful_dict Codec.faithful_int

@[simp] theorem offered_nil (ledger : Ledger) (s : Store) : ledger.offered s [] = s := rfl

@[simp] theorem offered_append (ledger : Ledger) (s : Store) (first second : List Delivery) :
    ledger.offered s (first ++ second) = ledger.offered (ledger.offered s first) second :=
  List.foldl_append

@[simp] theorem offered_cons (ledger : Ledger) (s : Store) (d : Delivery) (rest : List Delivery) :
    ledger.offered s (d :: rest) = ledger.offered (stateAfter (ledger.offer d) s) rest := rfl

/-! ### One message -/

/-- A ledger at work: the store refuses nothing, every row of received hashes can be read, and none
holds more than it may. -/
structure AtWork (ledger : Ledger) (s : Store) : Prop where
  works : s.Works
  legible : ∀ destination bytes, s.row? (cell destination) = some bytes →
    ∃ seen, codec.decode bytes = .ok seen
  few : ∀ destination, (recorded s destination).size ≤ ledger.most

variable {ledger : Ledger} {s : Store}

/-- Over an empty store a ledger is at work. -/
theorem AtWork.start (works : s.Works) (empty : ∀ destination, s.row? (cell destination) = none) :
    ledger.AtWork s where
  works := works
  legible destination bytes row := by
    rw [empty] at row
    cases row
  few destination := by
    unfold recorded
    rw [empty]
    exact Nat.zero_le _

/-- The hashes as they would be recorded, were a message new. -/
def withNew (ledger : Ledger) (seen : Received) (d : Delivery) : Received :=
  ledger.prune d.time (seen.insert d.hash d.time)

/-- The store once hashes were read and written for a message. -/
def written (s : Store) (d : Delivery) (seen : Received) : Store :=
  ((s.noted (.read (cell d.destination))).noted (.write (cell d.destination))).insert
    (cell d.destination) (codec.write seen)

/-- One row is written. -/
theorem row?_written (s : Store) (d : Delivery) (seen : Received) (place : Cell) :
    (written s d seen).row? place =
      if place = cell d.destination then some (codec.write seen) else s.row? place :=
  Store.row?_insert _ _ _ _

/-- The received hashes of a destination can be read, if there are any. -/
def Legible (s : Store) (destination : String) : Prop :=
  ∀ bytes, s.row? (cell destination) = some bytes → ∃ seen, codec.decode bytes = .ok seen

/-- If anything is recorded, it was read from a row. -/
theorem legible_of_mem {destination hash : String} (known : hash ∈ recorded s destination) :
    Legible s destination := by
  intro bytes row
  unfold recorded at known
  rw [row] at known
  cases decoded : codec.decode bytes with
  | ok seen => exact ⟨seen, rfl⟩
  | error fault =>
    -- a row that cannot be read counts as none
    simp only [decoded, Except.toOption, Option.getD_none] at known
    exact absurd known Std.ExtTreeMap.not_mem_empty

/-- Reading what is recorded. -/
theorem stored_eq (works : s.Works) {destination : String} (legible : Legible s destination) :
    ∃ seen : Option Received, stored destination s = .ok seen (s.noted (.read (cell destination))) ∧
      seen.getD ∅ = recorded s destination := by
  have works := works s.past (.read (cell destination))
  cases row : s.row? (cell destination) with
  | none =>
    -- where there is no row the set is empty, and otherwise it is what the row says
    refine ⟨none, StoreM.load_of_free codec _ _ _ works row, ?_⟩
    unfold recorded
    rw [row]
    rfl
  | some bytes =>
    obtain ⟨seen, decoded⟩ := legible bytes row
    refine ⟨some seen, StoreM.load_of_row codec _ _ _ works row decoded, ?_⟩
    unfold recorded
    rw [row]
    simp [decoded, Except.toOption]

/-- **One message**: it is known and nothing is written, or it is new and what is kept of all
hashes is written. It is taken if it is among them. -/
theorem offer_cases (works : s.Works) (d : Delivery) (legible : Legible s d.destination) :
    (d.hash ∈ recorded s d.destination ∧
      ledger.offer d s = .ok false (s.noted (.read (cell d.destination)))) ∨
    (d.hash ∉ recorded s d.destination ∧
      let kept := ledger.withNew (recorded s d.destination) d
      ledger.offer d s = .ok (kept.contains d.hash) (written s d kept)) := by
  obtain ⟨seen, read, same⟩ := stored_eq works legible
  let s₁ := s.noted (.read (cell d.destination))
  have ran : ledger.offer d s = _ := bind_of_ok read
  rw [same] at ran
  -- a known hash ends the call before anything is pruned or written
  cases known : (recorded s d.destination).contains d.hash with
  | true =>
    refine .inl ⟨Std.ExtTreeMap.contains_iff_mem.mp known, ran.trans ?_⟩
    rw [known]
    rfl
  | false =>
    refine .inr ⟨by rw [← Std.ExtTreeMap.contains_iff_mem, known]; simp, ran.trans ?_⟩
    have put := StoreM.put_eq .receivedHashes d.destination s₁
      (codec.write (ledger.withNew (recorded s d.destination) d))
    rw [show s₁.fault s₁.past _ = none from works _ _] at put
    rw [known]
    exact bind_of_ok put

/-- What is recorded depends on one row. -/
theorem recorded_congr {s' : Store} {destination : String}
    (row : s'.row? (cell destination) = s.row? (cell destination)) :
    recorded s' destination = recorded s destination := by
  unfold recorded
  rw [row]

/-- What a row says is recorded. -/
theorem recorded_of_row {destination : String} {seen : Received}
    (row : s.row? (cell destination) = some (codec.write seen))
    (short : (codec.write seen).length < UInt64.size) : recorded s destination = seen := by
  unfold recorded
  rw [row]
  simp [Codec.decode_write faithful_codec seen short, Except.toOption]

/-- Each destination has a row of its own. -/
theorem cell_inj {a b : String} : cell a = cell b ↔ a = b := by
  simp [cell]

/-- **What one message changes**: the hashes of its destination, if it is new. -/
theorem AtWork.recorded_offer (atWork : ledger.AtWork s) {d : Delivery}
    (sized : (stateAfter (ledger.offer d) s).Sized) (destination : String) :
    recorded (stateAfter (ledger.offer d) s) destination =
      if destination = d.destination ∧ d.hash ∉ recorded s d.destination
        then ledger.withNew (recorded s destination) d
        else recorded s destination := by
  rcases offer_cases atWork.works d (atWork.legible d.destination) with ⟨known, ran⟩ | ⟨new, ran⟩
  · -- only a read was noted, which changes no row
    rw [stateAfter_of_ok ran, if_neg fun here => here.2 known]
    exact recorded_congr rfl
  · rw [stateAfter_of_ok ran] at sized ⊢
    by_cases here : destination = d.destination
    · subst here
      rw [if_pos ⟨rfl, new⟩]
      have row := (row?_written s d (ledger.withNew (recorded s d.destination) d) _).trans
        (if_pos rfl)
      exact recorded_of_row row (sized _ _ row)
    · rw [if_neg fun both => here both.1]
      refine recorded_congr ((row?_written _ _ _ _).trans (if_neg ?_))
      exact fun cells => here (cell_inj.mp cells)

/-- A ledger stays at work. -/
theorem AtWork.offer (atWork : ledger.AtWork s) {d : Delivery}
    (sized : (stateAfter (ledger.offer d) s).Sized) :
    ledger.AtWork (stateAfter (ledger.offer d) s) := by
  have recorded := atWork.recorded_offer sized
  refine ⟨?_, ?_, fun destination => ?_⟩
  · rcases offer_cases atWork.works d (atWork.legible d.destination) with ⟨-, ran⟩ | ⟨-, ran⟩ <;>
      · rw [stateAfter_of_ok ran]
        exact atWork.works
  · intro destination bytes row
    rcases offer_cases atWork.works d (atWork.legible d.destination) with ⟨-, ran⟩ | ⟨-, ran⟩
    · rw [stateAfter_of_ok ran] at row
      exact atWork.legible destination bytes row
    · -- the row that was written can be read, and every other could be before
      have short := sized _ _ row
      rw [stateAfter_of_ok ran, row?_written] at row
      split at row
      · obtain rfl := Option.some.inj row
        exact ⟨_, Codec.decode_write faithful_codec _ short⟩
      · exact atWork.legible destination bytes row
  · rw [recorded]
    split
    · exact size_prune_le _ _ _
    · exact atWork.few destination

/-- **A message that is taken** was new, and is recorded with its time. -/
theorem AtWork.taken (atWork : ledger.AtWork s) {d : Delivery}
    (sized : (stateAfter (ledger.offer d) s).Sized) (takes : ledger.Takes s d) :
    d.hash ∉ recorded s d.destination ∧
      (recorded (stateAfter (ledger.offer d) s) d.destination)[d.hash]? = some d.time := by
  obtain ⟨s', took⟩ := takes
  rcases offer_cases atWork.works d (atWork.legible d.destination) with ⟨-, ran⟩ | ⟨new, ran⟩
  · rw [took] at ran
    cases ran
  · refine ⟨new, ?_⟩
    rw [atWork.recorded_offer sized, if_pos ⟨rfl, new⟩]
    rw [took] at ran
    have kept : (ledger.withNew (recorded s d.destination) d).contains d.hash = true := by
      injection ran with same
      exact same.symm
    -- the hash outlived the pruning that it caused, so its time is the one it came with
    rw [Std.ExtTreeMap.contains_eq_isSome_getElem?, Option.isSome_iff_exists] at kept
    obtain ⟨time, kept⟩ := kept
    have there := (of_mem_prune kept).1
    rw [Std.ExtTreeMap.getElem?_insert_self] at there
    rw [kept, there]

/-- **What asking about one message comes to**: there is an answer, and a message that is taken is
recorded; no destination has more hashes than the ledger may hold; and if the message was new,
all hashes of its destination are recent. -/
structure Answers (ledger : Ledger) (s : Store) (d : Delivery) (s' : Store) : Prop where
  answer : ∃ taken, ledger.offer d s = .ok taken s' ∧
    (taken = true → d.hash ∈ recorded s' d.destination)
  few : ∀ destination, (recorded s' destination).size ≤ ledger.most
  recent : d.hash ∉ recorded s d.destination → ∀ (hash : String) (time : Int64),
    (recorded s' d.destination)[hash]? = some time → cutoff d.time ledger.retention ≤ time

/-- A ledger at work answers. -/
theorem AtWork.answers (atWork : ledger.AtWork s) {d : Delivery}
    (sized : (stateAfter (ledger.offer d) s).Sized) :
    ledger.Answers s d (stateAfter (ledger.offer d) s) where
  answer := by
    have answers : ∃ taken, ledger.offer d s = .ok taken (stateAfter (ledger.offer d) s) := by
      rcases offer_cases atWork.works d (atWork.legible d.destination) with ⟨-, ran⟩ | ⟨-, ran⟩ <;>
        exact ⟨_, by rw [stateAfter_of_ok ran, ran]⟩
    obtain ⟨taken, ran⟩ := answers
    refine ⟨taken, ran, ?_⟩
    rintro rfl
    have held := (atWork.taken sized ⟨_, ran⟩).2
    exact Std.ExtTreeMap.mem_iff_isSome_getElem?.mpr (by rw [held]; rfl)
  few := (atWork.offer sized).few
  recent new hash time held := by
    rw [atWork.recorded_offer sized, if_pos ⟨rfl, new⟩] at held
    exact (of_mem_prune held).2

/-! ### Many messages -/

/-- A message for the destination after which a hash is past the retention, or gave way to later
ones. -/
def Forgets (ledger : Ledger) (destination hash : String) (time : Int64) (call : Delivery)
    (after : Store) : Prop :=
  call.destination = destination ∧
    (¬ ledger.IsRecent call.time time ∨ ledger.Crowded (recorded after destination) hash time)

/-- **A step**: a recorded hash stays recorded, or the message made the ledger forget it. -/
theorem AtWork.kept_or_forgets (atWork : ledger.AtWork s) {d : Delivery}
    (sized : (stateAfter (ledger.offer d) s).Sized) {destination hash : String} {time : Int64}
    (held : (recorded s destination)[hash]? = some time) :
    (recorded (stateAfter (ledger.offer d) s) destination)[hash]? = some time ∨
      ledger.Forgets destination hash time d (stateAfter (ledger.offer d) s) := by
  have recorded := atWork.recorded_offer sized destination
  by_cases pruned : destination = d.destination ∧ d.hash ∉ Ledger.recorded s d.destination
  · rw [if_pos pruned] at recorded
    obtain ⟨rfl, new⟩ := pruned
    -- pruning drops a hash for its age or for later ones, and for nothing else
    by_cases kept : (ledger.withNew (Ledger.recorded s d.destination) d)[hash]? = some time
    · exact .inl (recorded ▸ kept)
    · refine .inr ⟨rfl, ?_⟩
      by_cases late : ledger.IsRecent d.time time
      · refine .inr ?_
        rw [recorded]
        refine crowded_of_dropped ?_ (cutoff_le_iff_isRecent.mpr late) kept
        -- the new message is another one
        have other : d.hash ≠ hash := by
          rintro rfl
          rw [Std.ExtTreeMap.mem_iff_isSome_getElem?, held] at new
          exact new rfl
        rw [Std.ExtTreeMap.getElem?_insert,
          if_neg fun same => other (Std.compare_eq_iff_eq.mp same)]
        exact held
      · exact .inl late
  · rw [if_neg pruned] at recorded
    exact .inl (recorded ▸ held)

theorem AtWork.offered (atWork : ledger.AtWork s) {deliveries : List Delivery}
    (sized : ∀ part, part <+: deliveries → (ledger.offered s part).Sized) :
    ledger.AtWork (ledger.offered s deliveries) := by
  induction deliveries generalizing s with
  | nil => exact atWork
  | cons d rest ih =>
    refine ih (atWork.offer (sized [d] (List.prefix_append [d] rest))) fun part first => ?_
    exact sized (d :: part) ((List.prefix_cons_inj d).mpr first)

/-- **A run**: a recorded hash stays recorded, or one of the messages made the ledger forget it. -/
theorem AtWork.kept_or_forgotten (atWork : ledger.AtWork s) {deliveries : List Delivery}
    (sized : ∀ part, part <+: deliveries → (ledger.offered s part).Sized)
    {destination hash : String} {time : Int64}
    (held : (recorded s destination)[hash]? = some time) :
    (recorded (ledger.offered s deliveries) destination)[hash]? = some time ∨
      ∃ earlier call later, deliveries = earlier ++ call :: later ∧
        ledger.Forgets destination hash time call (ledger.offered s (earlier ++ [call])) := by
  -- the hash is followed up to the first message that made the ledger forget it
  induction deliveries generalizing s with
  | nil => exact .inl held
  | cons d rest ih =>
    have one := sized [d] (List.prefix_append [d] rest)
    rcases atWork.kept_or_forgets one held with kept | forgets
    · have more := fun part first => sized (d :: part) ((List.prefix_cons_inj d).mpr first)
      rcases ih (atWork.offer one) more kept with kept | ⟨earlier, call, later, rfl, forgets⟩
      · exact .inl kept
      · exact .inr ⟨d :: earlier, call, later, rfl, forgets⟩
    · exact .inr ⟨[], d, rest, rfl, forgets⟩

/-- **Messages are taken once within the window.** A ledger over an empty store that works is asked
about any messages. It always answers, and what it holds is bounded (`Ledger.Answers`). If it takes
a message and later takes one with the same hash for the same destination, then in between it was
asked about one for that destination by which the first was past the retention, or upon which as
many others as it may hold were recorded, all of them later. Times are compared as whole numbers,
and a retention counts as the greatest time at most (`Ledger.IsRecent`). -/
theorem taken_once_within_window {ledger : Ledger} {s₀ : Store} (works : s₀.Works)
    (empty : ∀ destination, s₀.row? (cell destination) = none) {deliveries : List Delivery}
    (sized : ∀ part, part <+: deliveries → (ledger.offered s₀ part).Sized) :
    (∀ before d after, deliveries = before ++ d :: after →
      ledger.Answers (ledger.offered s₀ before) d (ledger.offered s₀ (before ++ [d]))) ∧
    ∀ before first between again after,
      deliveries = before ++ first :: (between ++ again :: after) →
      again.destination = first.destination → again.hash = first.hash →
      ledger.Takes (ledger.offered s₀ before) first →
      ledger.Takes (ledger.offered s₀ (before ++ first :: between)) again →
      ∃ earlier call later, between = earlier ++ call :: later ∧
        ledger.Forgets first.destination first.hash first.time call
          (ledger.offered s₀ (before ++ first :: (earlier ++ [call]))) := by
  have start : ledger.AtWork s₀ := .start works empty
  have atWork {part : List Delivery} (first : part <+: deliveries) :
      ledger.AtWork (ledger.offered s₀ part) :=
    start.offered fun _ sub => sized _ (sub.trans first)
  constructor
  · rintro before d after rfl
    have last := sized (before ++ [d]) (by simp)
    rw [offered_append] at last ⊢
    exact (atWork (List.prefix_append _ _)).answers last
  · rintro before first between again after rfl sameDestination sameHash took takes
    have soFar : ledger.AtWork (ledger.offered s₀ before) := atWork (List.prefix_append _ _)
    let s₁ := stateAfter (ledger.offer first) (ledger.offered s₀ before)
    have run (part : List Delivery) (sub : part <+: between ++ again :: after) :
        (ledger.offered s₁ part).Sized := by
      have whole := sized (before ++ first :: part) (by simpa using sub)
      rwa [offered_append, offered_cons] at whole
    have sized₁ : s₁.Sized := run [] List.nil_prefix
    have atWork₁ : ledger.AtWork s₁ := soFar.offer sized₁
    rw [offered_append, offered_cons] at takes
    -- the first message is recorded, and would still be if nothing made the ledger forget it
    have within {part : List Delivery} (sub : part <+: between) :
        part <+: between ++ again :: after := sub.trans (List.prefix_append _ _)
    rcases atWork₁.kept_or_forgotten (fun _ sub => run _ (within sub)) (soFar.taken sized₁ took).2
      with kept | ⟨earlier, call, later, split, forgets⟩
    · -- but a message that is recorded is not taken
      have last := run (between ++ [again]) (by simp)
      rw [offered_append] at last
      have new := ((atWork₁.offered fun _ sub => run _ (within sub)).taken last takes).1
      rw [sameDestination, sameHash, Std.ExtTreeMap.mem_iff_isSome_getElem?, kept] at new
      exact absurd rfl new
    · refine ⟨earlier, call, later, split, ?_⟩
      rw [offered_append, offered_cons]
      exact forgets

/-- A ledger that holds one hash takes a message, forgets it for the next, and takes it again. -/
theorem taken_once_within_window_crowded :
    let ledger : Ledger := { most := 1 }
    let first : Delivery := ⟨"05aa", "m", 1⟩
    let next : Delivery := ⟨"05aa", "n", 2⟩
    let again : Delivery := ⟨"05aa", "m", 3⟩
    (∀ part, part <+: [first, next, again] → (ledger.offered {} part).Sized) ∧
      ledger.Takes {} first ∧ ledger.Takes (ledger.offered {} [first, next]) again ∧
      ledger.Forgets "05aa" "m" 1 next (ledger.offered {} [first, next]) := by
  intro ledger first next again
  -- every store on the way is one of a few, and each is small
  have sized : ∀ part, part <+: [first, next, again] → (ledger.offered {} part).Sized := by
    intro part sub
    have mem := (List.mem_inits part [first, next, again]).mpr sub
    have short : ([first, next, again].inits.all fun part =>
        (ledger.offered {} part).rows.toList.all fun row => row.2.length < UInt64.size) = true := by
      simp only [Ledger.offered, offer, accept, prune, byAge_eq_insertionSort]
      decide +kernel
    exact Store.sized_of_all (List.all_eq_true.mp short part mem)
  have took : ledger.Takes {} first := takes_of_yields (by decide +kernel)
  have takes : ledger.Takes (ledger.offered {} [first, next]) again := by
    refine takes_of_yields ?_
    simp only [Ledger.offered, offer, accept, prune, byAge_eq_insertionSort]
    decide +kernel
  -- some message in between makes the ledger forget, and there is one in between only
  obtain ⟨earlier, call, later, split, forgets⟩ := (taken_once_within_window (fun _ _ => rfl)
    (fun _ => rfl) sized).2 [] first [next] again [] rfl rfl rfl took takes
  obtain ⟨rfl, rfl, rfl⟩ : earlier = [] ∧ next = call ∧ later = [] := by
    cases earlier with
    | nil => simpa using split
    | cons d earlier => simp at split
  exact ⟨sized, took, takes, forgets⟩

/-- **A message that is taken twice within the retention.** The retention is longer than all of time,
and the ledger may hold thousands of hashes. Still it forgets the first message for the only one in
between, and takes it again. -/
theorem taken_again_within_retention :
    let ledger : Ledger := { retention := 2 ^ 64 - 1 }
    let first : Delivery := ⟨"05aa", "a", Int64.minValue⟩
    let between : Delivery := ⟨"05aa", "b", 0⟩
    ledger.Takes {} first ∧ ledger.Takes (ledger.offered {} [first, between]) first ∧
      ¬ first.time.toInt < between.time.toInt - (ledger.retention : Int) ∧
      (recorded (ledger.offered {} [first, between]) "05aa").size < ledger.most := by
  intro ledger first between
  refine ⟨takes_of_yields (by decide +kernel), takes_of_yields ?_, by decide, ?_⟩
  -- only the order by age has to be told in another form to be computed
  all_goals simp only [Ledger.offered, offer, accept, prune, byAge_eq_insertionSort]
  all_goals decide +kernel

end Ledger

end ConfigReplica
