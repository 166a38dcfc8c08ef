import ConfigReplica.Proofs.Session.Runs

/-!
# Watermarks over failures and restarts

The watermarks of a variant are read when they are first needed, changed in memory, and
stored as a whole; that they cannot be stored is passed over. So what a session knows
(`Device.knownMarks`) may be ahead of what its store holds (`Store.watermarks`), and a
session that is opened later starts from what the last write left that was not refused.

A call is one of two: `checkChange` fails where a change is refused, and `canChange` says
so (`ChangeCall`). Both do the same to the device (`ChangeCall.left_eq`), and what that is
is said once for a change that is accepted and once for one that is refused
(`SessionM.checkChange_of_later`, `SessionM.checkChange_of_stale`).

A history is any series of calls and restarts over a store that gives what it holds, and
may refuse to take what it is given (`Device.History`). It keeps two accounts: which
changes this session accepted, and which watermarks of each variant were stored last. Main
statement: `Device.watermarks_climb`.
-/

namespace ConfigReplica

/-! ### What rows hold -/

/-- The place of the row with the watermarks of a variant. -/
def Variant.watermarksCell (variant : Variant) : Cell :=
  ⟨.changeWatermarks, variant.name⟩

/-- Variants have different names, so their rows are at different places. -/
theorem Variant.watermarksCell_inj {a b : Variant} :
    a.watermarksCell = b.watermarksCell ↔ a = b := by
  constructor
  · -- the name of a variant tells it
    intro same
    have names : a.name = b.name := congrArg Cell.key same
    have found := Variant.ofName?_name a
    rw [names, Variant.ofName?_name b] at found
    exact (Option.some.inj found).symm
  · intro same
    rw [same]

/-- What is written of watermarks can be read again. -/
theorem SessionM.faithful_watermarksCodec : watermarksCodec.Faithful :=
  Codec.faithful_dict Codec.faithful_int

namespace Store

/-- The row of a variant holds these watermarks. Where there is no row there are none. -/
def Holds (s : Store) (variant : Variant) (marks : Watermarks) : Prop :=
  match s.row? variant.watermarksCell with
  | none => marks = ∅
  | some bytes => SessionM.watermarksCodec.decode bytes = .ok marks

/-- The watermarks that the row of a variant holds, none if it cannot be read. -/
def watermarks (s : Store) (variant : Variant) : Watermarks :=
  match s.row? variant.watermarksCell with
  | none => ∅
  | some bytes => (SessionM.watermarksCodec.decode bytes).toOption.getD ∅

/-- The latest step was this one, and it was not refused. -/
def took (s : Store) (step : Access) : Bool :=
  match s.past with
  | [] => false
  | latest :: before => latest == step && (s.fault before latest).isNone

variable {s s' : Store} {variant : Variant} {marks : Watermarks}

/-- A row that can be read holds one set of watermarks. -/
theorem Holds.watermarks_eq (holds : s.Holds variant marks) : s.watermarks variant = marks := by
  unfold Holds at holds
  unfold watermarks
  split at holds
  · exact holds.symm
  · rw [holds]
    rfl

/-- What a row holds depends on the row alone. -/
theorem Holds.congr (holds : s.Holds variant marks)
    (row : s'.row? variant.watermarksCell = s.row? variant.watermarksCell) :
    s'.Holds variant marks := by
  unfold Holds
  rw [row]
  exact holds

/-- And so does what is read from it. -/
theorem watermarks_congr (row : s'.row? variant.watermarksCell = s.row? variant.watermarksCell) :
    s'.watermarks variant = s.watermarks variant := by
  unfold watermarks
  rw [row]

/-- The row of a variant has a length of 64 bits. -/
def SizedFor (s : Store) (variant : Variant) : Prop :=
  ∀ bytes, s.row? variant.watermarksCell = some bytes → bytes.length < UInt64.size

/-- What was written is held, if it has a length of 64 bits. -/
theorem holds_of_written
    (row : s.row? variant.watermarksCell = some (SessionM.watermarksCodec.write marks))
    (sized : s.SizedFor variant) : s.Holds variant marks := by
  unfold Holds
  rw [row]
  exact Codec.decode_write SessionM.faithful_watermarksCodec _ (sized _ row)

end Store

/-! ### What a session knows -/

namespace Device

/-- The watermarks of a variant as a call finds them: in memory, or in their row. -/
def knownMarks (d : Device) (variant : Variant) : Watermarks :=
  match d.session.watermarks[variant]? with
  | some marks => marks
  | none => d.store.watermarks variant

/-- The watermark of a variant and key. -/
def watermark? (d : Device) (variant : Variant) (key : String) : Option Int64 :=
  (d.knownMarks variant)[key]?

/-- The device with these watermarks of a variant in memory. -/
def setMarksOf (d : Device) (variant : Variant) (marks : Watermarks) : Device :=
  { d with session := { d.session with
    watermarks := d.session.watermarks.insert variant marks } }

/-- The device once the watermarks of a variant are in memory. -/
def recalled (d : Device) (variant : Variant) : Device :=
  match d.session.watermarks[variant]? with
  | some _ => d
  | none =>
    (d.noted (.read variant.watermarksCell)).setMarksOf variant (d.store.watermarks variant)

/-- Nothing differs but which watermarks are in memory and which steps the store took note of, and
the watermarks are the same. -/
structure Unmoved (d d' : Device) : Prop where
  session : { d'.session with watermarks := d.session.watermarks } = d.session
  rows : d'.store.rows = d.store.rows
  fault : d'.store.fault = d.store.fault
  entropy : d'.entropy = d.entropy
  clock : d'.clock = d.clock
  marks : ∀ variant, d'.knownMarks variant = d.knownMarks variant

section Known

variable (d : Device) (variant other : Variant) (marks : Watermarks)

/-- The watermarks that are set are those of one variant. -/
theorem watermarks_setMarksOf :
    (d.setMarksOf variant marks).session.watermarks[other]? =
      if other = variant then some marks else d.session.watermarks[other]? := by
  change (d.session.watermarks.insert variant marks)[other]? = _
  rw [Std.ExtTreeMap.getElem?_insert]
  by_cases same : other = variant
  · simp [same]
  · simp [same, Ne.symm same]

/-- Nobody else's watermarks are known better or worse for it. -/
theorem knownMarks_setMarksOf :
    (d.setMarksOf variant marks).knownMarks other =
      if other = variant then marks else d.knownMarks other := by
  unfold knownMarks
  rw [watermarks_setMarksOf]
  by_cases same : other = variant
  · rw [if_pos same, if_pos same]
  · rw [if_neg same, if_neg same]
    rfl

/-- Reading watermarks into memory changes none. -/
theorem unmoved_recalled : d.Unmoved (d.recalled variant) := by
  unfold recalled
  cases known : d.session.watermarks[variant]? with
  -- they are in memory already, and nothing happens
  | some marks => exact ⟨rfl, rfl, rfl, rfl, rfl, fun _ => rfl⟩
  | none =>
    -- they come from the row, which is what was known of them
    refine ⟨rfl, rfl, rfl, rfl, rfl, fun other => ?_⟩
    rw [knownMarks_setMarksOf]
    split
    · next same =>
      rw [same, knownMarks, known]
    · rfl

/-- Afterwards those of the variant are in memory, and those of others where they were. -/
theorem watermarks_recalled :
    (d.recalled variant).session.watermarks[other]? =
      if other = variant then some (d.knownMarks variant)
        else d.session.watermarks[other]? := by
  unfold recalled knownMarks
  cases known : d.session.watermarks[variant]? with
  | some marks =>
    by_cases same : other = variant
    · rw [if_pos same, same, known]
    · rw [if_neg same]
  | none => exact watermarks_setMarksOf _ _ _ _

end Known

/-- The watermarks of a variant can be had: they are in memory, or their row can be read. -/
def Legible (d : Device) (variant : Variant) : Prop :=
  d.session.watermarks[variant]? = none → ∃ marks, d.store.Holds variant marks

/-! ### A write that may be refused -/

/-- The device once a row was given to the store, which takes it or refuses it. -/
def tried (d : Device) (cell : Cell) (bytes : Bytes) : Device :=
  match d.store.fault d.store.past (.write cell) with
  | none => (d.noted (.write cell)).setRow cell bytes
  | some _ => d.noted (.write cell)

section Tried

variable (d : Device) (cell place : Cell) (bytes : Bytes)

/-- Neither outcome of a write is seen by the session. -/
theorem session_tried : (d.tried cell bytes).session = d.session := by
  unfold tried
  split <;> rfl

/-- Nor does it change what the store will refuse. -/
theorem fault_tried : (d.tried cell bytes).store.fault = d.store.fault := by
  unfold tried
  split <;> rfl

/-- A store that works takes what it is given. -/
theorem tried_of_works (works : d.store.Works) :
    d.tried cell bytes = (d.noted (.write cell)).setRow cell bytes := by
  rw [tried, works]

/-- The row is there if the write was the latest step and was not refused. -/
theorem row?_tried :
    (d.tried cell bytes).store.row? place =
      if place = cell ∧ (d.tried cell bytes).store.took (.write cell) = true then some bytes
        else d.store.row? place := by
  cases fault : d.store.fault d.store.past (.write cell) with
  | none =>
    -- the step is the latest of the store, and nothing refused it
    have wrote : d.tried cell bytes = (d.noted (.write cell)).setRow cell bytes := by
      rw [tried, fault]
    have took : (d.tried cell bytes).store.took (.write cell) = true := by
      rw [wrote]
      simp [Store.took, setRow, noted, Store.noted, Store.insert, fault]
    simp only [took, and_true]
    rw [wrote, row?_setRow]
    rfl
  | some text =>
    -- the step is noted just the same, so only the fault tells that no row was written
    have refused : d.tried cell bytes = d.noted (.write cell) := by
      rw [tried, fault]
    have took : (d.tried cell bytes).store.took (.write cell) = false := by
      rw [refused]
      simp [Store.took, noted, Store.noted, fault]
    rw [took, if_neg fun here => Bool.false_ne_true here.2, refused]
    rfl

end Tried

end Device

/-! ### One call -/

/-- A change of what a key of a variant stands for, at a time. -/
structure ChangeRequest where
  variant : Variant
  key : String
  time : Int64
  deriving DecidableEq

namespace Device

/-- The watermarks of a variant once a change is accepted. -/
def marksWith (d : Device) (change : ChangeRequest) : Watermarks :=
  (d.knownMarks change.variant).insert change.key change.time

/-- The device once a change is accepted: its time is the watermark in memory, and in the row as
well unless the store refuses it. -/
def accepting (d : Device) (change : ChangeRequest) : Device :=
  ((d.recalled change.variant).setMarksOf change.variant (d.marksWith change)).tried
    change.variant.watermarksCell (SessionM.watermarksCodec.write (d.marksWith change))

section Accepting

variable (d : Device) (change : ChangeRequest)

/-- The watermarks in memory are those with the change, whether the store takes them or not. -/
theorem watermarks_accepting (variant : Variant) :
    (d.accepting change).session.watermarks[variant]? =
      if variant = change.variant then some (d.marksWith change)
        else d.session.watermarks[variant]? := by
  unfold accepting
  rw [session_tried, watermarks_setMarksOf]
  by_cases same : variant = change.variant
  · rw [if_pos same, if_pos same]
  · rw [if_neg same, if_neg same, watermarks_recalled, if_neg same]

/-- What the store will refuse is left as it was. -/
theorem fault_accepting : (d.accepting change).store.fault = d.store.fault := by
  unfold accepting
  rw [fault_tried]
  exact (d.unmoved_recalled change.variant).fault

/-- Only the row of the change's variant is written, if the store takes it. -/
theorem row?_accepting (cell : Cell) :
    (d.accepting change).store.row? cell =
      if cell = change.variant.watermarksCell ∧
          (d.accepting change).store.took (.write change.variant.watermarksCell) = true
        then some (SessionM.watermarksCodec.write (d.marksWith change))
        else d.store.row? cell := by
  -- the row is written after the watermarks were read, and reading moves no row
  have before : (d.recalled change.variant).store.row? cell = d.store.row? cell := by
    unfold Store.row?
    rw [(d.unmoved_recalled change.variant).rows]
  rw [← before]
  exact row?_tried _ _ _ _

/-- Other variants keep their rows. -/
theorem row?_accepting_other {variant : Variant} (other : variant ≠ change.variant) :
    (d.accepting change).store.row? variant.watermarksCell =
      d.store.row? variant.watermarksCell := by
  rw [row?_accepting, if_neg fun here => other (Variant.watermarksCell_inj.mp here.1)]

/-- **An accepted change moves the watermark of its key**, whether it could be stored or not, and
no other watermark. -/
theorem knownMarks_accepting (variant : Variant) :
    (d.accepting change).knownMarks variant =
      if variant = change.variant then d.marksWith change else d.knownMarks variant := by
  by_cases same : variant = change.variant
  · rw [if_pos same, knownMarks, watermarks_accepting, if_pos same]
  · -- what is known of another variant comes from its slot in memory and its row, and both are kept
    rw [if_neg same, knownMarks, watermarks_accepting, if_neg same,
      Store.watermarks_congr (d.row?_accepting_other change same)]
    rfl

/-- What is stored once a change is accepted: the watermarks of its variant, if the store took
them. -/
def savedWith (saved : Variant → Watermarks) : Variant → Watermarks :=
  if (d.accepting change).store.took (.write change.variant.watermarksCell) then
    Function.update saved change.variant (d.marksWith change)
  else saved

/-- Nor does anything else count as stored for them. -/
theorem savedWith_other {saved : Variant → Watermarks} {variant : Variant}
    (other : variant ≠ change.variant) : d.savedWith change saved variant = saved variant := by
  unfold savedWith
  split
  · exact Function.update_of_ne other _ _
  · rfl

end Accepting

end Device

namespace SessionM

open Device

variable {d : Device} {change : ChangeRequest}

/-- **Reading the watermarks** of a variant gives what is known of them. -/
theorem watermarks_eq {variant : Variant} (answers : d.store.Answers)
    (legible : d.Legible variant) :
    watermarks variant d = .ok (d.knownMarks variant) (d.recalled variant) := by
  unfold watermarks knownMarks recalled
  rw [bind_of_ok (session_eq d)]
  cases known : d.session.watermarks[variant]? with
  | some marks => rfl
  | none =>
    -- nothing is in memory, so the row is read, and it is legible
    obtain ⟨marks, holds⟩ := legible known
    have loads : ∃ stored : Option Watermarks,
        onStore (StoreM.load watermarksCodec .changeWatermarks variant.name) d =
          .ok stored (d.noted (.read variant.watermarksCell)) ∧ stored.getD ∅ = marks := by
      unfold Store.Holds at holds
      split at holds
      · -- no row stands for no watermarks
        next free =>
        exact ⟨none, onStore_load_of_free _ _ _ d (answers _ _) free, holds.symm⟩
      · next row =>
        exact ⟨some marks, onStore_load_of_row _ _ _ d (answers _ _) row holds, rfl⟩
    obtain ⟨stored, ran, same⟩ := loads
    rw [holds.watermarks_eq, ← same]
    exact bind_of_ok ran

/-- A write that is attempted succeeds or fails as a value; either way it leaves the same device. -/
theorem attempt_put (table : Table) (key : String) (bytes : Bytes) (d : Device) :
    ∃ outcome, attempt (onStore (StoreM.put table key bytes)) d =
      .ok outcome (d.tried ⟨table, key⟩ bytes) := by
  have put := onStore_put table key bytes d
  unfold attempt tried
  cases fault : d.store.fault d.store.past (.write ⟨table, key⟩) with
  | none =>
    rw [fault] at put
    rw [put]
    exact ⟨_, rfl⟩
  | some text =>
    rw [fault] at put
    rw [put]
    exact ⟨_, rfl⟩

/-- **A change that is later** than the watermark of its key, or the first of it, is accepted. -/
theorem checkChange_of_later (answers : d.store.Answers) (legible : d.Legible change.variant)
    (later : ∀ mark, d.watermark? change.variant change.key = some mark → mark < change.time) :
    checkChange change.variant change.key change.time d = .ok () (d.accepting change) := by
  -- the device between the change in memory and the attempt to store it
  let known := (d.recalled change.variant).setMarksOf change.variant (d.marksWith change)
  obtain ⟨outcome, saved⟩ := attempt_put .changeWatermarks change.variant.name
    (watermarksCodec.write (d.marksWith change)) known
  -- what comes after the comparison is the same, whether there was a watermark or not
  have rest : (modifySession (fun s => { s with
        watermarks := s.watermarks.insert change.variant (d.marksWith change) }) >>= fun _ =>
      discard (attempt (onStore (StoreM.save watermarksCodec .changeWatermarks
        change.variant.name (d.marksWith change))))) (d.recalled change.variant) =
      .ok () (d.accepting change) := by
    refine (bind_of_ok (show modifySession _ (d.recalled change.variant) = .ok () known
      from rfl)).trans ?_
    change EStateM.map _ (attempt (onStore (StoreM.put _ _ _))) known = _
    rw [EStateM.map, saved]
    rfl
  unfold checkChange
  rw [bind_of_ok (watermarks_eq answers legible)]
  -- only a watermark that is there is compared with
  cases found : (d.knownMarks change.variant)[change.key]? with
  | none => exact rest
  | some mark =>
    have less : ¬ change.time ≤ mark := Int64.not_le.mpr (later mark found)
    dsimp only
    rw [if_neg less]
    exact rest

/-- **A change that is not later** is refused, and the error names the watermark. -/
theorem checkChange_of_stale (answers : d.store.Answers) (legible : d.Legible change.variant)
    {mark : Int64} (found : d.watermark? change.variant change.key = some mark)
    (stale : change.time ≤ mark) :
    checkChange change.variant change.key change.time d =
      .error (.staleChange change.variant.name change.key change.time mark)
        (d.recalled change.variant) := by
  unfold checkChange
  rw [bind_of_ok (watermarks_eq answers legible)]
  unfold watermark? at found
  rw [found]
  dsimp only
  rw [if_pos stale]
  rfl

variable {variant : Variant} {key : String} {time : Int64} {d' : Device}

/-- Whoever asks whether a change is accepted has it accepted. -/
theorem canChange_of_ok (ran : checkChange variant key time d = .ok () d') :
    canChange variant key time d = .ok true d' := by
  have kept : attempt (checkChange variant key time) d = .ok (.ok ()) d' := by
    rw [attempt, ran]
  exact bind_of_ok kept

/-- And a refused one is no error to them. -/
theorem canChange_of_error {error : Error}
    (ran : checkChange variant key time d = .error error d') :
    canChange variant key time d = .ok false d' := by
  have kept : attempt (checkChange variant key time) d = .ok (.error error) d' := by
    rw [attempt, ran]
  exact bind_of_ok kept

end SessionM

/-- A call that asks for a change. -/
inductive ChangeCall where
  /-- It fails if the change is refused. -/
  | check (change : ChangeRequest)
  /-- It gives whether the change is accepted. -/
  | can (change : ChangeRequest)

namespace ChangeCall

open Device SessionM

/-- The change that a call asks for. -/
def change : ChangeCall → ChangeRequest
  | .check change | .can change => change

/-- The device that a call leaves behind. -/
def left (d : Device) : ChangeCall → Device
  | .check change => stateAfter (checkChange change.variant change.key change.time) d
  | .can change => stateAfter (canChange change.variant change.key change.time) d

/-- Whether the change is accepted. -/
def accepts (d : Device) : ChangeCall → Bool
  | .check change => yields (checkChange change.variant change.key change.time) d fun _ => true
  | .can change => yields (canChange change.variant change.key change.time) d id

variable {d : Device} (call : ChangeCall)

/-- What a call comes to when its change is accepted. -/
theorem of_accepted
    (ran : checkChange call.change.variant call.change.key call.change.time d =
      .ok () (d.accepting call.change)) :
    call.accepts d = true ∧ call.left d = d.accepting call.change := by
  cases call with
  -- the two calls differ in what they answer and not in what they do
  | check change => exact ⟨yields_of_ok ran _, stateAfter_of_ok ran⟩
  | can change =>
    have can := canChange_of_ok ran
    exact ⟨yields_of_ok can _, stateAfter_of_ok can⟩

/-- What a call comes to when its change is refused. -/
theorem of_refused {error : Error}
    (ran : checkChange call.change.variant call.change.key call.change.time d =
      .error error (d.recalled call.change.variant)) :
    call.accepts d = false ∧ call.left d = d.recalled call.change.variant := by
  cases call with
  | check change => exact ⟨yields_of_error ran _, stateAfter_of_error ran⟩
  | can change =>
    have can := canChange_of_error ran
    exact ⟨yields_of_ok can _, stateAfter_of_ok can⟩

/-- **The two ways a call can go.** -/
theorem cases (answers : d.store.Answers) (legible : d.Legible call.change.variant) :
    (call.accepts d = true ∧ call.left d = d.accepting call.change ∧
      ∀ mark, d.watermark? call.change.variant call.change.key = some mark →
        mark < call.change.time) ∨
    (call.accepts d = false ∧ call.left d = d.recalled call.change.variant ∧
      ∃ mark, d.watermark? call.change.variant call.change.key = some mark ∧
        call.change.time ≤ mark) := by
  by_cases stale : ∃ mark, d.watermark? call.change.variant call.change.key = some mark ∧
      call.change.time ≤ mark
  · -- some watermark is not before the change
    obtain ⟨mark, found, notLater⟩ := stale
    obtain ⟨refused, left⟩ := call.of_refused (checkChange_of_stale answers legible found notLater)
    exact .inr ⟨refused, left, mark, found, notLater⟩
  · -- there is none, or it is before the change
    have later : ∀ mark, d.watermark? call.change.variant call.change.key = some mark →
        mark < call.change.time := by
      intro mark found
      exact Int64.not_le.mp fun notLater => stale ⟨mark, found, notLater⟩
    obtain ⟨accepted, left⟩ := call.of_accepted (checkChange_of_later answers legible later)
    exact .inl ⟨accepted, left, later⟩

/-- The changes that the session accepted, once a call is made. The latest comes first. -/
def acceptedAfter (d : Device) (accepted : List ChangeRequest) : List ChangeRequest :=
  if call.accepts d then call.change :: accepted else accepted

/-- The watermarks that were stored last, once a call is made: those of its variant are what is in
memory, if the change was accepted and the store took them. -/
def savedAfter (d : Device) (saved : Variant → Watermarks) : Variant → Watermarks :=
  if call.accepts d ∧ (call.left d).store.took (.write call.change.variant.watermarksCell) then
    Function.update saved call.change.variant ((call.left d).knownMarks call.change.variant)
  else saved

end ChangeCall

/-! ### Histories -/

namespace Device

variable {d d' : Device} {saved : Variant → Watermarks} {accepted : List ChangeRequest}

/-- Whatever else differs, the watermarks in memory and in rows are the same, and so is what the
store will refuse. -/
structure SameMarks (d d' : Device) : Prop where
  memory : d'.session.watermarks = d.session.watermarks
  rows : ∀ variant : Variant,
    d'.store.row? variant.watermarksCell = d.store.row? variant.watermarksCell
  fault : d'.store.fault = d.store.fault

/-- **Histories of calls and restarts**, with what each variant's last write that was not refused
left, and the changes that the present session accepted. The store gives what it holds; which
writes it refuses is left open. -/
inductive History : (Variant → Watermarks) → List ChangeRequest → Device → Prop
  | start {d : Device} (ring : Seal.Keyring) (settings : Settings) (answers : d.store.Answers)
      (legible : ∀ variant, ∃ marks, d.store.Holds variant marks) :
      History d.store.watermarks [] (d.opened ring settings)
  | ask {saved : Variant → Watermarks} {accepted : List ChangeRequest} {d : Device}
      (past : History saved accepted d) (call : ChangeCall) :
      History (call.savedAfter d saved) (call.acceptedAfter d accepted) (call.left d)
  | reopen {saved : Variant → Watermarks} {accepted : List ChangeRequest} {d : Device}
      (past : History saved accepted d) (sized : d.store.Sized) (ring : Seal.Keyring)
      (settings : Settings) : History saved [] (d.opened ring settings)
  | elsewhere {saved : Variant → Watermarks} {accepted : List ChangeRequest} {d d' : Device}
      (past : History saved accepted d) (same : SameMarks d d') : History saved accepted d'

/-- The times of the changes of a key that were accepted, the latest first. -/
def timesOf (accepted : List ChangeRequest) (variant : Variant) (key : String) : List Int64 :=
  (accepted.filter fun change => change.variant = variant ∧ change.key = key).map
    ChangeRequest.time

/-- What every call and restart keeps. -/
structure Kept (saved : Variant → Watermarks) (accepted : List ChangeRequest) (d : Device) :
    Prop where
  answers : d.store.Answers
  /-- Watermarks that were not read into memory are in their row. -/
  unread : ∀ variant, d.session.watermarks[variant]? = none →
    d.store.Holds variant (saved variant)
  /-- What was stored last is in its row. -/
  stored : ∀ variant, d.store.SizedFor variant → d.store.Holds variant (saved variant)
  /-- Each accepted change of a key was later than the one before. -/
  ordered : ∀ variant key, (timesOf accepted variant key).Pairwise (· > ·)
  /-- The watermark is the time of the latest one, and what was stored if there is none. -/
  latest : ∀ variant key, d.watermark? variant key =
    (timesOf accepted variant key).head?.or (saved variant)[key]?

/-- A change is the latest of its own key, and of no other. -/
theorem timesOf_cons (change : ChangeRequest) (variant : Variant) (key : String) :
    timesOf (change :: accepted) variant key =
      if change.variant = variant ∧ change.key = key
        then change.time :: timesOf accepted variant key else timesOf accepted variant key := by
  unfold timesOf
  rw [List.filter_cons]
  by_cases mine : change.variant = variant ∧ change.key = key
  · simp [mine]
  · simp [mine]

/-- A new session has read nothing, so it knows what the rows hold. -/
theorem knownMarks_opened (d : Device) (ring : Seal.Keyring) (settings : Settings)
    (variant : Variant) :
    (d.opened ring settings).knownMarks variant = d.store.watermarks variant := by
  have unread : (d.opened ring settings).session.watermarks[variant]? = none := by
    simp [Device.opened]
  rw [knownMarks, unread]
  rfl

namespace Kept

/-- Whatever is not in memory can be read. -/
theorem legible (kept : Kept saved accepted d) (variant : Variant) : d.Legible variant :=
  fun unread => ⟨_, kept.unread variant unread⟩

/-- In a row that is as it was, what was stored last is there. -/
theorem stored_of_row {s : Store} (kept : Kept saved accepted d) {variant : Variant}
    (row : s.row? variant.watermarksCell = d.store.row? variant.watermarksCell)
    (sized : s.SizedFor variant) : s.Holds variant (saved variant) := by
  unfold Store.SizedFor at sized
  rw [row] at sized
  exact (kept.stored variant sized).congr row

/-- A session that is opened starts from what is in the rows. -/
theorem opened (answers : d.store.Answers)
    (holds : ∀ variant, d.store.Holds variant (saved variant)) (ring : Seal.Keyring)
    (settings : Settings) : Kept saved [] (d.opened ring settings) where
  answers := answers
  unread variant _ := holds variant
  stored variant _ := holds variant
  ordered _ _ := .nil
  latest variant key := by
    rw [watermark?, knownMarks_opened, (holds variant).watermarks_eq]
    rfl

/-- What has nothing to do with watermarks keeps it. -/
theorem elsewhere (kept : Kept saved accepted d) (same : SameMarks d d') :
    Kept saved accepted d' where
  answers := by
    intro past cell
    rw [same.fault]
    exact kept.answers past cell
  unread variant unread := by
    rw [same.memory] at unread
    exact (kept.unread variant unread).congr (same.rows variant)
  stored variant sized := kept.stored_of_row (same.rows variant) sized
  ordered := kept.ordered
  latest variant key := by
    rw [← kept.latest variant key]
    unfold watermark? knownMarks
    rw [same.memory, Store.watermarks_congr (same.rows variant)]

/-- A refused call changes nothing that is kept. -/
theorem recalled (kept : Kept saved accepted d) (variant : Variant) :
    Kept saved accepted (d.recalled variant) := by
  have unmoved := d.unmoved_recalled variant
  have row (cell : Cell) : (d.recalled variant).store.row? cell = d.store.row? cell := by
    unfold Store.row?
    rw [unmoved.rows]
  -- only the variant's watermarks came into memory, and they are what was known before
  refine ⟨?_, ?_, ?_, kept.ordered, ?_⟩
  · intro past cell
    rw [unmoved.fault]
    exact kept.answers past cell
  · intro other unread
    rw [watermarks_recalled] at unread
    -- of the variant itself there is nothing unread any more
    split at unread
    · cases unread
    · exact (kept.unread other unread).congr (row _)
  · exact fun other sized => kept.stored_of_row (row _) sized
  · intro other key
    rw [watermark?, unmoved.marks]
    exact kept.latest other key

/-- The watermark is the greatest time that was accepted. -/
theorem greatest (kept : Kept saved accepted d) {variant : Variant} {key : String} {time : Int64}
    (mem : time ∈ timesOf accepted variant key) :
    ∃ mark ∈ timesOf accepted variant key,
      d.watermark? variant key = some mark ∧ time ≤ mark := by
  have latest := kept.latest variant key
  have ordered := kept.ordered variant key
  cases times : timesOf accepted variant key with
  -- no change was accepted, so there is no time to speak of
  | nil =>
    rw [times] at mem
    cases mem
  | cons mark earlier =>
    rw [times] at mem latest ordered
    -- the times fall from the first one on, so the first is the greatest
    refine ⟨mark, List.mem_cons_self, latest, ?_⟩
    rcases List.mem_cons.mp mem with rfl | mem
    · exact Int64.le_refl _
    · exact Int64.le_of_lt (List.rel_of_pairwise_cons ordered mem)

/-- A change that is after the watermark is after all that were accepted. -/
theorem ordered_cons (kept : Kept saved accepted d) {change : ChangeRequest}
    (later : ∀ mark, d.watermark? change.variant change.key = some mark → mark < change.time)
    (variant : Variant) (key : String) :
    (timesOf (change :: accepted) variant key).Pairwise (· > ·) := by
  rw [timesOf_cons]
  split
  · -- the watermark is the greatest of the accepted times, and the change is later than it
    next mine =>
    obtain ⟨rfl, rfl⟩ := mine
    refine List.pairwise_cons.mpr ⟨fun time mem => ?_, kept.ordered _ _⟩
    obtain ⟨mark, -, found, le⟩ := kept.greatest mem
    exact Int64.lt_of_le_of_lt le (later mark found)
  · exact kept.ordered _ _

/-- What is stored for the variant of an accepted change is in its row. -/
theorem stored_accepting (kept : Kept saved accepted d) (change : ChangeRequest)
    (sized : (d.accepting change).store.SizedFor change.variant) :
    (d.accepting change).store.Holds change.variant (d.savedWith change saved change.variant) := by
  unfold savedWith
  -- what counts as stored last depends on whether the store took this write
  cases took : (d.accepting change).store.took (.write change.variant.watermarksCell) with
  | true =>
    rw [if_pos rfl, Function.update_self]
    refine Store.holds_of_written ?_ sized
    rw [row?_accepting, if_pos ⟨rfl, took⟩]
  | false =>
    -- the store refused, so the row is still what it was
    have row : (d.accepting change).store.row? change.variant.watermarksCell =
        d.store.row? change.variant.watermarksCell := by
      rw [row?_accepting, took, if_neg fun here => Bool.false_ne_true here.2]
    rw [if_neg Bool.false_ne_true]
    exact kept.stored_of_row row sized

/-- The watermarks of the variant of an accepted change are those of the accepted changes, the last
one with them. -/
theorem latest_accepting (kept : Kept saved accepted d) (change : ChangeRequest) (key : String) :
    (d.marksWith change)[key]? = (timesOf (change :: accepted) change.variant key).head?.or
      (d.savedWith change saved change.variant)[key]? := by
  have before := kept.latest change.variant key
  rw [timesOf_cons, marksWith, Std.ExtTreeMap.getElem?_insert]
  -- the change decides for its own key; for other keys of the variant it is told by what was before
  by_cases here : change.key = key
  · simp [here]
  · have differs : ¬ compare change.key key = .eq :=
      fun same => here (Std.compare_eq_iff_eq.mp same)
    rw [if_neg differs, if_neg fun both => here both.2, savedWith]
    split
    · -- what was stored is what is known
      rw [Function.update_self, marksWith, Std.ExtTreeMap.getElem?_insert, if_neg differs]
      change d.watermark? _ _ = Option.or _ (d.watermark? _ _)
      rw [before]
      cases (timesOf accepted change.variant key).head? <;> rfl
    · -- nothing was stored, so what was stored before still counts
      exact before

/-- **An accepted call** comes last, and what is stored follows if the store takes it. -/
theorem accepting (kept : Kept saved accepted d) (change : ChangeRequest)
    (later : ∀ mark, d.watermark? change.variant change.key = some mark → mark < change.time) :
    Kept (d.savedWith change saved) (change :: accepted) (d.accepting change) where
  answers := by
    intro past cell
    rw [fault_accepting]
    exact kept.answers past cell
  unread variant unread := by
    rw [watermarks_accepting] at unread
    -- the variant of the change is in memory now, and others are where they were
    split at unread
    · cases unread
    · next other =>
      rw [savedWith_other _ _ other]
      exact (kept.unread variant unread).congr (row?_accepting_other _ _ other)
  stored variant sized := by
    -- the row of the variant is told by the outcome of the write, that of others was not touched
    by_cases mine : variant = change.variant
    · subst mine
      exact kept.stored_accepting change sized
    · rw [savedWith_other _ _ mine]
      exact kept.stored_of_row (row?_accepting_other _ _ mine) sized
  ordered := kept.ordered_cons later
  latest variant key := by
    rw [watermark?, knownMarks_accepting]
    -- the watermarks of other variants are those from before, since no time was added for them
    by_cases mine : variant = change.variant
    · subst mine
      rw [if_pos rfl]
      exact kept.latest_accepting change key
    · rw [if_neg mine, timesOf_cons, if_neg fun both => mine both.1.symm, savedWith_other _ _ mine]
      exact kept.latest variant key

end Kept

/-- **Every history keeps it.** -/
theorem History.kept (history : History saved accepted d) : Kept saved accepted d := by
  -- by induction over the history: every event but a call leaves rows and memory to each other
  induction history with
  | start ring settings answers legible =>
    refine .opened answers (fun variant => ?_) ring settings
    obtain ⟨marks, holds⟩ := legible variant
    rw [holds.watermarks_eq]
    exact holds
  | @ask saved accepted d past call ih =>
    -- a call accepts its change or leaves everything as it was, whichever of the two calls it is
    rcases call.cases ih.answers (ih.legible _) with ⟨accepts, left, later⟩ | ⟨refuses, left, -⟩
    · have next := ih.accepting call.change later
      rw [ChangeCall.savedAfter, ChangeCall.acceptedAfter, accepts, left, knownMarks_accepting,
        if_pos rfl, if_pos rfl]
      simpa [savedWith] using next
    · rw [ChangeCall.savedAfter, ChangeCall.acceptedAfter, refuses, left]
      simpa using ih.recalled call.change.variant
  | reopen past sized ring settings ih =>
    -- no watermark is in memory then, and each row holds what was stored last
    exact .opened ih.answers (fun variant => ih.stored variant fun _ => sized _ _) ring settings
  | elsewhere past same ih => exact ih.elsewhere same

/-- **Watermarks climb.** After any history of calls and restarts, over a store that gives what it
holds and may refuse to take what it is given:

* A call is accepted exactly if its time is after the watermark of its variant and key, or there is
  none. An accepted call makes its time the watermark and moves no other; a refused one changes
  nothing.
* The times that the session accepted for a variant and key are in strict order, the greatest of
  them is the watermark, and as long as there is none the watermark is the one stored last.
* A session that is opened now starts from what was stored last for each variant. -/
theorem watermarks_climb (history : History saved accepted d) :
    (∀ call : ChangeCall,
      (call.accepts d = true ↔
        ∀ mark, d.watermark? call.change.variant call.change.key = some mark →
          mark < call.change.time) ∧
      (call.accepts d = true → ∀ variant key, (call.left d).watermark? variant key =
        if variant = call.change.variant ∧ key = call.change.key then some call.change.time
          else d.watermark? variant key) ∧
      (call.accepts d = false → d.Unmoved (call.left d))) ∧
    (∀ variant key,
      (timesOf accepted variant key).Pairwise (· > ·) ∧
      (∀ time ∈ timesOf accepted variant key, ∃ mark ∈ timesOf accepted variant key,
        d.watermark? variant key = some mark ∧ time ≤ mark) ∧
      (timesOf accepted variant key = [] →
        d.watermark? variant key = (saved variant)[key]?)) ∧
    (d.store.Sized → ∀ ring settings variant,
      (d.opened ring settings).knownMarks variant = saved variant) := by
  -- all three parts are read off what the history keeps
  have kept := history.kept
  refine ⟨fun call => ?_, fun variant key => ?_, fun sized ring settings variant => ?_⟩
  · rcases call.cases kept.answers (kept.legible _) with ⟨accepts, left, later⟩ |
      ⟨refuses, left, mark, found, notLater⟩
    · refine ⟨⟨fun _ => later, fun _ => accepts⟩, fun _ variant key => ?_, fun refuses => ?_⟩
      · -- the change is accepted, and its time is put where its key was
        rw [left, watermark?, knownMarks_accepting]
        by_cases mine : variant = call.change.variant
        · rw [if_pos mine, marksWith, Std.ExtTreeMap.getElem?_insert, mine]
          by_cases here : key = call.change.key
          · simp [here]
          · simp [here, Ne.symm here, watermark?]
        · -- of other variants the same is known
          rw [if_neg mine, if_neg fun both => mine both.1]
          rfl
      · rw [accepts] at refuses
        cases refuses
    · refine ⟨⟨fun accepts => ?_, fun later => ?_⟩, fun accepts => ?_, fun _ => ?_⟩
      · rw [refuses] at accepts
        cases accepts
      · -- it was refused because of a watermark that is not before it
        exact absurd (later mark found) (Int64.not_lt.mpr notLater)
      · rw [refuses] at accepts
        cases accepts
      · rw [left]
        exact d.unmoved_recalled _
  · refine ⟨kept.ordered variant key, fun time mem => kept.greatest mem, fun none => ?_⟩
    rw [kept.latest variant key, none]
    rfl
  · -- nothing is in memory after opening, so what is known is what the row holds
    rw [knownMarks_opened, (kept.stored variant fun _ => sized _ _).watermarks_eq]

/-- A store that refuses to write the contacts' watermarks in its third step. -/
def thirdRefused : Store where
  fault past step :=
    if past.length = 2 ∧ step = .write Variant.contacts.watermarksCell then some "disk full"
    else none

/-- The second of two changes is accepted and not stored: this session refuses it when it is asked
for again, and a session that is opened then has never heard of it. -/
theorem watermarks_climb_unstored :
    let first : ChangeCall := .check ⟨.contacts, "a", 5⟩
    let second : ChangeCall := .can ⟨.contacts, "b", 7⟩
    let again : ChangeCall := .check ⟨.contacts, "b", 7⟩
    let d₁ := first.left (opened { fresh 0 with store := thirdRefused } fresh.ring {})
    let d := second.left d₁
    second.accepts d₁ = true ∧ d.store.Sized ∧ d.watermark? .contacts "b" = some 7 ∧
      again.accepts d = false ∧
      ((d.opened fresh.ring {}).knownMarks .contacts).toList = [("a", 5)] := by
  intro first second again d₁ d
  let d₀ : Device := { fresh 0 with store := thirdRefused }
  have answers : d₀.store.Answers := by
    intro past cell
    -- only writes are refused
    exact if_neg fun both => nomatch both.2
  have start : History d₀.store.watermarks [] (d₀.opened fresh.ring {}) :=
    .start fresh.ring {} answers fun variant => ⟨∅, rfl⟩
  have history := (start.ask first).ask second
  have sized : d.store.Sized := Store.sized_of_all (by decide +kernel)
  obtain ⟨calls, marks, reopens⟩ := watermarks_climb history
  have accepts : second.accepts d₁ = true := by decide +kernel
  have mark : d.watermark? .contacts "b" = some 7 := by decide +kernel
  refine ⟨accepts, sized, mark, ?_, ?_⟩
  · -- its time is the watermark now, and not after it
    refine Bool.eq_false_iff.mpr fun accepted => ?_
    exact absurd ((calls again).1.mp accepted 7 mark) (by decide)
  · rw [reopens sized]
    decide +kernel

end Device

end ConfigReplica
