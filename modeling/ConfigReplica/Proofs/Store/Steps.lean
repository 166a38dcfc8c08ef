import ConfigReplica.Store

/-!
# Actions and the store

An action that can fail leaves a state behind, whether it does or not (`stateAfter`); one that comes
after another starts where that one ended, and is not reached if that one failed. Steps on the
store are the smallest actions there are: each is noted, is refused or not, and does what it says if
it is not (`StoreM.get?_eq`, `StoreM.put_eq`, `StoreM.delete_eq`).
-/

namespace ConfigReplica

section Actions

variable {σ α β : Type}

/-- The state that an action leaves behind, whether it fails or not. -/
def stateAfter (action : EStateM Error σ α) (s : σ) : σ :=
  match action s with
  | .ok _ s' => s'
  | .error _ s' => s'

/-- What an action leaves that succeeds. -/
theorem stateAfter_of_ok {action : EStateM Error σ α} {s s' : σ} {x : α}
    (ran : action s = .ok x s') : stateAfter action s = s' := by
  rw [stateAfter, ran]

/-- What an action leaves that fails. -/
theorem stateAfter_of_error {action : EStateM Error σ α} {s s' : σ} {error : Error}
    (ran : action s = .error error s') : stateAfter action s = s' := by
  rw [stateAfter, ran]

/-- What comes after an action that succeeds starts where it ended. -/
theorem bind_of_ok {ε : Type} {first : EStateM ε σ α} {next : α → EStateM ε σ β} {s s' : σ} {x : α}
    (ran : first s = .ok x s') : (first >>= next) s = next x s' := by
  simp only [bind, EStateM.bind, ran]

/-- What comes after an action that fails is not reached. -/
theorem bind_of_error {ε : Type} {first : EStateM ε σ α} {next : α → EStateM ε σ β} {s s' : σ}
    {error : ε} (ran : first s = .error error s') :
    (first >>= next) s = .error error s' := by
  simp only [bind, EStateM.bind, ran]

/-- One action after another gives what the second gives from where the first ended. -/
theorem bind_eq_ok {first : EStateM Error σ α} {next : α → EStateM Error σ β} {s s'' : σ} {y : β} :
    (first >>= next) s = .ok y s'' ↔ ∃ x s', first s = .ok x s' ∧ next x s' = .ok y s'' := by
  cases ran : first s with
  | ok x s' =>
    rw [bind_of_ok ran]
    refine ⟨fun given => ⟨x, s', rfl, given⟩, ?_⟩
    rintro ⟨_, _, ⟨⟩, given⟩
    exact given
  | error error s' =>
    rw [bind_of_error ran]
    exact ⟨nofun, nofun⟩

/-- What two actions leave is what the second leaves. -/
theorem stateAfter_bind_of_ok {first : EStateM Error σ α} {next : α → EStateM Error σ β}
    {s s' : σ} {x : α} (ran : first s = .ok x s') :
    stateAfter (first >>= next) s = stateAfter (next x) s' := by
  rw [stateAfter, stateAfter, bind_of_ok ran]

/-- What is made of the result leaves the state alone. -/
theorem stateAfter_bind_pure (action : EStateM Error σ α) (f : α → β) (s : σ) :
    stateAfter (action >>= fun x => pure (f x)) s = stateAfter action s := by
  cases ran : action s with
  | ok x s' =>
    rw [stateAfter_bind_of_ok ran, stateAfter_of_ok ran]
    rfl
  | error error s' => rw [stateAfter_of_error (bind_of_error ran), stateAfter_of_error ran]

/-- A preorder on states that every step of a sequence follows, the sequence follows. -/
theorem stateAfter_bind {first : EStateM Error σ α} {next : α → EStateM Error σ β}
    {R : σ → σ → Prop} (trans : ∀ {a b c}, R a b → R b c → R a c) {s : σ}
    (begins : R s (stateAfter first s))
    (goesOn : ∀ x s, R s (stateAfter (next x) s)) :
    R s (stateAfter (first >>= next) s) := by
  cases ran : first s with
  | ok x s' =>
    rw [stateAfter_of_ok ran] at begins
    rw [stateAfter_bind_of_ok ran]
    exact trans begins (goesOn x s')
  | error error s' =>
    rw [stateAfter_of_error ran] at begins
    rw [stateAfter_of_error (bind_of_error ran)]
    exact begins

/-- Whether an action succeeds with a result that passes a test. -/
def yields (action : EStateM Error σ α) (s : σ) (test : α → Bool) : Bool :=
  match action s with
  | .ok x _ => test x
  | .error _ _ => false

/-- The test is put to what was given. -/
theorem yields_of_ok {action : EStateM Error σ α} {s s' : σ} {x : α}
    (ran : action s = .ok x s') (test : α → Bool) : yields action s test = test x := by
  rw [yields, ran]

/-- An action that fails passes no test. -/
theorem yields_of_error {action : EStateM Error σ α} {s s' : σ} {error : Error}
    (ran : action s = .error error s') (test : α → Bool) : yields action s test = false := by
  rw [yields, ran]

/-- What passes a test was given. -/
theorem exists_of_yields {action : EStateM Error σ α} {s : σ} {test : α → Bool}
    (passes : yields action s test = true) :
    ∃ x, action s = .ok x (stateAfter action s) ∧ test x = true := by
  unfold yields at passes
  unfold stateAfter
  cases ran : action s with
  | ok x s' =>
    rw [ran] at passes
    exact ⟨x, rfl, passes⟩
  | error error s' =>
    rw [ran] at passes
    cases passes

/-- What passes the test for a value is that value. -/
theorem ok_of_yields [BEq α] [LawfulBEq α] {action : EStateM Error σ α} {s : σ} {x : α}
    (gives : yields action s (· == x) = true) : action s = .ok x (stateAfter action s) := by
  obtain ⟨y, ran, same⟩ := exists_of_yields gives
  rw [eq_of_beq same] at ran
  exact ran

/-- What passes no test at all failed. -/
theorem exists_error_of_yields {action : EStateM Error σ α} {s : σ}
    (fails : yields action s (fun _ => true) = false) :
    ∃ error, action s = .error error (stateAfter action s) := by
  unfold yields at fails
  unfold stateAfter
  cases ran : action s with
  | ok x s' =>
    rw [ran] at fails
    cases fails
  | error error s' => exact ⟨error, rfl⟩

end Actions

/-! ### Steps on the store -/

namespace Store

/-- The store once it took note of a step. -/
def noted (s : Store) (step : Access) : Store :=
  { s with past := step :: s.past }

/-- The store refuses no step. -/
def Works (s : Store) : Prop :=
  ∀ past step, s.fault past step = none

/-- The store refuses no read. -/
def Answers (s : Store) : Prop :=
  ∀ past cell, s.fault past (.read cell) = none

/-- A store that works answers. -/
theorem Works.answers {s : Store} (works : s.Works) : s.Answers :=
  fun past cell => works past (.read cell)

/-- Every row has a length of 64 bits. -/
def Sized (s : Store) : Prop :=
  ∀ cell bytes, s.row? cell = some bytes → bytes.length < UInt64.size

/-- Whether a store works is told by its faults. -/
theorem Works.of_fault {s s' : Store} (works : s.Works) (same : s'.fault = s.fault) :
    s'.Works := by
  intro past step
  rw [same]
  exact works past step

/-- All rows are looked at one by one. -/
theorem sized_of_all {s : Store}
    (short : (s.rows.toList.all fun row => row.2.length < UInt64.size) = true) : s.Sized := by
  intro cell bytes row
  have mem : (cell, bytes) ∈ s.rows.toList := Std.ExtTreeMap.mem_toList_iff_getElem?_eq_some.mpr row
  simpa using List.all_eq_true.mp short _ mem

end Store

namespace StoreM

variable {α : Type} (table : Table) (key : String) (s : Store)

/-- A step is noted, whether it is refused or not. -/
theorem access_eq (step : Access) :
    access step s =
      match s.fault s.past step with
      | none => .ok () (s.noted step)
      | some text => .error (.storage text) (s.noted step) := by
  unfold access
  cases s.fault s.past step <;> rfl

/-- Reading a row gives it or is refused. -/
theorem get?_eq :
    get? table key s =
      match s.fault s.past (.read ⟨table, key⟩) with
      | none => .ok (s.row? ⟨table, key⟩) (s.noted (.read ⟨table, key⟩))
      | some text => .error (.storage text) (s.noted (.read ⟨table, key⟩)) := by
  have taken := access_eq s (.read ⟨table, key⟩)
  cases fault : s.fault s.past (.read ⟨table, key⟩) <;> rw [fault] at taken
  · exact bind_of_ok taken
  · exact bind_of_error taken

/-- Putting a row puts it or is refused. -/
theorem put_eq (bytes : Bytes) :
    put table key bytes s =
      match s.fault s.past (.write ⟨table, key⟩) with
      | none => .ok () ((s.noted (.write ⟨table, key⟩)).insert ⟨table, key⟩ bytes)
      | some text => .error (.storage text) (s.noted (.write ⟨table, key⟩)) := by
  have taken := access_eq s (.write ⟨table, key⟩)
  cases fault : s.fault s.past (.write ⟨table, key⟩) <;> rw [fault] at taken
  · exact bind_of_ok taken
  · exact bind_of_error taken

/-- Deleting a row deletes it or is refused. -/
theorem delete_eq :
    delete table key s =
      match s.fault s.past (.delete ⟨table, key⟩) with
      | none => .ok () ((s.noted (.delete ⟨table, key⟩)).erase ⟨table, key⟩)
      | some text => .error (.storage text) (s.noted (.delete ⟨table, key⟩)) := by
  have taken := access_eq s (.delete ⟨table, key⟩)
  cases fault : s.fault s.past (.delete ⟨table, key⟩) <;> rw [fault] at taken
  · exact bind_of_ok taken
  · exact bind_of_error taken

section Outcomes

variable {table key s} {text : String} (bytes : Bytes)

theorem get?_of_granted (granted : s.fault s.past (.read ⟨table, key⟩) = none) :
    get? table key s = .ok (s.row? ⟨table, key⟩) (s.noted (.read ⟨table, key⟩)) := by
  rw [get?_eq, granted]

theorem get?_of_refused (refused : s.fault s.past (.read ⟨table, key⟩) = some text) :
    get? table key s = .error (.storage text) (s.noted (.read ⟨table, key⟩)) := by
  rw [get?_eq, refused]

theorem put_of_granted (granted : s.fault s.past (.write ⟨table, key⟩) = none) :
    put table key bytes s = .ok () ((s.noted (.write ⟨table, key⟩)).insert ⟨table, key⟩ bytes) := by
  rw [put_eq, granted]

theorem put_of_refused (refused : s.fault s.past (.write ⟨table, key⟩) = some text) :
    put table key bytes s = .error (.storage text) (s.noted (.write ⟨table, key⟩)) := by
  rw [put_eq, refused]

end Outcomes

/-- A step does not change what the store refuses. -/
theorem fault_access (step : Access) (s : Store) :
    (stateAfter (access step) s).fault = s.fault := by
  rw [stateAfter, access_eq]
  cases s.fault s.past step <;> rfl

/-- Two actions leave the faults of the store as they are if each does. -/
theorem fault_bind {α β : Type} {first : StoreM α} {next : α → StoreM β} {s : Store}
    (begins : (stateAfter first s).fault = s.fault)
    (goesOn : ∀ x s, (stateAfter (next x) s).fault = s.fault) :
    (stateAfter (first >>= next) s).fault = s.fault :=
  stateAfter_bind (R := fun (s s' : Store) => s'.fault = s.fault)
    (fun first second => second.trans first) begins goesOn

theorem fault_get? : (stateAfter (get? table key) s).fault = s.fault :=
  fault_bind (fault_access _ s) fun _ _ => rfl

theorem fault_put (bytes : Bytes) : (stateAfter (put table key bytes) s).fault = s.fault :=
  fault_bind (fault_access _ s) fun _ _ => rfl

theorem fault_delete : (stateAfter (delete table key) s).fault = s.fault :=
  fault_bind (fault_access _ s) fun _ _ => rfl

/-- Putting a row changes no other. -/
theorem row?_put_of_ne (bytes : Bytes) {cell : Cell} (other : cell ≠ ⟨table, key⟩) :
    (stateAfter (put table key bytes) s).row? cell = s.row? cell := by
  have stored := put_eq table key s bytes
  cases fault : s.fault s.past (.write ⟨table, key⟩) <;> rw [fault] at stored
  · rw [stateAfter_of_ok stored, Store.row?_insert, if_neg other]
    rfl
  · rw [stateAfter_of_error stored]
    rfl

/-- Reading a row changes none, and gives what it holds. -/
theorem get?_spec :
    (∀ cell, (stateAfter (get? table key) s).row? cell = s.row? cell) ∧
      ∀ row s', get? table key s = .ok row s' → row = s.row? ⟨table, key⟩ := by
  have got := get?_eq table key s
  cases fault : s.fault s.past (.read ⟨table, key⟩) <;> rw [fault] at got
  · refine ⟨fun _ => by rw [stateAfter_of_ok got]; rfl, fun row s' given => ?_⟩
    cases got.symm.trans given
    rfl
  · refine ⟨fun _ => by rw [stateAfter_of_error got]; rfl, fun row s' given => ?_⟩
    cases got.symm.trans given

/-- A row that is deleted is gone or, if the store refused, still there; all others are kept. -/
theorem delete_spec (cell : Cell) :
    (stateAfter (delete table key) s).row? cell = s.row? cell ∨
      cell = ⟨table, key⟩ ∧ (stateAfter (delete table key) s).row? cell = none := by
  have deleted := delete_eq table key s
  cases fault : s.fault s.past (.delete ⟨table, key⟩) <;> rw [fault] at deleted
  · rw [stateAfter_of_ok deleted, Store.row?_erase]
    by_cases same : cell = ⟨table, key⟩
    · exact .inr ⟨same, if_pos same⟩
    · exact .inl (if_neg same)
  · rw [stateAfter_of_error deleted]
    exact .inl rfl

end StoreM

namespace StoreM

variable {α : Type} (codec : Codec α) (table : Table) (key : String) (s : Store)

/-- Reading a row leaves the rows alone, and gives what the row holds. -/
theorem load_cases :
    (∃ value, load codec table key s = .ok value (s.noted (.read ⟨table, key⟩)) ∧
      match s.row? ⟨table, key⟩ with
      | none => value = none
      | some bytes => ∃ x, codec.decode bytes = .ok x ∧ value = some x) ∨
    ∃ error, load codec table key s = .error error (s.noted (.read ⟨table, key⟩)) := by
  unfold load
  -- a row that cannot be read is an error like one that the store refuses
  cases faulty : s.fault s.past (.read ⟨table, key⟩) with
  | some text =>
    exact .inr ⟨_, bind_of_error (get?_of_refused faulty)⟩
  | none =>
    rw [bind_of_ok (get?_of_granted faulty)]
    cases s.row? ⟨table, key⟩ with
    | none => exact .inl ⟨none, rfl, rfl⟩
    | some bytes =>
      cases decoded : codec.decode bytes with
      | ok x => exact .inl ⟨some x, by simp only [decoded]; rfl, x, decoded, rfl⟩
      | error fault => exact .inr ⟨_, by simp only [decoded]; rfl⟩

/-- Reading a row leaves all rows as they were. -/
theorem row?_stateAfter_load : (stateAfter (load codec table key) s).row? = s.row? := by
  rcases load_cases codec table key s with ⟨value, ran, -⟩ | ⟨error, ran⟩
  · rw [stateAfter_of_ok ran]
    rfl
  · rw [stateAfter_of_error ran]
    rfl

theorem fault_load : (stateAfter (load codec table key) s).fault = s.fault := by
  rcases load_cases codec table key s with ⟨value, ran, -⟩ | ⟨error, ran⟩
  · rw [stateAfter_of_ok ran]
    rfl
  · rw [stateAfter_of_error ran]
    rfl

/-- Reading a row that holds a value, when the store gives it. -/
theorem load_of_row {x : α} {bytes : Bytes} (works : s.fault s.past (.read ⟨table, key⟩) = none)
    (row : s.row? ⟨table, key⟩ = some bytes) (decoded : codec.decode bytes = .ok x) :
    load codec table key s = .ok (some x) (s.noted (.read ⟨table, key⟩)) := by
  have got := get?_of_granted works
  rw [row] at got
  unfold load
  rw [bind_of_ok got]
  simp only [decoded]
  rfl

/-- Reading a row that there is not. -/
theorem load_of_free (works : s.fault s.past (.read ⟨table, key⟩) = none)
    (free : s.row? ⟨table, key⟩ = none) :
    load codec table key s = .ok none (s.noted (.read ⟨table, key⟩)) := by
  have got := get?_of_granted works
  rw [free] at got
  exact bind_of_ok got

/-- Reading a row that the store refuses to give. -/
theorem load_of_fault {text : String} (refused : s.fault s.past (.read ⟨table, key⟩) = some text) :
    load codec table key s = .error (.storage text) (s.noted (.read ⟨table, key⟩)) :=
  bind_of_error (get?_of_refused refused)

end StoreM

end ConfigReplica
