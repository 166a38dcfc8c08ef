import ConfigReplica.Proofs.Store.Steps
import ConfigReplica.Routing.Path

/-!
# Rows of hops

What the operations on paths make of the six rows that hold the hops. Each of them comes to one of
three things:

- it leaves all rows alone and gives what they hold (`PathM.Reads`), as asking for the paths does
  (`reads_paths`);
- it takes rows away and puts none there (`PathM.Drops`), as dropping a path does;
- it puts rows one after the other until the store refuses one (`PathM.Puts`), as storing two paths
  does (`puts_setPaths`), and gives the paths only if all rows were put.

Asking for paths may build them, but leaves the rows of other tables alone (`stays_pathsOrRebuild`).
-/

namespace ConfigReplica

namespace Store

/-- Puts rows in turn until the store refuses one, and counts those that were put. -/
def putRows : List (Cell × Bytes) → Store → Nat × Store
  | [], s => (0, s)
  | (cell, bytes) :: rest, s =>
    match s.fault s.past (.write cell) with
    | none =>
      let (count, s') := putRows rest ((s.noted (.write cell)).insert cell bytes)
      (count + 1, s')
    | some _ => (0, s.noted (.write cell))

variable (cell : Cell) (bytes : Bytes) (rows rest : List (Cell × Bytes)) (s : Store)

/-- A row that the store takes is put before the others. -/
theorem putRows_cons_of_accepted (accepted : s.fault s.past (.write cell) = none) :
    putRows ((cell, bytes) :: rows) s =
      ((putRows rows ((s.noted (.write cell)).insert cell bytes)).1 + 1,
        (putRows rows ((s.noted (.write cell)).insert cell bytes)).2) := by
  rw [putRows, accepted]

/-- A row that the store refuses ends it, and none is put. -/
theorem putRows_cons_of_refused {text : String}
    (refused : s.fault s.past (.write cell) = some text) :
    putRows ((cell, bytes) :: rows) s = (0, s.noted (.write cell)) := by
  rw [putRows, refused]

/-- More rows are reached only if none before them was refused. -/
theorem putRows_append :
    putRows (rows ++ rest) s =
      if (putRows rows s).1 = rows.length then
        (rows.length + (putRows rest (putRows rows s).2).1, (putRows rest (putRows rows s).2).2)
      else putRows rows s := by
  -- a refused row ends the sequence whatever follows, so `rest` stays out of reach
  induction rows generalizing s with
  | nil => simp [putRows]
  | cons row rows ih =>
    obtain ⟨cell, bytes⟩ := row
    rw [List.cons_append]
    cases fault : s.fault s.past (.write cell) with
    | none =>
      rw [putRows_cons_of_accepted _ _ _ _ fault, putRows_cons_of_accepted _ _ _ _ fault, ih]
      generalize putRows rows ((s.noted (.write cell)).insert cell bytes) = done
      by_cases all : done.1 = rows.length
      · simp [all, Nat.add_right_comm]
      · simp [all]
    | some text =>
      rw [putRows_cons_of_refused _ _ _ _ fault, putRows_cons_of_refused _ _ _ _ fault]
      exact (if_neg (Nat.zero_ne_add_one _)).symm

/-- A store that works takes all rows. -/
theorem putRows_of_works {s : Store} (works : s.Works) :
    (putRows rows s).1 = rows.length ∧ (putRows rows s).2.fault = s.fault := by
  induction rows generalizing s with
  | nil => exact ⟨rfl, rfl⟩
  | cons row rows ih =>
    obtain ⟨cell, bytes⟩ := row
    rw [putRows_cons_of_accepted _ _ _ _ (works _ _)]
    obtain ⟨all, fault⟩ := ih (s := (s.noted (.write cell)).insert cell bytes) works
    exact ⟨congrArg (· + 1) all, fault⟩

/-- What was done is noted beside the rows. -/
theorem row?_noted (step : Access) : (s.noted step).row? cell = s.row? cell := rfl

/-- Rows of other places are not touched. -/
theorem row?_putRows_of_notMem {cell : Cell} (other : cell ∉ rows.map Prod.fst) :
    (putRows rows s).2.row? cell = s.row? cell := by
  induction rows generalizing s with
  | nil => rfl
  | cons row rows ih =>
    obtain ⟨first, bytes⟩ := row
    rw [List.map_cons, List.mem_cons, not_or] at other
    cases fault : s.fault s.past (.write first) with
    | none =>
      rw [putRows_cons_of_accepted _ _ _ _ fault, ih _ other.2, row?_insert, if_neg other.1,
        row?_noted]
    | some text => rw [putRows_cons_of_refused _ _ _ _ fault, row?_noted]

/-- A row is put if the count goes past it, and is as it was otherwise. -/
theorem row?_putRows {cell : Cell} {bytes : Bytes} {k : Nat} (once : (rows.map Prod.fst).Nodup)
    (row : rows[k]? = some (cell, bytes)) :
    (putRows rows s).2.row? cell =
      if k < (putRows rows s).1 then some bytes else s.row? cell := by
  induction rows generalizing s k with
  | nil => cases row
  | cons head rows ih =>
    -- the first row is put or refused; a later one is at another place, and so stays out of its way
    obtain ⟨first, its⟩ := head
    rw [List.map_cons, List.nodup_cons] at once
    cases fault : s.fault s.past (.write first) with
    | some text =>
      rw [putRows_cons_of_refused _ _ _ _ fault, row?_noted, if_neg (Nat.not_lt_zero k)]
    | none =>
      rw [putRows_cons_of_accepted _ _ _ _ fault]
      cases k with
      | zero =>
        -- no later row is put over it
        cases row
        rw [row?_putRows_of_notMem _ _ once.1]
        simp
      | succ k =>
        rw [List.getElem?_cons_succ] at row
        have later : cell ≠ first := by
          rintro rfl
          exact once.1 (List.mem_map.mpr ⟨_, List.mem_of_getElem? row, rfl⟩)
        rw [ih _ once.2 row, row?_insert, if_neg later, row?_noted]
        simp

end Store

namespace Routing

/-- The place of the row of a hop. -/
def hopCell (index : Fin pathCount) (hop : Fin pathLength) : Cell :=
  ⟨.onionPaths, hopKey index hop.val⟩

/-- The text of the node reads back as the node. -/
def Node.Readable (node : Node) : Prop :=
  Node.parse node.text = .ok node

/-- The rows of the hops of a path. -/
def pathRows (path : Path) : List (Cell × Bytes) :=
  (List.finRange pathLength).map fun hop =>
    (hopCell path.index hop, Bytes.utf8 (path.hops.get hop).text)

/-! ### What the rows hold -/

section Held

variable (rows : Cell → Option Bytes)

/-- The node in the row of a hop, if the row holds the text of one. -/
def hopAt? (index : Fin pathCount) (hop : Fin pathLength) : Option Node := do
  let text ← Bytes.ofUtf8? (← rows (hopCell index hop))
  (Node.parse text).toOption

/-- The path in the rows of its hops, if all are there. -/
def pathAt? (index : Fin pathCount) : Option Path :=
  (Vector.ofFnM (hopAt? rows index)).map (Path.mk index)

/-- Both paths in the rows, or none. -/
def pathsAt : List Path :=
  ((List.finRange pathCount).mapM (pathAt? rows)).getD []

/-- Two paths, if both are there. -/
def both : Option Path → Option Path → List Path
  | some first, some second => [first, second]
  | _, _ => []

/-- A path is there if its three hops are. -/
theorem pathAt?_eq (index : Fin pathCount) :
    pathAt? rows index =
      (hopAt? rows index 0).bind fun a => (hopAt? rows index 1).bind fun b =>
        (hopAt? rows index 2).bind fun c => some ⟨index, #v[a, b, c]⟩ := by
  unfold pathAt?
  cases first : hopAt? rows index 0 <;> cases second : hopAt? rows index 1 <;>
    cases third : hopAt? rows index 2 <;> simp [Vector.ofFnM_succ, first, second, third]

/-- Both paths are there or none is given. -/
theorem pathsAt_eq : pathsAt rows = both (pathAt? rows 0) (pathAt? rows 1) := by
  have slots : List.finRange pathCount = [0, 1] := rfl
  rw [pathsAt, slots, List.mapM_cons]
  cases first : pathAt? rows 0 <;> cases second : pathAt? rows 1 <;> simp [second, both]

/-- What the paths are depends on the rows of their hops alone. -/
theorem pathsAt_congr {rows rows' : Cell → Option Bytes}
    (same : ∀ index hop, rows' (hopCell index hop) = rows (hopCell index hop)) :
    pathsAt rows' = pathsAt rows := by
  have hops : hopAt? rows' = hopAt? rows := by
    funext index hop
    rw [hopAt?, hopAt?, same]
  have paths : pathAt? rows' = pathAt? rows := by
    funext index
    rw [pathAt?, pathAt?, hops]
  rw [pathsAt, pathsAt, paths]

variable {rows} {index : Fin pathCount}

/-- A row with a text holds the node that the text reads back as. -/
theorem hopAt?_eq_of_row {hop : Fin pathLength} {text : String}
    (row : rows (hopCell index hop) = some (Bytes.utf8 text)) :
    hopAt? rows index hop = (Node.parse text).toOption := by
  unfold hopAt?
  rw [row]
  simp only [bind, Option.bind, Bytes.ofUtf8?_utf8]

/-- A row with the text of a node that reads back holds the node. -/
theorem hopAt?_of_row {hop : Fin pathLength} {node : Node} (readable : node.Readable)
    (row : rows (hopCell index hop) = some (Bytes.utf8 node.text)) :
    hopAt? rows index hop = some node := by
  rw [hopAt?_eq_of_row row, readable]
  rfl

/-- A hop that is held has a row. -/
theorem exists_row_of_hopAt? {hop : Fin pathLength} {node : Node}
    (held : hopAt? rows index hop = some node) :
    ∃ bytes, rows (hopCell index hop) = some bytes := by
  obtain ⟨bytes, row, -⟩ := Option.bind_eq_some_iff.mp held
  exact ⟨bytes, row⟩

/-- Three hops that are held are a path. -/
theorem pathAt?_of_hops {a b c : Node} (first : hopAt? rows index 0 = some a)
    (second : hopAt? rows index 1 = some b) (third : hopAt? rows index 2 = some c) :
    pathAt? rows index = some ⟨index, #v[a, b, c]⟩ := by
  rw [pathAt?_eq, first, second, third]
  rfl

/-- The hops of a path that is there are held. -/
theorem hopAt?_of_pathAt? {path : Path} (held : pathAt? rows index = some path)
    (hop : Fin pathLength) :
    hopAt? rows path.index hop = some (path.hops.get hop) := by
  rw [pathAt?_eq] at held
  obtain ⟨a, first, held⟩ := Option.bind_eq_some_iff.mp held
  obtain ⟨b, second, held⟩ := Option.bind_eq_some_iff.mp held
  obtain ⟨c, third, held⟩ := Option.bind_eq_some_iff.mp held
  cases held
  match hop with
  | 0 => exact first
  | 1 => exact second
  | 2 => exact third

/-- The hops of the paths that are there are held. -/
theorem hopAt?_of_mem {path : Path} (held : path ∈ pathsAt rows) (hop : Fin pathLength) :
    hopAt? rows path.index hop = some (path.hops.get hop) := by
  rw [pathsAt_eq] at held
  unfold both at held
  split at held
  · rename_i first second
    rw [List.mem_cons, List.mem_singleton] at held
    rcases held with rfl | rfl
    · exact hopAt?_of_pathAt? first hop
    · exact hopAt?_of_pathAt? second hop
  · cases held

/-- What holds of every hop holds of every node on the two paths. -/
theorem forall_hop_iff {P : Node → Prop} {first second : Hops} :
    (∀ path ∈ [Path.mk 0 first, ⟨1, second⟩], ∀ hop, P (path.hops.get hop)) ↔
      ∀ node ∈ first.toList ++ second.toList, P node := by
  have onPath (hops : Hops) : (∀ hop, P (hops.get hop)) ↔ ∀ node ∈ hops.toList, P node := by
    constructor
    · intro each node mem
      obtain ⟨hop, bound, rfl⟩ := Vector.mem_iff_getElem.mp (Vector.mem_toList_iff.mp mem)
      exact each ⟨hop, bound⟩
    · intro each hop
      exact each _ (Vector.mem_toList_iff.mpr (Vector.getElem_mem hop.isLt))
  rw [List.forall_mem_append, ← onPath, ← onPath, List.forall_mem_cons, List.forall_mem_singleton]

/-- The rows hold two paths exactly if each of them holds its hop. -/
theorem pathsAt_eq_iff {first second : Hops} :
    pathsAt rows = [⟨0, first⟩, ⟨1, second⟩] ↔
      ∀ path ∈ [Path.mk 0 first, ⟨1, second⟩], ∀ hop,
        hopAt? rows path.index hop = some (path.hops.get hop) := by
  constructor
  · intro same path mem
    rw [← same] at mem
    exact hopAt?_of_mem mem
  · intro held
    have whole (path : Path) (mem : path ∈ [Path.mk 0 first, ⟨1, second⟩]) :
        pathAt? rows path.index = some path := by
      rw [pathAt?_of_hops (held path mem 0) (held path mem 1) (held path mem 2)]
      refine congrArg some (congrArg (Path.mk path.index) (Vector.ext fun hop bound => ?_))
      match hop with
      | 0 | 1 | 2 => rfl
    rw [pathsAt_eq, whole ⟨0, first⟩ (.head _), whole ⟨1, second⟩ (.tail _ (.head _))]
    rfl

end Held

/-! ### Reading -/

/-- Reading the pool changes no row. -/
theorem Pool.row?_stateAfter_get (s : Store) : (stateAfter Pool.get s).row? = s.row? := by
  have trans {a b c : Store} (first : b.row? = a.row?) (second : c.row? = b.row?) :
      c.row? = a.row? := second.trans first
  refine stateAfter_bind (R := fun (s s' : Store) => s'.row? = s.row?) trans ?_ fun _ _ => rfl
  refine stateAfter_bind (R := fun (s s' : Store) => s'.row? = s.row?) trans ?_ fun _ _ => rfl
  exact StoreM.row?_stateAfter_load _ _ _ s

/-- Reading the pool leaves the faults of the store as they are. -/
theorem Pool.fault_get (s : Store) : (stateAfter Pool.get s).fault = s.fault :=
  StoreM.fault_bind (StoreM.fault_bind (StoreM.fault_load _ _ _ s) fun _ _ => rfl) fun _ _ => rfl

namespace PathM

variable {α β : Type} {c c' : PathCache}

/-- What is done to the store changes the store alone. -/
theorem stateAfter_onStore (action : StoreM α) (c : PathCache) :
    stateAfter (onStore action) c = { c with store := stateAfter action c.store } := by
  unfold stateAfter onStore
  cases action c.store <;> rfl

/-- What is done to the store gives what it gives there. -/
theorem onStore_eq_ok {action : StoreM α} {x : α} :
    onStore action c = .ok x c' ↔
      ∃ s, action c.store = .ok x s ∧ { c with store := s } = c' := by
  unfold onStore
  cases action c.store with
  | ok y s =>
    refine ⟨fun given => ?_, ?_⟩
    · cases given
      exact ⟨s, rfl, rfl⟩
    · rintro ⟨_, ⟨⟩, rfl⟩
      rfl
  | error error s => exact ⟨nofun, nofun⟩

/-- What was tried and succeeded. -/
theorem attempt_of_ok {action : PathM α} {x : α} (ran : action c = .ok x c') :
    attempt action c = .ok (.ok x) c' := by
  rw [attempt, ran]

/-- What was tried and failed; that is no error yet. -/
theorem attempt_of_error {action : PathM α} {error : Error} (ran : action c = .error error c') :
    attempt action c = .ok (.error error) c' := by
  rw [attempt, ran]

/-- The action leaves the rows alone, and what it gives is this function of them. It fails only if
the store refuses a read. -/
structure Reads (action : PathM α) (f : (Cell → Option Bytes) → α) : Prop where
  keeps : ∀ c, (stateAfter action c).store.row? = c.store.row?
  gives : ∀ {c x c'}, action c = .ok x c' → x = f c.store.row?
  answers : ∀ {c}, c.store.Answers → ∃ x c', action c = .ok x c' ∧ c'.store.Answers

namespace Reads

variable {f : (Cell → Option Bytes) → α} {g : (Cell → Option Bytes) → β}

theorem pure (x : α) : Reads (Pure.pure x) fun _ => x where
  keeps _ := rfl
  gives given := by
    cases given
    rfl
  answers willing := ⟨x, _, rfl, willing⟩

/-- What comes after an action that leaves the rows alone reads the same rows. -/
theorem keeps_bind {first : PathM α} {next : α → PathM β}
    (keeps : ∀ c, (stateAfter first c).store.row? = c.store.row?)
    (goesOn : ∀ x c, (stateAfter (next x) c).store.row? = c.store.row?) (c : PathCache) :
    (stateAfter (first >>= next) c).store.row? = c.store.row? :=
  stateAfter_bind (R := fun (c c' : PathCache) => c'.store.row? = c.store.row?)
    (fun first second => second.trans first) (keeps c) goesOn

/-- Two readings, one after the other, are one. -/
theorem bind {first : PathM α} {next : α → PathM β} {g : α → (Cell → Option Bytes) → β}
    (reads : Reads first f) (goesOn : ∀ x, Reads (next x) (g x)) :
    Reads (first >>= next) fun rows => g (f rows) rows where
  keeps := keeps_bind reads.keeps fun x => (goesOn x).keeps
  gives {c y c'} given := by
    obtain ⟨x, c₁, ran, given⟩ := bind_eq_ok.mp given
    have same := reads.keeps c
    rw [stateAfter_of_ok ran] at same
    rw [(goesOn x).gives given, same, reads.gives ran]
  answers {c} willing := by
    obtain ⟨x, c₁, ran, willing⟩ := reads.answers willing
    rw [bind_of_ok ran]
    exact (goesOn x).answers willing

/-- The state of a slot does not matter if all that may follow reads the same. -/
theorem slot_bind {index : Nat} {next : SlotState → PathM β} (reads : ∀ x, Reads (next x) g) :
    Reads (slot index >>= next) g where
  keeps c := (reads _).keeps c
  gives given := (reads _).gives given
  answers willing := (reads _).answers willing

end Reads

/-- Setting a slot reads no row. -/
theorem reads_setSlot (index : Fin pathCount) (state : SlotState) :
    Reads (setSlot index state) fun _ => () where
  keeps _ := rfl
  gives _ := rfl
  answers willing := ⟨_, _, rfl, willing⟩

/-- The row of a hop is read. -/
theorem reads_row (index : Fin pathCount) (hop : Fin pathLength) :
    Reads (onStore (StoreM.get? .onionPaths (hopKey index hop))) fun rows =>
      rows (hopCell index hop) where
  keeps c := by
    rw [stateAfter_onStore]
    exact funext (StoreM.get?_spec _ _ _).1
  gives given := by
    obtain ⟨s, got, rfl⟩ := onStore_eq_ok.mp given
    exact (StoreM.get?_spec _ _ _).2 _ s got
  answers {c} willing := by
    have got := StoreM.get?_eq .onionPaths (hopKey index hop) c.store
    rw [willing] at got
    exact ⟨_, _, onStore_eq_ok.mpr ⟨_, got, rfl⟩, willing⟩

/-- A hop is read from its row. -/
theorem reads_readHop (index : Fin pathCount) (hop : Fin pathLength) :
    Reads (readHop index hop) fun rows => hopAt? rows index hop :=
  (reads_row index hop).bind fun _ => .pure _

/-- A path is read from the rows of its hops. -/
theorem reads_readPath (index : Fin pathCount) :
    Reads (readPath index) fun rows => pathAt? rows index := by
  have reads := (reads_readHop index 0).bind fun first => (reads_readHop index 1).bind fun second =>
    (reads_readHop index 2).bind fun third => .pure (do
      let hops : Hops := #v[← first, ← second, ← third]
      some (Path.mk index hops))
  simp only [pathAt?_eq]
  exact reads

/-- A path that is asked for is read; that it is not there is noted in its slot. -/
theorem reads_check (index : Fin pathCount) :
    Reads (check index) fun rows => pathAt? rows index := by
  unfold check
  refine Reads.bind (g := fun path? _ => path?) (reads_readPath index) fun path? => ?_
  cases path? with
  | some path => exact .pure _
  | none =>
    refine .slot_bind fun state => ?_
    split
    · exact (reads_setSlot index .absent).bind fun _ => .pure _
    · exact .pure _

/-- **Asking for the paths** gives those in the rows, whatever the slots say of them. -/
theorem reads_paths : Reads paths pathsAt := by
  rw [show pathsAt = fun rows => both (pathAt? rows 0) (pathAt? rows 1) from funext pathsAt_eq]
  unfold paths
  refine (reads_check 0).bind (g := fun first rows => both first (pathAt? rows 1))
    fun first => ?_
  refine (reads_check 1).bind (g := fun second _ => both first second) fun second => ?_
  -- the slots are set only where both paths are there, and no row depends on them
  cases first with
  | none => exact .pure _
  | some first =>
    cases second with
    | none => exact .pure _
    | some second =>
      exact (reads_setSlot 0 .populated).bind fun _ => (reads_setSlot 1 .populated).bind fun _ =>
        .pure _

/-- A store that refuses no read gives the paths in its rows. -/
theorem paths_of_answers (willing : c.store.Answers) :
    ∃ c', paths c = .ok (pathsAt c.store.row?) c' := by
  obtain ⟨ps, c', ran, -⟩ := reads_paths.answers willing
  exact ⟨c', reads_paths.gives ran ▸ ran⟩

/-! ### Dropping -/

/-- The action puts no row: all that there are afterwards were there before. -/
def Drops (action : PathM α) : Prop :=
  ∀ c cell bytes, (stateAfter action c).store.row? cell = some bytes →
    c.store.row? cell = some bytes

namespace Drops

/-- Two actions that put no row put none one after the other. -/
theorem bind {first : PathM α} {next : α → PathM β} (drops : Drops first)
    (goesOn : ∀ x, Drops (next x)) : Drops (first >>= next) := fun c =>
  stateAfter_bind (R := fun (c c' : PathCache) => ∀ cell bytes,
      c'.store.row? cell = some bytes → c.store.row? cell = some bytes)
    (fun first second cell bytes row => first cell bytes (second cell bytes row)) (drops c) goesOn

/-- Nor do any number of them. -/
theorem forM {γ : Type} {f : γ → PathM Unit} (items : List γ) (drops : ∀ item, Drops (f item)) :
    Drops (items.forM f) := by
  induction items with
  | nil => exact fun _ _ _ => id
  | cons item items ih => exact (drops item).bind fun _ => ih

end Drops

/-- Reading puts no row. -/
theorem Reads.drops {action : PathM α} {f : (Cell → Option Bytes) → α} (reads : Reads action f) :
    Drops action := fun c cell bytes row => by
  rwa [reads.keeps] at row

/-- Deleting puts no row. -/
theorem drops_delete (table : Table) (key : String) :
    Drops (onStore (StoreM.delete table key)) := fun c cell bytes row => by
  rw [stateAfter_onStore] at row
  rcases StoreM.delete_spec table key c.store cell with kept | ⟨-, gone⟩
  · exact kept.symm.trans row
  · cases gone.symm.trans row

/-- Dropping a path puts no row. -/
theorem drops_invalidate (index : Nat) : Drops (invalidate index) := by
  unfold invalidate
  split
  · exact (reads_setSlot _ _).drops.bind fun _ =>
      (Drops.forM _ fun _ => drops_delete _ _).bind fun _ => (reads_setSlot _ _).drops
  · exact fun _ _ _ => id

/-- Dropping both paths puts no row. -/
theorem drops_clear : Drops clear :=
  (drops_invalidate 0).bind fun _ => drops_invalidate 1

/-- A store that refuses nothing deletes rows one after the other. -/
theorem forM_delete_of_works {γ : Type} (table : Table) (key : γ → String) (items : List γ)
    (works : c.store.Works) :
    ∃ c', (items.forM fun item => onStore (StoreM.delete table (key item))) c = .ok () c' ∧
      c'.store.fault = c.store.fault ∧
      ∀ cell, c'.store.row? cell =
        if cell ∈ items.map fun item => ⟨table, key item⟩ then none else c.store.row? cell := by
  -- the rows of the rest are gone after the first row is, so one `if` tells of all
  induction items generalizing c with
  | nil => exact ⟨c, rfl, rfl, fun cell => (if_neg List.not_mem_nil).symm⟩
  | cons item items ih =>
    have deleted := StoreM.delete_eq table (key item) c.store
    rw [works] at deleted
    obtain ⟨c', ran, fault, rows⟩ := ih (c := { c with
      store := (c.store.noted (.delete ⟨table, key item⟩)).erase ⟨table, key item⟩ }) works
    refine ⟨c', ?_, fault, fun cell => ?_⟩
    · exact (bind_of_ok (onStore_eq_ok.mpr ⟨_, deleted, rfl⟩)).trans ran
    · rw [rows, Store.row?_erase, List.map_cons, Store.row?_noted]
      by_cases first : cell = ⟨table, key item⟩
      · simp [first]
      · simp [first]

/-- The places of a path are those of its hops. -/
theorem mem_pathCells {index : Fin pathCount} {cell : Cell} :
    (cell ∈ (List.range pathLength).map fun hop => ⟨.onionPaths, hopKey index hop⟩) ↔
      ∃ hop : Fin pathLength, cell = hopCell index hop := by
  rw [List.mem_map]
  constructor
  · rintro ⟨hop, mem, rfl⟩
    exact ⟨⟨hop, List.mem_range.mp mem⟩, rfl⟩
  · rintro ⟨hop, rfl⟩
    exact ⟨hop.val, List.mem_range.mpr hop.isLt, rfl⟩

/-- **Dropping a path** takes away the rows of its hops and no other. -/
theorem invalidate_of_works (works : c.store.Works) (index : Fin pathCount) :
    ∃ c', invalidate index.val c = .ok () c' ∧ c'.store.fault = c.store.fault ∧
      (∀ hop, c'.store.row? (hopCell index hop) = none) ∧
      ∀ cell, (∀ hop, cell ≠ hopCell index hop) → c'.store.row? cell = c.store.row? cell := by
  obtain ⟨c', ran, fault, rows⟩ := forM_delete_of_works (c := stateAfter
    (setSlot index .invalidated) c) .onionPaths (hopKey index) (List.range pathLength) works
  refine ⟨stateAfter (setSlot index .absent) c', ?_, fault, fun hop => ?_, fun cell apart => ?_⟩
  · unfold invalidate
    rw [dif_pos index.isLt]
    exact (bind_of_ok ran).trans rfl
  · exact (rows _).trans (if_pos (mem_pathCells.mpr ⟨hop, rfl⟩))
  · refine (rows _).trans (if_neg fun mem => ?_)
    obtain ⟨hop, same⟩ := mem_pathCells.mp mem
    exact apart hop same

/-! ### Storing -/

/-- The action puts these rows in turn. If the store takes them all it gives `x`, and if the store
refuses one it fails there. -/
def Puts (action : PathM α) (rows : List (Cell × Bytes)) (x : α) : Prop :=
  ∀ c, (∃ c', action c = .ok x c' ∧ c.store.putRows rows = (rows.length, c'.store)) ∨
    ∃ error count c', action c = .error error c' ∧ count < rows.length ∧
      c.store.putRows rows = (count, c'.store)

namespace Puts

variable {rows rest : List (Cell × Bytes)} {x : α} {y : β}

theorem pure (x : α) : Puts (Pure.pure x) [] x := fun c => .inl ⟨c, rfl, rfl⟩

/-- The rows of the second action come after those of the first, which may be cut short. -/
theorem bind {first : PathM α} {next : α → PathM β} (puts : Puts first rows x)
    (goesOn : Puts (next x) rest y) : Puts (first >>= next) (rows ++ rest) y := by
  intro c
  rcases puts c with ⟨c₁, ran, put⟩ | ⟨error, count, c₁, ran, short, put⟩
  · rw [bind_of_ok ran, Store.putRows_append, put, if_pos rfl, List.length_append]
    rcases goesOn c₁ with ⟨c₂, ran, put⟩ | ⟨error, count, c₂, ran, short, put⟩
    · exact .inl ⟨c₂, ran, by rw [put]⟩
    · exact .inr ⟨error, _, c₂, ran, Nat.add_lt_add_left short _, by rw [put]⟩
  · rw [bind_of_error ran, Store.putRows_append, put, if_neg (Nat.ne_of_lt short),
      List.length_append]
    exact .inr ⟨error, count, c₁, rfl, Nat.lt_add_right _ short, rfl⟩

/-- Rows that are put for each item come item by item. -/
theorem forM {γ : Type} {f : γ → PathM Unit} {rows : γ → List (Cell × Bytes)} (items : List γ)
    (puts : ∀ item, Puts (f item) (rows item) ()) :
    Puts (items.forM f) (items.flatMap rows) () := by
  induction items with
  | nil => exact .pure ()
  | cons item items ih => exact (puts item).bind ih

/-- Slots are no rows. -/
theorem setSlot_bind {index : Fin pathCount} {state : SlotState} {next : Unit → PathM β}
    (puts : Puts (next ()) rows y) : Puts (setSlot index state >>= next) rows y := fun _ =>
  puts _

/-- One row is put. -/
theorem row (cell : Cell) (bytes : Bytes) :
    Puts (onStore (StoreM.put cell.table cell.key bytes)) [(cell, bytes)] () := by
  intro c
  have stored := StoreM.put_eq cell.table cell.key c.store bytes
  unfold onStore
  cases fault : c.store.fault c.store.past (.write cell) with
  | none =>
    rw [fault] at stored
    rw [stored, Store.putRows_cons_of_accepted _ _ _ _ fault]
    exact .inl ⟨_, rfl, rfl⟩
  | some text =>
    rw [fault] at stored
    rw [stored, Store.putRows_cons_of_refused _ _ _ _ fault]
    exact .inr ⟨_, 0, _, rfl, Nat.zero_lt_one, rfl⟩

end Puts

/-- Storing a path puts the rows of its hops. -/
theorem puts_writePath (path : Path) : Puts (writePath path) (pathRows path) () := by
  have hops : Puts ((List.finRange pathLength).forM fun hop =>
      onStore (StoreM.put .onionPaths (hopKey path.index hop.val)
        (Bytes.utf8 (path.hops.get hop).text))) (pathRows path) () :=
    .forM _ fun hop => .row (hopCell path.index hop) _
  -- the error is kept until the slot is set and raised again, so the rows before it stay
  refine .setSlot_bind fun c => ?_
  rcases hops c with ⟨c', ran, put⟩ | ⟨error, count, c', ran, short, put⟩
  · exact .inl ⟨_, bind_of_ok (attempt_of_ok ran), put⟩
  · exact .inr ⟨error, count, _, bind_of_ok (attempt_of_error ran), short, put⟩

/-- Storing two paths, each of distinct nodes, puts the rows of one after those of the other. -/
theorem puts_setPaths {first second : Hops} (distinct : first.toList.Nodup ∧ second.toList.Nodup) :
    Puts (setPaths [first, second]) ([⟨0, first⟩, ⟨1, second⟩].flatMap pathRows)
      [⟨0, first⟩, ⟨1, second⟩] := by
  unfold setPaths
  dsimp only
  rw [if_pos distinct]
  have puts := Puts.forM [⟨0, first⟩, ⟨1, second⟩] puts_writePath
  exact puts.bind (.pure _)

/-! ### Other tables -/

/-- The action leaves the rows of other tables alone, and what the store refuses. -/
structure Stays (action : PathM α) : Prop where
  fault : ∀ c, (stateAfter action c).store.fault = c.store.fault
  rows : ∀ c cell, cell.table ≠ .onionPaths →
    (stateAfter action c).store.row? cell = c.store.row? cell

namespace Stays

/-- Two actions that stay within the hops do so one after the other. -/
theorem bind {first : PathM α} {next : α → PathM β} (stays : Stays first)
    (goesOn : ∀ x, Stays (next x)) : Stays (first >>= next) where
  fault c := stateAfter_bind (R := fun (c c' : PathCache) => c'.store.fault = c.store.fault)
    (fun first second => second.trans first) (stays.fault c) fun x => (goesOn x).fault
  rows c := by
    have trans {a b d : PathCache}
        (first : ∀ cell : Cell, cell.table ≠ .onionPaths → b.store.row? cell = a.store.row? cell)
        (second : ∀ cell : Cell, cell.table ≠ .onionPaths → d.store.row? cell = b.store.row? cell)
        (cell : Cell) (other : cell.table ≠ .onionPaths) :
        d.store.row? cell = a.store.row? cell :=
      (second cell other).trans (first cell other)
    exact stateAfter_bind (R := fun (c c' : PathCache) => ∀ cell : Cell, cell.table ≠ .onionPaths →
      c'.store.row? cell = c.store.row? cell) trans (stays.rows c) fun x => (goesOn x).rows

theorem pure (x : α) : Stays (Pure.pure x) :=
  ⟨fun _ => rfl, fun _ _ _ => rfl⟩

theorem throw (error : Error) : Stays (MonadExcept.throw error : PathM α) :=
  ⟨fun _ => rfl, fun _ _ _ => rfl⟩

/-- Any number of actions that stay within the hops do so too. -/
theorem forM {γ : Type} {f : γ → PathM Unit} (items : List γ) (stays : ∀ item, Stays (f item)) :
    Stays (items.forM f) := by
  induction items with
  | nil => exact .pure ()
  | cons item items ih => exact (stays item).bind fun _ => ih

theorem attempt {action : PathM α} (stays : Stays action) : Stays (attempt action) := by
  have same (c : PathCache) : stateAfter (PathM.attempt action) c = stateAfter action c := by
    unfold stateAfter PathM.attempt
    cases action c <;> rfl
  exact ⟨fun c => same c ▸ stays.fault c, fun c => same c ▸ stays.rows c⟩

/-- What is done to the store stays within the hops if it does so there. -/
theorem onStore {action : StoreM α} (fault : ∀ s, (stateAfter action s).fault = s.fault)
    (rows : ∀ s cell, cell.table ≠ .onionPaths → (stateAfter action s).row? cell = s.row? cell) :
    Stays (onStore action) where
  fault c := by
    rw [stateAfter_onStore]
    exact fault c.store
  rows c := by
    rw [stateAfter_onStore]
    exact rows c.store

end Stays

/-- Slots are no rows. -/
theorem stays_setSlot (index : Fin pathCount) (state : SlotState) : Stays (setSlot index state) :=
  ⟨fun _ => rfl, fun _ _ _ => rfl⟩

theorem stays_slot (index : Nat) : Stays (slot index) :=
  ⟨fun _ => rfl, fun _ _ _ => rfl⟩

theorem stays_endRebuild : Stays endRebuild :=
  ⟨fun _ => rfl, fun _ _ _ => rfl⟩

/-- Reading a hop changes no row. -/
theorem stays_readHop (index : Fin pathCount) (hop : Nat) : Stays (readHop index hop) := by
  refine .bind (.onStore (StoreM.fault_get? _ _) fun s cell _ => ?_) fun _ => .pure _
  exact (StoreM.get?_spec _ _ s).1 cell

/-- Reading a path changes no row. -/
theorem stays_readPath (index : Fin pathCount) : Stays (readPath index) :=
  (stays_readHop index 0).bind fun _ => (stays_readHop index 1).bind fun _ =>
    (stays_readHop index 2).bind fun _ => .pure _

/-- Asking for one path changes no row. -/
theorem stays_check (index : Fin pathCount) : Stays (check index) := by
  refine (stays_readPath index).bind fun path? => ?_
  cases path? with
  | some path => exact .pure _
  | none =>
    refine (stays_slot index).bind fun state => ?_
    split
    · exact (stays_setSlot index .absent).bind fun _ => .pure _
    · exact .pure _

/-- Asking for both paths changes no row. -/
theorem stays_paths : Stays paths := by
  refine (stays_check 0).bind fun first => (stays_check 1).bind fun second => ?_
  cases first with
  | none => exact .pure _
  | some first =>
    cases second with
    | none => exact .pure _
    | some second =>
      exact (stays_setSlot 0 .populated).bind fun _ => (stays_setSlot 1 .populated).bind fun _ =>
        .pure _

/-- Storing a path puts rows of hops only. -/
theorem stays_writePath (path : Path) : Stays (writePath path) := by
  refine (stays_setSlot _ _).bind fun _ => ?_
  refine .bind (.attempt (.forM _ fun hop => ?_)) fun written => ?_
  · refine .onStore (fun s => StoreM.fault_put _ _ s _) fun s cell other => ?_
    refine StoreM.row?_put_of_ne _ _ _ _ fun same => ?_
    rw [same] at other
    exact other rfl
  · cases written with
    | ok _ => exact stays_setSlot _ _
    | error error => exact (stays_setSlot _ _).bind fun _ => .throw error

/-- Storing two paths puts rows of hops only, if any. -/
theorem stays_setPaths (hops : List Hops) : Stays (setPaths hops) := by
  unfold setPaths
  split
  · split
    · exact (Stays.forM _ stays_writePath).bind fun _ => .pure _
    · exact .throw _
  · exact .throw _

/-- Building paths puts rows of hops only. -/
theorem stays_rebuild (shuffle : Shuffle) (pool : NodeSet) : Stays (rebuild shuffle pool) := by
  unfold rebuild
  split
  · exact stays_setPaths _
  · exact .throw _

/-- Dropping a path takes rows of hops away. -/
theorem stays_invalidate (index : Nat) : Stays (invalidate index) := by
  unfold invalidate
  split
  · refine (stays_setSlot _ _).bind fun _ => .bind (.forM _ fun hop => ?_) fun _ => stays_setSlot _ _
    refine .onStore (StoreM.fault_delete _ _) fun s cell other => ?_
    refine (StoreM.delete_spec _ _ s cell).resolve_right fun gone => ?_
    rw [gone.1] at other
    exact other rfl
  · exact .throw _

/-- Dropping both paths takes rows of hops away. -/
theorem stays_clear : Stays clear :=
  (stays_invalidate 0).bind fun _ => stays_invalidate 1

/-- A rebuild begins unless one is going on. -/
theorem beginRebuild_eq (c : PathCache) :
    beginRebuild c =
      if c.rebuilding then .ok false c else .ok true { c with rebuilding := true } := by
  obtain ⟨store, slots, rebuilding⟩ := c
  cases rebuilding <;> rfl

/-- That a rebuild begins is no row. -/
theorem stays_beginRebuild : Stays beginRebuild where
  fault c := by
    rw [stateAfter, beginRebuild_eq]
    cases c.rebuilding <;> rfl
  rows c cell _ := by
    rw [stateAfter, beginRebuild_eq]
    cases c.rebuilding <;> rfl

/-- **Asking for paths** changes rows of hops at most, also where the paths are built. -/
theorem stays_pathsOrRebuild (shuffle : Shuffle) : Stays (pathsOrRebuild shuffle) := by
  refine stays_paths.bind fun found => ?_
  -- the paths are complete, or they are built if no other rebuild is going on
  cases found with
  | cons path rest => exact .pure _
  | nil =>
    refine stays_beginRebuild.bind fun began => ?_
    cases began with
    | false => exact .throw _
    | true =>
      have pool : Stays (onStore Pool.get) :=
        .onStore Pool.fault_get fun s cell _ => congrFun (Pool.row?_stateAfter_get s) cell
      refine .bind (.attempt (pool.bind fun pool => stays_rebuild shuffle pool)) fun built => ?_
      refine stays_endRebuild.bind fun _ => ?_
      cases built with
      | ok paths => exact .pure _
      | error error => exact .throw error

end PathM

end Routing

end ConfigReplica
