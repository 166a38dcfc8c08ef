import ConfigReplica.Proofs.Routing.HopRows

/-!
# Builds of paths

A build stores two paths row by row. If the store refuses a row the build is cut short: the rows
before it are new, and those after it are what earlier builds left there. Asking for the paths has
no regard for that, as it only looks whether all rows are there.

`Run` follows the operations on paths from a store without rows of hops, whichever steps the store
refuses, and keeps the history of the builds with the number of rows that the store took from each.
Each row then holds a hop of the latest build that wrote it (`Run.row_of_latest`), and each hop of a
path that is given comes from that build (`whole_unless_cut_short`). Hence a path is one that a
single build chose, unless the latest build that began it was cut short within it. Then it goes on
with the hops of an older build, and a node can come twice (`spliced_path`).
-/

namespace ConfigReplica.Routing

/-- Two paths that were to be stored, and how many of their rows the store took. -/
structure Build where
  first : Hops
  second : Hops
  distinct : first.toList.Nodup ∧ second.toList.Nodup
  written : Nat

namespace Build

/-- The hops for a slot. -/
def hops (build : Build) : Fin pathCount → Hops
  | 0 => build.first
  | 1 => build.second

/-- Both paths in their slots. -/
def paths (build : Build) : List Path :=
  (List.finRange pathCount).map fun index => ⟨index, build.hops index⟩

/-- Whether the store took the row of a hop; the rows go path by path, the nearest hop first. -/
def wrote (build : Build) (index : Fin pathCount) (hop : Fin pathLength) : Bool :=
  pathLength * index.val + hop.val < build.written

/-- All nodes have texts that read back. -/
def Readable (build : Build) : Prop :=
  ∀ index : Fin pathCount, ∀ hop : Fin pathLength, ((build.hops index).get hop).Readable

/-- The build that storing these hops makes; it makes none if they are refused. -/
def of? (hops : List Hops) (s : Store) : Option Build :=
  match hops with
  | [first, second] =>
    if distinct : first.toList.Nodup ∧ second.toList.Nodup then
      let build : Build := { first, second, distinct, written := 0 }
      some { build with written := (s.putRows (build.paths.flatMap pathRows)).1 }
    else none
  | _ => none

/-- The build that choosing hops from a pool makes. -/
def ofPool? (shuffle : Shuffle) (pool : NodeSet) (s : Store) : Option Build := do
  let (first, second) ← hopsOf? (shuffle.apply pool.toList)
  of? [first, second] s

/-- The build that choosing hops from the stored pool makes. -/
def ofStore? (shuffle : Shuffle) (s : Store) : Option Build :=
  match Pool.get s with
  | .ok pool s' => ofPool? shuffle pool s'
  | .error _ _ => none

/-- The build that asking for paths makes, if there are none and no other build is going on. -/
def ofCache? (shuffle : Shuffle) (c : PathCache) : Option Build :=
  match PathM.paths c with
  | .ok [] c' => if c'.rebuilding then none else ofStore? shuffle c'.store
  | _ => none

variable (build : Build)

/-- The hops of a path that a build stores are those for its slot. -/
theorem hops_of_mem {build : Build} {p : Path} (mem : p ∈ build.paths) :
    build.hops p.index = p.hops := by
  rcases List.mem_cons.mp mem with rfl | mem
  · rfl
  · cases List.mem_singleton.mp mem
    rfl

/-- A build stores the hops that it was given, as far as the store takes them. -/
theorem given_of? {build : Build} {hops : List Hops} {s : Store} (made : of? hops s = some build) :
    hops = [build.first, build.second] ∧
      build.written = (s.putRows (build.paths.flatMap pathRows)).1 := by
  unfold of? at made
  split at made
  · split at made
    · cases made
      exact ⟨rfl, rfl⟩
    · cases made
  · cases made

/-- A build of hops that read back is one of nodes that read back. -/
theorem readable_of? {build : Build} {hops : List Hops} {s : Store} (made : build ∈ of? hops s)
    (readable : ∀ path ∈ hops, ∀ node ∈ path.toList, node.Readable) : build.Readable := by
  have given := (given_of? (Option.mem_def.mp made)).1
  intro index hop
  refine readable (build.hops index) ?_ _ (Vector.mem_toList_iff.mpr (Vector.getElem_mem hop.isLt))
  rw [given]
  match index with
  | 0 => exact .head _
  | 1 => exact .tail _ (.head _)

/-- No node is twice on a path of a build. -/
theorem nodup_hops (index : Fin pathCount) : (build.hops index).toList.Nodup :=
  match index with
  | 0 => build.distinct.1
  | 1 => build.distinct.2

/-- No row is put twice by one build. -/
theorem nodup_cells : ((build.paths.flatMap pathRows).map Prod.fst).Nodup := by
  have cells : (build.paths.flatMap pathRows).map Prod.fst =
      (List.finRange pathCount).flatMap fun index =>
        (List.finRange pathLength).map (hopCell index) := rfl
  rw [cells]
  decide +kernel

/-- Where the row of a hop stands among those of a build. -/
theorem getElem?_rows (index : Fin pathCount) (hop : Fin pathLength) :
    (build.paths.flatMap pathRows)[pathLength * index.val + hop.val]? =
      some (hopCell index hop, Bytes.utf8 ((build.hops index).get hop).text) :=
  match index, hop with
  | 0, 0 | 0, 1 | 0, 2 | 1, 0 | 1, 1 | 1, 2 => rfl

/-- A hop is written only after those before it. -/
theorem wrote_of_le {index : Fin pathCount} {hop hop' : Fin pathLength} (le : hop ≤ hop')
    (wrote : build.wrote index hop') : build.wrote index hop := by
  simp only [Build.wrote, decide_eq_true_eq] at wrote ⊢
  have : hop.val ≤ hop'.val := le
  omega

/-- The rows of hops that the build wrote hold its hops, and all others are as before. -/
def Stored (c c' : PathCache) : Prop :=
  ∀ index hop, c'.store.row? (hopCell index hop) =
    if build.wrote index hop then some (Bytes.utf8 ((build.hops index).get hop).text)
    else c.store.row? (hopCell index hop)

/-- The rows that were put are those that the store took. -/
theorem stored_of_putRows {c c' : PathCache}
    (put : c.store.putRows (build.paths.flatMap pathRows) = (build.written, c'.store)) :
    build.Stored c c' := by
  intro index hop
  have row := Store.row?_putRows _ c.store build.nodup_cells (build.getElem?_rows index hop)
  rw [put] at row
  simp only [row, wrote, decide_eq_true_eq]

/-- Hops that are refused are not stored, and nothing changes. -/
theorem setPaths_of_refused {hops : List Hops} {s : Store} (refused : of? hops s = none)
    (c : PathCache) : ∃ error, PathM.setPaths hops c = .error error c := by
  match hops with
  | [first, second] =>
    -- two paths are refused only if a node is twice on one
    have bad : ¬ (first.toList.Nodup ∧ second.toList.Nodup) := fun distinct => by
      rw [of?, dif_pos distinct] at refused
      cases refused
    unfold PathM.setPaths
    dsimp only
    rw [if_neg bad]
    exact ⟨_, rfl⟩
  | [] | [_] | _ :: _ :: _ :: _ => exact ⟨_, rfl⟩

/-- Hops that make a build are stored as far as the store takes them, and given only if it takes
all. -/
theorem setPaths_of_made {hops : List Hops} {c : PathCache} (made : of? hops c.store = some build) :
    build.Stored c (stateAfter (PathM.setPaths hops) c) ∧
      ∀ ps c', PathM.setPaths hops c = .ok ps c' →
        ps = build.paths ∧ ∀ index hop, build.wrote index hop := by
  obtain ⟨rfl, counted⟩ := given_of? made
  have puts := PathM.puts_setPaths build.distinct c
  have slots : [⟨0, build.first⟩, ⟨1, build.second⟩] = build.paths := rfl
  rw [slots] at puts
  -- all rows were put, or one was refused and the paths are not given
  rcases puts with ⟨c', ran, put⟩ | ⟨error, count, c', ran, -, put⟩
  · rw [stateAfter_of_ok ran]
    rw [put] at counted
    refine ⟨build.stored_of_putRows (by rw [put, counted]), fun ps c'' given => ?_⟩
    cases ran.symm.trans given
    refine ⟨rfl, fun index hop => ?_⟩
    rw [wrote, counted]
    -- there are six rows
    have bound (index : Fin 2) (hop : Fin 3) : 3 * index.val + hop.val < 6 := by omega
    exact decide_eq_true (bound index hop)
  · rw [stateAfter_of_error ran]
    rw [put] at counted
    refine ⟨build.stored_of_putRows (by rw [put, counted]), fun ps c'' given => ?_⟩
    cases ran.symm.trans given

/-- **Storing two paths** over a store that works puts every hop of them into its row. -/
theorem setPaths_of_works {c : PathCache} (works : c.store.Works) {first second : Hops}
    (distinct : first.toList.Nodup ∧ second.toList.Nodup) :
    ∃ c', PathM.setPaths [first, second] c = .ok [⟨0, first⟩, ⟨1, second⟩] c' ∧ c'.store.Works ∧
      ∀ path ∈ [Path.mk 0 first, ⟨1, second⟩], ∀ hop,
        c'.store.row? (hopCell path.index hop) = some (Bytes.utf8 (path.hops.get hop).text) := by
  obtain ⟨all, fault⟩ := Store.putRows_of_works ([⟨0, first⟩, ⟨1, second⟩].flatMap pathRows) works
  rcases PathM.puts_setPaths distinct c with ⟨c', ran, put⟩ | ⟨error, count, c', -, short, put⟩
  · rw [put] at fault
    have made : of? [first, second] c.store = some ⟨first, second, distinct, _⟩ := dif_pos distinct
    obtain ⟨stored, given⟩ := setPaths_of_made _ made
    rw [stateAfter_of_ok ran] at stored
    obtain ⟨paths, wrote⟩ := given _ _ ran
    refine ⟨c', ran, works.of_fault fault, fun path mem hop => ?_⟩
    rw [stored, if_pos (wrote path.index hop)]
    rw [hops_of_mem (paths ▸ mem)]
  · -- no row is refused
    rw [put] at all
    exact absurd all (Nat.ne_of_lt short)

/-- Two paths are stored, and if the texts of their nodes read back the rows hold them. -/
theorem pathsAt_setPaths {c : PathCache} (works : c.store.Works) {first second : Hops}
    (distinct : first.toList.Nodup ∧ second.toList.Nodup)
    (readable : ∀ node ∈ first.toList ++ second.toList, node.Readable) :
    ∃ c', PathM.setPaths [first, second] c = .ok [⟨0, first⟩, ⟨1, second⟩] c' ∧ c'.store.Works ∧
      pathsAt c'.store.row? = [⟨0, first⟩, ⟨1, second⟩] := by
  obtain ⟨c', ran, works', rows⟩ := setPaths_of_works works distinct
  refine ⟨c', ran, works', pathsAt_eq_iff.mpr fun path mem hop => ?_⟩
  exact hopAt?_of_row (forall_hop_iff.mpr readable path mem hop) (rows path mem hop)

end Build

/-! ### Calls -/

/-- A call of one of the operations on paths. -/
inductive Call where
  | setPaths (hops : List Hops)
  | rebuild (shuffle : Shuffle) (pool : NodeSet)
  | invalidate (index : Nat)
  | clear
  | paths
  | pathsOrRebuild (shuffle : Shuffle)

namespace Call

/-- What a call does, and the paths it gives. -/
def action : Call → PathM (List Path)
  | setPaths hops => PathM.setPaths hops
  | rebuild shuffle pool => PathM.rebuild shuffle pool
  | invalidate index => PathM.invalidate index *> pure []
  | clear => PathM.clear *> pure []
  | paths => PathM.paths
  | pathsOrRebuild shuffle => PathM.pathsOrRebuild shuffle

/-- The build that a call makes, if it comes to one. -/
def build? : Call → PathCache → Option Build
  | setPaths hops, c => Build.of? hops c.store
  | rebuild shuffle pool, c => Build.ofPool? shuffle pool c.store
  | pathsOrRebuild shuffle, c => Build.ofCache? shuffle c
  | _, _ => none

end Call

/-- The action makes this build or none. A row of a hop that there is afterwards was written by the
build or was there before and the build did not come to it, and the paths that are given are those
in the rows. -/
structure Makes (build? : Option Build) (action : PathM (List Path)) (c : PathCache) : Prop where
  rows : ∀ {index hop bytes}, (stateAfter action c).store.row? (hopCell index hop) = some bytes →
    (∃ build ∈ build?, build.wrote index hop ∧
      bytes = Bytes.utf8 ((build.hops index).get hop).text) ∨
    (∀ build ∈ build?, ¬ build.wrote index hop) ∧ c.store.row? (hopCell index hop) = some bytes
  given : ∀ {ps c'}, action c = .ok ps c' → (∀ build ∈ build?, build.Readable) →
    ∀ p ∈ ps, ∀ hop, hopAt? c'.store.row? p.index hop = some (p.hops.get hop)

namespace Makes

open PathM

variable {build? : Option Build} {c : PathCache}

/-- An action that puts no row of a hop makes no build. -/
theorem nothing {action : PathM (List Path)}
    (rows : ∀ {index hop bytes}, (stateAfter action c).store.row? (hopCell index hop) = some bytes →
      c.store.row? (hopCell index hop) = some bytes)
    (given : ∀ {ps c'}, action c = .ok ps c' →
      ∀ p ∈ ps, ∀ hop, hopAt? c'.store.row? p.index hop = some (p.hops.get hop)) :
    Makes none action c where
  rows row := .inr ⟨fun _ made => (Option.not_mem_none _ made).elim, rows row⟩
  given ran _ := given ran

/-- An action that fails without a change makes no build. -/
theorem failed {action : PathM (List Path)} {error : Error} {c' : PathCache}
    (ran : action c = .error error c') (same : c'.store.row? = c.store.row?) :
    Makes none action c := by
  refine nothing (fun row => ?_) fun given => ?_
  · rwa [stateAfter_of_error ran, same] at row
  · cases ran.symm.trans given

/-- An action that only takes rows away and gives no path makes no build. -/
theorem of_drops {action : PathM (List Path)} (drops : Drops action)
    (empty : ∀ {ps c'}, action c = .ok ps c' → ps = []) : Makes none action c :=
  nothing (drops c _ _) fun ran p mem => by
    rw [empty ran] at mem
    cases mem

/-- Asking for the paths makes no build. -/
theorem of_reads {action : PathM (List Path)} (reads : Reads action pathsAt) :
    Makes none action c := by
  refine nothing (reads.drops c _ _) fun ran p mem hop => ?_
  have same := reads.keeps c
  rw [stateAfter_of_ok ran] at same
  rw [reads.gives ran] at mem
  rw [same]
  exact hopAt?_of_mem mem hop

/-- Storing paths makes the build of their hops. -/
theorem setPaths (hops : List Hops) (c : PathCache) :
    Makes (Build.of? hops c.store) (setPaths hops) c := by
  cases made : Build.of? hops c.store with
  | none =>
    obtain ⟨error, ran⟩ := Build.setPaths_of_refused made c
    exact failed ran rfl
  | some build =>
    obtain ⟨stored, given⟩ := Build.setPaths_of_made build made
    refine ⟨fun {index hop bytes} row => ?_, fun {ps c'} ran readable p mem hop => ?_⟩
    · -- a row is the build's as far as it came, and an earlier one beyond that
      rw [stored] at row
      split at row
      · rename_i wrote
        exact .inl ⟨build, rfl, wrote, (Option.some.inj row).symm⟩
      · rename_i passed
        refine .inr ⟨?_, row⟩
        rintro _ ⟨⟩
        exact passed
    · -- the paths are given only if all their rows were written
      obtain ⟨rfl, wrote⟩ := given ps c' ran
      rw [stateAfter_of_ok ran] at stored
      have row := (stored p.index hop).trans (if_pos (wrote p.index hop))
      have reads := readable build rfl p.index hop
      rw [Build.hops_of_mem mem] at row reads
      exact hopAt?_of_row reads row

/-- Building paths from a pool makes the build that is chosen from it. -/
theorem rebuild (shuffle : Shuffle) (pool : NodeSet) (c : PathCache) :
    Makes (Build.ofPool? shuffle pool c.store) (rebuild shuffle pool) c := by
  unfold Build.ofPool? PathM.rebuild
  cases hopsOf? (shuffle.apply pool.toList) with
  | none => exact failed rfl rfl
  | some hops => exact .setPaths [hops.1, hops.2] c

/-- Before an action, rows may be read. -/
theorem bind {α : Type} {first : PathM α} {next : α → PathM (List Path)}
    (keeps : (stateAfter first c).store.row? = c.store.row?)
    (goesOn : ∀ {x c'}, first c = .ok x c' → Makes build? (next x) c')
    (unreached : ∀ {error c'}, first c = .error error c' → build? = none) :
    Makes build? (first >>= next) c := by
  cases ran : first c with
  | error error c' =>
    rw [stateAfter_of_error ran] at keeps
    rw [unreached ran]
    exact failed (bind_of_error ran) keeps
  | ok x c' =>
    rw [stateAfter_of_ok ran] at keeps
    refine ⟨fun row => ?_, fun given => ?_⟩
    · rw [stateAfter_bind_of_ok ran] at row
      rw [← keeps]
      exact (goesOn ran).rows row
    · rw [bind_of_ok ran] at given
      exact (goesOn ran).given given

/-- A rebuild ends whether it fails or not. -/
theorem ended {action : PathM (List Path)} (makes : Makes build? action c) :
    Makes build? (do
      let built ← attempt action
      endRebuild
      match built with
      | .ok paths => pure paths
      | .error error => throw error) c := by
  -- that the rebuild is over changes no row, and what it came to is passed on
  cases ran : action c with
  | ok ps c' =>
    have attempted := attempt_of_ok ran
    have given := makes.given ran
    refine ⟨fun row => makes.rows ?_, fun {_ _} whole => ?_⟩
    · rw [stateAfter_of_ok ran]
      rwa [stateAfter_bind_of_ok attempted] at row
    · rw [bind_of_ok attempted] at whole
      cases whole
      exact given
  | error error c' =>
    have attempted := attempt_of_error ran
    refine ⟨fun row => makes.rows ?_, fun {_ _} whole => ?_⟩
    · rw [stateAfter_of_error ran]
      rwa [stateAfter_bind_of_ok attempted] at row
    · rw [bind_of_ok attempted] at whole
      cases whole

/-- Building paths from the stored pool makes the build that is chosen from it. -/
theorem rebuild_stored (shuffle : Shuffle) (c : PathCache) :
    Makes (Build.ofStore? shuffle c.store) (do
      let pool ← onStore Pool.get
      PathM.rebuild shuffle pool) c := by
  unfold Build.ofStore?
  refine bind ?_ (fun {pool c'} got => ?_) fun {error c'} failed => ?_
  · rw [stateAfter_onStore]
    exact Pool.row?_stateAfter_get c.store
  · obtain ⟨s, read, rfl⟩ := onStore_eq_ok.mp got
    rw [read]
    exact rebuild shuffle pool { c with store := s }
  · unfold onStore at failed
    cases read : Pool.get c.store with
    | ok pool s =>
      rw [read] at failed
      cases failed
    | error error s => rfl

/-- Asking for paths makes the build that is needed where there are none. -/
theorem pathsOrRebuild (shuffle : Shuffle) (c : PathCache) :
    Makes (Build.ofCache? shuffle c) (pathsOrRebuild shuffle) c := by
  unfold PathM.pathsOrRebuild
  refine bind (reads_paths.keeps c) (fun {ps c'} found => ?_) fun failed => by
    rw [Build.ofCache?, failed]
  unfold Build.ofCache?
  rw [found]
  cases ps with
  | cons p ps =>
    -- the paths that were found are still in the rows
    have keeps := reads_paths.keeps c
    rw [stateAfter_of_ok found] at keeps
    refine nothing id fun given q mem hop => ?_
    cases given
    rw [reads_paths.gives found, ← keeps] at mem
    exact hopAt?_of_mem mem hop
  | nil =>
    dsimp only
    -- a rebuild that is going on already ends the call, and otherwise this one begins
    have began := beginRebuild_eq c'
    cases rebuilding : c'.rebuilding with
    | true =>
      rw [rebuilding, if_pos rfl] at began
      exact failed (bind_of_ok began) rfl
    | false =>
      rw [rebuilding, if_neg Bool.false_ne_true] at began
      rw [if_neg Bool.false_ne_true]
      refine bind (by rw [stateAfter_of_ok began]) (fun {x c''} ran => ?_) fun failed => ?_
      · cases began.symm.trans ran
        exact ended (rebuild_stored shuffle { c' with rebuilding := true })
      · cases began.symm.trans failed

/-- Dropping paths makes no build and gives no path. -/
theorem of_unit {action : PathM Unit} (drops : Drops action) :
    Makes none (action *> pure []) c := by
  refine of_drops (drops.bind fun _ => (Reads.pure _).drops) fun {ps c'} given => ?_
  obtain ⟨_, _, -, given⟩ := bind_eq_ok.mp given
  cases given
  rfl

/-- **Every call** makes its build. -/
theorem call (call : Call) (c : PathCache) : Makes (call.build? c) call.action c := by
  cases call with
  | setPaths hops => exact .setPaths hops c
  | rebuild shuffle pool => exact .rebuild shuffle pool c
  | invalidate index => exact .of_unit (drops_invalidate index)
  | clear => exact .of_unit drops_clear
  | paths => exact .of_reads reads_paths
  | pathsOrRebuild shuffle => exact .pathsOrRebuild shuffle c

end Makes

/-! ### Runs -/

/-- What a run of calls makes of a store without rows of hops, with the builds that it came to, the
latest first. What is done elsewhere leaves the rows of hops alone. -/
inductive Run : List Build → PathCache → Prop
  | start {c : PathCache} (empty : ∀ index hop, c.store.row? (hopCell index hop) = none) : Run [] c
  | call {history : List Build} {c : PathCache} (past : Run history c) (call : Call)
      (readable : ∀ build ∈ call.build? c, build.Readable) :
      Run ((call.build? c).toList ++ history) (stateAfter call.action c)
  | elsewhere {history : List Build} {c c' : PathCache} (past : Run history c)
      (same : ∀ index hop, c'.store.row? (hopCell index hop) = c.store.row? (hopCell index hop)) :
      Run history c'

/-- The latest build that wrote a hop. -/
def latest? (history : List Build) (index : Fin pathCount) (hop : Fin pathLength) : Option Build :=
  history.find? (·.wrote index hop)

section Latest

variable {history : List Build} {c : PathCache} {index : Fin pathCount} {hop : Fin pathLength}
  {build : Build}

/-- The latest build that began a path is the latest that wrote any hop of it that it came to. -/
theorem latest?_of_wrote (latest : latest? history index 0 = some build)
    (wrote : build.wrote index hop) : latest? history index hop = some build := by
  obtain ⟨-, before, after, split, none⟩ := List.find?_eq_some_iff_append.mp latest
  -- a newer build that wrote the hop would have written the first hop before it
  refine List.find?_eq_some_iff_append.mpr ⟨wrote, before, after, split, fun newer mem => ?_⟩
  have passed := none newer mem
  rw [Bool.not_eq_true'] at passed ⊢
  exact Bool.eq_false_iff.mpr fun wrote =>
    Bool.false_ne_true (passed.symm.trans (newer.wrote_of_le (Fin.zero_le hop) wrote))

namespace Run

/-- All builds of a run are of nodes that read back. -/
theorem readable (run : Run history c) : ∀ build ∈ history, build.Readable := by
  induction run with
  | start empty => exact nofun
  | call past call readable ih =>
    intro build mem
    rcases List.mem_append.mp mem with made | old
    · exact readable build (Option.mem_toList.mp made)
    · exact ih build old
  | elsewhere past same ih => exact ih

/-- **Every row of a hop** holds the hop of the latest build that wrote it. -/
theorem row_of_latest (run : Run history c) {bytes : Bytes}
    (row : c.store.row? (hopCell index hop) = some bytes) :
    ∃ build, latest? history index hop = some build ∧
      bytes = Bytes.utf8 ((build.hops index).get hop).text := by
  induction run with
  | start empty =>
    cases (empty index hop).symm.trans row
  | @call history c past call readable ih =>
    unfold latest?
    rw [List.find?_append]
    rcases (Makes.call call c).rows row with ⟨build, made, wrote, holds⟩ | ⟨passed, row⟩
    · -- the call's own build is the latest
      refine ⟨build, ?_, holds⟩
      rw [Option.mem_def.mp made, Option.toList_some, List.find?_singleton, if_pos wrote,
        Option.some_or]
    · -- the row is an earlier one, so the latest build that wrote it is too
      have none : (call.build? c).toList.find? (·.wrote index hop) = none :=
        List.find?_eq_none.mpr fun build made => passed build (Option.mem_toList.mp made)
      rw [none, Option.none_or]
      exact ih row
  | elsewhere past same ih =>
    rw [same] at row
    exact ih row

end Run

/-- **Paths are whole unless their build was cut short.** Each hop of a path that a call gives is
that of the latest build that wrote it. If the latest build that began the path wrote its last hop,
the path is the one that this build chose, and no node is twice on it. -/
theorem whole_unless_cut_short (run : Run history c) (call : Call)
    (readable : ∀ build ∈ call.build? c, build.Readable) {ps : List Path} {c' : PathCache}
    (gave : call.action c = .ok ps c') :
    ∀ p ∈ ps, ∃ begun, latest? ((call.build? c).toList ++ history) p.index 0 = some begun ∧
      (begun.wrote p.index 2 → p.hops = begun.hops p.index ∧ p.hops.toList.Nodup) ∧
      ∀ hop, ∃ build, latest? ((call.build? c).toList ++ history) p.index hop = some build ∧
        p.hops.get hop = (build.hops p.index).get hop := by
  intro p mem
  have run' := run.call call readable
  rw [stateAfter_of_ok gave] at run'
  -- what is given stands in the rows afterwards, and each row was written by the latest build
  have origin (hop : Fin pathLength) :
      ∃ build, latest? ((call.build? c).toList ++ history) p.index hop = some build ∧
        p.hops.get hop = (build.hops p.index).get hop := by
    have held := (Makes.call call c).given gave readable p mem hop
    obtain ⟨bytes, row⟩ := exists_row_of_hopAt? held
    obtain ⟨build, latest, rfl⟩ := run'.row_of_latest row
    have reads := run'.readable build (List.mem_of_find?_eq_some latest) p.index hop
    exact ⟨build, latest, Option.some.inj (held.symm.trans (hopAt?_of_row reads row))⟩
  obtain ⟨begun, latest, -⟩ := origin 0
  refine ⟨begun, latest, fun last => ?_, origin⟩
  have whole : p.hops = begun.hops p.index := by
    -- a build writes its hops in order, so it wrote them all if it wrote the last
    refine Vector.ext fun i bound => ?_
    have le : (⟨i, bound⟩ : Fin pathLength) ≤ 2 := Nat.le_of_lt_succ bound
    obtain ⟨build, latest', same⟩ := origin ⟨i, bound⟩
    cases (latest?_of_wrote latest (begun.wrote_of_le le last)).symm.trans latest'
    exact same
  exact ⟨whole, whole ▸ begun.nodup_hops p.index⟩

end Latest

/-! ### A build that is cut short

Two paths are stored, and then two others over a store that refuses the second row of these. -/

/-- A node whose keys repeat a digit. -/
def digitNode (digit : Char) : Node where
  address := "storage"
  port := 22021
  ed25519 := String.ofList (List.replicate 64 digit)
  x25519 := String.ofList (List.replicate 64 digit)

/-- Three such nodes. -/
def digitHops (a b c : Char) : Hops :=
  #v[digitNode a, digitNode b, digitNode c]

section Digits

variable {digit : Char} (known : digit = '1' ∨ digit = '2' ∨ digit = '3')
include known

/-- The keys of such a node pass as they are. -/
theorem checkKey_digits (name : String) :
    Node.checkKey name (String.ofList (List.replicate 64 digit)) =
      .ok (String.ofList (List.replicate 64 digit)) := by
  have lower : Text.lowerAscii digit = digit := by
    rcases known with rfl | rfl | rfl <;> rfl
  have decoded : ((Hex.decode (String.ofList (List.replicate 64 digit))).toOption.any
      (·.length = 32)) = true := by
    rcases known with rfl | rfl | rfl <;> decide +kernel
  unfold Node.checkKey
  cases bytes : Hex.decode (String.ofList (List.replicate 64 digit)) with
  | error fault =>
    rw [bytes] at decoded
    cases decoded
  | ok bytes' =>
    rw [bytes] at decoded
    rw [String.toList_ofList, List.map_replicate, lower]
    exact if_pos (of_decide_eq_true decoded)

/-- The text of such a node is cut into its parts. -/
theorem cut?_digits :
    Node.cut? (Text.trim ("storage-22021-".toList ++
        (List.replicate 64 digit ++ '-' :: List.replicate 64 digit))) =
      some ("storage".toList, "22021".toList, .replicate 64 digit, .replicate 64 digit) := by
  rcases known with rfl | rfl | rfl <;> decide +kernel

/-- The text of such a node reads back. -/
theorem readable_digitNode : (digitNode digit).Readable := by
  have port : Decimal.ofNat 22021 = "22021" := by decide +kernel
  have chars : (digitNode digit).text.toList = "storage-22021-".toList ++
      (List.replicate 64 digit ++ '-' :: List.replicate 64 digit) := by
    simp [Node.text, digitNode, port]
  have number : Node.parsePort "22021".toList = .ok 22021 := rfl
  unfold Node.Readable Node.parse
  rw [chars, cut?_digits known]
  dsimp only
  rw [number]
  dsimp only
  unfold Node.ofParts
  rw [checkKey_digits known, checkKey_digits known]
  rfl

end Digits

/-- A store without rows that gives all rows and refuses to write at the eighth step. -/
def refusesEighth : Store where
  fault past
    | .write _ => if past.length = 7 then some "disk full" else none
    | _ => none

/-- The paths that are stored. -/
def firstHops : List Hops :=
  [digitHops '1' '2' '3', digitHops '2' '3' '1']

/-- The paths that were to take their place. -/
def secondHops : List Hops :=
  [digitHops '3' '2' '1', digitHops '2' '3' '1']

/-- The builds of both calls, and what they make of the store. -/
def cutShort : List Build × PathCache :=
  let start : PathCache := { store := refusesEighth, slots := .replicate pathCount .absent }
  let between := stateAfter (Call.setPaths firstHops).action start
  (((Call.setPaths secondHops).build? between).toList ++
      (((Call.setPaths firstHops).build? start).toList ++ []),
    stateAfter (Call.setPaths secondHops).action between)

/-- The store with the build that was cut short answers. -/
theorem answers_cutShort : cutShort.2.store.Answers := by
  have same : cutShort.2.store.fault = refusesEighth.fault := rfl
  intro past cell
  rw [same]
  rfl

/-- The paths in its rows: the first is half of one build and half of another. -/
theorem pathsAt_cutShort : pathsAt cutShort.2.store.row? =
    [⟨0, digitHops '3' '2' '3'⟩, ⟨1, digitHops '2' '3' '1'⟩] := by
  have one := readable_digitNode (.inl rfl)
  have two := readable_digitNode (.inr (.inl rfl))
  have three := readable_digitNode (.inr (.inr rfl))
  have first : pathAt? cutShort.2.store.row? 0 = some ⟨0, digitHops '3' '2' '3'⟩ :=
    pathAt?_of_hops (hopAt?_of_row three rfl) (hopAt?_of_row two rfl) (hopAt?_of_row three rfl)
  have second : pathAt? cutShort.2.store.row? 1 = some ⟨1, digitHops '2' '3' '1'⟩ :=
    pathAt?_of_hops (hopAt?_of_row two rfl) (hopAt?_of_row three rfl) (hopAt?_of_row one rfl)
  rw [pathsAt_eq, first, second]
  rfl

/-- The texts of such hops read back. -/
theorem readable_digitHops {a b c : Char} (first : (digitNode a).Readable)
    (second : (digitNode b).Readable) (third : (digitNode c).Readable) :
    ∀ node ∈ (digitHops a b c).toList, node.Readable :=
  List.forall_mem_cons.mpr ⟨first, List.forall_mem_cons.mpr ⟨second,
    List.forall_mem_singleton.mpr third⟩⟩

/-- It is what the two calls come to. -/
theorem run_cutShort : Run cutShort.1 cutShort.2 := by
  have one := readable_digitNode (.inl rfl)
  have two := readable_digitNode (.inr (.inl rfl))
  have three := readable_digitNode (.inr (.inr rfl))
  have firstReads : ∀ path ∈ firstHops, ∀ node ∈ path.toList, node.Readable :=
    List.forall_mem_cons.mpr ⟨readable_digitHops one two three,
      List.forall_mem_singleton.mpr (readable_digitHops two three one)⟩
  have secondReads : ∀ path ∈ secondHops, ∀ node ∈ path.toList, node.Readable :=
    List.forall_mem_cons.mpr ⟨readable_digitHops three two one,
      List.forall_mem_singleton.mpr (readable_digitHops two three one)⟩
  refine ((Run.start ?_).call _ fun build made => ?_).call _ fun build made => ?_
  · decide +kernel
  · have made : build ∈ Build.of? firstHops _ := made
    exact Build.readable_of? made firstReads
  · have made : build ∈ Build.of? secondHops _ := made
    exact Build.readable_of? made secondReads

/-- **Paths over a build that was cut short**: the first goes on with hops of the build before. -/
theorem whole_unless_cut_short_spliced :
    ∃ ps c', Call.paths.action cutShort.2 = .ok ps c' ∧
      ps = [⟨0, digitHops '3' '2' '3'⟩, ⟨1, digitHops '2' '3' '1'⟩] ∧
      ∀ p ∈ ps, ∃ begun, latest? cutShort.1 p.index 0 = some begun ∧
        (begun.wrote p.index 2 → p.hops = begun.hops p.index ∧ p.hops.toList.Nodup) ∧
        ∀ hop, ∃ build, latest? cutShort.1 p.index hop = some build ∧
          p.hops.get hop = (build.hops p.index).get hop := by
  obtain ⟨c', ran⟩ := PathM.paths_of_answers answers_cutShort
  rw [pathsAt_cutShort] at ran
  exact ⟨_, c', ran, rfl, whole_unless_cut_short run_cutShort .paths
    (fun _ made => (Option.not_mem_none _ made).elim) ran⟩

/-- A path that is given goes back and forth between two nodes, and no build chose it. -/
theorem spliced_path : Run cutShort.1 cutShort.2 ∧
    ∃ ps c', PathM.paths cutShort.2 = .ok ps c' ∧ ∃ p ∈ ps, ¬ p.hops.toList.Nodup ∧
      ∀ build ∈ cutShort.1, ∀ index, p.hops ≠ build.hops index := by
  obtain ⟨c', ran⟩ := PathM.paths_of_answers answers_cutShort
  rw [pathsAt_cutShort] at ran
  exact ⟨run_cutShort, _, c', ran, _, .head _, by decide +kernel, by decide +kernel⟩

end ConfigReplica.Routing
