import ConfigReplica.Routing.Router
import Mathlib.Logic.Basic

/-!
# Failure counts

Failures are counted against a leg of a request: against its path, that is against all paths of the
same sequence of hops, or against its node (`Leg`). A request either answers, which ends the counts
of its path and its node, or one of the two fails, which adds to one count and ends it if it trips
(`Failures.count_note`). Looked at over many requests, a count is the number of failures of the leg
since it last answered or tripped (`streak`).
-/

namespace ConfigReplica.Routing

/-- What failures are counted against: paths of one sequence of hops, or a node. -/
inductive Leg where
  | path (fingerprint : String)
  | node (node : Node)
  deriving DecidableEq

namespace Leg

/-- Fingerprints are compared as texts. -/
theorem path_eq_iff {fingerprint other : String} :
    path other = path fingerprint ↔ compare fingerprint other = .eq := by
  rw [Leg.path.injEq, Std.compare_eq_iff_eq, eq_comm]

/-- Nodes are compared as nodes. -/
theorem node_eq_iff {node other : Node} :
    Leg.node other = .node node ↔ compare node other = .eq := by
  rw [Leg.node.injEq, Std.compare_eq_iff_eq, eq_comm]

end Leg

/-- The failures that are counted against a leg. -/
def Failures.count (f : Failures) : Leg → Nat
  | .path fingerprint => f.paths.getD fingerprint 0
  | .node node => f.nodes.getD node 0

/-- With how many failures in a row a leg trips. -/
def Limits.trip (limits : Limits) : Leg → Nat
  | .path _ => max limits.path 1
  | .node _ => max limits.node 1

/-- A request, what became of it, and whether what failed was to be dropped. -/
structure Sent where
  request : Request
  outcome : Except LegFault Bytes
  tripped : Bool

namespace Sent

/-- The leg that failed. -/
def failed? (sent : Sent) : Option Leg :=
  match sent.outcome with
  | .ok _ => none
  | .error (.path _) => some (.path sent.request.path.fingerprint)
  | .error (.node _) => some (.node sent.request.node)

/-- Whether a leg answered. -/
def answered (sent : Sent) (leg : Leg) : Bool :=
  match sent.outcome with
  | .ok _ => leg = .path sent.request.path.fingerprint ∨ leg = .node sent.request.node
  | .error _ => false

/-- Whether a leg failed. -/
def fails (sent : Sent) (leg : Leg) : Bool :=
  sent.failed? = some leg

/-- Whether a leg failed and tripped. -/
def trips (sent : Sent) (leg : Leg) : Bool :=
  sent.fails leg && sent.tripped

variable {sent : Sent} {leg other : Leg}

/-- What is not to be dropped does not trip. -/
theorem trips_of_calm (calm : sent.tripped = false) : sent.trips leg = false := by
  rw [trips, calm, Bool.and_false]

/-- What failed trips if it is to be dropped. -/
theorem trips_of_failed (failed : sent.failed? = some leg) : sent.trips leg = sent.tripped := by
  rw [trips, fails, failed, decide_eq_true rfl, Bool.true_and]

/-- No leg of a request that failed answered. -/
theorem answered_of_failed (failed : sent.failed? = some leg) : sent.answered other = false := by
  unfold failed? at failed
  unfold answered
  split
  · next answered =>
    rw [answered] at failed
    cases failed
  · rfl

/-- No leg trips but the one that failed. -/
theorem failed_of_trips (failed : sent.failed? = some leg) (tripped : sent.trips other) :
    leg = other := by
  have fails := of_decide_eq_true (Bool.and_eq_true_iff.mp tripped).1
  exact Option.some.inj (failed.symm.trans fails)

end Sent

/-- The failures of a leg since it answered last or tripped last, in a history with the latest
request first. -/
def streak (leg : Leg) (history : List Sent) : Nat :=
  (history.takeWhile fun sent => !(sent.answered leg || sent.trips leg)).countP (·.fails leg)

/-- A request that the leg answered or tripped with ends its streak, and another adds its failure.
-/
theorem streak_cons (leg : Leg) (sent : Sent) (history : List Sent) :
    streak leg (sent :: history) =
      if sent.answered leg || sent.trips leg then 0
      else streak leg history + if sent.fails leg then 1 else 0 := by
  unfold streak
  rw [List.takeWhile_cons]
  cases ends : sent.answered leg || sent.trips leg with
  | true => rfl
  | false => exact List.countP_cons

/-- A failure adds to the failures in a row, or ends them if the leg trips. -/
theorem streak_cons_of_failed {leg : Leg} {sent : Sent} (failed : sent.failed? = some leg)
    (history : List Sent) :
    streak leg (sent :: history) = if sent.tripped then 0 else streak leg history + 1 := by
  have fails : sent.fails leg = true := decide_eq_true failed
  rw [streak_cons, Sent.answered_of_failed failed, Sent.trips_of_failed failed, fails]
  rfl

namespace Failures

/-- Takes note of what became of a request. Gives whether what failed tripped. -/
def note (limits : Limits) (request : Request) (f : Failures) :
    Except LegFault Bytes → Bool × Failures
  | .ok _ => (false, f.succeeded request.path request.node)
  | .error (.path _) => f.pathFailed limits request.path
  | .error (.node _) => f.nodeFailed limits request.node

/-- What a request with this outcome is in the history. -/
def sent (limits : Limits) (request : Request) (f : Failures) (outcome : Except LegFault Bytes) :
    Sent where
  request
  outcome
  tripped := (f.note limits request outcome).1

/-- A path is counted by its fingerprint. -/
theorem ofPath_eq_count (f : Failures) (path : Path) :
    f.ofPath path = f.count (.path path.fingerprint) := rfl

variable (limits : Limits) (request : Request) (f : Failures) (outcome : Except LegFault Bytes)

/-- A count goes up by one, or begins anew where it reaches the limit. -/
theorem bump_eq (limit count : Nat) :
    bump limit count = (decide (max limit 1 ≤ count + 1),
      if max limit 1 ≤ count + 1 then 0 else count + 1) := by
  unfold bump
  split <;> simp [*]

/-- An answer ends the counts of the path and of the node. -/
theorem count_succeeded (path : Path) (node : Node) (leg : Leg) :
    (f.succeeded path node).count leg =
      if leg = .path path.fingerprint ∨ leg = .node node then 0 else f.count leg := by
  cases leg with
  | path fingerprint =>
    rw [succeeded, count, Std.ExtTreeMap.getD_erase]
    simp only [reduceCtorEq, or_false, Leg.path_eq_iff]
    rfl
  | node other =>
    rw [succeeded, count, Std.ExtTreeMap.getD_erase]
    simp only [reduceCtorEq, false_or, Leg.node_eq_iff]
    rfl

/-- What a failure makes of the count that it is counted against, and of all others. -/
def Counts (leg : Leg) (result : Bool × Failures) : Prop :=
  result.1 = decide (limits.trip leg ≤ f.count leg + 1) ∧
    ∀ other, result.2.count other =
      if other = leg then if limits.trip leg ≤ f.count leg + 1 then 0 else f.count leg + 1
      else f.count other

/-- A failure of a path is counted against its fingerprint. -/
theorem counts_pathFailed (path : Path) :
    f.Counts limits (.path path.fingerprint) (f.pathFailed limits path) := by
  have bumped : bump limits.path (f.ofPath path) = _ := bump_eq _ _
  unfold pathFailed
  rw [bumped]
  refine ⟨rfl, fun other => ?_⟩
  cases other with
  | path fingerprint =>
    rw [count, Std.ExtTreeMap.getD_insert]
    exact if_congr Leg.path_eq_iff.symm rfl rfl
  | node node => rfl

/-- A failure of a node is counted against the node. -/
theorem counts_nodeFailed (node : Node) :
    f.Counts limits (.node node) (f.nodeFailed limits node) := by
  have bumped : bump limits.node (f.ofNode node) = _ := bump_eq _ _
  unfold nodeFailed
  rw [bumped]
  refine ⟨rfl, fun other => ?_⟩
  cases other with
  | path fingerprint => rfl
  | node other =>
    rw [count, Std.ExtTreeMap.getD_insert]
    exact if_congr Leg.node_eq_iff.symm rfl rfl

/-- A request that failed is counted against the leg that failed. -/
theorem counts_note {leg : Leg} (failed : (f.sent limits request outcome).failed? = some leg) :
    f.Counts limits leg (f.note limits request outcome) := by
  rcases outcome with (reason | reason) | answer
  · cases failed
    exact f.counts_pathFailed limits request.path
  · cases failed
    exact f.counts_nodeFailed limits request.node
  · cases failed

/-- A leg trips with the failure that reaches the limit. -/
theorem tripped_iff :
    (f.sent limits request outcome).tripped ↔
      ∃ leg, (f.sent limits request outcome).failed? = some leg ∧
        limits.trip leg ≤ f.count leg + 1 := by
  -- what failed is counted with its own limit, and an answer trips nothing
  cases failed : (f.sent limits request outcome).failed? with
  | none =>
    rcases outcome with (reason | reason) | answer
    · cases failed
    · cases failed
    · exact ⟨nofun, nofun⟩
  | some leg =>
    have tripped : (f.sent limits request outcome).tripped = _ :=
      (f.counts_note limits request outcome failed).1
    rw [tripped, decide_eq_true_iff]
    refine ⟨fun reached => ⟨leg, rfl, reached⟩, ?_⟩
    rintro ⟨_, ⟨⟩, reached⟩
    exact reached

/-- **What is counted next.** A leg that answers or trips begins anew, one that fails has one
failure more, and for all others nothing changes. -/
theorem count_note (leg : Leg) :
    (f.note limits request outcome).2.count leg =
      let sent := f.sent limits request outcome
      if sent.answered leg || sent.trips leg then 0
      else f.count leg + if sent.fails leg then 1 else 0 := by
  dsimp only
  -- an answer touches two counts, a failure that of the leg that failed
  cases failed : (f.sent limits request outcome).failed? with
  | none =>
    rcases outcome with (reason | reason) | answer
    · cases failed
    · cases failed
    · -- nothing failed, and two legs answered
      have noted : (f.note limits request (.ok answer)).2 = f.succeeded request.path request.node :=
        rfl
      have noFailure : (f.sent limits request (.ok answer)).fails leg = false := by
        rw [Sent.fails, failed]
        rfl
      have answered : (f.sent limits request (.ok answer)).answered leg =
          decide (leg = .path request.path.fingerprint ∨ leg = .node request.node) := rfl
      rw [noted, count_succeeded, Sent.trips, noFailure, answered, Bool.false_and, Bool.or_false]
      exact if_congr decide_eq_true_iff.symm rfl rfl
  | some own =>
    obtain ⟨tripped, counted⟩ := f.counts_note limits request outcome failed
    have noAnswer : (f.sent limits request outcome).answered leg = false :=
      Sent.answered_of_failed failed
    have tripped : (f.sent limits request outcome).tripped = _ := tripped
    rw [counted, noAnswer, Bool.false_or, Sent.trips, Sent.fails, failed, tripped]
    by_cases here : leg = own
    · subst here
      simp
    · have : ¬ own = leg := fun same => here same.symm
      simp [here, this]

end Failures

end ConfigReplica.Routing
