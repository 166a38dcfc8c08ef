import ConfigReplica.Proofs.Routing.Builds
import ConfigReplica.Proofs.Routing.NodeSets
import Mathlib.Data.Finset.Card

/-!
# The choice of two paths

From the nodes of a pool in any order the first three make one path. With six nodes or more the next
three make the other. With fewer the second path is chosen node by node, and every place takes the
first candidate that is not on the path yet and is not at that place of the first path (`Next`). The
candidates are the nodes that the first path left, and then its own, the first of them last. There
is always a candidate left that will do, and the nodes that were left are all used.

Hence the two paths are best (`Best`): each has three different nodes, no place holds the same node
in both, and the paths share as few nodes as two paths in the pool can (`Best.least`). Over a store
that works they are stored and given again when the paths are asked for (`rebuild_best`).
-/

namespace ConfigReplica.Routing

variable {nodes : List Node} {first second : Hops}

/-! ### Shared nodes -/

/-- The nodes that two paths have in common. -/
def shared (first second : Hops) : List Node :=
  first.toList.filter (· ∈ second.toList)

/-- The nodes that two paths share and those that they use between them come to six. -/
theorem length_shared_add (distinct : first.toList.Nodup ∧ second.toList.Nodup) :
    (shared first second).length + (first.toList ++ second.toList).toFinset.card =
      2 * pathLength := by
  have card {hops : Hops} (once : hops.toList.Nodup) : hops.toList.toFinset.card = pathLength := by
    rw [List.toFinset_card_of_nodup once, Vector.length_toList]
  have inter : (shared first second).toFinset = first.toList.toFinset ∩ second.toList.toFinset := by
    ext node
    simp [shared]
  have length : (shared first second).length =
      (first.toList.toFinset ∩ second.toList.toFinset).card := by
    rw [← inter]
    exact (List.toFinset_card_of_nodup (distinct.1.filter _)).symm
  calc
    _ = (first.toList.toFinset ∩ second.toList.toFinset).card +
          (first.toList.toFinset ∪ second.toList.toFinset).card := by
      rw [length, List.toFinset_append]
    _ = first.toList.toFinset.card + second.toList.toFinset.card :=
      Finset.card_inter_add_card_union _ _
    _ = 2 * pathLength := by rw [card distinct.1, card distinct.2, Nat.two_mul]

/-- Two paths of few nodes have to share some. -/
theorem le_length_shared (distinct : first.toList.Nodup ∧ second.toList.Nodup)
    (known : ∀ node ∈ first.toList ++ second.toList, node ∈ nodes) :
    2 * pathLength - nodes.length ≤ (shared first second).length := by
  -- what is used is among the nodes, each counted once
  have used : (first.toList ++ second.toList).toFinset.card ≤ nodes.length := by
    refine (Finset.card_le_card fun node mem => ?_).trans (List.toFinset_card_le nodes)
    exact List.mem_toFinset.mpr (known node (List.mem_toFinset.mp mem))
  have := length_shared_add distinct
  omega

/-- Two paths that use all nodes share no more than they have to. -/
theorem length_shared_le (distinct : first.toList.Nodup ∧ second.toList.Nodup) (once : nodes.Nodup)
    (all : ∀ node ∈ nodes, node ∈ first.toList ++ second.toList) :
    (shared first second).length ≤ 2 * pathLength - nodes.length := by
  -- every node is used, and none is counted twice
  have used : nodes.length ≤ (first.toList ++ second.toList).toFinset.card := by
    rw [← List.toFinset_card_of_nodup once]
    refine Finset.card_le_card fun node mem => ?_
    exact List.mem_toFinset.mpr (all node (List.mem_toFinset.mp mem))
  have := length_shared_add distinct
  omega

/-! ### Best pairs -/

/-- **Best paths** in these nodes: no node is twice on one of the two, no place holds the same node
in both, and they share no more nodes than they have to. -/
structure Best (nodes : List Node) (first second : Hops) : Prop where
  known : ∀ node ∈ first.toList ++ second.toList, node ∈ nodes
  distinct : first.toList.Nodup ∧ second.toList.Nodup
  places : ∀ hop : Fin pathLength, first.get hop ≠ second.get hop
  few : (shared first second).length = 2 * pathLength - nodes.length

/-- No other two paths in the same nodes share fewer. -/
theorem Best.least (best : Best nodes first second) {first' second' : Hops}
    (distinct : first'.toList.Nodup ∧ second'.toList.Nodup)
    (known : ∀ node ∈ first'.toList ++ second'.toList, node ∈ nodes) :
    (shared first second).length ≤ (shared first' second').length :=
  best.few ▸ le_length_shared distinct known

/-- The order of the nodes does not matter. -/
theorem Best.of_perm {nodes' : List Node} (best : Best nodes first second)
    (perm : nodes.Perm nodes') : Best nodes' first second where
  known node mem := perm.mem_iff.mp (best.known node mem)
  distinct := best.distinct
  places := best.places
  few := perm.length_eq ▸ best.few

/-- Two paths that differ at each of the three places differ at every place. -/
theorem places_of_ne {a b c x y z : Node} (first : a ≠ x) (second : b ≠ y) (third : c ≠ z)
    (hop : Fin pathLength) : (#v[a, b, c] : Hops).get hop ≠ (#v[x, y, z] : Hops).get hop :=
  match hop with
  | 0 => first
  | 1 => second
  | 2 => third

/-! ### The choice -/

/-- The node is the first candidate that is neither taken nor the other one. -/
structure Next (candidates taken : List Node) (other node : Node) : Prop where
  first : ∃ passed rest, candidates = passed ++ node :: rest ∧
    ∀ skipped ∈ passed, skipped ∈ taken ∨ skipped = other
  free : node ∉ taken
  differs : node ≠ other

namespace Next

variable {candidates taken : List Node} {other node : Node}

/-- What is chosen is one of the candidates. -/
theorem mem (next : Next candidates taken other node) : node ∈ candidates := by
  obtain ⟨passed, rest, rfl, -⟩ := next.first
  exact List.mem_append_right _ (.head _)

/-- The search gives the first candidate that will do. -/
theorem nextHop?_eq (next : Next candidates taken other node) :
    nextHop? candidates taken other = some node := by
  obtain ⟨passed, rest, rfl, skips⟩ := next.first
  have found : (passed ++ node :: rest).find? (fun n => !taken.contains n && n != other) =
      some node := by
    refine List.find?_eq_some_iff_append.mpr ⟨?_, passed, rest, rfl, fun skipped mem => ?_⟩
    · simp [next.free, next.differs]
    · rcases skips skipped mem with used | same
      · simp [used]
      · simp [same]
  unfold nextHop?
  rw [found]
  rfl

end Next

section Few

variable {a b c x y z : Node} {spare : List Node}

/-- Of fewer than six nodes the first three make one path, and three choices the other. -/
theorem hopsOf?_of_few (few : spare.length < pathLength)
    (first : Next (spare ++ [b, c, a]) [] a x) (second : Next (spare ++ [b, c, a]) [x] b y)
    (third : Next (spare ++ [b, c, a]) [x, y] c z) :
    hopsOf? (a :: b :: c :: spare) = some (#v[a, b, c], #v[x, y, z]) := by
  have choice : hopsOf? (a :: b :: c :: spare) =
      (nextHop? (spare ++ [b, c, a]) [] a).bind fun x =>
        (nextHop? (spare ++ [b, c, a]) [x] b).bind fun y =>
          (nextHop? (spare ++ [b, c, a]) [x, y] c).bind fun z =>
            some (#v[a, b, c], #v[x, y, z]) := by
    match spare, few with
    | [], _ | [_], _ | [_, _], _ => rfl
  rw [choice, first.nextHop?_eq, Option.bind_some, second.nextHop?_eq, Option.bind_some,
    third.nextHop?_eq, Option.bind_some]

/-- A choice for the second path that uses all nodes that the first one left is best. -/
theorem best_of_few (once : (a :: b :: c :: spare).Nodup)
    (first : Next (spare ++ [b, c, a]) [] a x) (second : Next (spare ++ [b, c, a]) [x] b y)
    (third : Next (spare ++ [b, c, a]) [x, y] c z) (all : ∀ node ∈ spare, node ∈ [x, y, z]) :
    Best (a :: b :: c :: spare) #v[a, b, c] #v[x, y, z] := by
  have candidate {node : Node} (mem : node ∈ spare ++ [b, c, a]) : node ∈ a :: b :: c :: spare := by
    simp only [List.mem_append, List.mem_cons, List.not_mem_nil, or_false] at mem ⊢
    tauto
  -- the choices of the second path are free of those before them, so no node comes twice
  have distinct : (#v[a, b, c] : Hops).toList.Nodup ∧ (#v[x, y, z] : Hops).toList.Nodup := by
    refine ⟨once.sublist (List.prefix_append [a, b, c] spare).sublist, ?_⟩
    have xy : y ≠ x := by simpa using second.free
    obtain ⟨xz, yz⟩ : z ≠ x ∧ z ≠ y := by simpa using third.free
    simp [xy.symm, xz.symm, yz.symm]
  have known : ∀ node ∈ (#v[a, b, c] : Hops).toList ++ (#v[x, y, z] : Hops).toList,
      node ∈ a :: b :: c :: spare := by
    simp only [Vector.toList_mk, List.forall_mem_append, List.forall_mem_cons]
    refine ⟨by simp, candidate first.mem, candidate second.mem, candidate third.mem, nofun⟩
  -- the first three nodes are the first path, and the others were all chosen
  have used : ∀ node ∈ a :: b :: c :: spare,
      node ∈ (#v[a, b, c] : Hops).toList ++ (#v[x, y, z] : Hops).toList := by
    intro node mem
    rcases List.mem_append.mp (show node ∈ [a, b, c] ++ spare from mem) with near | left
    · exact List.mem_append_left _ near
    · exact List.mem_append_right _ (all node left)
  exact ⟨known, distinct, places_of_ne first.differs.symm second.differs.symm third.differs.symm,
    Nat.le_antisymm (length_shared_le distinct once used) (le_length_shared distinct known)⟩

end Few

/-- **The choice** among three nodes or more is best. -/
theorem exists_hopsOf? (once : nodes.Nodup) (enough : pathLength ≤ nodes.length) :
    ∃ first second, hopsOf? nodes = some (first, second) ∧ Best nodes first second := by
  -- the candidates are written out where the pool has fewer than six nodes
  match nodes with
  -- nothing is spare: the nodes of the first path are chosen, each at another place
  | [a, b, c] =>
    obtain ⟨⟨ab, ac⟩, bc⟩ : (a ≠ b ∧ a ≠ c) ∧ b ≠ c := by simpa using once
    have first : Next [b, c, a] [] a b := ⟨⟨[], _, rfl, nofun⟩, by simp, ab.symm⟩
    have second : Next [b, c, a] [b] b c := ⟨⟨[b], _, rfl, by simp⟩, by simp [bc.symm], bc.symm⟩
    have third : Next [b, c, a] [b, c] c a := ⟨⟨[b, c], _, rfl, by simp⟩, by simp [ab, ac], ac⟩
    exact ⟨_, _, hopsOf?_of_few (by decide) first second third,
      best_of_few once first second third (by simp)⟩
  -- the spare node comes first, and then two of the first path
  | [a, b, c, d] =>
    obtain ⟨⟨ab, ac, ad⟩, ⟨bc, bd⟩, cd⟩ : (a ≠ b ∧ a ≠ c ∧ a ≠ d) ∧ (b ≠ c ∧ b ≠ d) ∧ c ≠ d := by
      simpa using once
    have first : Next [d, b, c, a] [] a d := ⟨⟨[], _, rfl, nofun⟩, by simp, ad.symm⟩
    have second : Next [d, b, c, a] [d] b c :=
      ⟨⟨[d, b], _, rfl, by simp⟩, by simp [cd], bc.symm⟩
    have third : Next [d, b, c, a] [d, c] c b := ⟨⟨[d], _, rfl, by simp⟩, by simp [bc, bd], bc⟩
    exact ⟨_, _, hopsOf?_of_few (by simp [pathLength]) first second third,
      best_of_few once first second third (by simp)⟩
  -- both spare nodes are chosen, and the third place falls back to the first path
  | [a, b, c, d, e] =>
    obtain ⟨⟨ab, ac, ad, ae⟩, ⟨bc, bd, be⟩, ⟨cd, ce⟩, de⟩ : (a ≠ b ∧ a ≠ c ∧ a ≠ d ∧ a ≠ e) ∧
        (b ≠ c ∧ b ≠ d ∧ b ≠ e) ∧ (c ≠ d ∧ c ≠ e) ∧ d ≠ e := by
      simpa using once
    have first : Next [d, e, b, c, a] [] a d := ⟨⟨[], _, rfl, nofun⟩, by simp, ad.symm⟩
    have second : Next [d, e, b, c, a] [d] b e :=
      ⟨⟨[d], _, rfl, by simp⟩, by simp [de.symm], be.symm⟩
    have third : Next [d, e, b, c, a] [d, e] c b :=
      ⟨⟨[d, e], _, rfl, by simp⟩, by simp [bd, be], bc⟩
    exact ⟨_, _, hopsOf?_of_few (by simp [pathLength]) first second third,
      best_of_few once first second third (by simp)⟩
  | a :: b :: c :: d :: e :: f :: rest =>
    -- the second path is made of nodes that the first does not come to
    have whole : ([a, b, c] ++ [d, e, f]).Nodup :=
      once.sublist (List.prefix_append _ rest).sublist
    obtain ⟨firstOnce, secondOnce, apart⟩ := List.nodup_append.mp whole
    have none : shared #v[a, b, c] #v[d, e, f] = [] := by
      refine List.filter_eq_nil_iff.mpr fun node mem both => ?_
      exact apart node mem node (of_decide_eq_true both) rfl
    refine ⟨#v[a, b, c], #v[d, e, f], rfl, fun node mem => ?_, ⟨firstOnce, secondOnce⟩, ?_, ?_⟩
    · exact List.mem_append_left rest mem
    · exact places_of_ne (apart a (by simp) d (by simp)) (apart b (by simp) e (by simp))
        (apart c (by simp) f (by simp))
    · have many : 2 * pathLength ≤ (a :: b :: c :: d :: e :: f :: rest).length :=
        Nat.le_add_left 6 rest.length
      rw [none, List.length_nil, Nat.sub_eq_zero_of_le many]

/-- Fewer nodes than a path has give no choice. -/
theorem hopsOf?_eq_none (few : nodes.length < pathLength) : hopsOf? nodes = none := by
  match nodes, few with
  | [], _ | [_], _ | [_, _], _ => rfl

/-! ### Building from a pool -/

/-- A set holds no node twice. -/
theorem nodup_pool (pool : NodeSet) : pool.toList.Nodup :=
  Std.ExtTreeSet.distinct_toList.imp fun differ same => differ (Std.compare_eq_iff_eq.mpr same)

/-- **Paths that are built are the best two.** A pool that was read from a store is shuffled in some
way. If it has fewer nodes than a path, then building fails and nothing changes. Otherwise, over a
store that works, two paths are given that are best among the nodes of the pool, and asking for the
paths gives these two. -/
theorem rebuild_best {s s' : Store} {pool : NodeSet} (got : Pool.get s = .ok pool s')
    {c : PathCache} (works : c.store.Works) (shuffle : Shuffle) :
    (pool.size < pathLength →
      PathM.rebuild shuffle pool c = .error (.insufficientNodes pathLength pool.size) c) ∧
    (pathLength ≤ pool.size → ∃ first second c',
      PathM.rebuild shuffle pool c = .ok [⟨0, first⟩, ⟨1, second⟩] c' ∧
        Best pool.toList first second ∧
        ∃ c'', PathM.paths c' = .ok [⟨0, first⟩, ⟨1, second⟩] c'') := by
  have perm := shuffle.perm pool.toList
  have size : (shuffle.apply pool.toList).length = pool.size :=
    perm.length_eq.trans Std.ExtTreeSet.length_toList
  constructor
  · -- the order does not change how many nodes there are
    intro few
    unfold PathM.rebuild
    rw [hopsOf?_eq_none (size.trans_lt few)]
    rfl
  · intro enough
    obtain ⟨first, second, chosen, best⟩ :=
      exists_hopsOf? (perm.nodup_iff.mpr (nodup_pool pool)) (size.symm ▸ enough)
    have best := best.of_perm perm
    -- the nodes come from a pool that was read, so the text of each reads back as the node
    have readable : ∀ node ∈ first.toList ++ second.toList, node.Readable := fun node mem =>
      readable_of_held (Pool.held_of_get got) (Std.ExtTreeSet.mem_toList.mp (best.known node mem))
    obtain ⟨c', ran, works', held⟩ := Build.pathsAt_setPaths works best.distinct readable
    obtain ⟨c'', asked⟩ := PathM.paths_of_answers works'.answers
    rw [held] at asked
    refine ⟨first, second, c', ?_, best, c'', asked⟩
    unfold PathM.rebuild
    rw [chosen]
    exact ran

/-- A pool of three nodes. -/
def digitPool : NodeSet :=
  .ofList (digitHops '1' '2' '3').toList

/-- With a pool of three nodes both paths use all of them. -/
theorem rebuild_best_three :
    let s := stateAfter (Pool.set digitPool) {}
    Pool.get s = .ok digitPool (s.noted (.read Pool.cell)) ∧ pathLength ≤ digitPool.size ∧
      ∃ first second c',
        PathM.rebuild (.byPlaces [2, 0, 1]) digitPool { store := s } =
            .ok [⟨0, first⟩, ⟨1, second⟩] c' ∧
          Best digitPool.toList first second ∧
          ∃ c'', PathM.paths c' = .ok [⟨0, first⟩, ⟨1, second⟩] c'' := by
  intro s
  -- each node is read back from its text, which the hops of the pool are made for
  have readable : ∀ node ∈ digitPool, Node.parse node.text = .ok node := by
    intro node mem
    refine readable_digitHops (readable_digitNode (.inl rfl)) (readable_digitNode (.inr (.inl rfl)))
      (readable_digitNode (.inr (.inr rfl))) node ?_
    exact List.contains_iff_mem.mp (Std.ExtTreeSet.mem_ofList.mp mem)
  have works : s.Works := fun _ _ => rfl
  have short : (textsCodec.write digitPool.texts).length < UInt64.size := by decide +kernel
  have held : nodesAt? s.row? Pool.cell = some digitPool :=
    nodesAt?_of_row readable (by rfl) short
  have three : pathLength ≤ digitPool.size := by decide +kernel
  have got := Pool.get_of_held works held
  exact ⟨got, three, (rebuild_best got (c := { store := s }) works _).2 three⟩

end ConfigReplica.Routing
