import Transclusion.Proofs.XPath.NodeSets
/-!
# Paths compose

A path goes from a set of nodes to a set of nodes.  Whatever its steps ask of positions, they ask it
of the nodes found from one node at a time, and so the whole path does not mix them up: from a set
it leads to the union, in document order, of what it leads to from each node of the set alone
(`Step.mem_evalAll_iff`), and it is evaluated as soon as it is from each of them
(`Step.exists_evalAll`).  Steps put one behind the other compose (`Step.evalAll_append`), and `//`
before a step to children comes to a step to descendants (`Step.evalAll_anyDepth_child`).

* `paths_compose`: the three together, for the paths over a document.
-/

namespace Transclusion.XPath

open NodeRef (node attribute_ canonical)

variable {env : Environment} {nodes nodes' refs : List NodeRef} {m : NodeRef}

/-! ### Unions -/

section

variable {select : NodeRef → Except XPathError (List NodeRef)}

theorem exists_unionOver_iff :
    (∃ refs, unionOver select nodes = .ok refs) ↔ ∀ n ∈ nodes, ∃ part, select n = .ok part := by
  rw [← exists_mapM_iff]
  constructor
  · rintro ⟨refs, h⟩
    obtain ⟨parts, hparts, -⟩ := bind_eq_ok_iff.mp h
    exact ⟨parts, hparts⟩
  · rintro ⟨parts, hparts⟩
    exact ⟨canonical parts.flatten, bind_eq_ok_iff.mpr ⟨parts, hparts, rfl⟩⟩

theorem mem_unionOver_iff (h : unionOver select nodes = .ok refs) :
    m ∈ refs ↔ ∃ n ∈ nodes, ∃ part, select n = .ok part ∧ m ∈ part := by
  obtain ⟨parts, hparts, h⟩ := bind_eq_ok_iff.mp h
  cases h
  rw [NodeRef.mem_canonical, List.mem_flatten]
  constructor
  · rintro ⟨part, hpart, hm⟩
    obtain ⟨n, hn, found⟩ := (mem_mapM_iff hparts).mp hpart
    exact ⟨n, hn, part, found, hm⟩
  · rintro ⟨n, hn, part, found, hm⟩
    exact ⟨part, (mem_mapM_iff hparts).mpr ⟨n, hn, found⟩, hm⟩

end

/-! ### Steps -/

namespace Step

/-- A step fails for its test, whatever the nodes are, or else it is a union over the nodes. -/
theorem eval_cases (env : Environment) (step : Step) :
    (∃ e, ∀ nodes, step.eval env nodes = .error e)
      ∨ ∃ select, ∀ nodes, step.eval env nodes = unionOver select nodes := by
  obtain ⟨axis, test, predicates⟩ := step
  cases resolved : test.resolve env.bindings with
  | error e =>
    refine .inl ⟨e, fun nodes => ?_⟩
    rw [eval, resolved]
    rfl
  | ok test' =>
    refine .inr ⟨fun n => candidates env axis test' n >>= Expr.filterAll env predicates, ?_⟩
    intro nodes
    rw [eval, resolved]
    rfl

/-- What a step leads to from a node alone is what it contributes to any set. -/
theorem mem_eval_iff {step : Step} (h : step.eval env nodes = .ok refs) :
    m ∈ refs ↔ ∃ n ∈ nodes, ∃ part, step.eval env [n] = .ok part ∧ m ∈ part := by
  obtain ⟨e, failed⟩ | ⟨select, union⟩ := eval_cases env step
  · rw [failed] at h
    cases h
  simp only [union] at h ⊢
  rw [mem_unionOver_iff h]
  refine exists_congr fun n => and_congr_right fun hn => ?_
  constructor
  · rintro ⟨part, found, hm⟩
    obtain ⟨alone, halone⟩ := exists_unionOver_iff.mpr (List.forall_mem_singleton.mpr ⟨part, found⟩)
    refine ⟨alone, halone, (mem_unionOver_iff halone).mpr ?_⟩
    exact ⟨n, List.mem_singleton_self n, part, found, hm⟩
  · rintro ⟨alone, halone, hm⟩
    obtain ⟨n', hn', part, found, hm⟩ := (mem_unionOver_iff halone).mp hm
    obtain rfl := List.mem_singleton.mp hn'
    exact ⟨part, found, hm⟩

/-- A step that is evaluated from a set is evaluated from every part of it, and leads to no other
nodes from there. -/
theorem exists_eval_of_subset {step : Step} (h : step.eval env nodes = .ok refs)
    (fewer : nodes' ⊆ nodes) : ∃ refs' ⊆ refs, step.eval env nodes' = .ok refs' := by
  obtain ⟨e, failed⟩ | ⟨select, union⟩ := eval_cases env step
  · rw [failed] at h
    cases h
  rw [union] at h ⊢
  have each := exists_unionOver_iff.mp ⟨refs, h⟩
  obtain ⟨refs', h'⟩ := exists_unionOver_iff.mpr fun n hn => each n (fewer hn)
  refine ⟨refs', fun m hm => ?_, h'⟩
  obtain ⟨n, hn, found⟩ := (mem_unionOver_iff h').mp hm
  exact (mem_unionOver_iff h).mpr ⟨n, fewer hn, found⟩

/-- A step is evaluated from a set, if it is from each of its nodes and there are some. -/
theorem exists_eval {step : Step} (some_ : nodes ≠ [])
    (each : ∀ n ∈ nodes, ∃ part, step.eval env [n] = .ok part) :
    ∃ refs, step.eval env nodes = .ok refs := by
  obtain ⟨e, failed⟩ | ⟨select, union⟩ := eval_cases env step
  · -- The test would be at fault for the first node as well.
    obtain ⟨n, rest, rfl⟩ := List.exists_cons_of_ne_nil some_
    obtain ⟨part, h⟩ := each n List.mem_cons_self
    rw [failed] at h
    cases h
  rw [union]
  refine exists_unionOver_iff.mpr fun n hn => ?_
  obtain ⟨alone, halone⟩ := each n hn
  rw [union] at halone
  exact exists_unionOver_iff.mp ⟨alone, halone⟩ n (List.mem_singleton_self n)

/-! ### Paths -/

theorem evalAll_append (p q : List Step) (nodes : List NodeRef) :
    evalAll env (p ++ q) nodes = evalAll env p nodes >>= evalAll env q := by
  induction p generalizing nodes with
  | nil =>
    rw [evalAll]
    rfl
  | cons step rest ih =>
    rw [List.cons_append, evalAll, evalAll]
    cases step.eval env nodes with
    | error e => rfl
    | ok next => exact ih next

theorem evalAll_cons_eq_ok_iff {step : Step} {rest : List Step} :
    evalAll env (step :: rest) nodes = .ok refs
      ↔ ∃ next, step.eval env nodes = .ok next ∧ evalAll env rest next = .ok refs := by
  rw [evalAll]
  exact bind_eq_ok_iff

/-- A path that is evaluated from a set is evaluated from every part of it. -/
theorem exists_evalAll_of_subset {steps : List Step} (h : evalAll env steps nodes = .ok refs)
    (fewer : nodes' ⊆ nodes) : ∃ refs', evalAll env steps nodes' = .ok refs' := by
  induction steps generalizing nodes nodes' with
  | nil => exact ⟨nodes', by rw [evalAll]⟩
  | cons step rest ih =>
    obtain ⟨next, hnext, h⟩ := evalAll_cons_eq_ok_iff.mp h
    obtain ⟨next', within, hnext'⟩ := exists_eval_of_subset hnext fewer
    obtain ⟨refs', h'⟩ := ih h within
    exact ⟨refs', evalAll_cons_eq_ok_iff.mpr ⟨next', hnext', h'⟩⟩

/-- **A path is evaluated node by node**: from a set it leads to what it leads to from each node of
the set alone. -/
theorem mem_evalAll_iff {steps : List Step} (h : evalAll env steps nodes = .ok refs) :
    m ∈ refs ↔ ∃ n ∈ nodes, ∃ part, evalAll env steps [n] = .ok part ∧ m ∈ part := by
  induction steps generalizing nodes refs with
  | nil =>
    rw [evalAll] at h
    cases h
    simp [evalAll]
  | cons step rest ih =>
    obtain ⟨next, hnext, h⟩ := evalAll_cons_eq_ok_iff.mp h
    rw [ih h]
    constructor
    · rintro ⟨k, hk, part, hpart, hm⟩
      obtain ⟨n, hn, own, hown, hk⟩ := (mem_eval_iff hnext).mp hk
      -- What the step leads to from `n` alone is part of `next`.
      have within : own ⊆ next := fun k hk => (mem_eval_iff hnext).mpr ⟨n, hn, own, hown, hk⟩
      obtain ⟨last, hlast⟩ := exists_evalAll_of_subset h within
      exact ⟨n, hn, last, evalAll_cons_eq_ok_iff.mpr ⟨own, hown, hlast⟩,
        (ih hlast).mpr ⟨k, hk, part, hpart, hm⟩⟩
    · rintro ⟨n, hn, last, hlast, hm⟩
      obtain ⟨own, hown, hlast⟩ := evalAll_cons_eq_ok_iff.mp hlast
      obtain ⟨k, hk, part, hpart, hm⟩ := (ih hlast).mp hm
      exact ⟨k, (mem_eval_iff hnext).mpr ⟨n, hn, own, hown, hk⟩, part, hpart, hm⟩

/-- A path is evaluated from a set, if it is from each of its nodes and there are some. -/
theorem exists_evalAll {steps : List Step} (some_ : nodes ≠ [])
    (each : ∀ n ∈ nodes, ∃ part, evalAll env steps [n] = .ok part) :
    ∃ refs, evalAll env steps nodes = .ok refs := by
  induction steps generalizing nodes with
  | nil => exact ⟨nodes, by rw [evalAll]⟩
  | cons step rest ih =>
    have first : ∃ next, step.eval env nodes = .ok next := by
      refine exists_eval some_ fun n hn => ?_
      obtain ⟨part, hpart⟩ := each n hn
      obtain ⟨own, hown, -⟩ := evalAll_cons_eq_ok_iff.mp hpart
      exact ⟨own, hown⟩
    obtain ⟨next, hnext⟩ := first
    -- From the nodes that the step leads to, the rest is evaluated since it is from those that
    -- each node leads to.
    have later (n : NodeRef) (hn : n ∈ nodes) (some' : List NodeRef)
        (from_ : ∀ own, step.eval env [n] = .ok own → some' ⊆ own) :
        ∃ last, evalAll env rest some' = .ok last := by
      obtain ⟨part, hpart⟩ := each n hn
      obtain ⟨own, hown, hpart⟩ := evalAll_cons_eq_ok_iff.mp hpart
      exact exists_evalAll_of_subset hpart (from_ own hown)
    suffices ∃ last, evalAll env rest next = .ok last by
      obtain ⟨last, hlast⟩ := this
      exact ⟨last, evalAll_cons_eq_ok_iff.mpr ⟨next, hnext, hlast⟩⟩
    by_cases none_ : next = []
    · subst none_
      obtain ⟨n, others, rfl⟩ := List.exists_cons_of_ne_nil some_
      exact later n List.mem_cons_self [] fun own _ => List.nil_subset own
    · refine ih none_ fun k hk => ?_
      obtain ⟨n, hn, own, hown, hk⟩ := (mem_eval_iff hnext).mp hk
      refine later n hn [k] fun own' hown' => ?_
      cases hown.symm.trans hown'
      exact List.cons_subset.mpr ⟨hk, List.nil_subset own⟩

end Step

/-! ### Descendants as children at any depth -/

/-- The nodes on an axis from any of the nodes that satisfy the test. -/
def onAxis (ns : NodeList) (axis : Axis) (test : ResolvedTest) (nodes : List NodeRef) :
    List NodeRef :=
  nodes.flatMap fun n => (axisNodes ns axis n).filter (test.accepts ns axis ·)

theorem mem_onAxis {ns : NodeList} {axis : Axis} {test : ResolvedTest} :
    m ∈ onAxis ns axis test nodes
      ↔ (∃ n ∈ nodes, m ∈ axisNodes ns axis n) ∧ test.accepts ns axis m = true := by
  simp only [onAxis, List.mem_flatMap, List.mem_filter]
  constructor
  · rintro ⟨n, hn, hm, accepted⟩
    exact ⟨⟨n, hn, hm⟩, accepted⟩
  · rintro ⟨⟨n, hn, hm⟩, accepted⟩
    exact ⟨n, hn, hm, accepted⟩

/-- A step without predicates, on an axis that is not refused. -/
theorem Step.eval_plain {axis : Axis} (allowed : axis ≠ .namespace_) (test : NodeTest)
    (nodes : List NodeRef) :
    (Step.plain axis test).eval env nodes
      = (test.resolve env.bindings).map fun t => canonical (onAxis env.nodes axis t nodes) := by
  rw [Step.plain, Step.eval]
  cases test.resolve env.bindings with
  | error e => rfl
  | ok t =>
    have each (n : NodeRef) : (candidates env axis t n >>= Expr.filterAll env [])
        = pure ((axisNodes env.nodes axis n).filter (t.accepts env.nodes axis ·)) := by
      rw [candidates, if_neg allowed]
      show Expr.filterAll env [] _ = _
      rw [Expr.filterAll]
      rfl
    show unionOver (fun n => candidates env axis t n >>= Expr.filterAll env []) nodes = _
    simp only [unionOver, each, List.mapM_pure]
    rfl

/-- A node is inside another one if its parent is that one or inside of it. -/
theorem mem_descendants_iff_parent {d : Document} {i j : Nat} :
    j ∈ d.nodes.descendants i
      ↔ ∃ k, (k = i ∨ k ∈ d.nodes.descendants i) ∧ j ∈ d.nodes.children k := by
  simp only [NodeList.mem_descendants, NodeList.mem_children]
  constructor
  · rintro ⟨after, inside⟩
    obtain ⟨k, parent, hle, hlt⟩ := NodeList.parent?_inside after inside
    exact ⟨k, by omega, parent⟩
  · rintro ⟨k, above, parent⟩
    have child := NodeList.inside_of_parent? parent
    obtain rfl | ⟨after, inside⟩ := above
    · exact child
    · have nested := NodeList.extent_nested after inside
      omega

theorem mem_descendant_iff_child {d : Document} {n : NodeRef} :
    m ∈ axisNodes d.nodes .descendant n
      ↔ ∃ k ∈ axisNodes d.nodes .descendantOrSelf n, m ∈ axisNodes d.nodes .child k := by
  cases n with
  | attribute_ i index => simp [axisNodes, nodesFromAttribute]
  | node i =>
    simp only [axisNodes, nodesFrom, List.mem_map, List.mem_cons]
    constructor
    · rintro ⟨j, inside, rfl⟩
      obtain ⟨k, above, child⟩ := mem_descendants_iff_parent.mp inside
      exact ⟨node k, ⟨k, above, rfl⟩, List.mem_map.mpr ⟨j, child, rfl⟩⟩
    · rintro ⟨_, ⟨k, above, rfl⟩, hm⟩
      obtain ⟨j, child, rfl⟩ := List.mem_map.mp hm
      exact ⟨j, mem_descendants_iff_parent.mpr ⟨k, above, child⟩, rfl⟩

/-- On two axes of nodes a test accepts the same. -/
theorem accepts_child (ns : NodeList) (test : ResolvedTest) (m : NodeRef) :
    test.accepts ns .child m = test.accepts ns .descendant m := by
  cases test <;> cases m <;> rfl

/-- **Children at any depth are descendants**: a step to children behind `//` leads where a single
step to descendants does, or fails as that one does. -/
theorem Step.evalAll_anyDepth_child (d : Document) (bindings : Bindings) (test : NodeTest)
    (nodes : List NodeRef) :
    evalAll ⟨d.nodes, bindings⟩ [.anyDepth, .plain .child test] nodes
      = evalAll ⟨d.nodes, bindings⟩ [.plain .descendant test] nodes := by
  simp only [evalAll, anyDepth]
  rw [eval_plain (by decide), eval_plain (by decide)]
  show (Step.plain .child test).eval _ _ >>= _ = _
  rw [eval_plain (by decide)]
  cases test.resolve bindings with
  | error e => rfl
  | ok t =>
    have all (n : NodeRef) : ResolvedTest.node.accepts d.nodes .descendantOrSelf n = true := rfl
    refine congrArg Except.ok (NodeRef.canonical_congr fun m => ?_)
    simp only [mem_onAxis, NodeRef.mem_canonical, accepts_child, all, and_true]
    refine and_congr_left fun _ => ?_
    constructor
    · rintro ⟨k, ⟨n, hn, hk⟩, hm⟩
      exact ⟨n, hn, mem_descendant_iff_child.mpr ⟨k, hk, hm⟩⟩
    · rintro ⟨n, hn, hm⟩
      obtain ⟨k, hk, hm⟩ := mem_descendant_iff_child.mp hm
      exact ⟨k, ⟨n, hn, hk⟩, hm⟩

/-- **Paths compose.**  From a set of nodes a path leads to a set of nodes, the union of what it
leads to from each of the nodes alone, positions being counted there; a path from a set that is not
empty is evaluated if and only if it is from each of its nodes.  One path behind another is
evaluated from what that one leads to.  Children behind `//` are descendants. -/
theorem paths_compose (d : Document) (bindings : Bindings) :
    let path := Step.evalAll ⟨d.nodes, bindings⟩
    (∀ steps nodes, IsNodeSet d.nodes nodes →
      (∀ refs, path steps nodes = .ok refs →
        (refs.Pairwise fun a b => a.before b) ∧ refs.Nodup
        ∧ (∀ n ∈ nodes, ∃ part, path steps [n] = .ok part)
        ∧ ∀ m, m ∈ refs ↔ ∃ n ∈ nodes, ∃ part, path steps [n] = .ok part ∧ m ∈ part)
      ∧ (nodes ≠ [] → (∀ n ∈ nodes, ∃ part, path steps [n] = .ok part) →
        ∃ refs, path steps nodes = .ok refs))
    ∧ (∀ p q nodes, path (p ++ q) nodes = path p nodes >>= path q)
    ∧ ∀ test nodes, path [.anyDepth, .plain .child test] nodes
      = path [.plain .descendant test] nodes := by
  intro path
  refine ⟨fun steps nodes set => ⟨fun refs h => ?_, Step.exists_evalAll⟩, Step.evalAll_append,
    Step.evalAll_anyDepth_child d bindings⟩
  have out := Step.evalAll_isNodeSet set h
  refine ⟨out.ascending, out.nodup, fun n hn => ?_, fun m => Step.mem_evalAll_iff h⟩
  exact Step.exists_evalAll_of_subset h (List.cons_subset.mpr ⟨hn, List.nil_subset nodes⟩)

/-- `<a><b><c/><c/></b><b><c/></b></a>` -/
def nestedPage : Document :=
  let element (name : String) (content rest : Forest) : Forest :=
    .element (.ofName (.plain name)) content rest
  let c := element "c" .nil
  ⟨none, element "a" (element "b" (c (c .nil)) (element "b" (c .nil) .nil)) .nil⟩

/-- `c[1]` from both `b` leads to the first `c` of each, and `//c` from the page to all three. -/
theorem paths_compose_nestedPage :
    let path := Step.evalAll ⟨nestedPage.nodes, .empty⟩
    let first : Step := .mk .child (.named none "c") [.number 1.0]
    let found := [node 3, node 6]
    path [first] [node 2, node 5] = .ok found
      ∧ (∀ m, m ∈ found ↔ ∃ n ∈ [node 2, node 5], ∃ part, path [first] [n] = .ok part ∧ m ∈ part)
      ∧ path ([.plain .child .node] ++ [first]) [node 1] = path [first] [node 2, node 5]
      ∧ path [.anyDepth, .plain .child (.named none "c")] [node 0]
        = .ok [node 3, node 4, node 6] := by
  intro path first found
  obtain ⟨each, composed, below⟩ := paths_compose nestedPage .empty
  have both : IsNodeSet nestedPage.nodes [node 2, node 5] := by
    refine ⟨by decide, List.forall_mem_cons.mpr ⟨?_, List.forall_mem_singleton.mpr ?_⟩⟩
    · show 2 < nestedPage.nodes.size
      decide
    · show 5 < nestedPage.nodes.size
      decide
  have alone : path [first] [node 2, node 5] = .ok found := eq_ok_of_toOption (by decide +kernel)
  refine ⟨alone, ((each _ _ both).1 _ alone).2.2.2, ?_, ?_⟩
  · exact (composed _ _ _).trans rfl
  · exact (below _ _).trans (eq_ok_of_toOption (by decide +kernel))

end Transclusion.XPath
