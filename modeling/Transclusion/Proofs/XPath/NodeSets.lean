import Mathlib.Data.List.Sort
import Transclusion.Proofs.Markup.Numbering
import Transclusion.Proofs.Outcome
import Transclusion.XPath.Evaluation
/-!
# Sets of nodes

A set of nodes of a document is a list of nodes that ascends strictly in document order and whose
nodes all exist (`XPath.IsNodeSet`).  Axes list their nodes in orders of their own and predicates
count them in these orders, but what a step yields is put in document order before the next step
takes it (`unionOver_isNodeSet`), and predicates only leave nodes out (`sublist_filterAll`).  So
every set of nodes that an expression evaluates to is one (`Expr.eval_isNodeSet`), and it is
determined by the nodes in it (`NodeRef.eq_of_ascending`).
-/

namespace Transclusion.XPath

open NodeRef (node attribute_ canonical)

/-! ### Document order -/

namespace NodeRef

variable {a b c : NodeRef}

/-- An element comes before its attributes, these in the order that they have on it, and then all
that has a greater number. -/
theorem before_iff : a.before b ↔ a.owner < b.owner ∨ a.owner = b.owner ∧ a.place < b.place := by
  simp [before]

theorem eq_of_owner_of_place (owners : a.owner = b.owner) (places : a.place = b.place) : a = b := by
  cases a <;> cases b <;> simp_all [owner, place]

theorem before_irrefl : ¬a.before a := by
  rw [before_iff]
  omega

theorem before_trans (h : a.before b) (h' : b.before c) : a.before c := by
  rw [before_iff] at h h' ⊢
  omega

theorem before_asymm (h : a.before b) : ¬b.before a := fun h' => before_irrefl (before_trans h h')

theorem before_of_not_before (ne : a ≠ b) (h : ¬a.before b) : b.before a := by
  have : ¬(a.owner = b.owner ∧ a.place = b.place) := fun same =>
    ne (eq_of_owner_of_place same.1 same.2)
  rw [before_iff] at h ⊢
  omega

theorem pairwise_insert {refs : List NodeRef} (a : NodeRef)
    (h : refs.Pairwise fun a b => a.before b) :
    (insert a refs).Pairwise fun a b => a.before b := by
  induction h with
  | nil => exact List.pairwise_singleton _ a
  | @cons b rest first behind ih =>
    rw [insert]
    split
    · exact .cons first behind
    · next ne =>
      split
      · next before =>
        refine .cons (fun c hc => ?_) (.cons first behind)
        obtain rfl | later := List.mem_cons.mp hc
        · exact before
        · exact before_trans before (first c later)
      · next notBefore =>
        refine .cons (fun c hc => ?_) ih
        obtain rfl | later := mem_insert.mp hc
        · exact before_of_not_before ne notBefore
        · exact first c later

theorem pairwise_canonical (refs : List NodeRef) :
    (canonical refs).Pairwise fun a b => a.before b := by
  induction refs with
  | nil => exact .nil
  | cons a rest ih => exact pairwise_insert a ih

theorem nodup_of_ascending {refs : List NodeRef} (h : refs.Pairwise fun a b => a.before b) :
    refs.Nodup := by
  refine h.imp fun {a b} before same => ?_
  subst same
  exact before_irrefl before

/-- A list in document order is determined by the nodes in it. -/
theorem eq_of_ascending {refs refs' : List NodeRef} (h : refs.Pairwise fun a b => a.before b)
    (h' : refs'.Pairwise fun a b => a.before b) (same : ∀ a, a ∈ refs ↔ a ∈ refs') :
    refs = refs' := by
  have perm : refs.Perm refs' :=
    (List.perm_ext_iff_of_nodup (nodup_of_ascending h) (nodup_of_ascending h')).mpr same
  exact perm.eq_of_pairwise (fun a b _ _ before behind => absurd behind (before_asymm before)) h h'

theorem canonical_congr {refs refs' : List NodeRef} (same : ∀ a, a ∈ refs ↔ a ∈ refs') :
    canonical refs = canonical refs' :=
  eq_of_ascending (pairwise_canonical refs) (pairwise_canonical refs') fun a => by
    rw [mem_canonical, mem_canonical, same]

/-! ### Nodes that exist -/

/-- The number is in use, and if an attribute is meant, the element has as many. -/
def ExistsIn (ns : NodeList) : NodeRef → Prop
  | node id => id < ns.size
  | attribute_ owner index => ∃ e, ns.element? owner = some e ∧ index < e.attributes.size

/-- The node, or the element that has the attribute, exists. -/
theorem ExistsIn.owner_lt {ns : NodeList} (h : a.ExistsIn ns) : a.owner < ns.size := by
  cases a with
  | node id => exact h
  | attribute_ owner index =>
    obtain ⟨e, he, -⟩ := h
    obtain ⟨n, hn, -⟩ := NodeList.element?_eq_some_iff.mp he
    exact (Array.getElem?_eq_some_iff.mp hn).1

end NodeRef

/-- A list of nodes that exist, strictly ascending in document order. -/
structure IsNodeSet (ns : NodeList) (refs : List NodeRef) : Prop where
  ascending : refs.Pairwise fun a b => a.before b
  present : ∀ a ∈ refs, a.ExistsIn ns

namespace IsNodeSet

variable {ns : NodeList} {refs refs' : List NodeRef}

theorem nodup (h : IsNodeSet ns refs) : refs.Nodup :=
  NodeRef.nodup_of_ascending h.ascending

theorem singleton {a : NodeRef} (h : a.ExistsIn ns) : IsNodeSet ns [a] where
  ascending := List.pairwise_singleton _ a
  present := List.forall_mem_singleton.mpr h

theorem sublist (h : IsNodeSet ns refs) (kept : refs'.Sublist refs) : IsNodeSet ns refs' where
  ascending := h.ascending.sublist kept
  present a ha := h.present a (kept.subset ha)

theorem canonical (present : ∀ a ∈ refs, a.ExistsIn ns) : IsNodeSet ns (canonical refs) where
  ascending := NodeRef.pairwise_canonical refs
  present a ha := present a (NodeRef.mem_canonical.mp ha)

theorem canonical_self (h : IsNodeSet ns refs) : NodeRef.canonical refs = refs :=
  NodeRef.eq_of_ascending (NodeRef.pairwise_canonical refs) h.ascending fun _ =>
    NodeRef.mem_canonical

end IsNodeSet

/-! ### Axes -/

section

variable {d : Document} {id : Nat}

theorem lt_of_mem_children {i : Nat} (h : i ∈ d.nodes.children id) :
    i < d.nodes.size := by
  rw [Document.size_nodes]
  exact NodeList.lt_size_of_parent? (NodeList.mem_children.mp h)

theorem lt_of_mem_siblings {i : Nat} (h : i ∈ siblings d.nodes id) : i < d.nodes.size := by
  rw [siblings] at h
  split at h
  · exact lt_of_mem_children h
  · cases h

theorem lt_of_mem_ancestors {i : Nat} (here : id < d.nodes.size) (h : i ∈ d.nodes.ancestors id) :
    i < d.nodes.size :=
  Nat.lt_trans (NodeList.mem_descendants.mp (NodeList.mem_ancestors_iff.mp h)).1 here

theorem lt_of_mem_descendants {i : Nat} (here : id < d.nodes.size)
    (h : i ∈ d.nodes.descendants id) : i < d.nodes.size :=
  Nat.lt_of_lt_of_le (NodeList.mem_descendants.mp h).2 (NodeList.add_extent_le here)

/-- There are only nodes on the axes from a node. -/
theorem lt_of_mem_nodesFrom {i : Nat} (here : id < d.nodes.size) {axis : Axis}
    (h : i ∈ nodesFrom d.nodes id axis) : i < d.nodes.size := by
  cases axis with
  | self => exact List.mem_singleton.mp h ▸ here
  | child => exact lt_of_mem_children h
  | descendant => exact lt_of_mem_descendants here h
  | descendantOrSelf =>
    obtain rfl | inside := List.mem_cons.mp h
    · exact here
    · exact lt_of_mem_descendants here inside
  | parent =>
    have parent := NodeList.inside_of_parent? (Option.mem_toList.mp h)
    exact Nat.lt_trans parent.1 here
  | ancestor => exact lt_of_mem_ancestors here h
  | ancestorOrSelf =>
    obtain rfl | above := List.mem_cons.mp h
    · exact here
    · exact lt_of_mem_ancestors here above
  | followingSibling => exact lt_of_mem_siblings (List.mem_of_mem_filter h)
  | precedingSibling =>
    exact lt_of_mem_siblings (List.mem_of_mem_filter (List.mem_reverse.mp h))
  | following =>
    have range := List.mem_range'_1.mp h
    omega
  | preceding =>
    have before := List.mem_range.mp (List.mem_of_mem_filter (List.mem_reverse.mp h))
    exact Nat.lt_trans before here
  | attribute_ | namespace_ => cases h

theorem lt_of_mem_nodesFromAttribute {i : Nat} (here : id < d.nodes.size) {axis : Axis}
    (h : i ∈ nodesFromAttribute d.nodes id axis) : i < d.nodes.size := by
  cases axis with
  | parent => exact List.mem_singleton.mp h ▸ here
  | ancestor | ancestorOrSelf =>
    obtain rfl | above := List.mem_cons.mp h
    · exact here
    · exact lt_of_mem_ancestors here above
  | following =>
    have range := List.mem_range'_1.mp h
    omega
  | preceding => exact lt_of_mem_nodesFrom here (show i ∈ nodesFrom d.nodes id .preceding from h)
  | _ => cases h

theorem axisNodes_node {ns : NodeList} {axis : Axis} (other : axis ≠ .attribute_) :
    axisNodes ns axis (node id) = (nodesFrom ns id axis).map node := by
  cases axis with
  | attribute_ => exact absurd rfl other
  | _ => rfl

/-- There are only nodes and attributes that exist on the axes from one. -/
theorem existsIn_of_mem_axisNodes {a b : NodeRef} (here : a.ExistsIn d.nodes) {axis : Axis}
    (h : b ∈ axisNodes d.nodes axis a) : b.ExistsIn d.nodes := by
  cases a with
  | node id =>
    by_cases attributes : axis = .attribute_
    · subst attributes
      rw [axisNodes] at h
      cases he : d.nodes.element? id with
      | none => simp [he] at h
      | some e =>
        simp only [he, List.mem_map, List.mem_range] at h
        obtain ⟨index, within, rfl⟩ := h
        exact ⟨e, he, within⟩
    · rw [axisNodes_node attributes] at h
      obtain ⟨i, hi, rfl⟩ := List.mem_map.mp h
      exact lt_of_mem_nodesFrom here hi
  | attribute_ owner index =>
    unfold axisNodes at h
    dsimp only at h
    obtain itself | other := List.mem_append.mp h
    · have same : b = attribute_ owner index := by
        cases axis <;> simp at itself <;> exact itself
      exact same ▸ here
    · obtain ⟨i, hi, rfl⟩ := List.mem_map.mp other
      exact lt_of_mem_nodesFromAttribute here.owner_lt hi

end

/-! ### Predicates and steps -/

section

variable {d : Document} {bindings : Bindings} {refs kept : List NodeRef}

theorem sublist_filterFrom {predicate : Context → Except XPathError Value} {size position : Nat}
    (h : filterFrom predicate size position refs = .ok kept) : kept.Sublist refs := by
  induction refs generalizing position kept with
  | nil =>
    cases h
    exact .slnil
  | cons a rest ih =>
    rw [filterFrom] at h
    obtain ⟨value, -, h⟩ := bind_eq_ok_iff.mp h
    obtain ⟨behind, hbehind, h⟩ := bind_eq_ok_iff.mp h
    cases h
    split
    · exact (ih hbehind).cons_cons a
    · exact (ih hbehind).cons a

/-- Predicates leave nodes out. -/
theorem sublist_filterAll {env : Environment} {predicates : List Expr} {refs : List NodeRef}
    (h : Expr.filterAll env predicates refs = .ok kept) : kept.Sublist refs := by
  induction predicates generalizing refs with
  | nil =>
    rw [Expr.filterAll] at h
    cases h
    exact .refl kept
  | cons predicate rest ih =>
    rw [Expr.filterAll] at h
    obtain ⟨first, hfirst, h⟩ := bind_eq_ok_iff.mp h
    exact (ih h).trans (sublist_filterFrom hfirst)

/-- What is selected for the nodes of a list is in document order, if only nodes are selected that
exist. -/
theorem unionOver_isNodeSet {ns : NodeList} {select : NodeRef → Except XPathError (List NodeRef)}
    (each : ∀ a ∈ refs, ∀ selected, select a = .ok selected → ∀ b ∈ selected, b.ExistsIn ns)
    (h : unionOver select refs = .ok kept) : IsNodeSet ns kept := by
  obtain ⟨found, hfound, h⟩ := bind_eq_ok_iff.mp h
  cases h
  refine .canonical fun b hb => ?_
  obtain ⟨selected, hselected, hb⟩ := List.mem_flatten.mp hb
  exact forall_mem_of_mapM hfound each selected hselected b hb

/-- What a step leads to from nodes that exist is a set of nodes. -/
theorem Step.eval_isNodeSet {step : Step} (present : ∀ a ∈ refs, a.ExistsIn d.nodes)
    (h : step.eval ⟨d.nodes, bindings⟩ refs = .ok kept) : IsNodeSet d.nodes kept := by
  obtain ⟨axis, test, predicates⟩ := step
  rw [Step.eval] at h
  obtain ⟨resolved, -, h⟩ := bind_eq_ok_iff.mp h
  refine unionOver_isNodeSet (fun a ha selected hselected b hb => ?_) h
  obtain ⟨found, hfound, hselected⟩ := bind_eq_ok_iff.mp hselected
  have hb := (sublist_filterAll hselected).subset hb
  rw [candidates] at hfound
  split at hfound
  · cases hfound
  · cases hfound
    exact existsIn_of_mem_axisNodes (present a ha) (List.mem_of_mem_filter hb)

/-- A path leads from a set of nodes to a set of nodes. -/
theorem Step.evalAll_isNodeSet {steps : List Step} (start : IsNodeSet d.nodes refs)
    (h : Step.evalAll ⟨d.nodes, bindings⟩ steps refs = .ok kept) : IsNodeSet d.nodes kept := by
  induction steps generalizing refs with
  | nil =>
    rw [Step.evalAll] at h
    cases h
    exact start
  | cons step rest ih =>
    rw [Step.evalAll] at h
    obtain ⟨next, hnext, h⟩ := bind_eq_ok_iff.mp h
    exact ih (Step.eval_isNodeSet start.present hnext) h

end

/-! ### Expressions -/

section

variable {d : Document} {bindings : Bindings} {context : Context}

theorem toNodes_eq_ok_iff {value : Value} {refs : List NodeRef} :
    value.toNodes = .ok refs ↔ value = .nodeSet refs := by
  cases value <;> simp [Value.toNodes]

/-- Of the functions only `id` yields nodes, and it yields a set of nodes. -/
theorem Function.apply_isNodeSet {f : Function} {values : List Value} {refs : List NodeRef}
    (h : f.apply d.nodes context values = .ok (.nodeSet refs)) : IsNodeSet d.nodes refs := by
  cases f with
  | id =>
    cases h
    refine .canonical fun a ha => ?_
    obtain ⟨i, hi, rfl⟩ := List.mem_map.mp ha
    obtain ⟨word, -, found⟩ := List.mem_filterMap.mp hi
    exact List.mem_range.mp (List.mem_of_find?_eq_some found)
  | count | sum | localName | namespaceUri | name =>
    obtain ⟨_, -, h⟩ := bind_eq_ok_iff.mp h
    cases h
  | _ => cases h

/-- The value of a union, if it has one: both operands are sets of nodes. -/
theorem eval_union_eq_ok_iff {env : Environment} {l r : Expr} {value : Value} :
    (Expr.union l r).eval env context = .ok value ↔ ∃ a b, l.eval env context = .ok (.nodeSet a)
      ∧ r.eval env context = .ok (.nodeSet b) ∧ value = .nodeSet (canonical (a ++ b)) := by
  rw [Expr.eval]
  constructor
  · intro h
    obtain ⟨x, hx, h⟩ := bind_eq_ok_iff.mp h
    obtain ⟨a, ha, h⟩ := bind_eq_ok_iff.mp h
    obtain ⟨y, hy, h⟩ := bind_eq_ok_iff.mp h
    obtain ⟨b, hb, h⟩ := bind_eq_ok_iff.mp h
    cases toNodes_eq_ok_iff.mp ha
    cases toNodes_eq_ok_iff.mp hb
    cases h
    exact ⟨a, b, hx, hy, rfl⟩
  · rintro ⟨a, b, ha, hb, rfl⟩
    rw [ha, hb]
    rfl

/-- The nodes that an expression evaluates to, from a node or attribute that exists, are a set of
nodes. -/
theorem Expr.eval_isNodeSet (here : context.node.ExistsIn d.nodes) {e : Expr}
    {refs : List NodeRef} (h : e.eval ⟨d.nodes, bindings⟩ context = .ok (.nodeSet refs)) :
    IsNodeSet d.nodes refs := by
  -- Only unions, calls, paths and filters have nodes as their values.
  match e with
  | .number _ | .literal _ =>
    rw [Expr.eval] at h
    cases h
  | .negate operand =>
    rw [Expr.eval] at h
    obtain ⟨_, -, h⟩ := bind_eq_ok_iff.mp h
    cases h
  | .binary op left right =>
    rw [Expr.eval] at h
    obtain ⟨l, -, h⟩ := bind_eq_ok_iff.mp h
    split at h
    · cases h
    split at h
    · cases h
    obtain ⟨r, -, h⟩ := bind_eq_ok_iff.mp h
    split at h
    · cases h
    split at h
    · cases h
    · cases h
  | .union left right =>
    obtain ⟨a, b, ha, hb, same⟩ := eval_union_eq_ok_iff.mp h
    cases same
    refine .canonical fun c hc => ?_
    obtain hc | hc := List.mem_append.mp hc
    · exact (eval_isNodeSet here ha).present c hc
    · exact (eval_isNodeSet here hb).present c hc
  | .call name arguments =>
    rw [Expr.eval] at h
    obtain ⟨f, -, h⟩ := bind_eq_ok_iff.mp h
    obtain ⟨values, -, h⟩ := bind_eq_ok_iff.mp h
    exact Function.apply_isNodeSet h
  | .path absolute steps =>
    rw [Expr.eval] at h
    obtain ⟨found, hfound, h⟩ := bind_eq_ok_iff.mp h
    cases h
    refine Step.evalAll_isNodeSet (.singleton ?_) hfound
    split
    · show 0 < d.nodes.size
      rw [Document.size_nodes, Document.size]
      omega
    · exact here
  | .filter primary predicates steps =>
    rw [Expr.eval] at h
    obtain ⟨value, hvalue, h⟩ := bind_eq_ok_iff.mp h
    obtain ⟨nodes, hnodes, h⟩ := bind_eq_ok_iff.mp h
    obtain ⟨kept, hkept, h⟩ := bind_eq_ok_iff.mp h
    obtain ⟨found, hfound, h⟩ := bind_eq_ok_iff.mp h
    cases h
    cases toNodes_eq_ok_iff.mp hnodes
    have primary := eval_isNodeSet here hvalue
    exact Step.evalAll_isNodeSet (primary.sublist (sublist_filterAll hkept)) hfound

/-! ### Unions -/

section

variable {env : Environment} {l r m : Expr} {a b c : List NodeRef}

theorem eval_union (hl : l.eval env context = .ok (.nodeSet a))
    (hr : r.eval env context = .ok (.nodeSet b)) :
    (l.union r).eval env context = .ok (.nodeSet (canonical (a ++ b))) :=
  eval_union_eq_ok_iff.mpr ⟨a, b, hl, hr, rfl⟩

theorem eval_union_comm (hl : l.eval env context = .ok (.nodeSet a))
    (hr : r.eval env context = .ok (.nodeSet b)) :
    (l.union r).eval env context = (r.union l).eval env context := by
  have same : canonical (a ++ b) = canonical (b ++ a) :=
    NodeRef.canonical_congr fun n => by simp only [List.mem_append, or_comm]
  rw [eval_union hl hr, eval_union hr hl, same]

theorem eval_union_assoc (hl : l.eval env context = .ok (.nodeSet a))
    (hr : r.eval env context = .ok (.nodeSet b)) (hm : m.eval env context = .ok (.nodeSet c)) :
    ((l.union r).union m).eval env context = (l.union (r.union m)).eval env context := by
  have same : canonical (canonical (a ++ b) ++ c) = canonical (a ++ canonical (b ++ c)) :=
    NodeRef.canonical_congr fun n => by
      simp only [List.mem_append, NodeRef.mem_canonical, or_assoc]
  rw [eval_union (eval_union hl hr) hm, eval_union hl (eval_union hr hm), same]

end

/-- A set of nodes united with itself is that set. -/
theorem eval_union_self (here : context.node.ExistsIn d.nodes) {e : Expr} {refs : List NodeRef}
    (h : e.eval ⟨d.nodes, bindings⟩ context = .ok (.nodeSet refs)) :
    (e.union e).eval ⟨d.nodes, bindings⟩ context = .ok (.nodeSet refs) := by
  have same : canonical (refs ++ refs) = canonical refs :=
    NodeRef.canonical_congr fun n => by simp only [List.mem_append, or_self]
  rw [eval_union h h, same, (Expr.eval_isNodeSet here h).canonical_self]

end

/-- **Sets of nodes are canonical**: whatever expression is evaluated, for whatever context in a
document, a set of nodes that comes out ascends strictly in document order, has no node twice, and
has only nodes and attributes that exist.  A union of two sets has the nodes of either, and as a
set of nodes is determined by the nodes in it, unions are commutative, associative and
idempotent. -/
theorem nodeSets_canonical (d : Document) (bindings : Bindings) (context : Context)
    (here : context.node.ExistsIn d.nodes) :
    let value := fun e : Expr => e.eval ⟨d.nodes, bindings⟩ context
    (∀ e refs, value e = .ok (.nodeSet refs) →
      (refs.Pairwise fun a b => a.before b) ∧ refs.Nodup ∧ ∀ a ∈ refs, a.ExistsIn d.nodes)
    ∧ ∀ l r a b, value l = .ok (.nodeSet a) → value r = .ok (.nodeSet b) →
      (∃ both, value (.union l r) = .ok (.nodeSet both) ∧ ∀ n, n ∈ both ↔ n ∈ a ∨ n ∈ b)
      ∧ value (.union l r) = value (.union r l)
      ∧ value (.union l l) = value l
      ∧ ∀ m c, value m = .ok (.nodeSet c) →
        value (.union (.union l r) m) = value (.union l (.union r m)) := by
  intro value
  refine ⟨fun e refs h => ?_, fun l r a b hl hr => ⟨⟨_, eval_union hl hr, fun n => ?_⟩, ?_, ?_, ?_⟩⟩
  · have nodes := Expr.eval_isNodeSet here h
    exact ⟨nodes.ascending, nodes.nodup, nodes.present⟩
  · rw [NodeRef.mem_canonical, List.mem_append]
  · exact eval_union_comm hl hr
  · exact (eval_union_self here hl).trans hl.symm
  · exact fun m c hm => eval_union_assoc hl hr hm

/-- `<a x="1"><b/></a>` -/
def attributedPage : Document :=
  let a : Element := ⟨.plain "a", .ofList [(.plain "x", "1")], .empty, none⟩
  ⟨none, .element a (.element (.ofName (.plain "b")) .nil .nil) .nil⟩

/-- `/descendant::node() | @*` from the element at the top: the attribute comes between the two
elements. -/
theorem nodeSets_canonical_attributedPage :
    let value := fun e : Expr => e.eval ⟨attributedPage.nodes, .empty⟩ ⟨.node 1, 1, 1⟩
    let elements : Expr := .path true [.plain .descendant .node]
    let attributes : Expr := .path false [.plain .attribute_ .node]
    value (.union elements attributes) = .ok (.nodeSet [node 1, attribute_ 1 0, node 2])
      ∧ [node 1, attribute_ 1 0, node 2].Nodup
      ∧ value (.union elements attributes) = value (.union attributes elements) := by
  intro value elements attributes
  have here : (node 1).ExistsIn attributedPage.nodes :=
    show 1 < attributedPage.nodes.size by decide
  have both : value (.union elements attributes)
      = .ok (.nodeSet [node 1, attribute_ 1 0, node 2]) := rfl
  obtain ⟨sets, unions⟩ := nodeSets_canonical attributedPage .empty ⟨node 1, 1, 1⟩ here
  exact ⟨both, (sets _ _ both).2.1, (unions elements attributes [node 1, node 2] [attribute_ 1 0]
    rfl rfl).2.1⟩

end Transclusion.XPath
