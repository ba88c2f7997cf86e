import Transclusion.Inclusion.Control
import Transclusion.Markup.Reading
import Transclusion.Proofs.Fragment.Copies
import Transclusion.Proofs.Markup.Kinds
/-!
# The check for loops within a document

An include that refers to its own document must not select a node that it is inside of.  With
schemes for markup (`MarkupScheme`) this is found out exactly: the first scheme that selects
anything decides, and a loop is reported if and only if the include is in the subtree of one of the
nodes that it selects.  Otherwise the result holds copies of what is in these subtrees, and so none
of the include (`Copied`).

* `MarkupScheme.outcome_select`: what a scheme for markup does.
* `selectWith_loop_iff`: when a loop is reported, and of what the result is made otherwise.
-/

namespace Transclusion

open XPath (NodeRef)

/-! ### What is within a selection -/

/-- A node in the subtree of a selected one, or a selected attribute. -/
def Within (d : Document) (selected : List NodeRef) : NodeRef → Prop
  | .node j => ∃ m, .node m ∈ selected ∧ (j = m ∨ j ∈ d.nodes.descendants m)
  | .attribute_ owner index => .attribute_ owner index ∈ selected

/-- What a copy of something within a selection is. Elements may have been fixed up, and texts that
have become neighbours have been run together, those of selected attributes among them. -/
inductive Copied (d : Document) (fixup : FixupContext) (selected : List NodeRef) : NodeKind → Prop
  | element {j : Nat} {e : Element} (within : Within d selected (.node j))
      (found : d.nodes.element? j = some e) : Copied d fixup selected (.element e)
  | fixedUp {j : Nat} {e : Element} (within : Within d selected (.node j))
      (found : fixup.element? d.nodes j = some e) : Copied d fixup selected (.element e)
  | leaf {j : Nat} {l : Leaf} (within : Within d selected (.node j))
      (found : d.nodes.leaf? j = some l) (other : ∀ s, l ≠ .text s) :
      Copied d fixup selected (.leaf l)
  | text {origins : List NodeRef} (nonempty : origins ≠ [])
      (within : ∀ o ∈ origins, Within d selected o)
      (texts : ∀ j, .node j ∈ origins → ∃ s, d.nodes.leaf? j = some (.text s)) :
      Copied d fixup selected (.leaf (.text (String.join (origins.map (·.stringValue d.nodes)))))

namespace Copied

variable {d : Document} {fixup : FixupContext} {selected : List NodeRef}

/-- Texts may be run together. -/
theorem joined (s t : String) (hs : Copied d fixup selected (.leaf (.text s)))
    (ht : Copied d fixup selected (.leaf (.text t))) :
    Copied d fixup selected (.leaf (.text (s ++ t))) := by
  cases hs with
  | leaf _ _ other => exact absurd rfl (other s)
  | @text origins nonempty within texts =>
  cases ht with
  | leaf _ _ other => exact absurd rfl (other t)
  | @text origins' _ within' texts' =>
    rw [← String.join_append, ← List.map_append]
    refine .text (by simp [nonempty]) ?_ ?_
    · intro o ho
      obtain ho | ho := List.mem_append.mp ho
      · exact within o ho
      · exact within' o ho
    · intro j hj
      obtain hj | hj := List.mem_append.mp hj
      · exact texts j hj
      · exact texts' j hj

/-- A node that is not the document is a copy of itself. -/
theorem of_kind? {j : Nat} {kind : NodeKind} (within : Within d selected (.node j))
    (found : d.nodes.kind? j = some kind) (inner : ∀ base, kind ≠ .document base) :
    Copied d fixup selected kind := by
  cases kind with
  | document base => exact absurd rfl (inner base)
  | element e => exact .element within (by rw [NodeList.element?, found])
  | leaf l =>
    have hleaf : d.nodes.leaf? j = some l := by rw [NodeList.leaf?, found]
    cases l with
    | text s =>
      have value : String.join ([NodeRef.node j].map (·.stringValue d.nodes)) = s := by
        simp [NodeRef.stringValue, NodeList.stringValue, hleaf]
      rw [← value]
      exact .text (List.cons_ne_nil _ _) (List.forall_mem_singleton.mpr within) (by
        intro k hk
        cases List.mem_singleton.mp hk
        exact ⟨s, hleaf⟩)
    | comment s => exact .leaf within hleaf (by simp)
    | instruction target data => exact .leaf within hleaf (by simp)

variable {m : Nat} (h : .node m ∈ selected)

include h

/-- What is inside a selected node. -/
theorem content {t : Subtree} (ht : d.subtree? m = some t) :
    t.content.AllKinds (Copied d fixup selected) := by
  rw [Forest.allKinds_iff m (m + 1)]
  intro n hn
  obtain ⟨k, hk, rfl⟩ := List.getElem_of_mem hn
  rw [Forest.length_nodes] at hk
  have here := Document.nodeList_inside ht hk
  rw [List.getElem?_eq_getElem (l := t.content.nodes m (m + 1)) (by rwa [Forest.length_nodes])]
    at here
  have within : Within d selected (.node (m + 1 + k)) := by
    refine ⟨m, h, .inr (NodeList.mem_descendants.mpr ⟨by omega, ?_⟩)⟩
    rw [Document.extent_eq ht, Subtree.size]
    omega
  refine of_kind? within (by rw [NodeList.kind?, Document.nodes_getElem?, here]; rfl) ?_
  have inner := (Forest.allKinds_iff m (m + 1) t.content).mp
    (Forest.allKinds_of_forall (p := fun kind => ∀ base, kind ≠ .document base) (by simp)
      (by simp) t.content)
  exact inner _ hn

theorem toForest {t : Subtree} (ht : d.subtree? m = some t) :
    t.toForest.AllKinds (Copied d fixup selected) := by
  have inside : t.content.AllKinds (Copied d fixup selected) := content h ht
  obtain ⟨q, hq⟩ := Document.nodeList_getElem? ht
  have here : d.nodes.kind? m = some t.kind := by
    rw [NodeList.kind?, Document.nodes_getElem?, hq]
    rfl
  cases t with
  | document d' => exact inside
  | element e content => exact ⟨of_kind? ⟨m, h, .inl rfl⟩ here (by simp), inside, trivial⟩
  | leaf l =>
    exact Forest.allKinds_consLeaf joined (of_kind? ⟨m, h, .inl rfl⟩ here (by simp)) trivial

/-- A selected element that is fixed up, with its content. -/
theorem fixed {e : Element} {t : Subtree} (he : fixup.element? d.nodes m = some e)
    (ht : d.subtree? m = some t) :
    (Forest.element e t.content .nil).AllKinds (Copied d fixup selected) :=
  ⟨.fixedUp ⟨m, h, .inl rfl⟩ he, content h ht, trivial⟩

end Copied

namespace ExpressionPointer

variable {context : SelectionContext} {selected : List NodeRef}

theorem copied_copyOf {o : NodeRef} (h : o ∈ selected) :
    (copyOf context context.document.nodes o).AllKinds
      (Copied context.document context.fixup selected) := by
  cases o with
  | attribute_ owner index =>
    have value : Copied context.document context.fixup selected (.leaf (.text (String.join
        ([NodeRef.attribute_ owner index].map (·.stringValue context.document.nodes))))) := by
      refine .text (List.cons_ne_nil _ _) (List.forall_mem_singleton.mpr h) ?_
      intro j hj
      cases List.mem_singleton.mp hj
    refine Forest.allKinds_consLeaf (l := .text _) Copied.joined ?_ trivial
    simpa using value
  | node id =>
    unfold copyOf
    dsimp only
    split
    · next e t he ht => exact Copied.fixed h he ht
    · next t he ht => exact Copied.toForest h ht
    · trivial

theorem copied_copyAll (nodes : List NodeRef) :
    (copyAll context context.document.nodes nodes).content.AllKinds
      (Copied context.document context.fixup nodes) := by
  have each : ∀ os : List NodeRef, (∀ o ∈ os, o ∈ nodes) →
      (os.foldr (fun o copies => (copyOf context context.document.nodes o).append copies)
        Forest.nil).AllKinds (Copied context.document context.fixup nodes) := by
    intro os
    induction os with
    | nil => exact fun _ => trivial
    | cons o os ih =>
      intro hos
      rw [List.foldr_cons]
      exact Forest.allKinds_append Copied.joined (copied_copyOf (hos o List.mem_cons_self))
        (ih fun o' ho' => hos o' (List.mem_cons_of_mem o ho'))
  exact each nodes fun o ho => ho

end ExpressionPointer

/-! ### Schemes for markup -/

/-- A scheme that selects markup: `element`, `xpath` or `xmlns`. -/
inductive MarkupScheme where
  | element (pointer : ElementPointer)
  | expression (pointer : ExpressionPointer)
  | binding (b : NamespaceBinding)

namespace MarkupScheme

def scheme : MarkupScheme → Scheme
  | element pointer => pointer.scheme
  | expression pointer => pointer.scheme
  | .binding b => b.scheme

/-- The nodes and attributes that a scheme selects under bindings; none if it fails. -/
def selected (bindings : List (String × String)) (d : Document) : MarkupScheme → List NodeRef
  | element pointer =>
    ((pointer.locate? d.nodes).filter d.nodes.isElement).toList.map NodeRef.node
  | expression pointer =>
    match XPath.Expr.read pointer.source with
    | .error _ => []
    | .ok e =>
      match e.evaluate d 0 (.ofList bindings) with
      | .ok (.nodeSet nodes) => nodes
      | _ => []
  | .binding _ => []

/-- The bindings that a scheme passes on. -/
def passedOn : MarkupScheme → List (String × String)
  | .binding b => [(b.nsPrefix, b.uri)]
  | _ => []

/-- What the first scheme that selects anything selects. -/
def firstSelected (d : Document) : List (String × String) → List MarkupScheme → List NodeRef
  | _, [] => []
  | bindings, s :: rest =>
    match s.selected bindings d with
    | [] => firstSelected d (bindings ++ s.passedOn) rest
    | nodes => nodes

/-- What can become of a scheme for markup: it fails, it selects nothing, or it selects copies of
what is within its selection and reports the nodes of that. -/
inductive Outcome (context : SelectionContext) (nodes : List NodeRef)
    (passedOn : List (String × String)) : Except SelectionError Selection → Prop
  | failed {e : SelectionError} (nothing : nodes = []) (silent : passedOn = []) :
      Outcome context nodes passedOn (.error e)
  | nothing (nothing : nodes = []) :
      Outcome context nodes passedOn (.ok ⟨false, none, passedOn, []⟩)
  | found {result : Document} (something : nodes ≠ [])
      (copied : result.content.AllKinds (Copied context.document context.fixup nodes)) :
      Outcome context nodes passedOn
        (.ok ⟨true, some result, [], ExpressionPointer.numbersOf nodes⟩)

theorem outcome_element (pointer : ElementPointer) (bindings : List (String × String))
    (context : SelectionContext) :
    Outcome context ((element pointer).selected bindings context.document) []
      (.ok (pointer.select context)) := by
  rw [selected, ElementPointer.select]
  cases pointer.locate? context.document.nodes with
  | none => exact .nothing rfl
  | some id =>
    dsimp only
    cases he : context.document.nodes.element? id with
    | none =>
      rw [FixupContext.element?, he]
      refine .nothing ?_
      simp [Option.filter, NodeList.isElement, he]
    | some e =>
      obtain ⟨t, ht⟩ := Document.exists_subtree? (Document.bounds_of_element? he).2
      have located : ((some id).filter context.document.nodes.isElement).toList.map NodeRef.node
          = [NodeRef.node id] := by
        simp [Option.filter, NodeList.isElement, he]
      have fixedUp : context.fixup.element? context.document.nodes id
          = some (context.fixup.apply (context.document.nodes.lang? id) e) := by
        rw [FixupContext.element?, he]
        rfl
      rw [located, fixedUp, ht]
      exact .found (List.cons_ne_nil _ _) (Copied.fixed List.mem_cons_self fixedUp ht)

theorem outcome_expression (pointer : ExpressionPointer) (bindings : List (String × String))
    (context : SelectionContext) :
    Outcome context ((expression pointer).selected bindings context.document) []
      (pointer.select (.ofList bindings) context) := by
  rw [selected, ExpressionPointer.select]
  cases XPath.Expr.read pointer.source with
  | error e => exact .failed rfl rfl
  | ok e =>
    simp only [Except.mapError, bind, Except.bind]
    cases e.evaluate context.document 0 (.ofList bindings) with
    | error fault => exact .failed rfl rfl
    | ok value =>
      cases value with
      | nodeSet nodes =>
        cases nodes with
        | nil => exact .nothing rfl
        | cons node nodes =>
          exact .found (List.cons_ne_nil _ _) (ExpressionPointer.copied_copyAll (node :: nodes))
      | number _ => exact .failed rfl rfl
      | string _ => exact .failed rfl rfl
      | boolean _ => exact .failed rfl rfl

/-- **What a scheme for markup does**. -/
theorem outcome_select (s : MarkupScheme) (bindings : List (String × String))
    (context : SelectionContext) :
    Outcome context (s.selected bindings context.document) s.passedOn
      (s.scheme.select bindings context) := by
  cases s with
  | element pointer => exact outcome_element pointer bindings context
  | expression pointer => exact outcome_expression pointer bindings context
  | binding b => exact .nothing rfl

end MarkupScheme

/-! ### The check -/

/-- The nodes around an include are those with the include in their subtree. -/
theorem AncestorSet.mem_ofInclude {d : Document} {i m : Nat} :
    m ∈ (ofInclude d.nodes i).numbers ↔ i = m ∨ i ∈ d.nodes.descendants m := by
  rw [ofInclude, List.mem_cons, NodeList.mem_ancestors_iff, eq_comm]

theorem ExpressionPointer.mem_numbersOf {nodes : List NodeRef} {m : Nat} :
    m ∈ numbersOf nodes ↔ .node m ∈ nodes := by
  rw [numbersOf, List.mem_filterMap]
  constructor
  · rintro ⟨o, ho, same⟩
    cases o with
    | node id =>
      cases same
      exact ho
    | attribute_ owner index => cases same
  · intro h
    exact ⟨.node m, h, rfl⟩

/-- A selection is refused if the include is in the subtree of one of its nodes. -/
theorem AncestorSet.check_eq {d : Document} {i : Nat} {nodes : List NodeRef} :
    (ofInclude d.nodes i).check (ExpressionPointer.numbersOf nodes) = .error (.loop .ancestor)
        ∧ Within d nodes (.node i)
      ∨ (ofInclude d.nodes i).check (ExpressionPointer.numbersOf nodes) = .ok ()
        ∧ ¬ Within d nodes (.node i) := by
  obtain ⟨refused, m, hm, around⟩ | ⟨passed, clear⟩ :=
    (ofInclude d.nodes i).check_cases (ExpressionPointer.numbersOf nodes)
  · exact .inl ⟨refused, m, ExpressionPointer.mem_numbersOf.mp hm, mem_ofInclude.mp around⟩
  · refine .inr ⟨passed, ?_⟩
    rintro ⟨m, hm, around⟩
    exact clear m (ExpressionPointer.mem_numbersOf.mpr hm) (mem_ofInclude.mpr around)

theorem not_within_nil {d : Document} {o : NodeRef} : ¬ Within d [] o := by
  cases o with
  | node i =>
    rintro ⟨m, hm, -⟩
    cases hm
  | attribute_ owner index => exact List.not_mem_nil

namespace MarkupScheme

variable (context : SelectionContext) (i : Nat) (fragment : String)

/-- What can become of a search for an include: it ends in a loop, without a selection, or with
copies of what is within the first one. -/
theorem selectFrom_cases (bindings : List (String × String)) (failure : Option SelectionError)
    (schemes : List MarkupScheme) :
    (selectFrom context (some (.ofInclude context.document.nodes i)) fragment bindings failure
            (schemes.map scheme) = .error (.loop .ancestor)
        ∧ Within context.document (firstSelected context.document bindings schemes) (.node i))
      ∨ (∃ cause, selectFrom context (some (.ofInclude context.document.nodes i)) fragment bindings
            failure (schemes.map scheme) = .error (.noFragment fragment cause)
        ∧ firstSelected context.document bindings schemes = [])
      ∨ ∃ result, selectFrom context (some (.ofInclude context.document.nodes i)) fragment bindings
            failure (schemes.map scheme) = .ok (result, ExpressionPointer.numbersOf
              (firstSelected context.document bindings schemes))
        ∧ ¬ Within context.document (firstSelected context.document bindings schemes) (.node i)
        ∧ result.content.AllKinds (Copied context.document context.fixup
            (firstSelected context.document bindings schemes)) := by
  -- On the schemes: one that selects nothing hands its bindings, or its failure, on to the next.
  induction schemes generalizing bindings failure with
  | nil => exact .inr (.inl ⟨failure, rfl, rfl⟩)
  | cons s schemes ih =>
    have outcome := s.outcome_select bindings context
    rw [List.map_cons, selectFrom, Scheme.attempt, firstSelected]
    generalize s.selected bindings context.document = nodes at outcome ⊢
    generalize s.scheme.select bindings context = selection at outcome ⊢
    cases outcome with
    | @failed e nothing silent =>
      subst nothing
      rw [silent, List.append_nil]
      exact ih bindings (some e)
    | nothing nothing =>
      subst nothing
      exact ih (bindings ++ s.passedOn) failure
    | @found result something copied =>
      obtain ⟨o, os, rfl⟩ := List.exists_cons_of_ne_nil something
      dsimp only
      obtain ⟨refused, within⟩ | ⟨passed, outside⟩ :=
        @AncestorSet.check_eq context.document i (o :: os)
      · rw [refused]
        exact .inl ⟨rfl, within⟩
      · rw [passed]
        exact .inr (.inr ⟨result, rfl, outside, copied⟩)

end MarkupScheme

/-! ### A page with two texts -/

namespace TwoTexts

def bindings : Bindings := .ofList [("xi", xincludeNamespace)]

/-- A page whose texts are kept apart by an empty element, and with an include behind them. -/
def page : Document :=
  ⟨none, .element ⟨.inNamespace none "a", .empty, bindings, none⟩
    (.leaf (.text "x") (.element ⟨.inNamespace none "b", .empty, bindings, none⟩ .nil
      (.leaf (.text "y") (.element ⟨.prefixed "xi" xincludeNamespace "include",
        .ofList [(.plain "xpointer", "xpath(//text())")], bindings, none⟩ .nil .nil)))) .nil⟩

/-- The page in writing. -/
def written : String :=
  "<a xmlns:xi='http://www.w3.org/2001/XInclude'>x<b/>y<xi:include xpointer='xpath(//text())'/></a>"

/-- Selects all texts. -/
def texts : MarkupScheme := .expression ⟨"//text()"⟩

/-- Nothing is fixed up. -/
def fixup : FixupContext := ⟨⟨false, false, false, false⟩, none, none⟩

def result : Document := ⟨none, .leaf (.text "xy") .nil⟩

theorem selectWith_texts :
    selectWith [texts.scheme] ⟨page, fixup⟩ (some (.ofInclude page.nodes 5)) "xpath(//text())"
      = .ok (result, [2, 4]) := eq_ok_of_toOption (by decide +kernel)

end TwoTexts

open TwoTexts in
/-- The texts that an include selects become one, which is a copy of no node of the page. -/
theorem selected_texts_joined :
    Document.read none written = .ok page
      ∧ selectWith [texts.scheme] ⟨page, fixup⟩ (some (.ofInclude page.nodes 5)) "xpath(//text())"
        = .ok (result, [2, 4])
      ∧ result.nodes.kind? 1 = some (.leaf (.text "xy"))
      ∧ ∀ j, page.nodes.kind? j ≠ some (.leaf (.text "xy")) := by
  refine ⟨eq_ok_of_toOption (by decide +kernel), selectWith_texts, rfl, fun j hj => ?_⟩
  obtain ⟨n, hn, hkind⟩ := Option.map_eq_some_iff.mp hj
  have other : ∀ n ∈ page.nodeList, n.kind ≠ .leaf (.text "xy") := by decide
  rw [Document.nodes_getElem?] at hn
  exact other n (List.mem_of_getElem? hn) hkind

/-- **The check for loops within a document is exact.** With schemes for markup, a loop is reported
if and only if the first scheme that selects anything selects a node with the include in its
subtree. Otherwise the nodes reported are those that it selects, and every node of the result is a
copy of what is within the selection, the include not being so. -/
theorem selectWith_loop_iff (d : Document) (fixup : FixupContext) (i : Nat)
    (schemes : List MarkupScheme) (fragment : String) :
    let outcome :=
      selectWith (schemes.map (·.scheme)) ⟨d, fixup⟩ (some (.ofInclude d.nodes i)) fragment
    let selected := MarkupScheme.firstSelected d [] schemes
    ((∃ fault, outcome = .error (.loop fault))
        ↔ ∃ m, .node m ∈ selected ∧ (i = m ∨ i ∈ d.nodes.descendants m))
      ∧ ∀ result matched, outcome = .ok (result, matched) →
        (∀ m, m ∈ matched ↔ .node m ∈ selected)
          ∧ ¬ Within d selected (.node i)
          ∧ ∀ k kind, 1 ≤ k → result.nodes.kind? k = some kind → Copied d fixup selected kind := by
  intro outcome selected
  -- Of the three endings, only one has the include within what is selected.
  obtain ⟨looped, within⟩ | ⟨cause, missed, nothing⟩ | ⟨result, found, outside, copied⟩ :=
    MarkupScheme.selectFrom_cases ⟨d, fixup⟩ i fragment [] none schemes
  · replace looped : outcome = .error (.loop .ancestor) := looped
    rw [looped]
    exact ⟨⟨fun _ => within, fun _ => ⟨_, rfl⟩⟩, nofun⟩
  · replace missed : outcome = .error (.noFragment fragment cause) := missed
    rw [missed]
    refine ⟨⟨fun ⟨fault, h⟩ => (by cases h), fun within => ?_⟩, nofun⟩
    have within' : Within d selected (.node i) := within
    rw [show selected = [] from nothing] at within'
    exact absurd within' not_within_nil
  · replace found : outcome = .ok (result, ExpressionPointer.numbersOf selected) := found
    rw [found]
    refine ⟨⟨fun ⟨fault, h⟩ => (by cases h), fun within => absurd within outside⟩, ?_⟩
    rintro _ _ ⟨⟩
    refine ⟨fun m => ExpressionPointer.mem_numbersOf, outside, fun k kind hk hkind => ?_⟩
    obtain ⟨n, hn, rfl⟩ := Option.map_eq_some_iff.mp hkind
    rw [Document.nodes_getElem?] at hn
    obtain ⟨k, rfl⟩ := Nat.exists_eq_succ_of_ne_zero (Nat.ne_of_gt hk)
    exact (Forest.allKinds_iff 0 1 result.content).mp copied n (List.mem_of_getElem? hn)

open TwoTexts in
theorem selectWith_loop_iff_two_texts :
    selectWith [texts.scheme] ⟨page, fixup⟩ (some (.ofInclude page.nodes 5)) "xpath(//text())"
        = .ok (result, [2, 4])
      ∧ Copied page fixup [.node 2, .node 4] (.leaf (.text "xy"))
      ∧ ¬ Within page [.node 2, .node 4] (.node 5) := by
  have selected : MarkupScheme.firstSelected page [] [texts] = [.node 2, .node 4] := by
    decide +kernel
  have check := selectWith_loop_iff page fixup 5 [texts] "xpath(//text())"
  rw [selected] at check
  obtain ⟨-, outside, copied⟩ := check.2 result [2, 4] selectWith_texts
  exact ⟨selectWith_texts, copied 1 _ (Nat.le_refl 1) rfl, outside⟩

end Transclusion
