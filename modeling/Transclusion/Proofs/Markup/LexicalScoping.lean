import Transclusion.Proofs.Markup.Arena
import Transclusion.Proofs.Markup.Building
import Transclusion.Proofs.Markup.Languages
import Transclusion.Proofs.Markup.WrittenElements
/-!
# Lexical scoping

What is in scope on an element follows from its own tag and from the element around it.  A reading
finds it on a stack that is pushed and popped along the way; in the document it is what the parent
hands down (`Document.around`).

`Forest.situated` lists the elements of a forest in document order, each with its surroundings.  The
elements of a builder under way are listed the same way (`Builder.situated`), and each step of a
reading puts the element of a tag at the end of that list (`Reading.IsScoped.follows`).

* `EventScan.scopes_lexically`: the elements of a document that is read are those of the tags, each
  in the surroundings that it has in the document; and a prefix is bound on it as the nearest of the
  element and its ancestors that declares the prefix says.
-/

namespace Transclusion

/-! ### Declarations -/

/-- What a declaration makes of a prefix: it binds it, leaves it without a binding, or is not about
it. -/
def Declaration.of? (p : String) : Declaration → Option (Option String)
  | ofDefault uri => if p = "" then some (nonEmpty? uri) else none
  | ofPrefix nsPrefix uri => if p = nsPrefix then some (some uri) else none

namespace Bindings

theorem get?_insert (b : Bindings) (nsPrefix uri p : String) :
    (b.insert nsPrefix uri).get? p = if p = nsPrefix then some uri else b.get? p := by
  rw [Table.get?_insert]
  exact if_congr eq_comm rfl rfl

theorem get?_declare_of (b : Bindings) (x : Declaration) (p : String) :
    (b.declare x).get? p = (x.of? p).getD (b.get? p) := by
  cases x with
  | ofDefault uri =>
    by_cases isDefault : p = ""
    · subst isDefault
      rw [Declaration.of?, if_pos rfl, Option.getD_some, nonEmpty?, declare]
      split
      · exact Table.get?_erase_self b ""
      · rw [get?_insert, if_pos rfl]
    · rw [Declaration.of?, if_neg isDefault, Option.getD_none, declare]
      split
      · exact Table.get?_erase_of_ne b isDefault
      · rw [get?_insert, if_neg isDefault]
  | ofPrefix nsPrefix uri =>
    rw [declare, get?_insert, Declaration.of?]
    split <;> rfl

/-- Of several declarations the last one that is about a prefix counts. -/
theorem get?_foldl_declare (b : Bindings) (xs : List Declaration) (p : String) :
    (xs.foldl declare b).get? p = (xs.reverse.findSome? (·.of? p)).getD (b.get? p) := by
  induction xs using List.reverseRecOn with
  | nil => rfl
  | append_singleton xs x ih =>
    rw [List.foldl_append, List.foldl_cons, List.foldl_nil, get?_declare_of, ih,
      List.reverse_append, List.reverse_singleton, List.singleton_append, List.findSome?_cons]
    cases x.of? p <;> rfl

end Bindings

/-! ### Tags -/

/-- A tag that starts an element, and the offset of its end. -/
structure PlacedTag where
  tag : List Char
  stop : Nat
deriving DecidableEq, Repr

namespace PlacedTag

/-- The attributes as they are written, the declarations among them. -/
def attributes (t : PlacedTag) : List (String × String) :=
  (attributesOfTag t.tag t.stop).toOption.getD []

def declarations (t : PlacedTag) : List Declaration :=
  t.attributes.filterMap fun (key, value) => declaration? key value

/-- What the tag makes of a prefix. -/
def declared? (t : PlacedTag) (p : String) : Option (Option String) :=
  t.declarations.reverse.findSome? (·.of? p)

end PlacedTag

def PlacedEvent.tag? (e : PlacedEvent) : Option PlacedTag := e.event.tag?.map (⟨·, e.stop⟩)

/-- The tags that start elements, in the order of the text. -/
def EventScan.tags (scan : EventScan) : List PlacedTag := scan.events.filterMap (·.tag?)

/-- What an element finds around it. -/
structure Surroundings where
  bindings : Bindings
  base : Option String
deriving DecidableEq, Repr

/-- What is around the elements at the top of a document. -/
def Surroundings.top (base : Option String) : Surroundings := ⟨.empty, base⟩

/-- What is around the elements inside an element. -/
def Element.surroundings (e : Element) : Surroundings := ⟨e.bindings, e.base⟩

/-- What a tag stands for in its surroundings. -/
structure Element.IsOfTag (e : Element) (around : Surroundings) (t : PlacedTag) : Prop where
  read : attributesOfTag t.tag t.stop = .ok t.attributes
  /-- The declarations of the tag change the bindings around, in their order. -/
  bindings : e.bindings = t.declarations.foldl Bindings.declare around.bindings
  name : QName.resolve e.bindings true (String.ofList (tagName t.tag)) = .ok e.name
  /-- The other attributes are there in their order, by names that are resolved on the element. -/
  attributes : List.Forall₂
    (fun written a => QName.resolve e.bindings false written.1 = .ok a.1 ∧ a.2 = written.2)
    (t.attributes.filter fun (key, value) => declaration? key value = none) e.attributes.entries
  base : e.base = match e.attributes.get? (.xml "base") with
    | some reference => some (Uri.resolve around.base reference)
    | none => around.base

section

variable {bindings : Bindings} {element : String} {stop : Nat}

/-- The attributes proper are resolved one by one, behind those that are in the table already. -/
theorem exists_added_of_foldlM {attributes : List (String × String)} {table table' : Attributes}
    (h : attributes.foldlM (resolveAttribute bindings element stop) table = .ok table') :
    ∃ added, table'.entries = table.entries ++ added
      ∧ List.Forall₂
          (fun written a => QName.resolve bindings false written.1 = .ok a.1 ∧ a.2 = written.2)
          (attributes.filter fun (key, value) => declaration? key value = none) added := by
  induction attributes generalizing table with
  | nil =>
    cases h
    exact ⟨[], (List.append_nil _).symm, .nil⟩
  | cons a attributes ih =>
    rw [List.foldlM_cons] at h
    obtain ⟨next, here, h⟩ := bind_eq_ok_iff.mp h
    obtain ⟨added, entries, resolved⟩ := ih h
    rw [resolveAttribute] at here
    split at here
    · -- A declaration adds nothing to the table, and is no attribute proper.
      next isDeclaration =>
      cases here
      have other : ¬declaration? a.1 a.2 = none := Option.isSome_iff_ne_none.mp isDeclaration
      refine ⟨added, entries, ?_⟩
      rwa [List.filter_cons_of_neg (by simpa using other)]
    · next undeclared =>
      obtain ⟨name, resolves, here⟩ := bind_eq_ok_iff.mp here
      dsimp only at here
      split at here
      · cases here
      · next new =>
        cases here
        rw [Table.contains_eq_isSome, Option.not_isSome_iff_eq_none] at new
        rw [Table.entries_insert_of_get?_eq_none new, List.append_assoc] at entries
        refine ⟨(name, a.2) :: added, entries, ?_⟩
        rw [List.filter_cons_of_pos (by simpa using undeclared)]
        exact .cons ⟨resolves, rfl⟩ resolved

theorem Reading.isOfTag_elementOfTag {r : Reading} {tag : List Char} {e : Element}
    (h : r.elementOfTag tag stop = .ok e) : e.IsOfTag ⟨r.bindings, r.currentBase⟩ ⟨tag, stop⟩ := by
  rw [elementOfTag] at h
  obtain ⟨attributes, read, h⟩ := bind_eq_ok_iff.mp h
  obtain ⟨name, named, h⟩ := bind_eq_ok_iff.mp h
  obtain ⟨resolved, resolves, h⟩ := bind_eq_ok_iff.mp h
  cases h
  have same : (PlacedTag.mk tag stop).attributes = attributes := by
    rw [PlacedTag.attributes, read]
    rfl
  have within : (PlacedTag.mk tag stop).declarations.foldl Bindings.declare r.bindings
      = Bindings.within r.bindings attributes := by
    rw [PlacedTag.declarations, same]
    rfl
  obtain ⟨added, entries, each⟩ := exists_added_of_foldlM resolves
  refine ⟨by rw [same]; exact read, within.symm, named, ?_, rfl⟩
  rw [same, show resolved.entries = added from entries]
  exact each

end

/-! ### Forests -/

namespace Forest

/-- The elements in document order, each with its surroundings. -/
def situated (around : Surroundings) : Forest → List (Surroundings × Element)
  | nil => []
  | leaf _ rest => rest.situated around
  | element e content rest =>
    (around, e) :: content.situated e.surroundings ++ rest.situated around

theorem situated_reverseOnto (around : Surroundings) (f g : Forest) :
    (f.reverseOnto g).situated around = f.reverse.situated around ++ g.situated around := by
  induction f generalizing g with
  | nil => rfl
  | leaf l rest ih =>
    have one : (leaf l rest).reverse = rest.reverseOnto (leaf l nil) := rfl
    rw [reverseOnto, ih, one, ih (leaf l nil), situated, situated, situated, List.append_nil]
  | element e content rest _ ih =>
    have one : (element e content rest).reverse = rest.reverseOnto (element e content nil) := rfl
    rw [reverseOnto, ih, one, ih (element e content nil), situated, situated, situated,
      List.append_nil, List.append_assoc]

theorem situated_reverse_leaf (around : Surroundings) (l : Leaf) (rest : Forest) :
    (leaf l rest).reverse.situated around = rest.reverse.situated around :=
  (situated_reverseOnto around rest (leaf l nil)).trans (List.append_nil _)

theorem situated_reverse_element (around : Surroundings) (e : Element) (content rest : Forest) :
    (element e content rest).reverse.situated around
      = rest.reverse.situated around ++ (around, e) :: content.situated e.surroundings := by
  have one := situated_reverseOnto around rest (element e content nil)
  rwa [situated, situated, List.append_nil] at one

end Forest

/-! ### Builders -/

namespace Builder

/-- What is around the nodes inside the innermost of these elements. -/
def surroundings (base : Option String) : List OpenElement → Surroundings
  | [] => .top base
  | o :: _ => o.element.surroundings

/-- The open elements and those before them, in document order. -/
def openedSituated (base : Option String) : List OpenElement → List (Surroundings × Element)
  | [] => []
  | o :: outer =>
    openedSituated base outer ++ o.before.reverse.situated (surroundings base outer)
      ++ [(surroundings base outer, o.element)]

/-- All elements so far in document order, each with its surroundings. -/
def situated (b : Builder) : List (Surroundings × Element) :=
  openedSituated b.base b.opened ++ b.done.reverse.situated (surroundings b.base b.opened)

variable {b b' : Builder}

theorem situated_openElement (b : Builder) (e : Element) :
    (b.openElement e).situated = b.situated ++ [(surroundings b.base b.opened, e)] :=
  List.append_nil _

/-- Closing an element leaves all elements in their surroundings. -/
theorem situated_closeElement (h : b.closeElement = .ok b') :
    b'.situated = b.situated ∧ b'.base = b.base ∧ ∃ top, b.opened = top :: b'.opened := by
  rw [closeElement] at h
  split at h
  · cases h
  · next top outer opened =>
    cases h
    refine ⟨?_, rfl, top, opened⟩
    rw [situated, situated, opened, Forest.situated_reverse_element, openedSituated, surroundings]
    simp only [List.append_assoc, List.singleton_append]

theorem base_addLeaf (b : Builder) (l : Leaf) : (b.addLeaf l).base = b.base :=
  b.base_addForest (.leaf l .nil)

theorem opened_addLeaf (b : Builder) (l : Leaf) : (b.addLeaf l).opened = b.opened :=
  b.opened_addForest (.leaf l .nil)

/-- A leaf is no element, and one that is merged with a text before it is none either. -/
theorem situated_addLeaf (b : Builder) (l : Leaf) : (b.addLeaf l).situated = b.situated := by
  have siblings : ∀ around,
      (b.addLeaf l).done.reverse.situated around = b.done.reverse.situated around := by
    intro around
    cases l with
    | comment | instruction => exact Forest.situated_reverse_leaf around _ _
    | text s =>
      rw [addLeaf, addText]
      split
      · rfl
      · split
        · next t rest done => rw [done, Forest.situated_reverse_leaf, Forest.situated_reverse_leaf]
        · exact Forest.situated_reverse_leaf around _ _
  rw [situated, situated, base_addLeaf, opened_addLeaf, siblings]

theorem situated_finish {d : Document} (h : b.finish = .ok d) :
    d.base = b.base ∧ d.content.situated (.top d.base) = b.situated := by
  rw [finish] at h
  split at h
  · next opened =>
    cases h
    refine ⟨rfl, ?_⟩
    rw [situated, opened]
    rfl
  · cases h

end Builder

/-! ### Readings -/

namespace Reading

/-- The stack of scopes is what the open elements hand down, and every element so far is what its
tag stands for in its surroundings. -/
structure IsScoped (base : Option String) (tags : List PlacedTag) (r : Reading) : Prop where
  given : r.base = base
  built : r.builder.base = base
  scopes : r.scopes.map (fun s => Surroundings.mk s.bindings s.base)
    = r.builder.opened.map (·.element.surroundings)
  elements : List.Forall₂ (fun x t => x.2.IsOfTag x.1 t) r.builder.situated tags

namespace IsScoped

variable {base : Option String} {tags : List PlacedTag} {r r' : Reading} {tag : List Char}
  {stop : Nat}

theorem start (base : Option String) : (Reading.start base).IsScoped base [] :=
  ⟨rfl, rfl, rfl, .nil⟩

/-- What is in scope is what the innermost open element hands down. -/
theorem inScope (h : r.IsScoped base tags) :
    Surroundings.mk r.bindings r.currentBase
      = Builder.surroundings r.builder.base r.builder.opened := by
  have same := h.scopes
  rw [Reading.bindings, Reading.currentBase]
  cases scopes : r.scopes with
  | nil =>
    -- Without a scope there is no open element: what is in scope is what is given.
    rw [scopes, List.map_nil, eq_comm, List.map_eq_nil_iff] at same
    rw [same, h.given, h.built]
    rfl
  | cons s outer =>
    cases opened : r.builder.opened with
    | nil =>
      rw [scopes, opened] at same
      cases same
    | cons o rest =>
      rw [scopes, opened] at same
      exact (List.cons.inj same).1

theorem openElement (h : r.IsScoped base tags) (opens : r.openElement tag stop = .ok r') :
    r'.IsScoped base (tags ++ [⟨tag, stop⟩]) := by
  obtain ⟨-, e, read, rfl⟩ := opening_of_openElement opens
  have isOfTag := isOfTag_elementOfTag read
  rw [h.inScope] at isOfTag
  refine ⟨h.given, h.built, congrArg (e.surroundings :: ·) h.scopes, ?_⟩
  show List.Forall₂ _ (r.builder.openElement e).situated _
  rw [Builder.situated_openElement]
  exact List.rel_append h.elements (.cons isOfTag .nil)

theorem closeElement (h : r.IsScoped base tags) (closes : r.closeElement stop = .ok r') :
    r'.IsScoped base tags := by
  obtain ⟨scope, b, inside, closed, same⟩ := closing_of_closeElement closes
  obtain ⟨elements, built, top, opened⟩ := Builder.situated_closeElement closed
  have scopes := h.scopes
  rw [inside, opened] at scopes
  rw [same]
  refine ⟨h.given, built.trans h.built, (List.cons.inj scopes).2, ?_⟩
  rw [elements]
  exact h.elements

theorem addLeaf (h : r.IsScoped base tags) (l : Leaf) :
    ({ r with builder := r.builder.addLeaf l }).IsScoped base tags := by
  refine ⟨h.given, (r.builder.base_addLeaf l).trans h.built, ?_, ?_⟩
  · rw [Builder.opened_addLeaf]
    exact h.scopes
  · rw [Builder.situated_addLeaf]
    exact h.elements

/-- **Each event keeps the scoping**, and its tag, if it has one, is that of the last element. -/
theorem follows (h : r.IsScoped base tags) {event : Event} (step : r.Follows stop event r') :
    r'.IsScoped base (tags ++ (PlacedEvent.mk event stop).tag?.toList) := by
  cases step with
  | start opens => exact h.openElement opens
  | empty opens closes => exact (h.openElement opens).closeElement closes
  | close closes =>
    rw [show (PlacedEvent.mk .close stop).tag?.toList = [] from rfl, List.append_nil]
    exact h.closeElement closes
  | aside untagged noEnd added =>
    rw [PlacedEvent.tag?, untagged, Option.map_none, Option.toList_none, List.append_nil]
    obtain rfl | ⟨l, rfl⟩ := added
    · exact h
    · exact h.addLeaf l

theorem of_run {events : List PlacedEvent} (h : run base events = .ok r) :
    r.IsScoped base (events.filterMap (·.tag?)) := by
  refine foldlM_keeps_so_far (fun (before : List PlacedEvent) (r : Reading) =>
    r.IsScoped base (before.filterMap (·.tag?))) (start base) ?_ h
  intro before e r r' soFar step
  have last : [e].filterMap (·.tag?) = e.tag?.toList := by
    rw [List.filterMap_cons]
    cases e.tag? <;> rfl
  rw [List.filterMap_append, last]
  exact soFar.follows (follows_of_step step)

end IsScoped

end Reading

/-! ### Surroundings in a document -/

namespace Document

variable (d : Document)

/-- What a node hands down to the elements inside it. -/
def handedDown (i : Nat) : Surroundings :=
  ((d.nodes.element? i).map (·.surroundings)).getD (.top d.base)

/-- What the parent of a node hands down to it. -/
def around (i : Nat) : Surroundings :=
  ((d.nodes.parent? i).map d.handedDown).getD (.top d.base)

/-- The element with the number `i`, and its surroundings. -/
def situated? (i : Nat) : Option (Surroundings × Element) :=
  (d.nodes.element? i).map fun e => (d.around i, e)

theorem situated_of_sits {f : Forest} {parent first : Nat} (h : f.Sits d parent first) :
    f.situated (d.handedDown parent) = (List.range' first f.size).filterMap d.situated? := by
  induction f generalizing parent first with
  | nil => rfl
  | leaf l rest ih =>
    have none_ : d.situated? first = none := by
      rw [situated?, NodeList.element?, NodeList.kind?, h.node rfl]
      rfl
    rw [Forest.situated, Forest.size, List.range'_succ, List.filterMap_cons_none none_,
      ih h.leaf_rest]
  | element e content rest ihc ihr =>
    have here : d.situated? first = some (d.handedDown parent, e) := by
      rw [situated?, around, h.element?, h.parent?]
      rfl
    have down : d.handedDown first = e.surroundings := by
      rw [handedDown, h.element?]
      rfl
    have size : (Forest.element e content rest).size = content.size + rest.size + 1 := rfl
    rw [Forest.situated, size, List.range'_succ, List.filterMap_cons_some here,
      ← List.range'_append_1, List.filterMap_append, ihr h.behind, ← down, ihc h.inside,
      List.cons_append, Nat.add_right_comm first 1]

/-- The elements of a document and their surroundings, as the nodes say. -/
theorem situated_eq : d.content.situated (.top d.base) = d.nodes.numbers.filterMap d.situated? := by
  have nothing : d.situated? 0 = none := rfl
  have numbers : d.nodes.numbers = 0 :: List.range' 1 d.content.size := by
    rw [NodeList.numbers, size_nodes, size, List.range_eq_range', List.range'_succ]
  rw [numbers, List.filterMap_cons_none nothing, ← d.situated_of_sits d.sits]
  rfl

variable {d}

theorem forall₂_situated_iff {τ : Type} {p : Surroundings × Element → τ → Prop} {tags : List τ} :
    List.Forall₂ p (d.content.situated (.top d.base)) tags
      ↔ List.Forall₂ (fun i t => ∃ e, d.nodes.element? i = some e ∧ p (d.around i, e) t)
          d.elementNumbers tags := by
  have isElement : ∀ i, (d.situated? i).isSome = d.nodes.isElement i := by
    intro i
    rw [situated?, Option.isSome_map, NodeList.isElement]
  have each : ∀ i t, (∃ x, d.situated? i = some x ∧ p x t)
      ↔ ∃ e, d.nodes.element? i = some e ∧ p (d.around i, e) t := by
    intro i t
    rw [situated?]
    cases d.nodes.element? i <;> simp
  rw [situated_eq, forall₂_filterMap_iff]
  simp only [isElement, each]
  rfl

/-- The parent of a node is an element, or the document. -/
theorem eq_zero_of_parent? {i q : Nat} (parent : d.nodes.parent? i = some q)
    (noElement : d.nodes.element? q = none) : q = 0 := by
  have child : i ∈ d.nodes.children q := NodeList.mem_children.mpr parent
  have within := NodeList.inside_of_parent? parent
  have here : q < d.size := Nat.lt_trans within.1 (NodeList.lt_size_of_parent? parent)
  obtain ⟨t, ht⟩ := exists_subtree? here
  cases t with
  | document d' =>
    rw [subtree?] at ht
    split at ht
    · assumption
    · exact absurd ht (Forest.subtree?_ne_document _ _ _)
  | element e content =>
    rw [element?_of_subtree? ht] at noElement
    cases noElement
  | leaf l =>
    rw [Forest.PlacedIn.children_eq_topIds ht] at child
    cases child

end Document

/-! ### Tags of elements -/

/-- The tag of the element with the number `i`: the elements of a document come in the order of
their tags. -/
def EventScan.tagOf? (scan : EventScan) (d : Document) (i : Nat) : Option PlacedTag :=
  (d.elementNumbers.zip scan.tags).lookup i

namespace EventScan

variable {scan : EventScan} {d : Document} {i : Nat}

/-- What the tag of an element makes of a prefix. -/
def declared? (scan : EventScan) (d : Document) (i : Nat) (p : String) : Option (Option String) :=
  (scan.tagOf? d i).bind (·.declared? p)

theorem tagOf?_eq_none (noElement : d.nodes.element? i = none) : scan.tagOf? d i = none := by
  refine List.lookup_eq_none_iff.mpr fun x hx => bne_iff_ne.mpr ?_
  intro same
  have among : x.1 ∈ d.elementNumbers := (List.of_mem_zip hx).1
  have isElement : d.nodes.isElement x.1 = true := (List.mem_filter.mp among).2
  rw [← same, NodeList.isElement, noElement] at isElement
  cases isElement

/-- What is bound on an element is what the nearest declaration around it says. -/
theorem get?_bindings
    (each : ∀ i e, d.nodes.element? i = some e →
      ∃ t, scan.tagOf? d i = some t ∧ e.IsOfTag (d.around i) t)
    {e : Element} (element : d.nodes.element? i = some e) (p : String) :
    e.bindings.get? p
      = ((i :: d.nodes.ancestors i).findSome? fun j => scan.declared? d j p).join := by
  -- Parents come before their children, so the induction goes up along the ancestors.
  induction i using Nat.strongRecOn generalizing e with
  | ind i ih =>
    obtain ⟨t, tagged, isOfTag⟩ := each i e element
    have here : e.bindings.get? p
        = (scan.declared? d i p).getD ((d.around i).bindings.get? p) := by
      rw [isOfTag.bindings, Bindings.get?_foldl_declare, declared?, tagged]
      rfl
    rw [here, List.findSome?_cons]
    cases scan.declared? d i p with
    | some binding => rfl
    | none =>
      rw [Option.getD_none, Document.around, NodeList.ancestors]
      cases parent : d.nodes.parent? i with
      | none => rfl
      | some q =>
        have before := (NodeList.inside_of_parent? parent).1
        dsimp only
        rw [if_pos before, Option.map_some, Option.getD_some]
        cases outer : d.nodes.element? q with
        | some e' =>
          rw [← ih q before outer, Document.handedDown, outer]
          rfl
        | none =>
          -- Above the root there is only the document, which has no tag.
          have top : q = 0 := Document.eq_zero_of_parent? parent outer
          have unbound : scan.declared? d q p = none := by
            rw [declared?, tagOf?_eq_none outer]
            rfl
          have last : d.nodes.ancestors q = [] := by
            rw [top, NodeList.ancestors]
            rfl
          rw [Document.handedDown, outer, last, List.findSome?_cons, unbound]
          rfl

/-- **Scoping is lexical.**  The elements of a document that is read are those of the tags, in their
order.  Each is what its tag stands for in the surroundings that its parent hands down, or the top
of the document.  So a prefix is bound on an element as the nearest of the element and its ancestors
says that declares it, and declarations elsewhere do not count. -/
theorem scopes_lexically {base : Option String} (h : scan.toDocument base = .ok d) :
    d.base = base ∧ scan.tags.length = d.elementNumbers.length
      ∧ ∀ i e, d.nodes.element? i = some e →
        (∃ t, scan.tagOf? d i = some t ∧ e.IsOfTag (d.around i) t)
          ∧ ∀ p, e.bindings.get? p
            = ((i :: d.nodes.ancestors i).findSome? fun j => scan.declared? d j p).join := by
  obtain ⟨r, read, -, -, finished⟩ := read_of_toDocument h
  have kept := Reading.IsScoped.of_run read
  obtain ⟨built, elements⟩ := Builder.situated_finish finished
  have beside := kept.elements
  rw [← elements] at beside
  replace beside := Document.forall₂_situated_iff.mp beside
  have each : ∀ i e, d.nodes.element? i = some e →
      ∃ t, scan.tagOf? d i = some t ∧ e.IsOfTag (d.around i) t := by
    intro i e element
    obtain ⟨t, found, e', element', isOfTag⟩ :=
      exists_lookup_of_forall₂ beside (Document.mem_elementNumbers element)
    cases element.symm.trans element'
    exact ⟨t, found, isOfTag⟩
  refine ⟨built.trans kept.built, beside.length_eq.symm, fun i e element => ?_⟩
  exact ⟨each i e element, get?_bindings each element⟩

/-- The events of `<a xmlns='u'><b xmlns='' xmlns:p='v'/><c xml:base='w'/></a>`. -/
def siblingScopes : EventScan :=
  ⟨[⟨.start "a xmlns='u'".toList, 13⟩, ⟨.empty "b xmlns='' xmlns:p='v'".toList, 38⟩,
    ⟨.empty "c xml:base='w'".toList, 55⟩, ⟨.close, 59⟩], none⟩

/-- What they are read as. What `b` declares is not in scope on its sibling, where the declaration
of `a` still is. -/
def siblingPage : Document :=
  let outer : Bindings := .ofList [("", "u")]
  let b : Element := ⟨.plain "b", .empty, .ofList [("p", "v")], some "http://h/x"⟩
  let c : Element :=
    ⟨.inNamespace (some "u") "c", .ofList [(.xml "base", "w")], outer, some "http://h/w"⟩
  ⟨some "http://h/x", .element ⟨.inNamespace (some "u") "a", .empty, outer, some "http://h/x"⟩
    (.element b .nil (.element c .nil .nil)) .nil⟩

theorem scopes_lexically_siblings :
    siblingScopes.toDocument (some "http://h/x") = .ok siblingPage
      ∧ ∀ i e, siblingPage.nodes.element? i = some e →
        (∃ t, siblingScopes.tagOf? siblingPage i = some t ∧ e.IsOfTag (siblingPage.around i) t)
          ∧ ∀ p, e.bindings.get? p = ((i :: siblingPage.nodes.ancestors i).findSome? fun j =>
              siblingScopes.declared? siblingPage j p).join := by
  have read : siblingScopes.toDocument (some "http://h/x") = .ok siblingPage := by decide +kernel
  exact ⟨read, (scopes_lexically read).2.2⟩

end EventScan

end Transclusion
