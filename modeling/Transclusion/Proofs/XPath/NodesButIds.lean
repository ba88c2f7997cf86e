import Mathlib.Data.List.Forall2
import Transclusion.Proofs.Fixup.Attributes
import Transclusion.Proofs.Markup.Recast
import Transclusion.Proofs.XPath.NodeSets
/-!
# Nodes that differ in `xml:id`

Two lists of nodes that agree in all but the `xml:id`s of their elements (`NodeList.SameButIds`), or
in all but those of some elements (`NodeList.SameButHidden`).  An `xml:id` that only one of them has
moves the attributes behind it, so that an attribute with another name is known by its place among
these (`Element.others`), not by its index; of an element that is the same, all attributes are.
`XPath.SameRef` says which nodes are the same in this sense.

* `NodeList.SameButHidden.elementWithId?_eq`: ids that are not hidden are those of the same
  elements.
* `XPath.SameRef.stringValue_eq`, `XPath.SameRef.name?_eq`: they have the same values and names.
* `XPath.canonical_same`: they come in the same order.
* `XPath.step_same`: the same ones are found along all axes, unless a test accepts an `xml:id` that
  is not the same.
-/

namespace Transclusion

/-! ### Attributes other than `xml:id` -/

namespace Element

/-- The attributes apart from an `xml:id`, with their indices. -/
def others (e : Element) : List ((QName × String) × Nat) :=
  e.attributes.entries.zipIdx.filter fun x =>
    Keyed.identity x.1.1 ≠ Keyed.identity (QName.xml "id")

theorem map_fst_others (e : Element) : e.others.map (·.1) = e.withoutId.attributes.entries := by
  have entries : e.attributes.entries.zipIdx.map (·.1) = e.attributes.entries :=
    List.zipIdx_map_fst 0 _
  show _ = e.attributes.entries.filter _
  conv_rhs => rw [← entries, List.filter_map]
  rfl

theorem getElem?_of_mem_others {e : Element} {x : (QName × String) × Nat} (h : x ∈ e.others) :
    e.attributes.entries[x.2]? = some x.1 :=
  List.mk_mem_zipIdx_iff_getElem?.mp (List.mem_of_mem_filter h)

/-- The indices ascend. -/
theorem pairwise_others (e : Element) : e.others.Pairwise fun x y => x.2 < y.2 := by
  refine List.Pairwise.filter _ ?_
  have ascending : (e.attributes.entries.zipIdx.map (·.2)).Pairwise (· < ·) := by
    rw [List.zipIdx_map_snd]
    exact List.pairwise_lt_range'
  exact List.pairwise_map.mp ascending

theorem others_lt_iff {e : Element} {r s : Nat} {x y : (QName × String) × Nat}
    (hx : e.others[r]? = some x) (hy : e.others[s]? = some y) : x.2 < y.2 ↔ r < s := by
  obtain ⟨hr, rfl⟩ := List.getElem?_eq_some_iff.mp hx
  obtain ⟨hs, rfl⟩ := List.getElem?_eq_some_iff.mp hy
  have ascending := List.pairwise_iff_getElem.mp e.pairwise_others
  constructor
  · intro lt
    rcases Nat.lt_trichotomy r s with before | rfl | behind
    · exact before
    · omega
    · have := ascending s r hs hr behind
      omega
  · exact ascending r s hr hs

/-- Elements that are equal but for their `xml:id` have the same other attributes. -/
theorem others_same {e e' : Element} (same : e'.withoutId = e.withoutId) :
    List.Forall₂
      (fun x x' => x'.1 = x.1 ∧ ∃ r : Nat, e.others[r]? = some x ∧ e'.others[r]? = some x')
      e.others e'.others := by
  have entries : e'.others.map (·.1) = e.others.map (·.1) := by
    rw [map_fst_others, map_fst_others, same]
  have length : e.others.length = e'.others.length := by
    simpa using (congrArg List.length entries).symm
  refine List.forall₂_iff_get.mpr ⟨length, fun r hr hr' => ⟨?_, r, ?_, ?_⟩⟩
  · have nth := congrArg (·[r]?) entries
    simpa [hr, hr'] using nth
  · exact List.getElem?_eq_getElem hr
  · exact List.getElem?_eq_getElem hr'

/-- The indices on two elements are those of the same attribute: the elements are equal, or the
attribute is no `xml:id` and has the same place among those that are none. -/
inductive SameAttribute (e e' : Element) : Nat → Nat → Prop where
  | index (same : e' = e) (i : Nat) : SameAttribute e e' i i
  | other {r : Nat} {x x' : (QName × String) × Nat} (nth : e.others[r]? = some x)
      (nth' : e'.others[r]? = some x') (entry : x'.1 = x.1) : SameAttribute e e' x.2 x'.2

namespace SameAttribute

variable {e e' : Element} {i i' j j' : Nat}

theorem eq_of_eq (h : SameAttribute e e' i i') (same : e' = e) : i' = i := by
  subst same
  cases h with
  | index => rfl
  | other nth nth' => rw [Option.some.inj (nth.symm.trans nth')]

theorem getElem?_eq (h : SameAttribute e e' i i') :
    e'.attributes.entries[i']? = e.attributes.entries[i]? := by
  cases h with
  | index same => rw [same]
  | other nth nth' entry =>
    rw [getElem?_of_mem_others (List.mem_of_getElem? nth),
      getElem?_of_mem_others (List.mem_of_getElem? nth'), entry]

/-- The same attributes are in the same order. -/
theorem lt_iff (hi : SameAttribute e e' i i') (hj : SameAttribute e e' j j') :
    i' < j' ↔ i < j := by
  by_cases same : e' = e
  · rw [hi.eq_of_eq same, hj.eq_of_eq same]
  · cases hi with
    | index eq => exact absurd eq same
    | other nth nth' =>
      cases hj with
      | index eq => exact absurd eq same
      | other nthJ nthJ' => rw [others_lt_iff nth nthJ, others_lt_iff nth' nthJ']

end SameAttribute

/-- The `xml:id` of an element. -/
def id? (e : Element) : Option String := e.attribute? (.xml "id")

theorem mem_entries_withoutId {e : Element} {entry : QName × String} :
    entry ∈ e.withoutId.attributes.entries
      ↔ entry ∈ e.attributes.entries
        ∧ Keyed.identity entry.1 ≠ Keyed.identity (QName.xml "id") := by
  show entry ∈ e.attributes.entries.filter _ ↔ _
  rw [List.mem_filter, decide_eq_true_iff]

/-- The attribute with the name is the `xml:id`. -/
theorem id?_of_mem {e : Element} {entry : QName × String} (h : entry ∈ e.attributes.entries)
    (isId : Keyed.identity entry.1 = Keyed.identity (QName.xml "id")) : e.id? = some entry.2 := by
  have found := e.attributes.get?_of_mem h
  rw [Table.get?, Table.find?, isId] at found
  exact found

end Element

/-! ### Nodes -/

/-- The nodes are the same but for the `xml:id`s of the elements. -/
structure NodeList.SameButIds (ns ns' : NodeList) : Prop where
  size : ns'.size = ns.size
  parent : ns'.parent? = ns.parent?
  extent : ns'.extent = ns.extent
  leaf : ns'.leaf? = ns.leaf?
  ancestors : ns'.ancestors = ns.ancestors
  lang : ns'.lang? = ns.lang?
  element : ∀ i, (ns'.element? i).map Element.withoutId = (ns.element? i).map Element.withoutId

/-- Some `xml:id`s that are not to be looked at: those of some elements, whose values are among
these. -/
structure HiddenIds where
  /-- The numbers of the elements. -/
  owners : Nat → Prop
  ids : List String

/-- The nodes are the same but for the `xml:id`s that are hidden, on both sides. -/
structure NodeList.SameButHidden (hidden : HiddenIds) (ns ns' : NodeList) : Prop
    extends ns.SameButIds ns' where
  shown : ∀ i e e', ns.element? i = some e → ns'.element? i = some e' →
    e' = e ∨ hidden.owners i ∧ (∀ x ∈ e.id?, x ∈ hidden.ids) ∧ ∀ x ∈ e'.id?, x ∈ hidden.ids

theorem Element.name_of_withoutId {e e' : Element} (same : e'.withoutId = e.withoutId) :
    e'.name = e.name :=
  show e'.withoutId.name = e.withoutId.name from congrArg Element.name same

theorem Element.lang?_of_withoutId {e e' : Element} (same : e'.withoutId = e.withoutId) :
    e'.lang? = e.lang? := by
  have lang : ∀ e : Element, e.withoutId.lang? = e.lang? := fun e =>
    e.attribute?_removeAttribute_of_ne (xml_ne (by decide))
  rw [← lang e', same, lang e]

theorem Document.Recast.sameButIds {may : Casting} {d d' : Document} (h : Document.Recast may d d')
    (alike : ∀ p i e e', may p i e e' → e'.withoutId = e.withoutId) :
    d.nodes.SameButIds d'.nodes where
  size := h.size_eq
  parent := h.parent?_eq
  extent := h.extent_eq
  leaf := h.leaf?_eq
  ancestors := h.ancestors_eq
  lang := h.lang?_eq fun p i e e' m => Element.lang?_of_withoutId (alike p i e e' m)
  element := h.map_element?_eq alike

namespace NodeList.SameButIds

variable {ns ns' : NodeList} (same : ns.SameButIds ns')

include same

theorem exists_element {i : Nat} {e : Element} (here : ns.element? i = some e) :
    ∃ e', ns'.element? i = some e' ∧ e'.withoutId = e.withoutId := by
  have element := same.element i
  rw [here, Option.map_some, Option.map_eq_some_iff] at element
  exact element

theorem element?_eq_none {i : Nat} (here : ns.element? i = none) : ns'.element? i = none := by
  have element := same.element i
  rwa [here, Option.map_none, Option.map_eq_none_iff] at element

theorem isElement_eq : ns'.isElement = ns.isElement := by
  funext i
  have isSome := congrArg Option.isSome (same.element i)
  rwa [Option.isSome_map, Option.isSome_map] at isSome

theorem children_eq : ns'.children = ns.children := by
  funext i
  rw [NodeList.children, NodeList.children, same.extent, same.parent]

theorem elementChildren_eq : ns'.elementChildren = ns.elementChildren := by
  funext i
  rw [NodeList.elementChildren, NodeList.elementChildren, same.children_eq, same.isElement_eq]

theorem stringValue_eq : ns'.stringValue = ns.stringValue := by
  funext i
  simp only [NodeList.stringValue, NodeList.textOf, NodeList.descendants, same.leaf, same.extent]

end NodeList.SameButIds

namespace NodeList.SameButHidden

variable {hidden : HiddenIds} {ns ns' : NodeList} (same : ns.SameButHidden hidden ns')

include same

/-- An element whose `xml:id` is not hidden is the same. -/
theorem eq_of_not_hidden {i : Nat} {e e' : Element} (here : ns.element? i = some e)
    (there : ns'.element? i = some e') (open_ : ¬ hidden.owners i) : e' = e :=
  (same.shown i e e' here there).resolve_right fun h => open_ h.1

/-- An id that is not hidden is that of the same element. -/
theorem elementWithId?_eq {x : String} (open_ : x ∉ hidden.ids) :
    ns'.elementWithId? x = ns.elementWithId? x := by
  rw [elementWithId?, elementWithId?, numbers, numbers, same.size]
  congr 1
  funext i
  refine decide_eq_decide.mpr ?_
  cases here : ns.element? i with
  | none => rw [same.element?_eq_none here]
  | some e =>
    obtain ⟨e', there, -⟩ := same.exists_element here
    rw [there]
    obtain rfl | ⟨-, ids, ids'⟩ := same.shown i e e' here there
    · rfl
    · exact iff_of_false (fun has => open_ (ids' x has)) fun has => open_ (ids x has)

/-- An attribute whose value is not hidden is there on both sides. -/
theorem mem_entries_iff {i : Nat} {e e' : Element} (here : ns.element? i = some e)
    (there : ns'.element? i = some e') {entry : QName × String} (open_ : entry.2 ∉ hidden.ids) :
    entry ∈ e'.attributes.entries ↔ entry ∈ e.attributes.entries := by
  obtain rfl | ⟨-, ids, ids'⟩ := same.shown i e e' here there
  · rfl
  by_cases isId : Keyed.identity entry.1 = Keyed.identity (QName.xml "id")
  · refine iff_of_false (fun has => open_ ?_) fun has => open_ ?_
    · exact ids' _ (Element.id?_of_mem has isId)
    · exact ids _ (Element.id?_of_mem has isId)
  · obtain ⟨e'', there', alike⟩ := same.exists_element here
    obtain rfl := Option.some.inj (there.symm.trans there')
    have both : entry ∈ e'.withoutId.attributes.entries
        ↔ entry ∈ e.withoutId.attributes.entries := by rw [alike]
    simpa only [Element.mem_entries_withoutId, ne_eq, isId, not_false_eq_true, and_true] using both

end NodeList.SameButHidden

namespace XPath

open NodeRef (node attribute_)

variable {ns ns' : NodeList}

/-- The same node, or the same attribute. -/
inductive SameRef (ns ns' : NodeList) : NodeRef → NodeRef → Prop where
  | node (id : Nat) : SameRef ns ns' (node id) (node id)
  | attribute_ {owner i i' : Nat} {e e' : Element} (here : ns.element? owner = some e)
      (there : ns'.element? owner = some e') (same : Element.SameAttribute e e' i i') :
      SameRef ns ns' (attribute_ owner i) (attribute_ owner i')

theorem attributeAt?_same {owner i i' : Nat} {e e' : Element} (here : ns.element? owner = some e)
    (there : ns'.element? owner = some e') (same : Element.SameAttribute e e' i i') :
    NodeRef.attributeAt? ns' owner i' = NodeRef.attributeAt? ns owner i := by
  rw [NodeRef.attributeAt?, NodeRef.attributeAt?, here, there, Option.bind_some, Option.bind_some,
    same.getElem?_eq]

/-- The name of a node is that of the element or that of the processing instruction. -/
theorem name?_node (ns : NodeList) (id : Nat) :
    (node id).name? ns
      = match ns.element? id, ns.leaf? id with
        | some e, _ => some e.name
        | none, some (.instruction target _) => some (.plain target)
        | none, _ => none := by
  rw [NodeRef.name?, NodeList.element?, NodeList.leaf?]
  rcases ns.kind? id with _ | (base | e | l)
  · rfl
  · rfl
  · rfl
  · cases l <;> rfl

namespace SameRef

variable {a a' b b' : NodeRef}

theorem owner_eq (h : SameRef ns ns' a a') : a'.owner = a.owner := by
  cases h <;> rfl

theorem isPrincipal_eq (same : ns.SameButIds ns') (h : SameRef ns ns' a a') (axis : Axis) :
    isPrincipal ns' axis a' = isPrincipal ns axis a := by
  cases h with
  | node id => rw [isPrincipal, isPrincipal, same.isElement_eq]
  | attribute_ => rfl

theorem stringValue_eq (same : ns.SameButIds ns') (h : SameRef ns ns' a a') :
    a'.stringValue ns' = a.stringValue ns := by
  cases h with
  | node id => rw [NodeRef.stringValue, NodeRef.stringValue, same.stringValue_eq]
  | attribute_ here there pair =>
    rw [NodeRef.stringValue, NodeRef.stringValue, attributeAt?_same here there pair]

theorem name?_eq (same : ns.SameButIds ns') (h : SameRef ns ns' a a') :
    a'.name? ns' = a.name? ns := by
  cases h with
  | node id =>
    rw [name?_node, name?_node, same.leaf]
    cases here : ns.element? id with
    | none => rw [same.element?_eq_none here]
    | some e =>
      obtain ⟨e', there, alike⟩ := same.exists_element here
      rw [there]
      exact congrArg some (Element.name_of_withoutId alike)
  | attribute_ here there pair =>
    rw [NodeRef.name?, NodeRef.name?, attributeAt?_same here there pair]

/-! ### Document order -/

theorem eq_iff (ha : SameRef ns ns' a a') (hb : SameRef ns ns' b b') : a' = b' ↔ a = b := by
  cases ha with
  | node id =>
    cases hb with
    | node id' => rfl
    | attribute_ => exact ⟨nofun, nofun⟩
  | attribute_ here there pair =>
    cases hb with
    | node id => exact ⟨nofun, nofun⟩
    | attribute_ hereB thereB pairB =>
      rw [NodeRef.attribute_.injEq, NodeRef.attribute_.injEq]
      refine and_congr_right fun owner => ?_
      subst owner
      cases here.symm.trans hereB
      cases there.symm.trans thereB
      -- Two indices are equal if neither is less than the other.
      have less := pair.lt_iff pairB
      have greater := pairB.lt_iff pair
      omega

theorem place_lt_iff (ha : SameRef ns ns' a a') (hb : SameRef ns ns' b b')
    (owners : a.owner = b.owner) : a'.place < b'.place ↔ a.place < b.place := by
  cases ha with
  | node id =>
    cases hb with
    | node id' => rfl
    | attribute_ => exact iff_of_true (Nat.succ_pos _) (Nat.succ_pos _)
  | attribute_ here there pair =>
    cases hb with
    | node id => exact iff_of_false (Nat.not_lt_zero _) (Nat.not_lt_zero _)
    | attribute_ hereB thereB pairB =>
      cases owners
      cases here.symm.trans hereB
      cases there.symm.trans thereB
      rw [NodeRef.place, NodeRef.place, NodeRef.place, NodeRef.place, Nat.add_lt_add_iff_right,
        Nat.add_lt_add_iff_right, pair.lt_iff pairB]

theorem before_eq (ha : SameRef ns ns' a a') (hb : SameRef ns ns' b b') :
    a'.before b' = a.before b := by
  rw [Bool.eq_iff_iff, NodeRef.before_iff, NodeRef.before_iff, ha.owner_eq, hb.owner_eq]
  exact or_congr_right (and_congr_right fun owners => ha.place_lt_iff hb owners)

end SameRef

theorem insert_same {a a' : NodeRef} {refs refs' : List NodeRef} (h : SameRef ns ns' a a')
    (hs : List.Forall₂ (SameRef ns ns') refs refs') :
    List.Forall₂ (SameRef ns ns') (NodeRef.insert a refs) (NodeRef.insert a' refs') := by
  induction hs with
  | nil => exact .cons h .nil
  | cons first behind ih =>
    rw [NodeRef.insert, NodeRef.insert, h.before_eq first]
    simp only [h.eq_iff first]
    split
    · exact .cons first behind
    · split
      · exact .cons h (.cons first behind)
      · exact .cons first ih

/-- Sets of the same nodes are the same. -/
theorem canonical_same {refs refs' : List NodeRef} (hs : List.Forall₂ (SameRef ns ns') refs refs') :
    List.Forall₂ (SameRef ns ns') (NodeRef.canonical refs) (NodeRef.canonical refs') := by
  induction hs with
  | nil => exact .nil
  | cons first _ ih => exact insert_same first ih

/-! ### Axes -/

theorem nodes_same (ids : List Nat) :
    List.Forall₂ (SameRef ns ns') (ids.map node) (ids.map node) := by
  rw [List.forall₂_map_left_iff, List.forall₂_map_right_iff]
  exact List.forall₂_same.mpr fun id _ => .node id

theorem nodesFrom_eq (same : ns.SameButIds ns') (id : Nat) (axis : Axis) :
    nodesFrom ns' id axis = nodesFrom ns id axis := by
  have siblings : siblings ns' id = siblings ns id := by
    rw [XPath.siblings, XPath.siblings, same.parent, same.children_eq]
  cases axis <;> simp only [nodesFrom, siblings, same.children_eq, NodeList.descendants,
    same.extent, same.parent, same.ancestors, same.size]

theorem nodesFromAttribute_eq (same : ns.SameButIds ns') (owner : Nat) (axis : Axis) :
    nodesFromAttribute ns' owner axis = nodesFromAttribute ns owner axis := by
  cases axis <;> simp only [nodesFromAttribute, nodesFrom_eq same, same.ancestors, same.size]

/-- Along an axis other than that of the attributes the same nodes are found. -/
theorem axisNodes_same (same : ns.SameButIds ns') {axis : Axis} (other : axis ≠ .attribute_)
    {a a' : NodeRef} (h : SameRef ns ns' a a') :
    List.Forall₂ (SameRef ns ns') (axisNodes ns axis a) (axisNodes ns' axis a') := by
  cases h with
  | node id =>
    rw [axisNodes_node other, axisNodes_node other, nodesFrom_eq same]
    exact nodes_same _
  | attribute_ here there pair =>
    have itself := SameRef.attribute_ here there pair
    unfold axisNodes
    dsimp only
    rw [nodesFromAttribute_eq same]
    refine List.rel_append ?_ (nodes_same _)
    cases axis <;> first | exact .nil | exact .cons itself .nil

/-! ### Tests -/

/-- Whether a test on the axis of the attributes accepts those with this name. -/
def ResolvedTest.acceptsName (name : QName) : ResolvedTest → Bool
  | anyName | node => true
  | inNamespace uri => name.isIn uri
  | named uri localName => name.isNamed uri localName
  | text | comment | instruction _ => false

theorem ResolvedTest.accepts_attribute {test : ResolvedTest} {owner index : Nat}
    {entry : QName × String} (h : NodeRef.attributeAt? ns owner index = some entry) :
    test.accepts ns .attribute_ (.attribute_ owner index) = test.acceptsName entry.1 := by
  have name : (attribute_ owner index).name? ns = some entry.1 := by
    rw [NodeRef.name?, h, Option.map_some]
  cases test <;> simp [accepts, acceptsName, isPrincipal, name]

theorem SameRef.accepts_eq (same : ns.SameButIds ns') {a a' : NodeRef} (h : SameRef ns ns' a a')
    (axis : Axis) (test : ResolvedTest) :
    test.accepts ns' axis a' = test.accepts ns axis a := by
  have principal := h.isPrincipal_eq same axis
  have name := h.name?_eq same
  cases test with
  | anyName => exact principal
  | inNamespace uri => rw [ResolvedTest.accepts, ResolvedTest.accepts, principal, name]
  | named uri localName => rw [ResolvedTest.accepts, ResolvedTest.accepts, principal, name]
  | node => rfl
  | text | comment | instruction =>
    cases h with
    | node id => simp only [ResolvedTest.accepts, same.leaf]
    | attribute_ => rfl

/-- Whether a test accepts an attribute is decided by the namespace and the local part of its
name. -/
theorem ResolvedTest.acceptsName_congr (test : ResolvedTest) {name name' : QName}
    (same : Keyed.identity name = Keyed.identity name') :
    test.acceptsName name = test.acceptsName name' := by
  have nsUri : name.nsUri = name'.nsUri := congrArg Prod.fst same
  have localName : name.localName = name'.localName := congrArg Prod.snd same
  cases test <;> simp only [acceptsName, QName.isIn, QName.isNamed, nsUri, localName]

/-- The attributes that a test accepts. -/
theorem accepted_eq_map {id : Nat} {e : Element} (here : ns.element? id = some e)
    (test : ResolvedTest) :
    (axisNodes ns .attribute_ (node id)).filter (test.accepts ns .attribute_ ·)
      = (e.attributes.entries.zipIdx.filter fun x => test.acceptsName x.1.1).map
          fun x => attribute_ id x.2 := by
  have indices : List.range e.attributes.size = e.attributes.entries.zipIdx.map (·.2) := by
    rw [List.zipIdx_map_snd, List.range_eq_range']
    rfl
  rw [axisNodes, here]
  dsimp only
  rw [indices, List.map_map, List.filter_map]
  refine congrArg (List.map _) (List.filter_congr fun x hx => ?_)
  have entry : NodeRef.attributeAt? ns id x.2 = some x.1 := by
    rw [NodeRef.attributeAt?, here, Option.bind_some]
    exact List.mk_mem_zipIdx_iff_getElem?.mp hx
  rw [Function.comp_apply, Function.comp_apply, ResolvedTest.accepts_attribute entry]

/-- The values of the attributes that a test accepts. -/
theorem exists_accepted_iff {id : Nat} {e : Element} (here : ns.element? id = some e)
    {test : ResolvedTest} {text : String} :
    (∃ a ∈ (axisNodes ns .attribute_ (node id)).filter (test.accepts ns .attribute_ ·),
        a.stringValue ns = text)
      ↔ ∃ name, (name, text) ∈ e.attributes.entries ∧ test.acceptsName name = true := by
  have value : ∀ x ∈ e.attributes.entries.zipIdx, (attribute_ id x.2).stringValue ns = x.1.2 := by
    intro x hx
    rw [NodeRef.stringValue, NodeRef.attributeAt?, here, Option.bind_some,
      List.mk_mem_zipIdx_iff_getElem?.mp hx]
    rfl
  rw [accepted_eq_map here]
  constructor
  · rintro ⟨a, ha, rfl⟩
    obtain ⟨x, hx, rfl⟩ := List.mem_map.mp ha
    obtain ⟨entry, accepts⟩ := List.mem_filter.mp hx
    rw [value x entry]
    exact ⟨x.1.1, List.mem_of_getElem? (List.mk_mem_zipIdx_iff_getElem?.mp entry), accepts⟩
  · rintro ⟨name, entry, accepts⟩
    obtain ⟨i, nth⟩ := List.getElem?_of_mem entry
    have indexed : ((name, text), i) ∈ e.attributes.entries.zipIdx :=
      List.mk_mem_zipIdx_iff_getElem?.mpr nth
    refine ⟨_, List.mem_map.mpr ⟨_, List.mem_filter.mpr ⟨indexed, accepts⟩, rfl⟩, ?_⟩
    exact value _ indexed

/-- The attributes that a test accepts, if it refuses an `xml:id`. -/
theorem accepted_others {test : ResolvedTest} (refuses : test.acceptsName (.xml "id") = false)
    {id : Nat} {e : Element} (here : ns.element? id = some e) :
    (axisNodes ns .attribute_ (node id)).filter (test.accepts ns .attribute_ ·)
      = (e.others.filter fun x => test.acceptsName x.1.1).map fun x => attribute_ id x.2 := by
  rw [accepted_eq_map here, Element.others, List.filter_filter]
  refine congrArg (List.map _) (List.filter_congr fun x _ => ?_)
  by_cases isId : Keyed.identity x.1.1 = Keyed.identity (QName.xml "id")
  · simp [test.acceptsName_congr isId, refuses]
  · simp only [ne_eq, isId, not_false_eq_true, decide_true, Bool.and_true]

/-- Along an axis the same nodes are found that satisfy a test, unless it accepts the `xml:id` of an
element that is not the same. -/
theorem step_same (same : ns.SameButIds ns') {axis : Axis} {test : ResolvedTest} {a a' : NodeRef}
    (h : SameRef ns ns' a a')
    (sees : axis = .attribute_ → test.acceptsName (.xml "id") = true →
      ∀ e e', ns.element? a.owner = some e → ns'.element? a.owner = some e' → e' = e) :
    List.Forall₂ (SameRef ns ns') ((axisNodes ns axis a).filter (test.accepts ns axis ·))
      ((axisNodes ns' axis a').filter (test.accepts ns' axis ·)) := by
  -- The index of an attribute changes with an `xml:id` before it, so that attributes are matched by
  -- what they are; on all other axes the numbers are the same.
  by_cases attributes : axis = .attribute_
  · subst attributes
    cases h with
    | node id =>
      cases here : ns.element? id with
      | none =>
        rw [axisNodes, axisNodes, here, same.element?_eq_none here]
        exact .nil
      | some e =>
        obtain ⟨e', there, alike⟩ := same.exists_element here
        cases accepts : test.acceptsName (.xml "id") with
        | false =>
          rw [accepted_others accepts here, accepted_others accepts there,
            List.forall₂_map_left_iff, List.forall₂_map_right_iff]
          have accepted := List.rel_filter (p := fun x => test.acceptsName x.1.1)
            (q := fun x => test.acceptsName x.1.1) (fun x x' h => by simp only [h.1])
            (Element.others_same alike)
          refine accepted.imp fun x x' h => ?_
          obtain ⟨entry, r, nth, nth'⟩ := h
          exact .attribute_ here there (.other nth nth' entry)
        | true =>
          obtain rfl := sees rfl accepts e e' here there
          rw [accepted_eq_map here, accepted_eq_map there, List.forall₂_map_left_iff,
            List.forall₂_map_right_iff]
          exact List.forall₂_same.mpr fun x _ => .attribute_ here there (.index rfl x.2)
    | attribute_ => exact .nil
  · refine List.rel_filter (fun b b' hb => ?_) (axisNodes_same same attributes h)
    simp only [hb.accepts_eq same]

end XPath

end Transclusion
