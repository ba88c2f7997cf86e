import Mathlib.Logic.Relation
import Transclusion.Proofs.Inclusion.Sites
/-!
# Webs of documents

A main document and the resources held in memory form a graph (`Web`): a document leads to the URIs
that its includes refer to.  The graph matters where documents are included as a whole, that is
where every control element is an empty include without a fragment identifier
(`Forest.WholeIncludesOnly`).  The includes of such a document are just what a walk comes upon
(`Document.refersTo_iff`).

What an include refers to depends on the element alone, on its reference and its base URI
(`Includer.target_request`).
-/

namespace Transclusion

/-! ### Includes of whole resources -/

/-- An include of a whole resource as markup. -/
def Element.IncludesWhole (e : Element) : Prop :=
  ∃ a, IncludeAttributes.ofElement e = .ok a ∧ a.href ≠ "" ∧ a.parseType = .xml
    ∧ a.xpointer = none ∧ a.fragid = none

/-- The URI of the resource that an include refers to. -/
def Element.target (e : Element) : String :=
  Uri.resolve e.base (String.ofList (Text.trim ((e.plainAttribute? "href").getD "").toList))

/-- Every control element is an empty include of a whole resource. -/
def Forest.WholeIncludesOnly (controls : ControlRegistry) : Forest → Prop
  | nil => True
  | leaf _ rest => rest.WholeIncludesOnly controls
  | element e content rest =>
    (match controls.get? e.name with
      | some .inclusion => e.IncludesWhole ∧ content = nil
      | some .fallback => False
      | none => content.WholeIncludesOnly controls)
    ∧ rest.WholeIncludesOnly controls

theorem IncludeAttributes.href_of_ofElement {e : Element} {a : IncludeAttributes}
    (h : ofElement e = .ok a) :
    a.href = String.ofList (Text.trim ((e.plainAttribute? "href").getD "").toList) := by
  obtain ⟨accept, _, h⟩ := bind_eq_ok_iff.mp h
  obtain ⟨language, _, h⟩ := bind_eq_ok_iff.mp h
  cases h
  rfl

theorem NodeList.base?_of_element? {ns : NodeList} {id : Nat} {e : Element}
    (h : ns.element? id = some e) : ns.base? id = e.base := by
  obtain ⟨n, hn, hkind⟩ := element?_eq_some_iff.mp h
  have kind : ns.kind? id = some (.element e) := by rw [kind?, hn, Option.map_some, hkind]
  simp [base?, leaf?, ownBase?, kind]

/-- The URI that is requested for an include. -/
theorem Includer.target_request {d : Document} {id : Nat} {e : Element} {a : IncludeAttributes}
    (element : d.nodes.element? id = some e) (attributes : IncludeAttributes.ofElement e = .ok a) :
    (request ⟨d, id, e, a⟩).target = e.target := by
  show Uri.resolve (d.nodes.base? id) a.href = _
  rw [NodeList.base?_of_element? element, IncludeAttributes.href_of_ofElement attributes,
    Element.target]

namespace Forest

variable {controls : ControlRegistry}

theorem wholeIncludesOnly_element {e : Element} {content rest : Forest} :
    (element e content rest).WholeIncludesOnly controls
      ↔ (match controls.get? e.name with
          | some .inclusion => e.IncludesWhole ∧ content = nil
          | some .fallback => False
          | none => content.WholeIncludesOnly controls)
        ∧ rest.WholeIncludesOnly controls := Iff.rfl

/-- A control element is an include of a whole resource, with nothing in it, and a walk comes upon
it. -/
theorem WholeIncludesOnly.of_mem_nodes {f : Forest} (h : f.WholeIncludesOnly controls)
    (parent first : Nat) {n : Node} {e : Element} {control : Control}
    (hn : n ∈ f.nodes parent first) (hkind : n.kind = .element e)
    (hcontrol : controls.get? e.name = some control) :
    control = .inclusion ∧ e.IncludesWhole ∧ n.extent = 1
      ∧ ∃ x ∈ f.encounters controls first, x.element = e := by
  induction f generalizing parent first with
  | nil => cases hn
  | leaf l rest ih =>
    obtain rfl | hn := List.mem_cons.mp hn
    · cases hkind
    · exact ih h parent (first + 1) hn
  | element e' content rest ihc ihr =>
    obtain ⟨here, later⟩ := wholeIncludesOnly_element.mp h
    rw [encounters]
    rw [nodes, List.cons_append, List.mem_cons, List.mem_append] at hn
    cases hget : controls.get? e'.name with
    | some control' =>
      rw [hget] at here
      cases control' with
      | fallback => exact here.elim
      | inclusion =>
        obtain ⟨whole, rfl⟩ := here
        -- An include is met by the walk itself; it is empty, so that it hides no others.
        obtain rfl | inside | behind := hn
        · cases hkind
          cases hget.symm.trans hcontrol
          exact ⟨rfl, whole, rfl, _, List.mem_cons_self, rfl⟩
        · cases inside
        · obtain ⟨isInclusion, whole, hextent, x, hx, same⟩ :=
            ihr later parent (first + nil.size + 1) behind
          exact ⟨isInclusion, whole, hextent, x, List.mem_cons_of_mem _ hx, same⟩
    | none =>
      rw [hget] at here
      obtain rfl | inside | behind := hn
      · cases hkind
        cases hget.symm.trans hcontrol
      · obtain ⟨isInclusion, whole, hextent, x, hx, same⟩ := ihc here first (first + 1) inside
        exact ⟨isInclusion, whole, hextent, x, List.mem_append_left _ hx, same⟩
      · obtain ⟨isInclusion, whole, hextent, x, hx, same⟩ :=
          ihr later parent (first + content.size + 1) behind
        exact ⟨isInclusion, whole, hextent, x, List.mem_append_right _ hx, same⟩

end Forest

/-! ### The graph -/

/-- One of the includes in a document refers to this URI. -/
def Document.RefersTo (d : Document) (uri : String) : Prop :=
  ∃ id e a, d.nodes.element? id = some e
    ∧ ControlRegistry.standard.get? e.name = some .inclusion
    ∧ IncludeAttributes.ofElement e = .ok a ∧ (Includer.request ⟨d, id, e, a⟩).target = uri

/-- There is a resource with this URI, and it is read as the document `d`. -/
def Resolver.Holds (resources : Table String String) (uri : String) (d : Document) : Prop :=
  ∃ content, resources.get? uri = some content ∧ Document.read (some uri) content = .ok d

theorem Resolver.memoryXml_eq_ok_iff {resources : Table String String} {r : Request}
    {d : Document} : memoryXml resources r = .ok d ↔ Holds resources r.target d := by
  rw [memoryXml, bind_eq_ok_iff]
  simp only [lookup, parsed, mapError_eq_ok_iff, Holds]
  cases resources.get? r.target <;> simp

theorem Resolver.unreadable_of_memoryXml {resources : Table String String} {r : Request}
    {e : InclusionError} (h : memoryXml resources r = .error e) :
    ∃ fault, e = .unreadable r.target fault := by
  simp only [memoryXml, lookup] at h
  cases found : resources.get? r.target with
  | none =>
    rw [found] at h
    cases h
    exact ⟨_, rfl⟩
  | some content =>
    rw [found] at h
    replace h : parsed r.target content = .error e := h
    rw [parsed] at h
    cases read : Document.read (some r.target) content with
    | ok d =>
      rw [read] at h
      cases h
    | error fault =>
      rw [read] at h
      cases h
      exact ⟨_, rfl⟩

theorem Resolver.Holds.unique {resources : Table String String} {uri : String} {d d' : Document}
    (h : Holds resources uri d) (h' : Holds resources uri d') : d = d' := by
  obtain ⟨content, found, read⟩ := h
  obtain ⟨content', found', read'⟩ := h'
  cases found.symm.trans found'
  exact Except.ok.inj (read.symm.trans read')

namespace Document

variable {d : Document} (h : d.content.WholeIncludesOnly .standard)

include h

theorem whole_of_element? {id : Nat} {e : Element} {control : Control}
    (element : d.nodes.element? id = some e)
    (hcontrol : ControlRegistry.standard.get? e.name = some control) :
    control = .inclusion ∧ e.IncludesWhole ∧ d.nodes.extent id = 1
      ∧ ∃ x ∈ d.content.encounters .standard 1, x.element = e := by
  obtain ⟨n, hn, hkind⟩ := NodeList.element?_eq_some_iff.mp element
  have hextent : d.nodes.extent id = n.extent := by rw [NodeList.extent, hn, Option.map_some,
    Option.getD_some]
  rw [nodes_getElem?] at hn
  rw [hextent]
  obtain rfl | hmem := List.mem_cons.mp (List.mem_of_getElem? hn)
  · cases hkind
  · exact h.of_mem_nodes 0 1 hmem hkind hcontrol

/-- What a walk comes upon is an include of a whole resource, with nothing in it. -/
theorem whole_of_encounter {x : Encounter} (hx : x ∈ d.content.encounters .standard 1) :
    x.control = .inclusion ∧ d.nodes.element? x.id = some x.element ∧ x.element.IncludesWhole
      ∧ d.nodes.extent x.id = 1 := by
  obtain ⟨-, element, hcontrol⟩ := element?_of_encounter hx
  obtain ⟨isInclusion, whole, hextent, -⟩ := whole_of_element? h element hcontrol
  exact ⟨isInclusion, element, whole, hextent⟩

/-- A document refers to the targets of the includes that a walk comes upon. -/
theorem refersTo_iff {uri : String} :
    d.RefersTo uri ↔ ∃ x ∈ d.content.encounters .standard 1, x.element.target = uri := by
  constructor
  · rintro ⟨id, e, a, element, control, attributes, rfl⟩
    obtain ⟨-, -, -, x, hx, rfl⟩ := whole_of_element? h element control
    exact ⟨x, hx, (Includer.target_request element attributes).symm⟩
  · rintro ⟨x, hx, rfl⟩
    obtain ⟨isInclusion, element, ⟨a, attributes, -⟩, -⟩ := whole_of_encounter h hx
    have hcontrol := (element?_of_encounter hx).2.2
    exact ⟨x.id, x.element, a, element, isInclusion ▸ hcontrol, attributes,
      Includer.target_request element attributes⟩

end Document

/-- A main document under its URI, and resources held in memory. -/
structure Web where
  uri : String
  main : Document
  resources : Table String String

namespace Web

variable (w : Web)

/-- The document with a URI: the main one, or the one that a resource is read as. -/
def Page (uri : String) (d : Document) : Prop :=
  if uri = w.uri then d = w.main else Resolver.Holds w.resources uri d

/-- The document with the one URI has an include that refers to the other. -/
def Link (source target : String) : Prop := ∃ d, w.Page source d ∧ d.RefersTo target

/-- Links lead from the main document to a URI. -/
def Reaches (uri : String) : Prop := Relation.TransGen w.Link w.uri uri

/-- Links lead from the main document into a cycle. -/
def Cyclic : Prop :=
  ∃ uri, Relation.ReflTransGen w.Link w.uri uri ∧ Relation.TransGen w.Link uri uri

/-- There is a resource with a URI that can be read. -/
def Readable (uri : String) : Prop := ∃ d, Resolver.Holds w.resources uri d

variable {w}

theorem Page.unique {uri : String} {d d' : Document} (h : w.Page uri d) (h' : w.Page uri d') :
    d = d' := by
  by_cases start : uri = w.uri
  · rw [Page, if_pos start] at h h'
    rw [h, h']
  · rw [Page, if_neg start] at h h'
    exact h.unique h'

end Web

end Transclusion
