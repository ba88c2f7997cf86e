import Transclusion.Proofs.Fixup.BoundNames
import Transclusion.Proofs.Inclusion.Invariants
import Transclusion.Proofs.Inclusion.Web
import Transclusion.Proofs.Markup.ReadDocuments
/-!
# Expansions in writing

An expansion means what its text says: it is read again with the same nodes, and with the same names
and attributes wherever these come from.  For that all names in the texts of the document and of the
resources have to be QNames; then fix-up keeps every name bound to its namespace.

One kind of attribute is lost in writing.  An attribute `xmlns` of an include that is in the
namespace of local attributes is copied without its namespace, and then it is written like a
declaration of the default namespace (`Element.CopiesXmlns`).

* `Includer.stable_bound`: fix-up takes no name its namespace.
* `Includer.stable_noXmlns`: nothing else than such an attribute is written like a declaration.
* `Includer.expansion_read_back`: an expansion in writing is read again.
-/

namespace Transclusion

open Text

/-! ### Fix-up -/

namespace Element

/-- An include with an attribute that is copied under the name `xmlns` without a namespace. -/
def CopiesXmlns (options : Options) (e : Element) : Prop :=
  options.copyAttributes = true ∧ ControlRegistry.standard.get? e.name = some .inclusion
    ∧ ∃ a ∈ e.attributes.entries, a.1.isNamed (some localAttributesNamespace) "xmlns" = true

/-- No attribute is written like a declaration, neither on the element nor on those that its
attributes are copied to. -/
structure StaysFree (options : Options) (e : Element) : Prop where
  noXmlns : e.NoXmlns
  copies : ¬ e.CopiesXmlns options

/-- What holds of all names of attributes, and of the one that is set as it is written, holds of all
of them then. -/
theorem forall_keys_setAttribute {p : QName → Prop} {e : Element}
    (h : ∀ a ∈ e.attributes.entries, p a.1) {name : QName} (set : p (e.bindNamespace name).2)
    (value : String) : ∀ a ∈ (e.setAttribute name value).attributes.entries, p a.1 := by
  rw [← e.attributes_bindNamespace name] at h
  exact Table.forall_keys_insert h set value

theorem nsPrefix_bindNamespace (e : Element) {name : QName} (namespaced : name.nsUri ≠ none) :
    (e.bindNamespace name).2.nsPrefix ≠ none := by
  obtain ⟨p, b, gives, bind⟩ := e.bindNamespace_eq name
  rw [bind]
  cases gives with
  | unprefixed inNone => exact absurd inNone namespaced
  | xml | preferred | bound | declared => exact Option.some_ne_none _

namespace StaysFree

variable {options : Options} {e : Element} (h : e.StaysFree options)

include h

theorem setAttribute {name : QName} (plain : name.nsUri = none → name.localName ≠ "xmlns")
    (notLocal : name.isNamed (some localAttributesNamespace) "xmlns" = false) (value : String) :
    (e.setAttribute name value).StaysFree options := by
  have same := e.expanded_bindNamespace name
  have uri : (e.bindNamespace name).2.nsUri = name.nsUri := congrArg (·.1) same
  have localName : (e.bindNamespace name).2.localName = name.localName := congrArg (·.2) same
  constructor
  · -- A name without a prefix is in no namespace: in any other it is given a prefix.
    refine forall_keys_setAttribute
      (p := fun name => name.nsPrefix = none → name.localName ≠ "xmlns") h.noXmlns
      (fun unprefixed => ?_) value
    rw [localName]
    exact plain (by_contra fun namespaced => e.nsPrefix_bindNamespace namespaced unprefixed)
  · rintro ⟨on, isInclude, a, ha, named⟩
    rw [name_setAttribute] at isInclude
    have set :
        ¬ (e.bindNamespace name).2.isNamed (some localAttributesNamespace) "xmlns" = true := by
      rw [QName.isNamed, uri, localName, ← QName.isNamed, notLocal]
      exact Bool.false_ne_true
    exact forall_keys_setAttribute
      (p := fun name => ¬ name.isNamed (some localAttributesNamespace) "xmlns" = true)
      (fun a ha named => h.copies ⟨on, isInclude, a, ha, named⟩) set value a ha named

theorem setXml (l value : String) : (e.setAttribute (.xml l) value).StaysFree options := by
  have notLocal : decide (some xmlNamespace = some localAttributesNamespace) = false := by decide
  have namespaced : (QName.xml l).nsUri = none → (QName.xml l).localName ≠ "xmlns" := nofun
  exact h.setAttribute namespaced (Bool.and_eq_false_iff.mpr (.inl notLocal)) value

theorem removeAttribute (name : QName) : (e.removeAttribute name).StaysFree options := by
  refine ⟨fun a ha => h.noXmlns a (List.mem_of_mem_filter ha), ?_⟩
  rintro ⟨on, isInclude, a, ha, named⟩
  exact h.copies ⟨on, isInclude, a, List.mem_of_mem_filter ha, named⟩

/-- The attributes of an include can be copied. -/
theorem copyAttribute {inclusion : Element} (source : inclusion.StaysFree options)
    (on : options.copyAttributes = true)
    (isInclude : ControlRegistry.standard.get? inclusion.name = some .inclusion)
    {a : QName × String} (ha : a ∈ inclusion.attributes.entries) {name : QName}
    (copies : copiedName? a.1 = some name) : (e.setAttribute name a.2).StaysFree options := by
  unfold copiedName? at copies
  split at copies
  · cases copies
  next uri namespaced =>
    split at copies
    · cases copies
    split at copies
    · -- The one attribute that would be copied as `xmlns` is not on the include.
      next isLocal =>
      cases copies
      refine h.setAttribute (fun _ reserved => source.copies ⟨on, isInclude, a, ha, ?_⟩) rfl _
      have same : a.1.localName = "xmlns" := reserved
      rw [QName.isNamed, namespaced, isLocal, same]
      rfl
    · next notLocal =>
      cases copies
      refine h.setAttribute (fun none_ => ?_) ?_ _
      · rw [namespaced] at none_
        cases none_
      · rw [QName.isNamed, namespaced, Bool.and_eq_false_iff]
        exact .inl (by simpa using notLocal)

end StaysFree

end Element

namespace NodeKind

/-- An element with all its names bound, or a leaf that can be written. -/
def HasBoundNames : NodeKind → Prop
  | .document _ => False
  | .element e => e.IsBound
  | .leaf l => l.Writable

/-- If it is an element, its attributes stay without a declaration. -/
def StaysFree (options : Options) : NodeKind → Prop
  | .element e => e.StaysFree options
  | .document _ | .leaf _ => True

end NodeKind

namespace Includer

variable (includer : Includer)

theorem stable_bound : includer.Stable NodeKind.HasBoundNames where
  text _ := trivial
  apply context lang _ _ h := context.isBound_apply h lang
  topElement context _ setId _ _ _ source h := context.isBound_topElement h source setId

theorem stable_noXmlns (controls : includer.controls = .standard) :
    includer.Stable (NodeKind.StaysFree includer.options) where
  text _ := trivial
  apply context lang e options h :=
    context.keeps_apply (p := Element.StaysFree includer.options)
      (fun _ l _ value he => he.setXml l value) lang h
  topElement context inclusion setId e options isInclude source h := by
    rw [controls] at isInclude
    refine context.keeps_topElement (p := Element.StaysFree includer.options)
      (fun _ l _ value he => he.setXml l value) (fun _ he => he.removeAttribute _)
      (fun on a ha name copies e _ he => ?_) setId h
    rw [options] at on
    exact he.copyAttribute source on isInclude ha copies

end Includer

/-! ### The element at the top -/

/-- Where no element at the top is a control element, the element at the top stays. -/
theorem Forest.isOutermost_fill {controls : ControlRegistry} {f : Forest} {seen : Bool}
    (h : f.isOutermost seen = true) (free : ∀ e ∈ f.tops, controls.get? e.name = none)
    (answers : List Document) : (f.fill controls answers).isOutermost seen = true := by
  induction f generalizing seen answers with
  | nil => exact h
  | leaf l rest ih =>
    rw [isOutermost, Bool.and_eq_true, Bool.not_eq_true'] at h
    have stays : consLeaf l (rest.fill controls answers) = leaf l (rest.fill controls answers) := by
      cases l with
      | text s => cases h.1
      | comment | instruction => rfl
    rw [Forest.fill, stays, isOutermost, h.1, ih h.2 free]
    rfl
  | element e content rest _ ih =>
    obtain ⟨here, behind⟩ := List.forall_mem_cons.mp free
    rw [isOutermost, Bool.and_eq_true] at h
    simp only [Forest.fill, here]
    rw [isOutermost, h.1, ih h.2 behind]
    rfl

/-! ### Texts -/

/-- In the document is an include with an attribute that is copied under the name `xmlns`. -/
def Document.CopiesXmlns (options : Options) (d : Document) : Prop :=
  ∃ i e, d.nodes.element? i = some e ∧ e.CopiesXmlns options

theorem Document.hasBoundNames_of_read {base : Option String} {text : String} {d : Document}
    (qnames : HasQNames text) (read : Document.read base text = .ok d) :
    d.content.AllKinds NodeKind.HasBoundNames :=
  (Document.isBound_of_read qnames read).mono fun kind h => by
    cases kind with
    | document base => exact h
    | element e => exact h.1
    | leaf l => exact h

theorem Document.staysFree_of_read {options : Options} {base : Option String} {text : String}
    {d : Document} (qnames : HasQNames text) (copies : ¬ d.CopiesXmlns options)
    (read : Document.read base text = .ok d) : d.content.AllKinds (NodeKind.StaysFree options) := by
  have bound := Document.isBound_of_read qnames read
  refine (Forest.PlacedIn.of_document d).allKinds (fun i e found => ?_) fun i l found => trivial
  exact ⟨(Document.element_of_allKinds bound found).2, fun copied => copies ⟨i, e, found, copied⟩⟩

namespace Includer

/-- The text is that of a resource which is read as markup in the expansion of a document `root`. -/
inductive ReadFor (options : Options) (resources : Table String String) (root : Document) :
    String → Document → Prop
  | resource {site parseType s text d}
      (reached : (standard options (.memory resources)).Reached root
        (.resolution site parseType, s))
      (notText : parseType ≠ .text) (external : site.attributes.href ≠ "")
      (found : resources.get? (request site).target = some text)
      (read : Document.read (some (request site).target) text = .ok d) :
      ReadFor options resources root text d

section

variable {options : Options} {resources : Table String String} {root : Document}

/-- What holds of all nodes of what is read as markup is an invariant if fix-up keeps it. -/
theorem invariant_of_readFor {p : NodeKind → Prop}
    (stable : (standard options (.memory resources)).Stable p)
    (sources : ∀ text d, ReadFor options resources root text d → d.content.AllKinds p) :
    (standard options (.memory resources)).Invariant p root where
  stable := stable
  schemes := SchemeRegistry.keeps_standard stable
  plain := Resolver.plainText_memory resources
  reads site parseType s d reached notText external replied := by
    obtain ⟨text, found, read⟩ := Resolver.memoryXml_eq_ok_iff.mp (Except.ok.inj replied)
    exact sources text d (.resource reached notText external found read)

/-- The element at the top of an expansion is that of the document, unless it is a control
element. -/
theorem isOutermost_of_expandWithin {d e : Document} {depth : Nat}
    (outermost : d.content.isOutermost false = true)
    (top : ∀ t ∈ d.content.tops, ControlRegistry.standard.get? t.name = none)
    (expanded : (standard options (.memory resources)).expandWithin depth d = .ok (.ok e)) :
    e.content.isOutermost false = true := by
  obtain ⟨s, carried⟩ := carried_of_expandWithin _ expanded
  replace carried : (standard options (.memory resources)).expandAll _ d _ = _ := carried
  rw [expandAll_eq] at carried
  obtain ⟨answers, t, -, last⟩ := Expanding.bind_apply_eq_ok_iff.mp carried
  cases last
  exact Forest.isOutermost_fill outermost top answers

end

/-! ### A page with local attributes -/

namespace LocalPage

/-- Copies the attributes of includes and does nothing else. -/
def copying : Options := ⟨false, false, true, false⟩

/-- A resource in a namespace of its own, with another meaning of the prefix `q`. -/
def resource : String := "<p xmlns='urn:p' xmlns:q='urn:r'/>"

def resources : Table String String := .ofList [("http://h/a", resource)]

/-- A page with an include that has a local attribute of this name. -/
def written (localName : String) : String :=
  "<doc xmlns:xi='http://www.w3.org/2001/XInclude'"
    ++ " xmlns:l='http://www.w3.org/2001/XInclude/local-attributes' xmlns:q='urn:q'>"
    ++ "<xi:include href='http://h/a' l:" ++ localName ++ "='v' q:k='w'/></doc>"

def bindings : Bindings :=
  .ofList [("xi", xincludeNamespace), ("l", localAttributesNamespace), ("q", "urn:q")]

def doc : Element := ⟨.inNamespace none "doc", .empty, bindings, none⟩

def page (localName : String) : Document :=
  let attributes : Attributes := .ofList [(.plain "href", "http://h/a"),
    (.prefixed "l" localAttributesNamespace localName, "v"), (.prefixed "q" "urn:q" "k", "w")]
  let inclusion : Element :=
    ⟨.prefixed "xi" xincludeNamespace "include", attributes, bindings, none⟩
  ⟨none, .element doc (.element inclusion .nil .nil) .nil⟩

/-- The paragraph has both attributes; the prefix `q` being taken, the second one has another. -/
def result (localName : String) : Document :=
  let attributes : Attributes :=
    .ofList [(.plain localName, "v"), (.prefixed "ns0" "urn:q" "k", "w")]
  let bindings : Bindings := .ofList [("", "urn:p"), ("q", "urn:r"), ("ns0", "urn:q")]
  let paragraph : Element :=
    ⟨.inNamespace (some "urn:p") "p", attributes, bindings, some "http://h/a"⟩
  ⟨none, .element doc (.element paragraph .nil .nil) .nil⟩

theorem top_page (localName : String) :
    ∀ t ∈ (page localName).content.tops, ControlRegistry.standard.get? t.name = none := by
  have ordinary : ControlRegistry.standard.get? doc.name = none := by decide +kernel
  exact List.forall_mem_singleton.mpr ordinary

/-- The resource is all that can be read. -/
theorem hasQNames_of_readFor {root : Document} {text : String} {d : Document}
    (source : ReadFor copying resources root text d) : HasQNames text := by
  obtain ⟨-, -, -, found, -⟩ := source
  obtain ⟨k, among, -⟩ := Table.exists_mem_of_get? found
  have only : resources.entries = [("http://h/a", resource)] := by decide +kernel
  rw [only] at among
  cases List.mem_singleton.mp among
  decide +kernel

end LocalPage

open LocalPage in
/-- What is written of the page with a local attribute `xmlns` has the same declaration twice. -/
theorem copied_xmlns_not_read :
    Document.read none (written "xmlns") = .ok (page "xmlns") ∧ HasQNames (written "xmlns")
      ∧ (∀ t ∈ (page "xmlns").content.tops, ControlRegistry.standard.get? t.name = none)
      ∧ (∀ text' d', ReadFor copying resources (page "xmlns") text' d' → HasQNames text')
      ∧ (standard copying (.memory resources)).expandWithin 1 (page "xmlns")
        = .ok (.ok (result "xmlns"))
      ∧ ∀ e', Document.read none (result "xmlns").write ≠ .ok e' := by
  refine ⟨eq_ok_of_toOption (by decide +kernel), by decide +kernel, top_page _,
    fun _ _ => hasQNames_of_readFor, eq_ok_of_toOption (by decide +kernel), fun e' read => ?_⟩
  have fails : (Document.read none (result "xmlns").write).toOption = none := by decide +kernel
  rw [read] at fails
  cases fails

/-! ### Main result -/

/-- **An expansion in writing is read again**, with the same nodes in the same places, and its
elements with the same names and attributes, if no attribute without a prefix is called `xmlns`.
Such an attribute is there only if it is copied from an include. For this the names in the texts
that are read are QNames, and the element at the top of the document is no control element. -/
theorem expansion_read_back {options : Options} {resources : Table String String}
    {base : Option String} {text : String} {d e : Document} {depth : Nat}
    (read : Document.read base text = .ok d) (qnames : HasQNames text)
    (top : ∀ t ∈ d.content.tops, ControlRegistry.standard.get? t.name = none)
    (sources : ∀ text' d', ReadFor options resources d text' d' → HasQNames text')
    (expanded : (standard options (.memory resources)).expandWithin depth d = .ok (.ok e)) :
    ((∀ i t, e.nodes.element? i = some t → t.NoXmlns) → ∀ base',
        ∃ e', Document.read base' e.write = .ok e' ∧ e'.size = e.size
          ∧ (∀ i, e'.nodes.parent? i = e.nodes.parent? i ∧ e'.nodes.leaf? i = e.nodes.leaf? i
            ∧ (e'.nodes.element? i).map (fun t => (t.name, t.attributes))
              = (e.nodes.element? i).map fun t => (t.name, t.attributes))
          ∧ e'.content.deepEqual e.content = true)
      ∧ ∀ i t, e.nodes.element? i = some t → ¬ t.NoXmlns →
        ∃ d', (d' = d ∨ ∃ text', ReadFor options resources d text' d')
          ∧ d'.CopiesXmlns options := by
  let includer := standard options (.memory resources)
  obtain ⟨s, carried⟩ := includer.carried_of_expandWithin expanded
  -- Two invariants: all names are bound, whatever is copied; and no attribute is written like a
  -- declaration if none of the sources has one that would be copied so.
  refine ⟨fun noXmlns base' => ?_, fun i t found xmlns => by_contra fun none_ => xmlns ?_⟩
  · have bound := keeps_carryOut
      (invariant_of_readFor includer.stable_bound fun text' d' source => by
        obtain ⟨_, _, _, _, read'⟩ := id source
        exact Document.hasBoundNames_of_read (sources text' d' source) read')
      depth .refl (Document.hasBoundNames_of_read qnames read) carried
    have writable : e.content.AllKinds NodeKind.Writable :=
      (Forest.PlacedIn.of_document e).allKinds
        (fun i t found => (Document.element_of_allKinds bound found).writable (noXmlns i t found))
        fun i l found => Document.leaf_of_allKinds bound found
    have merged := (includer.expanded_of_expandWithin (Resolver.plainText_memory resources)
      expanded).merged
    exact Document.read_back_of_writable base' writable merged
      (isOutermost_of_expandWithin (Document.isOutermost_of_read read) top expanded)
  · have copiesNot : ∀ d', (d' = d ∨ ∃ text', ReadFor options resources d text' d') →
        ¬ d'.CopiesXmlns options := fun d' source copies => none_ ⟨d', source, copies⟩
    have free := keeps_carryOut
      (invariant_of_readFor (includer.stable_noXmlns rfl) fun text' d' source => by
        obtain ⟨_, _, _, _, read'⟩ := id source
        exact Document.staysFree_of_read (sources text' d' source)
          (copiesNot d' (.inr ⟨text', source⟩)) read')
      depth .refl (Document.staysFree_of_read qnames (copiesNot d (.inl rfl)) read) carried
    exact (Document.element_of_allKinds free found).noXmlns

open LocalPage in
/-- The page with a local attribute `k`: it is without a namespace in the result, and the other one
is in its own. -/
theorem expansion_read_back_localPage :
    Document.read none (written "k") = .ok (page "k")
      ∧ (standard copying (.memory resources)).expandWithin 1 (page "k") = .ok (.ok (result "k"))
      ∧ ∀ base', ∃ e', Document.read base' (result "k").write = .ok e' ∧ e'.size = (result "k").size
        ∧ (∀ i, e'.nodes.parent? i = (result "k").nodes.parent? i
          ∧ e'.nodes.leaf? i = (result "k").nodes.leaf? i
          ∧ (e'.nodes.element? i).map (fun t => (t.name, t.attributes))
            = ((result "k").nodes.element? i).map fun t => (t.name, t.attributes))
        ∧ e'.content.deepEqual (result "k").content = true := by
  have read : Document.read none (written "k") = .ok (page "k") :=
    eq_ok_of_toOption (by decide +kernel)
  have expanded : (standard copying (.memory resources)).expandWithin 1 (page "k")
      = .ok (.ok (result "k")) := eq_ok_of_toOption (by decide +kernel)
  have noXmlns : ∀ i t, (result "k").nodes.element? i = some t → t.NoXmlns := by
    intro i t found
    rcases i with _ | _ | _ | i <;> cases found <;> decide
  exact ⟨read, expanded, (expansion_read_back read (by decide +kernel) (top_page _)
    (fun _ _ => hasQNames_of_readFor) expanded).1 noXmlns⟩

end Includer

end Transclusion
