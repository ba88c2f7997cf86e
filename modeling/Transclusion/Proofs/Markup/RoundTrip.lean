import Transclusion.Proofs.Markup.Arena
import Transclusion.Proofs.Markup.ReadBack
/-!
# Reading undoes writing

What may be in a document so that it is the same when it was written and read: names of parts that
can be told apart, each with its prefix bound to its namespace where it stands; comments and
instructions that do not end themselves; one element at the top, and no text beside it
(`Document.WellNamed`).  Texts and values of attributes may hold anything.
-/

namespace Transclusion

open Text

/-! ### Names of parts -/

/-- A part of a name: it has no character with a meaning in markup, and no colon. -/
structure IsNamePart (s : String) : Prop where
  written : IsWrittenName s.toList
  noColon : ':' ∉ s.toList

instance (cs : List Char) : Decidable (IsWrittenName cs) :=
  decidable_of_iff (cs ≠ [] ∧ cs.all isBare = true)
    ⟨fun ⟨h₁, h₂⟩ => ⟨h₁, List.all_eq_true.mp h₂⟩, fun ⟨h₁, h₂⟩ => ⟨h₁, List.all_eq_true.mpr h₂⟩⟩

instance (s : String) : Decidable (IsNamePart s) :=
  decidable_of_iff (IsWrittenName s.toList ∧ ':' ∉ s.toList) ⟨fun ⟨h₁, h₂⟩ => ⟨h₁, h₂⟩,
    fun ⟨h₁, h₂⟩ => ⟨h₁, h₂⟩⟩

theorem IsNamePart.ne_empty {s : String} (h : IsNamePart s) : s ≠ "" :=
  mt String.toList_eq_nil_iff.mpr h.written.nonempty

theorem toList_prefixed (p l : String) : (p ++ ":" ++ l).toList = p.toList ++ ':' :: l.toList := by
  simp

theorem IsNamePart.isWrittenName_prefixed {p l : String} (hp : IsNamePart p) (hl : IsNamePart l) :
    IsWrittenName (p ++ ":" ++ l).toList := by
  rw [toList_prefixed]
  refine ⟨List.append_ne_nil_of_left_ne_nil hp.written.nonempty _, fun c hc => ?_⟩
  obtain hc | hc := List.mem_append.mp hc
  · exact hp.written.bare c hc
  · obtain rfl | hc := List.mem_cons.mp hc
    · decide
    · exact hl.written.bare c hc

theorem isWrittenName_declarationName {p : String} (h : p = "" ∨ IsNamePart p) :
    IsWrittenName (declarationName p).toList := by
  have xmlns : IsNamePart "xmlns" := by decide
  obtain rfl | part := h
  · exact xmlns.written
  · have colon : ("xmlns:" : String) = "xmlns" ++ ":" := by decide
    rw [declarationName, if_neg (mt String.toList_eq_nil_iff.mpr part.written.nonempty), colon]
    exact xmlns.isWrittenName_prefixed part

theorem declaration?_eq_none {key : String} (notDefault : key ≠ "xmlns")
    (notPrefixed : ∀ after, key.toList ≠ "xmlns".toList ++ ':' :: after) (value : String) :
    declaration? key value = none := by
  rw [declaration?, if_neg notDefault, Option.map_eq_none_iff, Option.eq_none_iff_forall_ne_some]
  intro after found
  exact notPrefixed after (List.isPrefixOf?_eq_some_iff_append_eq.mp found).symm

namespace QName

theorem resolve_prefixed {p : String} (hp : ':' ∉ p.toList) (bindings : Bindings)
    (useDefault : Bool) (l : String) :
    resolve bindings useDefault (p ++ ":" ++ l)
      = if p = "xml" then .ok (.xml l)
        else match bindings.get? p with
          | some uri => .ok (.prefixed p uri l)
          | none => .error (.unboundPrefix p) := by
  rw [resolve, toList_prefixed, cutAt_append hp]
  cases found : bindings.get? p <;> simp only [String.ofList_toList, found]

theorem resolve_unprefixed {l : String} (hl : ':' ∉ l.toList) (bindings : Bindings)
    (useDefault : Bool) :
    resolve bindings useDefault l
      = .ok (if useDefault then .inNamespace (bindings.get? "") l else .plain l) := by
  rw [resolve, cutAt_eq_none_iff.mpr hl]
  cases useDefault <;> rfl

/-- A name of parts that stands for its namespace where the bindings are in scope; without a prefix
it is in the default namespace if `useDefault`, and else in none. -/
structure IsBound (bindings : Bindings) (useDefault : Bool) (name : QName) : Prop where
  localPart : IsNamePart name.localName
  prefixPart : ∀ p ∈ name.nsPrefix, IsNamePart p ∧ p ≠ "xmlns"
  unprefixed : name.nsPrefix = none → name.nsUri = if useDefault then bindings.get? "" else none
  xml : name.nsPrefix = some "xml" → name.nsUri = some xmlNamespace
  prefixed : ∀ p ∈ name.nsPrefix, p ≠ "xml" →
    ∃ uri ∈ bindings.get? p, name.nsUri = nonEmpty? uri

instance (bindings : Bindings) (useDefault : Bool) (name : QName) :
    Decidable (name.IsBound bindings useDefault) :=
  decidable_of_iff
    (IsNamePart name.localName ∧ (∀ p ∈ name.nsPrefix, IsNamePart p ∧ p ≠ "xmlns")
      ∧ (name.nsPrefix = none → name.nsUri = if useDefault then bindings.get? "" else none)
      ∧ (name.nsPrefix = some "xml" → name.nsUri = some xmlNamespace)
      ∧ ∀ p ∈ name.nsPrefix, p ≠ "xml" → ∃ uri ∈ bindings.get? p, name.nsUri = nonEmpty? uri)
    ⟨fun ⟨h₁, h₂, h₃, h₄, h₅⟩ => ⟨h₁, h₂, h₃, h₄, h₅⟩,
      fun ⟨h₁, h₂, h₃, h₄, h₅⟩ => ⟨h₁, h₂, h₃, h₄, h₅⟩⟩

namespace IsBound

variable {bindings : Bindings} {useDefault : Bool}

/-- A name without a prefix, in the default namespace or in none. -/
theorem of_unprefixed {uri : Option String} {l : String} (part : IsNamePart l)
    (same : uri = if useDefault then bindings.get? "" else none) :
    (QName.mk none uri l).IsBound bindings useDefault where
  localPart := part
  prefixPart p hp := by cases hp
  unprefixed _ := same
  xml isXml := by cases isXml
  prefixed p hp := by cases hp

/-- A name with a prefix that is bound. -/
theorem of_prefixed {p uri l : String} (part : IsNamePart l) (hp : IsNamePart p ∧ p ≠ "xmlns")
    (notXml : p ≠ "xml") (found : bindings.get? p = some uri) :
    (QName.mk (some p) (nonEmpty? uri) l).IsBound bindings useDefault where
  localPart := part
  prefixPart q hq := by
    cases hq
    exact hp
  unprefixed none_ := by cases none_
  xml isXml := absurd (Option.some.inj isXml) notXml
  prefixed q hq _ := by
    cases hq
    exact ⟨uri, found, rfl⟩

/-- A name of the XML namespace, with the prefix that stands for it everywhere. -/
theorem of_xml {l : String} (part : IsNamePart l) :
    (QName.mk (some "xml") (some xmlNamespace) l).IsBound bindings useDefault where
  localPart := part
  prefixPart p hp := by
    cases hp
    decide
  unprefixed none_ := by cases none_
  xml _ := rfl
  prefixed p hp other := absurd (Option.some.inj hp).symm other

variable {name : QName} (h : name.IsBound bindings useDefault)

include h

theorem isWrittenName : IsWrittenName name.lexical.toList := by
  rw [lexical]
  split
  · next p hp => exact (h.prefixPart p hp).1.isWrittenName_prefixed h.localPart
  · exact h.localPart.written

/-- The name is what its written form stands for. -/
theorem resolve_lexical (default : bindings.get? "" ≠ some "") :
    resolve bindings useDefault name.lexical = .ok name := by
  obtain ⟨nsPrefix, nsUri, localName⟩ := name
  cases nsPrefix with
  | none =>
    obtain rfl : nsUri = _ := h.unprefixed rfl
    rw [lexical, resolve_unprefixed h.localPart.noColon]
    cases useDefault with
    | false => rfl
    | true =>
      cases found : bindings.get? "" with
      | none => rfl
      | some uri =>
        have same : nonEmpty? uri = some uri :=
          if_neg fun empty => default (found.trans (congrArg some empty))
        simp [inNamespace, same]
  | some p =>
    have part := (h.prefixPart p rfl).1
    have named : nonEmpty? p = some p :=
      if_neg (mt String.toList_eq_nil_iff.mpr part.written.nonempty)
    rw [lexical, resolve_prefixed part.noColon]
    split
    · next isXml =>
      subst isXml
      obtain rfl : nsUri = _ := h.xml rfl
      rfl
    · next other =>
      obtain ⟨uri, found, rfl⟩ := h.prefixed p rfl other
      rw [Option.mem_def] at found
      rw [found]
      simp [QName.prefixed, named]

/-- The name is not read as that of a declaration. -/
theorem declaration?_lexical (other : name.nsPrefix = none → name.localName ≠ "xmlns")
    (value : String) : declaration? name.lexical value = none := by
  refine declaration?_eq_none ?_ ?_ value
  · intro same
    cases hp : name.nsPrefix with
    | none =>
      rw [lexical, hp] at same
      exact other hp same
    | some p =>
      rw [lexical, hp] at same
      have colon : ':' ∈ "xmlns".toList := same ▸ by simp
      exact absurd colon (by decide)
  · intro after same
    cases hp : name.nsPrefix with
    | none =>
      rw [lexical, hp] at same
      exact h.localPart.noColon (same ▸ by simp)
    | some p =>
      have parts := h.prefixPart p hp
      rw [lexical, hp, toList_prefixed] at same
      have cut := cutAt_append parts.1.noColon name.localName.toList
      rw [same, cutAt_append (by decide), Option.some.injEq, Prod.mk.injEq] at cut
      exact parts.2 (String.toList_inj.mp cut.1.symm)

end IsBound

end QName

/-! ### Elements and leaves -/

/-- A prefix that may be declared; the empty one is that of the default namespace. -/
def IsDeclarable (p : String) : Prop := p = "" ∨ IsNamePart p ∧ p ≠ "xml" ∧ p ≠ "xmlns"

instance (p : String) : Decidable (IsDeclarable p) :=
  inferInstanceAs (Decidable (p = "" ∨ IsNamePart p ∧ p ≠ "xml" ∧ p ≠ "xmlns"))

/-- Prefixes that may be declared; no default namespace is bound as none. -/
structure Bindings.WellFormed (b : Bindings) : Prop where
  prefixes : ∀ entry ∈ b.entries, IsDeclarable entry.1
  default : b.get? "" ≠ some ""

instance (b : Bindings) : Decidable b.WellFormed :=
  decidable_of_iff ((∀ entry ∈ b.entries, IsDeclarable entry.1) ∧ b.get? "" ≠ some "")
    ⟨fun ⟨h₁, h₂⟩ => ⟨h₁, h₂⟩, fun ⟨h₁, h₂⟩ => ⟨h₁, h₂⟩⟩

namespace Bindings.WellFormed

variable {bindings : Bindings} (h : bindings.WellFormed)

include h

theorem insert {p : String} (declarable : IsNamePart p ∧ p ≠ "xml" ∧ p ≠ "xmlns") (uri : String) :
    Bindings.WellFormed (bindings.insert p uri) where
  prefixes := Table.forall_keys_insert h.prefixes (.inr declarable) uri
  default := by
    have same : (bindings.insert p uri).get? "" = bindings.get? "" := by
      rw [Table.get?_insert]
      exact if_neg declarable.1.ne_empty
    rw [same]
    exact h.default

theorem insertDefault {uri : String} (nonempty : uri ≠ "") :
    Bindings.WellFormed (bindings.insert "" uri) where
  prefixes := Table.forall_keys_insert h.prefixes (.inl rfl) uri
  default := by
    rw [Table.get?_insert, if_pos rfl]
    exact fun empty => nonempty (Option.some.inj empty)

theorem eraseDefault : Bindings.WellFormed (bindings.erase "") where
  prefixes entry hentry := h.prefixes entry (List.mem_of_mem_filter hentry)
  default := by
    rw [Table.get?_erase_self]
    exact Option.some_ne_none _ ∘ Eq.symm

/-- No prefix with a meaning of its own is bound. -/
theorem get?_eq_none {p : String} (reserved : ¬ IsDeclarable p) : bindings.get? p = none := by
  rw [Table.get?_eq_none_iff]
  intro b hb same
  obtain rfl : b.1 = p := same
  exact reserved (h.prefixes b hb)

end Bindings.WellFormed

/-- An element of which all names stand for their namespaces by its own bindings. -/
structure Element.IsBound (e : Element) : Prop where
  name : e.name.IsBound e.bindings true
  attributes : ∀ a ∈ e.attributes.entries, a.1.IsBound e.bindings false
  bindings : e.bindings.WellFormed

instance (e : Element) : Decidable e.IsBound :=
  decidable_of_iff
    (e.name.IsBound e.bindings true ∧ (∀ a ∈ e.attributes.entries, a.1.IsBound e.bindings false)
      ∧ e.bindings.WellFormed)
    ⟨fun ⟨h₁, h₂, h₃⟩ => ⟨h₁, h₂, h₃⟩, fun ⟨h₁, h₂, h₃⟩ => ⟨h₁, h₂, h₃⟩⟩

/-- No attribute is written as a declaration of the default namespace. -/
def Element.NoXmlns (e : Element) : Prop :=
  ∀ a ∈ e.attributes.entries, a.1.nsPrefix = none → a.1.localName ≠ "xmlns"

instance (e : Element) : Decidable e.NoXmlns :=
  inferInstanceAs
    (Decidable (∀ a ∈ e.attributes.entries, a.1.nsPrefix = none → a.1.localName ≠ "xmlns"))

theorem Element.IsBound.writable {e : Element} (h : e.IsBound) (noXmlns : e.NoXmlns) :
    e.Writable where
  name := h.name.isWrittenName
  resolves := h.name.resolve_lexical h.bindings.default
  attributes a ha :=
    have bound := h.attributes a ha
    ⟨bound.isWrittenName, bound.declaration?_lexical (noXmlns a ha) a.2,
      bound.resolve_lexical h.bindings.default⟩
  bindings b hb := isWrittenName_declarationName ((h.bindings.prefixes b hb).imp_right (·.1))
  default := h.bindings.default

/-- A comment or an instruction that ends where it was ended, and is told from a declaration. -/
def Leaf.WellFormed : Leaf → Prop
  | .text _ => True
  | .comment s => ¬ ['-', '-', '>'] <:+: s.toList
  | .instruction target data => IsWrittenName target.toList ∧ target ≠ "xml"
    ∧ ¬ ['?', '>'] <:+: data.toList ∧ ∀ c ∈ data.toList.head?, isSpace c = false

instance : (l : Leaf) → Decidable l.WellFormed
  | .text _ => inferInstanceAs (Decidable True)
  | .comment s => inferInstanceAs (Decidable ¬ ['-', '-', '>'] <:+: s.toList)
  | .instruction target data =>
    decidable_of_iff (IsWrittenName target.toList ∧ target ≠ "xml"
        ∧ ¬ ['?', '>'] <:+: data.toList ∧ data.toList.head?.all (!isSpace ·) = true)
      (by simp only [Leaf.WellFormed, Option.all_eq_true, Bool.not_eq_true', Option.mem_def])

theorem Leaf.WellFormed.writable {l : Leaf} (h : l.WellFormed) : l.Writable := by
  cases l with
  | text s => trivial
  | comment s => exact writable_comment h
  | instruction target data =>
    obtain ⟨named, notXml, absent, leading⟩ := h
    have bare : ∀ c ∈ target.toList, c ≠ '>' ∧ c ≠ '?' := fun c hc =>
      ⟨(ne_of_isBare (named.bare c hc)).2.1, (ne_of_isBare (named.bare c hc)).2.2.2.2.2.1⟩
    refine writable_instruction (fun c hc => isMarkupSpace_of_isBare (named.bare c hc)) notXml
      (fun first => (bare _ (List.mem_of_head? first)).1 rfl)
      (fun found => (bare '?' (found.subset List.mem_cons_self)).2 rfl) absent leading

/-! ### Documents -/

/-- A document that can be written: its root element is the only one at its top, beside it is no
text, and all names, comments and instructions are in order. -/
structure Document.WellNamed (d : Document) : Prop where
  root : ∃ i, d.nodes.elementChildren 0 = [i]
  noText : ∀ i ∈ d.nodes.children 0, ∀ l ∈ d.nodes.leaf? i, l.isText = false
  merged : d.content.isMerged
  element : ∀ i e, d.nodes.element? i = some e → e.IsBound ∧ e.NoXmlns
  leaf : ∀ i l, d.nodes.leaf? i = some l → l.WellFormed

namespace Forest.PlacedIn

variable {d : Document} {parent first : Nat} {f : Forest}

theorem isOutermost_of_one (h : f.PlacedIn d parent first) {seen : Bool}
    (one : ((f.topIds first).filter d.nodes.isElement).length = if seen then 0 else 1)
    (noText : ∀ i ∈ f.topIds first, ∀ l ∈ d.nodes.leaf? i, l.isText = false) :
    f.isOutermost seen = true := by
  induction f generalizing first seen with
  | nil =>
    cases seen with
    | false => cases one
    | true => rfl
  | leaf l rest ih =>
    have kind := h.kind?_leaf
    obtain ⟨here, behind⟩ := List.forall_mem_cons.mp noText
    have noElement : d.nodes.isElement first = false := by
      rw [NodeList.isElement, NodeList.element?, kind]
      rfl
    rw [topIds, List.filter_cons_of_neg (by simp [noElement])] at one
    rw [isOutermost, ih h.behind_leaf one behind, Bool.and_true, Bool.not_eq_true']
    exact here l (by rw [NodeList.leaf?, kind, Option.mem_def])
  | element e content rest _ ih =>
    have isElement : d.nodes.isElement first = true := by
      rw [NodeList.isElement, NodeList.element?, h.kind?_element]
      rfl
    rw [topIds, List.filter_cons_of_pos isElement, List.length_cons] at one
    cases seen with
    | true => cases one
    | false =>
      have later := @ih _ h.behind_element true (Nat.succ.inj one)
        (List.forall_mem_cons.mp noText).2
      rw [isOutermost, later]
      rfl

/-- What holds of all elements and leaves of a document holds of those in a part of it. -/
theorem allKinds {p : NodeKind → Prop} (h : f.PlacedIn d parent first)
    (element : ∀ i e, d.nodes.element? i = some e → p (.element e))
    (leaf : ∀ i l, d.nodes.leaf? i = some l → p (.leaf l)) : f.AllKinds p := by
  induction f generalizing parent first with
  | nil => trivial
  | leaf l rest ih =>
    exact ⟨leaf first l (by rw [NodeList.leaf?, h.kind?_leaf]), ih h.behind_leaf⟩
  | element e content rest ihc ih =>
    exact ⟨element first e (by rw [NodeList.element?, h.kind?_element]), ihc h.inside,
      ih h.behind_element⟩

end Forest.PlacedIn

namespace Document

variable {d : Document}

theorem WellNamed.isOutermost (h : d.WellNamed) : d.content.isOutermost false = true := by
  have top : d.nodes.children 0 = d.content.topIds 1 :=
    Forest.PlacedIn.children_eq_topIds (i := 0) (t := .document d) rfl
  obtain ⟨i, root⟩ := h.root
  refine (Forest.PlacedIn.of_document d).isOutermost_of_one ?_ (top ▸ h.noText)
  rw [← top, ← NodeList.elementChildren, root]
  rfl

theorem WellNamed.allKinds_writable (h : d.WellNamed) : d.content.AllKinds NodeKind.Writable :=
  (Forest.PlacedIn.of_document d).allKinds
    (fun i e found => (h.element i e found).1.writable (h.element i e found).2)
    fun i l found => (h.leaf i l found).writable

/-- Only the document itself tells documents with the same content apart. -/
theorem nodes_of_content (base : Option String) (d : Document) (i : Nat) :
    (Document.mk base d.content).nodes.parent? i = d.nodes.parent? i
      ∧ (Document.mk base d.content).nodes.leaf? i = d.nodes.leaf? i
      ∧ (Document.mk base d.content).nodes.element? i = d.nodes.element? i := by
  cases i <;> exact ⟨rfl, rfl, rfl⟩

/-- What can be written is read with the same nodes in the same places, its elements with the same
names and attributes. -/
theorem read_back_of_writable (base : Option String)
    (writable : d.content.AllKinds NodeKind.Writable) (merged : d.content.isMerged)
    (outermost : d.content.isOutermost false = true) :
    ∃ d', Document.read base d.write = .ok d' ∧ d'.size = d.size
      ∧ (∀ i, d'.nodes.parent? i = d.nodes.parent? i ∧ d'.nodes.leaf? i = d.nodes.leaf? i
        ∧ (d'.nodes.element? i).map (fun e => (e.name, e.attributes))
          = (d.nodes.element? i).map fun e => (e.name, e.attributes))
      ∧ d'.content.deepEqual d.content = true := by
  obtain ⟨d', read, recast⟩ := read_write_of_writable base writable merged outermost
  refine ⟨d', read, congrArg (· + 1) recast.content.size_eq, fun i => ?_, recast.content.deepEqual⟩
  obtain ⟨parent, leaf, element⟩ := nodes_of_content base d i
  refine ⟨(congrFun recast.parent?_eq i).trans parent, (congrFun recast.leaf?_eq i).trans leaf, ?_⟩
  rw [← element]
  refine recast.map_element?_eq (fun _ _ e e' same => ?_) i
  exact Prod.ext same.1 same.2

/-- Reading undoes writing: what was written is read, and has the same nodes in the same places, its
elements with the same names and attributes. -/
theorem read_write (base : Option String) {d : Document} (h : d.WellNamed) :
    ∃ d', Document.read base d.write = .ok d' ∧ d'.size = d.size
      ∧ (∀ i, d'.nodes.parent? i = d.nodes.parent? i ∧ d'.nodes.leaf? i = d.nodes.leaf? i
        ∧ (d'.nodes.element? i).map (fun e => (e.name, e.attributes))
          = (d.nodes.element? i).map fun e => (e.name, e.attributes))
      ∧ d'.content.deepEqual d.content = true :=
  read_back_of_writable base h.allKinds_writable h.merged h.isOutermost

/-- A page in a namespace with a prefix; its paragraph is in none, where the default is another. -/
def titledPage : Document :=
  let outer : Bindings := ⟨[("a", "urn:a"), ("", "urn:d")], by decide⟩
  let inner : Bindings := ⟨[("a", "urn:a")], by decide⟩
  let title : Attributes := ⟨[(⟨some "a", some "urn:a", "title"⟩, "\"&\"")], by decide⟩
  ⟨none, .leaf (.comment "page")
    (.element ⟨⟨some "a", some "urn:a", "page"⟩, title, outer, none⟩
      (.element ⟨.plain "p", .empty, inner, none⟩ (.leaf (.text "1 < 2") .nil) .nil)
      (.leaf (.instruction "end" "of page") .nil))⟩

example : titledPage.write = "<!--page--><a:page xmlns:a=\"urn:a\" xmlns=\"urn:d\" "
    ++ "a:title=\"&quot;&amp;&quot;\"><p xmlns=\"\">1 &lt; 2</p></a:page><?end of page?>" := by
  cbv

theorem wellNamed_titledPage : titledPage.WellNamed where
  root := ⟨2, by decide⟩
  noText := by decide
  merged := by decide
  element i e found := by
    rcases i with _ | _ | _ | _ | _ | _ | i <;> cases found <;> decide
  leaf i l found := by
    rcases i with _ | _ | _ | _ | _ | _ | i <;> cases found <;> decide

theorem read_write_titledPage :
    ∃ d', Document.read none titledPage.write = .ok d' ∧ d'.size = titledPage.size
      ∧ (∀ i, d'.nodes.parent? i = titledPage.nodes.parent? i
        ∧ d'.nodes.leaf? i = titledPage.nodes.leaf? i
        ∧ (d'.nodes.element? i).map (fun e => (e.name, e.attributes))
          = (titledPage.nodes.element? i).map fun e => (e.name, e.attributes))
      ∧ d'.content.deepEqual titledPage.content = true :=
  read_write none wellNamed_titledPage

end Document

end Transclusion
