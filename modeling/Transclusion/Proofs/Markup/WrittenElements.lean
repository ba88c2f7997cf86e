import Transclusion.Proofs.Markup.WrittenTags
import Transclusion.Proofs.Outcome
import Transclusion.Proofs.Table
/-!
# Elements that are written

An element is written with the declarations that it needs inside of the element around it.  What is
in scope where it is read need not be the same as its bindings: a prefix that the element does not
have stays in scope if the element around it has it.  But whatever the element binds is bound to the
same there (`Bindings.AgreesWith`), so that its names stand for the same (`QName.resolve_congr`).

* `Bindings.AgreesWith.declareAll`: the bindings that are read for the declarations of an element.
* `Reading.elementOfTag_written`: the element that is read has the same name and attributes.
-/

namespace Transclusion

open Text

/-- Where the bindings `scope` are in scope, whatever `outer` binds stands for the same, and so does
a name without a prefix. -/
structure Bindings.AgreesWith (scope outer : Bindings) : Prop where
  default : scope.get? "" = outer.get? ""
  named : ∀ p uri, p ≠ "" → p ≠ "xml" → outer.get? p = some uri → scope.get? p = some uri

/-- What is written for the names of an element is read as these names, in its own scope. -/
structure Element.Writable (e : Element) : Prop where
  name : IsWrittenName e.name.lexical.toList
  resolves : QName.resolve e.bindings true e.name.lexical = .ok e.name
  attributes : ∀ a ∈ e.attributes.entries, IsWrittenName a.1.lexical.toList
    ∧ declaration? a.1.lexical a.2 = none ∧ QName.resolve e.bindings false a.1.lexical = .ok a.1
  bindings : ∀ b ∈ e.bindings.entries, IsWrittenName (declarationName b.1).toList
  default : e.bindings.get? "" ≠ some ""

/-- The declarations and attributes of an element, as they are written in its tag. -/
def Element.writtenAttributes (outer : Bindings) (e : Element) : List (String × String) :=
  (e.declarations outer).map (fun b => (declarationName b.1, b.2))
    ++ e.attributes.entries.map fun a => (a.1.lexical, a.2)

theorem Element.writeStart_eq (outer : Bindings) (e : Element) :
    e.writeStart outer = '<' :: writeTag e.name.lexical.toList (e.writtenAttributes outer) := by
  simp [writeStart, writeTag, writeAttributes, writtenAttributes, List.flatMap_append,
    List.flatMap_map]

/-! ### Names -/

/-- A name stands for the same where all bindings that it can need are the same. -/
theorem QName.resolve_congr {scope outer : Bindings} (agrees : scope.AgreesWith outer)
    {useDefault : Bool} {written : String} {name : QName}
    (h : resolve outer useDefault written = .ok name) :
    resolve scope useDefault written = .ok name := by
  unfold resolve at h ⊢
  split at h
  · next before after cut =>
    dsimp only at h ⊢
    split at h
    · next isXml =>
      rw [if_pos isXml]
      exact h
    · next notXml =>
      rw [if_neg notXml]
      cases found : outer.get? (String.ofList before) with
      | none =>
        rw [found] at h
        cases h
      | some uri =>
        have same : scope.get? (String.ofList before) = some uri := by
          by_cases empty : String.ofList before = ""
          · rw [empty] at found ⊢
            rw [agrees.default, found]
          · exact agrees.named _ uri empty notXml found
        rw [found] at h
        rw [same]
        exact h
  · rw [agrees.default]
    exact h

/-! ### Declarations -/

/-- The declaration that binds a prefix. -/
def Declaration.ofBinding (b : String × String) : Declaration :=
  if b.1 = "" then .ofDefault b.2 else .ofPrefix b.1 b.2

theorem declaration?_declarationName (p uri : String) :
    declaration? (declarationName p) uri = some (.ofBinding (p, uri)) := by
  by_cases empty : p = ""
  · subst empty
    rfl
  · have long : declarationName p ≠ "xmlns" := by
      rw [declarationName, if_neg empty]
      intro same
      have length := congrArg String.length same
      rw [String.length_append] at length
      have six : "xmlns:".length = 6 := rfl
      have five : "xmlns".length = 5 := rfl
      omega
    rw [declaration?, if_neg long, Declaration.ofBinding, if_neg empty, declarationName,
      if_neg empty, String.toList_append]
    simp [List.isPrefixOf?]

theorem declarationName_injective : Function.Injective declarationName := by
  intro p q same
  have declared := declaration?_declarationName p ""
  rw [same, declaration?_declarationName, Option.some.injEq] at declared
  unfold Declaration.ofBinding at declared
  split at declared <;> split at declared <;> cases declared <;> simp_all

namespace Bindings

theorem get?_declare (b : Bindings) (p uri q : String) :
    (b.declare (.ofBinding (p, uri))).get? q
      = if p = q then if p = "" ∧ uri = "" then none else some uri else b.get? q := by
  rw [Declaration.ofBinding]
  by_cases empty : p = ""
  · subst empty
    rw [if_pos rfl]
    by_cases undeclared : uri = ""
    · subst undeclared
      rw [declare, if_pos rfl]
      by_cases same : "" = q
      · subst same
        rw [if_pos rfl, if_pos ⟨rfl, rfl⟩, Table.get?_erase_self]
      · rw [if_neg same, Table.get?_erase_of_ne b (Ne.symm same)]
    · have declared : ¬("" = "" ∧ uri = "") := fun h => undeclared h.2
      rw [declare, if_neg undeclared, Table.get?_insert, if_neg declared]
      rfl
  · have declared : ¬(p = "" ∧ uri = "") := fun h => empty h.1
    rw [if_neg empty, declare, Table.get?_insert, if_neg declared]
    rfl

/-- The bindings after some declarations. -/
def declareAll (b : Bindings) (declared : List (String × String)) : Bindings :=
  declared.foldl (fun b d => b.declare (.ofBinding d)) b

theorem get?_declareAll_of_not_mem {declared : List (String × String)} {p : String}
    (other : p ∉ declared.map (·.1)) (b : Bindings) :
    (b.declareAll declared).get? p = b.get? p := by
  induction declared generalizing b with
  | nil => rfl
  | cons d declared ih =>
    rw [List.map_cons, List.mem_cons, not_or] at other
    rw [declareAll, List.foldl_cons, ← declareAll, ih other.2, get?_declare,
      if_neg (Ne.symm other.1)]

theorem get?_declareAll_of_mem {declared : List (String × String)} {p uri : String}
    (distinct : (declared.map (·.1)).Nodup) (h : (p, uri) ∈ declared) (b : Bindings) :
    (b.declareAll declared).get? p = if p = "" ∧ uri = "" then none else some uri := by
  induction declared generalizing b with
  | nil => cases h
  | cons d declared ih =>
    rw [List.map_cons, List.nodup_cons] at distinct
    rw [declareAll, List.foldl_cons, ← declareAll]
    obtain rfl | h := List.mem_cons.mp h
    · rw [get?_declareAll_of_not_mem distinct.1, get?_declare, if_pos rfl]
    · exact ih distinct.2 h _

/-- What is declared by attributes as they are written, of which none but these is a declaration. -/
theorem within_written (scope : Bindings) (declared : List (String × String))
    {others : List (String × String)} (h : ∀ a ∈ others, declaration? a.1 a.2 = none) :
    within scope (declared.map (fun b => (declarationName b.1, b.2)) ++ others)
      = scope.declareAll declared := by
  have none : others.filterMap (fun a => declaration? a.1 a.2) = [] :=
    List.filterMap_eq_nil_iff.mpr h
  have all : (declared.map fun b => (declarationName b.1, b.2)).filterMap
      (fun a => declaration? a.1 a.2) = declared.map Declaration.ofBinding := by
    rw [List.filterMap_map, ← List.filterMap_eq_map]
    refine List.filterMap_congr fun b _ => ?_
    exact declaration?_declarationName b.1 b.2
  show List.foldl declare scope
    (List.filterMap (fun a : String × String => declaration? a.1 a.2) _) = _
  rw [List.filterMap_append, none, all, List.append_nil, List.foldl_map, declareAll]

end Bindings

namespace Element

variable {outer : Bindings} {e : Element}

theorem mem_declarations_iff {p uri : String} :
    (p, uri) ∈ e.declarations outer
      ↔ (p, uri) ∈ e.bindings.entries ∧ p ≠ "xml" ∧ outer.get? p ≠ some uri
        ∨ p = "" ∧ uri = "" ∧ outer.contains "" = true ∧ e.bindings.contains "" = false := by
  rw [declarations, List.mem_append, List.mem_filter]
  refine or_congr (and_congr_right fun _ => by simp) ?_
  split
  · next h => simp_all
  · next h => simp_all

/-- No prefix is declared twice. -/
theorem nodup_declarations (outer : Bindings) (e : Element) :
    ((e.declarations outer).map (·.1)).Nodup := by
  have unique : (e.bindings.entries.map (·.1)).Nodup := e.bindings.unique
  have kept := unique.sublist (List.filter_sublist (p := fun b : String × String =>
    b.1 ≠ "xml" && outer.get? b.1 ≠ some b.2) |>.map (·.1))
  rw [declarations, List.map_append]
  split
  · next undeclared =>
    rw [Bool.and_eq_true, Bool.not_eq_true', Table.contains_eq_isSome e.bindings,
      Option.isSome_eq_false_iff, Option.isNone_iff_eq_none, Table.get?_eq_none_iff] at undeclared
    refine List.nodup_append'.mpr ⟨kept, List.nodup_singleton "", ?_⟩
    rw [List.map_singleton, List.disjoint_singleton]
    intro h
    obtain ⟨b, hb, empty⟩ := List.mem_map.mp h
    exact undeclared.2 b (List.mem_of_mem_filter hb) empty
  · rwa [List.map_nil, List.append_nil]

end Element

namespace Bindings

theorem mem_of_get? {b : Bindings} {p uri : String} (h : b.get? p = some uri) :
    (p, uri) ∈ b.entries := by
  obtain ⟨key, entry, same⟩ := Table.exists_mem_of_get? h
  obtain rfl : key = p := same
  exact entry

variable {scope outer : Bindings} {e : Element}

/-- A binding of an element is in scope on it: if it is not declared there, it is in scope on the
element around. -/
theorem get?_declareAll_declarations {p uri : String} (notXml : p ≠ "xml")
    (declarable : ¬(p = "" ∧ uri = "")) (h : e.bindings.get? p = some uri)
    (inherited : outer.get? p = some uri → scope.get? p = some uri) :
    (scope.declareAll (e.declarations outer)).get? p = some uri := by
  by_cases same : outer.get? p = some uri
  · have absent : p ∉ (e.declarations outer).map (·.1) := by
      intro hp
      obtain ⟨⟨q, uri'⟩, declared, hq⟩ := List.mem_map.mp hp
      obtain rfl : q = p := hq
      obtain ⟨entry, -, other⟩ | ⟨empty, -, -, unbound⟩ := Element.mem_declarations_iff.mp declared
      · cases h.symm.trans (e.bindings.get?_of_mem entry)
        exact other same
      · rw [Table.contains_eq_isSome, ← empty, h] at unbound
        cases unbound
    rw [get?_declareAll_of_not_mem absent, inherited same]
  · have declared := Element.mem_declarations_iff.mpr (.inl ⟨mem_of_get? h, notXml, same⟩)
    rw [get?_declareAll_of_mem (e.nodup_declarations outer) declared, if_neg declarable]

/-- What is read for the declarations of an element agrees with its bindings, where what is around
it agrees with the bindings of the element around it. -/
theorem AgreesWith.declareAll (agrees : scope.AgreesWith outer)
    (default : e.bindings.get? "" ≠ some "") :
    (scope.declareAll (e.declarations outer)).AgreesWith e.bindings where
  named p uri nonempty notXml h :=
    get?_declareAll_declarations notXml (fun empty => nonempty empty.1) h
      (agrees.named p uri nonempty notXml)
  default := by
    cases h : e.bindings.get? "" with
    | some uri =>
      refine get?_declareAll_declarations (by decide) (fun empty => ?_) h (agrees.default.trans ·)
      exact default (h.trans (congrArg some empty.2))
    | none =>
      have unbound : e.bindings.contains "" = false := by
        rw [Table.contains_eq_isSome, h]
        rfl
      cases around : outer.contains "" with
      | true =>
        have declared : ("", "") ∈ e.declarations outer :=
          Element.mem_declarations_iff.mpr (.inr ⟨rfl, rfl, around, unbound⟩)
        rw [get?_declareAll_of_mem (e.nodup_declarations outer) declared, if_pos ⟨rfl, rfl⟩]
      | false =>
        have absent : "" ∉ (e.declarations outer).map (·.1) := by
          intro hp
          obtain ⟨⟨q, uri⟩, declared, hq⟩ := List.mem_map.mp hp
          obtain rfl : q = "" := hq
          obtain ⟨entry, -⟩ | ⟨-, -, around', -⟩ := Element.mem_declarations_iff.mp declared
          · cases h.symm.trans (e.bindings.get?_of_mem entry)
          · cases around.symm.trans around'
        rw [Table.contains_eq_isSome, Option.isSome_eq_false_iff, Option.isNone_iff_eq_none]
          at around
        rw [get?_declareAll_of_not_mem absent, agrees.default, around]

end Bindings

/-! ### Reading the tag -/

/-- One step of `resolveAttributes`. -/
def resolveAttribute (bindings : Bindings) (element : String) (stop : Nat) (resolved : Attributes)
    (a : String × String) : Except XmlError Attributes := do
  if (declaration? a.1 a.2).isSome then return resolved
  let name ← QName.resolve bindings false a.1
  if resolved.contains name then
    throw (.malformed (.repeatedAttribute name.clark element) stop)
  return resolved.insert name a.2

section Attributes

variable {bindings : Bindings} {element : String} {stop : Nat}

theorem resolveAttributes_eq (attributes : List (String × String)) :
    resolveAttributes bindings element stop attributes
      = attributes.foldlM (resolveAttribute bindings element stop) .empty := rfl

/-- The declarations of an element are none of its attributes. -/
theorem foldlM_declarations (declared : List (String × String)) (table : Attributes) :
    (declared.map fun b => (declarationName b.1, b.2)).foldlM
      (resolveAttribute bindings element stop) table = .ok table := by
  induction declared with
  | nil => rfl
  | cons b declared ih =>
    have skipped : resolveAttribute bindings element stop table (declarationName b.1, b.2)
        = .ok table := by
      rw [resolveAttribute, declaration?_declarationName]
      rfl
    rw [List.map_cons, List.foldlM_cons, skipped]
    exact ih

theorem resolveAttribute_of_new {a : QName × String} {table : Attributes}
    (undeclared : declaration? a.1.lexical a.2 = none)
    (resolves : QName.resolve bindings false a.1.lexical = .ok a.1) (new : table.get? a.1 = none) :
    resolveAttribute bindings element stop table (a.1.lexical, a.2)
      = .ok (table.insert a.1 a.2) := by
  have absent : table.contains a.1 = false := by
    rw [Table.contains_eq_isSome, new]
    rfl
  simp [resolveAttribute, undeclared, resolves, absent, bind, Except.bind, pure, Except.pure]

/-- The attributes of an element are read behind those that are in the table already. -/
theorem foldlM_attributes {entries : List (QName × String)}
    (resolves : ∀ a ∈ entries, declaration? a.1.lexical a.2 = none
      ∧ QName.resolve bindings false a.1.lexical = .ok a.1)
    (table : Attributes) (unique : (Keyed.identities (table.entries ++ entries)).Nodup) :
    ∃ table' : Attributes, table'.entries = table.entries ++ entries
      ∧ (entries.map fun a => (a.1.lexical, a.2)).foldlM
          (resolveAttribute bindings element stop) table = .ok table' := by
  induction entries generalizing table with
  | nil => exact ⟨table, (List.append_nil _).symm, rfl⟩
  | cons a entries ih =>
    obtain ⟨⟨undeclared, here⟩, behind⟩ := List.forall_mem_cons.mp resolves
    have new : table.get? a.1 = none := by
      rw [Table.get?_eq_none_iff]
      intro b hb same
      rw [Keyed.identities, List.map_append, List.nodup_append'] at unique
      exact unique.2.2 (List.mem_map.mpr ⟨b, hb, same⟩)
        (List.mem_map.mpr ⟨a, List.mem_cons_self, rfl⟩)
    have added := Table.entries_insert_of_get?_eq_none new a.2
    obtain ⟨table', hentries, hfold⟩ := ih behind (table.insert a.1 a.2) (by
      rw [added, List.append_assoc]
      exact unique)
    refine ⟨table', by rw [hentries, added, List.append_assoc]; rfl, ?_⟩
    rw [List.map_cons, List.foldlM_cons, resolveAttribute_of_new undeclared here new]
    exact hfold

end Attributes

namespace Element

variable {outer : Bindings} {e : Element}

theorem resolveAttributes_written {bindings : Bindings} (agrees : bindings.AgreesWith e.bindings)
    (writable : e.Writable) (element : String) (stop : Nat) :
    resolveAttributes bindings element stop (e.writtenAttributes outer) = .ok e.attributes := by
  have resolves : ∀ a ∈ e.attributes.entries, declaration? a.1.lexical a.2 = none
      ∧ QName.resolve bindings false a.1.lexical = .ok a.1 := fun a ha =>
    ⟨(writable.attributes a ha).2.1, QName.resolve_congr agrees (writable.attributes a ha).2.2⟩
  obtain ⟨table, entries, read⟩ :=
    @foldlM_attributes bindings element stop _ resolves .empty e.attributes.unique
  obtain rfl : table = e.attributes := Table.ext_entries entries
  rw [resolveAttributes_eq, writtenAttributes, List.foldlM_append, foldlM_declarations]
  exact read

theorem keys_writtenAttributes (outer : Bindings) (e : Element) :
    (e.writtenAttributes outer).map (·.1)
      = ((e.declarations outer).map (·.1)).map declarationName
        ++ e.attributes.entries.map (·.1.lexical) := by
  simp [writtenAttributes, Function.comp_def]

theorem isWrittenName_writtenAttributes (outer : Bindings) (writable : e.Writable) :
    ∀ a ∈ e.writtenAttributes outer, IsWrittenName a.1.toList := by
  intro a h
  rw [writtenAttributes, List.mem_append] at h
  obtain h | h := h
  · obtain ⟨⟨p, uri⟩, declared, rfl⟩ := List.mem_map.mp h
    obtain ⟨entry, -⟩ | ⟨empty, -⟩ := mem_declarations_iff.mp declared
    · exact writable.bindings _ entry
    · subst empty
      exact ⟨by simp [declarationName], by simp [declarationName]; decide⟩
  · obtain ⟨b, entry, rfl⟩ := List.mem_map.mp h
    exact (writable.attributes b entry).1

/-- No attribute is written twice: those that are written with the same name have the same name
indeed, and a declaration is none of them. -/
theorem nodup_writtenAttributes (outer : Bindings) (writable : e.Writable) :
    ((e.writtenAttributes outer).map (·.1)).Nodup := by
  rw [keys_writtenAttributes, List.nodup_append']
  refine ⟨(nodup_declarations outer e).map declarationName_injective, ?_, ?_⟩
  · rw [List.nodup_iff_pairwise_ne, List.pairwise_map]
    have unique : (e.attributes.entries.map fun a => Keyed.identity a.1).Nodup :=
      e.attributes.unique
    rw [List.nodup_iff_pairwise_ne, List.pairwise_map] at unique
    refine unique.imp_of_mem fun {a b} ha hb other same => other ?_
    have resolved := (writable.attributes a ha).2.2
    rw [same, (writable.attributes b hb).2.2, Except.ok.injEq] at resolved
    rw [resolved]
  · intro key hdeclared hattribute
    obtain ⟨p, -, rfl⟩ := List.mem_map.mp hdeclared
    obtain ⟨a, ha, same⟩ := List.mem_map.mp hattribute
    have undeclared := (writable.attributes a ha).2.1
    rw [same, declaration?_declarationName] at undeclared
    cases undeclared

end Element

namespace Reading

variable {r : Reading} {outer : Bindings} {e : Element}

/-- An element that is written where its bindings are known is read as an element with the same
name and attributes. -/
theorem elementOfTag_written (agrees : r.bindings.AgreesWith outer) (writable : e.Writable) :
    ∃ e' : Element,
      (∀ stop, r.elementOfTag (writeTag e.name.lexical.toList (e.writtenAttributes outer)) stop
        = .ok e')
      ∧ e'.name = e.name ∧ e'.attributes = e.attributes ∧ e'.bindings.AgreesWith e.bindings := by
  have within : Bindings.within r.bindings (e.writtenAttributes outer)
      = r.bindings.declareAll (e.declarations outer) := by
    refine Bindings.within_written _ _ fun a ha => ?_
    obtain ⟨b, entry, rfl⟩ := List.mem_map.mp ha
    exact (writable.attributes b entry).2.1
  have inside := agrees.declareAll writable.default
  have name := QName.resolve_congr inside writable.resolves
  have attributes := @Element.resolveAttributes_written outer e _ inside writable
    e.name.lexical
  let base := (e.attributes.get? (.xml "base")).elim r.currentBase fun reference =>
    some (Uri.resolve r.currentBase reference)
  refine ⟨⟨e.name, e.attributes, r.bindings.declareAll (e.declarations outer), base⟩,
    fun stop => ?_, rfl, rfl, inside⟩
  rw [elementOfTag, attributesOfTag_writeTag writable.name
    (Element.isWrittenName_writtenAttributes outer writable)
    (Element.nodup_writtenAttributes outer writable), tagName_writeTag writable.name,
    String.ofList_toList]
  cases based : e.attributes.get? (.xml "base") <;>
    simp only [bind, Except.bind, pure, Except.pure, within, name, attributes, based, base,
      Option.elim_none, Option.elim_some]

end Reading

end Transclusion
