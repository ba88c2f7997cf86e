import Mathlib.Data.List.Perm.Subperm
import Transclusion.Proofs.Fixup.Attributes
import Transclusion.Proofs.Markup.RoundTrip
/-!
# Fix-up keeps names bound

However an element is fixed up, all its names stand for their namespaces by its own bindings
(`Element.IsBound`): an attribute in a namespace is given a prefix that is bound to it, one that was
free before if need be, and no prefix is bound to something else.

* `Element.freshPrefix_eq`: there is always a generated prefix that is free, and the first is taken.
* `Element.IsBound.setAttribute`: setting an attribute keeps all names bound.
* `FixupContext.isBound_topElement`: so does what is done at the top of included content.
-/

namespace Transclusion

open Text

/-! ### Generated prefixes -/

namespace Element

theorem toList_generatedPrefix (n : Nat) :
    (generatedPrefix n).toList = 'n' :: 's' :: Nat.toDigits 10 n := by
  show ("ns" ++ n.repr).toList = _
  rw [String.toList_append, Nat.toList_repr]
  rfl

theorem generatedPrefix_injective : Function.Injective generatedPrefix := by
  intro m n same
  have digits : Nat.toDigits 10 m = Nat.toDigits 10 n := by
    have lists := congrArg String.toList same
    rw [toList_generatedPrefix, toList_generatedPrefix] at lists
    exact List.tail_eq_of_cons_eq (List.tail_eq_of_cons_eq lists)
  rw [← @Nat.ofDigitChars_toDigits 10 m (by decide) (by decide), digits,
    Nat.ofDigitChars_toDigits (by decide) (by decide)]

theorem isBare_of_isDigit {c : Char} (h : c.isDigit = true) : isBare c = true ∧ c ≠ ':' := by
  have others : [' ', '\t', '\r', '\n', '<', '>', '/', '=', '!', '?', '&', '\x22', '\x27',
      ':'].all (!Char.isDigit ·) = true := by decide
  have other := mt (List.all_eq_true.mp others c) (by simp [h])
  simp only [List.mem_cons, List.not_mem_nil, or_false, not_or] at other
  simp [isBare, isMarkupSpace, other]

theorem isNamePart_generatedPrefix (n : Nat) : IsNamePart (generatedPrefix n) := by
  have digit : ∀ c ∈ Nat.toDigits 10 n, isBare c = true ∧ c ≠ ':' := fun c hc =>
    isBare_of_isDigit (Nat.isDigit_of_mem_toDigits (by decide) (by decide) hc)
  refine ⟨⟨?_, ?_⟩, ?_⟩
  · rw [toList_generatedPrefix]
    exact List.cons_ne_nil _ _
  · rw [toList_generatedPrefix]
    simp only [List.forall_mem_cons]
    exact ⟨by decide, by decide, fun c hc => (digit c hc).1⟩
  · rw [toList_generatedPrefix]
    simp only [List.mem_cons, not_or]
    exact ⟨by decide, by decide, fun hc => (digit ':' hc).2 rfl⟩

/-- One of the prefixes that can be generated is free: there are more of them than bindings. -/
theorem exists_generatedPrefix_free (bindings : Bindings) :
    ∃ n ∈ List.range (bindings.size + 1), bindings.get? (generatedPrefix n) = none := by
  by_contra none_
  simp only [not_exists, not_and] at none_
  have nodup : ((List.range (bindings.size + 1)).map generatedPrefix).Nodup :=
    List.nodup_range.map generatedPrefix_injective
  have taken : (List.range (bindings.size + 1)).map generatedPrefix
      ⊆ bindings.entries.map (·.1) := by
    intro p hp
    obtain ⟨n, hn, rfl⟩ := List.mem_map.mp hp
    obtain ⟨uri, found⟩ := Option.ne_none_iff_exists'.mp (none_ n hn)
    exact List.mem_map.mpr ⟨_, Bindings.mem_of_get? found, rfl⟩
  have le := (List.subperm_of_subset nodup taken).length_le
  rw [List.length_map, List.length_range, List.length_map] at le
  exact absurd le (Nat.not_succ_le_self _)

/-- The prefix that is generated is the first that is free. -/
theorem freshPrefix_eq (bindings : Bindings) :
    ∃ n, freshPrefix bindings = generatedPrefix n ∧ bindings.get? (generatedPrefix n) = none
      ∧ ∀ m < n, bindings.get? (generatedPrefix m) ≠ none := by
  have bound : ∀ n, bindings.contains (generatedPrefix n) = true
      ↔ bindings.get? (generatedPrefix n) ≠ none := fun n => by
    rw [Table.contains_eq_isSome, Option.isSome_iff_ne_none]
  obtain ⟨n, hn, free⟩ := exists_generatedPrefix_free bindings
  have unbound : (!bindings.contains (generatedPrefix n)) = true := by
    rw [Table.contains_eq_isSome, free]
    rfl
  obtain ⟨m, found⟩ := Option.isSome_iff_exists.mp
    (List.find?_isSome.mpr ⟨n, hn, unbound⟩ :
      ((List.range (bindings.size + 1)).find?
        fun n => !bindings.contains (generatedPrefix n)).isSome)
  refine ⟨m, by rw [freshPrefix, found, Option.getD_some], ?_⟩
  obtain ⟨unbound, -, before⟩ := List.find?_range_eq_some.mp found
  constructor
  · by_contra taken
    rw [(bound m).mpr taken] at unbound
    cases unbound
  · intro k hk
    exact (bound k).mp (by simpa using before k hk)

theorem generatedPrefix_ne (n : Nat) : generatedPrefix n ≠ "xml" ∧ generatedPrefix n ≠ "xmlns" := by
  constructor
  all_goals
    intro same
    have head := congrArg (fun s => s.toList.head?) same
    simp only [toList_generatedPrefix, List.head?_cons] at head
    exact absurd head (by decide)

/-- A prefix that is declared is free, and is the preferred one or one that is generated. -/
theorem prefixToDeclare_cases (bindings : Bindings) (preferred : Option String) :
    bindings.get? (prefixToDeclare bindings preferred) = none
      ∧ ((∃ p, preferred = some p ∧ prefixToDeclare bindings preferred = p ∧ p ≠ "" ∧ p ≠ "xml")
        ∨ ∃ n, prefixToDeclare bindings preferred = generatedPrefix n) := by
  obtain ⟨n, fresh, free, -⟩ := freshPrefix_eq bindings
  unfold prefixToDeclare
  split
  · next p =>
    split
    · next usable =>
      rw [Bool.and_eq_true, Bool.and_eq_true, decide_eq_true_iff, decide_eq_true_iff,
        Bool.not_eq_true', Table.contains_eq_isSome, Option.isSome_eq_false_iff,
        Option.isNone_iff_eq_none] at usable
      exact ⟨usable.2, .inl ⟨p, rfl, rfl, usable.1⟩⟩
    · exact ⟨fresh ▸ free, .inr ⟨n, fresh⟩⟩
  · exact ⟨fresh ▸ free, .inr ⟨n, fresh⟩⟩

/-- A prefix that is declared may be declared. -/
theorem prefixToDeclare_spec (bindings : Bindings) {preferred : Option String}
    (h : ∀ p ∈ preferred, IsNamePart p ∧ p ≠ "xmlns") :
    IsNamePart (prefixToDeclare bindings preferred)
      ∧ prefixToDeclare bindings preferred ≠ "xml"
      ∧ prefixToDeclare bindings preferred ≠ "xmlns" := by
  obtain ⟨-, ⟨p, rfl, same, -, notXml⟩ | ⟨n, same⟩⟩ := prefixToDeclare_cases bindings preferred
  · rw [same]
    exact ⟨(h p rfl).1, notXml, (h p rfl).2⟩
  · rw [same]
    exact ⟨isNamePart_generatedPrefix n, generatedPrefix_ne n⟩

end Element

/-! ### Names that attributes are given -/

theorem nonEmpty?_ne (s : String) : nonEmpty? s ≠ some "" := by
  unfold nonEmpty?
  split
  · exact Option.some_ne_none _ ∘ Eq.symm
  · next other => exact fun same => other (Option.some.inj same)

/-- A name of parts, in a namespace that is not empty or in none. -/
structure QName.IsBindable (name : QName) : Prop where
  localPart : IsNamePart name.localName
  prefixPart : ∀ p ∈ name.nsPrefix, IsNamePart p ∧ p ≠ "xmlns"
  nsUri : name.nsUri ≠ some ""

namespace QName

theorem isBindable_plain {l : String} (h : IsNamePart l) : (plain l).IsBindable := ⟨h, nofun, nofun⟩

theorem isBindable_xml {l : String} (h : IsNamePart l) : (xml l).IsBindable := by
  have nonempty : some xmlNamespace ≠ some "" := by decide
  refine ⟨h, ?_, nonempty⟩
  rintro _ ⟨⟩
  decide

namespace IsBound

variable {bindings : Bindings} {useDefault : Bool} {name : QName}

theorem isBindable (h : name.IsBound bindings false) : name.IsBindable := by
  refine ⟨h.localPart, h.prefixPart, ?_⟩
  cases hp : name.nsPrefix with
  | none =>
    rw [h.unprefixed hp]
    nofun
  | some p =>
    by_cases isXml : p = "xml"
    · rw [h.xml (isXml ▸ hp)]
      decide
    · obtain ⟨uri, -, same⟩ := h.prefixed p hp isXml
      rw [same]
      exact nonEmpty?_ne uri

/-- A prefix that was free can be declared without any name losing its namespace. -/
theorem insert (h : name.IsBound bindings useDefault) {p : String} (nonempty : p ≠ "")
    (free : bindings.get? p = none) (uri : String) :
    name.IsBound (bindings.insert p uri) useDefault := by
  have others : ∀ q, q ≠ p → (bindings.insert p uri).get? q = bindings.get? q := fun q other => by
    rw [Table.get?_insert]
    exact if_neg (Ne.symm other)
  refine ⟨h.localPart, h.prefixPart, fun unprefixed => ?_, h.xml, fun q hq other => ?_⟩
  · rw [others "" (Ne.symm nonempty)]
    exact h.unprefixed unprefixed
  · obtain ⟨uri', found, same⟩ := h.prefixed q hq other
    refine ⟨uri', ?_, same⟩
    rw [others q fun clash => by rw [clash, free] at found; cases found]
    exact found

end IsBound

end QName

namespace Element.IsBound

variable {e : Element}

/-- The name that an attribute is given is bound, and no name loses its namespace by that. -/
theorem bindNamespace (h : e.IsBound) {name : QName} (bindable : name.IsBindable) :
    (e.bindNamespace name).1.IsBound
      ∧ (e.bindNamespace name).2.IsBound (e.bindNamespace name).1.bindings false := by
  -- A prefix that is bound to the namespace, and is none of the two that have a meaning already.
  have bound : ∀ {b : Bindings} {p uri}, name.nsUri = some uri → IsNamePart p → p ≠ "xml" →
      p ≠ "xmlns" → b.get? p = some uri →
      QName.IsBound b false { name with nsPrefix := some p } := by
    intro b p uri inUri hp notXml notXmlns found
    have kept : name.nsUri = nonEmpty? uri := by
      rw [inUri]
      exact (if_neg fun empty => bindable.nsUri (inUri.trans (congrArg some empty))).symm
    rw [kept]
    exact .of_prefixed bindable.localPart ⟨hp, notXmlns⟩ notXml found
  obtain ⟨p, b, gives, bind⟩ := e.bindNamespace_eq name
  rw [bind]
  cases gives with
  | unprefixed inNone =>
    refine ⟨h, ?_⟩
    rw [inNone]
    exact .of_unprefixed bindable.localPart rfl
  | xml inXml =>
    refine ⟨h, ?_⟩
    rw [inXml]
    exact .of_xml bindable.localPart
  | preferred inUri _ preferred found =>
    refine ⟨h, ?_⟩
    obtain ⟨hp, notXmlns⟩ := bindable.prefixPart _ preferred
    refine bound inUri hp (fun isXml => ?_) notXmlns found
    rw [isXml, h.bindings.get?_eq_none (by decide)] at found
    cases found
  | bound inUri _ nonempty found =>
    obtain ⟨p', entry, same⟩ := Table.exists_mem_of_get? found
    obtain rfl := same
    obtain ⟨hp, notXml, notXmlns⟩ := (h.bindings.prefixes _ entry).resolve_left nonempty
    exact ⟨h, bound inUri hp notXml notXmlns found⟩
  | declared inUri _ _ =>
    -- The prefix that is declared is free, so no name of the element can be using it.
    obtain ⟨hp, notXml, notXmlns⟩ := prefixToDeclare_spec e.bindings bindable.prefixPart
    have free := (prefixToDeclare_cases e.bindings name.nsPrefix).1
    have nonempty := hp.ne_empty
    refine ⟨⟨h.name.insert nonempty free _,
      fun a ha => (h.attributes a ha).insert nonempty free _,
      h.bindings.insert ⟨hp, notXml, notXmlns⟩ _⟩, bound inUri hp notXml notXmlns ?_⟩
    rw [Table.get?_insert, if_pos rfl]

/-- An attribute can be set without any name losing its namespace. -/
theorem setAttribute (h : e.IsBound) {name : QName} (bindable : name.IsBindable) (value : String) :
    (e.setAttribute name value).IsBound := by
  obtain ⟨element, bound⟩ := h.bindNamespace bindable
  exact ⟨element.name, Table.forall_keys_insert element.attributes bound value, element.bindings⟩

theorem removeAttribute (h : e.IsBound) (name : QName) : (e.removeAttribute name).IsBound :=
  ⟨h.name, fun a ha => h.attributes a (List.mem_of_mem_filter ha), h.bindings⟩

/-- An attribute that is copied is given a name of parts. -/
theorem isBindable_copiedName? {name copied : QName} (h : name.IsBindable)
    (copies : copiedName? name = some copied) : copied.IsBindable := by
  unfold copiedName? at copies
  split at copies
  · cases copies
  · split at copies
    · cases copies
    split at copies
    · cases copies
      exact QName.isBindable_plain h.localPart
    · cases copies
      exact h

/-- An attribute of the XML namespace can be set. -/
theorem setXml (e : Element) (l : String) (known : l ∈ ["base", "lang", "id"]) (value : String)
    (h : e.IsBound) : (e.setAttribute (.xml l) value).IsBound := by
  have parts : ∀ l ∈ ["base", "lang", "id"], IsNamePart l := by decide
  exact h.setAttribute (QName.isBindable_xml (parts l known)) value

end Element.IsBound

namespace FixupContext

variable {e : Element} (h : e.IsBound) (context : FixupContext)

include h

theorem isBound_apply (lang : Option String) : (context.apply lang e).IsBound :=
  context.keeps_apply Element.IsBound.setXml lang h

theorem isBound_topElement {inclusion : Element} (source : inclusion.IsBound)
    (setId : Option String) : (context.topElement inclusion setId e).IsBound := by
  refine context.keeps_topElement Element.IsBound.setXml (fun e he => he.removeAttribute _) ?_ setId
    h
  intro _ a ha name copies e _ he
  exact he.setAttribute (Element.IsBound.isBindable_copiedName? (source.attributes a ha).isBindable
    copies) a.2

end FixupContext

end Transclusion
