import Transclusion.Markup.Element
import Transclusion.Proofs.Table
/-!
# How names are given prefixes

What `Element.bindNamespace` can do, said once: which prefix a name is given, and what becomes of
the bindings (`Bindings.Gives`).  Nothing else of the element is touched, and nothing else of the
name (`Element.bindNamespace_eq`).
-/

namespace Transclusion

/-- The prefix that a name is given, and the bindings after that. -/
inductive Bindings.Gives (b : Bindings) (name : QName) : Option String → Bindings → Prop
  | unprefixed (inNone : name.nsUri = none) : Gives b name none b
  | xml (inXml : name.nsUri = some xmlNamespace) : Gives b name (some "xml") b
  | preferred {p uri : String} (inUri : name.nsUri = some uri) (notXml : uri ≠ xmlNamespace)
      (preferred : name.nsPrefix = some p) (bound : b.get? p = some uri) : Gives b name (some p) b
  | bound {p uri : String} (inUri : name.nsUri = some uri) (notXml : uri ≠ xmlNamespace)
      (nonempty : p ≠ "") (bound : b.get? p = some uri) : Gives b name (some p) b
  | declared {uri : String} (inUri : name.nsUri = some uri) (notXml : uri ≠ xmlNamespace)
      (unbound : ∀ p, p ≠ "" → b.get? p ≠ some uri) :
      Gives b name (some (Element.prefixToDeclare b name.nsPrefix))
        (b.insert (Element.prefixToDeclare b name.nsPrefix) uri)

namespace Element

/-- A name is given a prefix by the bindings, and is the same name otherwise. -/
theorem bindNamespace_eq (e : Element) (name : QName) :
    ∃ p b, e.bindings.Gives name p b
      ∧ e.bindNamespace name = ({ e with bindings := b }, { name with nsPrefix := p }) := by
  unfold bindNamespace
  cases inUri : name.nsUri with
  | none => exact ⟨_, _, .unprefixed inUri, rfl⟩
  | some uri =>
    dsimp only
    split
    · next isXml => exact ⟨_, _, .xml (inUri.trans (congrArg some isXml)), rfl⟩
    · next notXml =>
      split
      · next here =>
        obtain ⟨p, preferred, bound⟩ := Option.bind_eq_some_iff.mp here
        refine ⟨_, _, .preferred inUri notXml preferred bound, ?_⟩
        rw [← preferred, ← inUri]
      · split
        · next p uri' found =>
          have usable := List.find?_some found
          rw [Bool.and_eq_true, decide_eq_true_iff, decide_eq_true_iff] at usable
          obtain ⟨nonempty, rfl⟩ := usable
          have bound := e.bindings.get?_of_mem (List.mem_of_find?_eq_some found)
          exact ⟨_, _, .bound inUri notXml nonempty bound, rfl⟩
        · next found =>
          refine ⟨_, _, .declared inUri notXml fun p nonempty bound => ?_, rfl⟩
          obtain ⟨p', entry, same⟩ := Table.exists_mem_of_get? bound
          obtain rfl : p' = p := same
          have unusable := List.find?_eq_none.mp found _ entry
          simp only [nonempty, ne_eq, not_false_eq_true, decide_true, Bool.and_self,
            not_true_eq_false] at unusable

/-- What is set is the name with its prefix, and the bindings are those that give it. -/
theorem setAttribute_eq (e : Element) (name : QName) (value : String) :
    ∃ p b, e.bindings.Gives name p b
      ∧ e.setAttribute name value
        = { e with
            bindings := b
            attributes := e.attributes.insert { name with nsPrefix := p } value } := by
  obtain ⟨p, b, gives, same⟩ := e.bindNamespace_eq name
  refine ⟨p, b, gives, ?_⟩
  rw [setAttribute, same]

end Element

end Transclusion
