import Transclusion.Proofs.Markup.Languages
/-!
# Languages that are carried along

An element that is moved and fixed up keeps its language, or if it has none it may be marked as
having none (`Carried`).  This holds of all elements of content whose top has been fixed up, even
where there is a language around (`FixupContext.carried_document`).
-/

namespace Transclusion

/-- The second of two elements with their languages has come from the first one: its language is the
same, or it is marked as having none. -/
structure Carried (a b : Element × Option String) : Prop where
  name : b.1.name = a.1.name
  base : b.1.base = a.1.base
  language : b.2 = a.2 ∨ a.2 = none ∧ b.2 = some ""

theorem Carried.refl (a : Element × Option String) : Carried a a := ⟨rfl, rfl, .inl rfl⟩

theorem forall₂_carried_refl (as : List (Element × Option String)) : List.Forall₂ Carried as as :=
  List.forall₂_same.mpr fun a _ => .refl a

/-- What has no language in its surroundings may be marked. -/
theorem Forest.carried_marked (f : Forest) :
    List.Forall₂ Carried (f.languages none) (f.languages (some "")) := by
  induction f with
  | nil => exact .nil
  | leaf l rest ih => exact ih
  | element e content rest ihc ihr =>
    rw [languages, languages, Element.langIn, Element.langIn]
    cases h : e.lang? with
    | some l => exact .cons (.refl _) (List.rel_append (forall₂_carried_refl _) ihr)
    | none => exact .cons ⟨rfl, rfl, .inr ⟨rfl, rfl⟩⟩ (List.rel_append ihc ihr)

namespace FixupContext

variable (context : FixupContext)

/-- An element with its content, the element having been replaced by one that gives itself the
language that it had, or none if that was none and there is a language around. -/
theorem carried_element {e e' : Element} (name : e'.name = e.name) (base : e'.base = e.base)
    {language : Option String}
    (own : e'.lang? = language.or (context.lang.map fun _ => "")) (content : Forest)
    {around : Option String} (outside : around = none ∨ around = context.lang) :
    List.Forall₂ Carried ((e, language) :: content.languages language)
      ((e', e'.langIn around) :: content.languages (e'.langIn around)) := by
  rw [Element.langIn, own]
  cases language with
  | some l => exact .cons ⟨name, base, .inl rfl⟩ (forall₂_carried_refl _)
  | none =>
    cases h : context.lang with
    | none =>
      have nothing : around = none := by
        obtain none_ | same := outside
        · exact none_
        · rw [same, h]
      subst nothing
      exact .cons ⟨name, base, .inl rfl⟩ (forall₂_carried_refl _)
    | some l => exact .cons ⟨name, base, .inr ⟨rfl, rfl⟩⟩ content.carried_marked

variable (on : context.options.fixupXmlLang = true) (inclusion : Element) (setId : Option String)

include on

/-- The languages in content that has been fixed up, in the place that it is moved to. -/
theorem carried_document (d : Document) {around : Option String}
    (outside : around = none ∨ around = context.lang) :
    List.Forall₂ Carried (d.content.languages none)
      ((context.document inclusion setId d).content.languages around) := by
  show List.Forall₂ Carried _ ((d.content.mapTop _).languages around)
  induction d.content with
  | nil => exact .nil
  | leaf l rest ih => exact ih
  | element e content rest _ ih =>
    have own := context.lang?_topElement on inclusion setId e
    have plain : e.langIn none = e.lang? := by
      rw [Element.langIn]
      cases e.lang? <;> rfl
    rw [Forest.mapTop, Forest.languages, Forest.languages, plain]
    refine List.rel_append ?_ ih
    exact context.carried_element (context.name_topElement inclusion setId e)
      (context.base_topElement inclusion setId e) own content outside

/-- Content that has been fixed up for a place with a language gives itself one. -/
theorem isSome_lang?_of_mem_tops (d : Document) (placed : context.lang.isSome) :
    ∀ e ∈ (context.document inclusion setId d).content.tops, e.lang?.isSome := by
  intro e he
  replace he : e ∈ (d.content.mapTop (context.topElement inclusion setId)).tops := he
  rw [Forest.tops_mapTop] at he
  obtain ⟨e', -, rfl⟩ := List.mem_map.mp he
  rw [context.lang?_topElement on]
  obtain ⟨l, hl⟩ := Option.isSome_iff_exists.mp placed
  rw [hl]
  cases e'.lang? <;> rfl

end FixupContext

end Transclusion
