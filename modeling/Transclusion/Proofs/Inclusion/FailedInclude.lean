import Transclusion.Proofs.Inclusion.Twins
/-!
# Failed includes

An include that does not obtain what it refers to is replaced by its fallback
(`Includer.FallsBack`).  No attempt at all is made if its `parse` attribute names a media type that
is not supported.  A failed attempt leaves no traces: the include is replaced by what would replace
it with such a `parse` attribute, and the stack is the same.

There is one exception.  The text of an include is trimmed after the fallback has taken its place,
so that of a fallback for text nothing but the text is left.

* `Includer.replacement_of_fallsBack`: what replaces an include that falls back.
* `Includer.failed_eq_forced`: when a failed attempt comes to the same as none.
-/

namespace Transclusion

/-! ### Another parse type -/

/-- The element with another `parse` attribute. -/
def Element.withParse (parse : String) (e : Element) : Element :=
  e.setAttribute (.plain "parse") parse

namespace IncludeAttributes

theorem plainAttribute?_withParse (e : Element) (parse name : String) :
    (e.withParse parse).plainAttribute? name
      = if "parse" = name then some parse else e.plainAttribute? name := by
  have same : (QName.plain "parse").expanded = (QName.plain name).expanded ↔ "parse" = name := by
    simp [QName.expanded, QName.plain]
  show (e.setAttribute (.plain "parse") parse).attribute? (.plain name) = _
  simp only [Element.attribute?_setAttribute, same]
  rfl

theorem printable_withParse (e : Element) (parse : String) {name : String}
    (other : "parse" ≠ name) : printable (e.withParse parse) name = printable e name := by
  rw [printable, printable, plainAttribute?_withParse, if_neg other]

/-- All else that the include says stays. -/
theorem ofElement_withParse (e : Element) (parse : String) :
    ofElement (e.withParse parse) = (ofElement e).map fun a => { a with parse } := by
  unfold ofElement
  rw [printable_withParse e parse (by decide), printable_withParse e parse (by decide)]
  simp only [plainAttribute?_withParse, String.reduceEq, if_true, if_false, Option.getD_some]
  cases printable e "accept" with
  | error err => rfl
  | ok accept => cases printable e "accept-language" <;> rfl

end IncludeAttributes

/-- Documents that differ in the `parse` attribute of one element are twins. -/
theorem Document.twins_withParse (d : Document) (id : Nat) (parse : String) :
    Twins id d (d.changeAt id (.withParse parse)) := by
  refine (d.recast_changeAt id (.withParse parse)).twins ?_ ?_
  · rintro - i e _ rfl
    split
    · refine ⟨rfl, rfl, ?_⟩
      rw [Element.lang?, Element.withParse, Element.attribute?_setAttribute, if_neg (by decide)]
      rfl
    · exact ⟨rfl, rfl, rfl⟩
  · rintro p i e _ low before rfl
    rw [if_neg (by omega)]

namespace Includer

open Expanding

variable (includer : Includer) {handle : Document → ControlHandler Expanding}

/-! ### Falling back -/

/-- An include does not obtain what it refers to: its parse type is not supported, or its resolution
fails. -/
def FallsBack (handle : Document → ControlHandler Expanding) (site : IncludeSite) (s : UriStack) :
    Prop :=
  site.attributes.parseType = .unsupported
    ∨ ∃ err t, includer.resolve handle site site.attributes.parseType s = .ok (.error err, t)

/-- What is left of the content that replaces an include of text. -/
def finished (a : IncludeAttributes) (content : Document) : Document :=
  if a.parseType = .text && includer.options.trimText then trimmed content else content

variable {includer}

/-- An include that falls back is replaced by its fallback, expanded from the stack before, though
not without what is done to text. -/
theorem replacement_of_fallsBack (balanced : ∀ d x, ((handle d).answer x).Balanced)
    {site : IncludeSite} {s : UriStack} (falls : includer.FallsBack handle site s) (c : Nat) :
    includer.replacement handle site (some c) s
      = (includer.fallback handle site c >>= fun r =>
          pure (includer.finished site.attributes r)) s := by
  unfold replacement finished
  dsimp only
  by_cases unsupported : site.attributes.parseType = .unsupported
  · simp [unsupported]
  · obtain ⟨err, t, failed⟩ := falls.resolve_left unsupported
    have attempted := orElse_of_error (f := includer.fallback handle site c)
      (includer.balanced_resolve balanced site _) failed
    rw [if_neg unsupported, bind_apply, get_apply]
    dsimp only
    rw [bind_apply, attempted, bind_apply]

theorem replacement_of_unsupported {site : IncludeSite}
    (unsupported : site.attributes.parseType = .unsupported) (c : Nat) :
    includer.replacement handle site (some c) = includer.fallback handle site c := by
  rw [replacement]
  exact if_pos unsupported

/-- The outcome of a fallback: its content with the includes in it replaced, fixed up. -/
theorem fallback_eq_ok_iff (balanced : ∀ d x, ((handle d).answer x).Balanced) {site : IncludeSite}
    {c : Nat} {s t : UriStack} {r : Document} :
    includer.fallback handle site c s = .ok (.ok r, t) ↔
      t = s ∧ ∃ answers, List.Forall₂
          (fun x answer => (handle site.document).answer x s = .ok (.ok answer, s))
          ((fallbackContent site c).encounters includer.controls (c + 1)) answers
        ∧ r = includer.fixed site ⟨site.document.nodes.base? c,
            (fallbackContent site c).fill includer.controls answers⟩ := by
  rw [fallback_eq, bind_apply_eq_ok_iff]
  constructor
  · rintro ⟨answers, s', answered, last⟩
    obtain ⟨rfl, each⟩ := (mapM_eq_ok_iff fun x _ => balanced site.document x).mp answered
    obtain ⟨rfl, rfl⟩ := pure_apply_eq_ok_iff.mp last
    exact ⟨rfl, answers, each, rfl⟩
  · rintro ⟨rfl, answers, each, rfl⟩
    exact ⟨answers, t, (mapM_eq_ok_iff fun x _ => balanced site.document x).mpr ⟨rfl, each⟩, rfl⟩

/-- An include is replaced by its fallback if its `parse` attribute is exchanged for one that names
an unsupported media type. -/
theorem include_withParse (byTarget : includer.resolver.ByTarget) {depth : Nat} {d : Document}
    {id c : Nat} {e : Element} {a : IncludeAttributes} {parse : String}
    (attributes : IncludeAttributes.ofElement e = .ok a)
    (child : includer.fallbackChild? d.nodes id = .ok (some c))
    (unsupported : ParseType.ofMediaType parse = .unsupported)
    (takes : includer.TakesSame (· ∈ d.nodes.descendants c) d (d.changeAt id (.withParse parse))) :
    includer.include_ (includer.handle depth) (d.changeAt id (.withParse parse)) id
        (e.withParse parse)
      = includer.fallback (includer.handle depth) ⟨d, id, e, a⟩ c := by
  have twins := d.twins_withParse id parse
  have same : includer.fallback (includer.handle depth)
        ⟨d.changeAt id (.withParse parse), id, e.withParse parse, { a with parse }⟩ c
      = includer.fallback (includer.handle depth) ⟨d, id, e, a⟩ c :=
    fallback_eq_of_twins byTarget twins child takes depth (e.copied_setPlain "parse" parse) rfl
  have attributes' : IncludeAttributes.ofElement (e.withParse parse) = .ok { a with parse } := by
    rw [IncludeAttributes.ofElement_withParse, attributes]
    rfl
  have child' :
      includer.fallbackChild? (d.changeAt id (.withParse parse)).nodes id = .ok (some c) :=
    (twins.fallbackChild?_eq includer id).trans child
  rw [← same, includer.include_eq_replacement attributes' child', replacement_of_unsupported]
  exact unsupported

/-! ### A fallback for text -/

namespace MissingText

def bindings : Bindings := .ofList [("xi", xincludeNamespace)]

/-- An include of a resource that is not there. -/
def includeAs (parse : String) : Element :=
  ⟨.prefixed "xi" xincludeNamespace "include",
    .ofList [(.plain "href", "http://h/missing"), (.plain "parse", parse)], bindings, none⟩

/-- An element with the text `x`, and a comment. -/
def content : Forest :=
  .element ⟨.inNamespace none "p", .empty, bindings, none⟩ (.leaf (.text "x") .nil)
    (.leaf (.comment "c") .nil)

/-- A page with an include whose fallback has that content. -/
def page (parse : String) : Document :=
  ⟨none, .element ⟨.inNamespace none "doc", .empty, bindings, none⟩
    (.element (includeAs parse)
      (.element ⟨.prefixed "xi" xincludeNamespace "fallback", .empty, bindings, none⟩ content .nil)
      .nil) .nil⟩

/-- The page with an include of text in writing. -/
def writtenPage : String :=
  "<doc xmlns:xi='http://www.w3.org/2001/XInclude'>"
    ++ "<xi:include href='http://h/missing' parse='text'>"
    ++ "<xi:fallback><p>x</p><!--c--></xi:fallback></xi:include></doc>"

/-- Trims text and fixes up nothing. -/
def reader : Includer := ⟨⟨false, false, false, true⟩, .standard, .standard, .memory .empty⟩

def attributesAs (parse : String) : IncludeAttributes :=
  ⟨"http://h/missing", none, none, none, "UTF-8", none, none, parse⟩

/-- The page with this content in the place of the include. -/
def result (content : Forest) : Document := ⟨none, content⟩

/-- No include of the page refers to the page itself. -/
theorem takesSame_page (parse : String) (d' : Document) :
    reader.TakesSame (· ∈ (page parse).nodes.descendants 3) (page parse) d' := by
  intro i e e' a inner isInclude _ _ _
  have inside : (page parse).nodes.descendants 3 = [4, 5, 6] := rfl
  obtain ⟨element, control⟩ := isInclude
  obtain rfl | rfl | rfl : i = 4 ∨ i = 5 ∨ i = 6 := by simpa [inside] using inner
  · cases element
    exact absurd control (by decide)
  · cases element
  · cases element

/-- The attempt to include the missing resource fails, as markup and as text. -/
theorem fallsBack_page :
    reader.FallsBack (reader.handle 1) ⟨page "xml", 2, includeAs "xml", attributesAs "xml"⟩ .empty
      ∧ reader.FallsBack (reader.handle 1)
          ⟨page "text", 2, includeAs "text", attributesAs "text"⟩ .empty := by
  constructor
  · exact .inr ⟨.unreadable "http://h/missing" .notFound, ⟨["http://h/missing"]⟩, by decide +kernel⟩
  · exact .inr ⟨.unreadable "http://h/missing" .notFound, .empty, by decide +kernel⟩

end MissingText

/-! ### Main result -/

open MissingText in
/-- Of a fallback for trimmed text only the text is left, while all of it takes the place of an
include of an unsupported type. -/
theorem fallback_trimmed_to_text :
    Document.read none writtenPage = .ok (page "text")
      ∧ reader.FallsBack (reader.handle 1)
          ⟨page "text", 2, includeAs "text", attributesAs "text"⟩ .empty
      ∧ page "application/json" = (page "text").changeAt 2 (.withParse "application/json")
      ∧ ParseType.ofMediaType "application/json" = .unsupported
      ∧ reader.include_ (reader.handle 1) (page "text") 2 (includeAs "text") .empty
          = .ok (.ok (result (.leaf (.text "x") .nil)), .empty)
      ∧ reader.include_ (reader.handle 1) (page "application/json") 2
          (includeAs "application/json") .empty = .ok (.ok (result content), .empty) :=
  ⟨eq_ok_of_toOption (by decide +kernel), fallsBack_page.2, by decide +kernel, by decide +kernel,
    Expanding.eq_of_success? (by decide +kernel), Expanding.eq_of_success? (by decide +kernel)⟩

/-- **A failed include is replaced by its fallback**, the includes in it being replaced in turn, and
the stack is left as it was. This has the same outcome as if the include had a `parse` attribute
that names an unsupported media type, so that there is no attempt, if the includes in the fallback
that refer to their own document take the same from it then; but if the include is one of text that
is trimmed, then only for a fallback that is nothing but trimmed text. -/
theorem failed_eq_forced {includer : Includer} (byTarget : includer.resolver.ByTarget) {depth : Nat}
    {d : Document} {id c : Nat} {e : Element} {a : IncludeAttributes} {s : UriStack}
    {parse : String} (attributes : IncludeAttributes.ofElement e = .ok a)
    (child : includer.fallbackChild? d.nodes id = .ok (some c))
    (falls : includer.FallsBack (includer.handle depth) ⟨d, id, e, a⟩ s)
    (unsupported : ParseType.ofMediaType parse = .unsupported)
    (takes : includer.TakesSame (· ∈ d.nodes.descendants c) d (d.changeAt id (.withParse parse))) :
    let forced := includer.include_ (includer.handle depth) (d.changeAt id (.withParse parse)) id
      (e.withParse parse) s
    (∀ r t, forced = .ok (.ok r, t) → t = s ∧ ∃ answers,
      List.Forall₂ (fun x answer => (includer.handle depth d).answer x s = .ok (.ok answer, s))
          ((fallbackContent ⟨d, id, e, a⟩ c).encounters includer.controls (c + 1)) answers
        ∧ r = includer.fixed ⟨d, id, e, a⟩ ⟨d.nodes.base? c,
            (fallbackContent ⟨d, id, e, a⟩ c).fill includer.controls answers⟩)
    ∧ (includer.include_ (includer.handle depth) d id e s = forced ↔
        (a.parseType = .text → includer.options.trimText = true →
          ∀ r t, forced = .ok (.ok r, t) → trimmed r = r)) := by
  intro forced
  have balanced := includer.balanced_handle depth
  have same : forced = includer.fallback (includer.handle depth) ⟨d, id, e, a⟩ c s :=
    congrFun (include_withParse byTarget attributes child unsupported takes) s
  refine ⟨fun r t outcome => ?_, ?_⟩
  · exact (fallback_eq_ok_iff balanced).mp (same.symm.trans outcome)
  rw [includer.include_eq_replacement attributes child, replacement_of_fallsBack balanced falls]
  -- After an attempt at text the fallback is trimmed too; a forced one is left as it is.
  by_cases trims : a.parseType = .text ∧ includer.options.trimText = true
  · have strips : ∀ r, includer.finished a r = trimmed r := fun r => by simp [finished, trims]
    simp only [trims, strips, true_implies]
    rw [bind_apply, ← same]
    rcases forced with halt | ⟨err | r, t⟩
    · exact ⟨fun _ => nofun, fun _ => rfl⟩
    · exact ⟨fun _ => nofun, fun _ => rfl⟩
    · constructor
      · rintro trimmed _ _ ⟨⟩
        exact (pure_apply_eq_ok_iff.mp trimmed).1
      · intro trimmed
        exact pure_apply_eq_ok_iff.mpr ⟨trimmed r t rfl, rfl⟩
  · have keeps : ∀ r, includer.finished a r = r := by
      intro r
      rw [finished, if_neg (by simpa using trims)]
    simp only [keeps, bind_pure]
    exact ⟨fun _ text trim => absurd ⟨text, trim⟩ trims, fun _ => same.symm⟩

open MissingText in
theorem failed_eq_forced_page :
    reader.FallsBack (reader.handle 1) ⟨page "xml", 2, includeAs "xml", attributesAs "xml"⟩ .empty
      ∧ reader.include_ (reader.handle 1) (page "xml") 2 (includeAs "xml") .empty
        = reader.include_ (reader.handle 1) ((page "xml").changeAt 2 (.withParse "image/png")) 2
          ((includeAs "xml").withParse "image/png") .empty := by
  have byTarget : reader.resolver.ByTarget := Resolver.byTarget_memory .empty
  have attributes : IncludeAttributes.ofElement (includeAs "xml") = .ok (attributesAs "xml") := rfl
  have child : reader.fallbackChild? (page "xml").nodes 2 = .ok (some 3) := rfl
  have unsupported : ParseType.ofMediaType "image/png" = .unsupported := by decide +kernel
  have outcome := failed_eq_forced byTarget attributes child fallsBack_page.1 unsupported
    (takesSame_page "xml" _)
  exact ⟨fallsBack_page.1, outcome.2.mpr fun text => absurd text (by decide +kernel)⟩

end Includer

end Transclusion
