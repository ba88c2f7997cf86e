import Transclusion.Proofs.Fragment.SelectedTexts
import Transclusion.Proofs.Inclusion.Expanded
import Transclusion.Proofs.Inclusion.FailedInclude
/-!
# Included texts are opaque

What is read as text holds no elements, so that fixing it up and looking for includes in it change
nothing, and what a fragment identifier selects from it is a text again.  An include of text is
thus resolved by a single request and, if there is a fragment identifier, by a selection from the
reply: neither the handler of control elements nor the stack of URIs under expansion is asked.

* `Includer.resolve_text`: what is left of the resolution of an include of text.
* `Includer.exists_passage`: what such an include takes from a text.
* `Includer.included_texts_are_opaque`: what replaces an include of a text held in memory.
-/

namespace Transclusion

open Text

@[simp] theorem Document.stringValue_ofText (base : Option String) (text : String) :
    (Document.ofText base text).stringValue = text := by
  simp [ofText, stringValue, Forest.stringValue_consText, Forest.stringValue]

namespace Includer

open Expanding

variable (includer : Includer) (handle : Document → ControlHandler Expanding)

/-! ### Texts on their way through an expansion -/

/-- There are no includes in a text. -/
theorem expandAll_ofText (base : Option String) (text : String) :
    includer.expandAll handle (.ofText base text) = pure (.ofText base text) := by
  have expanded := Document.expanded_ofText includer.controls base text
  rw [expandAll_eq, expanded.free.encounters, List.mapM_nil, pure_bind, expanded.fill]

/-- There are no elements to be fixed up in a text. -/
theorem fixed_ofText (site : IncludeSite) (base : Option String) (text : String) :
    includer.fixed site (.ofText base text) = .ofText base text := by
  have unchanged (change : Element → Element) :
      (Forest.consText text .nil).mapTop change = .consText text .nil := by
    rw [Forest.consText]
    · split <;> rfl
    · intro _ _ same
      cases same
  exact congrArg (Document.mk base) (unchanged _)

/-- The part of a text that an include asks for. -/
def passage (site : IncludeSite) (d : Document) : Except InclusionError Document :=
  match site.attributes.fragment .text with
  | none => .ok d
  | some fragment => includer.selected site .text fragment d none

/-! ### Resolution -/

section

variable {includer} (standard : includer.schemes = .standard) {site : IncludeSite}

include standard

/-- What is selected from a text is a text. -/
theorem ofText_of_selected {fragment : String} {base : Option String} {text : String}
    {d : Document} (h : includer.selected site .text fragment (.ofText base text) none = .ok d) :
    ∃ selected, d = .ofText base selected := by
  rw [selected, standard] at h
  obtain ⟨schemes, read, h⟩ := bind_eq_ok_iff.mp h
  obtain ⟨⟨selected, matched⟩, found, h⟩ := bind_eq_ok_iff.mp h
  cases h
  exact ofText_of_selectWith (FragmentId.isOfText_of_read (mapError_eq_ok_iff.mp read)) rfl found

/-- What ranges select from a text is in one piece there. -/
theorem infix_of_selected {fragment : String} (ranges : FragmentId.GivesRanges fragment)
    {base : Option String} {text : String} {d : Document}
    (h : includer.selected site .text fragment (.ofText base text) none = .ok d) :
    ∃ selected, d = .ofText base selected ∧ selected.toList <:+: text.toList := by
  rw [selected, standard] at h
  obtain ⟨schemes, read, h⟩ := bind_eq_ok_iff.mp h
  obtain ⟨⟨selected, matched⟩, found, h⟩ := bind_eq_ok_iff.mp h
  cases h
  exact infix_of_selectWith (ranges schemes (mapError_eq_ok_iff.mp read)) rfl found

/-- To narrow a text is to select from it. -/
theorem narrow_ofText (fragment : String) (base : Option String) (text : String) :
    includer.narrow handle site .text fragment (.ofText base text) none
      = liftM (includer.selected site .text fragment (.ofText base text) none) := by
  rw [narrow_eq_fixed]
  refine lift_bind_eq_self fun d h => ?_
  obtain ⟨selected, rfl⟩ := ofText_of_selected standard h
  rw [fixed_ofText, expandAll_ofText]

variable (plain : includer.resolver.PlainText)

include plain

omit standard in
/-- The text that is read is what the include goes on with. -/
theorem text_eq (site : IncludeSite) :
    includer.text handle site = ofReply (includer.resolver.readText (request site)) := by
  have kept : ∀ d, includer.resolver.readText (request site) = .ok (.ok d) →
      (if site.attributes.href = "" then pure d
        else includer.expandAll handle (includer.fixed site d)) = pure d := by
    intro d read
    obtain ⟨base, text, rfl⟩ := plain _ _ read
    rw [fixed_ofText, expandAll_ofText, ite_self]
  rw [text, ofReply_bind_congr kept, bind_pure]

/-- **An include of text is resolved by a request and a selection.** -/
theorem resolve_text (site : IncludeSite) :
    includer.resolve handle site .text
      = ofReply (includer.resolver.readText (request site))
          >>= fun d => liftM (includer.passage site d) := by
  rw [resolve, resource, if_pos rfl, text_eq handle plain]
  simp only [bind_assoc, pure_bind]
  refine ofReply_bind_congr fun d read => ?_
  obtain ⟨base, text, rfl⟩ := plain _ _ read
  unfold passage
  cases site.attributes.fragment .text with
  | none => rfl
  | some fragment => exact narrow_ofText handle standard fragment base text

end

/-- An include takes its replacement from what it refers to if this is found. -/
theorem replacement_of_resolved {includer : Includer} {handle : Document → ControlHandler Expanding}
    (site : IncludeSite) (ofText : site.attributes.parseType = .text) {d : Document}
    {s s' : UriStack} (resolved : includer.resolve handle site .text s = .ok (.ok d, s'))
    (fallback : Option Nat) :
    includer.replacement handle site fallback s
      = .ok (.ok (includer.finished site.attributes d), s') := by
  have supported : site.attributes.parseType ≠ .unsupported := by
    rw [ofText]
    exact nofun
  unfold replacement
  dsimp only
  rw [if_neg supported, bind_apply, get_apply]
  dsimp only
  rw [bind_apply, tryCatch_apply, ofText, resolved, finished, ofText]
  rfl

/-! ### What is taken from a text -/

/-- A text, or what is left of it if texts are trimmed. -/
def trimmedIf (options : Options) (text : String) : String :=
  if options.trimText then String.ofList (trimIndent text.toList) else text

theorem finished_ofText {includer : Includer} {a : IncludeAttributes} (h : a.parseType = .text)
    (base : Option String) (text : String) :
    includer.finished a (.ofText base text) = .ofText base (trimmedIf includer.options text) := by
  unfold finished trimmedIf
  rw [h]
  cases includer.options.trimText with
  | false => rfl
  | true =>
    show trimmed _ = _
    rw [trimmed, Document.stringValue_ofText]
    rfl

/-- A selection from a text may fail, but not with a loop. -/
theorem failsOnly_passage (site : IncludeSite) (d : Document) :
    FailsOnly (fun e => ∀ fault, e ≠ .loop fault) (includer.passage site d) := by
  unfold passage
  split
  · exact failsOnly_ok d
  · next fragment _ =>
    rw [selected]
    refine FailsOnly.bind ?_ fun schemes _ => FailsOnly.bind ?_ fun found _ => failsOnly_ok found.1
    · rintro _ failed fault rfl
      generalize FragmentId.read includer.schemes .text fragment = read at failed
      cases read <;> cases failed
    · rintro e failed fault rfl
      obtain ⟨cause, ⟨⟩⟩ := failsOnly_selectWith schemes _ fragment _ failed

/-- What an include of text takes from a text: all of it if there is no fragment identifier, a piece
of it if there is one that gives ranges. -/
theorem exists_passage {includer : Includer} (standard : includer.schemes = .standard)
    {site : IncludeSite} {base : Option String} {text : String} {d : Document}
    (h : includer.passage site (.ofText base text) = .ok d) :
    ∃ selected, d = .ofText base selected
      ∧ (site.attributes.writtenFragment .text = none → selected = text)
      ∧ ∀ written, site.attributes.writtenFragment .text = some written →
          FragmentId.GivesRanges written → selected.toList <:+: text.toList := by
  cases given : site.attributes.writtenFragment .text with
  | none =>
    have whole : site.attributes.fragment .text = none := by
      rw [IncludeAttributes.fragment, given]
      rfl
    rw [passage, whole] at h
    cases h
    refine ⟨text, rfl, fun _ => rfl, ?_⟩
    rintro _ ⟨⟩
  | some written =>
    have some_ : some written ≠ none := Option.some_ne_none written
    have term : site.attributes.fragment .text = some (IncludeAttributes.asTerm written) := by
      rw [IncludeAttributes.fragment, given]
      rfl
    rw [passage, term] at h
    dsimp only at h
    -- Other fragments still give a text, though it need not be a piece of the resource.
    by_cases ranges : FragmentId.GivesRanges written
    · obtain ⟨selected, rfl, piece⟩ := infix_of_selected standard ranges.asTerm h
      exact ⟨selected, rfl, fun none_ => absurd none_ some_, fun _ _ _ => piece⟩
    · obtain ⟨selected, rfl⟩ := ofText_of_selected standard h
      refine ⟨selected, rfl, fun none_ => absurd none_ some_, ?_⟩
      rintro _ ⟨⟩ given
      exact absurd given ranges

/-- The options do not matter for what is taken from a text. -/
theorem passage_standard (options options' : Options) (resolver resolver' : Resolver)
    (site : IncludeSite) (d : Document) :
    (Includer.standard options' resolver').passage site d
      = (Includer.standard options resolver).passage site d := by
  unfold passage
  split
  · rfl
  · next fragment _ =>
    rw [selected, selected]
    dsimp only [Includer.standard]
    cases read : FragmentId.read .standard .text fragment with
    | error e => rfl
    | ok schemes =>
      have same := selectFrom_fixup (FragmentId.isOfText_of_read read) d
      simp only [Except.mapError, bind, Except.bind, selectWith]
      rw [same]

/-! ### Texts held in memory -/

section

variable (options : Options) (resources : Table String String)

/-- What an include takes from the text that it refers to. -/
def taken (site : IncludeSite) : Except InclusionError Document := do
  let uri := (request site).target
  let source ← Resolver.lookup resources uri
  (Includer.standard options (.memory resources)).passage site (Resolver.ofText (some uri) source)

/-- What is taken depends on a single resource, and on no option. -/
theorem taken_congr (options' : Options) {resources resources' : Table String String}
    {site : IncludeSite}
    (same : resources'.get? (request site).target = resources.get? (request site).target) :
    taken options' resources' site = taken options resources site := by
  rw [taken, taken, Resolver.lookup, Resolver.lookup, same]
  exact bind_congr fun source => passage_standard options options' _ _ site _

theorem resolve_eq_taken {site : IncludeSite} (external : site.attributes.href ≠ "")
    (s : UriStack) :
    (Includer.standard options (.memory resources)).resolve handle site .text s
      = .ok (taken options resources site, s) := by
  have plain : (Includer.standard options (.memory resources)).resolver.PlainText :=
    Resolver.plainText_memory resources
  have reply : (Includer.standard options (.memory resources)).resolver.readText (request site)
      = .ok ((Resolver.lookup resources (request site).target).map
          (Resolver.ofText (some (request site).target))) := by
    have other : (request site).href ≠ "" := external
    show Except.ok (Resolver.memoryText resources (request site)) = _
    rw [Resolver.memoryText, if_neg other]
    cases Resolver.lookup resources (request site).target <;> rfl
  rw [resolve_text handle rfl plain, bind_apply, ofReply_apply, reply, taken]
  cases Resolver.lookup resources (request site).target <;> rfl

theorem failsOnly_taken (site : IncludeSite) :
    FailsOnly (fun e => ∀ fault, e ≠ .loop fault) (taken options resources site) := by
  refine FailsOnly.bind ?_ fun source _ => failsOnly_passage _ site _
  rintro _ failed fault rfl
  rw [Resolver.lookup] at failed
  split at failed <;> cases failed

/-- What is taken is a text: the whole resource with its line ends made alike if there is no
fragment identifier, a piece of that if there is one that gives ranges. -/
theorem exists_taken {site : IncludeSite} {d : Document}
    (h : taken options resources site = .ok d) :
    ∃ selected source, d = .ofText (some (request site).target) selected
      ∧ resources.get? (request site).target = some source
      ∧ (site.attributes.writtenFragment .text = none →
          selected = String.ofList (unifyLineEnds source.toList))
      ∧ ∀ written, site.attributes.writtenFragment .text = some written →
          FragmentId.GivesRanges written → selected.toList <:+: unifyLineEnds source.toList := by
  obtain ⟨source, found, h⟩ := bind_eq_ok_iff.mp h
  obtain ⟨selected, rfl, whole, piece⟩ := exists_passage rfl h
  rw [String.toList_ofList] at piece
  refine ⟨selected, source, rfl, ?_, whole, piece⟩
  rw [Resolver.lookup] at found
  split at found
  · next content get =>
    cases found
    exact get
  · cases found

/-- **Included texts are opaque.**  An include of text has one and the same outcome whatever stack
it starts from, however control elements are handled, and whatever the options and all other
resources are, and it leaves the stack as it was; in particular it is never a loop.  If it is
satisfied, it is replaced by a single text, or nothing if that is empty: by the resource with its
line ends made alike if there is no fragment identifier, by a piece of that if there is one that
gives ranges.  If texts are trimmed, then it is replaced by that same text without its
indentation. -/
theorem included_texts_are_opaque {d : Document} {id : Nat} {e : Element} {a : IncludeAttributes}
    {fallback : Option Nat} (attributes : IncludeAttributes.ofElement e = .ok a)
    (ofText : a.parseType = .text) (external : a.href ≠ "")
    (child : (Includer.standard options (.memory resources)).fallbackChild? d.nodes id
      = .ok fallback) :
    let site : IncludeSite := ⟨d, id, e, a⟩
    let uri := (request site).target
    ∃ outcome : Except InclusionError String,
      (∀ fault, outcome ≠ .error (.loop fault))
      ∧ (∀ options' resources', resources'.get? uri = resources.get? uri → ∀ handle s,
          (Includer.standard options' (.memory resources')).resolve handle site .text s
            = .ok (outcome.map (.ofText (some uri)), s))
      ∧ ∀ selected, outcome = .ok selected →
        (∀ options' resources', resources'.get? uri = resources.get? uri → ∀ handle s,
          (Includer.standard options' (.memory resources')).include_ handle d id e s
            = .ok (.ok (.ofText (some uri) (trimmedIf options' selected)), s))
        ∧ ∃ source, resources.get? uri = some source
          ∧ (a.writtenFragment .text = none →
              selected = String.ofList (unifyLineEnds source.toList))
          ∧ ∀ written, a.writtenFragment .text = some written → FragmentId.GivesRanges written →
              selected.toList <:+: unifyLineEnds source.toList := by
  intro site uri
  -- What is taken depends on the one resource, and on neither the handler nor the stack.
  have resolved : ∀ options' resources', resources'.get? uri = resources.get? uri → ∀ handle s,
      (Includer.standard options' (.memory resources')).resolve handle site .text s
        = .ok (taken options resources site, s) := by
    intro options' resources' same handle s
    rw [resolve_eq_taken handle options' resources' external, taken_congr options options' same]
  have noLoop := failsOnly_taken options resources site
  cases outcome : taken options resources site with
  | error err =>
    rw [outcome] at resolved noLoop
    refine ⟨.error err, fun fault same => ?_, resolved, nofun⟩
    exact noLoop err rfl fault (Except.error.inj same)
  | ok content =>
    obtain ⟨selected, source, rfl, found, whole, piece⟩ := exists_taken options resources outcome
    rw [outcome] at resolved
    refine ⟨.ok selected, fun fault => nofun, resolved, ?_⟩
    rintro _ ⟨⟩
    refine ⟨fun options' resources' same handle s => ?_, source, found, whole, piece⟩
    have child' : (Includer.standard options' (.memory resources')).fallbackChild? d.nodes id
        = .ok fallback := child
    have taken := resolved options' resources' same handle s
    have replaced := replacement_of_resolved site ofText taken fallback
    rw [include_eq_replacement _ attributes child', replaced, finished_ofText ofText]
    rfl

end

/-! ### Pages with an include of text -/

namespace TextPage

def bindings : Table String String := .ofList [("xi", xincludeNamespace)]

/-- An include with these attributes. -/
def inclusion (base : Option String) (attributes : List (QName × String)) : Element :=
  ⟨.prefixed "xi" xincludeNamespace "include", .ofList attributes, bindings, base⟩

/-- A page with nothing but that include. -/
def page (base : Option String) (attributes : List (QName × String)) : Document :=
  ⟨base, .element ⟨.inNamespace none "doc", .empty, bindings, base⟩
    (.element (inclusion base attributes) .nil .nil) .nil⟩

/-- A page that includes itself as text, in writing. -/
def ownSource : String :=
  "<doc xmlns:xi='http://www.w3.org/2001/XInclude'><xi:include href='d' parse='text'/></doc>"

/-- What its include says. -/
def ownAttributes : List (QName × String) := [(.plain "href", "d"), (.plain "parse", "text")]

def ownResources : Table String String := .ofList [("http://h/d", ownSource)]

/-- A page that includes two lines of a text, in writing. -/
def twoLines : String :=
  "<doc xmlns:xi='http://www.w3.org/2001/XInclude'>"
    ++ "<xi:include href='http://h/t' parse='text' fragid='line=0,2'/></doc>"

def lineAttributes : List (QName × String) :=
  [(.plain "href", "http://h/t"), (.plain "parse", "text"), (.plain "fragid", "line=0,2")]

end TextPage

open TextPage in
/-- A page may include its own source, although its URI is on the stack; no handler is needed. -/
theorem included_texts_are_opaque_ownSource :
    let reader := Includer.standard ⟨true, true, true, false⟩ (.memory ownResources)
    let d := page (some "http://h/d") ownAttributes
    let e := inclusion (some "http://h/d") ownAttributes
    let stack : UriStack := ⟨["http://h/d"]⟩
    Document.read (some "http://h/d") ownSource = .ok d
      ∧ (∃ a, IncludeAttributes.ofElement e = .ok a ∧ a.parseType = .text ∧ a.href ≠ "")
      ∧ reader.fallbackChild? d.nodes 2 = .ok none
      ∧ reader.include_ (fun _ _ _ _ => Expanding.halt .tooDeep) d 2 e stack
        = .ok (.ok (.ofText (some "http://h/d") ownSource), stack) := by
  intro reader d e stack
  let a : IncludeAttributes := ⟨"d", none, none, none, "UTF-8", none, none, "text"⟩
  have attributes : IncludeAttributes.ofElement e = .ok a := eq_ok_of_toOption (by decide +kernel)
  have ofText : a.parseType = .text := by decide +kernel
  have external : a.href ≠ "" := by decide
  have child : reader.fallbackChild? d.nodes 2 = .ok none := rfl
  obtain ⟨outcome, -, resolved, satisfied⟩ := included_texts_are_opaque ⟨true, true, true, false⟩
    ownResources attributes ofText external child
  have target : (request ⟨d, 2, e, a⟩).target = "http://h/d" := by decide +kernel
  have evaluated : reader.resolve (fun _ _ _ _ => Expanding.halt .tooDeep) ⟨d, 2, e, a⟩ .text stack
      = .ok (.ok (.ofText (some "http://h/d") ownSource), stack) :=
    eq_of_success? (by decide +kernel)
  have same := (resolved _ ownResources rfl _ stack).symm.trans evaluated
  cases outcome with
  | error err => cases same
  | ok selected =>
    obtain ⟨replaced, source, found, whole, -⟩ := satisfied selected rfl
    rw [target] at found replaced
    have held : ownResources.get? "http://h/d" = some ownSource := by decide +kernel
    obtain rfl := Option.some.inj (held.symm.trans found)
    have kept : String.ofList (unifyLineEnds ownSource.toList) = ownSource := by decide +kernel
    obtain rfl := (whole rfl).trans kept
    exact ⟨eq_ok_of_toOption (by decide +kernel), ⟨a, attributes, ofText, external⟩, child,
      replaced _ ownResources rfl _ stack⟩

open TextPage in
/-- What is left of two lines of a text that is trimmed is in no piece of the text. -/
theorem trimmed_lines_not_infix :
    let reader := Includer.standard ⟨false, false, false, true⟩
      (.memory (.ofList [("http://h/t", "a  \nb")]))
    Document.read none twoLines = .ok (page none lineAttributes)
      ∧ FragmentId.GivesRanges "line=0,2"
      ∧ reader.include_ (reader.handle 0) (page none lineAttributes) 2
          (inclusion none lineAttributes) .empty
        = .ok (.ok (.ofText (some "http://h/t") "a\nb"), .empty)
      ∧ ¬"a\nb".toList <:+: unifyLineEnds "a  \nb".toList :=
  ⟨eq_ok_of_toOption (by decide +kernel), FragmentId.givesRanges_of_short (.inl (by decide)),
    eq_of_success? (by decide +kernel), by decide⟩

end Includer

end Transclusion
