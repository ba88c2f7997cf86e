import Mathlib.Logic.Relation
import Transclusion.Proofs.Inclusion.Effects
/-!
# The calls of an expansion

An expansion is a run of four functions that call each other: a document is walked, an include in
it is replaced, what the include refers to is resolved, and its fallback is expanded if that fails.
`Call` names the calls of these functions, and `Includer.Makes` says which calls a call makes, each
with the stack that it starts from.  A call is made only after the calls before it have returned, so
what has to come before is part of the relation: that the control elements before an include have
been replaced, that the resolution has failed, that a resource has been read.

* `Includer.carryOut`: what a call computes.
* `Includer.Reached`: the calls that the expansion of a document gets to.

How deep includes may be nested plays no part in the relation: what comes before a call may take
any depth.
-/

namespace Transclusion

/-! ### Walks within an expansion -/

namespace Includer

variable (includer : Includer) (handle : Document → ControlHandler Expanding)

theorem expandAll_eq (d : Document) :
    includer.expandAll handle d
      = (d.content.encounters includer.controls 1).mapM (handle d).answer >>= fun answers =>
          pure ⟨d.base, d.content.fill includer.controls answers⟩ := by
  simp [expandAll, Document.walk, Document.subtree?, Forest.walk_eq_fill]

/-- The content of the fallback with the number `id`. -/
def fallbackContent (site : IncludeSite) (id : Nat) : Forest :=
  ((site.document.subtree? id).map (·.content)).getD .nil

theorem fallback_eq (site : IncludeSite) (id : Nat) :
    includer.fallback handle site id
      = ((fallbackContent site id).encounters includer.controls (id + 1)).mapM
            (handle site.document).answer >>= fun answers =>
          pure (includer.fixed site ⟨site.document.nodes.base? id,
            (fallbackContent site id).fill includer.controls answers⟩) := by
  simp [fallback, fallbackContent, Forest.walk_eq_fill]

section

variable {handle} {d : Document} {id : Nat} {e : Element} {a : IncludeAttributes}
  (attributes : IncludeAttributes.ofElement e = .ok a)

include attributes

/-- What is left to be done for an include whose attributes have been read. -/
theorem include_of_attributes : includer.include_ handle d id e
    = (liftM (includer.fallbackChild? d.nodes id) : Expanding (Option Nat)) >>=
        includer.replacement handle ⟨d, id, e, a⟩ := by
  rw [include_, attributes]
  rfl

/-- Replacing an include is bringing about its replacement, once its attributes and its children
have been read. -/
theorem include_eq_replacement {fallback : Option Nat}
    (child : includer.fallbackChild? d.nodes id = .ok fallback) :
    includer.include_ handle d id e = includer.replacement handle ⟨d, id, e, a⟩ fallback := by
  funext s
  rw [includer.include_of_attributes attributes, child, Expanding.bind_apply, Expanding.lift_apply]

end

end Includer

/-! ### Calls -/

/-- A call of one of the functions that expand documents. -/
inductive Call where
  /-- The includes of a document are replaced. -/
  | walk (d : Document)
  /-- The include with the number `id` is replaced. -/
  | inclusion (d : Document) (id : Nat) (e : Element)
  /-- What an include refers to is read, expanded and narrowed. -/
  | resolution (site : IncludeSite) (parseType : ParseType)
  /-- The fallback with the number `id` is expanded. -/
  | fallback (site : IncludeSite) (id : Nat)

/-- What a call walks: a forest in a document, and the number of its first node. -/
def Call.walked? : Call → Option (Document × Nat × Forest)
  | walk d => some (d, 1, d.content)
  | fallback site id => some (site.document, id + 1, Includer.fallbackContent site id)
  | _ => none

namespace Includer

variable (includer : Includer)

/-- What a call computes, with at most `depth` includes inside each other. -/
def carryOut (depth : Nat) : Call → Expanding Document
  | .walk d => includer.expandAll (includer.handle depth) d
  | .inclusion d id e => includer.include_ (includer.handle depth) d id e
  | .resolution site parseType => includer.resolve (includer.handle depth) site parseType
  | .fallback site id => includer.fallback (includer.handle depth) site id

/-- A call that walks a forest is the sequence of the handler's answers, put together. -/
theorem carryOut_of_walked? {call : Call} {d : Document} {first : Nat} {f : Forest}
    (walked : call.walked? = some (d, first, f)) :
    ∃ finish : List Document → Document, ∀ depth,
      includer.carryOut depth call
        = (f.encounters includer.controls first).mapM (includer.handle depth d).answer
            >>= fun answers => pure (finish answers) := by
  cases call with
  | walk d' =>
    simp only [Call.walked?, Option.some.injEq, Prod.mk.injEq] at walked
    obtain ⟨rfl, rfl, rfl⟩ := walked
    exact ⟨_, fun depth => includer.expandAll_eq (includer.handle depth) d'⟩
  | fallback site id =>
    simp only [Call.walked?, Option.some.injEq, Prod.mk.injEq] at walked
    obtain ⟨rfl, rfl, rfl⟩ := walked
    exact ⟨_, fun depth => includer.fallback_eq (includer.handle depth) site id⟩
  | inclusion d' id e => simp [Call.walked?] at walked
  | resolution site parseType => simp [Call.walked?] at walked

/-- The calls that a call makes, each given with the stack that it starts from. -/
inductive Makes : Call × UriStack → Call × UriStack → Prop
  /-- A walk replaces an include when the control elements before it have been replaced. -/
  | encounter {call : Call} {d : Document} {first id depth : Nat} {f : Forest} {e : Element}
      {before after : List Encounter} {answers : List Document} {s s' : UriStack}
      (walked : call.walked? = some (d, first, f))
      (place : f.encounters includer.controls first = before ++ ⟨.inclusion, id, e⟩ :: after)
      (answered : before.mapM (includer.handle depth d).answer s = .ok (.ok answers, s')) :
      Makes (call, s) (.inclusion d id e, s')
  /-- What an include refers to is resolved if its parse type is supported. -/
  | attempt {d : Document} {id : Nat} {e : Element} {a : IncludeAttributes} {fallback : Option Nat}
      {s : UriStack}
      (attributes : IncludeAttributes.ofElement e = .ok a)
      (child : includer.fallbackChild? d.nodes id = .ok fallback)
      (supported : a.parseType ≠ .unsupported) :
      Makes (.inclusion d id e, s) (.resolution ⟨d, id, e, a⟩ a.parseType, s)
  /-- A fallback is expanded without any attempt if the parse type is not supported. -/
  | forced {d : Document} {id fallback : Nat} {e : Element} {a : IncludeAttributes} {s : UriStack}
      (attributes : IncludeAttributes.ofElement e = .ok a)
      (child : includer.fallbackChild? d.nodes id = .ok (some fallback))
      (unsupported : a.parseType = .unsupported) :
      Makes (.inclusion d id e, s) (.fallback ⟨d, id, e, a⟩ fallback, s)
  /-- A fallback is expanded when the attempt has failed, from what the failure has left of the
  stack, cut down to the size that it had before. -/
  | failed {d : Document} {id fallback depth : Nat} {e : Element} {a : IncludeAttributes}
      {s s' : UriStack} {err : InclusionError}
      (attributes : IncludeAttributes.ofElement e = .ok a)
      (child : includer.fallbackChild? d.nodes id = .ok (some fallback))
      (supported : a.parseType ≠ .unsupported)
      (attempted : includer.carryOut depth (.resolution ⟨d, id, e, a⟩ a.parseType) s
        = .ok (.error err, s')) :
      Makes (.inclusion d id e, s) (.fallback ⟨d, id, e, a⟩ fallback, s'.truncate s.size)
  /-- A resource that has been read as markup is walked, with its URI on the stack. -/
  | markup {site : IncludeSite} {parseType : ParseType} {d : Document} {s s' : UriStack}
      (notText : parseType ≠ .text) (external : site.attributes.href ≠ "")
      (entered : s.enter (request site).target = .ok s')
      (read : includer.resolver.readXml (request site) = .ok (.ok d)) :
      Makes (.resolution site parseType, s) (.walk (includer.fixed site d), s')
  /-- A resource that has been read as text is walked. -/
  | text {site : IncludeSite} {d : Document} {s : UriStack}
      (external : site.attributes.href ≠ "")
      (read : includer.resolver.readText (request site) = .ok (.ok d)) :
      Makes (.resolution site .text, s) (.walk (includer.fixed site d), s)
  /-- What a fragment identifier selects is walked. -/
  | selected {site : IncludeSite} {parseType : ParseType} {fragment : String} {depth : Nat}
      {d result : Document} {around : Option AncestorSet} {schemes : List Scheme}
      {matched : List Nat} {s s' : UriStack}
      (identifier : site.attributes.fragment parseType = some fragment)
      (obtained : includer.resource (includer.handle depth) site parseType (some fragment) s
        = .ok (.ok (d, around), s'))
      (read : FragmentId.read includer.schemes parseType fragment = .ok schemes)
      (found : selectWith schemes ⟨d, includer.contextOf site⟩ around fragment
        = .ok (result, matched)) :
      Makes (.resolution site parseType, s) (.walk (includer.fixed site result), s')

/-- The first control element that a walk comes upon is replaced first. -/
theorem Makes.first {call : Call} {d : Document} {first id : Nat} {f : Forest} {e : Element}
    {after : List Encounter} {s : UriStack} (walked : call.walked? = some (d, first, f))
    (place : f.encounters includer.controls first = ⟨.inclusion, id, e⟩ :: after) :
    includer.Makes (call, s) (.inclusion d id e, s) := by
  have answered : [].mapM (includer.handle 0 d).answer s = .ok (.ok [], s) := rfl
  exact .encounter walked (by rw [place, List.nil_append]) answered

/-- The stack that the walk of a document starts from when it is not inside of any other. -/
def initialStack (d : Document) : UriStack := ⟨(d.base.map (Uri.resolve none)).toList⟩

/-- The calls that the expansion of a document gets to. -/
def Reached (d : Document) : Call × UriStack → Prop :=
  Relation.ReflTransGen includer.Makes (.walk d, initialStack d)

/-- An expansion that gets to the first call of a chain gets to all of them. -/
theorem reached_of_chain {d : Document} {chain : Nat → Call × UriStack}
    (first : includer.Reached d (chain 0))
    (makes : ∀ n, includer.Makes (chain n) (chain (n + 1))) (n : Nat) :
    includer.Reached d (chain n) := by
  induction n with
  | zero => exact first
  | succ n ih => exact Relation.ReflTransGen.tail ih (makes n)

/-- An expansion is the walk of the document from its initial stack. -/
theorem expandWithin_eq (depth : Nat) (d : Document) :
    includer.expandWithin depth d
      = (includer.carryOut depth (.walk d) (initialStack d)).map (·.1) := by
  unfold expandWithin expanding initialStack
  cases d.base with
  | none => rfl
  | some base => rfl

theorem carried_of_expandWithin {depth : Nat} {d e : Document}
    (h : includer.expandWithin depth d = .ok (.ok e)) :
    ∃ s, includer.carryOut depth (.walk d) (initialStack d) = .ok (.ok e, s) := by
  rw [expandWithin_eq] at h
  cases carried : includer.carryOut depth (.walk d) (initialStack d) with
  | error halt =>
    rw [carried] at h
    cases h
  | ok outcome =>
    obtain ⟨result, s⟩ := outcome
    rw [carried] at h
    cases h
    exact ⟨s, rfl⟩

end Includer

end Transclusion
