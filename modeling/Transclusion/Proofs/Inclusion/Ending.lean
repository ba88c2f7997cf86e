import Mathlib.Data.List.Perm.Subperm
import Mathlib.Data.Prod.Lex
import Mathlib.Order.OrderIsoNat
import Transclusion.Proofs.Fragment.Copies
import Transclusion.Proofs.Inclusion.Endless
import Transclusion.Proofs.Inclusion.Expanded
import Transclusion.Proofs.Inclusion.Sites
import Transclusion.Proofs.Inclusion.StackDiscipline
/-!
# When expansions end

The URIs under expansion are all different and, when resources are held in memory, among finitely
many.  So an endless chain of calls enters no URI any more from some call on.  From there on it only
resolves includes that refer to the document at hand, since what is selected from an expanded
resource has no include in it (`Includer.own_of_makes`).

Where the nodes selected from the document at hand are apart from each other, the copies have fewer
control elements than the document, because the include itself is not copied
(`Includer.controlCount_lt`).  So an endless chain selects nodes of which one is inside another
again and again.  Such chains exist: selecting an include both on its own and with an element around
it makes a document like the one before (`Includer.Reproduction`).

* `Includer.ends_iff`: an expansion ends unless there is such a chain.
-/

namespace Transclusion

/-! ### Sequences of numbers -/

/-- A bounded sequence has a greatest member. -/
theorem exists_greatest (f : Nat → Nat) (bound : Nat) (h : ∀ n, f n ≤ bound) :
    ∃ n, ∀ m, f m ≤ f n := by
  induction bound with
  | zero => exact ⟨0, fun m => (h m).trans (Nat.zero_le _)⟩
  | succ bound ih =>
    by_cases attained : ∃ n, f n = bound + 1
    · obtain ⟨n, hn⟩ := attained
      exact ⟨n, fun m => hn ▸ h m⟩
    · refine ih fun n => ?_
      have hne : f n ≠ bound + 1 := fun hn => attained ⟨n, hn⟩
      have hle := h n
      omega

namespace Includer

open Expanding

variable (includer : Includer)

/-! ### Documents without includes -/

/-- The walk of a document without control elements makes no calls. -/
theorem not_makes_of_free {d : Document} {s : UriStack} {next : Call × UriStack}
    (free : d.content.Free includer.controls) : ¬ includer.Makes (.walk d, s) next := by
  intro makes
  cases makes with
  | encounter walked place answered =>
    cases walked
    rw [free.encounters] at place
    exact List.cons_ne_nil _ _ (List.append_eq_nil_iff.mp place.symm).2

theorem free_fixed (site : IncludeSite) {d : Document} (h : d.content.Free includer.controls) :
    (includer.fixed site d).content.Free includer.controls := by
  unfold Forest.Free fixed
  rw [FixupContext.names_document]
  exact h

variable {includer}

/-- What is copied from a document without control elements has none. -/
theorem free_of_names {d result : Document} {matched : List Nat}
    (names : result.content.names = matched.flatMap d.namesAt)
    (free : d.content.Free includer.controls) : result.content.Free includer.controls := by
  intro name hname
  rw [names, List.mem_flatMap] at hname
  obtain ⟨i, -, hi⟩ := hname
  exact free name (Document.mem_names_of_mem_namesAt hi)

/-- What is selected from a document without control elements has none. -/
theorem free_of_selectWith (copies : includer.schemes.Copies) {parseType : ParseType}
    {fragment : String} {schemes : List Scheme} {context : SelectionContext}
    {around : Option AncestorSet} {result : Document} {matched : List Nat}
    (read : FragmentId.read includer.schemes parseType fragment = .ok schemes)
    (found : selectWith schemes context around fragment = .ok (result, matched))
    (free : context.document.content.Free includer.controls) :
    result.content.Free includer.controls :=
  free_of_names (names_of_selectWith (FragmentId.forall_of_read copies read) found) free

variable (includer)

/-! ### Selections from the document at hand -/

/-- An include selects this from its own document. -/
def SelectsOwn (site : IncludeSite) (result : Document) (matched : List Nat) : Prop :=
  ∃ fragment schemes, site.attributes.fragment .xml = some fragment
    ∧ FragmentId.read includer.schemes .xml fragment = .ok schemes
    ∧ selectWith schemes ⟨site.document, includer.contextOf site⟩
        (some (.ofInclude site.document.nodes site.id)) fragment = .ok (result, matched)

/-- An include selects nodes from its own document of which one is inside another. -/
def Overlaps (site : IncludeSite) : Prop :=
  ∃ result matched, includer.SelectsOwn site result matched
    ∧ ¬ matched.Pairwise site.document.nodes.Apart

/-- The number of control elements in a document. -/
def controlCount (d : Document) : Nat :=
  d.content.names.countP fun name => (includer.controls.get? name).isSome

/-- If the selected nodes are apart from each other, their copies have fewer control elements than
the document: the include is not among them. -/
theorem controlCount_lt (copies : includer.schemes.Copies) {site : IncludeSite} {result : Document}
    {matched : List Nat} (isInclude : includer.IsInclude site.document site.id site.element)
    (selects : includer.SelectsOwn site result matched)
    (apart : matched.Pairwise site.document.nodes.Apart) :
    includer.controlCount (includer.fixed site result) < includer.controlCount site.document := by
  obtain ⟨fragment, schemes, -, read, found⟩ := selects
  unfold controlCount fixed
  rw [FixupContext.names_document,
    names_of_selectWith (FragmentId.forall_of_read copies read) found]
  -- A selected node with the include inside it would not have passed the check of the ancestors.
  refine Document.countP_namesAt_lt isInclude.1 (by rw [isInclude.2]; rfl) apart ?_
  rintro i hi ⟨hle, hlt⟩
  refine not_mem_around_of_selectWith found i hi ?_
  show i ∈ site.id :: site.document.nodes.ancestors site.id
  obtain rfl | before := Nat.eq_or_lt_of_le hle
  · exact List.mem_cons_self
  · exact List.mem_cons_of_mem _ (NodeList.mem_ancestors_of_inside before hlt)

/-- A resolution in the midst of a chain enters a URI, or selects from the document at hand. -/
theorem own_of_makes (plain : includer.resolver.PlainText) (copies : includer.schemes.Copies)
    {site : IncludeSite} {parseType : ParseType} {next : Call} {s s' : UriStack}
    {after : Call × UriStack} (makes : includer.Makes (.resolution site parseType, s) (next, s'))
    (again : includer.Makes (next, s') after) :
    s'.size = s.size + 1
      ∨ parseType = .xml ∧ site.attributes.href = ""
        ∧ ∃ result matched, includer.SelectsOwn site result matched
          ∧ next = .walk (includer.fixed site result) := by
  cases makes with
  | encounter walked => cases walked
  | markup notText external entered read =>
    obtain ⟨-, rfl⟩ := UriStack.enter_eq_ok_iff.mp entered
    exact .inl rfl
  | text external read =>
    obtain ⟨base, text, rfl⟩ := plain _ _ read
    have free := (Document.expanded_ofText includer.controls base text).free
    exact absurd again (includer.not_makes_of_free (includer.free_fixed site free))
  | @selected _ _ fragment depth d result around schemes matched _ _ identifier obtained read
      found =>
    have hresource := includer.ensures_resource (includer.givesExpanded_handle plain depth) plain
      site parseType (some fragment) s
    -- Nothing is selected from an expanded resource that would be replaced in turn.
    obtain expanded | ⟨-, notText, own, same⟩ := (ensures_iff.mp hresource).1 _ _ obtained
    · have free := free_of_selectWith copies read found expanded.free
      exact absurd again (includer.not_makes_of_free (includer.free_fixed site free))
    · obtain ⟨rfl, rfl⟩ := Prod.mk.inj same
      cases parseType with
      | text => exact absurd rfl notText
      | unsupported => cases read
      | xml =>
        exact .inr ⟨rfl, own, result, matched, ⟨fragment, schemes, identifier, read, found⟩, rfl⟩

/-! ### Chains that only use the document at hand -/

/-- How much is left to do: the control elements in the document, and the places in it. -/
def rank (call : Call) : Nat ×ₗ Nat :=
  toLex (includer.controlCount call.document, 3 * call.document.size + 1 - call.position)

theorem rank_lt_of_makes (plain : includer.resolver.PlainText) (copies : includer.schemes.Copies)
    {call next : Call} {s s' : UriStack} {after : Call × UriStack} (placed : includer.Placed call)
    (makes : includer.Makes (call, s) (next, s')) (again : includer.Makes (next, s') after)
    (enters : s'.size ≠ s.size + 1)
    (apart : ∀ site, call = .resolution site .xml → ¬ includer.Overlaps site) :
    includer.rank next < includer.rank call := by
  unfold rank
  rw [Prod.Lex.toLex_lt_toLex]
  obtain ⟨site, parseType, rfl⟩ | ⟨same, further⟩ := includer.position_lt_of_makes placed makes
  · obtain entered | ⟨rfl, -, result, matched, selects, rfl⟩ :=
      includer.own_of_makes plain copies makes again
    · exact absurd entered enters
    · refine .inl (includer.controlCount_lt copies placed selects ?_)
      by_contra overlapping
      exact apart site rfl ⟨result, matched, selects, overlapping⟩
  · have hplaced := (includer.placed_of_makes placed makes).position_le
    rw [same] at hplaced ⊢
    exact .inr ⟨rfl, by omega⟩

/-- A chain that enters no URIs selects overlapping nodes again and again. -/
theorem frequently_overlaps (plain : includer.resolver.PlainText) (copies : includer.schemes.Copies)
    {chain : Nat → Call × UriStack} (makes : ∀ n, includer.Makes (chain n) (chain (n + 1)))
    (placed : ∀ n, includer.Placed (chain n).1)
    (enters : ∀ n, (chain (n + 1)).2.size ≠ (chain n).2.size + 1) (n : Nat) :
    ∃ m, n ≤ m ∧ ∃ site, (chain m).1 = .resolution site .xml ∧ includer.Overlaps site := by
  -- Otherwise the rank goes down with every call from `n` on.
  by_contra never
  have decreases : ∀ m,
      includer.rank (chain (n + (m + 1))).1 < includer.rank (chain (n + m)).1 := by
    intro m
    refine includer.rank_lt_of_makes plain copies (placed _) (makes (n + m)) (makes (n + m + 1))
      (enters _) fun site hsite overlaps => ?_
    exact never ⟨n + m, Nat.le_add_right n m, site, hsite, overlaps⟩
  exact not_strictAnti_of_wellFoundedLT (fun m => includer.rank (chain (n + m)).1)
    (strictAnti_nat_of_succ_lt decreases)

/-! ### Resources held in memory -/

section

variable (resources : Table String String)

theorem mem_keys_of_memoryXml {r : Request} {d : Document}
    (h : (Resolver.memory resources).readXml r = .ok (.ok d)) :
    r.target ∈ resources.entries.map (·.1) := by
  have hread : Resolver.memoryXml resources r = .ok d := Except.ok.inj h
  obtain ⟨content, hlookup, -⟩ := bind_eq_ok_iff.mp hread
  rw [Resolver.lookup] at hlookup
  split at hlookup
  · next content' hget =>
    obtain ⟨entry, hfind, -⟩ := Option.map_eq_some_iff.mp hget
    have hkey : entry.1 = r.target := by simpa [Keyed.identity] using List.find?_some hfind
    exact List.mem_map.mpr ⟨entry, List.mem_of_find?_eq_some hfind, hkey⟩
  · cases hlookup

variable {includer} (memory : includer.resolver = .memory resources)

include memory

/-- The URIs under expansion are that of the document and those of resources. -/
theorem uris_subset_of_reached {d : Document} {p : Call × UriStack}
    (reached : includer.Reached d p) :
    p.2.uris ⊆ (initialStack d).uris ++ resources.entries.map (·.1) := by
  rw [Reached] at reached
  induction reached with
  | refl => exact List.subset_append_left _ _
  | @tail p q _ makes ih =>
    obtain ⟨call, s⟩ := p
    obtain ⟨next, s'⟩ := q
    obtain rfl | ⟨site, parseType, d, -, -, read, -, entered⟩ := includer.stack_of_makes makes
    · exact ih
    · obtain ⟨-, rfl⟩ := UriStack.enter_eq_ok_iff.mp entered
      rw [memory] at read
      exact List.cons_subset.mpr
        ⟨List.mem_append_right _ (mem_keys_of_memoryXml resources read), ih⟩

theorem size_le_of_reached {d : Document} {p : Call × UriStack} (reached : includer.Reached d p) :
    p.2.size ≤ (initialStack d).uris.length + resources.entries.length := by
  have hnodup : p.2.uris.Nodup :=
    (includer.below_of_reached reached).nodup (nodup_initialStack d)
  have hsubset := uris_subset_of_reached resources memory reached
  have hle := (List.subperm_of_subset hnodup hsubset).length_le
  rwa [List.length_append, List.length_map] at hle

/-- An endless chain does not enter any URI from some call on. -/
theorem exists_forall_not_enters {d : Document} {chain : Nat → Call × UriStack}
    (reached : ∀ n, includer.Reached d (chain n))
    (makes : ∀ n, includer.Makes (chain n) (chain (n + 1))) :
    ∃ n, ∀ m, n ≤ m → (chain (m + 1)).2.size ≠ (chain m).2.size + 1 := by
  obtain ⟨n, greatest⟩ := exists_greatest (fun n => (chain n).2.size) _ fun n =>
    size_le_of_reached resources memory (reached n)
  have grows : Monotone fun n => (chain n).2.size :=
    monotone_nat_of_le_succ fun n => (includer.below_of_makes (makes n)).suffix.length_le
  -- The stack only grows along the chain, so that it stays at its greatest size.
  refine ⟨n, fun m hnm => ?_⟩
  have hm : (chain n).2.size ≤ (chain m).2.size := grows hnm
  have hnext : (chain (m + 1)).2.size ≤ (chain n).2.size := greatest (m + 1)
  omega

end

/-! ### Ending -/

/-- An expansion ends if it has an outcome from some depth on. -/
def Ends (d : Document) : Prop :=
  ∃ depth outcome, ∀ more, depth ≤ more → includer.expandWithin more d = .ok outcome

theorem ends_iff_not_diverges (answers : includer.resolver.Answers) {d : Document} :
    includer.Ends d ↔ ¬ includer.Diverges (.walk d, initialStack d) := by
  rw [Ends]
  simp only [expandWithin_eq]
  constructor
  · rintro ⟨depth, outcome, ends⟩ diverges
    have deep : includer.carryOut depth (.walk d) (initialStack d) = .error .tooDeep :=
      diverges depth
    have hdepth := ends depth (Nat.le_refl depth)
    rw [deep] at hdepth
    cases hdepth
  · intro ends
    have hcall := includer.deepening_carryOut answers (.walk d)
    obtain ⟨depth, outcome, hdepth⟩ := exists_outcome hcall ends
    refine ⟨depth, outcome.1, fun more hmore => ?_⟩
    have later : includer.carryOut more (.walk d) (initialStack d) = .ok outcome :=
      (hcall depth more hmore).eq_of_ok hdepth
    rw [later]
    rfl

/-- A call from which a call that diverges is reached diverges. -/
theorem diverges_of_reflTransGen (answers : includer.resolver.Answers) {p q : Call × UriStack}
    (reaches : Relation.ReflTransGen includer.Makes p q) (diverges : includer.Diverges q) :
    includer.Diverges p := by
  obtain ⟨chain, rfl, makes⟩ := (includer.diverges_iff_exists_chain answers).mp diverges
  -- Every call on the way to the chain makes the next one, and so does every call of the chain.
  refine includer.diverges_of_progress answers (fun r => Relation.ReflTransGen includer.Makes r
    (chain 0) ∨ ∃ n, r = chain n) ?_ (.inl reaches)
  rintro r (reaches | ⟨n, rfl⟩)
  · obtain rfl | ⟨next, first, rest⟩ := Relation.ReflTransGen.cases_head reaches
    · exact ⟨chain 1, makes 0, .inr ⟨1, rfl⟩⟩
    · exact ⟨next, first, .inl rest⟩
  · exact ⟨chain (n + 1), makes n, .inr ⟨n + 1, rfl⟩⟩

/-- What never ends gets into a chain that only resolves includes of the document at hand, and
selects overlapping nodes again and again. -/
theorem exists_overlapping_chain {resources : Table String String}
    (memory : includer.resolver = .memory resources) (copies : includer.schemes.Copies)
    {d : Document} (diverges : includer.Diverges (.walk d, initialStack d)) :
    ∃ chain : Nat → Call × UriStack,
      includer.Reached d (chain 0) ∧ (∀ n, includer.Makes (chain n) (chain (n + 1)))
      ∧ (∀ n site parseType, (chain n).1 = .resolution site parseType →
          parseType = .xml ∧ site.attributes.href = "")
      ∧ ∀ n, ∃ m, n ≤ m ∧ ∃ site, (chain m).1 = .resolution site .xml ∧ includer.Overlaps site := by
  have answers : includer.resolver.Answers := memory ▸ Resolver.answers_memory resources
  have plain : includer.resolver.PlainText := memory ▸ Resolver.plainText_memory resources
  obtain ⟨chain, hfirst, makes⟩ := (includer.diverges_iff_exists_chain answers).mp diverges
  have first : includer.Reached d (chain 0) := by
    rw [hfirst]
    exact Relation.ReflTransGen.refl
  have reached := includer.reached_of_chain first makes
  -- the part of the chain from where on no URI is entered
  obtain ⟨n, hn⟩ := exists_forall_not_enters resources memory reached makes
  refine ⟨fun m => chain (n + m), reached n, fun m => makes (n + m), ?_, ?_⟩
  · intro m site parseType hcall
    have resolves := makes (n + m)
    rw [show chain (n + m) = (.resolution site parseType, (chain (n + m)).2) from
      Prod.ext hcall rfl] at resolves
    obtain entered | ⟨isXml, own, -⟩ :=
      includer.own_of_makes plain copies resolves (makes (n + m + 1))
    · exact absurd entered (hn (n + m) (Nat.le_add_right n m))
    · exact ⟨isXml, own⟩
  · exact includer.frequently_overlaps plain copies (fun m => makes (n + m))
      (fun m => includer.placed_of_reached (reached (n + m)))
      fun m => hn (n + m) (Nat.le_add_right n m)

/-- An expansion ends if no include selects overlapping nodes from its own document. -/
theorem ends_of_not_overlaps (options : Options) (resources : Table String String) (d : Document)
    (apart : ∀ site s, (standard options (.memory resources)).Reached d (.resolution site .xml, s) →
      site.attributes.href = "" → ¬ (standard options (.memory resources)).Overlaps site) :
    (standard options (.memory resources)).Ends d := by
  refine (ends_iff_not_diverges _ (Resolver.answers_memory resources)).mpr fun diverges => ?_
  obtain ⟨chain, reached, makes, own, overlaps⟩ :=
    exists_overlapping_chain _ rfl SchemeRegistry.copies_standard diverges
  obtain ⟨m, -, site, hcall, overlapping⟩ := overlaps 0
  refine apart site (chain m).2 ?_ (own m site .xml hcall).2 overlapping
  rw [← hcall]
  exact reached_of_chain _ reached makes m

/-- **An expansion ends exactly if it gets into no endless chain** that resolves nothing but
includes of the document at hand and selects overlapping nodes from it again and again. -/
theorem ends_iff (options : Options) (resources : Table String String) (d : Document) :
    (standard options (.memory resources)).Ends d
      ↔ ¬ ∃ chain : Nat → Call × UriStack,
          (standard options (.memory resources)).Reached d (chain 0)
          ∧ (∀ n, (standard options (.memory resources)).Makes (chain n) (chain (n + 1)))
          ∧ (∀ n site parseType, (chain n).1 = .resolution site parseType →
              parseType = .xml ∧ site.attributes.href = "")
          ∧ ∀ n, ∃ m, n ≤ m ∧ ∃ site, (chain m).1 = .resolution site .xml
              ∧ (standard options (.memory resources)).Overlaps site := by
  have answers : (standard options (.memory resources)).resolver.Answers :=
    Resolver.answers_memory resources
  rw [ends_iff_not_diverges _ answers, not_iff_not]
  constructor
  · exact exists_overlapping_chain _ rfl SchemeRegistry.copies_standard
  · rintro ⟨chain, reached, makes, -, -⟩
    have diverges := (diverges_iff_exists_chain _ answers).mpr ⟨chain, rfl, makes⟩
    exact diverges_of_reflTransGen _ answers reached diverges

/-! ### A page that reproduces a part of itself -/

namespace Reproduction

def bindings : Bindings := .ofList [("xi", xincludeNamespace)]

def plainElement (localName : String) : Element :=
  ⟨.inNamespace none localName, .empty, bindings, none⟩

/-- An include of all `c` and, once more, of the `b` in them. -/
def inclusion : Element :=
  ⟨.prefixed "xi" xincludeNamespace "include",
    .ofList [(.plain "xpointer", "xpath(//c|//c/b)")], bindings, none⟩

/-- The include with an empty fallback, in a `b`. -/
def block (rest : Forest) : Forest :=
  .element (plainElement "b")
    (.element inclusion
      (.element ⟨.prefixed "xi" xincludeNamespace "fallback", .empty, bindings, none⟩ .nil .nil)
      .nil) rest

/-- A page that holds the include twice, in a block in a `c` and, without a fallback, behind it. -/
def page : Document :=
  ⟨none, .element (plainElement "a")
    (.element (plainElement "c") (block .nil) (.element inclusion .nil .nil)) .nil⟩

/-- What the second include selects: the `c`, and a copy of the block in it. Of the includes in
there the second one selects the same again. -/
def copies : Document := ⟨none, .element (plainElement "c") (block .nil) (block .nil)⟩

def attributes : IncludeAttributes :=
  ⟨"", some "xpath(//c|//c/b)", none, none, "UTF-8", none, none, "xml"⟩

/-- The second include of a document. -/
def second (d : Document) : IncludeSite := ⟨d, 6, inclusion, attributes⟩

/-- Expands pages when there is nothing to be read. -/
def reader : Includer := standard ⟨true, true, true, false⟩ (.memory .empty)

/-- The first include fails, since it would include itself, and its fallback is empty. -/
theorem answered_first :
    ([⟨.inclusion, 3, inclusion⟩].mapM (reader.handle 1 copies).answer).success? .empty
        = some ([⟨none, .nil⟩], .empty)
      ∧ ([⟨.inclusion, 4, inclusion⟩].mapM (reader.handle 1 page).answer).success? .empty
        = some ([⟨none, .nil⟩], .empty) := by
  decide +kernel

/-- What the second include of a document selects. -/
def selection (d : Document) : Option (Document × List Nat) := do
  let schemes ← (FragmentId.read reader.schemes .xml "xpath(//c|//c/b)").toOption
  (selectWith schemes ⟨d, reader.contextOf (second d)⟩
    (some (.ofInclude d.nodes 6)) "xpath(//c|//c/b)").toOption

theorem selection_second :
    selection copies = some (copies, [1, 2]) ∧ selection page = some (copies, [2, 3]) := by
  decide +kernel

theorem fixed_second : ∀ d ∈ [copies, page], reader.fixed (second d) copies = copies := by
  decide +kernel

theorem makes_attempt {d : Document} {fallback : Option Nat}
    (child : reader.fallbackChild? d.nodes 6 = .ok fallback) :
    reader.Makes (.inclusion d 6 inclusion, .empty) (.resolution (second d) .xml, .empty) := by
  have hattributes : IncludeAttributes.ofElement inclusion = .ok attributes := rfl
  exact .attempt hattributes child (by decide)

theorem makes_selected {d : Document} {matched : List Nat}
    (h : selection d = some (copies, matched)) (fixed : reader.fixed (second d) copies = copies) :
    reader.Makes (.resolution (second d) .xml, .empty) (.walk copies, .empty) := by
  obtain ⟨schemes, read, found⟩ := Option.bind_eq_some_iff.mp h
  have obtained : reader.resource (reader.handle 0) (second d) .xml (some "xpath(//c|//c/b)") .empty
      = .ok (.ok (d, some (.ofInclude d.nodes 6)), .empty) := rfl
  have selected : reader.Makes (.resolution (second d) .xml, .empty)
      (.walk (reader.fixed (second d) copies), .empty) :=
    .selected rfl obtained (eq_ok_of_toOption read) (eq_ok_of_toOption found)
  rwa [fixed] at selected

/-- The copies are walked again and again. -/
theorem diverges_copies : reader.Diverges (.walk copies, .empty) := by
  refine reader.diverges_of_progress (Resolver.answers_memory .empty) (fun p =>
    p = (.walk copies, .empty) ∨ p = (.inclusion copies 6 inclusion, .empty)
      ∨ p = (.resolution (second copies) .xml, .empty)) ?_ (.inl rfl)
  rintro p (rfl | rfl | rfl)
  · have place : copies.content.encounters reader.controls 1
        = [⟨.inclusion, 3, inclusion⟩] ++ ⟨.inclusion, 6, inclusion⟩ :: [] := rfl
    have encounter : reader.Makes (.walk copies, .empty) (.inclusion copies 6 inclusion, .empty) :=
      .encounter rfl place (eq_of_success? answered_first.1)
    exact ⟨_, encounter, .inr (.inl rfl)⟩
  · have child : reader.fallbackChild? copies.nodes 6 = .ok (some 7) := rfl
    exact ⟨_, makes_attempt child, .inr (.inr rfl)⟩
  · have fixed := fixed_second copies List.mem_cons_self
    exact ⟨_, makes_selected selection_second.1 fixed, .inl rfl⟩

theorem reached_copies : reader.Reached page (.walk copies, .empty) := by
  have place : page.content.encounters reader.controls 1
      = [⟨.inclusion, 4, inclusion⟩] ++ ⟨.inclusion, 6, inclusion⟩ :: [] := rfl
  have encounter : reader.Makes (.walk page, .empty) (.inclusion page 6 inclusion, .empty) :=
    .encounter rfl place (eq_of_success? answered_first.2)
  have child : reader.fallbackChild? page.nodes 6 = .ok none := rfl
  have fixed := fixed_second page (by simp)
  exact .tail (.tail (.single encounter) (makes_attempt child))
    (makes_selected selection_second.2 fixed)

/-- The page in writing. -/
def writtenPage : String :=
  "<a xmlns:xi='http://www.w3.org/2001/XInclude'>"
    ++ "<c><b><xi:include xpointer='xpath(//c|//c/b)'><xi:fallback/></xi:include></b></c>"
    ++ "<xi:include xpointer='xpath(//c|//c/b)'/></a>"

theorem read_writtenPage : Document.read none writtenPage = .ok page :=
  eq_ok_of_toOption (by decide +kernel)

end Reproduction

open Reproduction in
/-- No depth is enough for the page, so that its expansion does not end. -/
theorem not_ends_page :
    Document.read none writtenPage = .ok page
      ∧ (∀ depth, reader.expandWithin depth page = .error .tooDeep) ∧ ¬ reader.Ends page := by
  have answers : reader.resolver.Answers := Resolver.answers_memory .empty
  have diverges : reader.Diverges (.walk page, initialStack page) :=
    reader.diverges_of_reflTransGen answers reached_copies diverges_copies
  refine ⟨read_writtenPage, fun depth => ?_, fun ends => ?_⟩
  · have deep : reader.carryOut depth (.walk page) (initialStack page) = .error .tooDeep :=
      diverges depth
    rw [expandWithin_eq, deep]
    rfl
  · exact (reader.ends_iff_not_diverges answers).mp ends diverges

end Includer

end Transclusion
