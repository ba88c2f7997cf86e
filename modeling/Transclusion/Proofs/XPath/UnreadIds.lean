import Transclusion.Proofs.Outcome
import Transclusion.Proofs.XPath.NodesButIds
import Transclusion.Proofs.XPath.PathComposition
/-!
# Expressions that overlook `xml:id`s

An expression can look at an `xml:id` in two ways: by the function `id`, and by a step to attributes
with a test that an `xml:id` passes.  Evaluated for a node, it overlooks some `xml:id`s
(`Expr.Overlooks`) if the words that it looks for with `id` are not among them, and if its steps
come to none of them, unless the attributes are only compared with texts that are not among them, as
in `@xml:id = 'inner'`.

What it comes to is read off the evaluation itself, so that all that is never evaluated does not
count.

An expression that overlooks the hidden `xml:id`s has the same value over nodes that are the same
but for these, and fails with the same error: `Expr.eval_agree`.
-/

namespace Transclusion.XPath

/-! ### Looking at an `xml:id` -/

/-- A condition holds for each of the nodes from the position `position` on, out of `size` nodes. -/
def EachFrom (holds : Context → Prop) (size : Nat) : Nat → List NodeRef → Prop
  | _, [] => True
  | position, node :: rest =>
    holds ⟨node, position, size⟩ ∧ EachFrom holds size (position + 1) rest

/-- The left operand alone decides. -/
def BinaryOp.isDecidedBy (op : BinaryOp) (left : Value) : Bool :=
  op = .or_ && left.toBoolean || op = .and_ && !left.toBoolean

/-- The value is a text or a set of nodes, and no text in it is among these. -/
def Value.Avoids (ns : NodeList) (ids : List String) : Value → Prop
  | string text => text ∉ ids
  | nodeSet nodes => ∀ node ∈ nodes, node.stringValue ns ∉ ids
  | boolean _ | number _ => False

/-- A step to attributes without predicates. -/
def Step.IsBareAttribute : Step → Prop
  | .mk axis _ predicates => axis = .attribute_ ∧ predicates = []

mutual

/-- Evaluated for a node, the expression looks for no hidden id by the function `id`, and it comes
to no hidden `xml:id` but to compare its value with texts that are not hidden. -/
def Expr.Overlooks (env : Environment) (hidden : HiddenIds) (context : Context) : Expr → Prop
  | .number _ | .literal _ => True
  | .negate operand => operand.Overlooks env hidden context
  | .binary op left right =>
    (left.Overlooks env hidden context ∧ ∀ l, left.eval env context = .ok l →
        op.isDecidedBy l = false → right.Overlooks env hidden context)
      ∨ (op = .equal ∧ left.EndsAtAttributes env hidden context
        ∧ right.Overlooks env hidden context
        ∧ ∀ r, right.eval env context = .ok r → r.Avoids env.nodes hidden.ids)
      ∨ op = .equal ∧ left.Overlooks env hidden context
        ∧ (∀ l, left.eval env context = .ok l → l.Avoids env.nodes hidden.ids)
        ∧ right.EndsAtAttributes env hidden context
  | .union left right =>
    left.Overlooks env hidden context
      ∧ ∀ l, left.eval env context = .ok l → right.Overlooks env hidden context
  | .call name arguments =>
    ∀ f, Function.select name arguments.length = .ok f →
      Expr.AllOverlook env hidden context arguments
        ∧ (f = .id → ∀ values, Expr.evalAll env context arguments = .ok values →
          ∀ x ∈ Function.idsOf env.nodes (values.head?.getD default), x ∉ hidden.ids)
  | .path absolute steps =>
    Step.AllOverlook env hidden steps [if absolute then .node 0 else context.node]
  | .filter primary predicates steps =>
    primary.Overlooks env hidden context
      ∧ ∀ nodes, primary.eval env context = .ok (.nodeSet nodes) →
        Expr.PredicatesOverlook env hidden predicates nodes
          ∧ ∀ kept, Expr.filterAll env predicates nodes = .ok kept →
            Step.AllOverlook env hidden steps kept

/-- The expression is a path to attributes, and overlooks what is hidden up to its last step. -/
def Expr.EndsAtAttributes (env : Environment) (hidden : HiddenIds) (context : Context) :
    Expr → Prop
  | .path absolute steps =>
    Step.EndAtAttributes env hidden steps [if absolute then .node 0 else context.node]
  | .filter primary predicates steps =>
    primary.Overlooks env hidden context
      ∧ ∀ nodes, primary.eval env context = .ok (.nodeSet nodes) →
        Expr.PredicatesOverlook env hidden predicates nodes
          ∧ ∀ kept, Expr.filterAll env predicates nodes = .ok kept →
            Step.EndAtAttributes env hidden steps kept
  | _ => False

def Expr.AllOverlook (env : Environment) (hidden : HiddenIds) (context : Context) :
    List Expr → Prop
  | [] => True
  | e :: rest =>
    e.Overlooks env hidden context
      ∧ ∀ value, e.eval env context = .ok value → Expr.AllOverlook env hidden context rest

/-- Predicates, each applied to what the ones before it have kept. -/
def Expr.PredicatesOverlook (env : Environment) (hidden : HiddenIds) :
    List Expr → List NodeRef → Prop
  | [], _ => True
  | predicate :: rest, nodes =>
    EachFrom (fun context => predicate.Overlooks env hidden context) nodes.length 1 nodes
      ∧ ∀ kept, filterNodes (fun context => predicate.eval env context) nodes = .ok kept →
        Expr.PredicatesOverlook env hidden rest kept

/-- A step from these nodes. -/
def Step.Overlooks (env : Environment) (hidden : HiddenIds) : Step → List NodeRef → Prop
  | .mk axis test predicates, nodes =>
    ∀ resolved, test.resolve env.bindings = .ok resolved → ∀ node ∈ nodes,
      (axis = .attribute_ → resolved.acceptsName (.xml "id") = true → ¬ hidden.owners node.owner)
        ∧ ∀ found, candidates env axis resolved node = .ok found →
          Expr.PredicatesOverlook env hidden predicates found

def Step.AllOverlook (env : Environment) (hidden : HiddenIds) : List Step → List NodeRef → Prop
  | [], _ => True
  | step :: rest, nodes =>
    step.Overlooks env hidden nodes
      ∧ ∀ found, step.eval env nodes = .ok found → Step.AllOverlook env hidden rest found

/-- Steps that overlook what is hidden, and then one to attributes. -/
def Step.EndAtAttributes (env : Environment) (hidden : HiddenIds) :
    List Step → List NodeRef → Prop
  | [], _ => False
  | step :: rest, nodes =>
    (rest = [] ∧ step.IsBareAttribute)
      ∨ step.Overlooks env hidden nodes
        ∧ ∀ found, step.eval env nodes = .ok found → Step.EndAtAttributes env hidden rest found

end

/-- A call of `id` with a literal looks for the words in it. -/
theorem Expr.overlooks_idCall {env : Environment} {hidden : HiddenIds} {context : Context}
    {x : String} (words : ∀ w ∈ (Text.words x.toList).map String.ofList, w ∉ hidden.ids) :
    (Expr.call "id" [.literal x]).Overlooks env hidden context := by
  rw [Expr.Overlooks]
  rintro f ⟨⟩
  refine ⟨⟨trivial, fun _ _ => trivial⟩, fun _ values evaluated w looked => ?_⟩
  cases evaluated
  exact words w (by simpa [Function.idsOf, Value.toText] using looked)

/-! ### Values -/

theorem Value.eq_nodeSet_of_toNodes {v : Value} {nodes : List NodeRef}
    (h : v.toNodes = .ok nodes) : v = nodeSet nodes := by
  cases v with
  | nodeSet => exact congrArg nodeSet (Except.ok.inj h)
  | boolean | number | string => cases h

/-- The same value; of sets, one of the same nodes. -/
inductive Value.Same (ns ns' : NodeList) : Value → Value → Prop where
  | nodeSet {nodes nodes' : List NodeRef} (h : List.Forall₂ (SameRef ns ns') nodes nodes') :
      Same ns ns' (nodeSet nodes) (nodeSet nodes')
  | boolean (value : Bool) : Same ns ns' (boolean value) (boolean value)
  | number (value : Float) : Same ns ns' (number value) (number value)
  | string (text : String) : Same ns ns' (string text) (string text)

/-- The same node in the same place. -/
structure Context.Same (ns ns' : NodeList) (c c' : Context) : Prop where
  node : SameRef ns ns' c.node c'.node
  position : c'.position = c.position
  size : c'.size = c.size

/-- A path starts at the same node. -/
theorem Context.Same.start {ns ns' : NodeList} {c c' : Context} (hc : Context.Same ns ns' c c')
    (absolute : Bool) : SameRef ns ns' (if absolute then .node 0 else c.node)
      (if absolute then .node 0 else c'.node) := by
  split
  · exact .node 0
  · exact hc.node

section

variable {ns ns' : NodeList} (same : ns.SameButIds ns') {v v' w w' : Value}

include same

omit same in
/-- What is alike of each node or value is alike of lists of them. -/
theorem map_eq_of_forall₂ {α β : Type} {rel : α → α → Prop} {xs ys : List α}
    (h : List.Forall₂ rel xs ys) {f g : α → β} (each : ∀ x y, rel x y → g y = f x) :
    ys.map g = xs.map f := by
  induction h with
  | nil => rfl
  | cons first _ ih => rw [List.map_cons, List.map_cons, ih, each _ _ first]

theorem map_stringValue_eq {nodes nodes' : List NodeRef}
    (h : List.Forall₂ (SameRef ns ns') nodes nodes') :
    nodes'.map (·.stringValue ns') = nodes.map (·.stringValue ns) :=
  map_eq_of_forall₂ h fun _ _ node => node.stringValue_eq same

namespace Value.Same

omit same in
theorem toBoolean_eq (h : Value.Same ns ns' v v') : v'.toBoolean = v.toBoolean := by
  cases h with
  | nodeSet h => cases h <;> rfl
  | _ => rfl

theorem toText_eq (h : Value.Same ns ns' v v') : v'.toText ns' = v.toText ns := by
  cases h with
  | nodeSet h =>
    cases h with
    | nil => rfl
    | cons first _ => exact first.stringValue_eq same
  | _ => rfl

theorem toNumber_eq (h : Value.Same ns ns' v v') : v'.toNumber ns' = v.toNumber ns := by
  have text := h.toText_eq same
  cases h with
  | nodeSet h => exact congrArg numberOfText text
  | _ => rfl

omit same in
theorem toNodes_agree (h : Value.Same ns ns' v v') :
    Agree (List.Forall₂ (SameRef ns ns')) v.toNodes v'.toNodes := by
  cases h with
  | nodeSet h => exact .ok h
  | _ => exact .error _

theorem compareAtoms_eq (hv : Value.Same ns ns' v v') (hw : Value.Same ns ns' w w')
    (op : BinaryOp) : compareAtoms ns' op v' w' = compareAtoms ns op v w := by
  have equal : equalAtoms ns' v' w' = equalAtoms ns v w := by
    have texts := congrArg₂ (· == ·) (hv.toText_eq same) (hw.toText_eq same)
    have numbers := congrArg₂ (· == ·) (hv.toNumber_eq same) (hw.toNumber_eq same)
    have truths := congrArg₂ (· == ·) hv.toBoolean_eq hw.toBoolean_eq
    cases hv <;> cases hw <;> first | exact truths | exact numbers | exact texts
  unfold compareAtoms
  rw [equal, hv.toNumber_eq same, hw.toNumber_eq same]

theorem compareValues_eq (hv : Value.Same ns ns' v v') (hw : Value.Same ns ns' w w')
    (op : BinaryOp) : compareValues ns' op v' w' = compareValues ns op v w := by
  -- Nodes are compared by their texts, and those are the same.
  have texts : ∀ {nodes nodes' : List NodeRef} {p p' : Value → Bool},
      List.Forall₂ (SameRef ns ns') nodes nodes' → (∀ s, p' (.string s) = p (.string s)) →
        (nodes'.map fun node => Value.string (node.stringValue ns')).any p'
          = (nodes.map fun node => Value.string (node.stringValue ns)).any p := by
    intro nodes nodes' p p' h alike
    have strings := congrArg (List.any · fun s => p (.string s)) (map_stringValue_eq same h)
    simpa only [List.any_map, Function.comp_def, alike] using strings
  have atoms := compareAtoms_eq same hv hw op
  have truths : compareAtoms ns' op (.boolean v'.toBoolean) (.boolean w'.toBoolean)
      = compareAtoms ns op (.boolean v.toBoolean) (.boolean w.toBoolean) := by
    rw [hv.toBoolean_eq, hw.toBoolean_eq]
    exact compareAtoms_eq same (.boolean _) (.boolean _) op
  have compares := fun {x y} (hx : Value.Same ns ns' x x) (hy : Value.Same ns ns' y y) =>
    compareAtoms_eq same hx hy op
  cases hv with
  | nodeSet a =>
    cases hw with
    | nodeSet b => exact texts a fun s => texts b fun t => compares (.string s) (.string t)
    | boolean => exact truths
    | number n => exact texts a fun s => compares (.string s) (.number n)
    | string t => exact texts a fun s => compares (.string s) (.string t)
  | boolean =>
    cases hw with
    | nodeSet => exact truths
    | _ => exact atoms
  | number n =>
    cases hw with
    | nodeSet b => exact texts b fun t => compares (.number n) (.string t)
    | _ => exact atoms
  | string s =>
    cases hw with
    | nodeSet b => exact texts b fun t => compares (.string s) (.string t)
    | _ => exact atoms

end Value.Same

/-! ### Functions -/

omit same in
theorem map_eq_of_rel {α : Type} {value value' : Option Value}
    (h : Option.Rel (Value.Same ns ns') value value') {f g : Value → α}
    (each : ∀ v v', Value.Same ns ns' v v' → g v' = f v) : value'.map g = value.map f := by
  cases h with
  | none => rfl
  | some related => exact congrArg some (each _ _ related)

section

variable {c c' : Context} (hc : Context.Same ns ns' c c') {arguments arguments' : List Value}
  (hs : List.Forall₂ (Value.Same ns ns') arguments arguments')

omit same in
include hs in
theorem argument_same (i : Nat) :
    Option.Rel (Value.Same ns ns') arguments[i]? arguments'[i]? := by
  induction hs generalizing i with
  | nil => exact .none
  | cons first _ ih =>
    cases i with
    | zero => exact .some first
    | succ i => exact ih i

include hc in
theorem textArgument_eq {argument argument' : Option Value}
    (h : Option.Rel (Value.Same ns ns') argument argument') :
    Function.textArgument ns' c' argument' = Function.textArgument ns c argument := by
  cases h with
  | none => exact hc.node.stringValue_eq same
  | some value => exact value.toText_eq same

include hc in
theorem nameArgument_agree {argument argument' : Option Value}
    (h : Option.Rel (Value.Same ns ns') argument argument') :
    Agree Eq (Function.nameArgument ns c argument) (Function.nameArgument ns' c' argument') := by
  cases h with
  | none => exact .ok (hc.node.name?_eq same).symm
  | some value =>
    refine value.toNodes_agree.bind fun nodes nodes' h => .ok ?_
    cases h with
    | nil => rfl
    | cons first _ => exact (first.name?_eq same).symm

/-- The words that `id` looks for are the same. -/
theorem Function.idsOf_eq {v v' : Value} (h : Value.Same ns ns' v v') :
    idsOf ns' v' = idsOf ns v := by
  have text := h.toText_eq same
  unfold idsOf
  cases h with
  | nodeSet h =>
    dsimp only
    rw [map_stringValue_eq same h]
  | boolean | number | string =>
    dsimp only at text ⊢
    rw [text]

include hc hs

/-- A function has the same value, if `id` finds the same elements. -/
theorem Function.apply_agree {f : Function} (found : f = .id →
      ∀ x ∈ idsOf ns (arguments.head?.getD default), ns'.elementWithId? x = ns.elementWithId? x) :
    Agree (Value.Same ns ns') (f.apply ns c arguments) (f.apply ns' c' arguments') := by
  -- Everything that a function looks at is the same on both sides, whichever function it is.
  have first : Option.Rel (Value.Same ns ns') arguments.head? arguments'.head? := by
    rw [List.head?_eq_getElem?, List.head?_eq_getElem?]
    exact argument_same hs 0
  have text := fun i => textArgument_eq same hc (argument_same hs i)
  have numeric := fun i => map_eq_of_rel (argument_same hs i) fun _ _ v => v.toNumber_eq same
  have truth := map_eq_of_rel first fun _ _ v => v.toBoolean_eq
  have texts := map_eq_of_forall₂ hs fun _ _ v => v.toText_eq same
  have nodes : Agree (List.Forall₂ (SameRef ns ns')) (arguments.head?.getD default).toNodes
      (arguments'.head?.getD default).toNodes := by
    generalize arguments.head? = value, arguments'.head? = value' at first
    cases first with
    | none => exact .ok .nil
    | some value => exact value.toNodes_agree
  have name := nameArgument_agree same hc first
  have words : idsOf ns' (arguments'.head?.getD default)
      = idsOf ns (arguments.head?.getD default) := by
    generalize arguments.head? = value, arguments'.head? = value' at first
    cases first with
    | none => rfl
    | some value => exact idsOf_eq same value
  unfold apply
  dsimp only
  simp only [text, numeric, truth, hc.size, hc.position, hs.length_eq]
  cases f with
  | id =>
    rw [words, List.filterMap_congr (found rfl)]
    exact .ok (.nodeSet (canonical_same (nodes_same _)))
  | last | position | stringLength | floor | ceiling | round => exact .ok (.number _)
  | string | substringBefore | substringAfter | substring | normalizeSpace | translate =>
    exact .ok (.string _)
  | startsWith | contains | boolean | not | true_ | false_ => exact .ok (.boolean _)
  | count =>
    refine nodes.bind fun found found' h => ?_
    rw [h.length_eq]
    exact .ok (.number _)
  | sum =>
    refine nodes.bind fun found found' h => ?_
    have numbers := map_eq_of_forall₂ h fun _ _ node =>
      congrArg numberOfText (node.stringValue_eq same)
    rw [numbers]
    exact .ok (.number _)
  | localName | namespaceUri | name =>
    refine name.bind fun found found' h => ?_
    subst h
    exact .ok (.string _)
  | concat =>
    rw [texts]
    exact .ok (.string _)
  | lang =>
    rw [same.lang, hc.node.owner_eq]
    exact .ok (.boolean _)
  | number =>
    generalize arguments.head? = value, arguments'.head? = value' at first
    cases first with
    | none =>
      dsimp only
      rw [hc.node.stringValue_eq same]
      exact .ok (.number _)
    | some value =>
      dsimp only
      rw [value.toNumber_eq same]
      exact .ok (.number _)

end

/-! ### Comparison with texts that are not hidden -/

/-- The texts of a value that is a text or a set of nodes. -/
def Value.texts (ns : NodeList) : Value → List String
  | string text => [text]
  | nodeSet nodes => nodes.map (·.stringValue ns)
  | boolean _ | number _ => []

omit same in
theorem Value.Avoids.not_mem {ids : List String} {w : Value} (h : w.Avoids ns ids) :
    ∀ text ∈ w.texts ns, text ∉ ids := by
  cases w with
  | string text => exact List.forall_mem_singleton.mpr h
  | nodeSet nodes => exact List.forall_mem_map.mpr h
  | boolean | number => exact nofun

omit same in
theorem compareAtoms_string (ns : NodeList) (s t : String) :
    compareAtoms ns .equal (.string s) (.string t) = true ↔ s = t :=
  beq_iff_eq

omit same in
/-- Nodes are equal to a value with which they have a text in common, in either order. -/
theorem compareValues_equal_iff {ids : List String} {w : Value} (h : w.Avoids ns ids)
    (nodes : List NodeRef) :
    (compareValues ns .equal (.nodeSet nodes) w = true
        ↔ ∃ text ∈ w.texts ns, ∃ a ∈ nodes, a.stringValue ns = text)
      ∧ (compareValues ns .equal w (.nodeSet nodes) = true
        ↔ ∃ text ∈ w.texts ns, ∃ a ∈ nodes, a.stringValue ns = text) := by
  cases w with
  | string text =>
    simp only [compareValues, Value.texts, List.any_map, List.any_eq_true, Function.comp_apply,
      compareAtoms_string, List.mem_singleton, exists_eq_left]
    simp only [eq_comm, and_self]
  | nodeSet others =>
    simp only [compareValues, Value.texts, List.any_map, List.any_eq_true, Function.comp_apply,
      compareAtoms_string, List.mem_map, exists_exists_and_eq_and]
    constructor
    · exact ⟨fun ⟨a, ha, b, hb, same⟩ => ⟨b, hb, a, ha, same⟩,
        fun ⟨b, hb, a, ha, same⟩ => ⟨a, ha, b, hb, same⟩⟩
    · simp only [eq_comm]
  | boolean | number => exact absurd h id

/-- Nodes whose texts are the same, apart from hidden ones. -/
def SameShown (hidden : HiddenIds) (ns ns' : NodeList) (nodes nodes' : List NodeRef) : Prop :=
  ∀ text, text ∉ hidden.ids →
    ((∃ a ∈ nodes', a.stringValue ns' = text) ↔ ∃ a ∈ nodes, a.stringValue ns = text)

theorem Value.Same.texts_eq (h : Value.Same ns ns' w w') : w'.texts ns' = w.texts ns := by
  cases h with
  | nodeSet h => exact map_stringValue_eq same h
  | boolean | number | string => rfl

theorem Value.Same.avoids {ids : List String} (h : Value.Same ns ns' w w')
    (avoids : w.Avoids ns ids) : w'.Avoids ns' ids := by
  cases h with
  | nodeSet h =>
    intro node' hnode'
    have text := List.mem_map_of_mem (f := (·.stringValue ns')) hnode'
    rw [map_stringValue_eq same h] at text
    obtain ⟨node, hnode, value⟩ := List.mem_map.mp text
    exact value ▸ avoids node hnode
  | boolean | number | string => exact avoids

/-- What is hidden does not matter to a comparison with texts that are not. -/
theorem SameShown.compareValues_eq {hidden : HiddenIds} {nodes nodes' : List NodeRef}
    (h : SameShown hidden ns ns' nodes nodes') (hw : Value.Same ns ns' w w')
    (avoids : w.Avoids ns hidden.ids) :
    compareValues ns' .equal (.nodeSet nodes') w' = compareValues ns .equal (.nodeSet nodes) w
      ∧ compareValues ns' .equal w' (.nodeSet nodes')
        = compareValues ns .equal w (.nodeSet nodes) := by
  have avoids' := hw.avoids same avoids
  have alike : (∃ text ∈ w.texts ns, ∃ a ∈ nodes', a.stringValue ns' = text)
      ↔ ∃ text ∈ w.texts ns, ∃ a ∈ nodes, a.stringValue ns = text :=
    exists_congr fun text => and_congr_right fun here => h text (avoids.not_mem text here)
  have before := compareValues_equal_iff avoids nodes
  have after := compareValues_equal_iff avoids' nodes'
  rw [hw.texts_eq same] at after
  constructor
  · rw [Bool.eq_iff_iff, before.1, after.1, alike]
  · rw [Bool.eq_iff_iff, before.2, after.2, alike]

/-! ### Evaluation -/

omit same in
theorem keeps_eq (h : Value.Same ns ns' v v') (position : Nat) :
    keeps v' position = keeps v position := by
  have truth := h.toBoolean_eq
  cases h with
  | nodeSet => exact truth
  | _ => rfl

omit same in
/-- A predicate keeps the same nodes. -/
theorem filterFrom_agree {predicate predicate' : Context → Except XPathError Value}
    {holds : Context → Prop} (agree : ∀ c c', holds c → Context.Same ns ns' c c' →
      Agree (Value.Same ns ns') (predicate c) (predicate' c'))
    {nodes nodes' : List NodeRef} (h : List.Forall₂ (SameRef ns ns') nodes nodes') (size : Nat)
    {position : Nat} (each : EachFrom holds size position nodes) :
    Agree (List.Forall₂ (SameRef ns ns')) (filterFrom predicate size position nodes)
      (filterFrom predicate' size position nodes') := by
  induction h generalizing position with
  | nil => exact .ok .nil
  | cons first _ ih =>
    rw [filterFrom, filterFrom]
    have here := agree ⟨_, position, size⟩ ⟨_, position, size⟩ each.1 ⟨first, rfl, rfl⟩
    refine here.bind fun v v' value => ?_
    refine (ih each.2).bind fun kept kept' behind => .ok ?_
    rw [keeps_eq value]
    split
    · exact .cons first behind
    · exact behind

end

section

variable {hidden : HiddenIds} {ns ns' : NodeList} (same : ns.SameButHidden hidden ns')
  {bindings : Bindings}

include same

theorem candidates_agree {axis : Axis} {test : ResolvedTest} {a a' : NodeRef}
    (h : SameRef ns ns' a a') (overlooks : axis = .attribute_ →
      test.acceptsName (.xml "id") = true → ¬ hidden.owners a.owner) :
    Agree (List.Forall₂ (SameRef ns ns')) (candidates ⟨ns, bindings⟩ axis test a)
      (candidates ⟨ns', bindings⟩ axis test a') := by
  refine agree_ite (fun _ => .error _) fun _ => .ok (step_same same.toSameButIds h ?_)
  exact fun attributes accepts e e' here there =>
    same.eq_of_not_hidden here there (overlooks attributes accepts)

omit same in
theorem unionOver_agree {select select' : NodeRef → Except XPathError (List NodeRef)}
    {nodes nodes' : List NodeRef} (h : List.Forall₂ (SameRef ns ns') nodes nodes')
    (agree : ∀ a ∈ nodes, ∀ a', SameRef ns ns' a a' →
      Agree (List.Forall₂ (SameRef ns ns')) (select a) (select' a')) :
    Agree (List.Forall₂ (SameRef ns ns')) (unionOver select nodes) (unionOver select' nodes') := by
  have members :=
    (List.forall₂_and_left (p := (· ∈ nodes)) nodes nodes').mpr ⟨fun _ here => here, h⟩
  have found := agree_mapM members fun a a' here => agree a here.1 a' here.2
  exact found.bind fun _ _ found => .ok (canonical_same (List.rel_flatten found))

/-- The attributes that a test accepts have the same texts, apart from hidden ones. -/
theorem attributes_shown {nodes nodes' : List NodeRef}
    (h : List.Forall₂ (SameRef ns ns') nodes nodes') (test : ResolvedTest) {text : String}
    (shown : text ∉ hidden.ids) :
    (∃ n ∈ nodes', ∃ a ∈ (axisNodes ns' .attribute_ n).filter (test.accepts ns' .attribute_ ·),
        a.stringValue ns' = text)
      ↔ ∃ n ∈ nodes, ∃ a ∈ (axisNodes ns .attribute_ n).filter (test.accepts ns .attribute_ ·),
        a.stringValue ns = text := by
  have nothing : ∀ p : NodeRef → Prop, ¬ ∃ a ∈ ([] : List NodeRef), p a := by
    rintro p ⟨a, ha, -⟩
    exact List.not_mem_nil ha
  have each : ∀ n n', SameRef ns ns' n n' →
      ((∃ a ∈ (axisNodes ns' .attribute_ n').filter (test.accepts ns' .attribute_ ·),
          a.stringValue ns' = text)
        ↔ ∃ a ∈ (axisNodes ns .attribute_ n).filter (test.accepts ns .attribute_ ·),
          a.stringValue ns = text) := by
    intro n n' alike
    cases alike with
    | attribute_ => exact iff_of_false (nothing _) (nothing _)
    | node id =>
      cases here : ns.element? id with
      | none =>
        rw [axisNodes, axisNodes, here, same.element?_eq_none here]
        exact iff_of_false (nothing _) (nothing _)
      | some e =>
        obtain ⟨e', there, -⟩ := same.exists_element here
        rw [exists_accepted_iff here, exists_accepted_iff there]
        exact exists_congr fun name => and_congr_left fun _ =>
          same.mem_entries_iff here there shown
  induction h with
  | nil => exact iff_of_false (nothing _) (nothing _)
  | cons first _ ih => simp only [List.exists_mem_cons_iff, ih, each _ _ first]

omit same in
/-- What is among the nodes that a union is made of. -/
theorem exists_mem_unionOver_iff {select : NodeRef → Except XPathError (List NodeRef)}
    {part : NodeRef → List NodeRef} (each : ∀ n, select n = .ok (part n))
    {nodes refs : List NodeRef} (h : unionOver select nodes = .ok refs) {p : NodeRef → Prop} :
    (∃ a ∈ refs, p a) ↔ ∃ n ∈ nodes, ∃ a ∈ part n, p a := by
  simp only [mem_unionOver_iff h, each, Except.ok.injEq, exists_eq_left']
  constructor
  · rintro ⟨a, ⟨n, hn, ha⟩, pa⟩
    exact ⟨n, hn, a, ha, pa⟩
  · rintro ⟨n, hn, a, ha, pa⟩
    exact ⟨a, ⟨n, hn, ha⟩, pa⟩

/-- A step to attributes leads to the same texts, apart from hidden ones. -/
theorem Step.bareAttribute_agree {step : Step} (bare : step.IsBareAttribute)
    {nodes nodes' : List NodeRef} (h : List.Forall₂ (SameRef ns ns') nodes nodes') :
    Agree (SameShown hidden ns ns') (step.eval ⟨ns, bindings⟩ nodes)
      (step.eval ⟨ns', bindings⟩ nodes') := by
  obtain ⟨axis, test, predicates⟩ := step
  obtain ⟨rfl, rfl⟩ := bare
  rw [Step.eval, Step.eval]
  cases test.resolve bindings with
  | error e => exact .error e
  | ok resolved =>
    have each : ∀ (ns : NodeList) (n : NodeRef),
        (candidates ⟨ns, bindings⟩ .attribute_ resolved n >>= Expr.filterAll ⟨ns, bindings⟩ [])
          = .ok ((axisNodes ns .attribute_ n).filter (resolved.accepts ns .attribute_ ·)) := by
      intro ns n
      rw [candidates, if_neg (by decide)]
      rfl
    obtain ⟨found, union⟩ := exists_unionOver_iff.mpr fun n (_ : n ∈ nodes) => ⟨_, each ns n⟩
    obtain ⟨found', union'⟩ := exists_unionOver_iff.mpr fun n (_ : n ∈ nodes') => ⟨_, each ns' n⟩
    show Agree _ (unionOver _ nodes) (unionOver _ nodes')
    rw [union, union']
    refine .ok fun text shown => ?_
    rw [exists_mem_unionOver_iff (each ns') union', exists_mem_unionOver_iff (each ns) union]
    exact attributes_shown same h resolved shown

end

variable {hidden : HiddenIds} {ns ns' : NodeList} {bindings : Bindings}

mutual

/-- **An expression that overlooks the hidden `xml:id`s has the same value** over nodes that are the
same but for these, or fails with the same error. -/
theorem Expr.eval_agree (same : ns.SameButHidden hidden ns') (e : Expr) {c c' : Context}
    (overlooks : e.Overlooks ⟨ns, bindings⟩ hidden c) (hc : Context.Same ns ns' c c') :
    Agree (Value.Same ns ns') (e.eval ⟨ns, bindings⟩ c) (e.eval ⟨ns', bindings⟩ c') := by
  have alike := same.toSameButIds
  match e with
  | .number value => exact .ok (.number value)
  | .literal text => exact .ok (.string text)
  | .negate operand =>
    rw [Expr.Overlooks] at overlooks
    rw [Expr.eval, Expr.eval]
    refine (Expr.eval_agree same operand overlooks hc).bind fun v v' h => ?_
    dsimp only
    rw [h.toNumber_eq alike]
    exact .ok (.number _)
  | .binary op left right =>
    rw [Expr.Overlooks] at overlooks
    rw [Expr.eval, Expr.eval]
    obtain ⟨first, second⟩ | ⟨rfl, first, second, avoids⟩ | ⟨rfl, first, avoids, second⟩ :=
      overlooks
    · refine (Expr.eval_agree same left first hc).bind_of_ok fun l l' here hl => ?_
      dsimp only
      rw [hl.toBoolean_eq]
      -- What the left operand decides alone comes first, so the right one may fail unseen.
      refine agree_ite (fun _ => .ok (.boolean true)) fun notOr => ?_
      refine agree_ite (fun _ => .ok (.boolean false)) fun notAnd => ?_
      have open_ : op.isDecidedBy l = false := by
        rw [BinaryOp.isDecidedBy, Bool.or_eq_false_iff]
        exact ⟨by simpa using notOr, by simpa using notAnd⟩
      refine (Expr.eval_agree same right (second l here open_) hc).bind fun r r' hr => ?_
      rw [hr.toBoolean_eq, hl.toNumber_eq alike, hr.toNumber_eq alike, hl.compareValues_eq alike hr]
      refine agree_ite (fun _ => .ok (.boolean _)) fun _ => ?_
      exact agree_ite (fun _ => .ok (.number _)) fun _ => .ok (.boolean _)
    · refine (Expr.evalToAttributes_agree same left first hc).bind fun l l' hl => ?_
      obtain ⟨nodes, nodes', rfl, rfl, hl⟩ := hl
      refine (Expr.eval_agree same right second hc).bind_of_ok fun r r' here hr => ?_
      have compared := (hl.compareValues_eq alike hr (avoids r here)).1
      show Agree _ (.ok (Value.boolean _)) (.ok (Value.boolean _))
      rw [compared]
      exact .ok (.boolean _)
    · refine (Expr.eval_agree same left first hc).bind_of_ok fun l l' here hl => ?_
      refine (Expr.evalToAttributes_agree same right second hc).bind fun r r' hr => ?_
      obtain ⟨nodes, nodes', rfl, rfl, hr⟩ := hr
      have compared := (hr.compareValues_eq alike hl (avoids l here)).2
      show Agree _ (.ok (Value.boolean _)) (.ok (Value.boolean _))
      rw [compared]
      exact .ok (.boolean _)
  | .union left right =>
    rw [Expr.Overlooks] at overlooks
    rw [Expr.eval, Expr.eval]
    refine (Expr.eval_agree same left overlooks.1 hc).bind_of_ok fun l l' here hl => ?_
    refine hl.toNodes_agree.bind fun nodes nodes' h => ?_
    refine (Expr.eval_agree same right (overlooks.2 l here) hc).bind fun r r' hr => ?_
    refine hr.toNodes_agree.bind fun others others' h' => .ok (.nodeSet ?_)
    exact canonical_same (List.rel_append h h')
  | .call name arguments =>
    rw [Expr.Overlooks] at overlooks
    rw [Expr.eval, Expr.eval]
    cases selected : Function.select name arguments.length with
    | error e => exact .error e
    | ok f =>
      obtain ⟨each, words⟩ := overlooks f selected
      refine (Expr.evalAll_agree same arguments each hc).bind_of_ok fun values values' here hs => ?_
      refine Function.apply_agree alike hc hs fun isId x word => ?_
      exact same.elementWithId?_eq (words isId values here x word)
  | .path absolute steps =>
    rw [Expr.Overlooks] at overlooks
    rw [Expr.eval, Expr.eval]
    have found := Step.evalAll_agree same steps overlooks (.cons (hc.start absolute) .nil)
    exact found.bind fun _ _ h => .ok (.nodeSet h)
  | .filter primary predicates steps =>
    rw [Expr.Overlooks] at overlooks
    rw [Expr.eval, Expr.eval]
    refine (Expr.eval_agree same primary overlooks.1 hc).bind_of_ok fun v v' here hv => ?_
    refine hv.toNodes_agree.bind_of_ok fun nodes nodes' isSet h => ?_
    have nodeSet := here.trans (congrArg Except.ok (Value.eq_nodeSet_of_toNodes isSet))
    obtain ⟨each, behind⟩ := overlooks.2 nodes nodeSet
    refine (Expr.filterAll_agree same predicates each h).bind_of_ok fun kept kept' here h => ?_
    exact (Step.evalAll_agree same steps (behind kept here) h).bind fun _ _ h => .ok (.nodeSet h)

/-- A path to attributes leads to the same texts, apart from hidden ones. -/
theorem Expr.evalToAttributes_agree (same : ns.SameButHidden hidden ns') (e : Expr)
    {c c' : Context} (ends : e.EndsAtAttributes ⟨ns, bindings⟩ hidden c)
    (hc : Context.Same ns ns' c c') :
    Agree (fun v v' => ∃ nodes nodes', v = .nodeSet nodes ∧ v' = .nodeSet nodes'
        ∧ SameShown hidden ns ns' nodes nodes')
      (e.eval ⟨ns, bindings⟩ c) (e.eval ⟨ns', bindings⟩ c') := by
  match e with
  | .path absolute steps =>
    rw [Expr.EndsAtAttributes] at ends
    rw [Expr.eval, Expr.eval]
    have found := Step.evalToAttributes_agree same steps ends (.cons (hc.start absolute) .nil)
    exact found.bind fun _ _ h => .ok ⟨_, _, rfl, rfl, h⟩
  | .filter primary predicates steps =>
    rw [Expr.EndsAtAttributes] at ends
    rw [Expr.eval, Expr.eval]
    refine (Expr.eval_agree same primary ends.1 hc).bind_of_ok fun v v' here hv => ?_
    refine hv.toNodes_agree.bind_of_ok fun nodes nodes' isSet h => ?_
    have nodeSet := here.trans (congrArg Except.ok (Value.eq_nodeSet_of_toNodes isSet))
    obtain ⟨each, behind⟩ := ends.2 nodes nodeSet
    refine (Expr.filterAll_agree same predicates each h).bind_of_ok fun kept kept' here h => ?_
    refine (Step.evalToAttributes_agree same steps (behind kept here) h).bind fun _ _ h => ?_
    exact .ok ⟨_, _, rfl, rfl, h⟩
  | .number _ | .literal _ | .negate _ | .binary _ _ _ | .union _ _ | .call _ _ =>
    exact absurd ends (by simp [Expr.EndsAtAttributes])

theorem Expr.evalAll_agree (same : ns.SameButHidden hidden ns') (es : List Expr) {c c' : Context}
    (overlook : Expr.AllOverlook ⟨ns, bindings⟩ hidden c es) (hc : Context.Same ns ns' c c') :
    Agree (List.Forall₂ (Value.Same ns ns')) (Expr.evalAll ⟨ns, bindings⟩ c es)
      (Expr.evalAll ⟨ns', bindings⟩ c' es) := by
  match es with
  | [] => exact .ok .nil
  | e :: rest =>
    rw [Expr.AllOverlook] at overlook
    rw [Expr.evalAll, Expr.evalAll]
    refine (Expr.eval_agree same e overlook.1 hc).bind_of_ok fun v v' here first => ?_
    refine (Expr.evalAll_agree same rest (overlook.2 v here) hc).bind fun _ _ behind => ?_
    exact .ok (.cons first behind)

theorem Expr.filterAll_agree (same : ns.SameButHidden hidden ns') (predicates : List Expr)
    {nodes nodes' : List NodeRef}
    (overlook : Expr.PredicatesOverlook ⟨ns, bindings⟩ hidden predicates nodes)
    (h : List.Forall₂ (SameRef ns ns') nodes nodes') :
    Agree (List.Forall₂ (SameRef ns ns')) (Expr.filterAll ⟨ns, bindings⟩ predicates nodes)
      (Expr.filterAll ⟨ns', bindings⟩ predicates nodes') := by
  match predicates with
  | [] => exact .ok h
  | predicate :: rest =>
    rw [Expr.PredicatesOverlook] at overlook
    rw [Expr.filterAll, Expr.filterAll]
    have first : Agree (List.Forall₂ (SameRef ns ns'))
        (filterNodes (fun c => predicate.eval ⟨ns, bindings⟩ c) nodes)
        (filterNodes (fun c => predicate.eval ⟨ns', bindings⟩ c) nodes') := by
      rw [filterNodes, filterNodes, ← h.length_eq]
      exact filterFrom_agree (fun c c' => Expr.eval_agree same predicate) h nodes.length overlook.1
    refine first.bind_of_ok fun kept kept' here h => ?_
    exact Expr.filterAll_agree same rest (overlook.2 kept here) h

theorem Step.eval_agree (same : ns.SameButHidden hidden ns') (step : Step)
    {nodes nodes' : List NodeRef} (overlooks : step.Overlooks ⟨ns, bindings⟩ hidden nodes)
    (h : List.Forall₂ (SameRef ns ns') nodes nodes') :
    Agree (List.Forall₂ (SameRef ns ns')) (step.eval ⟨ns, bindings⟩ nodes)
      (step.eval ⟨ns', bindings⟩ nodes') := by
  match step with
  | .mk axis test predicates =>
    rw [Step.Overlooks] at overlooks
    rw [Step.eval, Step.eval]
    cases resolved : test.resolve bindings with
    | error e => exact .error e
    | ok resolvedTest =>
      refine unionOver_agree h fun a here a' ha => ?_
      obtain ⟨unread, behind⟩ := overlooks resolvedTest resolved a here
      refine (candidates_agree same ha unread).bind_of_ok fun found found' here h => ?_
      exact Expr.filterAll_agree same predicates (behind found here) h

theorem Step.evalAll_agree (same : ns.SameButHidden hidden ns') (steps : List Step)
    {nodes nodes' : List NodeRef}
    (overlook : Step.AllOverlook ⟨ns, bindings⟩ hidden steps nodes)
    (h : List.Forall₂ (SameRef ns ns') nodes nodes') :
    Agree (List.Forall₂ (SameRef ns ns')) (Step.evalAll ⟨ns, bindings⟩ steps nodes)
      (Step.evalAll ⟨ns', bindings⟩ steps nodes') := by
  match steps with
  | [] => exact .ok h
  | step :: rest =>
    rw [Step.AllOverlook] at overlook
    rw [Step.evalAll, Step.evalAll]
    refine (Step.eval_agree same step overlook.1 h).bind_of_ok fun found found' here h => ?_
    exact Step.evalAll_agree same rest (overlook.2 found here) h

theorem Step.evalToAttributes_agree (same : ns.SameButHidden hidden ns') (steps : List Step)
    {nodes nodes' : List NodeRef}
    (ends : Step.EndAtAttributes ⟨ns, bindings⟩ hidden steps nodes)
    (h : List.Forall₂ (SameRef ns ns') nodes nodes') :
    Agree (SameShown hidden ns ns') (Step.evalAll ⟨ns, bindings⟩ steps nodes)
      (Step.evalAll ⟨ns', bindings⟩ steps nodes') := by
  match steps with
  | [] => exact absurd ends (by simp [Step.EndAtAttributes])
  | step :: rest =>
    rw [Step.EndAtAttributes] at ends
    rw [Step.evalAll, Step.evalAll]
    obtain ⟨rfl, bare⟩ | ⟨first, behind⟩ := ends
    · exact (Step.bareAttribute_agree same bare h).bind fun _ _ shown => .ok shown
    · refine (Step.eval_agree same step first h).bind_of_ok fun found found' here h => ?_
      exact Step.evalToAttributes_agree same rest (behind found here) h

end

end Transclusion.XPath
