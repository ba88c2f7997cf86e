import Transclusion.Markup.Equality
import Transclusion.Proofs.Markup.FaithfulCopies
/-!
# Copies last

An element that is copied into a builder stays what it is, whatever steps come after that, so that
it is found in the finished document (`Builder.Holds`).  The nodes of a forest can be read off their
places, as far as it is known where they end (`Forest.eq_of_places_append`).

* `Builder.keeps_after`: what is kept by opening and closing elements and adding leaves is kept by
  all steps.
* `Builder.Holds.subtree?`: an element that a builder holds is found when the document is finished.
* `ArenaBuilder.copies_are_faithful`: so copying never fails, adds what is copied and nothing else,
  and what is copied is the same in the end.
-/

namespace Transclusion

/-! ### Forests read off their places -/

namespace Forest

/-- The nodes behind a forest do not go below `parent`, nor into a node after it. -/
def EndsBelow (parent : Nat) (after : List Place) : Prop :=
  ∀ place ∈ after.head?, ∃ q, place.parent = some q ∧ q < parent

theorem EndsBelow.places_append {parent first : Nat} {after : List Place}
    (ends : EndsBelow parent after) (f : Forest) (m : Nat) (below : parent < first) :
    EndsBelow first (f.places parent m ++ after) := by
  intro place hplace
  cases f with
  | nil =>
    obtain ⟨q, hq, lt⟩ := ends place hplace
    exact ⟨q, hq, lt.trans below⟩
  | leaf l rest =>
    cases hplace
    exact ⟨parent, rfl, below⟩
  | element e content rest =>
    cases hplace
    exact ⟨parent, rfl, below⟩

theorem EndsBelow.ne_cons {parent : Nat} {kind : NodeKind} {after places : List Place}
    (ends : EndsBelow parent after) : after ≠ ⟨kind, some parent⟩ :: places := by
  rintro rfl
  obtain ⟨q, hq, lt⟩ := ends _ rfl
  cases hq
  exact lt.false

/-- **A forest can be read off its places**, up to the first node that goes elsewhere. -/
theorem eq_of_places_append {f g : Forest} {parent first : Nat} {after after' : List Place}
    (below : parent < first)
    (same : f.places parent first ++ after = g.places parent first ++ after')
    (ends : EndsBelow parent after) (ends' : EndsBelow parent after') : f = g := by
  induction f generalizing g parent first after after' with
  | nil =>
    cases g with
    | nil => rfl
    | leaf | element => exact absurd same ends.ne_cons
  | leaf l rest ih =>
    cases g with
    | nil => exact absurd same.symm ends'.ne_cons
    | leaf l' rest' =>
      obtain ⟨head, behind⟩ := List.cons.inj same
      cases head
      rw [ih (Nat.lt_succ_of_lt below) behind ends ends']
    | element e' content' rest' => cases (List.cons.inj same).1
  | element e content rest ihc ihr =>
    cases g with
    | nil => exact absurd same.symm ends'.ne_cons
    | leaf l' rest' => cases (List.cons.inj same).1
    | element e' content' rest' =>
      rw [places_element, places_element, List.cons_append, List.cons_append, List.append_assoc,
        List.cons_append, List.cons_append, List.append_assoc] at same
      obtain ⟨head, behind⟩ := List.cons.inj same
      cases head
      -- The places of the content end where the parent goes back below the element.
      obtain rfl := ihc (Nat.lt_succ_self first) behind (ends.places_append rest _ below)
        (ends'.places_append rest' _ below)
      rw [ihr (by omega) (List.append_cancel_left behind) ends ends']

end Forest

namespace Document

variable {d : Document} {k : Nat} {t : Subtree}

/-- The node behind all that is inside a node goes elsewhere. -/
theorem parent?_behind (h : d.subtree? k = some t) {q : Nat}
    (child : d.nodes.parent? (k + t.size) = some q) : q < k := by
  obtain ⟨after, inside⟩ := NodeList.inside_of_parent? child
  have extent := extent_eq h
  by_contra notBefore
  obtain rfl | lt := Nat.eq_or_lt_of_not_lt notBefore
  · omega
  · have nested := NodeList.extent_nested (d := d) lt (by omega)
    omega

/-- From the place `k` on there come the node `k`, the nodes inside it, and then others. -/
theorem drop_places (h : d.subtree? k = some t) :
    ∃ parent after, d.places.drop k
        = ⟨t.kind, parent⟩ :: t.content.places k (k + 1) ++ after
      ∧ Forest.EndsBelow k after := by
  obtain ⟨parent, after, drop⟩ := drop_nodeList h
  have nodes : d.places = d.nodeList.map fun n => ⟨n.kind, n.parent⟩ := rfl
  refine ⟨parent, after.map fun n => ⟨n.kind, n.parent⟩, ?_, ?_⟩
  · rw [nodes, ← List.map_drop, drop, List.map_append, List.map_cons]
    rfl
  · intro place hplace
    rw [List.head?_map, Option.mem_def, Option.map_eq_some_iff] at hplace
    obtain ⟨n, hn, rfl⟩ := hplace
    have nth : d.nodeList[k + t.size]? = some n := by
      rw [← List.getElem?_drop, drop, Subtree.size,
        List.getElem?_append_right (by simp [Forest.length_nodes])]
      simp [Forest.length_nodes, ← List.head?_eq_getElem?, hn]
    have there : k + t.size < d.size :=
      length_nodeList d ▸ (List.getElem?_eq_some_iff.mp nth).1
    obtain ⟨q, child⟩ := exists_parent? (d := d) (by rw [Subtree.size]; omega) there
    refine ⟨q, ?_, parent?_behind h child⟩
    rwa [NodeList.parent?, nodes_getElem?, nth] at child

end Document

/-! ### What all steps keep -/

namespace Builder

section

variable {p : Builder → Prop} (opens : ∀ b e, p b → p (b.openElement e))
  (closes : ∀ b b', p b → b.closeElement = .ok b' → p b') (adds : ∀ b l, p b → p (b.addLeaf l))

include opens closes adds

theorem keeps_addForest {b : Builder} (h : p b) (f : Forest) : p (b.addForest f) := by
  induction f generalizing b with
  | nil => exact h
  | leaf l rest ih => exact ih (adds b l h)
  | element e content rest ihc ihr =>
    obtain ⟨b₁, closed, same⟩ := b.addForest_element e content rest
    rw [same]
    exact ihr (closes _ b₁ (ihc (opens b e h)) closed)

/-- What is kept by opening and closing elements and adding leaves is kept by all steps. -/
theorem keeps_after {b : Builder} (h : p b) (step : BuildStep) : p (b.after step) := by
  cases step with
  | openElement e => exact opens b e h
  | closeElement =>
    rw [after]
    cases closed : b.closeElement with
    | error error => exact h
    | ok b' => exact closes b b' h closed
  | text s => exact adds b (.text s) h
  | comment s => exact adds b (.comment s) h
  | instruction target data => exact adds b (.instruction target data) h
  | copy source i => exact keeps_addForest opens closes adds h _
  | copyChildren source i => exact keeps_addForest opens closes adds h _

theorem keeps_foldl_after {b : Builder} (h : p b) (steps : List BuildStep) :
    p (steps.foldl after b) := by
  induction steps generalizing b with
  | nil => exact h
  | cons step steps ih => exact ih (keeps_after opens closes adds h step)

end

/-! ### Elements that a builder holds -/

/-- The node with the number `k` is an ended element with this content: its nodes are there, what
comes behind goes elsewhere, and so does what will come. -/
structure Holds (k : Nat) (e : Element) (content : Forest) (b : Builder) : Prop where
  places : ∃ front parent rest, front.length = k
    ∧ b.places = front ++ ⟨.element e, some parent⟩ :: content.places k (k + 1) ++ rest
    ∧ (∀ place ∈ rest, ∃ q, place.parent = some q ∧ (q < k ∨ k + content.size < q))
    ∧ (rest = [] → b.done.startsWithText = false)
  opened : ∀ q ∈ openedIds b.base b.opened, q < k ∨ k + content.size < q

theorem openedIds_lt (base : Option String) (opened : List OpenElement) :
    ∀ q ∈ openedIds base opened, q < (openedPlaces base opened).length := by
  induction opened with
  | nil => simp [openedIds, openedPlaces]
  | cons o outer ih =>
    have pos := openedPlaces_pos base (o :: outer)
    refine List.forall_mem_cons.mpr ⟨by rw [innermost]; omega, fun q hq => ?_⟩
    have lt := ih q hq
    rw [openedPlaces, List.length_append, List.length_append]
    omega

theorem innermost_mem (base : Option String) (opened : List OpenElement) :
    innermost base opened ∈ openedIds base opened := by
  cases opened with
  | nil => exact List.mem_singleton.mpr rfl
  | cons o outer => exact List.mem_cons_self

/-- An element that is added is held. -/
theorem holds_addForest (b : Builder) (e : Element) {content : Forest} (merged : content.isMerged) :
    (b.addForest (.element e content .nil)).Holds b.places.length e content := by
  have mergedNode : (Forest.element e content .nil).isMerged :=
    Forest.isMerged_element.mpr ⟨merged, rfl⟩
  have done := done_addForest (b := b) mergedNode (.inl rfl)
  refine ⟨⟨b.places, innermost b.base b.opened, [], rfl, ?_, nofun, fun _ => ?_⟩, ?_⟩
  · rw [places_addForest mergedNode (.inl rfl), Forest.places_element]
    simp [Forest.places, Forest.nodes]
  · rw [done]
    rfl
  · rw [opened_addForest, base_addForest]
    intro q hq
    have lt := openedIds_lt b.base b.opened q hq
    rw [places, List.length_append]
    omega

namespace Holds

variable {k : Nat} {e : Element} {content : Forest} {b : Builder} (h : b.Holds k e content)

include h

/-- A node more goes to the current node, which is not inside the element. -/
theorem push {b' : Builder} (kind : NodeKind)
    (more : b'.places = b.places ++ [⟨kind, some (innermost b.base b.opened)⟩])
    (opened : ∀ q ∈ openedIds b'.base b'.opened,
      q ∈ openedIds b.base b.opened ∨ q = b.places.length) : b'.Holds k e content := by
  obtain ⟨⟨front, parent, rest, length, places, elsewhere, -⟩, ids⟩ := h
  refine ⟨⟨front, parent, rest ++ [⟨kind, some (innermost b.base b.opened)⟩], length, ?_, ?_, ?_⟩,
    fun q hq => ?_⟩
  · rw [more, places, List.append_assoc]
  · refine List.forall_mem_append.mpr ⟨elsewhere, List.forall_mem_singleton.mpr ?_⟩
    exact ⟨_, rfl, ids _ (innermost_mem b.base b.opened)⟩
  · intro empty
    exact absurd (List.append_eq_nil_iff.mp empty).2 (List.cons_ne_nil _ _)
  · obtain there | rfl := opened q hq
    · exact ids q there
    · refine .inr ?_
      rw [places]
      simp only [List.length_append, List.length_cons, Forest.length_places]
      omega

theorem openElement (e' : Element) : (b.openElement e').Holds k e content := by
  refine h.push (.element e') (List.append_nil _) ?_
  intro q hq
  obtain rfl | there := List.mem_cons.mp hq
  · refine .inr ?_
    rw [innermost, openedPlaces, Builder.places, List.length_append]
    rfl
  · exact .inl there

theorem closeElement {b' : Builder} (closed : b.closeElement = .ok b') : b'.Holds k e content := by
  obtain ⟨base, next, opened, done⟩ := b
  cases opened with
  | nil => cases closed
  | cons top outer =>
    cases closed
    obtain ⟨⟨front, parent, rest, length, places, elsewhere, -⟩, ids⟩ := h
    refine ⟨⟨front, parent, rest, length, ?_, elsewhere, fun _ => rfl⟩,
      fun q hq => ids q (List.mem_cons_of_mem _ hq)⟩
    rw [← places]
    exact places_closeElement base next outer done top next

omit h in
/-- A text that is changed is not inside the element: it would have to be the last node, but then
a text that is added would not come behind it. -/
theorem retext {base : Option String} {next : Nat} {opened : List OpenElement} {before : Forest}
    {t : String} (h : Holds k e content ⟨base, next, opened, .leaf (.text t) before⟩)
    (t' : String) :
    Holds k e content ⟨base, next, opened, .leaf (.text t') before⟩ := by
  obtain ⟨⟨front, parent, rest, length, places, elsewhere, last⟩, ids⟩ := h
  obtain rfl | ⟨init, place, rfl⟩ := List.eq_nil_or_concat rest
  · cases last rfl
  · rw [places_leaf base next, List.concat_eq_append, ← List.append_assoc] at places
    obtain ⟨same, final⟩ := List.append_inj' places rfl
    cases final
    rw [List.concat_eq_append, List.forall_mem_append, List.forall_mem_singleton] at elsewhere
    refine ⟨⟨front, parent, init ++ [⟨.leaf (.text t'), some (innermost base opened)⟩], length,
      ?_, List.forall_mem_append.mpr ⟨elsewhere.1, List.forall_mem_singleton.mpr elsewhere.2⟩,
      fun empty => absurd (List.append_eq_nil_iff.mp empty).2 (List.cons_ne_nil _ _)⟩, ids⟩
    rw [places_leaf base next, same, ← List.append_assoc]

theorem addText (s : String) : (b.addText s).Holds k e content := by
  obtain ⟨base, next, opened, done⟩ := b
  rw [Builder.addText]
  split
  · exact h
  · dsimp only
    split
    · exact h.retext _
    · exact h.push (.leaf (.text s)) (places_leaf base next opened done (next + 1) (.text s))
        fun q hq => .inl hq

theorem addLeaf (l : Leaf) : (b.addLeaf l).Holds k e content := by
  obtain ⟨base, next, opened, done⟩ := b
  cases l with
  | text s => exact h.addText s
  | comment | instruction =>
    exact h.push _ (places_leaf base next opened done (next + 1) _) fun q hq => .inl hq

/-- An element that a builder holds is held after all further steps. -/
theorem foldl_after (steps : List BuildStep) : (steps.foldl after b).Holds k e content :=
  keeps_foldl_after (p := Holds k e content) (fun _ e' h => h.openElement e')
    (fun _ _ h closed => h.closeElement closed) (fun _ l h => h.addLeaf l) h steps

/-- An element that a builder holds is found when the document is finished. -/
theorem subtree? {d : Document} (finished : b.finish = .ok d) :
    d.subtree? k = some (.element e content) := by
  have grown := b.grown_places
  obtain ⟨⟨front, parent, rest, length, places, elsewhere, -⟩, -⟩ := h
  have whole : d.places = b.places := by
    obtain ⟨base, next, opened, done⟩ := b
    cases opened with
    | nil =>
      cases finished
      rfl
    | cons top outer => cases finished
  -- What is behind the element goes to a node before itself, and so before the element.
  have ends : Forest.EndsBelow k rest := by
    intro place hplace
    obtain ⟨q, child, apart⟩ := elsewhere place (List.mem_of_mem_head? hplace)
    have size : (front ++ Place.mk (.element e) (some parent) :: content.places k (k + 1)).length
        = k + 1 + content.size := by
      rw [List.length_append, List.length_cons, Forest.length_places]
      omega
    have nth : b.places[k + 1 + content.size]? = some place := by
      rw [places, ← size, List.getElem?_append_right (Nat.le_refl _), Nat.sub_self,
        ← List.head?_eq_getElem?]
      exact hplace
    have before := grown (k + 1 + content.size) q (by rw [parentAt, nth]; exact child)
    exact ⟨q, child, by omega⟩
  have here : k < d.size := by
    rw [← Document.length_arena, Document.arena, Arena.length_ofPlaces, whole, places]
    simp [← length]
  obtain ⟨t, ht⟩ := Document.exists_subtree? here
  obtain ⟨parent', after, drop, ends'⟩ := Document.drop_places ht
  rw [whole, places, List.append_assoc, List.drop_left' length] at drop
  obtain ⟨head, behind⟩ := List.cons.inj drop
  have kind : t.kind = .element e := (congrArg Place.kind head).symm
  have same := Forest.eq_of_places_append (Nat.lt_succ_self k) behind ends ends'
  cases t with
  | element e' content' =>
    cases kind
    rw [ht, same]
    rfl
  | document | leaf => cases kind

end Holds

end Builder

/-! ### Nodes that are the same -/

theorem Forest.deepEqual_self (f : Forest) : f.deepEqual f = true := by
  induction f with
  | nil => rfl
  | leaf l rest ih => rw [deepEqual, ih, decide_eq_true rfl, Bool.and_self]
  | element e content rest ihc ihr =>
    rw [deepEqual, ihc, ihr, Element.agrees, Table.sameEntries_self, decide_eq_true rfl]
    rfl

theorem Subtree.deepEqual_self (t : Subtree) : t.deepEqual t = true := by
  cases t with
  | document d => exact d.content.deepEqual_self
  | element e content =>
    have same := (Forest.element e content .nil).deepEqual_self
    rw [Forest.deepEqual, Forest.deepEqual, Bool.and_true] at same
    exact same
  | leaf l => exact decide_eq_true rfl

/-- The text of the nodes of a forest, behind other text. -/
theorem Forest.PlacedIn.foldl_text {d : Document} {parent first : Nat} {f : Forest}
    (h : f.PlacedIn d parent first) (text : String) :
    (List.range' first f.size).foldl (fun text i => match d.nodes.leaf? i with
      | some (.text s) => text ++ s
      | _ => text) text = text ++ f.stringValue := by
  induction f generalizing parent first text with
  | nil => exact String.append_empty.symm
  | leaf l rest ih =>
    have here : d.nodes.leaf? first = some l := by rw [NodeList.leaf?, h.kind?_leaf]
    rw [size, List.range'_succ, List.foldl_cons, here, ih h.behind_leaf]
    cases l with
    | text s => rw [stringValue, String.append_assoc]
    | comment | instruction => rfl
  | element e content rest ihc ihr =>
    have here : d.nodes.leaf? first = none := by rw [NodeList.leaf?, h.kind?_element]
    rw [size, List.range'_succ, List.foldl_cons, here, ← List.range'_append_1, List.foldl_append,
      ihc h.inside, Nat.add_right_comm, ihr h.behind_element, stringValue, String.append_assoc]

/-- The string value of an element by its number is that of the element with what is inside it. -/
theorem Document.stringValue_eq {d : Document} {i : Nat} {e : Element} {content : Forest}
    (h : d.subtree? i = some (.element e content)) :
    d.nodes.stringValue i = content.stringValue := by
  have element := element?_of_subtree? h
  have noLeaf : d.nodes.leaf? i = none := by
    obtain ⟨n, hn, kind⟩ := NodeList.element?_eq_some_iff.mp element
    rw [NodeList.leaf?, NodeList.kind?, hn, Option.map_some, kind]
  rw [NodeList.stringValue, noLeaf, NodeList.descendants, extent_eq h, Subtree.size,
    Nat.add_sub_cancel]
  exact ((Forest.PlacedIn.of_subtree? h).foldl_text "").trans String.empty_append

/-! ### Copying -/

namespace ArenaBuilder

variable {base : Option String} {steps : List BuildStep} {b : ArenaBuilder} {source : Document}
  {i : Nat}

/-- A builder of arenas that steps lead to is a builder of forests laid out. -/
theorem Runs.eq_arena (run : Runs (.start base) steps b) :
    b = (steps.foldl Builder.after (.start base)).arena :=
  run.unique (Builder.runs_arena (.start base) steps)

/-- **Copies are faithful.**  Whatever steps lead to a builder and whatever node of a document is
copied, the node itself or its children, copying has an outcome, and one only: the nodes are there
once more, renumbered, and the rest is as it was.  A copy of an element is the same as that element
when the document is finished, whatever steps are in between. -/
theorem copies_are_faithful (run : Runs (.start base) steps b)
    (wellFormed : source.arena.WellFormed) (here : i < source.size) :
    (∃ b', Copies source.arena b (source.arena.children i) b'
      ∧ (∀ b'', Copies source.arena b (source.arena.children i) b'' → b'' = b')
      ∧ CopiedFrom source.arena (source.arena.children i) (i + 1) (source.nodes.extent i - 1) b b')
    ∧ (∃ b', Copies source.arena b [i] b' ∧ (∀ b'', Copies source.arena b [i] b'' → b'' = b')
      ∧ (i = 0 →
        CopiedFrom source.arena (source.arena.children 0) 1 (source.nodes.extent 0 - 1) b b')
      ∧ (0 < i → CopiedFrom source.arena [i] i (source.nodes.extent i) b b'))
    ∧ ∀ e, source.arena.kind? i = some (.element e) →
      ∀ b' steps' b'' a, Copies source.arena b [i] b' → Runs b' steps' b'' → b''.finish = .ok a →
        ∃ (d : Document) (t t' : Subtree), d.arena = a ∧ d.subtree? b.cells.length = some t
          ∧ source.subtree? i = some t' ∧ t = t' ∧ t.deepEqual t' = true
          ∧ d.nodes.stringValue b.cells.length = source.nodes.stringValue i := by
  -- The steps have built the layout of a forest, so that copies can be told on forests.
  obtain rfl := run.eq_arena
  generalize steps.foldl Builder.after (.start base) = b
  have merged := Document.wellFormed_arena_iff.mp wellFormed
  obtain ⟨t, ht⟩ := Document.exists_subtree? here
  have children := Builder.copies_children ht b
  have node := Builder.copies_node ht b
  refine ⟨⟨_, children, fun _ h => h.unique children, Builder.copiedFrom_children ht merged b⟩,
    ⟨_, node, fun _ h => h.unique node, ?_, fun pos => Builder.copiedFrom_node ht merged pos b⟩, ?_⟩
  · rintro rfl
    cases ht
    exact Builder.copiedFrom_children (t := .document source) rfl merged b
  · intro e kind b' steps' b'' a copied further finished
    obtain rfl := copied.unique node
    obtain rfl := further.unique (Builder.runs_arena _ steps')
    obtain ⟨q, hq⟩ := Document.nodeList_getElem? ht
    rw [Document.kind?_arena, NodeList.kind?, Document.nodes_getElem?, hq] at kind
    cases t with
    | document | leaf => cases kind
    | element e' content =>
      rw [Builder.arena_finish] at finished
      cases ended : (steps'.foldl Builder.after
          (b.addForest (Subtree.toForest (.element e' content)))).finish with
      | error error =>
        rw [ended] at finished
        cases finished
      | ok d =>
        rw [ended] at finished
        have length : b.arena.cells.length = b.places.length := Arena.length_ofPlaces b.places
        have held := (b.holds_addForest e' (Document.isMerged_of_subtree? merged ht).1).foldl_after
          steps'
        have found := held.subtree? ended
        rw [← length] at found
        refine ⟨d, _, _, Except.ok.inj finished, found, ht, rfl, Subtree.deepEqual_self _, ?_⟩
        exact (Document.stringValue_eq found).trans (Document.stringValue_eq ht).symm

/-- An element with a text and another element in it. -/
def boldSource : Document where
  base := none
  content := .element (.ofName (.plain "r"))
    (.leaf (.text "y") (.element (.ofName (.plain "b")) (.leaf (.text "z") .nil) .nil)) .nil

/-- The children of an element, copied behind a text: the first of them joins it. -/
theorem copies_are_faithful_bold :
    boldSource.arena.WellFormed ∧ 1 < boldSource.size
      ∧ ∃ b, Runs (.start none) [.openElement (.ofName (.plain "a")), .text "x"] b
        ∧ b.joined? boldSource.arena (boldSource.arena.children 1) = some (2, "xy")
        ∧ ∃ b', Copies boldSource.arena b (boldSource.arena.children 1) b'
          ∧ CopiedFrom boldSource.arena (boldSource.arena.children 1) 2
            (boldSource.nodes.extent 1 - 1) b b' := by
  have wellFormed : boldSource.arena.WellFormed := Document.wellFormed_arena (by decide)
  have here : 1 < boldSource.size := by decide
  have run := Builder.runs_arena (.start none) [.openElement (.ofName (.plain "a")), .text "x"]
  obtain ⟨⟨b', copied, -, faithful⟩, -, -⟩ := copies_are_faithful run wellFormed here
  exact ⟨wellFormed, here, _, run, by decide +kernel, b', copied, faithful⟩

end ArenaBuilder

end Transclusion
