import Transclusion.Proofs.Markup.Arena
import Transclusion.Proofs.Markup.Building
/-!
# Building arenas

`ArenaBuilder` builds an arena in place: a new node is put at the end of the list and its number at
the end of its parent's children; a text that follows a text is added to it; copying a node goes
through its children in the arena that they come from.

The stack of open elements is the way to the node at the end of the list, so that its numbers can be
read off a builder of forests (`Builder.arena`).  Every step on the one is a step on the other
(`Builder.takes_arena`), and so is a whole run of steps (`Builder.runs_arena`).
-/

namespace Transclusion

/-! ### Steps -/

/-- A step of building a document.  What is copied are a node, or its children, of another document
that is at hand. -/
inductive BuildStep where
  | openElement (e : Element)
  | closeElement
  | text (s : String)
  | comment (s : String)
  | instruction (target data : String)
  | copy (source : Document) (i : Fin source.size)
  | copyChildren (source : Document) (i : Fin source.size)

/-- The builder after a step.  An end where no element is open is refused and leaves it as it is. -/
def Builder.after (b : Builder) : BuildStep → Builder
  | .openElement e => b.openElement e
  | .closeElement => b.closeElement.toOption.getD b
  | .text s => b.addText s
  | .comment s => b.addLeaf (.comment s)
  | .instruction target data => b.addLeaf (.instruction target data)
  | .copy source i => b.addForest (((source.subtree? i).map (·.toForest)).getD .nil)
  | .copyChildren source i => b.addForest (((source.subtree? i).map (·.content)).getD .nil)

/-- An arena under way, and the numbers of the document and the open elements, innermost first. -/
structure ArenaBuilder where
  cells : Arena
  opened : List Nat
deriving DecidableEq, Repr

namespace ArenaBuilder

def start (base : Option String) : ArenaBuilder := ⟨[⟨.document base, none, []⟩], [0]⟩

/-- The node that new nodes go into. -/
def current (b : ArenaBuilder) : Nat := b.opened.head?.getD 0

/-- Puts a node at the end, as the last child of the current one. -/
def push (b : ArenaBuilder) (kind : NodeKind) : ArenaBuilder :=
  let id := b.cells.length
  { b with
    cells := (b.cells.concat ⟨kind, some b.current, []⟩).modify b.current fun c =>
      { c with children := c.children ++ [id] } }

def openElement (b : ArenaBuilder) (e : Element) : ArenaBuilder :=
  let id := b.cells.length
  { b.push (.element e) with opened := id :: b.opened }

def closeElement (b : ArenaBuilder) : Except TreeError ArenaBuilder :=
  if b.opened.length ≤ 1 then .error .unbalanced else .ok { b with opened := b.opened.tail }

/-- The last child of the current node, if it is a text. -/
def lastText? (b : ArenaBuilder) : Option (Nat × String) :=
  match (b.cells.children b.current).getLast? with
  | some last => match b.cells.kind? last with
    | some (.leaf (.text t)) => some (last, t)
    | _ => none
  | none => none

/-- Adds a text, to the last child if that is one. -/
def addText (b : ArenaBuilder) (s : String) : ArenaBuilder :=
  if s = "" then b
  else match b.lastText? with
    | some (last, t) =>
      { b with cells := b.cells.modify last fun c => { c with kind := .leaf (.text (t ++ s)) } }
    | none => b.push (.leaf (.text s))

def addLeaf (b : ArenaBuilder) : Leaf → ArenaBuilder
  | .text s => b.addText s
  | l => b.push (.leaf l)

def finish (b : ArenaBuilder) : Except TreeError Arena :=
  if b.opened.length = 1 then .ok b.cells else .error (.unclosed (b.opened.length - 1))

/-- Copying the nodes with these numbers, one after the other, from an arena. -/
inductive Copies (source : Arena) : ArenaBuilder → List Nat → ArenaBuilder → Prop where
  | nil (b : ArenaBuilder) : Copies source b [] b
  | document {b b₁ b' : ArenaBuilder} {i : Nat} {rest : List Nat} {base : Option String}
      (kind : source.kind? i = some (.document base))
      (inside : Copies source b (source.children i) b₁)
      (behind : Copies source b₁ rest b') : Copies source b (i :: rest) b'
  | element {b b₁ b₂ b' : ArenaBuilder} {i : Nat} {rest : List Nat} {e : Element}
      (kind : source.kind? i = some (.element e))
      (inside : Copies source (b.openElement e) (source.children i) b₁)
      (closed : b₁.closeElement = .ok b₂) (behind : Copies source b₂ rest b') :
      Copies source b (i :: rest) b'
  | leaf {b b' : ArenaBuilder} {i : Nat} {rest : List Nat} {l : Leaf}
      (kind : source.kind? i = some (.leaf l)) (behind : Copies source (b.addLeaf l) rest b') :
      Copies source b (i :: rest) b'

/-- What a step does to a builder. -/
inductive Takes : ArenaBuilder → BuildStep → ArenaBuilder → Prop where
  | openElement (b : ArenaBuilder) (e : Element) : Takes b (.openElement e) (b.openElement e)
  | closeElement {b b' : ArenaBuilder} (closed : b.closeElement = .ok b') : Takes b .closeElement b'
  | refused {b : ArenaBuilder} {error : TreeError} (h : b.closeElement = .error error) :
      Takes b .closeElement b
  | text (b : ArenaBuilder) (s : String) : Takes b (.text s) (b.addText s)
  | comment (b : ArenaBuilder) (s : String) : Takes b (.comment s) (b.addLeaf (.comment s))
  | instruction (b : ArenaBuilder) (target data : String) :
      Takes b (.instruction target data) (b.addLeaf (.instruction target data))
  | copy {b b' : ArenaBuilder} {source : Document} {i : Fin source.size}
      (copied : Copies source.arena b [i.val] b') : Takes b (.copy source i) b'
  | copyChildren {b b' : ArenaBuilder} {source : Document} {i : Fin source.size}
      (copied : Copies source.arena b (source.arena.children i) b') :
      Takes b (.copyChildren source i) b'

/-- A run of steps. -/
inductive Runs : ArenaBuilder → List BuildStep → ArenaBuilder → Prop where
  | nil (b : ArenaBuilder) : Runs b [] b
  | cons {b b₁ b' : ArenaBuilder} {step : BuildStep} {steps : List BuildStep}
      (first : Takes b step b₁) (behind : Runs b₁ steps b') : Runs b (step :: steps) b'

end ArenaBuilder

/-! ### Arenas that grow -/

/-- Every node comes after its parent. -/
def Grown (places : List Place) : Prop :=
  ∀ i p, parentAt places i = some p → p < i

theorem Grown.append_places {places : List Place} (h : Grown places) {parent : Nat}
    (before : parent < places.length) (f : Forest) :
    Grown (places ++ f.places parent places.length) := by
  intro i p hp
  obtain hi | hi := Nat.lt_or_ge i places.length
  · rw [parentAt, List.getElem?_append_left hi] at hp
    exact h i p hp
  · rw [parentAt, List.getElem?_append_right hi, Forest.places, List.getElem?_map,
      Option.bind_map] at hp
    obtain ⟨n, hn, hparent⟩ := Option.bind_eq_some_iff.mp hp
    obtain ⟨q, hq, -, lt⟩ := Forest.parent_of_mem_nodes before hn
    cases hq.symm.trans hparent
    omega

theorem childrenAt_concat (places : List Place) (place : Place) (i : Nat) :
    childrenAt (places ++ [place]) i
      = childrenAt places i ++ if place.parent = some i then [places.length] else [] := by
  have front : (List.range places.length).filter (fun j => parentAt (places ++ [place]) j = some i)
      = childrenAt places i := by
    refine List.filter_congr fun j hj => ?_
    rw [parentAt, List.getElem?_append_left (List.mem_range.mp hj), parentAt]
  rw [childrenAt, List.length_append, List.length_singleton, List.range_succ, List.filter_append,
    front]
  congr 1
  by_cases h : place.parent = some i <;> simp [parentAt, h]

/-- Nodes that go elsewhere are no children. -/
theorem childrenAt_append {places others : List Place} {i : Nat}
    (elsewhere : ∀ place ∈ others, place.parent ≠ some i) :
    childrenAt (places ++ others) i = childrenAt places i := by
  induction others generalizing places with
  | nil => rw [List.append_nil]
  | cons place others ih =>
    obtain ⟨first, behind⟩ := List.forall_mem_cons.mp elsewhere
    rw [List.append_cons, ih behind, childrenAt_concat, if_neg first, List.append_nil]

/-- A node has no children as long as there are only nodes before it. -/
theorem Grown.childrenAt_eq_nil {places : List Place} (h : Grown places) {i : Nat}
    (last : places.length ≤ i + 1) : childrenAt places i = [] := by
  refine List.filter_eq_nil_iff.mpr fun j hj child => ?_
  rw [List.mem_range] at hj
  have := h j i (decide_eq_true_eq.mp child)
  omega

/-- A node more at the end of an arena. -/
theorem Grown.ofPlaces_concat {places : List Place} (h : Grown places) (kind : NodeKind)
    {parent : Nat} (before : parent < places.length) :
    Arena.ofPlaces (places ++ [⟨kind, some parent⟩])
      = ((Arena.ofPlaces places).concat ⟨kind, some parent, []⟩).modify parent fun c =>
          { c with children := c.children ++ [places.length] } := by
  refine List.ext_getElem? fun i => ?_
  rw [Arena.getElem?_ofPlaces, List.getElem?_modify, List.concat_eq_append, childrenAt_concat]
  obtain lt | rfl | gt := Nat.lt_trichotomy i places.length
  · rw [List.getElem?_append_left lt,
      List.getElem?_append_left (by rwa [Arena.length_ofPlaces]), Arena.getElem?_ofPlaces]
    cases places[i]? with
    | none => rfl
    | some place => by_cases same : parent = i <;> simp [same]
  · have none : childrenAt places places.length = [] := h.childrenAt_eq_nil (Nat.le_succ _)
    have other : parent ≠ places.length := Nat.ne_of_lt before
    simp [none, other, Arena.length_ofPlaces]
  · have beyond : ∀ {α : Type} {l : List α} {x : α}, l.length = places.length →
        (l ++ [x])[i]? = none := by
      intro α l x length
      exact List.getElem?_eq_none (by rw [List.length_append, List.length_singleton]; omega)
    rw [beyond rfl, beyond (Arena.length_ofPlaces places)]
    rfl

namespace Forest

theorem places_leaf (l : Leaf) (rest : Forest) (parent first : Nat) :
    (leaf l rest).places parent first
      = ⟨.leaf l, some parent⟩ :: rest.places parent (first + 1) := rfl

theorem places_element (e : Element) (content rest : Forest) (parent first : Nat) :
    (element e content rest).places parent first
      = ⟨.element e, some parent⟩ :: content.places first (first + 1)
        ++ rest.places parent (first + content.size + 1) := by
  rw [places, nodes, List.map_append, List.map_cons]
  rfl

theorem length_places (parent first : Nat) (f : Forest) :
    (f.places parent first).length = f.size := by
  rw [places, List.length_map, length_nodes]

theorem places_reverseOnto (f g : Forest) (parent first : Nat) :
    (f.reverseOnto g).places parent first
      = f.reverse.places parent first ++ g.places parent (first + f.size) := by
  induction f generalizing g with
  | nil => rfl
  | leaf l rest ih =>
    have one : (leaf l rest).reverse = rest.reverseOnto (leaf l nil) := rfl
    rw [reverseOnto, ih, one, ih (leaf l nil), places_leaf, places_leaf, size, List.append_assoc]
    rfl
  | element e content rest _ ih =>
    have one : (element e content rest).reverse = rest.reverseOnto (element e content nil) := rfl
    rw [reverseOnto, ih, one, ih (element e content nil), places_element, places_element, size,
      List.append_assoc, Nat.add_comm content.size, ← Nat.add_assoc, ← Nat.add_assoc,
      Nat.add_right_comm first rest.size content.size]
    simp [places, nodes]

theorem size_reverseOnto (f g : Forest) : (f.reverseOnto g).size = f.size + g.size := by
  induction f generalizing g with
  | nil => simp [reverseOnto, size]
  | leaf l rest ih =>
    rw [reverseOnto, ih, size, size]
    omega
  | element e content rest _ ih =>
    rw [reverseOnto, ih, size, size]
    omega

theorem size_reverse (f : Forest) : f.reverse.size = f.size := size_reverseOnto f nil

theorem places_reverse_leaf (l : Leaf) (rest : Forest) (parent first : Nat) :
    (leaf l rest).reverse.places parent first
      = rest.reverse.places parent first ++ [⟨.leaf l, some parent⟩] :=
  places_reverseOnto rest (leaf l nil) parent first

theorem places_reverse_element (e : Element) (content rest : Forest) (parent first : Nat) :
    (element e content rest).reverse.places parent first
      = rest.reverse.places parent first ++ ⟨.element e, some parent⟩
        :: content.places (first + rest.size) (first + rest.size + 1) := by
  have one : (element e content rest).reverse = rest.reverseOnto (element e content nil) := rfl
  rw [one, places_reverseOnto, places_element]
  simp [places, nodes]

end Forest

/-! ### Forests under way as arenas -/

/-- The places of the document and the open elements, and of the nodes before these.  The innermost
open element comes last. -/
def openedPlaces (base : Option String) : List OpenElement → List Place
  | [] => [⟨.document base, none⟩]
  | o :: outer =>
    let front := openedPlaces base outer
    front ++ o.before.reverse.places (front.length - 1) front.length
      ++ [⟨.element o.element, some (front.length - 1)⟩]

/-- The number of the innermost open element, or of the document. -/
def innermost (base : Option String) (opened : List OpenElement) : Nat :=
  (openedPlaces base opened).length - 1

/-- The numbers of the document and the open elements, innermost first. -/
def openedIds (base : Option String) : List OpenElement → List Nat
  | [] => [0]
  | o :: outer => innermost base (o :: outer) :: openedIds base outer

theorem openedPlaces_pos (base : Option String) (opened : List OpenElement) :
    0 < (openedPlaces base opened).length := by
  cases opened with
  | nil => exact Nat.one_pos
  | cons o outer =>
    rw [openedPlaces, List.length_append]
    exact Nat.succ_pos _

theorem head?_openedIds (base : Option String) (opened : List OpenElement) :
    (openedIds base opened).head?.getD 0 = innermost base opened := by
  cases opened <;> rfl

theorem length_openedIds (base : Option String) (opened : List OpenElement) :
    (openedIds base opened).length = opened.length + 1 := by
  induction opened with
  | nil => rfl
  | cons o outer ih => rw [openedIds, List.length_cons, ih, List.length_cons]

theorem Grown.concat {places : List Place} (h : Grown places) {parent : Nat}
    (before : parent < places.length) (kind : NodeKind) :
    Grown (places ++ [⟨kind, some parent⟩]) := by
  intro i p hp
  obtain hi | hi := Nat.lt_or_ge i places.length
  · rw [parentAt, List.getElem?_append_left hi] at hp
    exact h i p hp
  · obtain ⟨place, hplace, hparent⟩ := Option.bind_eq_some_iff.mp hp
    rw [List.getElem?_append_right hi] at hplace
    obtain rfl := List.mem_singleton.mp (List.mem_of_getElem? hplace)
    cases hparent
    omega

theorem grown_openedPlaces (base : Option String) (opened : List OpenElement) :
    Grown (openedPlaces base opened) := by
  induction opened with
  | nil =>
    intro i p hp
    cases i with
    | zero => cases hp
    | succ i => cases hp
  | cons o outer ih =>
    have pos := openedPlaces_pos base outer
    refine (ih.append_places (by omega) _).concat ?_ _
    rw [List.length_append]
    omega

namespace Builder

/-- The places of all nodes so far. -/
def places (b : Builder) : List Place :=
  let front := openedPlaces b.base b.opened
  front ++ b.done.reverse.places (front.length - 1) front.length

/-- The forest under way laid out as an arena. -/
def arena (b : Builder) : ArenaBuilder := ⟨.ofPlaces b.places, openedIds b.base b.opened⟩

theorem current_arena (b : Builder) : b.arena.current = innermost b.base b.opened :=
  head?_openedIds b.base b.opened

theorem innermost_lt (b : Builder) : innermost b.base b.opened < b.places.length := by
  have pos := openedPlaces_pos b.base b.opened
  rw [innermost, places, List.length_append]
  omega

theorem grown_places (b : Builder) : Grown b.places := by
  have pos := openedPlaces_pos b.base b.opened
  exact (grown_openedPlaces b.base b.opened).append_places (by omega) _

/-- A node at the end of the arena. -/
theorem cells_push (b : Builder) (kind : NodeKind) :
    (b.arena.push kind).cells
      = .ofPlaces (b.places ++ [⟨kind, some (innermost b.base b.opened)⟩]) := by
  rw [b.grown_places.ofPlaces_concat kind b.innermost_lt, ← b.current_arena]
  simp only [ArenaBuilder.push, arena, Arena.length_ofPlaces]

/-! ### Siblings -/

section

variable (base : Option String) (next : Nat) (opened : List OpenElement) (rest : Forest)

theorem places_leaf (next' : Nat) (l : Leaf) :
    places ⟨base, next', opened, .leaf l rest⟩
      = places ⟨base, next, opened, rest⟩ ++ [⟨.leaf l, some (innermost base opened)⟩] := by
  rw [places, places, Forest.places_reverse_leaf, List.append_assoc]
  rfl

theorem places_element (e : Element) (content : Forest) :
    places ⟨base, next, opened, .element e content rest⟩
      = places ⟨base, next, opened, rest⟩ ++ [⟨.element e, some (innermost base opened)⟩]
        ++ content.places (places ⟨base, next, opened, rest⟩).length
            ((places ⟨base, next, opened, rest⟩).length + 1) := by
  have length : (places ⟨base, next, opened, rest⟩).length
      = (openedPlaces base opened).length + rest.size := by
    rw [places, List.length_append, Forest.length_places, Forest.size_reverse]
  rw [length, places, Forest.places_reverse_element, List.append_assoc, places, List.append_assoc]
  rfl

theorem arena_leaf (next' : Nat) (l : Leaf) :
    arena ⟨base, next', opened, .leaf l rest⟩
      = (arena ⟨base, next, opened, rest⟩).push (.leaf l) := by
  have cells := cells_push ⟨base, next, opened, rest⟩ (.leaf l)
  rw [← places_leaf base next opened rest next' l] at cells
  exact congrArg (ArenaBuilder.mk · (openedIds base opened)) cells.symm

/-- Ending an element leaves the nodes in their places. -/
theorem places_closeElement (top : OpenElement) (next' : Nat) :
    places ⟨base, next', opened, .element top.element rest.reverse top.before⟩
      = places ⟨base, next, top :: opened, rest⟩ := by
  rw [places, places, Forest.places_reverse_element, openedPlaces]
  simp only [List.append_assoc, List.length_append, List.length_singleton, Forest.length_places,
    Forest.size_reverse, List.singleton_append]
  rw [← Nat.add_assoc, Nat.add_sub_cancel]

theorem children_arena (b : Builder) :
    b.arena.cells.children b.arena.current = childrenAt b.places (innermost b.base b.opened) := by
  rw [current_arena, Arena.children, arena, Arena.getElem?_ofPlaces,
    List.getElem?_eq_getElem b.innermost_lt]
  rfl

theorem lastText?_nil : (arena ⟨base, next, opened, .nil⟩).lastText? = none := by
  have only : places ⟨base, next, opened, .nil⟩ = openedPlaces base opened := List.append_nil _
  have none : childrenAt (places ⟨base, next, opened, .nil⟩) (innermost base opened) = [] := by
    rw [only, innermost]
    exact (grown_openedPlaces base opened).childrenAt_eq_nil (by omega)
  rw [ArenaBuilder.lastText?, children_arena, none]
  rfl

theorem lastText?_leaf (l : Leaf) :
    (arena ⟨base, next, opened, .leaf l rest⟩).lastText?
      = match l with
        | .text t => some ((places ⟨base, next, opened, rest⟩).length, t)
        | _ => none := by
  have last : (childrenAt (places ⟨base, next, opened, .leaf l rest⟩)
      (innermost base opened)).getLast? = some (places ⟨base, next, opened, rest⟩).length := by
    rw [places_leaf base next, childrenAt_concat, if_pos rfl, List.getLast?_concat]
  have kind : (arena ⟨base, next, opened, .leaf l rest⟩).cells.kind?
      (places ⟨base, next, opened, rest⟩).length = some (.leaf l) := by
    rw [arena, places_leaf base next, Arena.kind?, Arena.getElem?_ofPlaces,
      List.getElem?_concat_length]
    rfl
  rw [ArenaBuilder.lastText?, children_arena, last]
  dsimp only
  rw [kind]
  cases l <;> rfl

theorem lastText?_element (e : Element) (content : Forest) :
    (arena ⟨base, next, opened, .element e content rest⟩).lastText? = none := by
  -- What is inside the element has it, or a later node, as its parent; so the last child of the
  -- innermost open element is the element itself.
  have inside : ∀ place ∈ content.places (places ⟨base, next, opened, rest⟩).length
      ((places ⟨base, next, opened, rest⟩).length + 1),
      place.parent ≠ some (innermost base opened) := by
    intro place hplace child
    obtain ⟨n, hn, rfl⟩ := List.mem_map.mp hplace
    obtain ⟨m, hm⟩ := List.mem_iff_getElem?.mp hn
    obtain ⟨q, hq, hle, -⟩ := Forest.parent_of_mem_nodes (Nat.lt_succ_self _) hm
    cases hq.symm.trans child
    exact absurd (innermost_lt ⟨base, next, opened, rest⟩) (Nat.not_lt.mpr hle)
  have last : (childrenAt (places ⟨base, next, opened, .element e content rest⟩)
      (innermost base opened)).getLast? = some (places ⟨base, next, opened, rest⟩).length := by
    rw [places_element, childrenAt_append inside, childrenAt_concat, if_pos rfl,
      List.getLast?_concat]
  have kind : (arena ⟨base, next, opened, .element e content rest⟩).cells.kind?
      (places ⟨base, next, opened, rest⟩).length = some (.element e) := by
    rw [arena, places_element, Arena.kind?, Arena.getElem?_ofPlaces,
      List.getElem?_append_left (by rw [List.length_append]; exact Nat.lt_succ_self _),
      List.getElem?_concat_length]
    rfl
  rw [ArenaBuilder.lastText?, children_arena, last]
  dsimp only
  rw [kind]

/-- Changing the text of the last node. -/
theorem arena_retext (t t' : String) :
    arena ⟨base, next, opened, .leaf (.text t') rest⟩
      = { arena ⟨base, next, opened, .leaf (.text t) rest⟩ with
          cells := (arena ⟨base, next, opened, .leaf (.text t) rest⟩).cells.modify
            (places ⟨base, next, opened, rest⟩).length fun c =>
              { c with kind := .leaf (.text t') } } := by
  have cells : (arena ⟨base, next, opened, .leaf (.text t') rest⟩).cells
      = (arena ⟨base, next, opened, .leaf (.text t) rest⟩).cells.modify
          (places ⟨base, next, opened, rest⟩).length fun c =>
            { c with kind := .leaf (.text t') } := by
    refine List.ext_getElem? fun i => ?_
    simp only [arena]
    rw [List.getElem?_modify, places_leaf base next, places_leaf base next,
      Arena.getElem?_ofPlaces, Arena.getElem?_ofPlaces, childrenAt_concat, childrenAt_concat]
    generalize places ⟨base, next, opened, rest⟩ = front
    -- The text is the last place, so that only the cell there can differ.
    obtain lt | rfl | gt := Nat.lt_trichotomy i front.length
    · rw [List.getElem?_append_left lt, List.getElem?_append_left lt]
      simp [Nat.ne_of_gt lt]
    · simp
    · have beyond : ∀ place : Place, (front ++ [place])[i]? = none := fun place =>
        List.getElem?_eq_none (by rw [List.length_append, List.length_singleton]; omega)
      rw [beyond, beyond]
      rfl
  exact congrArg (ArenaBuilder.mk · (openedIds base opened)) cells

end

/-! ### Steps on forests and arenas -/

theorem arena_openElement (b : Builder) (e : Element) :
    (b.openElement e).arena = b.arena.openElement e := by
  have front : openedPlaces b.base (⟨e, b.done⟩ :: b.opened)
      = b.places ++ [⟨.element e, some (innermost b.base b.opened)⟩] := rfl
  have cells : (b.openElement e).places
      = b.places ++ [⟨.element e, some (innermost b.base b.opened)⟩] := by
    rw [places, Builder.openElement, front]
    exact List.append_nil _
  have ids : openedIds b.base (⟨e, b.done⟩ :: b.opened)
      = b.places.length :: openedIds b.base b.opened := by
    rw [openedIds, innermost, front, List.length_append]
    rfl
  rw [arena, cells, ← b.cells_push (.element e), ArenaBuilder.openElement]
  simp only [Builder.openElement, ids, arena, Arena.length_ofPlaces]

theorem arena_closeElement (b : Builder) :
    b.arena.closeElement = b.closeElement.map arena := by
  have length : b.arena.opened.length = b.opened.length + 1 := length_openedIds b.base b.opened
  rw [ArenaBuilder.closeElement, length]
  obtain ⟨base, next, opened, done⟩ := b
  cases opened with
  | nil => rfl
  | cons top outer =>
    rw [if_neg (by simp)]
    have places := places_closeElement base next outer done top next
    exact congrArg (fun places => Except.ok (ArenaBuilder.mk (.ofPlaces places)
      (openedIds base outer))) places.symm

theorem arena_addText (b : Builder) (s : String) : (b.addText s).arena = b.arena.addText s := by
  rw [Builder.addText, ArenaBuilder.addText]
  split
  · rfl
  obtain ⟨base, next, opened, done⟩ := b
  -- The last child of the innermost open element is the sibling that was added last, if any.
  cases done with
  | nil =>
    rw [lastText?_nil]
    exact arena_leaf base next opened .nil (next + 1) (.text s)
  | element e content rest =>
    rw [lastText?_element]
    exact arena_leaf base next opened (.element e content rest) (next + 1) (.text s)
  | leaf l rest =>
    rw [lastText?_leaf]
    cases l with
    | text t => exact arena_retext base next opened rest t (t ++ s)
    | comment c => exact arena_leaf base next opened (.leaf (.comment c) rest) (next + 1) (.text s)
    | instruction target data =>
      exact arena_leaf base next opened (.leaf (.instruction target data) rest) (next + 1) (.text s)

theorem arena_addLeaf (b : Builder) (l : Leaf) : (b.addLeaf l).arena = b.arena.addLeaf l := by
  cases l with
  | text s => exact b.arena_addText s
  | comment s => exact arena_leaf b.base b.next b.opened b.done _ _
  | instruction target data => exact arena_leaf b.base b.next b.opened b.done _ _

theorem arena_finish (b : Builder) : b.arena.finish = b.finish.map Document.arena := by
  have length : b.arena.opened.length = b.opened.length + 1 := length_openedIds b.base b.opened
  rw [ArenaBuilder.finish, Builder.finish, length]
  obtain ⟨base, next, opened, done⟩ := b
  cases opened with
  | nil => rfl
  | cons top outer => rfl

/-! ### Copies -/

/-- Copying an element, where its content and the nodes behind it are copied. -/
theorem copies_element {source : Document} {i : Nat} {is : List Nat} {e : Element}
    {content rest : Forest} (kind : source.arena.kind? i = some (.element e))
    (inside : ∀ b : Builder, ArenaBuilder.Copies source.arena b.arena (source.arena.children i)
      (b.addForest content).arena)
    (behind : ∀ b : Builder, ArenaBuilder.Copies source.arena b.arena is (b.addForest rest).arena)
    (b : Builder) :
    ArenaBuilder.Copies source.arena b.arena (i :: is)
      (b.addForest (.element e content rest)).arena := by
  obtain ⟨b₁, closed, same⟩ := b.addForest_element e content rest
  have opened := inside (b.openElement e)
  rw [arena_openElement] at opened
  have ended : ((b.openElement e).addForest content).arena.closeElement = .ok b₁.arena := by
    rw [arena_closeElement, closed]
    rfl
  rw [same]
  exact .element kind opened ended (behind b₁)

/-- Adding a forest to a builder copies it, node by node, from the arena where it is placed. -/
theorem copies_topIds {source : Document} {parent first : Nat} {f : Forest}
    (h : f.PlacedIn source parent first) (b : Builder) :
    ArenaBuilder.Copies source.arena b.arena (f.topIds first) (b.addForest f).arena := by
  induction f generalizing parent first b with
  | nil => exact .nil b.arena
  | leaf l rest ih =>
    refine .leaf (source.kind?_arena first ▸ h.kind?_leaf) ?_
    rw [← arena_addLeaf]
    exact ih h.behind_leaf (b.addLeaf l)
  | element e content rest ihc ihr =>
    refine copies_element (source.kind?_arena first ▸ h.kind?_element) (fun b => ?_)
      (ihr h.behind_element) b
    rw [Document.children_arena, h.children_of_element]
    exact ihc h.inside b

theorem copies_children {source : Document} {i : Nat} {t : Subtree}
    (h : source.subtree? i = some t) (b : Builder) :
    ArenaBuilder.Copies source.arena b.arena (source.arena.children i)
      (b.addForest t.content).arena := by
  rw [Document.children_arena, Forest.PlacedIn.children_eq_topIds h]
  exact b.copies_topIds (.of_subtree? h)

theorem copies_node {source : Document} {i : Nat} {t : Subtree}
    (h : source.subtree? i = some t) (b : Builder) :
    ArenaBuilder.Copies source.arena b.arena [i] (b.addForest t.toForest).arena := by
  have inside := copies_children h
  have kind : source.arena.kind? i = some t.kind := by
    obtain ⟨q, hq⟩ := Document.nodeList_getElem? h
    rw [Document.kind?_arena, NodeList.kind?, Document.nodes_getElem?, hq]
    rfl
  cases t with
  | document d => exact .document kind (inside b) (.nil _)
  | leaf l =>
    refine .leaf kind ?_
    rw [Subtree.toForest, addLeaf_consLeaf, arena_addLeaf]
    exact .nil _
  | element e content => exact copies_element kind inside (fun b => .nil b.arena) b

/-! ### Runs -/

/-- **Every step on a forest is the step on its arena.** -/
theorem takes_arena (b : Builder) (step : BuildStep) :
    ArenaBuilder.Takes b.arena step (b.after step).arena := by
  cases step with
  | openElement e =>
    rw [after, arena_openElement]
    exact .openElement b.arena e
  | closeElement =>
    have same := b.arena_closeElement
    rw [after]
    cases h : b.closeElement with
    | error error =>
      rw [h] at same
      exact .refused same
    | ok b' =>
      rw [h] at same
      exact .closeElement same
  | text s =>
    rw [after, arena_addText]
    exact .text b.arena s
  | comment s =>
    rw [after, arena_addLeaf]
    exact .comment b.arena s
  | instruction target data =>
    rw [after, arena_addLeaf]
    exact .instruction b.arena target data
  | copy source i =>
    obtain ⟨t, ht⟩ := Document.exists_subtree? i.isLt
    rw [after, ht]
    exact .copy (copies_node ht b)
  | copyChildren source i =>
    obtain ⟨t, ht⟩ := Document.exists_subtree? i.isLt
    rw [after, ht]
    exact .copyChildren (copies_children ht b)

theorem runs_arena (b : Builder) (steps : List BuildStep) :
    ArenaBuilder.Runs b.arena steps (steps.foldl after b).arena := by
  induction steps generalizing b with
  | nil => exact .nil b.arena
  | cons step steps ih => exact .cons (b.takes_arena step) (ih (b.after step))

theorem made_after {b : Builder} (made : b.Made) (step : BuildStep) : (b.after step).Made := by
  cases step with
  | openElement e => exact made.openElement e
  | closeElement =>
    rw [after]
    cases h : b.closeElement with
    | error error => exact made
    | ok b' => exact made.closeElement h
  | text s => exact made.addText s
  | comment s => exact made.addLeaf (.comment s)
  | instruction target data => exact made.addLeaf (.instruction target data)
  | copy source i => exact made.addForest _
  | copyChildren source i => exact made.addForest _

theorem made_foldl_after {b : Builder} (made : b.Made) (steps : List BuildStep) :
    (steps.foldl after b).Made := by
  induction steps generalizing b with
  | nil => exact made
  | cons step steps ih => exact ih (made_after made step)

end Builder

namespace ArenaBuilder

/-! A run of steps has one outcome. -/

theorem Copies.unique {source : Arena} {b b₁ b₂ : ArenaBuilder} {is : List Nat}
    (h : Copies source b is b₁) (h' : Copies source b is b₂) : b₁ = b₂ := by
  -- On the first copying: the kind of the node that comes first leaves one rule for the second.
  induction h generalizing b₂ with
  | nil =>
    cases h'
    rfl
  | document kind _ _ ihInside ihBehind =>
    cases h' with
    | document kind' inside behind =>
      obtain rfl := ihInside inside
      exact ihBehind behind
    | element kind' => cases kind.symm.trans kind'
    | leaf kind' => cases kind.symm.trans kind'
  | element kind _ closed _ ihInside ihBehind =>
    cases h' with
    | document kind' => cases kind.symm.trans kind'
    | element kind' inside closed' behind =>
      cases kind.symm.trans kind'
      obtain rfl := ihInside inside
      cases closed.symm.trans closed'
      exact ihBehind behind
    | leaf kind' => cases kind.symm.trans kind'
  | leaf kind _ ihBehind =>
    cases h' with
    | document kind' => cases kind.symm.trans kind'
    | element kind' => cases kind.symm.trans kind'
    | leaf kind' behind =>
      cases kind.symm.trans kind'
      exact ihBehind behind

theorem Takes.unique {b b₁ b₂ : ArenaBuilder} {step : BuildStep} (h : Takes b step b₁)
    (h' : Takes b step b₂) : b₁ = b₂ := by
  cases h with
  | openElement | text | comment | instruction =>
    cases h'
    rfl
  | closeElement closed =>
    cases h' with
    | closeElement closed' => exact Except.ok.inj (closed.symm.trans closed')
    | refused refused => cases closed.symm.trans refused
  | refused refused =>
    cases h' with
    | closeElement closed => cases closed.symm.trans refused
    | refused => rfl
  | copy copied =>
    cases h' with
    | copy copied' => exact copied.unique copied'
  | copyChildren copied =>
    cases h' with
    | copyChildren copied' => exact copied.unique copied'

theorem Runs.unique {b b₁ b₂ : ArenaBuilder} {steps : List BuildStep} (h : Runs b steps b₁)
    (h' : Runs b steps b₂) : b₁ = b₂ := by
  induction h generalizing b₂ with
  | nil =>
    cases h'
    rfl
  | cons first _ ih =>
    cases h' with
    | cons first' behind =>
      obtain rfl := first.unique first'
      exact ih behind

end ArenaBuilder

/-- **The arena invariant.**  For every sequence of steps, a builder that works on an arena has one
outcome, which is the arena of the document that the builder of forests makes; when it is finished,
it is well formed.  So is a document of a single text.  The steps copy from documents; these stand
for all well-formed arenas. -/
theorem arena_invariant :
    (∀ base steps, ∃ b, ArenaBuilder.Runs (.start base) steps b
      ∧ (∀ b', ArenaBuilder.Runs (.start base) steps b' → b' = b)
      ∧ b.finish = (steps.foldl Builder.after (.start base)).finish.map Document.arena
      ∧ ∀ a, b.finish = .ok a → a.WellFormed)
    ∧ (∀ base text, (Document.ofText base text).arena = .ofText base text
      ∧ (Arena.ofText base text).WellFormed)
    ∧ ∀ a : Arena, a.WellFormed → ∃ d : Document, d.arena = a := by
  refine ⟨fun base steps => ?_, fun base text => ?_, fun a h => h.exists_document⟩
  · have run := Builder.runs_arena (.start base) steps
    have finish := Builder.arena_finish (steps.foldl Builder.after (.start base))
    refine ⟨_, run, fun b' run' => run'.unique run, finish, fun a finished => ?_⟩
    rw [finish] at finished
    cases h : (steps.foldl Builder.after (.start base)).finish with
    | error error =>
      rw [h] at finished
      cases finished
    | ok d =>
      rw [h] at finished
      cases finished
      have made := Builder.made_foldl_after (.start base) steps
      exact Document.wellFormed_arena (Builder.isMerged_finish made.isMerged h)
  · have same := Document.arena_ofText base text
    refine ⟨same, ?_⟩
    rw [← same]
    exact Document.wellFormed_arena (Document.isMerged_ofText base text)

/-- A text, then another one that is copied from a document of its own, and an end too many. -/
theorem arena_invariant_merged_texts :
    let steps : List BuildStep := [.openElement (.ofName (.plain "a")), .text "x",
      .copyChildren (.ofText none "y") ⟨0, by decide⟩, .closeElement, .closeElement]
    let cells : Arena := [⟨.document none, none, [1]⟩,
      ⟨.element (.ofName (.plain "a")), some 0, [2]⟩, ⟨.leaf (.text "xy"), some 1, []⟩]
    ∃ b, ArenaBuilder.Runs (.start none) steps b ∧ b.finish = .ok cells ∧ cells.WellFormed := by
  intro steps cells
  obtain ⟨b, run, -, finish, wellFormed⟩ := arena_invariant.1 none steps
  have finished : b.finish = .ok cells := finish.trans (by decide +kernel)
  exact ⟨b, run, finished, wellFormed cells finished⟩

end Transclusion
