import Transclusion.Proofs.Inclusion.Calls
import Transclusion.Proofs.Markup.Numbering
import Transclusion.Proofs.Outcome
/-!
# Where calls are in their documents

Every call works on one document (`Call.document`) and on one place in it.  The includes that calls
are about are includes of that document under their numbers, and the fallbacks come behind their
includes (`Includer.placed_of_reached`).  A call that stays in its document moves on
(`Includer.position_lt_of_makes`), so that no call can stay there for ever.
-/

namespace Transclusion

/-! ### Encounters -/

/-- What a walk comes upon is an element of the forest under its number. -/
theorem Forest.node_of_encounter {controls : ControlRegistry} {f : Forest} {x : Encounter}
    (parent first : Nat) (h : x ∈ f.encounters controls first) :
    ∃ m n, m < f.size ∧ (f.nodes parent first)[m]? = some n ∧ x.id = first + m
      ∧ n.kind = .element x.element ∧ controls.get? x.element.name = some x.control := by
  induction f generalizing parent first with
  | nil => cases h
  | leaf l rest ih =>
    obtain ⟨m, n, hm, hn, hid, hkind, hcontrol⟩ := ih parent (first + 1) h
    exact ⟨m + 1, n, Nat.succ_lt_succ hm, hn, by omega, hkind, hcontrol⟩
  | element e content rest ihc ihr =>
    -- The nodes behind the element are numbered after all that is inside it.
    have later : x ∈ rest.encounters controls (first + content.size + 1) →
        ∃ m n, m < (element e content rest).size
          ∧ ((element e content rest).nodes parent first)[m]? = some n ∧ x.id = first + m
          ∧ n.kind = .element x.element ∧ controls.get? x.element.name = some x.control := by
      intro hx
      obtain ⟨m, n, hm, hn, hid, hkind, hcontrol⟩ := ihr parent (first + content.size + 1) hx
      refine ⟨content.size + m + 1, n, ?_, ?_, by omega, hkind, hcontrol⟩
      · rw [size]
        omega
      · rwa [getElem?_nodes_behind]
    rw [encounters] at h
    split at h
    · next control hget =>
      obtain rfl | hx := List.mem_cons.mp h
      · exact ⟨0, ⟨.element e, some parent, content.size + 1⟩, Nat.succ_pos _, rfl, rfl, rfl, hget⟩
      · exact later hx
    · obtain hx | hx := List.mem_append.mp h
      · obtain ⟨m, n, hm, hn, hid, hkind, hcontrol⟩ := ihc first (first + 1) hx
        refine ⟨m + 1, n, ?_, ?_, by omega, hkind, hcontrol⟩
        · rw [size]
          omega
        · rw [nodes, List.cons_append, List.getElem?_cons_succ,
            List.getElem?_append_left (by rwa [length_nodes])]
          exact hn
      · exact later hx

/-- What the walk of a document comes upon is an element of it under its number. -/
theorem Document.element?_of_encounter {controls : ControlRegistry} {d : Document} {x : Encounter}
    (hx : x ∈ d.content.encounters controls 1) :
    1 ≤ x.id ∧ d.nodes.element? x.id = some x.element
      ∧ controls.get? x.element.name = some x.control := by
  obtain ⟨m, n, hm, hn, hid, hkind, hcontrol⟩ := Forest.node_of_encounter 0 1 hx
  refine ⟨by omega, NodeList.element?_eq_some_iff.mpr ⟨n, ?_, hkind⟩, hcontrol⟩
  rw [Document.nodes_getElem?, hid, Nat.add_comm 1 m]
  exact hn

namespace Includer

variable (includer : Includer)

/-- What a call comes upon is a control element of its document, behind the node where it starts. -/
theorem element?_of_encounter {call : Call} {d : Document} {first : Nat} {f : Forest}
    {x : Encounter} (walked : call.walked? = some (d, first, f))
    (hx : x ∈ f.encounters includer.controls first) :
    first ≤ x.id ∧ d.nodes.element? x.id = some x.element
      ∧ includer.controls.get? x.element.name = some x.control := by
  cases call with
  | walk d' =>
    cases walked
    exact Document.element?_of_encounter hx
  | fallback site id =>
    cases walked
    rw [fallbackContent] at hx
    cases ht : site.document.subtree? id with
    | none =>
      rw [ht] at hx
      cases hx
    | some t =>
      rw [ht] at hx
      obtain ⟨m, n, hm, hn, hid, hkind, hcontrol⟩ := Forest.node_of_encounter id (id + 1) hx
      refine ⟨by omega, NodeList.element?_eq_some_iff.mpr ⟨n, ?_, hkind⟩, hcontrol⟩
      rw [Document.nodes_getElem?, hid, Document.nodeList_inside ht hm]
      exact hn
  | inclusion d' id e => cases walked
  | resolution site parseType => cases walked

/-! ### Fallbacks -/

theorem mem_of_fallbackChild? {ns : NodeList} {id child : Nat}
    (h : includer.fallbackChild? ns id = .ok (some child)) : child ∈ ns.elementChildren id := by
  rw [fallbackChild?] at h
  refine foldlM_keeps (fun o : Option Nat => ∀ c, o = some c → c ∈ ns.elementChildren id)
    ?_ ?_ h child rfl
  · intro c hc
    cases hc
  intro o c o' ho hc step c' hc'
  split at step
  · cases step
    exact ho c' hc'
  split at step
  · split at step
    · cases step
    · cases step
      cases hc'
      exact hc
  split at step
  · cases step
  · cases step
    exact ho c' hc'

/-- A fallback is inside its include. -/
theorem inside_of_fallbackChild? {d : Document} {id child : Nat}
    (h : includer.fallbackChild? d.nodes id = .ok (some child)) :
    id < child ∧ child < id + d.nodes.extent id := by
  have hmem := includer.mem_of_fallbackChild? h
  unfold NodeList.elementChildren NodeList.children at hmem
  have hrange := (List.mem_filter.mp (List.mem_filter.mp hmem).1).1
  rw [List.mem_range'_1] at hrange
  omega

end Includer

/-! ### Places -/

/-- The document that a call works on. -/
def Call.document : Call → Document
  | walk d => d
  | inclusion d _ _ => d
  | resolution site _ => site.document
  | fallback site _ => site.document

/-- How far a call has come in its document. An include comes before its resolution, and that before
the nodes inside the include. -/
def Call.position : Call → Nat
  | walk _ => 0
  | inclusion _ id _ => 3 * id + 1
  | resolution site _ => 3 * site.id + 2
  | fallback _ id => 3 * id

namespace Includer

variable (includer : Includer)

/-- The node with the number `id` is this element, and an include. -/
def IsInclude (d : Document) (id : Nat) (e : Element) : Prop :=
  d.nodes.element? id = some e ∧ includer.controls.get? e.name = some .inclusion

/-- The include that a call is about is one of its document, and its fallback one of the include. -/
def Placed : Call → Prop
  | .walk _ => True
  | .inclusion d id e => includer.IsInclude d id e
  | .resolution site _ => includer.IsInclude site.document site.id site.element
  | .fallback site id => includer.IsInclude site.document site.id site.element
      ∧ site.id < id ∧ id < site.document.size

variable {includer}

theorem IsInclude.lt_size {d : Document} {id : Nat} {e : Element} (h : includer.IsInclude d id e) :
    id < d.size :=
  (Document.bounds_of_element? h.1).2

theorem Placed.position_le {call : Call} (h : includer.Placed call) :
    call.position ≤ 3 * call.document.size := by
  cases call with
  | walk d => exact Nat.zero_le _
  | inclusion d id e =>
    have hlt := IsInclude.lt_size h
    simp only [Call.position, Call.document]
    omega
  | resolution site parseType =>
    have hlt := IsInclude.lt_size h
    simp only [Call.position, Call.document]
    omega
  | fallback site id =>
    have hlt := h.2.2
    simp only [Call.position, Call.document]
    omega

theorem IsInclude.fallback {d : Document} {id child : Nat} {e : Element}
    (h : includer.IsInclude d id e)
    (hchild : includer.fallbackChild? d.nodes id = .ok (some child)) :
    id < child ∧ child < d.size := by
  obtain ⟨after, inside⟩ := includer.inside_of_fallbackChild? hchild
  obtain ⟨t, ht⟩ := Document.exists_subtree? h.lt_size
  rw [Document.extent_eq ht] at inside
  have hle := Document.extent_le ht
  exact ⟨after, by omega⟩

variable (includer)

theorem placed_of_makes {call next : Call} {s s' : UriStack} (h : includer.Placed call)
    (makes : includer.Makes (call, s) (next, s')) : includer.Placed next := by
  cases makes with
  | encounter walked place answered =>
    obtain ⟨-, helement, hcontrol⟩ := includer.element?_of_encounter walked
      (place ▸ List.mem_append_right _ List.mem_cons_self)
    exact ⟨helement, hcontrol⟩
  | attempt => exact h
  | forced attributes child => exact ⟨h, IsInclude.fallback h child⟩
  | failed attributes child => exact ⟨h, IsInclude.fallback h child⟩
  | markup => trivial
  | text => trivial
  | selected => trivial

/-- The includes that the calls of an expansion are about are where the calls say. -/
theorem placed_of_reached {d : Document} {p : Call × UriStack} (reached : includer.Reached d p) :
    includer.Placed p.1 := by
  rw [Reached] at reached
  induction reached with
  | refl => trivial
  | tail _ makes ih => exact includer.placed_of_makes ih makes

/-- A call that does not come from a resolution is in the same document, and further on. -/
theorem position_lt_of_makes {call next : Call} {s s' : UriStack} (h : includer.Placed call)
    (makes : includer.Makes (call, s) (next, s')) :
    (∃ site parseType, call = .resolution site parseType)
      ∨ next.document = call.document ∧ call.position < next.position := by
  -- Positions grow within a document; only what makes another one goes back to its start.
  cases makes with
  | encounter walked place answered =>
    obtain ⟨hle, -⟩ := includer.element?_of_encounter walked
      (place ▸ List.mem_append_right _ List.mem_cons_self)
    refine .inr ?_
    cases call with
    | walk d =>
      cases walked
      exact ⟨rfl, Nat.succ_pos _⟩
    | fallback site id =>
      cases walked
      dsimp only at hle
      refine ⟨rfl, ?_⟩
      simp only [Call.position]
      omega
    | inclusion d id e => cases walked
    | resolution site parseType => cases walked
  | attempt => exact .inr ⟨rfl, Nat.lt_succ_self _⟩
  | forced attributes child =>
    obtain ⟨hlt, -⟩ := IsInclude.fallback h child
    refine .inr ⟨rfl, ?_⟩
    simp only [Call.position]
    omega
  | failed attributes child =>
    obtain ⟨hlt, -⟩ := IsInclude.fallback h child
    refine .inr ⟨rfl, ?_⟩
    simp only [Call.position]
    omega
  | markup => exact .inl ⟨_, _, rfl⟩
  | text => exact .inl ⟨_, _, rfl⟩
  | selected => exact .inl ⟨_, _, rfl⟩

end Includer

end Transclusion
