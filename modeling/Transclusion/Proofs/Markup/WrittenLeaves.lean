import Mathlib.Data.List.Infix
import Transclusion.Proofs.Markup.WrittenTags
/-!
# Texts, comments and instructions that are written

A comment is read up to the first `-->` and an instruction up to the first `?>`.  So what they hold
must not have these in it, nor give them together with what is written behind it
(`Leaf.Writable`).  Texts may hold anything.
-/

namespace Transclusion

open Text

/-! ### Where a text is cut at another -/

namespace Text

/-- What comes behind the first occurrence does not matter for where it is. -/
theorem cutAtText_append {needle before : List Char}
    (h : cutAtText needle (before ++ needle) = some (before, [])) (rest : List Char) :
    cutAtText needle (before ++ needle ++ rest) = some (before, rest) := by
  induction before with
  | nil =>
    have here : needle.isPrefixOf? (needle ++ rest) = some rest :=
      List.isPrefixOf?_eq_some_iff_append_eq.mpr rfl
    rw [List.nil_append]
    unfold cutAtText
    rw [here]
  | cons c before ih =>
    rw [List.cons_append, cutAtText] at h
    split at h
    · cases h
    · next absent =>
      have later : cutAtText needle (before ++ needle) = some (before, []) := by
        split at h
        · next found => cases h; exact found
        · cases h
      -- The needle is no longer than what comes before `rest`, so that an occurrence here would be
      -- one without `rest` too.
      have absent' : needle.isPrefixOf? (c :: (before ++ needle ++ rest)) = none := by
        rw [Option.eq_none_iff_forall_ne_some] at absent ⊢
        intro after found
        have same := List.isPrefixOf?_eq_some_iff_append_eq.mp found
        have prefixed : needle <+: c :: (before ++ needle) := by
          refine List.prefix_of_prefix_length_le ⟨after, same⟩ ⟨rest, rfl⟩ ?_
          rw [List.length_cons, List.length_append]
          omega
        obtain ⟨after', same'⟩ := prefixed
        exact absent after' (List.isPrefixOf?_eq_some_iff_append_eq.mpr same')
      rw [List.cons_append, List.cons_append, cutAtText, absent']
      dsimp only
      rw [ih later]

/-- A needle whose last character is at no other place of it does not overlap with itself. -/
theorem not_overlapping {start : List Char} {last : Char} (once : last ∉ start)
    {before shared after : List Char} (nonempty : before ≠ [])
    (absent : ¬ start ++ [last] <:+: before) (left : start ++ [last] = before ++ shared)
    (right : start ++ [last] = shared ++ after) : False := by
  obtain rfl | ⟨shared, d, rfl⟩ := shared.eq_nil_or_concat'
  · rw [List.append_nil] at left
    exact absent (left ▸ List.infix_refl _)
  · rw [← List.append_assoc] at left
    obtain ⟨hstart, same⟩ := List.append_inj' left rfl
    cases same
    obtain rfl | ⟨after, d, rfl⟩ := after.eq_nil_or_concat'
    · rw [List.append_nil] at right
      have again := (List.append_inj' right rfl).1
      rw [hstart, List.append_left_eq_self] at again
      exact nonempty again
    · rw [← List.append_assoc] at right
      have again := (List.append_inj' right rfl).1
      exact once (by simp [again])

/-- A text is not cut before its end if the needle is not in it, nor begins in it: the last
character of the needle is at no other place of the needle. -/
theorem cutAtText_of_absent {start : List Char} {last : Char} (once : last ∉ start)
    {cs : List Char} (absent : ¬ start ++ [last] <:+: cs) :
    cutAtText (start ++ [last]) (cs ++ (start ++ [last])) = some (cs, []) := by
  induction cs with
  | nil =>
    have here : (start ++ [last]).isPrefixOf? (start ++ [last]) = some [] :=
      List.isPrefixOf?_eq_some_iff_append_eq.mpr (List.append_nil _)
    rw [List.nil_append]
    unfold cutAtText
    rw [here]
  | cons c cs ih =>
    have behind := ih fun h => absent (h.trans (List.infix_cons (List.infix_refl cs)))
    have other : (start ++ [last]).isPrefixOf? (c :: (cs ++ (start ++ [last]))) = none := by
      rw [Option.eq_none_iff_forall_ne_some]
      intro after found
      have same := List.isPrefixOf?_eq_some_iff_append_eq.mp found
      rw [← List.cons_append] at same
      obtain ⟨shared, hshared, hafter⟩ | ⟨shared, hshared, hafter⟩ :=
        List.append_eq_append_iff.mp same
      · exact absent ⟨[], shared, by rw [List.nil_append, ← hshared]⟩
      · exact not_overlapping once (List.cons_ne_nil c cs) absent hshared hafter
    rw [List.cons_append, cutAtText, other]
    dsimp only
    rw [behind]

/-- A character that is not in the needle keeps what is on both sides of it apart. -/
theorem infix_append_cons {needle cs ds : List Char} {c : Char} (absent : c ∉ needle)
    (h : needle <:+: cs ++ c :: ds) : needle <:+: cs ∨ needle <:+: ds := by
  have starts : ∀ {start : List Char}, start <+: c :: ds → c ∉ start → start = [] := by
    intro start hstart hc
    obtain rfl | ⟨start, rfl, -⟩ := List.prefix_cons_iff.mp hstart
    · rfl
    · exact absurd List.mem_cons_self hc
  obtain before | behind | ⟨start, stop, rfl, hstart, hstop⟩ := List.infix_append_iff.mp h
  · exact .inl before
  · obtain here | later := List.infix_cons_iff.mp behind
    · exact .inl (starts here absent ▸ List.nil_infix)
    · exact .inr later
  · obtain rfl := starts hstop fun hc => absent (List.mem_append_right start hc)
    rw [List.append_nil]
    exact .inl hstart.isInfix

/-- A text is cut at the first place where the needle is. -/
theorem not_infix_of_cutAtText {needle input before rest : List Char} (nonempty : needle ≠ [])
    (h : cutAtText needle input = some (before, rest)) :
    before <+: input ∧ ¬ needle <:+: before := by
  induction input generalizing before with
  | nil =>
    unfold cutAtText at h
    split at h
    · cases h
      exact ⟨List.nil_prefix, mt List.infix_nil.mp nonempty⟩
    · cases h
  | cons c input ih =>
    unfold cutAtText at h
    split at h
    · cases h
      exact ⟨List.nil_prefix, mt List.infix_nil.mp nonempty⟩
    next absent =>
      dsimp only at h
      split at h
      · next before' rest' cut =>
        cases h
        obtain ⟨start, later⟩ := ih cut
        have start' : c :: before' <+: c :: input := List.cons_prefix_cons.mpr ⟨rfl, start⟩
        refine ⟨start', fun found => ?_⟩
        -- An occurrence would be here, where the needle does not fit, or later on before the cut.
        obtain here | behind := List.infix_cons_iff.mp found
        · obtain ⟨after, same⟩ := here.trans start'
          rw [List.isPrefixOf?_eq_some_iff_append_eq.mpr same] at absent
          cases absent
        · exact later behind
      · cases h

/-- A space before a text that does not begin with white space. -/
theorem trimStart_space {cs : List Char} (leading : ∀ c, cs.head? = some c → isSpace c = false) :
    trimStart (' ' :: cs) = cs := by
  have space : isSpace ' ' = true := by decide
  rw [trimStart, List.dropWhile_cons_of_pos space]
  cases cs with
  | nil => rfl
  | cons c cs => exact List.dropWhile_cons_of_neg (by simp [leading c rfl])

end Text

/-! ### Leaves -/

/-- What is written for an instruction between its marks. -/
def Leaf.instructionContent (target data : String) : List Char :=
  target.toList ++ if data = "" then [] else ' ' :: data.toList

/-- What is written for the leaf is read as the leaf. -/
def Leaf.Writable : Leaf → Prop
  | .text _ => True
  | .comment s => cutAtText ['-', '-', '>'] (s.toList ++ ['-', '-', '>']) = some (s.toList, [])
  | .instruction target data =>
    cutAtText ['?', '>'] (instructionContent target data ++ ['?', '>'])
        = some (instructionContent target data, [])
      ∧ (instructionContent target data).head? ≠ some '>'
      ∧ ∃ raw, Event.ofInstruction (instructionContent target data)
          = .instruction target.toList raw ∧ trimStart raw = data.toList

/-- Whether a leaf is a text. -/
def Leaf.isText : Leaf → Bool
  | .text _ => true
  | _ => false

theorem Leaf.exists_of_isText {l : Leaf} (h : l.isText = true) : ∃ s, l = .text s := by
  cases l with
  | text s => exact ⟨s, rfl⟩
  | comment | instruction => cases h

namespace Leaf

open Event

theorem writable_comment {s : String} (absent : ¬ ['-', '-', '>'] <:+: s.toList) :
    (Leaf.comment s).Writable :=
  @cutAtText_of_absent ['-', '-'] '>' (by decide) _ absent

theorem writable_instruction {target data : String}
    (inTarget : ∀ c ∈ target.toList, isMarkupSpace c = false) (notXml : target ≠ "xml")
    (head : target.toList.head? ≠ some '>') (absentTarget : ¬ ['?', '>'] <:+: target.toList)
    (absent : ¬ ['?', '>'] <:+: data.toList)
    (leading : ∀ c, data.toList.head? = some c → isSpace c = false) :
    (Leaf.instruction target data).Writable := by
  have named : ∀ c ∈ target.toList, (!isMarkupSpace c) = true := fun c hc => by
    rw [inTarget c hc]
    rfl
  refine ⟨@cutAtText_of_absent ['?'] '>' (by decide) _ fun h => ?_, ?_, ?_⟩
  · rw [instructionContent] at h
    split at h
    · rw [List.append_nil] at h
      exact absentTarget h
    · obtain h | h := infix_append_cons (by decide) h
      · exact absentTarget h
      · exact absent h
  · rw [instructionContent]
    cases htarget : target.toList with
    | nil => split <;> simp
    | cons c cs => simpa [htarget] using head
  · have target' : (instructionContent target data).takeWhile (!isMarkupSpace ·)
        = target.toList := by
      rw [instructionContent, List.takeWhile_append_of_pos named]
      split <;> simp [isMarkupSpace]
    have other : target.toList ≠ ['x', 'm', 'l'] := by
      intro same
      exact notXml (String.toList_inj.mp same)
    refine ⟨if data = "" then [] else ' ' :: data.toList, ?_, ?_⟩
    · rw [ofInstruction, target', if_neg other, instructionContent, List.drop_left]
    · split
      · next empty => rw [empty]; rfl
      · exact trimStart_space leading

/-- A leaf that is no text is read as one event. -/
theorem readMarkup_write {l : Leaf} (writable : l.Writable) (noText : l.isText = false) :
    ∃ inside event length, l.write = '<' :: inside
      ∧ (∀ opened rest, readMarkup opened (inside ++ rest) = .ok ⟨event, opened, length, rest⟩)
      ∧ ∀ (r : Reading) stop,
        r.step event stop = .ok { r with builder := r.builder.addLeaf l } := by
  cases l with
  | text s => cases noText
  | comment s =>
    refine ⟨'!' :: '-' :: '-' :: (s.toList ++ ['-', '-', '>']), .comment s.toList,
      utf8Length s.toList + 7, by simp [Leaf.write], fun opened rest => ?_, fun r stop => ?_⟩
    · have cut := cutAtText_append writable rest
      simp only [List.cons_append, readMarkup, readDeclaration]
      rw [cut]
    · rw [Reading.step, String.ofList_toList]
  | instruction target data =>
    obtain ⟨cut, head, raw, event, trimmed⟩ := writable
    refine ⟨'?' :: (instructionContent target data ++ ['?', '>']), .instruction target.toList raw,
      utf8Length (instructionContent target data) + 4, by simp [Leaf.write, instructionContent],
      fun opened rest => ?_, fun r stop => ?_⟩
    · have cut := cutAtText_append cut rest
      have head : (instructionContent target data ++ ['?', '>'] ++ rest).head? ≠ some '>' := by
        cases content : instructionContent target data with
        | nil => simp
        | cons c cs => simpa [content] using head
      simp only [List.cons_append, readMarkup, readInstruction]
      rw [cut]
      dsimp only
      rw [if_neg head, event]
    · rw [Reading.step, trimmed, String.ofList_toList, String.ofList_toList]

end Leaf

end Transclusion
