import ApiDrift.Proofs.Tag.Parts
import Mathlib.Data.String.Basic

/-!
# In which order a literal is visited

The check of a literal visits its elements in the order of a queue, in which the elements of one
list wait behind those of another depth. A plain recursion on the length of a text comes to the same
verdict, and so does any order in which the waiting elements are visited. Each turn of the check
takes away characters, so it ends after as many turns as there are characters.
-/

namespace ApiDrift.Tag

/-- The segments of the content of an element that is enclosed have fewer characters than the
element. -/
theorem length_segment_lt {opening closing delimiter : Char} {text inner segment : List Char}
    {segments : List (List Char)}
    (hinner : enclosed? opening closing (Text.trim text) = some inner)
    (hsegments : segments? delimiter (Text.trim inner) = some segments)
    (hsegment : segment ∈ segments) : segment.length < text.length := by
  have hcontent : segment.Sublist inner :=
    (List.sublist_flatten_of_mem hsegment).trans
      ((sublist_segments hsegments).trans (sublist_trim inner))
  exact ((hcontent.cons_cons opening).trans
    ((sublist_enclosed hinner).trans (sublist_trim text))).length_le

/-- The value of a pair has no more characters than the pair. -/
theorem length_value_le {pair key value : List Char}
    (h : segments? '=' pair = some [key, value]) : value.length ≤ pair.length := by
  have hvalue : value.Sublist [key, value].flatten := List.sublist_flatten_of_mem (by simp)
  exact (hvalue.trans (sublist_segments h)).length_le

/-- Whether an element is well formed to any depth, by recursion on its length. -/
def isElement (text : List Char) : Bool :=
  let element := Text.trim text
  if element.isEmpty then false
  else if element.head? = some '[' then
    match _hinner : enclosed? '[' ']' element with
    | none => false
    | some inner =>
      let content := Text.trim inner
      if content.isEmpty then true
      else
        match _hsegments : segments? ',' content with
        | none => false
        | some segments => segments.attach.all fun segment => isElement segment.1
  else if element.head? = some '{' then
    match _hinner : enclosed? '{' '}' element with
    | none => false
    | some inner =>
      let content := Text.trim inner
      if content.isEmpty then true
      else
        match _hpairs : segments? ',' content with
        | none => false
        | some pairs => pairs.attach.all fun pair =>
          match _hpair : segments? '=' pair.1 with
          | some [_, value] => isElement value
          | _ => false
  else isLeaf element
termination_by text.length
decreasing_by
  · exact length_segment_lt _hinner _hsegments segment.2
  · exact Nat.lt_of_le_of_lt (length_value_le _hpair) (length_segment_lt _hinner _hpairs pair.2)

/-- Something holds of the values of all pairs when each pair has one of which it holds. -/
theorem all_pairValue? (check : List Char → Bool) (pairs : List (List Char)) :
    (pairs.mapM pairValue?).any (·.all check) = pairs.all fun pair => (pairValue? pair).any check := by
  induction pairs with
  | nil => rfl
  | cons pair rest ih =>
    rw [List.mapM_cons, List.all_cons, ← ih]
    cases pairValue? pair with
    | none => rfl
    | some value => cases rest.mapM pairValue? <;> simp

/-- An element is well formed when it is taken apart into elements that are. -/
theorem isElement_eq (text : List Char) :
    isElement text = (parts? text).any fun parts => parts.all isElement := by
  rw [isElement, parts?, partsOfTrimmed?]
  dsimp only
  split
  · next hempty =>
    rw [List.isEmpty_iff.mp hempty]
    rfl
  · split
    · split
      · next hnone => rw [hnone]; rfl
      · next inner hinner =>
        rw [hinner, Option.bind_some, listElements?]
        split
        · rfl
        · split
          · next hnone => rw [hnone]; rfl
          · next segments hsegments =>
            rw [hsegments]
            simp
    · split
      · split
        · next hnone => rw [hnone]; rfl
        · next inner hinner =>
          rw [hinner, Option.bind_some, objectElements?]
          split
          · rfl
          · split
            · next hnone => rw [hnone]; rfl
            · next pairs hpairs =>
              rw [hpairs, Option.bind_some, all_pairValue?,
                List.all_subtype (g := fun pair => (pairValue? pair).any isElement) fun pair _ => ?_,
                List.unattach_attach]
              rw [pairValue?]
              split
              · next hpair => rw [hpair]; rfl
              · next hother =>
                split
                · next hpair => exact absurd hpair (hother _ _)
                · rfl
      · cases isLeaf (Text.trim text) <;> rfl

/-- The recursion accepts the elements that are taken apart into accepted ones. -/
theorem isElement_iff {text : List Char} : isElement text = true ↔ Accepted text := by
  rw [isElement_eq]
  cases hparts : parts? text with
  | none => simp [not_accepted_of_parts hparts]
  | some parts =>
    rw [Option.any_some, List.all_eq_true, accepted_iff_of_parts hparts]
    exact forall₂_congr fun part hpart => isElement_iff
termination_by text.length
decreasing_by
  exact Nat.lt_of_le_of_lt (List.sublist_flatten_of_mem hpart).length_le
    (totalLength_parts_lt hparts)

/-! ### Turns of the check -/

namespace Queue

/-- What a number of turns come to. -/
def after : Nat → Queue → Turn
  | 0, queue => .goesOn queue
  | turns + 1, queue =>
    match queue.turn with
    | .ends verdict => .ends verdict
    | .goesOn next => next.after turns

/-- The check ends after at most one turn more than there are characters. -/
theorem exists_after (queue : Queue) :
    ∃ turns ≤ totalLength queue.elements + 1, queue.after turns = .ends queue.accepts := by
  induction queue using Queue.accepts.induct with
  | case1 queue verdict hends =>
    refine ⟨1, Nat.le_add_left .., ?_⟩
    rw [after, hends, accepts_of_ends hends]
  | case2 queue next hnext ih =>
    obtain ⟨turns, hturns, hafter⟩ := ih
    have hlt := totalLength_turn_lt hnext
    refine ⟨turns + 1, by omega, ?_⟩
    rw [after, hnext, accepts_of_goesOn hnext]
    exact hafter

/-- The check accepts a queue when the recursion accepts all that waits in it. -/
theorem accepts_eq_all (queue : Queue) : queue.accepts = queue.elements.all isElement := by
  rw [Bool.eq_iff_iff, accepts_iff, List.all_eq_true]
  exact forall₂_congr fun _ _ => isElement_iff.symm

end Queue

/-- The total number of octets of texts. -/
def totalOctets (texts : List (List Char)) : Nat :=
  (String.ofList texts.flatten).utf8ByteSize

/-- The waiting elements have fewer octets after each turn. -/
theorem totalOctets_turn_lt {queue next : Queue} (h : queue.turn = .goesOn next) :
    totalOctets next.elements < totalOctets queue.elements := by
  obtain ⟨element, rest, parts, helements, hparts, hnext⟩ := Queue.exists_of_turn h
  obtain ⟨c, hsublist⟩ := sublist_parts hparts
  have hle := String.utf8Len_le_of_sublist hsublist
  have hpos := c.utf8Size_pos
  rw [helements, hnext, totalOctets, totalOctets, String.utf8ByteSize_ofList,
    String.utf8ByteSize_ofList, List.flatten_append, List.flatten_cons, String.utf8Len_append,
    String.utf8Len_append]
  rw [String.utf8Len_cons] at hle
  omega

/-! ### Any order -/

/-- The waiting elements are visited in some order until the check ends with a verdict. -/
inductive Visits : List (List Char) → Bool → Prop where
  /-- No element waits. -/
  | done : Visits [] true
  /-- One of the waiting elements is not taken apart. -/
  | refused {waiting others : List (List Char)} {element : List Char}
    (hwaits : waiting.Perm (element :: others)) (hrefused : parts? element = none) :
    Visits waiting false
  /-- One of the waiting elements is taken apart, and its parts wait with the other ones. -/
  | takenApart {waiting others parts : List (List Char)} {element : List Char} {verdict : Bool}
    (hwaits : waiting.Perm (element :: others)) (hparts : parts? element = some parts)
    (hrest : Visits (others ++ parts) verdict) : Visits waiting verdict

/-- No order comes to another verdict than the recursion. -/
theorem Visits.eq_all {waiting : List (List Char)} {verdict : Bool} (h : Visits waiting verdict) :
    verdict = waiting.all isElement := by
  induction h with
  | done => rfl
  | @refused waiting others element hwaits hrefused =>
    rw [hwaits.all_eq, List.all_cons, isElement_eq, hrefused]
    rfl
  | @takenApart waiting others parts element verdict hwaits hparts _ ih =>
    rw [ih, hwaits.all_eq, List.all_cons, isElement_eq element, hparts, List.all_append,
      Option.any_some, Bool.and_comm]

/-- Visits come to the verdict of the recursion, whichever element is visited next. -/
theorem visits_all (waiting : List (List Char)) : Visits waiting (waiting.all isElement) := by
  cases waiting with
  | nil => exact .done
  | cons element others =>
    cases hparts : parts? element with
    | none =>
      have hrefused : Visits (element :: others) false := .refused (.refl _) hparts
      exact hrefused.eq_all ▸ hrefused
    | some parts =>
      have hrest := visits_all (others ++ parts)
      have hvisits : Visits (element :: others) _ := .takenApart (.refl _) hparts hrest
      exact hvisits.eq_all ▸ hvisits
termination_by totalLength waiting
decreasing_by
  have hlt := totalLength_parts_lt hparts
  simp only [totalLength, List.flatten_append, List.flatten_cons, List.length_append] at *
  omega

/-- A text stands between two different characters exactly when it begins and ends with them. -/
theorem exists_enclosed_iff {opening closing : Char} (hne : opening ≠ closing) {text : List Char} :
    (∃ content, text = opening :: (content ++ [closing])) ↔
      text.head? = some opening ∧ text.getLast? = some closing := by
  constructor
  · rintro ⟨content, rfl⟩
    exact ⟨rfl, by rw [← List.cons_append, List.getLast?_concat]⟩
  · rintro ⟨hhead, hlast⟩
    obtain ⟨before, rfl⟩ := List.getLast?_eq_some_iff.mp hlast
    cases before with
    | nil => exact absurd (Option.some.inj hhead) hne.symm
    | cons first content =>
      obtain rfl : first = opening := Option.some.inj hhead
      exact ⟨content, rfl⟩

/-- The check of a literal by a queue ends, since every turn that goes on leaves fewer characters
and octets waiting. It comes to the verdict of the recursion, and so do visits in any order: a text
is a list literal exactly when, trimmed, it has two octets or more, begins and ends with the
brackets of a list and is well formed to any depth. -/
theorem isList_iff_isElement (text : List Char) :
    (∀ queue next : Queue, queue.turn = .goesOn next →
      totalLength next.elements < totalLength queue.elements ∧
        totalOctets next.elements < totalOctets queue.elements) ∧
      (∀ queue : Queue, queue.accepts = queue.elements.all isElement ∧
        ∃ turns ≤ totalLength queue.elements + 1, queue.after turns = .ends queue.accepts) ∧
      (isList text = true ↔ 2 ≤ (String.ofList (Text.trim text)).utf8ByteSize ∧
        (Text.trim text).head? = some '[' ∧ (Text.trim text).getLast? = some ']' ∧
          isElement text = true) ∧
      ∀ waiting verdict, Visits waiting verdict ↔ verdict = waiting.all isElement := by
  refine ⟨fun _ _ h => ⟨Queue.totalLength_turn_lt h, totalOctets_turn_lt h⟩,
    fun queue => ⟨queue.accepts_eq_all, queue.exists_after⟩, ?_,
    fun waiting _ => ⟨Visits.eq_all, fun h => h ▸ visits_all waiting⟩⟩
  rw [isList_iff, isElement_iff, ← and_assoc (c := Accepted text), ← and_assoc,
    and_congr_left_iff]
  intro _
  rw [← exists_enclosed_iff (by decide), iff_and_self]
  rintro ⟨content, hcontent⟩
  rw [hcontent, String.utf8ByteSize_ofList, String.utf8Len_cons, String.utf8Len_append]
  have hopening : '['.utf8Size = 1 := rfl
  have hclosing : String.utf8Len [']'] = 1 := rfl
  omega

/-- A turn puts the values of an object behind an element that waits already, and a literal with
that object is accepted. -/
theorem isList_iff_isElement_object :
    (Queue.mk ["\x7b\"é\"=[1],\"b\"=true\x7d".toList, "\"]\"".toList] []).turn =
        .goesOn ⟨["\"]\"".toList], ["true".toList, "[1]".toList]⟩ ∧
      totalLength ["\"]\"".toList, "[1]".toList, "true".toList] <
        totalLength ["\x7b\"é\"=[1],\"b\"=true\x7d".toList, "\"]\"".toList] ∧
      totalOctets ["\"]\"".toList, "[1]".toList, "true".toList] <
        totalOctets ["\x7b\"é\"=[1],\"b\"=true\x7d".toList, "\"]\"".toList] ∧
      isList " [\x7b\"é\"=[1],\"b\"=true\x7d,\"]\"]".toList = true := by
  have hturn : (Queue.mk ["\x7b\"é\"=[1],\"b\"=true\x7d".toList, "\"]\"".toList] []).turn =
      .goesOn ⟨["\"]\"".toList], ["true".toList, "[1]".toList]⟩ := by decide +kernel
  have hlist : parts? " [\x7b\"é\"=[1],\"b\"=true\x7d,\"]\"]".toList =
      some ["\x7b\"é\"=[1],\"b\"=true\x7d".toList, "\"]\"".toList] := by decide +kernel
  have hobject : parts? "\x7b\"é\"=[1],\"b\"=true\x7d".toList =
      some ["[1]".toList, "true".toList] := by decide +kernel
  have hinner : parts? "[1]".toList = some ["1".toList] := by decide +kernel
  have hleaves : ∀ leaf ∈ ["\"]\"", "1", "true"], parts? leaf.toList = some [] := by
    decide +kernel
  have hleaf : ∀ leaf ∈ ["\"]\"", "1", "true"], Accepted leaf.toList := fun leaf hmem =>
    .intro (hleaves leaf hmem) fun _ hpart => by cases hpart
  have hone : Accepted "[1]".toList :=
    .intro hinner (List.forall_mem_singleton.mpr (hleaf "1" (by simp)))
  have hpairs : Accepted "\x7b\"é\"=[1],\"b\"=true\x7d".toList :=
    .intro hobject (List.forall_mem_cons.mpr
      ⟨hone, List.forall_mem_singleton.mpr (hleaf "true" (by simp))⟩)
  obtain ⟨hdecreases, -, haccepted, -⟩ :=
    isList_iff_isElement " [\x7b\"é\"=[1],\"b\"=true\x7d,\"]\"]".toList
  obtain ⟨hlength, hoctets⟩ := hdecreases _ _ hturn
  refine ⟨hturn, hlength, hoctets, haccepted.mpr ⟨by decide +kernel, by decide +kernel,
    by decide +kernel, isElement_iff.mpr (.intro hlist (List.forall_mem_cons.mpr
      ⟨hpairs, List.forall_mem_singleton.mpr (hleaf "\"]\"" (by simp))⟩))⟩⟩

end ApiDrift.Tag
