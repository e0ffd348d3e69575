import ApiDrift.Tag.Literal
import ApiDrift.Proofs.Text.Trim
import Mathlib.Data.List.Forall2

/-!
# The parts of a literal

The elements of a literal are looked at one after the other, whatever their depth. What is found out
that way is a plain recursion over the literal: an element is accepted when it is taken apart into
elements that are accepted. The order in which elements are looked at plays no part.
-/

namespace ApiDrift.Tag

/-- An element that is taken apart into accepted elements, which are none for a leaf. -/
inductive Accepted : List Char → Prop where
  /-- All parts of an element are accepted. -/
  | intro {element : List Char} {parts : List (List Char)} (hparts : parts? element = some parts)
      (haccepted : ∀ part ∈ parts, Accepted part) : Accepted element

/-- A text is the given one between two characters. -/
theorem enclosed?_eq_some_iff {opening closing : Char} {text inner : List Char} :
    enclosed? opening closing text = some inner ↔ text = opening :: (inner ++ [closing]) := by
  cases text with
  | nil => simp [enclosed?]
  | cons c rest =>
    rw [enclosed?]
    constructor
    · intro h
      split at h
      · next hends =>
        obtain ⟨rfl, hlast⟩ := hends
        obtain ⟨before, rfl⟩ := List.getLast?_eq_some_iff.mp hlast
        rw [List.dropLast_concat, Option.some.injEq] at h
        rw [h]
      · cases h
    · intro h
      obtain ⟨rfl, rfl⟩ := List.cons.inj h
      simp

/-- The parts of a list are its elements. -/
theorem partsOfTrimmed?_list (content : List Char) :
    partsOfTrimmed? ('[' :: (content ++ [']'])) = listElements? (Text.trim content) := by
  rw [partsOfTrimmed?, if_pos List.head?_cons, enclosed?_eq_some_iff.mpr rfl, Option.bind_some]

/-- The parts of an object are its values. -/
theorem partsOfTrimmed?_object (content : List Char) :
    partsOfTrimmed? ('{' :: (content ++ ['}'])) = objectElements? (Text.trim content) := by
  rw [partsOfTrimmed?, if_neg (by simp), if_pos List.head?_cons, enclosed?_eq_some_iff.mpr rfl,
    Option.bind_some]

/-- A leaf without a bracket at its front has no parts. -/
theorem partsOfTrimmed?_leaf {element : List Char} (hbracket : element.head? ≠ some '[')
    (hbrace : element.head? ≠ some '{') (h : isLeaf element = true) :
    partsOfTrimmed? element = some [] := by
  rw [partsOfTrimmed?, if_neg hbracket, if_neg hbrace, if_pos h]

/-- An element that is taken apart is a list, an object or a leaf. -/
theorem partsOfTrimmed?_cases {element : List Char} {parts : List (List Char)}
    (h : partsOfTrimmed? element = some parts) :
    (∃ content, element = '[' :: (content ++ [']']) ∧
      listElements? (Text.trim content) = some parts) ∨
    (∃ content, element = '{' :: (content ++ ['}']) ∧
      objectElements? (Text.trim content) = some parts) ∨
    (isLeaf element = true ∧ parts = []) := by
  unfold partsOfTrimmed? at h
  split at h
  · obtain ⟨content, hcontent, hparts⟩ := Option.bind_eq_some_iff.mp h
    exact .inl ⟨content, enclosed?_eq_some_iff.mp hcontent, hparts⟩
  · split at h
    · obtain ⟨content, hcontent, hparts⟩ := Option.bind_eq_some_iff.mp h
      exact .inr (.inl ⟨content, enclosed?_eq_some_iff.mp hcontent, hparts⟩)
    · split at h
      · next hleaf => exact .inr (.inr ⟨hleaf, (Option.some.inj h).symm⟩)
      · cases h

/-- A partial function is defined on all of a list exactly when it is on each element. -/
theorem mapM_eq_some_iff {α β : Type} {f : α → Option β} {xs : List α} {ys : List β} :
    xs.mapM f = some ys ↔ List.Forall₂ (fun x y => f x = some y) xs ys := by
  induction xs generalizing ys with
  | nil => simp [List.forall₂_nil_left_iff, eq_comm]
  | cons x rest ih =>
    simp only [List.mapM_cons, Option.bind_eq_bind, Option.bind_eq_some_iff, Option.pure_def,
      Option.some.injEq, List.forall₂_cons_left_iff, ih]
    constructor
    · rintro ⟨y, hy, others, hothers, rfl⟩
      exact ⟨y, others, hy, hothers, rfl⟩
    · rintro ⟨y, others, hy, hothers, rfl⟩
      exact ⟨y, hy, others, hothers, rfl⟩

/-- An element is accepted exactly when its parts are. -/
theorem accepted_iff_of_parts {element : List Char} {parts : List (List Char)}
    (h : parts? element = some parts) :
    Accepted element ↔ ∀ part ∈ parts, Accepted part := by
  refine ⟨?_, Accepted.intro h⟩
  rintro ⟨hparts, haccepted⟩
  rw [hparts] at h
  exact Option.some.inj h ▸ haccepted

/-- An element that is not taken apart is not accepted. -/
theorem not_accepted_of_parts {element : List Char} (h : parts? element = none) :
    ¬Accepted element := by
  rintro ⟨hparts, -⟩
  rw [h] at hparts
  cases hparts

/-- A trimmed text that begins with no bracket is accepted exactly when it is a leaf. -/
theorem accepted_iff_isLeaf {element : List Char} (htrim : Text.trim element = element)
    (hbracket : element.head? ≠ some '[') (hbrace : element.head? ≠ some '{') :
    Accepted element ↔ isLeaf element = true := by
  constructor
  · rintro ⟨hparts, -⟩
    rw [parts?, htrim] at hparts
    rcases partsOfTrimmed?_cases hparts with ⟨content, rfl, -⟩ | ⟨content, rfl, -⟩ | ⟨hleaf, -⟩
    · exact absurd rfl hbracket
    · exact absurd rfl hbrace
    · exact hleaf
  · intro hleaf
    have hparts : parts? element = some [] := by
      rw [parts?, htrim]
      exact partsOfTrimmed?_leaf hbracket hbrace hleaf
    exact (accepted_iff_of_parts hparts).mpr fun _ hpart => by cases hpart

/-- A turn that goes on keeps whether all waiting elements are accepted. -/
theorem Queue.accepted_turn_iff {queue next : Queue} (h : queue.turn = .goesOn next) :
    (∀ element ∈ next.elements, Accepted element) ↔ ∀ element ∈ queue.elements, Accepted element := by
  obtain ⟨element, rest, parts, helements, hparts, hnext⟩ := exists_of_turn h
  rw [helements, hnext, List.forall_mem_append, List.forall_mem_cons,
    accepted_iff_of_parts hparts, and_comm]

/-- The check ends with what is so of all waiting elements. -/
theorem Queue.accepted_ends_iff {queue : Queue} {verdict : Bool} (h : queue.turn = .ends verdict) :
    verdict = true ↔ ∀ element ∈ queue.elements, Accepted element := by
  cases hpop : queue.pop? with
  | none =>
    rw [turn, hpop] at h
    cases h
    simp [elements_of_pop?_eq_none hpop]
  | some popped =>
    obtain ⟨element, rest⟩ := popped
    rw [turn_of_pop? hpop] at h
    split at h
    · cases h
    · next hnone =>
      cases h
      simp [elements_of_pop? hpop, not_accepted_of_parts hnone]

/-- A queue passes the check exactly when each waiting element is accepted. -/
theorem Queue.accepts_iff {queue : Queue} :
    queue.accepts = true ↔ ∀ element ∈ queue.elements, Accepted element := by
  induction queue using Queue.accepts.induct with
  | case1 queue verdict hends => rw [accepts_of_ends hends, accepted_ends_iff hends]
  | case2 queue next hnext ih => rw [accepts_of_goesOn hnext, ih, accepted_turn_iff hnext]

/-- An element is accepted as its trimmed text is. -/
theorem accepted_trim_iff {element : List Char} :
    Accepted (Text.trim element) ↔ Accepted element := by
  have hparts : parts? (Text.trim element) = parts? element := by
    rw [parts?, Text.trim_trim, parts?]
  constructor
  · rintro ⟨hfound, haccepted⟩
    exact .intro (hparts ▸ hfound) haccepted
  · rintro ⟨hfound, haccepted⟩
    exact .intro (hparts.trans hfound) haccepted

/-- A text is a list literal exactly when it is accepted and stands, trimmed, between the brackets
of a list. -/
theorem isList_iff {text : List Char} :
    isList text = true ↔
      (∃ content, Text.trim text = '[' :: (content ++ [']'])) ∧ Accepted text := by
  unfold isList
  have hsingle : ∀ element, (Queue.single element).elements = [element] := fun _ => rfl
  simp only [Bool.and_eq_true, Queue.accepts_iff, hsingle, List.forall_mem_singleton,
    accepted_trim_iff, Option.isSome_iff_exists, enclosed?_eq_some_iff]

end ApiDrift.Tag
