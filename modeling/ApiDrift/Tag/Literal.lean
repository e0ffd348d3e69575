import ApiDrift.Tag.Date
import ApiDrift.Tag.Email
import ApiDrift.Tag.Segments

/-!
# List literals

A list literal is a bracketed list of elements: bare integers and truth values, quoted texts,
further lists, and objects with pairs `key = value` whose keys are not looked at. The elements that
are yet to be looked at wait in a queue. In each turn the first one either is a leaf or is taken
apart, and the elements found in it wait behind all others, so the nesting of a literal takes no
stack. The waiting elements have fewer and fewer characters, which is why the check ends.
-/

namespace ApiDrift.Tag

/-- The text between an opening and a closing character at its two ends. -/
def enclosed? (opening closing : Char) : List Char → Option (List Char)
  | c :: rest =>
    if c = opening ∧ rest.getLast? = some closing then some rest.dropLast else none
  | [] => none

/-- Whether a text satisfies some tag whose values are quoted inside a literal. -/
def isQuotable (text : List Char) : Bool :=
  isLine text || isDate text || isEmail text || isUuid text || isAuthToken text

/-- Whether an element without brackets is a quoted text, an integer or a truth value. -/
def isLeaf (element : List Char) : Bool :=
  match enclosed? '"' '"' element with
  | some inner => isQuotable inner
  | none => isInteger element || isBoolean element

/-- The value of a pair `key = value`. -/
def pairValue? (pair : List Char) : Option (List Char) :=
  match segments? '=' pair with
  | some [_, value] => some value
  | _ => none

/-- The elements between the brackets of a list. -/
def listElements? (content : List Char) : Option (List (List Char)) :=
  if content.isEmpty then some [] else segments? ',' content

/-- The values between the brackets of an object. -/
def objectElements? (content : List Char) : Option (List (List Char)) :=
  if content.isEmpty then some []
  else (segments? ',' content).bind fun pairs => pairs.mapM pairValue?

/-- The elements that a trimmed element consists of, which are none for a leaf. An element that is
neither a leaf nor well bracketed is refused. -/
def partsOfTrimmed? (element : List Char) : Option (List (List Char)) :=
  if element.head? = some '[' then
    (enclosed? '[' ']' element).bind fun content => listElements? (Text.trim content)
  else if element.head? = some '{' then
    (enclosed? '{' '}' element).bind fun content => objectElements? (Text.trim content)
  else if isLeaf element then some []
  else none

/-- The elements that an element consists of. -/
def parts? (element : List Char) : Option (List (List Char)) :=
  partsOfTrimmed? (Text.trim element)

/-- The elements of a literal that are yet to be looked at, first in first out. -/
structure Queue where
  /-- The elements that come first. -/
  front : List (List Char)
  /-- The elements behind them, from the last one on. -/
  back : List (List Char)
  deriving DecidableEq

namespace Queue

/-- The waiting elements in their order. -/
def elements (queue : Queue) : List (List Char) :=
  queue.front ++ queue.back.reverse

/-- The queue in which one element waits. -/
def single (element : List Char) : Queue := ⟨[element], []⟩

/-- The first element of a queue and the queue behind it. -/
def pop? : Queue → Option (List Char × Queue)
  | ⟨first :: front, back⟩ => some (first, ⟨front, back⟩)
  | ⟨[], back⟩ =>
    match back.reverse with
    | first :: front => some (first, ⟨front, []⟩)
    | [] => none

/-- The queue with elements behind all others. -/
def extend (queue : Queue) (elements : List (List Char)) : Queue :=
  { queue with back := elements.reverse ++ queue.back }

/-- The queue with the values of pairs behind all others. The first pair that has no value ends
it, whatever the ones before it have put into the queue. -/
def extendValues? (queue : Queue) : (pairs : List (List Char)) → Option Queue
  | [] => some queue
  | pair :: rest =>
    (pairValue? pair).bind fun value => (queue.extend [value]).extendValues? rest

/-- The queue with what a trimmed element consists of behind all others, unless the element is
neither a leaf nor well bracketed. -/
def expand? (queue : Queue) (element : List Char) : Option Queue :=
  if element.head? = some '[' then
    (enclosed? '[' ']' element).bind fun inner =>
      let content := Text.trim inner
      if content.isEmpty then some queue else (segments? ',' content).map queue.extend
  else if element.head? = some '{' then
    (enclosed? '{' '}' element).bind fun inner =>
      let content := Text.trim inner
      if content.isEmpty then some queue else (segments? ',' content).bind queue.extendValues?
  else if isLeaf element then some queue
  else none

/-- What a turn comes to. -/
inductive Turn where
  /-- The check ends. -/
  | ends (verdict : Bool)
  /-- The check goes on with a queue. -/
  | goesOn (queue : Queue)
  deriving DecidableEq

/-- One turn of the check: the first element is looked at, and it must not be blank. -/
def turn (queue : Queue) : Turn :=
  match queue.pop? with
  | none => .ends true
  | some (item, rest) =>
    let element := Text.trim item
    if element.isEmpty then .ends false
    else
      match rest.expand? element with
      | some next => .goesOn next
      | none => .ends false

end Queue

/-! ### Why the check ends -/

/-- What stands between two characters stands behind a character that it loses. -/
theorem sublist_enclosed {opening closing : Char} {text inner : List Char}
    (h : enclosed? opening closing text = some inner) : (opening :: inner).Sublist text := by
  cases text with
  | nil => cases h
  | cons c rest =>
    rw [enclosed?] at h
    split at h
    · next hends =>
      obtain rfl := Option.some.inj h
      rw [hends.1]
      exact (List.dropLast_sublist rest).cons_cons opening
    · cases h

/-- The value of a pair stands in the pair. -/
theorem sublist_pairValue {pair value : List Char} (h : pairValue? pair = some value) :
    value.Sublist pair := by
  unfold pairValue? at h
  split at h
  · next key found hsegments =>
    obtain rfl := Option.some.inj h
    have hvalue : found.Sublist [key, found].flatten := List.sublist_flatten_of_mem (by simp)
    exact hvalue.trans (sublist_segments hsegments)
  · cases h

/-- The values of pairs stand in the pairs. -/
theorem sublist_pairValues {pairs values : List (List Char)}
    (h : pairs.mapM pairValue? = some values) : values.flatten.Sublist pairs.flatten := by
  induction pairs generalizing values with
  | nil =>
    obtain rfl : [] = values := by simpa using h
    exact .slnil
  | cons pair rest ih =>
    simp only [List.mapM_cons, Option.bind_eq_bind, Option.bind_eq_some_iff, Option.pure_def,
      Option.some.injEq] at h
    obtain ⟨value, hvalue, others, hothers, rfl⟩ := h
    exact (sublist_pairValue hvalue).append (ih hothers)

/-- The elements of a list stand in its content. -/
theorem sublist_listElements {content : List Char} {elements : List (List Char)}
    (h : listElements? content = some elements) : elements.flatten.Sublist content := by
  unfold listElements? at h
  split at h
  · obtain rfl := Option.some.inj h
    exact List.nil_sublist content
  · exact sublist_segments h

/-- The values of an object stand in its content. -/
theorem sublist_objectElements {content : List Char} {elements : List (List Char)}
    (h : objectElements? content = some elements) : elements.flatten.Sublist content := by
  unfold objectElements? at h
  split at h
  · obtain rfl := Option.some.inj h
    exact List.nil_sublist content
  · obtain ⟨pairs, hpairs, hvalues⟩ := Option.bind_eq_some_iff.mp h
    exact (sublist_pairValues hvalues).trans (sublist_segments hpairs)

/-- The parts of an element stand in it behind a character that they lose. -/
theorem sublist_parts {element : List Char} {parts : List (List Char)}
    (h : parts? element = some parts) : ∃ c, (c :: parts.flatten).Sublist element := by
  have htrim := sublist_trim element
  unfold parts? at h
  generalize Text.trim element = trimmed at h htrim
  unfold partsOfTrimmed? at h
  split at h
  · obtain ⟨inner, hinner, hparts⟩ := Option.bind_eq_some_iff.mp h
    have hcontent := (sublist_listElements hparts).trans (sublist_trim inner)
    exact ⟨'[', (hcontent.cons_cons '[').trans ((sublist_enclosed hinner).trans htrim)⟩
  · split at h
    · obtain ⟨inner, hinner, hparts⟩ := Option.bind_eq_some_iff.mp h
      have hcontent := (sublist_objectElements hparts).trans (sublist_trim inner)
      exact ⟨'{', (hcontent.cons_cons '{').trans ((sublist_enclosed hinner).trans htrim)⟩
    · split at h
      · next hleaf =>
        obtain rfl := Option.some.inj h
        cases trimmed with
        | nil => exact absurd hleaf (by decide)
        | cons c rest => exact ⟨c, ((List.nil_sublist rest).cons_cons c).trans htrim⟩
      · cases h

/-- The total length of texts. -/
def totalLength (texts : List (List Char)) : Nat :=
  texts.flatten.length

/-- The parts of an element have fewer characters than the element. -/
theorem totalLength_parts_lt {element : List Char} {parts : List (List Char)}
    (h : parts? element = some parts) : totalLength parts < element.length := by
  obtain ⟨_, hsublist⟩ := sublist_parts h
  exact hsublist.length_le

namespace Queue

/-- Elements that are put into a queue come behind all others. -/
@[simp] theorem elements_extend (queue : Queue) (elements : List (List Char)) :
    (queue.extend elements).elements = queue.elements ++ elements := by
  simp [Queue.elements, extend]

/-- Elements may be put into a queue in two goes. -/
theorem extend_extend (queue : Queue) (first second : List (List Char)) :
    (queue.extend first).extend second = queue.extend (first ++ second) := by
  simp [extend]

/-- The first element of a queue stands in front of the ones behind it. -/
theorem elements_of_pop? {queue rest : Queue} {element : List Char}
    (h : queue.pop? = some (element, rest)) : queue.elements = element :: rest.elements := by
  obtain ⟨front, back⟩ := queue
  cases front with
  | cons first front =>
    cases h
    rfl
  | nil =>
    rw [pop?] at h
    split at h
    · next first front hback =>
      cases h
      simp [Queue.elements, hback]
    · cases h

/-- The queue that no element can be taken from is the one in which none waits. -/
theorem elements_of_pop?_eq_none {queue : Queue} (h : queue.pop? = none) :
    queue.elements = [] := by
  obtain ⟨front, back⟩ := queue
  cases front with
  | cons first front => cases h
  | nil =>
    rw [pop?] at h
    split at h
    · cases h
    · next hback => simpa [Queue.elements] using hback

/-- The values of pairs come into the queue together or not at all. -/
theorem extendValues?_eq (queue : Queue) (pairs : List (List Char)) :
    queue.extendValues? pairs = (pairs.mapM pairValue?).map queue.extend := by
  induction pairs generalizing queue with
  | nil => rfl
  | cons pair rest ih =>
    rw [extendValues?, List.mapM_cons]
    cases pairValue? pair with
    | none => rfl
    | some value =>
      simp only [Option.bind_some, Option.bind_eq_bind, ih]
      cases rest.mapM pairValue? with
      | none => rfl
      | some values => exact congrArg some (extend_extend queue [value] values)

/-- What a trimmed element consists of comes into the queue. -/
theorem expand?_eq (queue : Queue) (element : List Char) :
    queue.expand? element = (partsOfTrimmed? element).map queue.extend := by
  unfold expand? partsOfTrimmed? listElements? objectElements?
  split
  · cases enclosed? '[' ']' element with
    | none => rfl
    | some inner =>
      simp only [Option.bind_some]
      split <;> rfl
  · split
    · cases enclosed? '{' '}' element with
      | none => rfl
      | some inner =>
        simp only [Option.bind_some]
        split
        · rfl
        · cases segments? ',' (Text.trim inner) with
          | none => rfl
          | some pairs => exact extendValues?_eq queue pairs
    · split <;> rfl

/-- A turn puts the parts of the first element behind the other ones. -/
theorem turn_of_pop? {queue rest : Queue} {element : List Char}
    (h : queue.pop? = some (element, rest)) :
    queue.turn = match parts? element with
      | some parts => .goesOn (rest.extend parts)
      | none => .ends false := by
  rw [turn, h, parts?]
  dsimp only
  split
  · next hempty =>
    rw [List.isEmpty_iff.mp hempty]
    rfl
  · rw [expand?_eq]
    cases partsOfTrimmed? (Text.trim element) <;> rfl

/-- A turn that goes on has taken an element apart and put its parts behind the other ones. -/
theorem exists_of_turn {queue next : Queue} (h : queue.turn = .goesOn next) :
    ∃ element rest parts, queue.elements = element :: rest ∧ parts? element = some parts ∧
      next.elements = rest ++ parts := by
  cases hpop : queue.pop? with
  | none =>
    rw [turn, hpop] at h
    cases h
  | some popped =>
    obtain ⟨element, rest⟩ := popped
    rw [turn_of_pop? hpop] at h
    split at h
    · next parts hparts =>
      cases h
      exact ⟨element, rest.elements, parts, elements_of_pop? hpop, hparts, elements_extend ..⟩
    · cases h

/-- The waiting elements have fewer characters after each turn. -/
theorem totalLength_turn_lt {queue next : Queue} (h : queue.turn = .goesOn next) :
    totalLength next.elements < totalLength queue.elements := by
  obtain ⟨element, rest, parts, helements, hparts, hnext⟩ := exists_of_turn h
  have hlt := totalLength_parts_lt hparts
  rw [helements, hnext]
  simp only [totalLength, List.flatten_append, List.flatten_cons, List.length_append] at *
  omega

/-- Whether all waiting elements are well formed to any depth. -/
def accepts (queue : Queue) : Bool :=
  match _h : queue.turn with
  | .ends verdict => verdict
  | .goesOn next => next.accepts
termination_by totalLength queue.elements
decreasing_by exact totalLength_turn_lt _h

/-- The verdict of the turn that ends the check is the one of the check. -/
theorem accepts_of_ends {queue : Queue} {verdict : Bool} (h : queue.turn = .ends verdict) :
    queue.accepts = verdict := by
  rw [accepts]
  split
  · next hfound => exact Turn.ends.inj (hfound.symm.trans h)
  · next hfound => cases hfound.symm.trans h

/-- A turn that goes on does not change the verdict. -/
theorem accepts_of_goesOn {queue next : Queue} (h : queue.turn = .goesOn next) :
    queue.accepts = next.accepts := by
  rw [accepts]
  split
  · next hfound => cases hfound.symm.trans h
  · next hfound => rw [Turn.goesOn.inj (hfound.symm.trans h)]

end Queue

/-- Whether a text is a list literal. -/
def isList (text : List Char) : Bool :=
  let trimmed := Text.trim text
  (enclosed? '[' ']' trimmed).isSome && (Queue.single trimmed).accepts

end ApiDrift.Tag
