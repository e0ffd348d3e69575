import ApiDrift.Checked
import ApiDrift.Tag.Literal

/-!
# List literals with a depth of 32 bits

The depth of a scan is counted in a signed word of 32 bits. When a text opens more brackets than the
word can count, either the check goes wrong, or the depth is reduced to the word and the scan goes
on with it. Apart from that the check takes a literal apart as one does whose depth has no bound.
-/

namespace ApiDrift.Tag

section

variable (overflow : Overflow)

/-- The state behind one more character, whose depth is put into its word. -/
def Scan.count (s : Scan) (c : Char) : Except Misstep Scan :=
  (Checked.signed overflow (s.step c).depth).map fun depth => ⟨depth, (s.step c).quoting⟩

/-- The pieces of `text` in state `s`, with the piece in progress and the ones before it in
reversed order. -/
def countedCut (delimiter : Char) (s : Scan) (current : List Char) (done : List (List Char)) :
    (text : List Char) → Except Misstep (Option (List (List Char)))
  | [] => .ok (if s.isBalanced then some (current.reverse :: done).reverse else none)
  | c :: rest =>
    if s.cutsAt delimiter c then countedCut delimiter s [] (current.reverse :: done) rest
    else (s.count overflow c).bind fun next => countedCut delimiter next (c :: current) done rest

/-- The segments of a text, which are its pieces without the blank characters around them. -/
def countedSegments (delimiter : Char) (text : List Char) :
    Except Misstep (Option (List (List Char))) :=
  (countedCut overflow delimiter .start [] [] text).map (·.map (·.map Text.trim))

/-- The value of a pair `key = value`. -/
def countedValue (pair : List Char) : Except Misstep (Option (List Char)) :=
  (countedSegments overflow '=' pair).map fun
    | some [_, value] => some value
    | _ => none

namespace Queue

/-- The queue with the values of pairs behind all others. The first pair that has no value ends
it. -/
def countedValues (queue : Queue) : (pairs : List (List Char)) → Except Misstep (Option Queue)
  | [] => .ok (some queue)
  | pair :: rest =>
    (countedValue overflow pair).bind fun
      | some value => (queue.extend [value]).countedValues rest
      | none => .ok none

/-- The queue with what a trimmed element consists of behind all others, unless the element is
neither a leaf nor well bracketed. -/
def countedExpand (queue : Queue) (element : List Char) : Except Misstep (Option Queue) :=
  if element.head? = some '[' then
    match enclosed? '[' ']' element with
    | none => .ok none
    | some inner =>
      let content := Text.trim inner
      if content.isEmpty then .ok (some queue)
      else (countedSegments overflow ',' content).map (·.map queue.extend)
  else if element.head? = some '{' then
    match enclosed? '{' '}' element with
    | none => .ok none
    | some inner =>
      let content := Text.trim inner
      if content.isEmpty then .ok (some queue)
      else
        (countedSegments overflow ',' content).bind fun
          | some pairs => queue.countedValues overflow pairs
          | none => .ok none
  else .ok (if isLeaf element then some queue else none)

/-- One turn of the check: the first element is looked at, and it must not be blank. -/
def countedTurn (queue : Queue) : Except Misstep Turn :=
  match queue.pop? with
  | none => .ok (.ends true)
  | some (item, rest) =>
    let element := Text.trim item
    if element.isEmpty then .ok (.ends false)
    else
      (rest.countedExpand overflow element).map fun
        | some next => .goesOn next
        | none => .ends false

end Queue

end

/-! ### Why the check ends -/

section

variable {overflow : Overflow}

/-- The pieces of a text stand in it one behind the other. -/
theorem sublist_countedCut {delimiter : Char} {s : Scan} {current : List Char}
    {done : List (List Char)} {text : List Char} {pieces : List (List Char)}
    (h : countedCut overflow delimiter s current done text = .ok (some pieces)) :
    pieces.flatten.Sublist (done.reverse.flatten ++ (current.reverse ++ text)) := by
  induction text generalizing s current done with
  | nil =>
    rw [countedCut] at h
    split at h
    · obtain rfl := Option.some.inj (Except.ok.inj h)
      simp
    · cases h
  | cons c rest ih =>
    rw [countedCut] at h
    split at h
    · refine (ih h).trans ?_
      rw [List.reverse_cons, List.flatten_append, List.flatten_singleton, List.append_assoc]
      exact .append_left (.append_left (List.sublist_cons_self c rest) _) _
    · obtain ⟨next, -, hnext⟩ := Checked.bind_eq_ok_iff.mp h
      simpa using ih hnext

/-- The segments of a text stand in it one behind the other. -/
theorem sublist_countedSegments {delimiter : Char} {text : List Char}
    {segments : List (List Char)}
    (h : countedSegments overflow delimiter text = .ok (some segments)) :
    segments.flatten.Sublist text := by
  obtain ⟨found, hfound, hsegments⟩ := Checked.map_eq_ok_iff.mp h
  obtain ⟨pieces, rfl, rfl⟩ := Option.map_eq_some_iff.mp hsegments
  exact (sublist_map_trim pieces).trans (sublist_countedCut hfound)

/-- The value of a pair stands in the pair. -/
theorem sublist_countedValue {pair value : List Char}
    (h : countedValue overflow pair = .ok (some value)) : value.Sublist pair := by
  obtain ⟨found, hfound, hvalue⟩ := Checked.map_eq_ok_iff.mp h
  split at hvalue
  · next key last =>
    obtain rfl := Option.some.inj hvalue
    have hlast : last.Sublist [key, last].flatten := List.sublist_flatten_of_mem (by simp)
    exact hlast.trans (sublist_countedSegments hfound)
  · cases hvalue

namespace Queue

/-- The values of pairs that come into a queue stand in the pairs. -/
theorem exists_of_countedValues {queue next : Queue} {pairs : List (List Char)}
    (h : queue.countedValues overflow pairs = .ok (some next)) :
    ∃ values, next.elements = queue.elements ++ values ∧
      values.flatten.Sublist pairs.flatten := by
  induction pairs generalizing queue with
  | nil =>
    cases h
    exact ⟨[], by simp, .slnil⟩
  | cons pair rest ih =>
    obtain ⟨found, hfound, hrest⟩ := Checked.bind_eq_ok_iff.mp h
    split at hrest
    · next value =>
      obtain ⟨values, hnext, hvalues⟩ := ih hrest
      refine ⟨value :: values, by simp [hnext], ?_⟩
      exact (sublist_countedValue hfound).append hvalues
    · cases hrest

/-- What comes into a queue of an element stands in it behind a character that it loses. -/
theorem exists_of_countedExpand {queue next : Queue} {element : List Char} (hne : element ≠ [])
    (h : queue.countedExpand overflow element = .ok (some next)) :
    ∃ parts c, next.elements = queue.elements ++ parts ∧ (c :: parts.flatten).Sublist element := by
  have hnothing : ∃ parts c, queue.elements = queue.elements ++ parts ∧
      (c :: parts.flatten).Sublist element := by
    obtain ⟨c, rest, rfl⟩ := List.exists_cons_of_ne_nil hne
    exact ⟨[], c, (List.append_nil _).symm, (List.nil_sublist rest).cons_cons c⟩
  unfold countedExpand at h
  split at h
  · split at h
    · cases h
    · next inner hinner =>
      dsimp only at h
      split at h
      · cases h
        exact hnothing
      · obtain ⟨found, hfound, hnext⟩ := Checked.map_eq_ok_iff.mp h
        obtain ⟨segments, rfl, rfl⟩ := Option.map_eq_some_iff.mp hnext
        have hcontent := (sublist_countedSegments hfound).trans (sublist_trim inner)
        exact ⟨segments, '[', elements_extend .., (hcontent.cons_cons '[').trans
          (sublist_enclosed hinner)⟩
  · split at h
    · split at h
      · cases h
      · next inner hinner =>
        dsimp only at h
        split at h
        · cases h
          exact hnothing
        · obtain ⟨found, hfound, hnext⟩ := Checked.bind_eq_ok_iff.mp h
          split at hnext
          · obtain ⟨values, hvalues, hsublist⟩ := exists_of_countedValues hnext
            have hcontent :=
              hsublist.trans ((sublist_countedSegments hfound).trans (sublist_trim inner))
            exact ⟨values, '{', hvalues, (hcontent.cons_cons '{').trans
              (sublist_enclosed hinner)⟩
          · cases hnext
    · split at h
      · cases h
        exact hnothing
      · cases h

/-- The waiting elements have fewer characters after each turn. -/
theorem totalLength_countedTurn_lt {queue next : Queue}
    (h : queue.countedTurn overflow = .ok (.goesOn next)) :
    totalLength next.elements < totalLength queue.elements := by
  unfold countedTurn at h
  split at h
  · cases h
  · next item rest hpop =>
    dsimp only at h
    split at h
    · cases h
    · next hempty =>
      obtain ⟨found, hfound, hnext⟩ := Checked.map_eq_ok_iff.mp h
      split at hnext
      · cases hnext
        obtain ⟨parts, c, hparts, hsublist⟩ :=
          exists_of_countedExpand (by simpa using hempty) hfound
        have hlength := (hsublist.trans (sublist_trim item)).length_le
        rw [hparts, elements_of_pop? hpop]
        simp only [totalLength, List.flatten_append, List.flatten_cons, List.length_append,
          List.length_cons] at *
        omega
      · cases hnext

end Queue

end

namespace Queue

/-- Whether all waiting elements are well formed to any depth that the word counts. -/
def countedAccepts (overflow : Overflow) (queue : Queue) : Except Misstep Bool :=
  match _h : queue.countedTurn overflow with
  | .error misstep => .error misstep
  | .ok (.ends verdict) => .ok verdict
  | .ok (.goesOn next) => next.countedAccepts overflow
termination_by totalLength queue.elements
decreasing_by exact totalLength_countedTurn_lt _h

section

variable {overflow : Overflow} {queue : Queue}

/-- The verdict of the turn that ends the check is the one of the check. -/
theorem countedAccepts_of_ends {verdict : Bool}
    (h : queue.countedTurn overflow = .ok (.ends verdict)) :
    queue.countedAccepts overflow = .ok verdict := by
  rw [countedAccepts]
  split
  · next hfound => cases hfound.symm.trans h
  · next hfound =>
    cases hfound.symm.trans h
    rfl
  · next hfound => cases hfound.symm.trans h

/-- A turn that goes on does not change the verdict. -/
theorem countedAccepts_of_goesOn {next : Queue}
    (h : queue.countedTurn overflow = .ok (.goesOn next)) :
    queue.countedAccepts overflow = next.countedAccepts overflow := by
  rw [countedAccepts]
  split
  · next hfound => cases hfound.symm.trans h
  · next hfound => cases hfound.symm.trans h
  · next hfound =>
    cases hfound.symm.trans h
    rfl

/-- A check goes wrong with its turn. -/
theorem countedAccepts_of_error {misstep : Misstep}
    (h : queue.countedTurn overflow = .error misstep) :
    queue.countedAccepts overflow = .error misstep := by
  rw [countedAccepts]
  split
  · next hfound =>
    cases hfound.symm.trans h
    rfl
  · next hfound => cases hfound.symm.trans h
  · next hfound => cases hfound.symm.trans h

end

end Queue

/-- Whether a text is a list literal. -/
def checkList (overflow : Overflow) (text : List Char) : Except Misstep Bool :=
  let trimmed := Text.trim text
  if (enclosed? '[' ']' trimmed).isSome then (Queue.single trimmed).countedAccepts overflow
  else .ok false

end ApiDrift.Tag
