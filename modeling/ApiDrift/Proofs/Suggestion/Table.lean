import ApiDrift.Proofs.Suggestion.Edits

/-!
# The two rows hold edit distances

A row belongs to a text that is read from its start, so its distances are those of the reversed
text. What is said of the row that is being filled ends at the place up to which it is filled: what
an earlier row has left behind that place is never read. Each step then stays within both rows, and
what they come to is the edit distance.
-/

namespace ApiDrift.Suggestion

/-- Up to a place, a row for the text `b` holds the distances of a reversed text from the prefixes
of `b`. -/
structure FilledTo (seen b : List Char) (place : Nat) (row : Array Nat) : Prop where
  /-- There is an item for each prefix. -/
  size : row.size = b.length + 1
  /-- The items are distances. -/
  item : ∀ k ≤ place, row[k]? = some (editDistance seen (b.take k).reverse)

/-- The rows for a reversed text: the complete one holds all distances, and of the other one only
the size matters. -/
structure Rows.For (seen b : List Char) (rows : Rows) : Prop where
  /-- The complete row holds the distance from each prefix. -/
  complete : FilledTo seen b b.length rows.complete
  /-- The other row has an item for each prefix. -/
  size : rows.filling.size = b.length + 1

namespace FilledTo

variable {seen b : List Char} {place k : Nat} {row : Array Nat}

/-- An item that is filled can be read. -/
theorem item_eq (h : FilledTo seen b place row) (hk : k ≤ place) :
    Checked.item row k = .ok (editDistance seen (b.take k).reverse) := by
  rw [Checked.item, h.item k hk]

/-- The distance from the next prefix fills one more item. -/
theorem set (h : FilledTo seen b place row) (hplace : place + 1 < row.size) :
    FilledTo seen b (place + 1)
      (row.set (place + 1) (editDistance seen (b.take (place + 1)).reverse)) := by
  refine ⟨by rw [Array.size_set]; exact h.size, fun k hk => ?_⟩
  rw [Array.getElem?_set]
  split
  next heq => rw [heq]
  next hne => exact h.item k (by omega)

/-- The first item is the length of the text. -/
theorem set_zero (hsize : row.size = b.length + 1) (hzero : 0 < row.size) :
    FilledTo seen b 0 (row.set 0 seen.length) := by
  refine ⟨by rw [Array.size_set]; exact hsize, fun k hk => ?_⟩
  obtain rfl : k = 0 := Nat.le_zero.mp hk
  simp

end FilledTo

namespace Rows

variable {seen b : List Char}

/-- The distance for one more character on both sides comes from three items: the one above, the
one to the left and the one between them. -/
theorem fill_eq (rows : Rows) {c d : Char} {front rest : List Char} (hb : b = front ++ d :: rest)
    (hcomplete : FilledTo seen b b.length rows.complete)
    (hfilling : FilledTo (c :: seen) b front.length rows.filling) :
    ∃ row, rows.fill c front.length d = .ok { rows with filling := row } ∧
      FilledTo (c :: seen) b (front.length + 1) row := by
  have hlength : b.length = front.length + (rest.length + 1) := by
    rw [hb, List.length_append, List.length_cons]
  have htake : b.take front.length = front := by
    rw [hb, List.take_left]
  have hnext : b.take (front.length + 1) = front ++ [d] := by
    rw [hb, List.take_length_add_append]
    rfl
  have habove := hcomplete.item_eq (k := front.length + 1) (by omega)
  have hleft := hfilling.item_eq (k := front.length) (Nat.le_refl _)
  have hdiagonal := hcomplete.item_eq (k := front.length) (by omega)
  have hplace : front.length + 1 < rows.filling.size := by
    rw [hfilling.size]
    omega
  have hdistance := editDistance_cons_cons c d seen front.reverse
  rw [htake] at hleft hdiagonal
  rw [hnext, List.reverse_concat] at habove
  have hset := hfilling.set hplace
  rw [hnext, List.reverse_concat, hdistance] at hset
  refine ⟨_, ?_, hset⟩
  rw [fill, habove, hleft, hdiagonal]
  simp only [bind, Except.bind, Checked.replace, dif_pos hplace, pure, Except.pure]

/-- A row that is filled up to a place gets filled to its end. -/
theorem fillFrom_eq (rows : Rows) {c : Char} {front rest : List Char} (hb : b = front ++ rest)
    (hcomplete : FilledTo seen b b.length rows.complete)
    (hfilling : FilledTo (c :: seen) b front.length rows.filling) :
    ∃ row, rows.fillFrom c front.length rest = .ok { rows with filling := row } ∧
      FilledTo (c :: seen) b b.length row := by
  induction rest generalizing rows front with
  | nil =>
    rw [List.append_nil] at hb
    subst hb
    exact ⟨rows.filling, rfl, hfilling⟩
  | cons d rest ih =>
    obtain ⟨row, hfill, hrow⟩ := fill_eq rows hb hcomplete hfilling
    have hnext : b = (front ++ [d]) ++ rest := by rw [hb, List.append_cons]
    have hfront : (front ++ [d]).length = front.length + 1 := List.length_append
    rw [← hfront] at hrow
    obtain ⟨last, hlast, hfilled⟩ := ih { rows with filling := row } hnext hcomplete hrow
    refine ⟨last, ?_, hfilled⟩
    rw [fillFrom, hfill, ← hfront]
    exact hlast

/-- One more character makes the rows for a longer text. -/
theorem For.advance {rows : Rows} (h : rows.For seen b) (c : Char) :
    ∃ next, rows.advance b seen.length c = .ok next ∧ next.For (c :: seen) b := by
  have hzero : 0 < rows.filling.size := by
    rw [h.size]
    omega
  have hfirst : FilledTo (c :: seen) b 0 (rows.filling.set 0 (c :: seen).length) :=
    .set_zero h.size hzero
  obtain ⟨row, hrow, hfilled⟩ :=
    fillFrom_eq { rows with filling := rows.filling.set 0 (c :: seen).length }
      (List.nil_append b).symm h.complete hfirst
  rw [List.length_nil] at hrow
  refine ⟨⟨row, rows.complete⟩, ?_, hfilled, h.complete.size⟩
  rw [Rows.advance, Checked.replace, dif_pos hzero]
  simp only [bind, Except.bind, pure, Except.pure]
  rw [← List.length_cons (a := c), hrow]

/-- More characters make the rows for a longer text. -/
theorem For.advanceAll {rows : Rows} (h : rows.For seen b) (rest : List Char) :
    ∃ last, rows.advanceAll b seen.length rest = .ok last ∧ last.For (rest.reverse ++ seen) b := by
  induction rest generalizing seen rows with
  | nil => exact ⟨rows, rfl, h⟩
  | cons c rest ih =>
    obtain ⟨next, hnext, hfor⟩ := h.advance c
    obtain ⟨last, hlast, hend⟩ := ih hfor
    refine ⟨last, ?_, ?_⟩
    · rw [Rows.advanceAll, hnext]
      exact hlast
    · rwa [List.reverse_cons, List.append_assoc]

/-- The rows for the empty text. -/
theorem start_for (b : List Char) : (start b).For [] b := by
  refine ⟨⟨Array.size_range, fun k hk => ?_⟩, Array.size_replicate⟩
  rw [start, Array.getElem?_range]
  simp
  omega

end Rows

/-- The rows for the empty text come to the edit distance, and no step leaves them, whatever the
row that is not complete holds at first. -/
theorem Rows.For.distance_eq {b : List Char} {rows : Rows} (h : rows.For [] b) (a : List Char) :
    (do
      let last ← rows.advanceAll b 0 a
      Checked.item last.complete b.length) = .ok (editDistance a b) := by
  obtain ⟨last, hlast, hfor⟩ := h.advanceAll a
  rw [List.append_nil] at hfor
  have hitem := hfor.complete.item_eq (Nat.le_refl b.length)
  rw [List.take_length, editDistance_reverse] at hitem
  rw [List.length_nil] at hlast
  rw [hlast]
  exact hitem

theorem measure_eq (a b : List Char) : measure a b = .ok (editDistance a b) :=
  (Rows.start_for b).distance_eq a

@[simp]
theorem distance_eq_editDistance (a b : List Char) : distance a b = editDistance a b := by
  rw [distance, measure_eq]

end ApiDrift.Suggestion
