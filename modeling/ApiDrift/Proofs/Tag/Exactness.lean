import ApiDrift.Proofs.Tag.Grammar
import ApiDrift.Proofs.Tag.Parts

/-!
# How far accepted texts keep to the grammar

The check of a literal meets the literal itself, its elements, their elements and so on. It looks
at no more than the first and the last character of a quoted element, and at no more of a key than
that its brackets balance in number. A text is a list of the grammar exactly when it is accepted,
every quoted element that is met is one literal, and every key that is met is nested. Texts without
a comma between two elements, or with brackets that close in the wrong order, are accepted as
well.
-/

namespace ApiDrift.Tag

/-- The texts that the check of an element meets. -/
inductive Meets : List Char → List Char → Prop where
  /-- The element itself. -/
  | self {element : List Char} : Meets element (Text.trim element)
  /-- What is met in a part of the element. -/
  | part {element part met : List Char} {parts : List (List Char)}
      (hparts : parts? element = some parts) (hpart : part ∈ parts) (hmet : Meets part met) :
      Meets element met

/-- A text that is met has a key, the part before the equals sign of one of its pairs. -/
def HasKey (met key : List Char) : Prop :=
  ∃ content pairs pair value, enclosed? '{' '}' met = some content ∧
    segments? ',' (Text.trim content) = some pairs ∧ pair ∈ pairs ∧
      pieces? '=' pair = some [key, value]

/-- A text that is met keeps to the grammar where the check does not look. -/
structure Clean (met : List Char) : Prop where
  /-- What stands between quotes is escaped. -/
  quoted : ∀ inner, enclosed? '"' '"' met = some inner → Escaped inner
  /-- The keys are nested. -/
  keys : ∀ key, HasKey met key → Nested true key

/-- A pair has its key and its value as pieces when a scan passes both. -/
theorem pieces?_pair_of_inert {key value : List Char} (hkey : Inert 0 '=' key)
    (hvalue : Inert 0 '=' value) : pieces? '=' (key ++ '=' :: value) = some [key, value] :=
  pieces?_eq_some_iff.mpr ⟨by simp, by simp, by simp [hkey.isPiece, hvalue.isPiece]⟩

/-- A pair of the grammar has its key and its value as pieces. -/
theorem pieces?_pair {key value : List Char} (hkey : Nested true key)
    (hvalue : Value (Text.trim value)) : pieces? '=' (key ++ '=' :: value) = some [key, value] :=
  pieces?_pair_of_inert (hkey.inert (by decide))
    (.of_trim (hvalue.inert (by decide)) (by decide))

/-- The value of a pair of the grammar. -/
theorem pairValue?_pair {key value : List Char} (hkey : Nested true key)
    (hvalue : Value (Text.trim value)) :
    pairValue? (key ++ '=' :: value) = some (Text.trim value) := by
  simp [pairValue?, segments?, pieces?_pair hkey hvalue]

/-- Texts that a scan passes are the segments of what they are joined to. -/
theorem segments?_intercalate {pieces : List (List Char)} (hne : pieces ≠ [])
    (h : ∀ piece ∈ pieces, Inert 0 ',' piece) :
    segments? ',' ([','].intercalate pieces) = some (pieces.map Text.trim) := by
  have hpieces : pieces? ',' ([','].intercalate pieces) = some pieces :=
    pieces?_eq_some_iff.mpr ⟨hne, rfl, fun piece hpiece => (h piece hpiece).isPiece⟩
  rw [segments?, hpieces]
  rfl

/-- Texts that are joined have some character unless there are none or there is only one, which is
empty. -/
theorem intercalate_ne_nil {sep : Char} {first : List Char} {rest : List (List Char)}
    (h : first ≠ []) : [sep].intercalate (first :: rest) ≠ [] := by
  cases first with
  | nil => exact absurd rfl h
  | cons c first =>
    rw [List.intercalate_cons_cons_left]
    exact List.cons_ne_nil _ _

/-- The elements of a list of the grammar. -/
theorem listElements?_intercalate {elements : List (List Char)}
    (h : ∀ element ∈ elements, Value (Text.trim element)) :
    listElements? ([','].intercalate elements) = some (elements.map Text.trim) := by
  cases elements with
  | nil => rfl
  | cons first rest =>
    have hfirst : first ≠ [] := by
      rintro rfl
      exact not_value_nil (h [] List.mem_cons_self)
    rw [listElements?, if_neg (by simpa using intercalate_ne_nil hfirst)]
    refine segments?_intercalate (List.cons_ne_nil _ _) fun element helement => ?_
    exact .of_trim ((h element helement).inert (by decide)) (by decide)

section

variable {pieces : List (List Char)} {pairs : List (List Char × List Char)}

/-- The pairs of an object of the grammar. -/
theorem segments?_pairs
    (hpairs : pieces.map Text.trim = pairs.map fun pair => pair.1 ++ '=' :: pair.2)
    (hkeys : ∀ pair ∈ pairs, Nested true pair.1)
    (hvalues : ∀ pair ∈ pairs, Value (Text.trim pair.2)) (hne : pieces ≠ []) :
    segments? ',' ([','].intercalate pieces) =
      some (pairs.map fun pair => pair.1 ++ '=' :: pair.2) := by
  rw [← hpairs]
  refine segments?_intercalate hne fun piece hpiece => .of_trim ?_ (by decide)
  obtain ⟨pair, hpair, hpairtext⟩ := exists_pair_of_mem hpairs hpiece
  rw [← hpairtext]
  have hvalue : Inert 0 ',' pair.2 :=
    .of_trim ((hvalues pair hpair).inert (by decide)) (by decide)
  exact .pair (hkeys pair hpair) hvalue (by decide) (Int.le_refl 0) (.inl (by decide))

/-- The values of an object of the grammar. -/
theorem objectElements?_intercalate
    (hpairs : pieces.map Text.trim = pairs.map fun pair => pair.1 ++ '=' :: pair.2)
    (hkeys : ∀ pair ∈ pairs, Nested true pair.1)
    (hvalues : ∀ pair ∈ pairs, Value (Text.trim pair.2)) :
    objectElements? ([','].intercalate pieces) =
      some (pairs.map fun pair => Text.trim pair.2) := by
  cases hpieces : pieces with
  | nil =>
    rw [hpieces, List.map_nil, eq_comm, List.map_eq_nil_iff] at hpairs
    rw [hpairs]
    rfl
  | cons first rest =>
    have hfirst : first ≠ [] := by
      rintro rfl
      obtain ⟨pair, -, hpairtext⟩ := exists_pair_of_mem hpairs (hpieces ▸ List.mem_cons_self)
      exact List.append_ne_nil_of_right_ne_nil _ (List.cons_ne_nil _ _) hpairtext
    rw [objectElements?, if_neg (by simpa using intercalate_ne_nil hfirst), ← hpieces,
      segments?_pairs hpairs hkeys hvalues (by simp [hpieces]), Option.bind_some,
      mapM_eq_some_iff, List.forall₂_map_left_iff, List.forall₂_map_right_iff, List.forall₂_same]
    intro pair hpair
    exact pairValue?_pair (hkeys pair hpair) (hvalues pair hpair)

end

/-- A text that does not begin with a quote or a brace has nothing that the grammar restricts beyond
the check. -/
theorem clean_of_head? {met : List Char} (hquote : met.head? ≠ some '"')
    (hbrace : met.head? ≠ some '{') : Clean met where
  quoted inner hinner := by
    rw [enclosed?_eq_some_iff.mp hinner] at hquote
    exact absurd rfl hquote
  keys key hkey := by
    obtain ⟨content, -, -, -, hcontent, -⟩ := hkey
    rw [enclosed?_eq_some_iff.mp hcontent] at hbrace
    exact absurd rfl hbrace

/-- The keys of an object of the grammar are those of its pairs. -/
theorem nested_of_hasKey {content : List Char} {pieces : List (List Char)}
    {pairs : List (List Char × List Char)}
    (hcontent : Text.trim content = [','].intercalate pieces)
    (hpairs : pieces.map Text.trim = pairs.map fun pair => pair.1 ++ '=' :: pair.2)
    (hkeys : ∀ pair ∈ pairs, Nested true pair.1)
    (hvalues : ∀ pair ∈ pairs, Value (Text.trim pair.2)) {key : List Char}
    (h : HasKey ('{' :: (content ++ ['}'])) key) : Nested true key := by
  obtain ⟨found, segments, segment, value, hfound, hsegments, hsegment, hkey⟩ := h
  rw [enclosed?_eq_some_iff.mpr rfl, Option.some.injEq] at hfound
  subst hfound
  rw [hcontent] at hsegments
  cases hpieces : pieces with
  | nil =>
    rw [hpieces] at hsegments
    obtain rfl := Option.some.inj hsegments
    obtain rfl := List.mem_singleton.mp hsegment
    cases hkey
  | cons first rest =>
    rw [segments?_pairs hpairs hkeys hvalues (by simp [hpieces])] at hsegments
    obtain rfl := Option.some.inj hsegments
    obtain ⟨pair, hpair, rfl⟩ := List.mem_map.mp hsegment
    rw [pieces?_pair (hkeys pair hpair) (hvalues pair hpair)] at hkey
    obtain ⟨rfl, -⟩ := List.cons.inj (Option.some.inj hkey)
    exact hkeys pair hpair

/-- A text between quotes is a leaf exactly when it is a line. -/
theorem isLeaf_quoted (inner : List Char) :
    isLeaf ('"' :: (inner ++ ['"'])) = isLine inner := by
  rw [isLeaf, enclosed?_eq_some_iff.mpr rfl]
  exact isQuotable_eq_isLine inner

/-- A bare value does not begin with a quote or a bracket. -/
theorem head?_ne_of_bare {text : List Char} (h : isInteger text = true ∨ isBoolean text = true)
    {mark : Char} (hmark : mark ∈ marks) : text.head? ≠ some mark := by
  intro hhead
  refine (notMem_of_bare h).2 mark (List.mem_of_mem_head? hhead) ?_
  exact List.mem_append_left _ hmark

/-- A text that begins with no quote is a leaf exactly when it is an integer or a truth value. -/
theorem isLeaf_of_head? {text : List Char} (h : text.head? ≠ some '"') :
    isLeaf text = (isInteger text || isBoolean text) := by
  have hquote : enclosed? '"' '"' text = none := by
    refine Option.eq_none_iff_forall_ne_some.mpr fun inner hinner => ?_
    rw [enclosed?_eq_some_iff.mp hinner] at h
    exact h rfl
  rw [isLeaf, hquote]

/-- A bare value is a leaf. -/
theorem isLeaf_of_bare {text : List Char} (h : isInteger text = true ∨ isBoolean text = true) :
    isLeaf text = true := by
  rw [isLeaf_of_head? (head?_ne_of_bare h (by decide))]
  exact Bool.or_eq_true_iff.mpr h

/-- A value is taken apart into values, and keeps to the grammar itself. -/
theorem Value.exists_parts {element : List Char} (h : Value element) :
    ∃ parts, partsOfTrimmed? element = some parts ∧ Clean element ∧
      ∀ part ∈ parts, Value (Text.trim part) := by
  cases h with
  | @list content elements hcontent helements =>
    refine ⟨elements.map Text.trim, ?_, clean_of_head? (by simp) (by simp), ?_⟩
    · rw [partsOfTrimmed?_list, hcontent]
      exact listElements?_intercalate helements
    · intro part hpart
      obtain ⟨element, helement, rfl⟩ := List.mem_map.mp hpart
      rw [Text.trim_trim]
      exact helements element helement
  | @object content pieces pairs hcontent hpairs hkeys hvalues =>
    refine ⟨pairs.map fun pair => Text.trim pair.2, ?_, ⟨?_, ?_⟩, ?_⟩
    · rw [partsOfTrimmed?_object, hcontent]
      exact objectElements?_intercalate hpairs hkeys hvalues
    · intro inner hinner
      cases enclosed?_eq_some_iff.mp hinner
    · intro key hkey
      exact nested_of_hasKey hcontent hpairs hkeys hvalues hkey
    · intro part hpart
      obtain ⟨pair, hpair, rfl⟩ := List.mem_map.mp hpart
      rw [Text.trim_trim]
      exact hvalues pair hpair
  | @quoted inner hline hescaped =>
    have hleaf : isLeaf ('"' :: (inner ++ ['"'])) = true := (isLeaf_quoted inner).trans hline
    refine ⟨[], partsOfTrimmed?_leaf (by simp) (by simp) hleaf, ⟨?_, ?_⟩, by simp⟩
    · intro found hfound
      rw [enclosed?_eq_some_iff.mpr rfl] at hfound
      exact Option.some.inj hfound ▸ hescaped
    · rintro key ⟨content, -, -, -, hcontent, -⟩
      cases enclosed?_eq_some_iff.mp hcontent
  | bare h =>
    have hhead : ∀ mark ∈ marks, element.head? ≠ some mark := fun _ => head?_ne_of_bare h
    exact ⟨[], partsOfTrimmed?_leaf (hhead _ (by decide)) (hhead _ (by decide)) (isLeaf_of_bare h),
      clean_of_head? (hhead _ (by decide)) (hhead _ (by decide)), by simp⟩

/-- What the content of a list is taken apart into are the texts that it joins, trimmed. -/
theorem exists_of_listElements? {content : List Char} {parts : List (List Char)}
    (h : listElements? content = some parts) :
    ∃ elements, content = [','].intercalate elements ∧ parts = elements.map Text.trim := by
  unfold listElements? at h
  split at h
  · next hempty => exact ⟨[], List.isEmpty_iff.mp hempty, (Option.some.inj h).symm⟩
  · obtain ⟨elements, helements, hparts⟩ := Option.map_eq_some_iff.mp h
    exact ⟨elements, (pieces?_eq_some_iff.mp helements).2.1, hparts.symm⟩

/-- The keys and values of texts that are pairs. -/
theorem exists_pairs {segments values : List (List Char)}
    (h : List.Forall₂ (fun segment value => pairValue? segment = some value) segments values) :
    ∃ pairs : List (List Char × List Char),
      segments = pairs.map (fun pair => pair.1 ++ '=' :: pair.2) ∧
        values = pairs.map (fun pair => Text.trim pair.2) ∧
          ∀ pair ∈ pairs, pieces? '=' (pair.1 ++ '=' :: pair.2) = some [pair.1, pair.2] := by
  induction h with
  | nil => exact ⟨[], rfl, rfl, by simp⟩
  | @cons segment value segments values hvalue hrest ih =>
    obtain ⟨pairs, rfl, rfl, hpairs⟩ := ih
    unfold pairValue? at hvalue
    split at hvalue
    · next trimmed found hsegments =>
      obtain ⟨pieces, hpieces, htrimmed⟩ := Option.map_eq_some_iff.mp hsegments
      obtain ⟨key, rest, rfl, -, hrest⟩ := List.map_eq_cons_iff.mp htrimmed
      obtain ⟨last, rfl, hlast⟩ := List.map_eq_singleton_iff.mp hrest
      have hsegment : segment = key ++ '=' :: last := by
        simpa using (pieces?_eq_some_iff.mp hpieces).2.1
      subst hsegment
      refine ⟨(key, last) :: pairs, rfl, ?_, List.forall_mem_cons.mpr ⟨hpieces, hpairs⟩⟩
      rw [List.map_cons, hlast, Option.some.inj hvalue]
    · cases hvalue

/-- What the content of an object is taken apart into are the values of the pairs that it joins. -/
theorem exists_of_objectElements? {content : List Char} {parts : List (List Char)}
    (h : objectElements? content = some parts) :
    ∃ pieces, ∃ pairs : List (List Char × List Char), content = [','].intercalate pieces ∧
      pieces.map Text.trim = pairs.map (fun pair => pair.1 ++ '=' :: pair.2) ∧
        parts = pairs.map (fun pair => Text.trim pair.2) ∧
          ∀ pair ∈ pairs, segments? ',' content = some (pieces.map Text.trim) ∧
            pieces? '=' (pair.1 ++ '=' :: pair.2) = some [pair.1, pair.2] := by
  unfold objectElements? at h
  split at h
  · next hempty =>
    exact ⟨[], [], List.isEmpty_iff.mp hempty, rfl, (Option.some.inj h).symm, by simp⟩
  · obtain ⟨segments, hsegments, hvalues⟩ := Option.bind_eq_some_iff.mp h
    obtain ⟨pairs, hpairs, hparts, hkeys⟩ := exists_pairs (mapM_eq_some_iff.mp hvalues)
    obtain ⟨pieces, hpieces, rfl⟩ := Option.map_eq_some_iff.mp hsegments
    exact ⟨pieces, pairs, (pieces?_eq_some_iff.mp hpieces).2.1, hpairs, hparts,
      fun pair hpair => ⟨hsegments, hkeys pair hpair⟩⟩

/-- An element that is taken apart into values and keeps to the grammar itself is a value. -/
theorem value_of_parts {element : List Char} {parts : List (List Char)}
    (h : partsOfTrimmed? element = some parts) (hclean : Clean element)
    (hvalues : ∀ part ∈ parts, Value (Text.trim part)) : Value element := by
  rcases partsOfTrimmed?_cases h with
    ⟨content, rfl, hparts⟩ | ⟨content, rfl, hparts⟩ | ⟨hleaf, -⟩
  · obtain ⟨elements, hcontent, rfl⟩ := exists_of_listElements? hparts
    refine .list hcontent fun element helement => ?_
    rw [← Text.trim_trim]
    exact hvalues _ (List.mem_map_of_mem helement)
  · obtain ⟨pieces, pairs, hcontent, hpairs, rfl, hkeys⟩ := exists_of_objectElements? hparts
    refine .object hcontent hpairs (fun pair hpair => ?_) fun pair hpair => ?_
    · obtain ⟨hsegments, hkey⟩ := hkeys pair hpair
      refine hclean.keys pair.1 ⟨content, _, _, pair.2, enclosed?_eq_some_iff.mpr rfl, hsegments,
        ?_, hkey⟩
      rw [hpairs]
      exact List.mem_map.mpr ⟨pair, hpair, rfl⟩
    · rw [← Text.trim_trim]
      exact hvalues _ (List.mem_map.mpr ⟨pair, hpair, rfl⟩)
  · unfold isLeaf at hleaf
    split at hleaf
    · next inner hinner =>
      rw [enclosed?_eq_some_iff.mp hinner]
      exact .quoted ((isQuotable_eq_isLine inner).symm.trans hleaf) (hclean.quoted inner hinner)
    · exact .bare (Bool.or_eq_true_iff.mp hleaf)

/-- Whatever is met in a value keeps to the grammar. -/
theorem clean_of_meets {element met : List Char} (hmet : Meets element met)
    (h : Value (Text.trim element)) : Clean met := by
  induction hmet with
  | self =>
    obtain ⟨-, -, hclean, -⟩ := h.exists_parts
    exact hclean
  | part hparts hpart hmet ih =>
    obtain ⟨found, hfound, -, hvalues⟩ := h.exists_parts
    obtain rfl := Option.some.inj (hfound.symm.trans hparts)
    exact ih (hvalues _ hpart)

/-- An accepted element is a value when whatever is met in it keeps to the grammar. -/
theorem Accepted.value {element : List Char} (h : Accepted element)
    (hclean : ∀ met, Meets element met → Clean met) : Value (Text.trim element) := by
  induction h with
  | @intro element parts hparts haccepted ih =>
    refine value_of_parts hparts (hclean _ .self) fun part hpart => ?_
    exact ih part hpart fun met hmet => hclean met (.part hparts hpart hmet)

/-- Values are accepted, since the parts of an element are shorter than the element. -/
theorem accepted_of_value {element : List Char} (h : Value (Text.trim element)) :
    Accepted element := by
  induction hlength : element.length using Nat.strongRecOn generalizing element with
  | ind length ih =>
    obtain ⟨parts, hparts, -, hvalues⟩ := h.exists_parts
    refine .intro hparts fun part hpart => ?_
    refine ih part.length ?_ (hvalues part hpart) rfl
    have htotal : totalLength parts < element.length := totalLength_parts_lt hparts
    have hle : part.length ≤ totalLength parts := (List.sublist_flatten_of_mem hpart).length_le
    omega

/-- A value that begins with a bracket ends with one. -/
theorem ListLiteral.exists_content {text : List Char} (h : ListLiteral text) :
    ∃ content, text = '[' :: (content ++ [']']) := by
  obtain ⟨hvalue, hhead⟩ := h
  cases hvalue with
  | @list content elements => exact ⟨content, rfl⟩
  | object => cases hhead
  | quoted => cases hhead
  | bare hbare => exact absurd hhead (head?_ne_of_bare hbare (by decide))

/-- A text is a list of the grammar exactly when it is accepted, every quoted element that the check
meets is a single literal, and every key that it meets is nested. -/
theorem listLiteral_trim_iff (text : List Char) :
    ListLiteral (Text.trim text) ↔
      isList text = true ∧ ∀ met, Meets text met → Clean met := by
  rw [isList_iff]
  constructor
  · intro h
    exact ⟨⟨h.exists_content, accepted_of_value h.1⟩, fun met hmet => clean_of_meets hmet h.1⟩
  · rintro ⟨⟨⟨content, hcontent⟩, haccepted⟩, hclean⟩
    refine ⟨haccepted.value hclean, ?_⟩
    rw [hcontent]
    rfl

/-- Two lists side by side whose brackets meet in a wrong order, an element with no comma between
its two literals, and a key whose brackets are of different kinds are accepted, and none of them is
a list of the grammar. -/
theorem isList_and_not_listLiteral :
    (isList "[\"a\"] [\"b\"]".toList = true ∧
      ¬ListLiteral (Text.trim "[\"a\"] [\"b\"]".toList)) ∧
    (isList "[\"a\" \"b\"]".toList = true ∧
      ¬ListLiteral (Text.trim "[\"a\" \"b\"]".toList)) ∧
    (isList "[\x7b[\x7d=1\x7d]".toList = true ∧
      ¬ListLiteral (Text.trim "[\x7b[\x7d=1\x7d]".toList)) := by
  refine ⟨⟨by decide +kernel, fun h => ?_⟩, ⟨by decide +kernel, fun h => ?_⟩,
    ⟨by decide +kernel, fun h => ?_⟩⟩
  · have hparts : parts? "[\"a\"] [\"b\"]".toList = some ["\"a\"] [\"b\"".toList] := by
      decide +kernel
    have hclean := clean_of_meets (.part hparts (List.mem_singleton.mpr rfl) .self) h.1
    have hescaped := hclean.quoted "a\"] [\"b".toList (by decide +kernel)
    obtain _ | ⟨-, -, _ | ⟨hquote, -, -⟩⟩ := hescaped
    exact hquote rfl
  · have hparts : parts? "[\"a\" \"b\"]".toList = some ["\"a\" \"b\"".toList] := by decide +kernel
    have hclean := clean_of_meets (.part hparts (List.mem_singleton.mpr rfl) .self) h.1
    have hescaped := hclean.quoted "a\" \"b".toList (by decide +kernel)
    obtain _ | ⟨-, -, _ | ⟨hquote, -, -⟩⟩ := hescaped
    exact hquote rfl
  · have hparts : parts? "[\x7b[\x7d=1\x7d]".toList = some ["\x7b[\x7d=1\x7d".toList] := by
      decide +kernel
    have hclean := clean_of_meets (.part hparts (List.mem_singleton.mpr rfl) .self) h.1
    have hkey : HasKey (Text.trim "\x7b[\x7d=1\x7d".toList) "[\x7d".toList :=
      ⟨"[\x7d=1".toList, ["[\x7d=1".toList], "[\x7d=1".toList, "1".toList, by decide +kernel,
        by decide +kernel, List.mem_singleton.mpr rfl, by decide +kernel⟩
    have hclosing := (hclean.keys _ hkey).closing_mem .square
    exact absurd hclosing (by decide)

end ApiDrift.Tag
