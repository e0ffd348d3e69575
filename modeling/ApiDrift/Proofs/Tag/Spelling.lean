import ApiDrift.Proofs.Number.Text
import ApiDrift.Proofs.Tag.Depth

/-!
# Literals that are spelled by the rules

Literals are built from bare integers and truth values, quoted lines, lists and objects, with any
blank characters around each token. What stands between quotes are single characters that are
neither a quote nor a backslash, and backslashes with the character behind each. The keys of an
object stand between quotes as well, and may be empty or hold line breaks. Delimiters and brackets
between quotes are no tokens. Every list that is spelled in this way passes the check, to any depth
that its word can count.
-/

namespace ApiDrift.Tag

open Checked (signedLimit)

/-- What a text may be spelled as. -/
inductive Token where
  /-- A list. -/
  | list
  /-- A value. -/
  | value
  /-- The key of a pair. -/
  | key

/-- The texts of lists, values and keys, with blank characters around any token. -/
inductive Spelled : Token → List Char → Prop where
  /-- Blank characters may stand around a token. -/
  | padded {token : Token} {left text right : List Char}
    (hleft : ∀ c ∈ left, Text.isBlank c = true) (htext : Spelled token text)
    (hright : ∀ c ∈ right, Text.isBlank c = true) : Spelled token (left ++ text ++ right)
  /-- An integer or a truth value. -/
  | bare {text : List Char} (h : isInteger text = true ∨ isBoolean text = true) :
    Spelled .value text
  /-- At least one character between quotes, and no line break. -/
  | quoted {inner : List Char} (hescaped : Escaped inner) (hne : inner ≠ [])
    (hreturn : '\r' ∉ inner) (hfeed : '\n' ∉ inner) : Spelled .value ('"' :: (inner ++ ['"']))
  /-- A list without values. -/
  | emptyList {blanks : List Char} (hblanks : ∀ c ∈ blanks, Text.isBlank c = true) :
    Spelled .list ('[' :: (blanks ++ [']']))
  /-- A list of values. -/
  | list {values : List (List Char)} (hne : values ≠ [])
    (hvalues : ∀ value ∈ values, Spelled .value value) :
    Spelled .list ('[' :: ([','].intercalate values ++ [']']))
  /-- A list is a value. -/
  | nested {text : List Char} (hlist : Spelled .list text) : Spelled .value text
  /-- An object without pairs. -/
  | emptyObject {blanks : List Char} (hblanks : ∀ c ∈ blanks, Text.isBlank c = true) :
    Spelled .value ('{' :: (blanks ++ ['}']))
  /-- An object of pairs of a key and a value. -/
  | object {pairs : List (List Char × List Char)} (hne : pairs ≠ [])
    (hkeys : ∀ pair ∈ pairs, Spelled .key pair.1)
    (hvalues : ∀ pair ∈ pairs, Spelled .value pair.2) :
    Spelled .value
      ('{' :: ([','].intercalate (pairs.map fun pair => pair.1 ++ '=' :: pair.2) ++ ['}']))
  /-- Characters between quotes, or none. -/
  | key {inner : List Char} (hescaped : Escaped inner) : Spelled .key ('"' :: (inner ++ ['"']))

/-- What a text is in the grammar that is spelled as a token, once it is trimmed. -/
def Token.Denotes : Token → List Char → Prop
  | .list, trimmed => ListLiteral trimmed
  | .value, trimmed => Value trimmed
  | .key, trimmed => Nested true trimmed

/-- No character of a bare value is blank. -/
theorem tight_of_bare {text : List Char} (h : isInteger text = true ∨ isBoolean text = true) :
    Text.Tight text := by
  refine .of_forall (notMem_of_bare h).1 fun c hc => ?_
  rcases h with h | h
  · rcases (isDigit_or_minus_of_isInteger h).2 c hc with hdigit | rfl
    · exact Number.isBlank_of_isNumeral (Number.isNumeral_of_isDigit hdigit)
    · decide
  · have hwords : ["true".toList, "false".toList].all (·.all fun c => !Text.isBlank c) = true := by
      decide
    have hword : text ∈ ["true".toList, "false".toList] := by
      simpa [isBoolean] using h
    simpa using List.all_eq_true.mp (List.all_eq_true.mp hwords text hword) c hc

/-- A list of values is a value, whatever blank characters stand around the values. -/
theorem value_list {values : List (List Char)}
    (h : ∀ value ∈ values, Value (Text.trim value)) :
    Value ('[' :: ([','].intercalate values ++ [']'])) := by
  obtain ⟨found, hfound, hmap⟩ := @Text.exists_trim_intercalate ',' (by decide) values
  refine .list hfound fun element helement => ?_
  have hmem : Text.trim element ∈ values.map Text.trim := hmap ▸ List.mem_map_of_mem helement
  obtain ⟨value, hvalue, heq⟩ := List.mem_map.mp hmem
  exact heq ▸ h value hvalue

/-- The key and the value of a pair are the same when the pair is trimmed, up to blank characters
around them. -/
theorem exists_trim_pair (key value : List Char) :
    ∃ key' value', Text.trim (key ++ '=' :: value) = key' ++ '=' :: value' ∧
      Text.trim key' = Text.trim key ∧ Text.trim value' = Text.trim value := by
  obtain ⟨found, hfound, hmap⟩ :=
    @Text.exists_trim_intercalate '=' (by decide) [key, value]
  obtain ⟨key', rest, rfl, hkey, hrest⟩ := List.map_eq_cons_iff.mp hmap
  obtain ⟨value', rfl, hvalue⟩ := List.map_eq_singleton_iff.mp hrest
  exact ⟨key', value', by simpa using hfound, hkey, hvalue⟩

/-- The pairs of an object are the same when they are trimmed, up to blank characters around their
keys and values. -/
theorem exists_trim_pairs (pairs : List (List Char × List Char)) :
    ∃ trimmed : List (List Char × List Char),
      (pairs.map fun pair => Text.trim (pair.1 ++ '=' :: pair.2)) =
        trimmed.map (fun pair => pair.1 ++ '=' :: pair.2) ∧
      ∀ pair ∈ trimmed, ∃ origin ∈ pairs,
        Text.trim pair.1 = Text.trim origin.1 ∧ Text.trim pair.2 = Text.trim origin.2 := by
  induction pairs with
  | nil => exact ⟨[], rfl, fun _ hpair => by cases hpair⟩
  | cons first rest ih =>
    obtain ⟨trimmed, htrimmed, hsame⟩ := ih
    obtain ⟨key, value, hpair, hkey, hvalue⟩ := exists_trim_pair first.1 first.2
    refine ⟨(key, value) :: trimmed, ?_, List.forall_mem_cons.mpr ⟨?_, fun pair hmem => ?_⟩⟩
    · rw [List.map_cons, List.map_cons, hpair, htrimmed]
    · exact ⟨first, List.mem_cons_self, hkey, hvalue⟩
    · obtain ⟨origin, horigin, hboth⟩ := hsame pair hmem
      exact ⟨origin, List.mem_cons_of_mem _ horigin, hboth⟩

/-- An object of pairs is a value, whatever blank characters stand around the keys and values. -/
theorem value_object {pairs : List (List Char × List Char)}
    (hkeys : ∀ pair ∈ pairs, Nested true (Text.trim pair.1))
    (hvalues : ∀ pair ∈ pairs, Value (Text.trim pair.2)) :
    Value ('{' :: ([','].intercalate (pairs.map fun pair => pair.1 ++ '=' :: pair.2) ++ ['}'])) := by
  obtain ⟨pieces, hpieces, hmap⟩ := @Text.exists_trim_intercalate ',' (by decide)
    (pairs.map fun pair => pair.1 ++ '=' :: pair.2)
  obtain ⟨trimmed, htrimmed, hsame⟩ := exists_trim_pairs pairs
  rw [List.map_map] at hmap
  refine .object hpieces (hmap.trans htrimmed) (fun pair hpair => ?_) fun pair hpair => ?_
  · obtain ⟨origin, horigin, hkey, -⟩ := hsame pair hpair
    exact .of_trim (hkey ▸ hkeys origin horigin)
  · obtain ⟨origin, horigin, -, hvalue⟩ := hsame pair hpair
    exact hvalue ▸ hvalues origin horigin

/-- A text that is spelled as a token is one of the grammar, once it is trimmed. -/
theorem Spelled.denotes {token : Token} {text : List Char} (h : Spelled token text) :
    token.Denotes (Text.trim text) := by
  have htight : ∀ {opening closing : Char} (inner : List Char), Text.isBlank opening = false →
      Text.isBlank closing = false →
        Text.trim (opening :: (inner ++ [closing])) = opening :: (inner ++ [closing]) :=
    fun inner hopening hclosing => (Text.Tight.enclosed hopening hclosing inner).trim_eq
  induction h with
  | padded hleft htext hright ih => rwa [Text.trim_padded hleft hright]
  | bare h =>
    rw [(tight_of_bare h).trim_eq]
    exact Value.bare h
  | quoted hescaped hne hreturn hfeed =>
    rw [htight _ (by decide) (by decide)]
    exact Value.quoted (isLine_iff.mpr ⟨hne, hreturn, hfeed⟩) hescaped
  | @emptyList blanks hblanks =>
    rw [htight _ (by decide) (by decide)]
    exact ⟨@Value.list blanks [] (Text.trim_eq_nil hblanks) (by simp), rfl⟩
  | list hne hvalues ih =>
    rw [htight _ (by decide) (by decide)]
    exact ⟨value_list ih, rfl⟩
  | nested hlist ih => exact ih.1
  | @emptyObject blanks hblanks =>
    rw [htight _ (by decide) (by decide)]
    exact @Value.object blanks [] [] (Text.trim_eq_nil hblanks) rfl (by simp) (by simp)
  | object hne hkeys hvalues ihkeys ihvalues =>
    rw [htight _ (by decide) (by decide)]
    exact value_object ihkeys ihvalues
  | key hescaped =>
    rw [htight _ (by decide) (by decide)]
    exact Nested.quoted hescaped .nil

/-- Lists in one another. -/
theorem spelled_nest (depth : Nat) :
    Spelled .list (List.replicate (depth + 1) '[' ++ List.replicate (depth + 1) ']') := by
  induction depth with
  | zero => exact @Spelled.emptyList [] (List.forall_mem_nil _)
  | succ depth ih =>
    have hlist := Spelled.list (List.cons_ne_nil _ []) (List.forall_mem_singleton.mpr (.nested ih))
    rw [List.intercalate_singleton] at hlist
    rw [List.replicate_succ (a := '['), List.replicate_succ' (a := ']'), List.cons_append,
      ← List.append_assoc]
    exact hlist

end ApiDrift.Tag
