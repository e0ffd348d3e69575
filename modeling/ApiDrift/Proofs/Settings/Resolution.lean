import ApiDrift.Settings.Environment

/-!
# How a setting is resolved

A setting has two variables: the one of its key, and for a named profile the one of the profile and
the key. The first of them that is set and not empty decides. Its text is read according to the kind
of the setting, as a text, a number of so many bits or a truth value. A text that is none of that
kind means the default, and so does no text. A setting therefore depends on its two variables and on
nothing else in the environment.
-/

namespace ApiDrift

/-! ### Numerals -/

namespace Number

/-- A value that is held at one above a bound stays there when it gets one more digit. -/
theorem min_digit_eq (value digit greatest : Nat) :
    min (min value (greatest + 1) * 10 + digit) (greatest + 1) =
      min (value * 10 + digit) (greatest + 1) := by
  omega

/-- Reading digits gives their value, held at one above the bound. -/
theorem foldl_min_eq (greatest : Nat) (digits : List Char) (value : Nat) :
    digits.foldl (fun value c => min (value * 10 + (c.toNat - '0'.toNat)) (greatest + 1))
        (min value (greatest + 1)) =
      min (Nat.ofDigitChars 10 digits value) (greatest + 1) := by
  induction digits generalizing value with
  | nil => rfl
  | cons c rest ih =>
    rw [List.foldl_cons, min_digit_eq, ih, Nat.ofDigitChars_cons, Nat.mul_comm]

/-- Decimal digits are read as the number that they stand for, if it is within the bound. -/
theorem natural?_eq_some_iff {greatest : Nat} {digits : List Char} {n : Nat} :
    natural? greatest digits = some n ↔
      digits ≠ [] ∧ (∀ c ∈ digits, c.isDigit = true) ∧ Nat.ofDigitChars 10 digits 0 = n ∧
        n ≤ greatest := by
  have hvalue := foldl_min_eq greatest digits 0
  rw [Nat.zero_min] at hvalue
  rw [natural?]
  simp only [hvalue]
  by_cases hdigits : digits ≠ [] ∧ ∀ c ∈ digits, c.isDigit = true
  · have hread : (digits.isEmpty || !digits.all Char.isDigit) = false := by
      simpa [-List.all_eq_false] using hdigits
    rw [hread, if_neg Bool.false_ne_true, ← and_assoc, and_iff_right hdigits]
    generalize Nat.ofDigitChars 10 digits 0 = value
    split
    · rw [Option.some.injEq]
      omega
    · refine iff_of_false (by simp) ?_
      omega
  · have hunread : (digits.isEmpty || !digits.all Char.isDigit) = true := by
      rw [← List.all_eq_true, ← List.isEmpty_eq_false_iff] at hdigits
      cases hempty : digits.isEmpty <;> simp_all
    rw [if_pos hunread]
    exact iff_of_false (by simp) fun h => hdigits ⟨h.1, h.2.1⟩

end Number

/-- A text is a plus sign or nothing and then the decimal digits of a number. -/
def Numeral (text : String) (n : Nat) : Prop :=
  ∃ digits, (text.toList = digits ∨ text.toList = '+' :: digits) ∧ digits ≠ [] ∧
    (∀ c ∈ digits, c.isDigit = true) ∧ Nat.ofDigitChars 10 digits 0 = n

/-- A numeral is read as its number, if that is within the bound. -/
theorem parseNatural?_eq_some_iff {greatest : Nat} {text : String} {n : Nat} :
    parseNatural? greatest text = some n ↔ Numeral text n ∧ n ≤ greatest := by
  rw [parseNatural?]
  constructor
  · intro h
    obtain ⟨hne, hdigits, hvalue, hle⟩ := Number.natural?_eq_some_iff.mp h
    refine ⟨⟨_, ?_, hne, hdigits, hvalue⟩, hle⟩
    split
    · next rest htext => exact .inr htext
    · exact .inl rfl
  · rintro ⟨⟨digits, htext, hne, hdigits, hvalue⟩, hle⟩
    have hread : Number.natural? greatest digits = some n :=
      Number.natural?_eq_some_iff.mpr ⟨hne, hdigits, hvalue, hle⟩
    rcases htext with rfl | htext
    · split
      · next rest htext =>
        exact absurd (hdigits '+' (htext ▸ List.mem_cons_self)) (by decide)
      · exact hread
    · rw [htext]
      exact hread

/-- A word is read from the numerals of its number. -/
theorem map_parseNatural?_eq_some_iff {Word : Type} {ofNat : Nat → Word} {toNat : Word → Nat}
    {size : Nat} (hsize : 0 < size) (hof : ∀ n < size, toNat (ofNat n) = n)
    (hto : ∀ word, ofNat (toNat word) = word) (hlt : ∀ word, toNat word < size) {text : String}
    {word : Word} :
    (parseNatural? (size - 1) text).map ofNat = some word ↔ Numeral text (toNat word) := by
  simp only [Option.map_eq_some_iff, parseNatural?_eq_some_iff]
  constructor
  · rintro ⟨n, ⟨hnumeral, hle⟩, rfl⟩
    rwa [hof n (Nat.lt_of_le_sub_one hsize hle)]
  · intro hnumeral
    exact ⟨toNat word, ⟨hnumeral, Nat.le_sub_one_of_lt (hlt word)⟩, hto word⟩

/-- The words that stand for a truth value. -/
def truthWords (value : Bool) : List String :=
  if value then ["1", "true", "yes", "on"] else ["0", "false", "no", "off"]

/-- A truth value is read from its words in capital or small letters. -/
theorem parseBoolean?_eq_some_iff {text : String} {value : Bool} :
    parseBoolean? text = some value ↔ text.map Char.toLower ∈ truthWords value := by
  have hdisjoint : ∀ word ∈ truthWords true, word ∉ truthWords false := by decide
  have hparse : parseBoolean? text =
      if text.map Char.toLower ∈ truthWords true then some true
      else if text.map Char.toLower ∈ truthWords false then some false else none := by
    simp only [parseBoolean?, truthWords, List.contains_iff_mem, if_true, Bool.false_eq_true,
      if_false]
  rw [hparse]
  cases value with
  | true =>
    split
    · next htrue => simp [htrue]
    · next htrue => split <;> simp [htrue]
  | false =>
    split
    · next htrue => simp [hdisjoint _ htrue]
    · split
      · next hfalse => simp [hfalse]
      · next hfalse => simp [hfalse]

/-! ### Kinds of settings -/

/-- What the text of a setting is read as. -/
inductive SettingKind where
  /-- A text. -/
  | text
  /-- A number of sixteen bits. -/
  | word16
  /-- A number of sixty-four bits. -/
  | word64
  /-- A truth value. -/
  | truth
  deriving DecidableEq

namespace SettingKind

/-- The values of a kind. -/
@[reducible] def Value : SettingKind → Type
  | .text => String
  | .word16 => UInt16
  | .word64 => UInt64
  | .truth => Bool

/-- The value that a text is read as. -/
def parse? : (kind : SettingKind) → (given : String) → Option kind.Value
  | .text, given => some given
  | .word16, given => (parseNatural? (UInt16.size - 1) given).map UInt16.ofNat
  | .word64, given => (parseNatural? (UInt64.size - 1) given).map UInt64.ofNat
  | .truth, given => parseBoolean? given

/-- A text stands for a value: any text for itself, a numeral for its number, and four words each,
in capital or small letters, for the truth values. -/
def Reads : (kind : SettingKind) → (given : String) → kind.Value → Prop
  | .text, given, value => value = given
  | .word16, given, value => Numeral given value.toNat
  | .word64, given, value => Numeral given value.toNat
  | .truth, given, value => given.map Char.toLower ∈ truthWords value

/-- A text is read as the value that it stands for. -/
theorem parse?_eq_some_iff {kind : SettingKind} {given : String} {value : kind.Value} :
    kind.parse? given = some value ↔ kind.Reads given value := by
  cases kind with
  | text => simp [parse?, Reads, eq_comm]
  | word16 =>
    exact map_parseNatural?_eq_some_iff (by decide) (fun _ => UInt16.toNat_ofNat_of_lt')
      (fun _ => UInt16.ofNat_toNat) UInt16.toNat_lt_size
  | word64 =>
    exact map_parseNatural?_eq_some_iff (by decide) (fun _ => UInt64.toNat_ofNat_of_lt')
      (fun _ => UInt64.ofNat_toNat) UInt64.toNat_lt_size
  | truth => exact parseBoolean?_eq_some_iff

end SettingKind

/-! ### Settings -/

/-- The settings that an environment decides. -/
inductive Setting where
  /-- The address. -/
  | host
  /-- The port. -/
  | port
  /-- The origin of pages. -/
  | corsOrigin
  /-- The most models of a batch. -/
  | maxModels
  /-- The most parameters of a section. -/
  | maxParameters
  /-- The most types of a parameter. -/
  | maxTypes
  /-- The most characters of a path or a name. -/
  | maxLength
  /-- The most entries of the cache. -/
  | maxEntries
  /-- How long an entry of the cache stays. -/
  | ttl
  /-- Whether detection fails open. -/
  | failOpen
  deriving DecidableEq

namespace Setting

/-- All settings. -/
def all : List Setting :=
  [.host, .port, .corsOrigin, .maxModels, .maxParameters, .maxTypes, .maxLength, .maxEntries, .ttl,
    .failOpen]

/-- No setting is left out. -/
theorem mem_all (setting : Setting) : setting ∈ all := by
  cases setting <;> decide

/-- The key of a setting. -/
def key : Setting → String
  | .host => "HOST"
  | .port => "PORT"
  | .corsOrigin => "CORS_ORIGIN"
  | .maxModels => "MAX_MODELS_PER_REQUEST"
  | .maxParameters => "MAX_API_PARAMS"
  | .maxTypes => "MAX_API_PARAM_TYPES"
  | .maxLength => "MAX_STRING_LENGTH"
  | .maxEntries => "CACHE_MAX_ENTRIES"
  | .ttl => "CACHE_TTL_MS"
  | .failOpen => "DETECTION_FAIL_OPEN"

/-- What the text of a setting is read as. -/
def kind : Setting → SettingKind
  | .host | .corsOrigin => .text
  | .port => .word16
  | .failOpen => .truth
  | _ => .word64

/-- The value of a setting among all settings. -/
def get : (setting : Setting) → Settings → setting.kind.Value
  | .host, settings => settings.server.host
  | .port, settings => settings.server.port
  | .corsOrigin, settings => settings.server.corsOrigin
  | .maxModels, settings => settings.limits.maxModels
  | .maxParameters, settings => settings.limits.maxParameters
  | .maxTypes, settings => settings.limits.maxTypes
  | .maxLength, settings => settings.limits.maxLength
  | .maxEntries, settings => settings.cache.maxEntries
  | .ttl, settings => settings.cache.ttl
  | .failOpen, settings => settings.detection.failOpen

/-- The value of a setting when nothing else is said. -/
def default (setting : Setting) : setting.kind.Value :=
  setting.get {}

end Setting

/-- Settings are the same when their profiles and the values of all settings are. -/
theorem Settings.eq_of_get {first second : Settings} (hprofile : first.profile = second.profile)
    (hget : ∀ setting : Setting, setting.get first = setting.get second) : first = second := by
  obtain ⟨profile, ⟨host, port, origin⟩, ⟨models, parameters, types, length⟩, ⟨entries, ttl⟩,
    ⟨failOpen⟩⟩ := first
  obtain ⟨profile', ⟨host', port', origin'⟩, ⟨models', parameters', types', length'⟩,
    ⟨entries', ttl'⟩, ⟨failOpen'⟩⟩ := second
  obtain rfl : profile = profile' := hprofile
  obtain rfl : host = host' := hget .host
  obtain rfl : port = port' := hget .port
  obtain rfl : origin = origin' := hget .corsOrigin
  obtain rfl : models = models' := hget .maxModels
  obtain rfl : parameters = parameters' := hget .maxParameters
  obtain rfl : types = types' := hget .maxTypes
  obtain rfl : length = length' := hget .maxLength
  obtain rfl : entries = entries' := hget .maxEntries
  obtain rfl : ttl = ttl' := hget .ttl
  obtain rfl : failOpen = failOpen' := hget .failOpen
  rfl

/-! ### Resolution -/

/-- Of the texts of two variables, of which the first one counts first, the first that is set and
not empty decides. -/
def Decides (first second : Option String) (given : String) : Prop :=
  given ≠ "" ∧ (first = some given ∨ (first = none ∨ first = some "") ∧ second = some given)

/-- What a setting is with two texts of its variables: the value that the deciding text stands for,
and the default when it stands for none or no text decides. -/
inductive Setting.Resolves (setting : Setting) (first second : Option String) :
    setting.kind.Value → Prop where
  /-- The deciding text stands for a value. -/
  | given {given : String} {value : setting.kind.Value} (hdecides : Decides first second given)
      (hreads : setting.kind.Reads given value) : Resolves setting first second value
  /-- The deciding text stands for no value. -/
  | unread {given : String} (hdecides : Decides first second given)
      (hunread : ∀ value, ¬setting.kind.Reads given value) :
      Resolves setting first second setting.default
  /-- No text decides. -/
  | unset (hunset : ∀ given, ¬Decides first second given) :
      Resolves setting first second setting.default

namespace Environment

/-- The text of the variable of a profile and a key, which there is for a named profile only. -/
def profiled? (env : Environment) (profile key : String) : Option String :=
  if profile = "" then none else env.get? (variableOf profile key)

/-- Of the texts of two variables that are set and not empty, the first one decides. -/
theorem filter_or_filter_eq_some_iff {first second : Option String} {given : String} :
    (first.filter fun text => !text.isEmpty).or (second.filter fun text => !text.isEmpty) =
      some given ↔ Decides first second given := by
  have hfilter (text : String) :
      (some text).filter (fun text => !text.isEmpty) = if text = "" then none else some text := by
    by_cases htext : text = "" <;> simp [Option.filter, htext]
  have hsecond : second.filter (fun text => !text.isEmpty) = some given ↔
      given ≠ "" ∧ second = some given := by
    simp [Option.filter_eq_some_iff, and_comm]
  cases first with
  | none => simpa [Decides] using hsecond
  | some text =>
    rw [hfilter]
    by_cases htext : text = ""
    · simp only [htext, if_true, Option.none_or, hsecond, Decides]
      grind
    · simp only [htext, if_false, Option.some_or, Decides]
      grind

/-- The text that decides a setting is the first one of its two variables that is not empty. -/
theorem deciding?_eq_some_iff {env : Environment} {profile key given : String} :
    env.deciding? profile key = some given ↔
      Decides (env.profiled? profile key) (env.get? key) given := by
  rw [← filter_or_filter_eq_some_iff, deciding?, profiled?]
  by_cases hprofile : profile = ""
  · simp [hprofile, text?]
  · simp [hprofile, text?]

section

variable (env : Environment) (profile key : String)

/-- A text is read as it is. -/
theorem text_eq (default : String) :
    env.text profile key default =
      ((env.deciding? profile key).bind SettingKind.text.parse?).getD default := by
  rw [text]
  cases env.deciding? profile key <;> rfl

/-- What is read as a number and then as a word is read as a word. -/
theorem elim_bind_eq {Word : Type} (read : String → Option Nat) (ofNat : Nat → Word)
    (default : Word) (given? : Option String) :
    (given?.bind read).elim default ofNat =
      (given?.bind fun given => (read given).map ofNat).getD default := by
  cases given? with
  | none => rfl
  | some given => cases h : read given <;> simp [h]

/-- A number of sixteen bits is read from the deciding text. -/
theorem word16_eq (default : UInt16) :
    env.word16 profile key default =
      ((env.deciding? profile key).bind SettingKind.word16.parse?).getD default :=
  elim_bind_eq ..

/-- A number of sixty-four bits is read from the deciding text. -/
theorem word64_eq (default : UInt64) :
    env.word64 profile key default =
      ((env.deciding? profile key).bind SettingKind.word64.parse?).getD default :=
  elim_bind_eq ..

/-- A truth value is read from the deciding text. -/
theorem boolean_eq (default : Bool) :
    env.boolean profile key default =
      ((env.deciding? profile key).bind SettingKind.truth.parse?).getD default :=
  rfl

end

end Environment

namespace Settings

/-- The value of a setting is what its deciding text is read as, and else its default. -/
theorem get_forProfile (env : Environment) (name : String) (setting : Setting) :
    setting.get (forProfile env name) =
      ((env.deciding? (Text.upper name) setting.key).bind setting.kind.parse?).getD
        setting.default := by
  cases setting <;>
    simp only [Setting.get, forProfile, Setting.key, Setting.kind, Setting.default,
      Environment.text_eq, Environment.word16_eq, Environment.word64_eq, Environment.boolean_eq]

/-- A setting is the same in environments in which its two variables are. -/
theorem get_forProfile_congr {env env' : Environment} {name : String} {setting : Setting}
    (hprofiled : env.profiled? (Text.upper name) setting.key =
      env'.profiled? (Text.upper name) setting.key)
    (hplain : env.get? setting.key = env'.get? setting.key) :
    setting.get (forProfile env name) = setting.get (forProfile env' name) := by
  have hdeciding : env.deciding? (Text.upper name) setting.key =
      env'.deciding? (Text.upper name) setting.key := by
    ext given
    rw [Environment.deciding?_eq_some_iff, Environment.deciding?_eq_some_iff, hprofiled, hplain]
  rw [get_forProfile, get_forProfile, hdeciding]

/-- Every setting is resolved from its two variables. -/
theorem resolves_forProfile (env : Environment) (name : String) (setting : Setting) :
    setting.Resolves (env.profiled? (Text.upper name) setting.key) (env.get? setting.key)
      (setting.get (forProfile env name)) := by
  rw [get_forProfile]
  cases hdeciding : env.deciding? (Text.upper name) setting.key with
  | none =>
    refine .unset fun given hdecides => ?_
    rw [← Environment.deciding?_eq_some_iff, hdeciding] at hdecides
    cases hdecides
  | some given =>
    have hdecides := Environment.deciding?_eq_some_iff.mp hdeciding
    rw [Option.bind_some]
    cases hparse : setting.kind.parse? given with
    | none =>
      refine .unread hdecides fun value hreads => ?_
      rw [← SettingKind.parse?_eq_some_iff, hparse] at hreads
      cases hreads
    | some value => exact .given hdecides (SettingKind.parse?_eq_some_iff.mp hparse)

end Settings

end ApiDrift
