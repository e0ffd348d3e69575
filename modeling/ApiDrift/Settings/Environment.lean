import ApiDrift.Number.Natural
import ApiDrift.Settings
import ApiDrift.Text.Case

/-!
# Settings from an environment

Every setting has a key. With a profile, the variable `PROFILE_KEY` decides if it is set and not
empty; else the variable `KEY` does. A text that is not valid for the setting means its default.

Every variable stands in the environment as an entry `NAME=TEXT`. Nothing tells the equals sign
behind a name from one inside a name, so a name that holds one is found in the entry of a variable
whose text goes on with the rest of the name.
-/

namespace ApiDrift

/-- An environment: the variables that are set. -/
abbrev Environment := List (String × String)

namespace Environment

/-- The entry of a variable with a text. -/
def entry (name text : String) : List Char :=
  name.toList ++ '=' :: text.toList

/-- The text of a variable that is set: what follows its name and an equals sign in the first entry
that begins with them. -/
def get? (env : Environment) (name : String) : Option String :=
  env.findSome? fun set =>
    ((entry name "").isPrefixOf? (entry set.1 set.2)).map String.ofList

/-- Names without an equals sign are told apart by their entries. -/
theorem isPrefixOf?_of_notMem {name key : List Char} (text : List Char)
    (hname : '=' ∉ name) (hkey : '=' ∉ key) :
    (name ++ ['=']).isPrefixOf? (key ++ '=' :: text) = if name = key then some text else none := by
  have step (c d : Char) (cs ds : List Char) :
      (c :: cs).isPrefixOf? (d :: ds) = if c = d then cs.isPrefixOf? ds else none := by
    by_cases h : c = d
    · simp only [h, ite_true]
      exact if_pos (beq_self_eq_true d)
    · simp only [h, ite_false]
      exact if_neg (by simp [h])
  induction name generalizing key with
  | nil =>
    cases key with
    | nil => rfl
    | cons k ks =>
      have hk : '=' ≠ k := fun h => hkey (h ▸ List.mem_cons_self ..)
      simp [step, hk]
  | cons c cs ih =>
    cases key with
    | nil =>
      have hc : c ≠ '=' := fun h => hname (h ▸ List.mem_cons_self ..)
      simp [step, hc]
    | cons k ks =>
      simp only [List.mem_cons, not_or] at hname hkey
      by_cases h : c = k <;> simp [step, h, ih hname.2 hkey.2]

/-- Where no name holds an equals sign, the text of a variable is the one it is set to. -/
theorem get?_eq_lookup {env : Environment} {name : String} (hname : '=' ∉ name.toList)
    (henv : ∀ set ∈ env, '=' ∉ set.1.toList) : env.get? name = env.lookup name := by
  induction env with
  | nil => rfl
  | cons set rest ih =>
    have hset := isPrefixOf?_of_notMem set.2.toList hname (henv set (List.mem_cons_self ..))
    have hrest := ih fun other h => henv other (List.mem_cons_of_mem _ h)
    obtain ⟨key, text⟩ := set
    simp only [get?, List.findSome?_cons, entry, String.toList_empty] at hset hrest ⊢
    rw [hset, List.lookup_cons]
    by_cases h : name = key
    · simp [h]
    · have hne : name.toList ≠ key.toList := fun he => h (String.toList_injective he)
      simp [hne, hrest, beq_eq_false_iff_ne.mpr h]

/-- The text of a variable that is set and not empty. -/
def text? (env : Environment) (name : String) : Option String :=
  (env.get? name).filter fun text => !text.isEmpty

/-- A name is found whole, and a name with an equals sign in the text of another variable. -/
example : ["A", "AB", "A=B", "A=BC", "B"].map (get? [("AB", "1"), ("A", "B=2")]) =
    [some "B=2", some "1", some "2", none, none] := by
  decide +kernel

/-- The variable of a key for a profile. -/
def variableOf (profile key : String) : String :=
  profile ++ "_" ++ key

/-- The text that decides a setting. -/
def deciding? (env : Environment) (profile key : String) : Option String :=
  if profile.isEmpty then env.text? key
  else (env.text? (variableOf profile key)).or (env.text? key)

end Environment

/-- The value of decimal digits behind an optional plus sign, up to a greatest one. -/
def parseNatural? (greatest : Nat) (text : String) : Option Nat :=
  let digits := match text.toList with
    | '+' :: rest => rest
    | all => all
  Number.natural? greatest digits

/-- The truth value of one of the accepted words, without regard to the case of ASCII letters. -/
def parseBoolean? (text : String) : Option Bool :=
  let word := text.map Char.toLower
  if ["1", "true", "yes", "on"].contains word then some true
  else if ["0", "false", "no", "off"].contains word then some false
  else none

namespace Environment

/-- A text setting. -/
def text (env : Environment) (profile key default : String) : String :=
  (env.deciding? profile key).getD default

/-- A setting of sixteen bits. -/
def word16 (env : Environment) (profile key : String) (default : UInt16) : UInt16 :=
  ((env.deciding? profile key).bind (parseNatural? (UInt16.size - 1))).elim default UInt16.ofNat

/-- A setting of sixty-four bits. -/
def word64 (env : Environment) (profile key : String) (default : UInt64) : UInt64 :=
  ((env.deciding? profile key).bind (parseNatural? (UInt64.size - 1))).elim default UInt64.ofNat

/-- A truth-valued setting. -/
def boolean (env : Environment) (profile key : String) (default : Bool) : Bool :=
  ((env.deciding? profile key).bind parseBoolean?).getD default

end Environment

namespace Settings

/-- The variable that names the profile. -/
def profileVariable : String := "SHADOWSCAN_PROFILE"

/-- The settings of a profile, whose name counts in capital form. -/
def forProfile (env : Environment) (name : String) : Settings :=
  let profile := Text.upper name
  let server : ServerSettings := {}
  let limits : Limits := {}
  let cache : CacheSettings := {}
  let detection : DetectionSettings := {}
  { profile
    server :=
      { host := env.text profile "HOST" server.host
        port := env.word16 profile "PORT" server.port
        corsOrigin := env.text profile "CORS_ORIGIN" server.corsOrigin }
    limits :=
      { maxModels := env.word64 profile "MAX_MODELS_PER_REQUEST" limits.maxModels
        maxParameters := env.word64 profile "MAX_API_PARAMS" limits.maxParameters
        maxTypes := env.word64 profile "MAX_API_PARAM_TYPES" limits.maxTypes
        maxLength := env.word64 profile "MAX_STRING_LENGTH" limits.maxLength }
    cache :=
      { maxEntries := env.word64 profile "CACHE_MAX_ENTRIES" cache.maxEntries
        ttl := env.word64 profile "CACHE_TTL_MS" cache.ttl }
    detection :=
      { failOpen := env.boolean profile "DETECTION_FAIL_OPEN" detection.failOpen } }

/-- The settings of the profile that the environment names. -/
def ofEnvironment (env : Environment) : Settings :=
  forProfile env (Text.upper ((env.get? profileVariable).getD ""))

end Settings

end ApiDrift
