import ApiDrift.Proofs.Settings.Resolution
import ApiDrift.Proofs.Text.Cut
import Mathlib.Data.List.Infix

/-!
# How far profiles are apart

The variables of profiles have names of their own: no key ends with an underscore and another key,
so the name of a variable tells its profile and its key. Setting, changing or removing a variable
of one profile therefore leaves the settings of every other profile as they are, with one exception.
A profile whose name begins with the name of that variable and an equals sign finds its own
variables in the text of that variable.
-/

namespace ApiDrift

namespace Environment

/-- Two environments have the same variables in the same order apart from one, which is set,
changed or removed on the way from the one to the other. -/
def AgreeApart (changed : String) (env env' : Environment) : Prop :=
  env.filter (fun set => set.1 ≠ changed) = env'.filter fun set => set.1 ≠ changed

instance (changed : String) (env env' : Environment) : Decidable (AgreeApart changed env env') :=
  inferInstanceAs (Decidable (_ = _))

section

variable {env env' : Environment} {name changed : String}

/-- A variable is found in the entry of another one whose name has no equals sign when it has the
same name, or a longer one that begins with the other name and an equals sign. -/
theorem entry_cases (hequals : '=' ∉ changed.toList) {text : String} {found : List Char}
    (h : (entry name "").isPrefixOf? (entry changed text) = some found) :
    name = changed ∨ changed.toList ++ ['='] <+: name.toList := by
  rw [List.isPrefixOf?_eq_some_iff_append_eq, entry, entry, String.toList_empty, List.append_assoc,
    List.singleton_append, eq_comm, Text.append_cons_eq_append_cons_iff hequals] at h
  rcases h with ⟨hname, -⟩ | ⟨between, hname, -⟩
  · exact .inl (String.toList_injective hname)
  · exact .inr ⟨between, by simp [hname]⟩

/-- A variable whose name goes on behind the name of another one and an equals sign is found in the
text of that other one. -/
theorem get?_of_append {more : List Char} (found : List Char)
    (hname : name.toList = changed.toList ++ '=' :: more) :
    get? [(changed, String.ofList (more ++ '=' :: found))] name = some (String.ofList found) := by
  have hentry : (entry name "").isPrefixOf?
      (entry changed (String.ofList (more ++ '=' :: found))) = some found := by
    rw [List.isPrefixOf?_eq_some_iff_append_eq, entry, entry, hname, String.toList_ofList]
    simp
  rw [get?, List.findSome?_singleton, hentry]
  rfl

/-- A variable is found in the environment without another one in whose entry it is not found. -/
theorem get?_filter (hother : ∀ text, (entry name "").isPrefixOf? (entry changed text) = none) :
    get? (env.filter fun set => set.1 ≠ changed) name = env.get? name := by
  induction env with
  | nil => rfl
  | cons set rest ih =>
    obtain ⟨key, text⟩ := set
    by_cases hkey : key = changed
    · subst hkey
      rw [List.filter_cons_of_neg (by simp), ih]
      simp [get?, hother text]
    · rw [List.filter_cons_of_pos (by simpa using hkey)]
      simp only [get?, List.findSome?_cons] at ih ⊢
      rw [ih]

/-- A variable is found in environments alike that agree apart from another one. -/
theorem AgreeApart.get?_eq (h : AgreeApart changed env env') (hequals : '=' ∉ changed.toList)
    (hname : name ≠ changed) (hlonger : ¬changed.toList ++ ['='] <+: name.toList) :
    env.get? name = env'.get? name := by
  have hother (text : String) : (entry name "").isPrefixOf? (entry changed text) = none := by
    refine Option.eq_none_iff_forall_ne_some.mpr fun found hfound => ?_
    rcases entry_cases hequals hfound with hsame | hbegins
    · exact hname hsame
    · exact hlonger hbegins
  calc
    env.get? name = get? (env.filter fun set => set.1 ≠ changed) name := (get?_filter hother).symm
    _ = get? (env'.filter fun set => set.1 ≠ changed) name := by rw [h]
    _ = env'.get? name := get?_filter hother

end

end Environment

/-! ### Names of variables -/

namespace Setting

/-- A key has no equals sign. -/
theorem notMem_key (setting : Setting) : '=' ∉ setting.key.toList := by
  have hall : all.all (fun setting => !setting.key.toList.contains '=') = true := by decide
  simpa using List.all_eq_true.mp hall setting setting.mem_all

/-- No key ends with an underscore and a key, and two keys behind underscores are the same when one
of them ends with the other. -/
theorem key_suffix (first second : Setting) :
    ¬('_' :: first.key.toList <:+ second.key.toList) ∧
      ('_' :: first.key.toList <:+ '_' :: second.key.toList → first = second) := by
  have hall : ∀ first ∈ all, ∀ second ∈ all, ¬('_' :: first.key.toList <:+ second.key.toList) ∧
      ('_' :: first.key.toList <:+ '_' :: second.key.toList → first = second) := by decide +kernel
  exact hall first first.mem_all second second.mem_all

/-- The name of a variable is its profile and its key. -/
theorem toList_variableOf (profile : String) (setting : Setting) :
    (Environment.variableOf profile setting.key).toList =
      profile.toList ++ '_' :: setting.key.toList := by
  have hunderscore : ("_" : String).toList = ['_'] := by decide
  rw [Environment.variableOf, String.toList_append, String.toList_append, hunderscore,
    List.append_assoc, List.singleton_append]

/-- The name of a variable tells its profile and its key. -/
theorem variableOf_inj {profile other : String} {setting changed : Setting}
    (h : Environment.variableOf profile setting.key = Environment.variableOf other changed.key) :
    profile = other ∧ setting = changed := by
  have hlist := congrArg String.toList h
  rw [toList_variableOf, toList_variableOf] at hlist
  have hsetting : setting = changed := by
    rcases List.suffix_or_suffix_of_suffix ⟨_, rfl⟩ ⟨_, hlist.symm⟩ with hsuffix | hsuffix
    · exact (key_suffix _ _).2 hsuffix
    · exact ((key_suffix _ _).2 hsuffix).symm
  subst hsetting
  exact ⟨String.toList_injective (List.append_cancel_right hlist), rfl⟩

/-- No variable of a profile has the name of a key. -/
theorem key_ne_variableOf {other : String} (setting changed : Setting) :
    setting.key ≠ Environment.variableOf other changed.key := by
  intro h
  refine (key_suffix changed setting).1 ⟨other.toList, ?_⟩
  rw [h, toList_variableOf]

end Setting

namespace Settings

section

variable {name other : String} {changed : Setting}

/-- The settings of a profile do not depend on a variable of another one, unless the name of the
profile begins with the name of the variable and an equals sign. -/
theorem forProfile_eq_of_agreeApart {env env' : Environment} (hequals : '=' ∉ other.toList)
    (hother : Text.upper name ≠ other)
    (hlonger : ¬(Environment.variableOf other changed.key).toList ++ ['='] <+:
      (Text.upper name).toList)
    (h : env.AgreeApart (Environment.variableOf other changed.key) env') :
    forProfile env name = forProfile env' name := by
  have hchanged : '=' ∉ (Environment.variableOf other changed.key).toList := by
    rw [Setting.toList_variableOf, List.mem_append, List.mem_cons]
    simp [hequals, changed.notMem_key]
  refine eq_of_get rfl fun setting => get_forProfile_congr ?_ ?_
  · rw [Environment.profiled?, Environment.profiled?]
    split
    · rfl
    · refine h.get?_eq hchanged (fun heq => hother (Setting.variableOf_inj heq).1) fun hbegins => ?_
      rw [Setting.toList_variableOf _ setting] at hbegins
      refine hlonger (Text.prefix_of_prefix_append ?_ hbegins)
      simp [setting.notMem_key]
  · refine h.get?_eq hchanged (setting.key_ne_variableOf changed) fun hbegins => ?_
    exact setting.notMem_key (hbegins.subset (by simp))

/-- A profile whose name begins with the name of a variable and an equals sign finds the variable of
its address in the text of that variable. -/
theorem exists_profiled?_of_prefix
    (hlonger : (Environment.variableOf other changed.key).toList ++ ['='] <+:
      (Text.upper name).toList) :
    ∃ text, Environment.profiled? [(Environment.variableOf other changed.key, text)]
      (Text.upper name) Setting.host.key = some "Z" := by
  obtain ⟨more, hmore⟩ := hlonger
  have hnamed : Text.upper name ≠ "" := by
    intro hempty
    rw [hempty] at hmore
    simp at hmore
  have hname : (Environment.variableOf (Text.upper name) Setting.host.key).toList =
      (Environment.variableOf other changed.key).toList ++ '=' :: (more ++ "_HOST".toList) := by
    rw [Setting.toList_variableOf _ .host, ← hmore]
    simp [Setting.key]
  exact ⟨_, (if_neg hnamed).trans (Environment.get?_of_append ['Z'] hname)⟩

/-- The address is the deciding text. -/
theorem host_forProfile (env : Environment) (name : String) :
    (forProfile env name).server.host =
      (env.deciding? (Text.upper name) Setting.host.key).getD "0.0.0.0" :=
  rfl

/-- A profile whose name begins with the name of a variable and an equals sign depends on that
variable. -/
theorem forProfile_ne_of_prefix
    (hlonger : (Environment.variableOf other changed.key).toList ++ ['='] <+:
      (Text.upper name).toList) :
    ∃ env env' : Environment, env.AgreeApart (Environment.variableOf other changed.key) env' ∧
      forProfile env name ≠ forProfile env' name := by
  obtain ⟨text, hfound⟩ := exists_profiled?_of_prefix hlonger
  refine ⟨[], [(Environment.variableOf other changed.key, text)],
    by simp [Environment.AgreeApart], fun hsame => ?_⟩
  have hunset : Environment.deciding? [] (Text.upper name) Setting.host.key = none := by
    rw [Environment.deciding?]
    split <;> rfl
  have hset := Environment.deciding?_eq_some_iff.mpr ⟨by decide, .inl hfound⟩
  have hhost := congrArg (fun settings => settings.server.host) hsame
  simp only [host_forProfile, hunset, hset] at hhost
  exact absurd hhost (by decide)

end

/-- Every setting of a profile depends on its two variables alone: the first of them that is set and
not empty decides, by the value that its text stands for, and the default takes the place of no
text and of a text that stands for no value. Where no name has an equals sign, the text of a
variable is the one that it is set to. A variable of another profile plays no part, exactly unless
the name of the profile begins with the name of that variable and an equals sign. -/
theorem forProfile_exact (name : String) :
    (∀ (env : Environment) (setting : Setting),
      setting.Resolves (env.profiled? (Text.upper name) setting.key) (env.get? setting.key)
        (setting.get (forProfile env name))) ∧
    (∀ (env env' : Environment) (setting : Setting),
      env.profiled? (Text.upper name) setting.key = env'.profiled? (Text.upper name) setting.key →
      env.get? setting.key = env'.get? setting.key →
      setting.get (forProfile env name) = setting.get (forProfile env' name)) ∧
    (∀ (env : Environment) (variableName : String), '=' ∉ variableName.toList →
      (∀ set ∈ env, '=' ∉ set.1.toList) →
      env.get? variableName = env.lookup variableName) ∧
    ∀ (other : String) (changed : Setting), '=' ∉ other.toList → Text.upper name ≠ other →
      ((∀ env env' : Environment, env.AgreeApart (Environment.variableOf other changed.key) env' →
        forProfile env name = forProfile env' name) ↔
          ¬(Environment.variableOf other changed.key).toList ++ ['='] <+:
            (Text.upper name).toList) := by
  refine ⟨fun env => resolves_forProfile env name, fun _ _ _ => get_forProfile_congr,
    fun _ _ => Environment.get?_eq_lookup, fun other changed hequals hother => ⟨?_, ?_⟩⟩
  · rintro hisolated hlonger
    obtain ⟨env, env', hagree, hne⟩ := forProfile_ne_of_prefix hlonger
    exact hne (hisolated env env' hagree)
  · exact fun hlonger _ _ => forProfile_eq_of_agreeApart hequals hother hlonger

/-- A profile that another one's name goes on from has its own port. -/
theorem forProfile_exact_longer :
    (forProfile [("PROD_EXTRA_PORT", "1"), ("PROD_PORT", "+9191")] "prod").server.port = 9191 ∧
      Environment.get? [("PROD_EXTRA_PORT", "1"), ("PROD_PORT", "+9191")] "PROD_PORT" =
        some "+9191" ∧
      (forProfile [("PORT", "1"), ("HOST", "a")] "prod").server.host =
        (forProfile [("PORT", "2"), ("HOST", "a")] "prod").server.host ∧
      '=' ∉ "PROD_EXTRA".toList ∧ Text.upper "prod" ≠ "PROD_EXTRA" ∧
      ¬(Environment.variableOf "PROD_EXTRA" Setting.port.key).toList ++ ['='] <+:
        (Text.upper "prod").toList ∧
      forProfile [("PROD_EXTRA_PORT", "1"), ("PROD_PORT", "+9191")] "prod" =
        forProfile [("PROD_PORT", "+9191")] "prod" := by
  obtain ⟨-, halone, hlookup, hisolated⟩ := forProfile_exact "prod"
  have hfound : Environment.get? [("PROD_EXTRA_PORT", "1"), ("PROD_PORT", "+9191")] "PROD_PORT" =
      some "+9191" :=
    (hlookup _ _ (by decide) (by decide)).trans (by decide)
  have hhost := halone [("PORT", "1"), ("HOST", "a")] [("PORT", "2"), ("HOST", "a")] .host
    (by decide +kernel) (by decide +kernel)
  have hequals : '=' ∉ "PROD_EXTRA".toList := by decide
  have hother : Text.upper "prod" ≠ "PROD_EXTRA" := by decide +kernel
  have hlonger : ¬(Environment.variableOf "PROD_EXTRA" Setting.port.key).toList ++ ['='] <+:
      (Text.upper "prod").toList := by decide +kernel
  refine ⟨by decide +kernel, hfound, hhost, hequals, hother, hlonger, ?_⟩
  exact (hisolated "PROD_EXTRA" .port hequals hother).mpr hlonger _ _ (by decide +kernel)

/-- A variable of the profile `A` sets the port of the profile `A_PORT=X`, neither of whose own
variables is set. -/
theorem forProfile_of_equals :
    Text.upper "a_port=x" = "A_PORT=X" ∧
      Environment.variableOf "A" Setting.port.key = "A_PORT" ∧
      List.lookup (Environment.variableOf "A_PORT=X" Setting.port.key)
        [("A_PORT", "X_PORT=12")] = none ∧
      List.lookup Setting.port.key [("A_PORT", "X_PORT=12")] = none ∧
      (forProfile [] "a_port=x").server.port = 8080 ∧
      (forProfile [("A_PORT", "X_PORT=12")] "a_port=x").server.port = 12 := by
  decide +kernel

end Settings

end ApiDrift
