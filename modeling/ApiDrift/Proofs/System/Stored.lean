import ApiDrift.Proofs.Report.Accepted
import ApiDrift.Proofs.System.History

/-!
# What the store has

Batches are checked before anything of them is stored, the keys of their models are derived from
the models afterwards, and a later batch may replace what an earlier one left. Whatever operations
were served, each stored model stands under its own key and passes the checks of its own, so
detection has no need to check it again.
-/

namespace ApiDrift.System

section

variable {limits : Limits} {detection : DetectionSettings} {settings : CacheSettings}
  {operations : List Operation} {key : EndpointKey} {model : Model}

/-- A model that the batches have for a key has that key and is sound. -/
theorem sound_of_latest?
    (h : latest? ((new settings).takenAll limits detection operations) key = some model) :
    model.key = key ∧ model.Sound limits := by
  obtain ⟨models, hmodels, hmem, hkey⟩ := exists_mem_of_latest? h
  obtain ⟨-, -, hsound⟩ :=
    ingestionObstacle?_eq_none_iff.mp (ingestionObstacle?_of_mem_takenAll hmodels)
  exact ⟨hkey, hsound model hmem⟩

/-- What a request for a key finds is stored under the key. -/
theorem stored_of_get (h : (((new settings).serveAll limits detection operations).get key).1 =
    .ok (some model)) :
    (key.text, model) ∈ ((new settings).serveAll limits detection operations).store.models.entries :=
    by
  have hsettled : ((new settings).serveAll limits detection operations).Settled :=
    ((settled_new settings).serveAll operations).1
  rw [hsettled.get_fst] at h
  split at h
  · cases h
  · exact Dictionary.get?_eq_some_iff.mp (Except.ok.inj h)

end

/-- Whatever operations were served from the system without models on, each stored model stands
under its key, which is an allowed method, a colon and its path, and it is sound. So the types that
one of its parameters has are the names of tags, at least one, and a value is accepted exactly when
one of these tags accepts it. And what a request for a key finds is stored under that key. -/
theorem stored_sound (settings : CacheSettings) (limits : Limits) (detection : DetectionSettings)
    (operations : List Operation) :
    (∀ name model,
      (name, model) ∈
          ((new settings).serveAll limits detection operations).store.models.entries →
        name = model.key.text ∧ (∃ method ∈ allowedMethods, name = method ++ ":" ++ model.path) ∧
          model.Sound limits ∧
          ∀ sec, ∀ parameter ∈ model.parameters sec, ∃ tags : List Tag, tags ≠ [] ∧
            parameter.types = tags.map Tag.name ∧
            ∀ value, Tag.acceptsAny parameter.types value =
              tags.any fun tag => tag.accepts value.toList) ∧
    ∀ key model,
      (((new settings).serveAll limits detection operations).get key).1 = .ok (some model) →
        (key.text, model) ∈
          ((new settings).serveAll limits detection operations).store.models.entries := by
  refine ⟨fun name model hstored => ?_, fun key model hget => stored_of_get hget⟩
  have hfound := Dictionary.get?_eq_some_iff.mpr hstored
  have hlatest : latest? ((new settings).takenAll limits detection operations) ⟨name⟩ =
      some model := (find?_serveAll_new settings operations ⟨name⟩).symm.trans hfound
  obtain ⟨hkey, hsound⟩ := sound_of_latest? hlatest
  have hname : name = model.key.text := congrArg EndpointKey.text hkey.symm
  refine ⟨hname, ⟨normalizeMethod model.method, hsound.allowed, hname⟩, hsound, ?_⟩
  intro sec parameter hparameter
  have hparameter := hsound.parameters sec parameter hparameter
  obtain ⟨tags, htags⟩ := Tag.exists_map_name hparameter.supported
  have hne : tags ≠ [] := fun hnil => hparameter.typed (by rw [htags, hnil]; rfl)
  exact ⟨tags, hne, htags, fun value => by rw [htags, Tag.acceptsAny_map_name hne]⟩

/-- A model whose method is an allowed one only in capital form and without its blanks. -/
def paddedOrders : Model :=
  ⟨"/orders", " po\u017ft\t", [⟨"id", ["Int", "UUID"], true⟩], [], [⟨"note", ["String"], false⟩]⟩

/-- A model of a batch and another one of its key, then a batch of which one model is not sound. -/
def paddedBatches : List Operation :=
  [.ingest [paddedOrders, { paddedOrders with method := "POST", body := [] }],
    .ingest [{ paddedOrders with queryParams := [] }, { paddedOrders with path := " " }]]

/-- The first model of the key is stored and found, and it is sound. -/
theorem stored_sound_padded :
    let system := (new {}).serveAll {} {} paddedBatches
    ("POST:/orders", paddedOrders) ∈ system.store.models.entries ∧ paddedOrders.Sound {} ∧
      (system.get paddedOrders.key).1 = .ok (some paddedOrders) ∧
      (paddedOrders.key.text, paddedOrders) ∈ system.store.models.entries := by
  intro system
  have hstored : ("POST:/orders", paddedOrders) ∈ system.store.models.entries := by
    decide +kernel
  have hget : (system.get paddedOrders.key).1 = .ok (some paddedOrders) := by decide +kernel
  obtain ⟨hsound, hfound⟩ := stored_sound {} {} {} paddedBatches
  obtain ⟨-, -, hsound, -⟩ := hsound "POST:/orders" paddedOrders hstored
  exact ⟨hstored, hsound, hget, hfound paddedOrders.key paddedOrders hget⟩

end ApiDrift.System
