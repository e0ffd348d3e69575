import ApiDrift.Proofs.System.Stored
import ApiDrift.Proofs.Text.Cut

/-!
# What a key says about an endpoint

A key joins a method and a path with a colon. The methods of models that are taken in have no
colon, so a request has the key of such a model in two ways only: it has the method and the path of
the model, or its method goes on behind the method of the model, over the colon and into the path.
A request whose method has no colon is therefore matched with models of its own method and path
alone.
-/

namespace ApiDrift

/-- When a method without a colon and a path have the key of another method and path. -/
theorem EndpointKey.of_eq_of_iff {method path other target : String}
    (h : ':' ∉ (normalizeMethod method).toList) :
    of method path = of other target ↔
      (normalizeMethod other = normalizeMethod method ∧ target = path) ∨
        ∃ between, normalizeMethod other = normalizeMethod method ++ ":" ++ between ∧
          path = between ++ ":" ++ target := by
  have hcolon : (":" : String).toList = [':'] := by decide
  simp only [of, EndpointKey.mk.injEq, ← String.toList_inj, String.toList_append, hcolon,
    List.append_assoc, List.singleton_append]
  rw [Text.append_cons_eq_append_cons_iff h]
  constructor
  · rintro (hsame | ⟨between, hmethod, hpath⟩)
    · exact .inl hsame
    · refine .inr ⟨String.ofList between, ?_, ?_⟩
      · rw [String.toList_ofList]
        exact hmethod
      · rw [String.toList_ofList]
        exact hpath
  · rintro (hsame | ⟨between, hmethod, hpath⟩)
    · exact .inl hsame
    · exact .inr ⟨between.toList, hmethod, hpath⟩

/-- A request has the method and the path of a model. -/
def Request.IsFor (request : Request) (model : Model) : Prop :=
  normalizeMethod request.method = normalizeMethod model.method ∧ request.path = model.path

/-- The method of a request goes on behind the method of a model, over the colon and into the path
of the model, and the path of the request is what is left of that one. -/
def Request.RunsInto (request : Request) (model : Model) : Prop :=
  ∃ between, normalizeMethod request.method = normalizeMethod model.method ++ ":" ++ between ∧
    model.path = between ++ ":" ++ request.path

/-- When a request has the key of a model whose method has no colon. -/
theorem Request.key_eq_iff {request : Request} {model : Model}
    (h : ':' ∉ (normalizeMethod model.method).toList) :
    model.key = request.key ↔ request.IsFor model ∨ request.RunsInto model :=
  EndpointKey.of_eq_of_iff h

/-- A method that goes on behind another one has a colon. -/
theorem Request.RunsInto.colon_mem {request : Request} {model : Model}
    (h : request.RunsInto model) : ':' ∈ (normalizeMethod request.method).toList := by
  obtain ⟨between, hlonger, -⟩ := h
  rw [hlonger]
  simp

namespace System

/-- A model whose path has a colon. -/
def batchOrders : Model := ⟨"/ORDERS:batch", "GET", [⟨"id", ["Int"], true⟩], [], []⟩

/-- A request whose method goes on into the path of that model. -/
def methodIntoPath : Request := ⟨"get:/orders", "batch", ∅, ∅, ∅⟩

end System

end ApiDrift
