import BraceTemplate.Template
import BraceTemplate.Expression.Evaluation

/-!
# Rendering

Text is kept as it is. A reference or call shows its value, or its own source where it does not
resolve. A conditional block shows its body if its test holds, a loop shows its body once for every
place of its list, with null where there is no item.
-/

namespace BraceTemplate

namespace Node

variable {σ : Type}

mutual

/-- The text of a node. -/
def render (registry : Registry σ) (ctx : Context) : Node → Render σ Text
  | text value => pure value
  | reference p source => pure (((ctx.present? p).map Value.toText).getD source)
  | call c source => do
    let result ← c.evaluate registry ctx
    return (result.map Value.toText).getD source
  | block (.cond test) body _ => do
    if ← Expression.test registry ctx test then renderAll registry ctx body else pure []
  | block (.loop _ none) _ _ => pure []
  | block (.loop binding (some iterable)) body _ => do
    match ← iterable.evaluate registry ctx with
    | some (.list items) =>
      Render.concat (fun item => renderAll registry (ctx.bind binding (item.getD .null)) body) items
    | _ => pure []

/-- The text of nodes, one after another. -/
def renderAll (registry : Registry σ) (ctx : Context) : List Node → Render σ Text
  | [] => pure []
  | n :: rest => do
    let first ← render registry ctx n
    let others ← renderAll registry ctx rest
    return first ++ others

end

end Node

/-- The text of a template. -/
abbrev Template.render {σ : Type} (registry : Registry σ) (ctx : Context) (t : Template) :
    Render σ Text :=
  Node.renderAll registry ctx t

end BraceTemplate
