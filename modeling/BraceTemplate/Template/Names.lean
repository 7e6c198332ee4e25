import BraceTemplate.Template

/-!
# Names of variables

The variables that a template refers to, wherever a path stands: in references, in arguments of calls,
in tests and in sources of loops, at any depth. Paths into the namespaces of conversation and user
name no variable.
-/

namespace BraceTemplate

namespace Argument

/-- The paths of an argument. -/
def paths : Argument → List Path
  | path p => [p]
  | literal _ => []

end Argument

namespace Operand

/-- The paths of an operand. -/
def paths : Operand → List Path
  | simple a => a.paths
  | call c => c.arguments.flatMap Argument.paths

end Operand

namespace Expression

/-- The paths of an expression. -/
def paths : Expression → List Path
  | operand o => o.paths
  | compare _ left right => left.paths ++ right.paths

end Expression

namespace Opener

/-- The paths of an opener. -/
def paths : Opener → List Path
  | cond test => (test.map Expression.paths).getD []
  | loop _ iterable => (iterable.map Expression.paths).getD []

end Opener

namespace Node

mutual

/-- The paths of a node. -/
def paths : Node → List Path
  | text _ => []
  | reference p _ => [p]
  | call c _ => c.arguments.flatMap Argument.paths
  | block opener body _ => opener.paths ++ allPaths body

/-- The paths of nodes. -/
def allPaths : List Node → List Path
  | [] => []
  | n :: rest => n.paths ++ allPaths rest

end

end Node

namespace Template

/-- The variables that a template refers to, each once, ascending. -/
def names (t : Template) : List Text :=
  Text.sortedNames (((Node.allPaths t).map Path.head).filter fun head => !Name.hasDollar head)

/-- The variables that a source refers to. -/
def namesOfSource (source : Text) : List Text :=
  names (ofSource source)

end Template

end BraceTemplate
