import BraceTemplate.Template

/-!
# Parse cache

The parsed templates that an engine keeps, the one that was looked up last at the end. Every tree has
a stamp, given when it was built, so that a tree found again can be told from one built anew. A new
tree that makes the cache too large drives out the one that was not looked up for longest.
-/

namespace BraceTemplate

/-- A parsed template with its identity. -/
structure ParsedTree where
  template : Template
  stamp : Nat
deriving Repr

/-- Sources with their trees, in order of their last lookup. -/
structure ParseCache where
  entries : List (Text × ParsedTree)
deriving Repr

namespace ParseCache

/-- Nothing kept. -/
def empty : ParseCache := ⟨[]⟩

/-- How many trees are kept. -/
def size (c : ParseCache) : Nat :=
  c.entries.length

/-- The sources whose trees are kept. -/
def sources (c : ParseCache) : List Text :=
  c.entries.map Prod.fst

/-- The tree of a source. -/
def find? (c : ParseCache) (source : Text) : Option ParsedTree :=
  c.entries.lookup source

/-- Makes a source with its tree the one looked up last. -/
def touch (c : ParseCache) (source : Text) (tree : ParsedTree) : ParseCache :=
  ⟨c.entries.filter (fun e => e.1 != source) ++ [(source, tree)]⟩

/-- Drops the tree that was not looked up for longest. -/
def evict (c : ParseCache) : ParseCache :=
  ⟨c.entries.drop 1⟩

end ParseCache

end BraceTemplate
