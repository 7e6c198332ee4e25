import BraceTemplate.Schema.Issue
import BraceTemplate.Date.Reading

/-!
# Schemas

A schema reads data into a type of the library or says all that is wrong with them. Schemas of the
fields of a record combine with `<*>`; what is wrong with one field does not hide what is wrong with
another.
-/

namespace BraceTemplate

/-- What a schema gives: a value, or all that is wrong. -/
inductive Checked (α : Type) where
  | valid (a : α)
  | invalid (issues : List Issue)
deriving Repr

namespace Checked

variable {α β : Type}

/-- Both results joined; of two that are wrong, all issues, the first ones first. -/
def ap (f : Checked (α → β)) (a : Checked α) : Checked β :=
  match f, a with
  | valid f, valid a => valid (f a)
  | valid _, invalid issues => invalid issues
  | invalid issues, valid _ => invalid issues
  | invalid first, invalid second => invalid (first ++ second)

instance : Applicative Checked where
  pure := valid
  seq f a := ap f (a ())

/-- All results, or all issues. -/
def all : List (Checked α) → Checked (List α)
  | [] => valid []
  | c :: rest => ap (ap (valid List.cons) c) (all rest)

/-- The result, if there are no issues besides it. -/
def withIssues (c : Checked α) (issues : List Issue) : Checked α :=
  match c with
  | valid a => if issues.isEmpty then valid a else invalid issues
  | invalid first => invalid (first ++ issues)

/-- The result, or the issues made into an error. -/
def orElse {ε : Type} (c : Checked α) (error : List Issue → ε) : Except ε α :=
  match c with
  | valid a => .ok a
  | invalid issues => .error (error issues)

end Checked

/-- Reads a datum at a place. -/
def Schema (α : Type) := Heap → List PathStep → Datum → Checked α

namespace Schema

variable {α β : Type}

/-- Applies a schema to a caller's data. -/
def check (s : Schema α) (data : Data) : Checked α :=
  s data.heap [] data.root

/-- The result of a datum that is not of the kind. -/
def wrongKind (h : Heap) (path : List PathStep) (d : Datum) (expected : Expected) : Checked α :=
  .invalid [⟨path, .wrongKind expected (DataKind.ofDatum h d)⟩]

/-! ## Scalars -/

def text : Schema Text := fun h path d =>
  match d with
  | .value (.text t) => .valid t
  | _ => wrongKind h path d (.kind .text)

/-- A text of at least one unit. -/
def nonEmptyText : Schema Text := fun h path d =>
  match text h path d with
  | .valid [] => .invalid [⟨path, .textShorter 1⟩]
  | c => c

def bool : Schema Bool := fun h path d =>
  match d with
  | .value (.bool b) => .valid b
  | _ => wrongKind h path d (.kind .boolean)

/-- A whole number of at least one. -/
def positive : Schema { n : Nat // 0 < n } := fun h path d =>
  match DataKind.ofDatum h d, d with
  | .number, .value (.number n) =>
    match n.toInt? with
    | some (.ofNat (m + 1)) => .valid ⟨m + 1, m.succ_pos⟩
    | whole =>
      let low := if n.ltNat 1 then [⟨path, .numberBelow 1⟩] else []
      .invalid (if whole.isNone then ⟨path, .fraction⟩ :: low else low)
  | _, _ => wrongKind h path d (.kind .number)

/-- One of some words, each with its meaning. -/
def choice (options : List (Text × α)) : Schema α := fun h path d =>
  let words := options.map Prod.fst
  match d with
  | .value (.text t) =>
    match options.lookup t with
    | some a => .valid a
    | none => .invalid [⟨path, .unknownChoice words t⟩]
  | _ => wrongKind h path d (.choice words)

/-- A date, or a text that can be read as one. -/
def date : Schema Instant := fun _ path d =>
  match d with
  | .date (some t) => .valid t
  | .value (.text t) =>
    match Date.ofText t with
    | some t => .valid t
    | none => .invalid [⟨path, .unreadableDate⟩]
  | _ => .invalid [⟨path, .noAlternative⟩]

/-! ## What may be missing -/

/-- Undefined is nothing. -/
def optional (s : Schema α) : Schema (Option α) := fun h path d =>
  match d with
  | .undefined => .valid none
  | _ => match s h path d with
    | .valid a => .valid (some a)
    | .invalid issues => .invalid issues

/-- Undefined stands for a standard value. -/
def withDefault (s : Schema α) (standard : α) : Schema α := fun h path d =>
  match d with
  | .undefined => .valid standard
  | _ => s h path d

/-- Null stands for a value of its own. -/
def nullable (s : Schema α) (null : α) : Schema α := fun h path d =>
  match d with
  | .value .null => .valid null
  | _ => s h path d

/-! ## Containers -/

/-- A list, each of its items read alike; a gap is read as undefined. -/
def listOf (s : Schema α) : Schema (List α) := fun h path d =>
  match h.items? d with
  | some items =>
    Checked.all (items.mapIdx fun i item => s h (path ++ [.index i]) (item.getD .undefined))
  | none => wrongKind h path d (.kind .array)

/-- The key that a record of anything leaves out. -/
def hiddenKey : Text := "__proto__"

/-- A record of anything. -/
def anyRecord : Schema (Mapping Datum) := fun h path d =>
  if DataKind.ofDatum h d = .record then
    .valid ((h.properties d).filter fun e => e.1 != hiddenKey)
  else wrongKind h path d (.kind .record)

end Schema

/-- The fields of a record: the keys that are known, and what they are read into. -/
structure Fields (α : Type) where
  keys : List Text
  read : Schema α

namespace Fields

variable {α β : Type}

/-- One field. -/
def field (key : Text) (s : Schema α) : Fields α where
  keys := [key]
  read h path d := s h (path ++ [.key key]) (h.property d key)

instance : Applicative Fields where
  pure a := ⟨[], fun _ _ _ => .valid a⟩
  seq f a :=
    let a := a ()
    ⟨f.keys ++ a.keys, fun h path d => Checked.ap (f.read h path d) (a.read h path d)⟩

/-- A record with these fields; other keys are ignored. -/
def record (fields : Fields α) : Schema α := fun h path d =>
  if DataKind.ofDatum h d = .record then fields.read h path d
  else Schema.wrongKind h path d (.kind .record)

/-- A record with these fields and no others. -/
def exactRecord (fields : Fields α) : Schema α := fun h path d =>
  if DataKind.ofDatum h d = .record then
    let others := (h.properties d).keys.filter fun key => !fields.keys.contains key
    (fields.read h path d).withIssues (if others.isEmpty then [] else [⟨path, .unknownKeys others⟩])
  else Schema.wrongKind h path d (.kind .record)

end Fields

end BraceTemplate
