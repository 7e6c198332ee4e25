import BraceTemplate.Data
import BraceTemplate.Name

/-!
# Functions

A function is called with data and may read and change the state of its host. It returns data, fails
with an error, or throws any other data. A registry holds functions under names that a template can
call; a name that is registered again gets the new function, and nothing is ever removed.
-/

namespace BraceTemplate

/-- How a call ended. -/
inductive Outcome where
  | returned (result : Data)
  | failed (fault : Fault)
  /-- Something that is no error was thrown. -/
  | threw (thrown : Data)
deriving Repr

/-- What a host does when a function is called; `arity` counts the declared parameters. -/
structure Callback (σ : Type) where
  arity : Nat
  run : Heap → List Datum → σ → Outcome × σ

/-- A registered function. -/
structure Definition (σ : Type) where
  name : Text
  callback : Callback σ
  /-- The bound that the count of arguments may not fall below; it need not be a whole number. -/
  minArguments : Number
  /-- Whether an absent argument is passed as null instead of leaving the call unresolved. -/
  acceptsAbsent : Bool

/-- Why a function cannot be registered. -/
inductive RegistrationError where
  | invalidName (name : Text)
deriving DecidableEq, Repr

namespace RegistrationError

def name : RegistrationError → Text
  | invalidName n => n

def message : RegistrationError → Text
  | invalidName n => Text.concat ["Invalid template function name: \"", n, "\""]

end RegistrationError

/-- Functions by name, in the order of first registration. -/
structure Registry (σ : Type) where
  definitions : List (Definition σ)

namespace Registry

variable {σ : Type}

/-- No functions. -/
def empty : Registry σ := ⟨[]⟩

/-- Whether a template can call a function of this name. -/
def isCallable (name : Text) : Bool :=
  Name.isValid name && !Name.isReserved name && name != Name.trueWord && name != Name.falseWord &&
    name != Name.nullWord

/-- The function of a name. -/
def get? (r : Registry σ) (name : Text) : Option (Definition σ) :=
  r.definitions.find? fun d => d.name = name

/-- Whether a name is held. -/
def has (r : Registry σ) (name : Text) : Bool :=
  (r.get? name).isSome

/-- Adds a definition or replaces the one of its name. -/
def set (r : Registry σ) (d : Definition σ) : Registry σ :=
  if r.has d.name then ⟨r.definitions.map fun e => if e.name = d.name then d else e⟩
  else ⟨r.definitions ++ [d]⟩

theorem name_of_get? {r : Registry σ} {name : Text} {d : Definition σ} (h : r.get? name = some d) :
    d.name = name := by
  simpa using List.find?_some h

/-- A name finds the definition that was set last under it. -/
theorem get?_set (r : Registry σ) (d : Definition σ) (name : Text) :
    (r.set d).get? name = if name = d.name then some d else r.get? name := by
  unfold set
  split
  · rename_i hhas
    have hname : ∀ e : Definition σ, (if e.name = d.name then d else e).name = e.name := by
      intro e
      split
      · rename_i h
        exact h.symm
      · rfl
    have hmap : get? ⟨r.definitions.map fun e => if e.name = d.name then d else e⟩ name =
        (r.get? name).map fun e => if e.name = d.name then d else e := by
      simp only [get?, List.find?_map, Function.comp_def, hname]
    rw [hmap]
    cases hfound : r.get? name with
    | none =>
      have hne : name ≠ d.name := by
        rintro rfl
        simp [has, hfound] at hhas
      simp [hne]
    | some e =>
      rw [Option.map_some, name_of_get? hfound]
      split <;> rfl
  · rename_i hnew
    have hold : r.get? d.name = none := by simpa [has] using hnew
    by_cases hname : name = d.name
    · subst hname
      rw [get?] at hold
      simp [get?, List.find?_append, hold]
    · have hne : ¬ d.name = name := fun h => hname h.symm
      simp [get?, List.find?_append, hname, hne]
/-- Registers a function; the fewest arguments default to its declared parameters. -/
def register (r : Registry σ) (name : Text) (callback : Callback σ)
    (minArguments : Option Number) (acceptsAbsent : Bool) : Except RegistrationError (Registry σ) :=
  if isCallable name then
    .ok (r.set ⟨name, callback, minArguments.getD (Number.ofNat callback.arity), acceptsAbsent⟩)
  else .error (.invalidName name)

/-- A function that was registered is found under its name. -/
theorem get?_of_register {r changed : Registry σ} {name : Text} {callback : Callback σ}
    {minArguments : Option Number} {acceptsAbsent : Bool}
    (h : r.register name callback minArguments acceptsAbsent = .ok changed) :
    changed.get? name =
      some ⟨name, callback, minArguments.getD (Number.ofNat callback.arity), acceptsAbsent⟩ := by
  unfold register at h
  split at h
  · cases h
    rw [get?_set, if_pos rfl]
  · cases h

/-- The held names, ascending. -/
def names (r : Registry σ) : List Text :=
  Text.sortedNames (r.definitions.map Definition.name)

/-- How many names are held. -/
def size (r : Registry σ) : Nat :=
  r.definitions.length

/-- Adds those of the given definitions whose names are free. -/
def install (r : Registry σ) (definitions : List (Definition σ)) : Registry σ :=
  definitions.foldl (fun r d => if r.has d.name then r else r.set d) r

end Registry

end BraceTemplate
