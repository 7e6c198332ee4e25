import BraceTemplate.Value
import BraceTemplate.Number.Numeral

/-!
# Reading JSON

A text is cut into tokens and the tokens are read as one value. A key that is given again replaces
what it held before and keeps its place. `read?` has no answer for a text that is not JSON.
-/

namespace BraceTemplate.Json

/-- A token of a JSON text. -/
inductive Token where
  | openList
  | closeList
  | openMapping
  | closeMapping
  | comma
  | colon
  | scalar (v : Value)
deriving Repr

/-! ## Tokens -/

/-- The four blanks of JSON. -/
def isSpace (u : CodeUnit) : Bool :=
  u = 0x20 || u = 0x09 || u = 0x0A || u = 0x0D

/-- The unit that a letter after a backslash stands for. -/
def shortUnit? (u : CodeUnit) : Option CodeUnit :=
  if u = CodeUnit.ofChar 'b' then some 0x08
  else if u = CodeUnit.ofChar 't' then some 0x09
  else if u = CodeUnit.ofChar 'n' then some 0x0A
  else if u = CodeUnit.ofChar 'f' then some 0x0C
  else if u = CodeUnit.ofChar 'r' then some 0x0D
  else if u = CodeUnit.quote || u = CodeUnit.backslash || u = CodeUnit.ofChar '/' then some u
  else none

/-- The unit with a number of four digits of base sixteen. -/
def hexUnit? (a b c d : CodeUnit) : Option CodeUnit :=
  match Number.baseDigit? 16 a, Number.baseDigit? 16 b, Number.baseDigit? 16 c,
      Number.baseDigit? 16 d with
  | some a, some b, some c, some d => some (((a * 16 + b) * 16 + c) * 16 + d).toUInt16
  | _, _, _, _ => none

/-- A quoted text after its first quote, and what follows the last one. -/
def unquote? : Text → Option (Text × Text)
  | [] => none
  | u :: rest =>
    if u = CodeUnit.quote then some ([], rest)
    else if u < 0x20 then none
    else if u = CodeUnit.backslash then
      match rest with
      | [] => none
      | e :: after =>
        if e = CodeUnit.ofChar 'u' then
          match after with
          | a :: b :: c :: d :: last =>
            match hexUnit? a b c d with
            | some v => (unquote? last).map fun (t, r) => (v :: t, r)
            | none => none
          | _ => none
        else match shortUnit? e with
          | some v => (unquote? after).map fun (t, r) => (v :: t, r)
          | none => none
    else (unquote? rest).map fun (t, r) => (u :: t, r)

/-- A number after its sign, and what follows it: no leading zero, and digits on both sides of a
point. -/
def numeral? (negative : Bool) (t : Text) : Option (Number × Text) :=
  let (whole, rest) := Number.spanDigits t
  if whole.isEmpty || (whole.length > 1 && whole.head? = some CodeUnit.zero) then none
  else
    let fraction? : Option (Text × Text) := match rest with
      | u :: after =>
        if u = CodeUnit.point then
          let (fraction, rest) := Number.spanDigits after
          if fraction.isEmpty then none else some (fraction, rest)
        else some ([], rest)
      | [] => some ([], [])
    match fraction? with
    | none => none
    | some (fraction, rest) =>
      let marked := match rest with
        | u :: _ => u = CodeUnit.ofChar 'e' || u = CodeUnit.ofChar 'E'
        | [] => false
      if marked then
        match Number.exponentPart? rest with
        | some (e, rest) => some (Number.ofDigits negative whole fraction e, rest)
        | none => none
      else some (Number.ofDigits negative whole fraction 0, rest)

/-- The token that a text begins with, and what follows it. -/
def token? (u : CodeUnit) (rest : Text) : Option (Token × Text) :=
  if u = 0x5B then some (.openList, rest)
  else if u = 0x5D then some (.closeList, rest)
  else if u = CodeUnit.openBrace then some (.openMapping, rest)
  else if u = CodeUnit.closeBrace then some (.closeMapping, rest)
  else if u = CodeUnit.comma then some (.comma, rest)
  else if u = CodeUnit.ofChar ':' then some (.colon, rest)
  else if u = CodeUnit.quote then (unquote? rest).map fun (t, r) => (.scalar (.text t), r)
  else if u = CodeUnit.minus then (numeral? true rest).map fun (n, r) => (.scalar (.number n), r)
  else if u.isDigit then
    (numeral? false (u :: rest)).map fun (n, r) => (.scalar (.number n), r)
  else match Text.dropStart? "null" (u :: rest) with
    | some r => some (.scalar .null, r)
    | none => match Text.dropStart? "true" (u :: rest) with
      | some r => some (.scalar (.bool true), r)
      | none => (Text.dropStart? "false" (u :: rest)).map (.scalar (.bool false), ·)

/-- The tokens of a text; `fuel` is more than its length. -/
def tokens? : Nat → Text → Option (List Token)
  | _, [] => some []
  | 0, _ => none
  | fuel + 1, u :: rest =>
    if isSpace u then tokens? fuel rest
    else match token? u rest with
      | some (token, after) => (tokens? fuel after).map (token :: ·)
      | none => none

/-! ## Values -/

mutual

/-- The value that tokens begin with, and what follows it. -/
def value? : Nat → List Token → Option (Value × List Token)
  | _, .scalar v :: rest => some (v, rest)
  | _ + 1, .openList :: .closeList :: rest => some (.list [], rest)
  | fuel + 1, .openList :: rest =>
    (items? fuel rest).map fun (items, rest) => (.ofList items, rest)
  | _ + 1, .openMapping :: .closeMapping :: rest => some (.mapping [], rest)
  | fuel + 1, .openMapping :: rest =>
    (members? fuel rest).map fun (entries, rest) => (.mapping (Mapping.ofList entries), rest)
  | _, _ => none

/-- The items of a list up to its closing bracket. -/
def items? : Nat → List Token → Option (List Value × List Token)
  | 0, _ => none
  | fuel + 1, tokens =>
    match value? fuel tokens with
    | some (v, .comma :: rest) => (items? fuel rest).map fun (vs, rest) => (v :: vs, rest)
    | some (v, .closeList :: rest) => some ([v], rest)
    | _ => none

/-- The entries of a mapping up to its closing brace. -/
def members? : Nat → List Token → Option (List (Text × Value) × List Token)
  | 0, _ => none
  | fuel + 1, .scalar (.text key) :: .colon :: tokens =>
    match value? fuel tokens with
    | some (v, .comma :: rest) => (members? fuel rest).map fun (es, rest) => ((key, v) :: es, rest)
    | some (v, .closeMapping :: rest) => some ([(key, v)], rest)
    | _ => none
  | _, _ => none

end

/-- The value of a JSON text. -/
def read? (t : Text) : Option Value :=
  match tokens? (t.length + 1) t with
  | some tokens =>
    match value? (2 * tokens.length + 1) tokens with
    | some (v, []) => some v
    | _ => none
  | none => none

end BraceTemplate.Json
