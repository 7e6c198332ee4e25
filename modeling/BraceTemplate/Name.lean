import BraceTemplate.Text

/-!
# Names

A name is a letter or an underscore and then letters, digits and underscores. Names of variables,
functions and loop bindings are of this form; the two namespace roots have a dollar sign before one.
-/

namespace BraceTemplate

namespace CodeUnit

/-- What a name may begin with. -/
def startsName (u : CodeUnit) : Bool :=
  u.isLetter || u = underscore

/-- What a name may go on with. -/
def continuesName (u : CodeUnit) : Bool :=
  u.isLetter || u.isDigit || u = underscore

end CodeUnit

namespace Name

/-- Whether a text is a name. -/
def isValid : Text → Bool
  | [] => false
  | u :: rest => u.startsName && rest.all CodeUnit.continuesName

/-- The longest name at the start of a text, and what follows it. -/
def split? : Text → Option (Text × Text)
  | [] => none
  | u :: rest =>
    if u.startsName then
      some (u :: rest.takeWhile CodeUnit.continuesName, rest.dropWhile CodeUnit.continuesName)
    else none

/-! ## Words with a meaning of their own -/

abbrev ifWord : Text := "if"
abbrev endifWord : Text := "endif"
abbrev forWord : Text := "for"
abbrev endforWord : Text := "endfor"
abbrev inWord : Text := "in"
abbrev trueWord : Text := "true"
abbrev falseWord : Text := "false"
abbrev nullWord : Text := "null"

/-- The root of the conversation's data. -/
abbrev conversationRoot : Text := "$conversation"

/-- The root of the user's data. -/
abbrev userRoot : Text := "$user"

/-- The words that open or close blocks; they name no variable and no function. -/
def isReserved (name : Text) : Bool :=
  name = ifWord || name = endifWord || name = forWord || name = endforWord

/-- Whether a name begins with a dollar sign. -/
def hasDollar (name : Text) : Bool :=
  name.head? = some CodeUnit.dollar

end Name

end BraceTemplate
