/-! # Environments

  The variables that a program is started with, each a name with a text.
-/

namespace QueryComposer

/-- The variables of a program. -/
abbrev Environment := List (String × String)

namespace Environment

/-- The text of a variable. -/
def get? (env : Environment) (name : String) : Option String := env.lookup name

/-- The character that ends the text of a variable where the system keeps it, and so is in
    none. -/
def terminator : Char := '\x00'

/-- The environment with a variable that it did not have; one that it has stays as it is.
    None where the variable cannot have the text. -/
def supply? (env : Environment) (name value : String) : Option Environment :=
  if (env.get? name).isSome then some env
  else if value.toList.contains terminator then none
  else some (env ++ [(name, value)])

end Environment

end QueryComposer
