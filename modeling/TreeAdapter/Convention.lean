import TreeAdapter.Text.Letters
import TreeAdapter.Text.LowerCase

/-!
# Naming convention

Method names of the form `getTitle`, `isHidden` and `setTitle`: a lower-case word, then a name
that begins with a capital and holds letters, numbers and underscores. The name behind the word,
its first letter in lower case, names the property.
-/

namespace TreeAdapter.Convention
set_option autoImplicit false
open Text

/-- A capital, then letters, numbers and underscores. -/
def isCapitalized : List Char → Bool
  | [] => false
  | c :: cs => isUppercase c && (c :: cs).all fun c => isAlphanumeric c || c == '_'

/-- What stands behind `word` in a name of the convention. -/
def behind (word : String) (name : List Char) : Option (List Char) :=
  if word.toList.isPrefixOf name then
    let rest := name.drop word.length
    if isCapitalized rest then some rest else none
  else none

def startsWith (word name : String) : Bool :=
  (behind word name.toList).isSome

/-- The first letter in lower case. -/
def uncapitalized : List Char → List Char
  | [] => []
  | c :: cs => lowerCase c ++ cs

/-- The property that a method name stands for. -/
def propertyName (method : String) : Option String :=
  let name := method.toList
  let rest := (behind "get" name).or <| (behind "is" name).or <| behind "set" name
  rest.map fun rest => String.ofList (uncapitalized rest)

end TreeAdapter.Convention
