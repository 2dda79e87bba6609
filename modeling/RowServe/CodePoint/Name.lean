import RowServe.CodePoint.Age
import RowServe.CodePoint.Segment

/-!
# Sets of code points by name

Names of properties and of their values are loose: case, spaces, underscores, dashes and
a leading `is` do not matter. A name on its own is a property that a code point has or
has not, a general category or a script, in this order.

Results:

* `significant_append`: behind a leading `is`, the parts of a name are taken one by one.
-/

namespace RowServe.CodePoint

/-- The characters of a name that count, in small letters. -/
def significant (cs : List Char) : List Char :=
  (cs.filter fun c => c.toNat < 128 && c ≠ ' ' && c ≠ '_' && c ≠ '-').map Char.toLower

/-- The letters of a name in its loose form. A leading `is` is dropped, unless what is left
    is the single letter `c`: then the name is short for a comment property. -/
def looseLetters (cs : List Char) : List Char :=
  match cs with
  | i :: s :: rest =>
    if i.toLower = 'i' && s.toLower = 's' then
      if significant rest = ['c'] then ['i', 's', 'c'] else significant rest
    else significant cs
  | _ => significant cs

/-- The loose form of a name. -/
def looseName (s : String) : String := String.ofList (looseLetters s.toList)

/-- The set of a name in its loose form. Three short names of categories are names of
    properties too, but mean the category. -/
def ofLooseName? (name : String) : Option CodeSet :=
  let categoryFirst := name = "cf" ∨ name = "sc" ∨ name = "lc"
  match if categoryFirst then none else property? name with
  | some s => some s
  | none =>
    match category? name with
    | some s => some s
    | none => script? name

/-- The set of a name. -/
def ofName? (s : String) : Option CodeSet := ofLooseName? (looseName s)

/-- The set of the code points with a value of a property, both in their loose forms. -/
def ofLooseValue? (property value : String) : Option CodeSet :=
  if property = "gc" ∨ property = "generalcategory" then category? value
  else if property = "sc" ∨ property = "script" then script? value
  else if property = "scx" ∨ property = "scriptextensions" then scriptExtensions? value
  else if property = "age" then age? value
  else if property = "gcb" ∨ property = "graphemeclusterbreak" then clusterBreak? value
  else if property = "wb" ∨ property = "wordbreak" then wordBreak? value
  else if property = "sb" ∨ property = "sentencebreak" then sentenceBreak? value
  else none

/-- The set of the code points with a value of a property. -/
def ofValue? (property value : String) : Option CodeSet :=
  ofLooseValue? (looseName property) (looseName value)

theorem significant_append (cs ds : List Char) :
    significant (cs ++ ds) = significant cs ++ significant ds := by
  simp [significant]

end RowServe.CodePoint
