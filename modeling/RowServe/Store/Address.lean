import RowServe.Text.Blank
import RowServe.Text.Split

/-!
# Addresses of databases

The address of a database as a URL, `scheme://authority/name?query`. The name of the
database is its last segment; the same address with the name `postgres` leads to the
database that administers the others.
-/

namespace RowServe.DatabaseAddress

/-- The database that administers the others. -/
def administrative : String := "postgres"

/-- An address cut behind its last slash. -/
structure Split where
  /-- The address of the administrative database. -/
  admin : String
  name : String
  deriving DecidableEq, Repr

/-- Cuts an address behind its last slash; a query does not belong to the name. -/
def split? (address : String) : Option Split :=
  (Text.splitLast '/' address.toList).map fun (before, rest) =>
    { admin := String.ofList (before ++ ['/']) ++ administrative
      name := String.ofList (Text.trimList (rest.takeWhile fun c => c ≠ '?')) }

end RowServe.DatabaseAddress
