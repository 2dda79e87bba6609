import RowServe.Contract.Convert
import RowServe.Contract.Rule
import RowServe.Text.NameList

/-!
# Pagination

The keys `page`, `limit`, `order_by` and `order_dir` of a list request. They are taken
out of the query whether or not they are valid; the rest of the query is the filter.

Results:

* `validate_rest`: the rest is the query without the four keys.
-/

namespace RowServe

/-- The direction of an order. -/
inductive OrderDir where
  | asc | desc
  deriving DecidableEq, Repr

/-- The direction in SQL. -/
def OrderDir.sql : OrderDir → String
  | asc => "ASC"
  | desc => "DESC"

/-- Which page of a list is asked for. -/
structure PageSpec where
  page : Nat
  limit : Nat
  orderBy : List String
  orderDir : OrderDir
  deriving DecidableEq, Repr

namespace PageSpec

/-- The greatest offset that SQL takes. -/
def maxOffset : Nat := Nat.pow 2 63 - 1

/-- The number of rows before the page; `none` if it is beyond the greatest offset. -/
def offset? (s : PageSpec) : Option Nat :=
  let n := (s.page - 1) * s.limit
  if s.page = 0 ∨ maxOffset < n then none else some n

/-- The number of rows before the page, at most the greatest offset. -/
def offset (s : PageSpec) : Nat := s.offset?.getD maxOffset

end PageSpec

/-- What a list may be ordered by, and what it is ordered by if nothing is asked for. -/
structure PaginationContract where
  allowed : List String
  default : List String
  deriving DecidableEq, Repr

/-- The last of the values of a repeated key. -/
def lastValue : Json → Option Json
  | .arr items => items.getLast?
  | v => some v

/-- The names in a text or in the texts of an array. -/
def Json.nameList : Json → List String
  | .arr items => (items.filterMap Json.asText?).flatMap Text.names
  | .str s => Text.names s
  | _ => []

namespace PaginationContract

/-- The rows of a page if nothing is asked for, and at most. -/
def defaultLimit : Nat := 100

@[inherit_doc defaultLimit]
def maxLimit : Nat := 1000

/-- The keys of pagination. -/
def keys : List String := ["page", "limit", "order_by", "order_dir"]

/-- The number of the page. -/
def pageOf : Option Json → FieldErrors × Nat
  | none => (.empty, 1)
  | some raw =>
    match (lastValue raw).bind Convert.toInteger with
    | some n =>
      if 1 ≤ n then (.empty, n.toNat)
      else (.single "page" "Must be greater than or equal to 1.", 1)
    | none => (.single "page" "Not a valid integer.", 1)

/-- The rows of a page; more than the greatest limit means the greatest limit. -/
def limitOf : Option Json → FieldErrors × Nat
  | none => (.empty, defaultLimit)
  | some raw =>
    match (lastValue raw).bind Convert.toInteger with
    | some n =>
      if 0 < n then (.empty, min n.toNat maxLimit)
      else (.single "limit" "Must be greater than 0.", defaultLimit)
    | none => (.single "limit" "Not a valid integer.", defaultLimit)

/-- The names to order by. -/
def orderByOf (c : PaginationContract) : Option Json → FieldErrors × List String
  | none => (.empty, c.default)
  | some raw =>
    let names := raw.nameList
    if names.isEmpty then (.single "order_by" ValidationRule.emptyMessage, names)
    else if names.all c.allowed.contains then (.empty, names)
    else (.single "order_by" ("Must be one of: " ++ ", ".intercalate c.allowed ++ "."), names)

/-- The direction of the order, in either case of letters. -/
def orderDirOf : Option Json → FieldErrors × OrderDir
  | none => (.empty, .asc)
  | some raw =>
    match ((lastValue raw).bind Json.asText?).map Text.toLower with
    | some "asc" => (.empty, .asc)
    | some "desc" => (.empty, .desc)
    | _ => (.single "order_dir" "Must be one of: asc, desc.", .asc)

/-- The query without the keys of pagination. -/
def rest (query : Object) : Object := keys.foldl (fun q k => q.erase k) query

/-- The page that a query asks for, or what is wrong with it; and the rest of the query. -/
def validate (c : PaginationContract) (query : Object) : Except FieldErrors PageSpec × Object :=
  let (pageErrors, page) := pageOf (query.find? "page")
  let (limitErrors, limit) := limitOf (query.find? "limit")
  let (orderByErrors, orderBy) := c.orderByOf (query.find? "order_by")
  let (orderDirErrors, orderDir) := orderDirOf (query.find? "order_dir")
  let spec : PageSpec := ⟨page, limit, orderBy, orderDir⟩
  let errors := ((pageErrors.union limitErrors).union orderByErrors).union orderDirErrors
  let errors :=
    match spec.offset? with
    | some _ => errors
    | none => FieldErrors.push errors "page" "Page is out of range."
  (if errors.isEmpty then .ok spec else .error errors, rest query)

theorem validate_rest (c : PaginationContract) (query : Object) :
    (c.validate query).2 = rest query := rfl

end PaginationContract

end RowServe
