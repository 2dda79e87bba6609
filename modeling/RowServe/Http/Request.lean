import RowServe.Http.Form
import RowServe.Number.Parse
import RowServe.Session

/-!
# HTTP requests

The parts of a request that matter: method, target, headers and body. A header is found
by its name in any case of letters; the first one counts, and one whose value is not
visible ASCII counts as absent.

Results:

* `pathOf_eq`: the path of a target ends at the first question mark or number sign.
* `queryOf_eq`: the query stands between the first question mark and the number sign behind it.
-/

namespace RowServe.Http

/-- A request. -/
structure Request where
  method : String
  target : String
  headers : List (String × String)
  body : String
  /-- The session, if something in front of the service has found it out. -/
  session : Option Session

/-- An ASCII letter in lower case; any other character as it is. -/
def lowerAscii (s : String) : String := s.map Char.toLower

/-- May the character stand in a header? -/
def isVisible (c : Char) : Bool := c = '\t' || (' ' ≤ c && c < '\x7f')

/-- May the character stand in the scheme of an absolute target? -/
def isSchemeChar (c : Char) : Bool := c.isAlphanum || c = '+' || c = '-' || c = '.'

/-- The part of a target before a fragment. -/
def withoutFragment (target : List Char) : List Char := target.takeWhile fun c => c ≠ '#'

/-- What follows the scheme of an absolute target, which is the characters before `://`. -/
def afterScheme? (target : List Char) : Option (List Char) :=
  match target.dropWhile isSchemeChar with
  | ':' :: '/' :: '/' :: rest => some rest
  | _ => none

/-- The path and the query of a target. A target that begins with a slash is just these, and
    so is a lone asterisk. An absolute target has a scheme and an authority before them. Any
    other target is an authority alone. -/
def pathAndQuery (target : List Char) : List Char :=
  match target with
  | ['*'] => target
  | '/' :: _ => target
  | _ =>
    match afterScheme? target with
    | some rest =>
      match rest.dropWhile fun c => c ≠ '/' && c ≠ '?' with
      | '/' :: path => '/' :: path
      | rest => '/' :: rest
    | none => []

/-- The path of a target. -/
def pathOf (target : List Char) : List Char :=
  (pathAndQuery (withoutFragment target)).takeWhile fun c => c ≠ '?'

/-- The query of a target; without a question mark it is empty. -/
def queryOf (target : List Char) : List Char :=
  ((pathAndQuery (withoutFragment target)).dropWhile fun c => c ≠ '?').drop 1

namespace Request

/-- The value of a header. -/
def header (r : Request) (name : String) : Option String :=
  match r.headers.find? fun h => lowerAscii h.1 = name with
  | some (_, value) => if value.toList.all isVisible then some value else none
  | none => none

/-- Who sends the request. -/
def sender (r : Request) : Session := r.session.getD (Session.ofHeaders r.header)

/-- The path, with its escapes. -/
def path (r : Request) : List Char := pathOf r.target.toList

/-- The pairs of the query. -/
def query (r : Request) : List (String × String) := formPairs (queryOf r.target.toList)

/-- The number of bytes that the body is said to have. -/
def announcedLength (r : Request) : Option Nat :=
  (r.header "content-length").bind (Number.unsigned? (Nat.pow 2 64))

end Request

section Target

variable {path : List Char} (hpath : ∀ c ∈ path, c ≠ '#' ∧ c ≠ '?')
include hpath

theorem withoutFragment_path (rest : List Char) :
    withoutFragment ('/' :: path ++ rest) = '/' :: path ++ withoutFragment rest := by
  have hkept : ∀ c ∈ '/' :: path, decide (c ≠ '#') = true :=
    List.forall_mem_cons.mpr ⟨rfl, fun c hc => decide_eq_true (hpath c hc).1⟩
  exact List.takeWhile_append_of_pos hkept

theorem pathOf_eq {rest : List Char} (hrest : ∀ c, rest.head? = some c → c = '#' ∨ c = '?') :
    pathOf ('/' :: path ++ rest) = '/' :: path := by
  have hkept : ∀ c ∈ '/' :: path, decide (c ≠ '?') = true :=
    List.forall_mem_cons.mpr ⟨rfl, fun c hc => decide_eq_true (hpath c hc).2⟩
  have hends : (withoutFragment rest).takeWhile (fun c => decide (c ≠ '?')) = [] := by
    cases rest with
    | nil => rfl
    | cons c rest => rcases hrest c rfl with rfl | rfl <;> rfl
  rw [pathOf, withoutFragment_path hpath]
  refine (List.takeWhile_append_of_pos hkept).trans ?_
  rw [hends, List.append_nil]

theorem queryOf_eq (query : List Char) :
    queryOf ('/' :: path ++ '?' :: query) = withoutFragment query := by
  have hkept : ∀ c ∈ '/' :: path, decide (c ≠ '?') = true :=
    List.forall_mem_cons.mpr ⟨rfl, fun c hc => decide_eq_true (hpath c hc).2⟩
  rw [queryOf, withoutFragment_path hpath]
  refine (congrArg (List.drop 1) (List.dropWhile_append_of_pos hkept)).trans ?_
  rfl

end Target

end RowServe.Http
