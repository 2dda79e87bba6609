import RowServe.FieldErrors
import RowServe.Text.Blank
import RowServe.Text.Split
import RowServe.CodePoint.Letter

/-!
# Details of constraint violations

A database says which key breaks a constraint in a detail text such as
`Key (name)=(Acme) already exists.` Each column named there gets a message of its own
with its value.

Results:

* `readFrom_key`: a detail of the usual form is read at its first parenthesis.
-/

namespace RowServe.ConstraintDetail

/-- The parts of a detail: `lead (columns)=(values) reason`. -/
structure Parts where
  lead : List Char
  columns : List Char
  values : List Char
  reason : List Char
  deriving DecidableEq

/-- Is the character one of the words in front of the columns? -/
def isLead (c : Char) : Bool := Text.isBlank c || CodePoint.isWordChar c

/-- The characters of a line up to the first occurrence of a text, and what follows it;
    `none` if the line ends before. -/
def upTo (stop : List Char) : List Char → Option (List Char × List Char)
  | [] => none
  | c :: rest =>
    if stop.isPrefixOf (c :: rest) then some ([], rest.drop (stop.length - 1))
    else if c = '\n' then none
    else (upTo stop rest).map fun (before, after) => (c :: before, after)

/-- Reads what follows the opening parenthesis of the columns. -/
def readKey (lead rest : List Char) : Option Parts := do
  let (columns, rest) ← upTo [')', '=', '('] rest
  let (values, rest) ← upTo [')'] rest
  return ⟨lead, columns, values, rest.takeWhile (· ≠ '\n')⟩

/-- Finds the first parenthesis behind words that opens a key. `lead` holds the words
    just passed, the last character first. -/
def readFrom (lead : List Char) : List Char → Option Parts
  | [] => none
  | c :: rest =>
    if isLead c then readFrom (c :: lead) rest
    else if c = '(' ∧ lead ≠ [] then
      match readKey lead.reverse rest with
      | some parts => some parts
      | none => readFrom [] rest
    else readFrom [] rest

/-- The message for one value. -/
def Parts.message (p : Parts) (value : List Char) : String :=
  String.ofList p.lead ++ "(" ++ String.ofList value ++ ") " ++
    String.ofList (Text.trimList p.reason)

/-- The separator of columns and of values. -/
def separator : List Char := [',', ' ']

/-- The field errors of a detail: each column with the value at its place. -/
def fieldErrors? (detail : String) : Option FieldErrors :=
  (readFrom [] detail.toList).map fun p =>
    ((Text.splitOnSeq separator p.columns).zip (Text.splitOnSeq separator p.values)).foldl
      (fun errors (column, value) => errors.push (String.ofList column) (p.message value))
      FieldErrors.empty

theorem readFrom_key {words rest : List Char} (lead : List Char) (some_words : words ≠ [])
    (h : ∀ c ∈ words, isLead c = true) :
    readFrom lead (words ++ '(' :: rest)
      = match readKey (lead.reverse ++ words) rest with
        | some parts => some parts
        | none => readFrom [] rest := by
  induction words generalizing lead with
  | nil => exact absurd rfl some_words
  | cons w ws ih =>
    have hw := h w (by simp)
    cases ws with
    | nil =>
      have paren : isLead '(' = false := by
        rw [isLead, CodePoint.isWordChar_of_lt (by decide)]
        decide
      simp [readFrom, hw, paren]
    | cons v vs =>
      have := ih (w :: lead) (by simp) (fun c hc => h c (by simp [hc]))
      simp only [List.cons_append, readFrom, hw, if_true] at this ⊢
      rw [this]
      simp

end RowServe.ConstraintDetail
