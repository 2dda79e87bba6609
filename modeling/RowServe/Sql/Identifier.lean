/-!
# Quoted names and literals

Names and texts inside SQL: enclosed in quotes, a quote inside written twice.

Results:

* `readEnclosed_enclosed`: reading an enclosed text gives back the text and exactly what
  follows it.
-/

namespace RowServe.Sql

/-- The characters with every `quote` among them written twice. -/
def doubled (quote : Char) (cs : List Char) : List Char :=
  cs.flatMap fun c => if c = quote then [quote, quote] else [c]

/-- A text in quotes, quotes inside it doubled. -/
def enclosed (quote : Char) (s : String) : String :=
  String.ofList (quote :: (doubled quote s.toList ++ [quote]))

/-- A name as a quoted identifier. -/
def quoted (name : String) : String := enclosed '"' name

/-- A column of a table, as in `"product"."name"`. -/
def qualified (table column : String) : String := quoted table ++ "." ++ quoted column

/-- A text as a string literal. -/
def literal (s : String) : String := enclosed '\'' s

/-! ## Reading -/

/-- Reads up to the quote that is not doubled; gives the characters and what follows. -/
def readDoubled (quote : Char) : List Char → Option (List Char × List Char)
  | [] => none
  | [c] => if c = quote then some ([], []) else none
  | c :: d :: rest =>
    if c = quote then
      if d = quote then (readDoubled quote rest).map fun (cs, r) => (quote :: cs, r)
      else some ([], d :: rest)
    else (readDoubled quote (d :: rest)).map fun (cs, r) => (c :: cs, r)

/-- Reads one enclosed text; gives the text and what follows its closing quote. -/
def readEnclosed (quote : Char) : List Char → Option (String × List Char)
  | [] => none
  | c :: rest =>
    if c = quote then (readDoubled quote rest).map fun (cs, r) => (String.ofList cs, r)
    else none

theorem readDoubled_doubled (quote : Char) (cs rest : List Char) (h : rest.head? ≠ some quote) :
    readDoubled quote (doubled quote cs ++ quote :: rest) = some (cs, rest) := by
  induction cs with
  | nil =>
    cases rest with
    | nil => simp [doubled, readDoubled]
    | cons d r =>
      have : d ≠ quote := by simpa using h
      simp [doubled, readDoubled, this]
  | cons c cs ih =>
    by_cases hc : c = quote
    · subst hc
      have : doubled c (c :: cs) ++ c :: rest = c :: c :: (doubled c cs ++ c :: rest) := by
        simp [doubled]
      rw [this, readDoubled]
      simp [ih]
    · have split : doubled quote (c :: cs) ++ quote :: rest
          = c :: (doubled quote cs ++ quote :: rest) := by simp [doubled, hc]
      rw [split]
      generalize hd : doubled quote cs ++ quote :: rest = tail at ih
      cases tail with
      | nil => simp at hd
      | cons d r => simp [readDoubled, hc, ih]

theorem readEnclosed_enclosed (quote : Char) (s : String) (rest : List Char)
    (h : rest.head? ≠ some quote) :
    readEnclosed quote ((enclosed quote s).toList ++ rest) = some (s, rest) := by
  simp [enclosed, readEnclosed, readDoubled_doubled quote s.toList rest h]

end RowServe.Sql
