/-!
# Universally unique identifiers

The 128-bit identifiers written as groups of hexadecimal digits. Their texts: hyphenated,
hyphenated in braces or behind `urn:uuid:`, or the 32 digits alone.

Results:

* `hyphenated_length`: what is read has as many digits as its groups together.
-/

namespace RowServe.Uuid

/-- The lower case of a hexadecimal digit. -/
def hexLower? (c : Char) : Option Char :=
  if ('0' ≤ c ∧ c ≤ '9') ∨ ('a' ≤ c ∧ c ≤ 'f') then some c
  else if 'A' ≤ c ∧ c ≤ 'F' then some (Char.ofNat (c.toNat + 32))
  else none

/-- Groups of digits with hyphens between them. -/
def hyphenated : List Nat → List Char → Option (List Char)
  | [], [] => some []
  | [], _ :: _ => none
  | n :: groups, cs => do
    let digits ← (cs.take n).mapM hexLower?
    if digits.length ≠ n then none
    match groups, cs.drop n with
    | [], [] => return digits
    | _ :: _, '-' :: rest => return digits ++ (← hyphenated groups rest)
    | _, _ => none

/-- The lengths of the groups. -/
def groups : List Nat := [8, 4, 4, 4, 12]

/-- Takes a word off the front of a text; ASCII letters match in either case. -/
def afterWord : List Char → List Char → Option (List Char)
  | [], cs => some cs
  | _ :: _, [] => none
  | w :: word, c :: cs => if w = c.toLower then afterWord word cs else none

/-- The 32 digits of an identifier, in lower case. -/
def digits? (cs : List Char) : Option (List Char) :=
  match cs with
  | '\x7b' :: rest =>
    match rest.reverse with
    | '\x7d' :: inner => hyphenated groups inner.reverse
    | _ => none
  | _ =>
    match afterWord "urn:uuid:".toList cs with
    | some rest => hyphenated groups rest
    | none => if cs.length = 32 then cs.mapM hexLower? else hyphenated groups cs

/-- The hyphenated text of an identifier in lower case; `none` if the text is none. -/
def parse? (s : String) : Option String :=
  (digits? s.toList).map fun d =>
    String.ofList (d.take 8 ++ '-' :: ((d.drop 8).take 4 ++ '-' :: ((d.drop 12).take 4 ++
      '-' :: ((d.drop 16).take 4 ++ '-' :: d.drop 20))))

theorem hyphenated_length {ns : List Nat} {cs digits : List Char}
    (h : hyphenated ns cs = some digits) : digits.length = ns.foldr (· + ·) 0 := by
  induction ns generalizing cs digits with
  | nil =>
    cases cs with
    | nil => simp only [hyphenated, Option.some.injEq] at h; simp [← h]
    | cons c cs => simp [hyphenated] at h
  | cons n ns ih =>
    simp only [hyphenated, Option.bind_eq_bind, Option.bind_eq_some_iff] at h
    obtain ⟨ds, _, h⟩ := h
    by_cases hn : ds.length ≠ n
    · simp [hn] at h
    · have hlen : ds.length = n := by omega
      simp only [hlen, ne_eq, not_true_eq_false, if_false] at h
      split at h
      · simp only [Option.pure_def, Option.some.injEq] at h
        simp [← h, hlen]
      · obtain ⟨rest', hr, he⟩ := Option.bind_eq_some_iff.mp h
        simp only [Option.pure_def, Option.some.injEq] at he
        rw [← he, List.length_append, ih hr, hlen]
        simp
      · contradiction

end RowServe.Uuid
