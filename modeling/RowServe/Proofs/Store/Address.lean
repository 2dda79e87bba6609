import RowServe.Proofs.Text.Split
import RowServe.Proofs.Text.Trim
import RowServe.Store.Setup

/-!
# Names of databases in their addresses

An address is cut at its last slash, and only what stands behind it is cut at a question mark. A
query with a slash, such as the directory of a socket, thereby takes the place of the path: the name
is the end of the query, and the administrative address has the path in front of it.

Results:

* `split_behind`: every address with a slash is cut at the last one.
* `split_named_iff`: the name in the path is found exactly if the query has no slash.
-/

namespace RowServe.DatabaseAddress

/-- The address of a server, up to the slash in front of the name. -/
def server (scheme authority : String) : String := scheme ++ "://" ++ authority ++ "/"

/-- The address of a database, with a query or without. -/
def url (scheme authority name : String) (query : Option String) : String :=
  server scheme authority ++ name ++ query.elim "" ("?" ++ ·)

/-- The characters in front of the first question mark, without blanks around them. -/
def beforeQuery (s : String) : String :=
  Text.trim (String.ofList (s.toList.takeWhile fun c => c ≠ '?'))

variable {scheme authority name before after : String} {query : Option String}

/-- An address is cut at its last slash, whatever stands in front of it. -/
theorem split_behind (h : '/' ∉ after.toList) :
    split? (before ++ "/" ++ after) =
      some ⟨before ++ "/" ++ administrative, beforeQuery after⟩ := by
  have htext : (before ++ "/" ++ after).toList = before.toList ++ '/' :: after.toList := by
    simp [String.toList_append]
  have hslash : String.ofList (before.toList ++ ['/']) = before ++ "/" := by
    rw [String.ofList_append, String.ofList_toList]
  rw [split?, htext, Text.splitLast_of_split h, Option.map_some, beforeQuery, Text.trim,
    String.toList_ofList]
  dsimp only
  rw [hslash]

/-- A text with a slash has a last one. -/
theorem exists_last_slash {s : String} (h : '/' ∈ s.toList) :
    ∃ start rest, s = start ++ "/" ++ rest ∧ '/' ∉ rest.toList := by
  cases hsplit : Text.splitLast '/' s.toList with
  | none => exact absurd h (Text.splitLast_eq_none_iff.mp hsplit)
  | some parts =>
    obtain ⟨hs, hrest⟩ := Text.splitLast_eq_some hsplit
    refine ⟨String.ofList parts.1, String.ofList parts.2, ?_, by rwa [String.toList_ofList]⟩
    rw [← String.toList_inj, hs]
    simp [String.toList_append]

/-- A name ends at the question mark behind it. -/
theorem beforeQuery_name (hmark : '?' ∉ name.toList) (htrim : Text.trim name = name) :
    beforeQuery (name ++ query.elim "" ("?" ++ ·)) = name := by
  have hcut : ((name ++ query.elim "" ("?" ++ ·)).toList.takeWhile fun c => c ≠ '?') =
      name.toList := by
    have hkept (c : Char) (hc : c ∈ name.toList) : decide (c ≠ '?') = true :=
      decide_eq_true fun heq => hmark (heq ▸ hc)
    rw [String.toList_append, List.takeWhile_append_of_pos hkept]
    cases query with
    | none => simp
    | some q => simp [String.toList_append]
  rw [beforeQuery, hcut, String.ofList_toList, htrim]

/-- The name in the path of an address and the address of the administrative database at the same
server are found exactly if there is no slash in the query. If there is one, the name is what stands
behind the last slash of the query, and the administrative address keeps the path and the query up
to there. -/
theorem split_named_iff (hslash : '/' ∉ name.toList) (hmark : '?' ∉ name.toList)
    (htrim : Text.trim name = name) :
    (split? (url scheme authority name query) =
        some ⟨server scheme authority ++ administrative, name⟩ ↔
      ∀ q, query = some q → '/' ∉ q.toList) ∧
    ∀ start rest, query = some (start ++ "/" ++ rest) → '/' ∉ rest.toList →
      split? (url scheme authority name query) =
        some ⟨url scheme authority name (some start) ++ "/" ++ administrative,
          beforeQuery rest⟩ := by
  have hshown (start rest : String) (hquery : query = some (start ++ "/" ++ rest))
      (hrest : '/' ∉ rest.toList) : split? (url scheme authority name query) =
        some ⟨url scheme authority name (some start) ++ "/" ++ administrative,
          beforeQuery rest⟩ := by
    rw [← split_behind hrest, hquery]
    simp only [url, Option.elim_some, String.append_assoc]
  refine ⟨⟨fun hnamed q hquery hq => ?_, fun hquery => ?_⟩, hshown⟩
  · obtain ⟨start, rest, rfl, hrest⟩ := exists_last_slash hq
    have hsame := Option.some.inj ((hshown start rest hquery hrest).symm.trans hnamed)
    have hlength := congrArg (String.length ∘ Split.admin) hsame
    have hmore : "/".length = 1 := rfl
    simp only [Function.comp_apply, url, Option.elim_some, String.length_append] at hlength
    omega
  · have hbehind : '/' ∉ (name ++ query.elim "" ("?" ++ ·)).toList := by
      rw [String.toList_append, List.mem_append, not_or]
      refine ⟨hslash, ?_⟩
      cases query with
      | none => simp
      | some q => simpa [String.toList_append] using hquery q rfl
    have hsplit : split? (server scheme authority ++ (name ++ query.elim "" ("?" ++ ·))) =
        some ⟨server scheme authority ++ administrative, _⟩ := split_behind hbehind
    rwa [beforeQuery_name hmark htrim, ← String.append_assoc] at hsplit

/-- The name in front of a query without a slash is found. -/
theorem split_named_shop :
    split? (url "postgres" "u:p@localhost:5432" "shop" (some "sslmode=disable")) =
      some ⟨"postgres://u:p@localhost:5432/" ++ administrative, "shop"⟩ :=
  (split_named_iff (by decide) (by decide) (by decide +kernel)).1.mpr fun q hq => by
    obtain rfl := Option.some.inj hq
    decide

/-- The name is lost behind the directory of a socket, and no database is asked for or created. -/
theorem socket_unnamed :
    split? (url "postgres" "u:p@localhost" "shop" (some "host=/var/run/postgresql/")) =
        some ⟨"postgres://u:p@localhost/shop?host=/var/run/postgresql/postgres", ""⟩ ∧
      ensure (url "postgres" "u:p@localhost" "shop" (some "host=/var/run/postgresql/")) =
        .done () := by
  have hsplit : split? (url "postgres" "u:p@localhost" "shop" (some "host=/var/run/postgresql/")) =
      some ⟨"postgres://u:p@localhost/shop?host=/var/run/postgresql/postgres", ""⟩ := by
    decide +kernel
  refine ⟨hsplit, ?_⟩
  rw [ensure, hsplit]
  rfl

end RowServe.DatabaseAddress
