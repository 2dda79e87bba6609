import RowServe.Http.Form
import RowServe.Text.Split

/-!
# Connections

A URL `scheme://authority/path?query` says where a database is. The path names it, once the
segments that stand for the one above or for nothing are followed and what a path does not
hold is written in escapes. Settings in the query may name another database or ask for
encryption.

Results:

* `follow_plain`: segments that lead nowhere else stay as they are.
* `set?_of_unknown`: a setting of an unknown name changes nothing.
-/

namespace RowServe

/-- What a URL says about a connection. -/
structure Connection where
  database : String
  /-- Must nobody be able to listen? -/
  encrypted : Bool
  deriving DecidableEq, Repr

namespace Connection

/-! ## Numbers and hosts -/

/-- The value of decimal digits. -/
def decimalValue (cs : List Char) : Nat := cs.foldl (fun n c => 10 * n + (c.toNat - 48)) 0

/-- Is it the number of a socket, or nothing? -/
def isSocketNumber (cs : List Char) : Bool := cs.all Char.isDigit && decimalValue cs < 65536

/-- Is it a natural number below a bound, perhaps behind a plus sign? -/
def isNaturalBelow (bound : Nat) (cs : List Char) : Bool :=
  let digits := match cs with
    | '+' :: rest => rest
    | cs => cs
  !digits.isEmpty && digits.all Char.isDigit && decimalValue digits < bound

/-- Is it one of the four numbers of an address, without a zero in front? -/
def isQuarter (cs : List Char) : Bool :=
  isSocketNumber cs && !cs.isEmpty && decimalValue cs < 256 && (cs.head? ≠ some '0' || cs.length = 1)

/-- Is it an address of four numbers? -/
def isFourNumbers (cs : List Char) : Bool :=
  let pieces := Text.splitOn '.' cs
  pieces.length = 4 && pieces.all isQuarter

/-- Is it a group of hexadecimal digits? -/
def isGroup (cs : List Char) : Bool :=
  !cs.isEmpty && cs.length ≤ 4 && cs.all fun c => (Http.hexDigit? c.toNat).isSome

/-- How many groups a text between colons has; four numbers at its end are two groups. `none`
    stands for a piece that is no group. -/
def groups? : List (List Char) → Option Nat
  | [] => some 0
  | [last] =>
    if isGroup last then some 1 else if isFourNumbers last then some 2 else none
  | piece :: pieces => if isGroup piece then (groups? pieces).map (· + 1) else none

/-- The groups of one side of a double colon. -/
def sideGroups? (cs : List Char) : Option Nat :=
  if cs.isEmpty then some 0 else groups? (Text.splitOn ':' cs)

/-- Is it an address of eight groups? A double colon stands for one or more groups of
    zeros. -/
def isEightGroups (cs : List Char) : Bool :=
  match Text.splitOnSeq [':', ':'] cs with
  | [all] => sideGroups? all = some 8
  | [before, after] =>
    match sideGroups? before, sideGroups? after with
    | some m, some n => m + n < 8 && !isFourNumbers ((Text.splitOn ':' before).getLastD [])
    | _, _ => false
  | _ => false

/-- The characters that no host has in its name. -/
def hostStops : List Char :=
  ['\x00', ' ', '#', '/', ':', '<', '>', '?', '@', '[', '\\', ']', '^', '|']

/-- Is it the name of a host? Only an authority without a user may leave it out. -/
def isHost (mayBeEmpty : Bool) (cs : List Char) : Bool :=
  (mayBeEmpty || !cs.isEmpty) && cs.all fun c => !hostStops.contains c

/-- Is it a host, perhaps with the number of a socket? A host in brackets is an address of
    eight groups. -/
def isServer (mayBeEmpty : Bool) (server : List Char) : Bool :=
  match server with
  | '[' :: rest =>
    match Text.splitOnce ']' rest with
    | some (address, []) => isEightGroups address
    | some (address, ':' :: number) => isEightGroups address && isSocketNumber number
    | _ => false
  | _ =>
    match Text.splitLast ':' server with
    | some (host, number) => isHost false host && isSocketNumber number
    | none => isHost mayBeEmpty server

/-- Are a user and a password text behind their escapes? -/
def isUser (cs : List Char) : Bool :=
  match Text.splitOnce ':' cs with
  | some (user, password) => (Http.segment? user).isSome && (Http.segment? password).isSome
  | none => (Http.segment? cs).isSome

/-- Is an authority well formed? A user stands before the last at sign. -/
def isAuthority (authority : List Char) : Bool :=
  match Text.splitLast '@' authority with
  | some (user, server) => isUser user && isServer false server
  | none => isServer true authority

/-! ## Paths -/

/-- The segments that stand for the place where a path is. -/
def hereSegments : List (List Char) := [['.'], ['%', '2', 'e']]

/-- The segments that stand for the place above. -/
def aboveSegments : List (List Char) :=
  hereSegments.flatMap fun a => hereSegments.map fun b => a ++ b

/-- Does a segment stand for the place where a path is? -/
def isHere (segment : List Char) : Bool := hereSegments.contains (segment.map Char.toLower)

/-- Does a segment stand for the place above? -/
def isAbove (segment : List Char) : Bool := aboveSegments.contains (segment.map Char.toLower)

/-- The segments that a path leads through, after those in `done`, the last of which comes
    first. A path that ends where it is, or above, ends in an empty segment. -/
def follow (done : List (List Char)) : List (List Char) → List (List Char)
  | [] => done.reverse
  | [last] =>
    if isAbove last then ([] :: done.tail).reverse
    else if isHere last then ([] :: done).reverse
    else (last :: done).reverse
  | segment :: rest =>
    if isAbove segment then follow done.tail rest
    else if isHere segment then follow done rest
    else follow (segment :: done) rest

/-- Is a byte written as an escape in a path? -/
def isEscaped (b : Nat) : Bool :=
  b ≤ 0x20 || 0x7F ≤ b || [0x22, 0x23, 0x3C, 0x3E, 0x3F, 0x60, 0x7B, 0x7D].contains b

/-- A byte in a path. -/
def byteText (b : Nat) : List Char :=
  if isEscaped b then ['%', (Nat.digitChar (b / 16)).toUpper, (Nat.digitChar (b % 16)).toUpper]
  else [Char.ofNat b]

/-- A path without the slashes at its front. -/
def pathText (path : List Char) : String :=
  let segments := follow [] (Text.splitOn '/' (path.drop 1))
  let text := ['/'].intercalate (segments.map fun segment => (Http.bytesOf segment).flatMap byteText)
  String.ofList (text.dropWhile fun c => c = '/')

/-! ## Settings -/

/-- The ways to secure a connection; the last three insist on encryption. -/
def securities : List (String × Bool) :=
  [("disable", false), ("allow", false), ("prefer", false),
    ("require", true), ("verify-ca", true), ("verify-full", true)]

/-- Reads one setting; `none` stands for a value that it cannot have. -/
def set? (c : Connection) (name value : String) : Option Connection :=
  if name = "dbname" then some { c with database := value }
  else if name = "sslmode" || name = "ssl-mode" then
    (securities.lookup (value.map Char.toLower)).map fun encrypted =>
      { c with encrypted := encrypted }
  else
    let good :=
      if name = "statement-cache-capacity" then isNaturalBelow 18446744073709551616 value.toList
      else if name = "hostaddr" then isFourNumbers value.toList || isEightGroups value.toList
      else true
    if good then some c else none

/-- Reads settings in order. -/
def setAll? (c : Connection) : List (String × String) → Option Connection
  | [] => some c
  | (name, value) :: rest => (c.set? name value).bind fun c => c.setAll? rest

/-! ## URLs -/

/-- The characters that a URL may have anywhere without a meaning. -/
def lineSigns : List Char := ['\t', '\n', '\r']

/-- The characters of a URL that count: no control characters and blanks around it, and no
    tabs and line ends inside. -/
def significant (cs : List Char) : List Char :=
  let isFiller (c : Char) : Bool := c.toNat ≤ 0x20
  let inner := ((cs.dropWhile isFiller).reverse.dropWhile isFiller).reverse
  inner.filter fun c => !lineSigns.contains c

/-- The scheme of a URL and what follows its colon. -/
def scheme? (cs : List Char) : Option (List Char × List Char) :=
  match Text.splitOnce ':' cs with
  | some (scheme, rest) =>
    if scheme.head?.any Char.isAlpha &&
        scheme.all fun c => c.isAlphanum || c = '+' || c = '-' || c = '.' then
      some (scheme, rest)
    else none
  | none => none

/-- The characters before and behind the first of some marks, which belongs to the second. -/
def cutAt (marks cs : List Char) : List Char × List Char :=
  (cs.takeWhile fun c => !marks.contains c, cs.dropWhile fun c => !marks.contains c)

/-- The connection that a path with the query behind it describes. -/
def ofPath? (path query : List Char) : Option Connection :=
  setAll? ⟨pathText path, false⟩ (Http.formPairs ((cutAt ['#'] query).1.drop 1))

/-- The connection that a URL describes. `none` stands for a text that is no URL, or for a
    setting with a value that it cannot have. -/
def ofUrl? (url : String) : Option Connection := do
  let (_, rest) ← scheme? (significant url.toList)
  match rest with
  | '/' :: '/' :: rest =>
    let (authority, rest) := cutAt ['/', '?', '#'] rest
    if isAuthority authority then
      let (path, query) := cutAt ['?', '#'] rest
      ofPath? path query
    else none
  | rest =>
    let (path, query) := cutAt ['?', '#'] rest
    ofPath? (if path.head? = some '/' then path else '/' :: path) query

/-! ## Laws -/

theorem follow_plain (done path : List (List Char))
    (plain : ∀ segment ∈ path, isAbove segment = false ∧ isHere segment = false) :
    follow done path = done.reverse ++ path := by
  induction path generalizing done with
  | nil => simp [follow]
  | cons segment rest ih =>
    obtain ⟨above, here⟩ := plain segment List.mem_cons_self
    have ih := fun done => ih done fun s m => plain s (List.mem_cons_of_mem _ m)
    cases rest with
    | nil => simp [follow, above, here]
    | cons next rest => simp [follow, above, here, ih]

theorem set?_of_unknown (c : Connection) {name : String} (value : String)
    (unknown : name ∉ ["dbname", "sslmode", "ssl-mode", "statement-cache-capacity", "hostaddr"]) :
    c.set? name value = some c := by
  simp only [List.mem_cons, List.not_mem_nil, or_false, not_or] at unknown
  simp [set?, unknown]

end Connection

end RowServe
