import RowServe.Resource.Basic
import RowServe.Store.Action
import RowServe.Store.Address
import RowServe.Store.Connection
import RowServe.Table.Provision

/-!
# Setting up the store

Before a service starts, its database is created if it does not exist, and everything its
tables need is provisioned. The first statement that fails ends the work.

Results:

* `ensure_eq_done_iff`: nothing is done exactly for an address that names no database or the
  administrative one.
-/

namespace RowServe

/-- Runs statements one after the other. -/
def runAll : List String → StorePlan Unit
  | [] => .done ()
  | text :: rest => (StorePlan.query ⟨text, []⟩ Reply.success).bind fun () => runAll rest

/-- Provisions everything that the tables of a registry need. -/
def Registry.provision (g : Registry) : StorePlan Unit := runAll (Provision.statements g.tables)

namespace DatabaseAddress

/-- Asks whether a database exists. -/
def existsCommand (name : String) : Sql.Command :=
  ⟨"SELECT EXISTS(SELECT 1 FROM pg_database WHERE datname = $1)", [.text (some name)]⟩

/-- Creates a database. -/
def createCommand (name : String) : Sql.Command := ⟨"CREATE DATABASE " ++ Sql.quoted name, []⟩

/-- Creates a database on a connection to the administrative one unless it exists. -/
def ensureNamed (admin name : String) : StorePlan Unit :=
  match Connection.ofUrl? admin with
  | none => .fail (.badRequest "invalid DATABASE_URL")
  | some connection =>
    if connection.encrypted then .fail (.store .notEncrypted)
    else
      .act (.connect connection.database) fun answer =>
        (StorePlan.settle answer).bind fun () =>
          (StorePlan.query (existsCommand name) Reply.flag).bind fun found =>
            if found then .done () else StorePlan.query (createCommand name) Reply.success

/-- Creates the database of an address unless it exists or has no name of its own. -/
def ensure (address : String) : StorePlan Unit :=
  match split? address with
  | none => .fail (.badRequest "DATABASE_URL: no path")
  | some s =>
    if s.name.isEmpty || s.name = administrative then .done () else ensureNamed s.admin s.name

theorem ensureNamed_ne_done (admin name : String) : ensureNamed admin name ≠ .done () := by
  unfold ensureNamed
  split
  · exact nofun
  · split <;> exact nofun

theorem ensure_eq_done_iff {address : String} :
    ensure address = .done () ↔
      ∃ s, split? address = some s ∧ (s.name = "" ∨ s.name = administrative) := by
  unfold ensure
  cases split? address with
  | none => simp
  | some s =>
    by_cases hname : s.name = "" ∨ s.name = administrative
    · simp [hname]
    · simp [hname, ensureNamed_ne_done]

end DatabaseAddress

end RowServe
