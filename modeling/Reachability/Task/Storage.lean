/-
# Storage

Files, some of which hold databases of tasks.

Main definitions:

* `Storage` : the files and the databases;
* `Storage.openDatabase` : the database at a path, a new one if there is none.
-/
import Reachability.File.Tree
import Reachability.Task.Database

namespace Reachability

/-- Files, and the databases that were made at some of their places. -/
structure Storage where
  files : File.Tree := {}
  databases : List (File.Route × TaskDatabase) := []

namespace Storage

/-- The storage with a database at a place. -/
def withDatabase (s : Storage) (route : File.Route) (db : TaskDatabase) : Storage :=
  { s with databases := (route, db) :: s.databases.filter (·.1 ≠ route) }

/-- Opens the database at a path.  An empty path stands for one that is kept nowhere; a file
with a text in it is no database. -/
def openDatabase (s : Storage) (path : String) (retryBudget : UInt32) :
    Except DatabaseError TaskDatabase := do
  if path = "" || path = ":memory:" then return .new retryBudget
  let place ← (s.files.locate path).mapError fun _ => .cannotOpen path
  match s.databases.lookup place.route, s.files.node? place.route with
  | some db, _ => return db.reopen retryBudget
  | none, some .directory => throw (.cannotOpen path)
  | none, some (.file _ (_ :: _)) => throw .notADatabase
  | none, _ =>
      if place.asDirectory || !s.files.isDirectory place.route.dropLast then
        throw (.cannotOpen path)
      else return .new retryBudget

end Storage
end Reachability
