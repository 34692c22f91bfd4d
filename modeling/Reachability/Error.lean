/-
# Errors

What can keep a configuration from being read or a task from being stored.  These errors
end a command; what a probe runs into is a `ProbeError` and part of its result.

Main definitions:

* `ConfigError`, `DatabaseError`, `StoreError` : the causes by their place;
* `Error` : any of them;
* `Error.message` : the text of an error with its place in front;
* `Error.chain` : that text followed by the texts of the causes behind it.
-/
import Reachability.Task.Basic

namespace Reachability

/-! ## Configuration -/

/-- What is wrong with a configuration. -/
inductive ConfigError
  /-- A timeout, in milliseconds, outside its range. -/
  | invalidTimeout (field : String) (millis : Nat)
  /-- A number of attempts outside its range. -/
  | invalidAttempts (field : String) (value : Nat)
  | invalidChunkSize (value : Nat)
  /-- A ping command that cannot work. -/
  | invalidTemplate (reason : String)
  | fileNotFound (path : String)
  | invalidFormat (reason : String)
deriving DecidableEq, Repr

/-- The text of a configuration error. -/
def ConfigError.message : ConfigError → String
  | invalidTimeout field millis =>
      "Invalid timeout value for " ++ field ++ ": " ++ toString millis ++ "ms"
  | invalidAttempts field value =>
      "Invalid attempt count for " ++ field ++ ": " ++ toString value
  | invalidChunkSize value => "Invalid chunk size: " ++ toString value
  | invalidTemplate reason => "Invalid ping command template: " ++ reason
  | fileNotFound path => "Configuration file not found: " ++ path
  | invalidFormat reason => "Invalid configuration format: " ++ reason

/-- The format of a file is told by its extension alone; this one stands for no format. -/
def ConfigError.unsupportedFormat : ConfigError :=
  .invalidFormat "Unsupported configuration file format"

/-! ## Stored tasks -/

/-- What the task database refuses. -/
inductive DatabaseError
  /-- A stored integer that the column at that position has no room for. -/
  | integerOutOfRange (value : Int) (position : Nat)
  /-- A stored value of another type than the column at that position. -/
  | columnType (type : String) (position : Nat) (column : String)
  /-- No key is left. -/
  | full
  | notADatabase
  | cannotOpen (path : String)
  /-- A row that breaks a rule of its table. -/
  | constraint (rule : String)
  | typeMismatch
deriving DecidableEq, Repr

namespace DatabaseError

/-- The text of a database error. -/
def message : DatabaseError → String
  | integerOutOfRange value position =>
      "Integer " ++ toString value ++ " out of range at index " ++ toString position
  | columnType type position column =>
      "Invalid column type " ++ type ++ " at index: " ++ toString position ++ ", name: " ++ column
  | full => "database or disk is full"
  | notADatabase => "file is not a database"
  | cannotOpen path => "unable to open database file: " ++ path
  | constraint rule => rule
  | typeMismatch => "datatype mismatch"

/-- The general text behind a database error, with its number. -/
def cause? : DatabaseError → Option String
  | full => some "Error code 13: database or disk is full"
  | notADatabase => some "Error code 26: file is not a database"
  | cannotOpen _ => some "Error code 14: unable to open database file"
  | constraint _ => some "Error code 19: constraint failed"
  | typeMismatch => some "Error code 20: datatype mismatch"
  | _ => none

end DatabaseError

/-- What can go wrong with stored tasks. -/
inductive StoreError
  | database (e : DatabaseError)
  | taskNotFound (id : TaskId)
  /-- A stored text that its column does not allow. -/
  | invalidColumn (column : String) (value : String)
  | lockPoisoned
deriving DecidableEq, Repr

/-- The text of a store error. -/
def StoreError.message : StoreError → String
  | database e => "SQLite error: " ++ e.message
  | taskNotFound id => "Task " ++ toString id.toInt ++ " not found"
  | invalidColumn column value => "Invalid stored value in column " ++ column ++ ": " ++ value
  | lockPoisoned => "Store lock poisoned"

/-! ## Any error -/

/-- What can end a command. -/
inductive Error
  | config (e : ConfigError)
  | store (e : StoreError)
  /-- Every value that was tried as an identity was in use. -/
  | identityExhausted (budget : Nat)
  | io (reason : String)
deriving DecidableEq, Repr

namespace Error

/-- The text of the exhausted supply of identities. -/
def exhaustedMessage (budget : Nat) : String :=
  "No unused identity token found within a retry budget of " ++ toString budget

/-- The text of an error. -/
def message : Error → String
  | config e => "Configuration error: " ++ e.message
  | store e => "Task store error: " ++ e.message
  | identityExhausted budget => "Identity error: " ++ exhaustedMessage budget
  | io reason => "I/O error: " ++ reason

/-- The place where the error arose. -/
def category : Error → String
  | config _ => "config"
  | store _ => "store"
  | identityExhausted _ => "identity"
  | io _ => "io"

/-- Whether the supply of identities ran out. -/
def isIdentityExhausted : Error → Bool
  | identityExhausted _ => true
  | _ => false

/-- The texts of an error and of the causes behind it, outermost first. -/
def chain (e : Error) : List String :=
  e.message ::
    match e with
    | config e => [e.message]
    | store (.database e) => [(StoreError.database e).message, e.message] ++ e.cause?.toList
    | store e => [e.message]
    | identityExhausted budget => [exhaustedMessage budget]
    | io reason => [reason]

end Error
end Reachability
