/-
# Failures

What can go wrong with a session, a store, a task or a run, and the words for it.
-/
import SessionTasks.FileTree
import SessionTasks.SessionKey
import SessionTasks.Text.Quoted
namespace SessionTasks

/-- The kinds of failure that a caller can tell apart. -/
inductive FailureKind where
  | notFound
  | invalidInput
  | storageFailure
  | executionFailure
  | cancelled
  | internal
  deriving DecidableEq

namespace FailureKind

/-- The name of a kind. -/
def name : FailureKind → String
  | .notFound => "NotFound"
  | .invalidInput => "InvalidInput"
  | .storageFailure => "StorageFailure"
  | .executionFailure => "ExecutionFailure"
  | .cancelled => "Cancelled"
  | .internal => "Internal"

/-- Every kind. -/
def all : List FailureKind :=
  [.notFound, .invalidInput, .storageFailure, .executionFailure, .cancelled, .internal]

/-- The kind of a name. -/
def ofName? (name : String) : Option FailureKind := all.find? (·.name = name)

/-- The status of an answer over HTTP. -/
def httpStatus : FailureKind → Nat
  | .notFound => 404
  | .invalidInput => 400
  | _ => 500

end FailureKind

/-- A cause of failure. -/
inductive Failure where
  /-- A failure that a run or a change raises in its own words. -/
  | raised (kind : FailureKind) (message : String) (session task : Option String)
  /-- The session has no such task. -/
  | taskNotFound (session : SessionKey) (task : String)
  /-- A change to the store did not come to its end. -/
  | storePoisoned
  /-- A record is not an object. -/
  | recordNotObject
  /-- A column that every record has holds the wrong kind of value. -/
  | recordUndecodable
  /-- A query is not an object. -/
  | exampleNotObject
  /-- A record of the task table is not a task. -/
  | notATask (record : String)
  /-- A store without a file was to be saved. -/
  | saveWithoutPath
  /-- A file cannot be written. -/
  | unwritable (path : String) (fault : FileFault)
  /-- A file cannot be read. -/
  | unreadable (path : String) (fault : FileFault)
  /-- A file does not hold tables. -/
  | undecodableFile (path : String)
  /-- The configuration allows no session at all. -/
  | noSessionAllowed
  /-- The configuration lets every session expire at once. -/
  | noIdleTime
  /-- A run noticed that it was cancelled. -/
  | runCancelled (work task : String)
  /-- A run broke off without a result. -/
  | executorPanicked (run : Nat) (panic : String)
  deriving DecidableEq

namespace Failure

/-- The kind of a failure. -/
def kind : Failure → FailureKind
  | .raised kind _ _ _ => kind
  | .taskNotFound _ _ => .notFound
  | .storePoisoned | .notATask _ => .internal
  | .recordNotObject | .recordUndecodable | .exampleNotObject | .noSessionAllowed | .noIdleTime =>
    .invalidInput
  | .saveWithoutPath | .unwritable _ _ | .unreadable _ _ | .undecodableFile _ => .storageFailure
  | .runCancelled _ _ => .cancelled
  | .executorPanicked _ _ => .executionFailure

/-- The words for a failure. -/
def message : Failure → String
  | .raised _ message _ _ => message
  | .taskNotFound _ task => "task '" ++ task ++ "' not found"
  | .storePoisoned => "keyed store mutex poisoned"
  | .recordNotObject => "records must be JSON objects"
  | .recordUndecodable => "record is not decodable"
  | .exampleNotObject => "query examples must be JSON objects"
  | .notATask record => "record '" ++ record ++ "' is not a task"
  | .saveWithoutPath => "save_db failed: no persistence path is configured"
  | .unwritable path fault =>
    "save_db failed: failed to write '" ++ path ++ "': " ++ fault.message
  | .unreadable path fault =>
    "load_db failed: failed to read '" ++ path ++ "': " ++ fault.message
  | .undecodableFile path => "load_db failed: failed to decode '" ++ path ++ "'"
  | .noSessionAllowed => "max_sessions must allow at least one session"
  | .noIdleTime => "session_timeout must be greater than zero"
  | .runCancelled work _ => work ++ " cancelled"
  | .executorPanicked run panic =>
    "task executor aborted: task " ++ String.ofList (Text.decimal run)
      ++ " panicked with message " ++ Text.quoted panic

/-- The session that a failure is about. -/
def session : Failure → Option String
  | .raised _ _ session _ => session
  | .taskNotFound session _ => some session.text
  | _ => none

/-- The task that a failure is about. -/
def task : Failure → Option String
  | .raised _ _ _ task => task
  | .taskNotFound _ task => some task
  | .notATask record => some record
  | .runCancelled _ task => some task
  | _ => none

/-- The kind and the words, as a person reads them. -/
def display (f : Failure) : String := f.kind.name ++ ": " ++ f.message

end Failure

end SessionTasks
