/-
# Running a command

A command is run against the files and the environment of a process.  What it prints, the
status it ends with and the files it leaves are its outcome.
-/
import SessionTasks.Command
import SessionTasks.Config.Source
import SessionTasks.Server.Report
import SessionTasks.Timeline
namespace SessionTasks

/-- What a process works with. -/
structure Process where
  /-- The arguments. -/
  arguments : List String
  /-- The environment. -/
  environment : Environment
  /-- The files. -/
  files : FileTree
  /-- The time, in milliseconds of 1970. -/
  time : Nat
  /-- How many identifiers were given out before. -/
  issued : Nat

/-- What comes of a process. -/
structure Outcome where
  /-- The status it ends with. -/
  code : Nat
  /-- What it prints. -/
  output : String := ""
  /-- What it complains about. -/
  errors : String := ""
  /-- The files it leaves. -/
  files : FileTree
  /-- How many milliseconds it takes. -/
  elapsed : Nat := 0

namespace Command

/-- The session that an option names, or the default session. -/
def sessionOr (server : Server) (session : Option String) : SessionKey :=
  .sanitize (session.getD server.resolver.settings.defaultSession)

/-- Runs a sample task to its end, and shows it. -/
def runDemo (t : Timeline) (session : Option String) (steps delay : Nat) :
    Except Failure Json × Timeline :=
  let (_, t) := t.startTimer
  match t.server.openSession (sessionOr t.server session) with
  | (.error f, server) => (.error f, { t with server })
  | (.ok opened, server) =>
    let draft : TaskDraft := {
      name := "Sample Task"
      description := some (Rounds.numeral steps ++ " evenly spaced steps") }
    match server.createTask opened.store opened.key draft with
    | (.error f, server) => (.error f, { t with server })
    | (.ok task, server) =>
      let (run, t) := { t with server }.spawn ⟨opened.key, task.id⟩ (.sample steps delay)
      let t := t.settle.runUntilOver run (delay + steps + 2)
      let store := t.server.store opened.store
      match store.task opened.key task.id, store.taskStats opened.key with
      | .ok finished, .ok counts =>
        let shown := Json.object [("task", finished.toJson), ("stats", counts.toJson)]
        if store.settings.path.isSome then
          let (saved, server) := t.server.save opened.store
          (saved.map fun _ => shown, { t with server })
        else (.ok shown, t)
      | .error f, _ | _, .error f => (.error f, t)

/-- Shows the counts of a session, of the pool and of retention. -/
def runStats (t : Timeline) (session : Option String) : Except Failure Json × Timeline :=
  match t.server.openSession (sessionOr t.server session) with
  | (.error f, server) => (.error f, { t with server })
  | (.ok opened, server) =>
    let shown := ((server.store opened.store).taskStats opened.key).map fun tasks =>
      Json.object [("session", .str opened.key.text), ("sessions", server.pool.stats),
        ("tasks", tasks.toJson), ("cleanup", server.sweeper.toJson)]
    (shown, { t with server })

/-- The request that options describe. -/
def requestOf (settings : ResolverSettings) (options : List CommandOption) : Request :=
  options.foldl (fun r option =>
    match option.1 with
    | "--header" => r.addHeader settings.header option.2
    | "--query" => r.addQuery settings.query option.2
    | "--cookie" => r.addCookie settings.cookie option.2
    | "--ip" => { r with remote := some option.2 }
    | "--user" => { r with user := some option.2 }
    | _ => r) {}

/-- Shows the session of a request. -/
def runResolve (t : Timeline) (options : List CommandOption) : Json × Timeline :=
  let request := requestOf t.server.resolver.settings options
  let (found, resolver) := t.server.resolver.resolve request
  (.object [("rawKey", .str found.rawKey), ("source", .str found.source.name),
      ("clientIp", .str request.clientIp), ("ipMappings", resolver.mappingsJson)],
    { t with server := { t.server with resolver } })

/-- The session of a command, if it opens one. -/
def session? : Command → Option (Option String)
  | .demo session _ _ => some session
  | .stats session => some session
  | .resolve _ | .help => none

/-- What a command shows. -/
def execute (t : Timeline) : Command → Except Failure Json × Timeline
  | .demo session steps delay => runDemo t session steps delay
  | .stats session => runStats t session
  | .resolve options => let (shown, t) := runResolve t options; (.ok shown, t)
  | .help => (.ok .null, t)

/-- A line that begins with the word for an error. -/
def complaint (message : String) : String := "error: " ++ message ++ "\n"

/-- Runs a command other than `help`. -/
def runConfigured (p : Process) (command : Command) : Outcome :=
  match Config.loadFromEnvironment p.files p.environment with
  | .error fault => { code := 2, errors := complaint fault.message, files := p.files }
  | .ok config =>
    match Server.ofConfig config p.time p.files p.issued with
    | .error f => { code := 1, errors := complaint f.display, files := p.files }
    | .ok server =>
      match execute { server } command with
      | (.ok shown, t) =>
        { code := 0, output := shown.pretty ++ "\n", files := t.server.files,
          elapsed := t.server.now }
      | (.error f, t) =>
        { code := 1, errors := complaint f.display, files := t.server.files,
          elapsed := t.server.now }

/-- The path of the file of the session that a process opens, if it has one. -/
def storePath? (p : Process) : Option String := do
  let command ← (parse p.arguments).toOption
  let session ← command.session?
  let config ← (Config.loadFromEnvironment p.files p.environment).toOption
  let key := SessionKey.sanitize (session.getD config.resolver.defaultSession)
  (SessionPool.empty config.pool).pathFor key

/-- Runs a process. -/
def run (p : Process) : Outcome :=
  match parse p.arguments with
  | .error e =>
    { code := 2, errors := complaint (e.message ++ "\n\n" ++ usage), files := p.files }
  | .ok .help => { code := 0, output := usage ++ "\n", files := p.files }
  | .ok command => runConfigured p command

end Command

end SessionTasks
