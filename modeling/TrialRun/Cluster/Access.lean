import TrialRun.Settings

/-!
# Access to the cluster

A client of the cluster needs credentials before its first call.  A ready client has them.  Without
one they are read from a file if a file is named, or if the trial runs outside of any cluster; a
trial inside a cluster that names no file uses the account that its own pod was given.
-/

set_option autoImplicit false

namespace TrialRun.Cluster

/-- What is known of how to access the cluster. -/
structure Access where
  configFile : Option String := none
  context : Option String := none
  /-- Whether a client is given that needs no more credentials. -/
  ready : Bool := false
  deriving DecidableEq, Repr

/-- Where the credentials of a client come from. -/
inductive Credentials where
  /-- They are there already. -/
  | given
  /-- A file, and a context in it; the usual ones if none is named. -/
  | file (configFile context : Option String)
  /-- The account of the pod that the trial runs in. -/
  | ownAccount
  deriving DecidableEq, Repr

/-- The directory that only pods of a cluster have. -/
def accountDirectory : String := "/var/run/secrets/kubernetes.io/"

/-- Whether the trial runs inside a cluster, as far as directories tell. -/
def runsInside (isDirectory : String → Bool) : Bool := isDirectory accountDirectory

namespace Access

/-- Where the credentials come from, on a machine with these directories.  An empty file name counts
as none. -/
def credentials (a : Access) (isDirectory : String → Bool) : Credentials :=
  if a.ready then .given
  else if (a.configFile.getD "") ≠ "" || !runsInside isDirectory then
    .file a.configFile a.context
  else .ownAccount

/-- The field of a ready client.  No JSON value but null can stand for one. -/
def readyField (config : Json) : Except FieldObjection Unit :=
  match config.field? "client_configuration" with
  | none | some .null => .ok ()
  | some _ => .error ("client_configuration", .notInstance)

/-- The access that the fields of an object describe, or all objections in the order of the
fields.  Fields of other names are ignored. -/
def ofJson (config : Json) : Except (List FieldObjection) Access :=
  let configFile := Settings.optionalField config "config_file"
  let context := Settings.optionalField config "context"
  let ready := readyField config
  match configFile, context, ready with
  | .ok file, .ok context, .ok () => .ok { configFile := file, context := context }
  | _, _, _ =>
    .error (Settings.objections [configFile, context] ++ Settings.objections [ready])

/-- The access as an object of its fields; a ready client is not shown. -/
def toJson (a : Access) : Json :=
  .ofFields
    [("config_file", Json.textOrNull a.configFile), ("context", Json.textOrNull a.context),
      ("client_configuration", .null)]

end Access

end TrialRun.Cluster
