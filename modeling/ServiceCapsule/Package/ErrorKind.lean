import ServiceCapsule.Capsule.Analysis

/-!
# Kinds of errors

The errors that a generated capsule can raise: a set that every capsule has, one for each need, and
three that catch the rest. A capsule needs files, the network or databases by the modules that its
sources import.
-/

namespace ServiceCapsule

/-! ### Needs -/

structure Needs where
  fileSystem : Bool
  network : Bool
  database : Bool
  deriving DecidableEq, Repr, Inhabited

namespace Needs

def fileSystemModules : List String := ["fs", "path", "fs-extra", "graceful-fs", "fs/promises"]

def networkModules : List String :=
  ["http", "https", "net", "axios", "node-fetch", "got", "ws", "undici", "cross-fetch",
   "superagent"]

def databaseModules : List String :=
  ["pg", "mysql", "mysql2", "mongodb", "mongoose", "sqlite3", "better-sqlite3", "redis",
   "ioredis", "typeorm", "@prisma/client", "knex", "sequelize"]

/-- Whether an import is of a listed module or of a listed package. -/
def isListed (modules : List String) (i : Import) : Bool :=
  modules.contains (Import.withoutScheme i.source) || modules.contains i.package

def ofImports (imports : List Import) : Needs :=
  let external := imports.filter fun i => !i.isRelative
  ⟨external.any (isListed fileSystemModules), external.any (isListed networkModules),
    external.any (isListed databaseModules)⟩

end Needs

/-! ### Errors -/

inductive ErrorKind where
  | configuration
  | validation
  | initialization
  | execution
  | resource
  | timeout
  | permission
  | notFound
  | network
  | fileSystem
  | database
  | resourceExhausted
  | fatal
  | unknown
  deriving DecidableEq, Repr

namespace ErrorKind

def code : ErrorKind → String
  | configuration => "CONFIGURATION_ERROR"
  | validation => "VALIDATION_ERROR"
  | initialization => "INITIALIZATION_ERROR"
  | execution => "EXECUTION_ERROR"
  | resource => "RESOURCE_ERROR"
  | timeout => "TIMEOUT_ERROR"
  | permission => "PERMISSION_ERROR"
  | notFound => "NOT_FOUND_ERROR"
  | network => "NETWORK_ERROR"
  | fileSystem => "FILE_SYSTEM_ERROR"
  | database => "DATABASE_ERROR"
  | resourceExhausted => "RESOURCE_EXHAUSTED"
  | fatal => "FATAL_ERROR"
  | unknown => "UNKNOWN_ERROR"

def className : ErrorKind → String
  | configuration => "ConfigurationError"
  | validation => "ValidationError"
  | initialization => "InitializationError"
  | execution => "ExecutionError"
  | resource => "ResourceError"
  | timeout => "TimeoutError"
  | permission => "PermissionError"
  | notFound => "NotFoundError"
  | network => "NetworkError"
  | fileSystem => "FileSystemError"
  | database => "DatabaseError"
  | resourceExhausted => "ResourceExhaustedError"
  | fatal => "FatalError"
  | unknown => "UnknownError"

def description : ErrorKind → String
  | configuration => "Invalid or missing configuration"
  | validation => "Input failed validation"
  | initialization => "Service could not be initialized"
  | execution => "Operation failed while executing"
  | resource => "A required resource is unavailable"
  | timeout => "Operation exceeded its time limit"
  | permission => "Operation is not permitted"
  | notFound => "Requested item does not exist"
  | network => "Network request failed"
  | fileSystem => "File system operation failed"
  | database => "Database operation failed"
  | resourceExhausted => "A resource limit was reached"
  | fatal => "Unrecoverable failure"
  | unknown => "Unclassified failure"

def base : List ErrorKind :=
  [configuration, validation, initialization, execution, resource, timeout, permission, notFound]

def ofNeeds (n : Needs) : List ErrorKind :=
  (if n.network then [network] else []) ++ (if n.fileSystem then [fileSystem] else []) ++
    (if n.database then [database] else [])

def catchAll : List ErrorKind := [resourceExhausted, fatal, unknown]

def all (n : Needs) : List ErrorKind := base ++ ofNeeds n ++ catchAll

theorem length_base_le_all (n : Needs) : base.length ≤ (all n).length := by
  simp only [all, List.length_append]
  omega

end ErrorKind
end ServiceCapsule
