/-!
# Causes of failure

What can go wrong between reading a routine's signature and formatting the generated file,
and how each cause is worded.
-/
namespace RoutineBindings

inductive DatabaseError where
  | connection (message cause : String)
  | query (message : String)
  deriving Repr, DecidableEq

namespace DatabaseError

def message : DatabaseError → String
  | .connection message cause =>
    "Database connection error: " ++ message ++ " (cause: " ++ cause ++ ")"
  | .query message => "Query execution error: " ++ message

def isConnection : DatabaseError → Bool
  | .connection .. => true
  | _ => false

def isQuery : DatabaseError → Bool
  | .query .. => true
  | _ => false

end DatabaseError

inductive IntrospectionError where
  | notFound (schema name : String)
  | invalidName (name reason : String)
  | malformedArgument (segment : String)
  | database (error : DatabaseError)
  deriving Repr, DecidableEq

namespace IntrospectionError

def message : IntrospectionError → String
  | .notFound schema name => "Function not found: " ++ schema ++ "." ++ name
  | .invalidName name reason => "Invalid function name '" ++ name ++ "': " ++ reason
  | .malformedArgument segment => "Invalid type in argument: " ++ segment
  | .database e => e.message

def isNotFound : IntrospectionError → Bool
  | .notFound .. => true
  | _ => false

def isInvalidName : IntrospectionError → Bool
  | .invalidName .. => true
  | _ => false

def isMalformedArgument : IntrospectionError → Bool
  | .malformedArgument .. => true
  | _ => false

def isDatabase : IntrospectionError → Bool
  | .database .. => true
  | _ => false

end IntrospectionError

inductive FileError where
  | write (path cause : String)
  | createDirectory (path cause : String)
  deriving Repr, DecidableEq

namespace FileError

def message : FileError → String
  | .write path cause => "Failed to write file: " ++ path ++ " (cause: " ++ cause ++ ")"
  | .createDirectory path cause =>
    "Failed to create directory: " ++ path ++ " (cause: " ++ cause ++ ")"

def isWrite : FileError → Bool
  | .write .. => true
  | _ => false

def isCreateDirectory : FileError → Bool
  | .createDirectory .. => true
  | _ => false

end FileError

inductive FormatterError where
  /-- The program could not be started. -/
  | spawn (program cause : String)
  /-- The program ran and did not succeed. -/
  | failed (program status output : String)
  deriving Repr, DecidableEq

namespace FormatterError

def message : FormatterError → String
  | .spawn program cause => "Failed to run formatter '" ++ program ++ "': " ++ cause
  | .failed program status output =>
    "Formatter '" ++ program ++ "' failed (" ++ status ++ "):\n" ++ output

def isSpawn : FormatterError → Bool
  | .spawn .. => true
  | _ => false

def isFailed : FormatterError → Bool
  | .failed .. => true
  | _ => false

/-- What a formatter that did not succeed printed. -/
def output? : FormatterError → Option String
  | .spawn .. => none
  | .failed _ _ output => some output

end FormatterError

inductive GenerateError where
  | introspection (error : IntrospectionError)
  | file (error : FileError)
  | formatter (error : FormatterError)
  | noRoutines
  deriving Repr, DecidableEq

def GenerateError.message : GenerateError → String
  | .introspection e => e.message
  | .file e => e.message
  | .formatter e => e.message
  | .noRoutines => "No functions to generate"

end RoutineBindings
