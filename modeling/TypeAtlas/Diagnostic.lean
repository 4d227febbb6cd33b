import TypeAtlas.Data.Json

/-!
Diagnostics: what goes wrong with settings, programs and queries, each with a code, a message and
details for a reader or a machine.
-/

namespace TypeAtlas

inductive ErrorCode where
  | configParse
  | configInvalidValue
  | configMissingRequired
  | configFileNotFound
  | missingDeclaration
  | missingSignature
  | danglingRefs
  | queryFailed
  | unknownNode
  | internal
deriving DecidableEq, Repr, Inhabited

namespace ErrorCode

def number : ErrorCode → Nat
  | configParse => 2001
  | configInvalidValue => 2002
  | configMissingRequired => 2003
  | configFileNotFound => 2004
  | missingDeclaration => 3001
  | missingSignature => 3002
  | danglingRefs => 3003
  | queryFailed => 4001
  | unknownNode => 4002
  | internal => 9001

def name : ErrorCode → String
  | configParse => "CONFIG_PARSE_ERROR"
  | configInvalidValue => "CONFIG_INVALID_VALUE"
  | configMissingRequired => "CONFIG_MISSING_REQUIRED"
  | configFileNotFound => "CONFIG_FILE_NOT_FOUND"
  | missingDeclaration => "EXTRACT_MISSING_DECLARATION"
  | missingSignature => "EXTRACT_MISSING_SIGNATURE"
  | danglingRefs => "EXTRACT_DANGLING_REFS"
  | queryFailed => "ORACLE_QUERY_FAILED"
  | unknownNode => "ORACLE_UNKNOWN_NODE"
  | internal => "INTERNAL_ERROR"

def all : List ErrorCode :=
  [configParse, configInvalidValue, configMissingRequired, configFileNotFound, missingDeclaration,
   missingSignature, danglingRefs, queryFailed, unknownNode, internal]

def ofNumber? (n : Int) : Option ErrorCode := all.find? fun code => (code.number : Int) == n

end ErrorCode

inductive Concern where
  | general
  | settings
  | extraction
  | query
  | internal
deriving DecidableEq, Repr, Inhabited

/-- The message is mostly a text and the details a map, but any data will do. -/
structure Diagnostic where
  concern : Concern
  code : ErrorCode
  message : Data
  retryable : Data := .bool false
  details : Data := .map []
deriving Inhabited

namespace Diagnostic

def text (d : Diagnostic) : String :=
  "[" ++ toString d.code.number ++ "] " ++ d.code.name ++ ": " ++ d.message.plain

def toData (d : Diagnostic) : Data :=
  .map [("code", .int d.code.number), ("error", .text d.code.name), ("message", d.message),
    ("retryable", d.retryable), ("details", d.details)]

instance : Coe String Data := ⟨.text⟩

def parseFailed (path reason : Data) : Diagnostic :=
  { concern := .settings, code := .configParse
    message := .text ("Failed to parse config at " ++ path.plain ++ ": " ++ reason.plain)
    details := .map [("path", path), ("reason", reason)] }

def invalidValue (field value reason : Data) : Diagnostic :=
  { concern := .settings, code := .configInvalidValue
    message := .text ("Invalid value for '" ++ field.plain ++ "': " ++ reason.plain)
    details := .map [("field", field), ("value", .text value.plain), ("reason", reason)] }

def missingRequired (field : Data) : Diagnostic :=
  { concern := .settings, code := .configMissingRequired
    message := .text ("Missing required config field: " ++ field.plain)
    details := .map [("field", field)] }

def fileNotFound (path : Data) : Diagnostic :=
  { concern := .settings, code := .configFileNotFound
    message := .text ("Config file not found: " ++ path.plain)
    details := .map [("path", path)] }

def missingDeclaration (name what : Data) : Diagnostic :=
  { concern := .extraction, code := .missingDeclaration
    message := .text ("'" ++ name.plain ++ "' has no " ++ what.plain)
    details := .map [("name", name), ("missing", what)] }

def missingSignature (name : Data) : Diagnostic :=
  { concern := .extraction, code := .missingSignature
    message := .text ("Function '" ++ name.plain ++ "' has no call signature")
    details := .map [("name", name)] }

def danglingRefs (names : List String) : Diagnostic :=
  { concern := .extraction, code := .danglingRefs
    message := .text ("Unresolved references: " ++ ", ".intercalate names)
    details := .map [("names", .texts names)] }

def queryFailed (query reason : Data) : Diagnostic :=
  { concern := .query, code := .queryFailed
    message := .text ("Oracle query '" ++ query.plain ++ "' failed: " ++ reason.plain)
    details := .map [("query", query), ("reason", reason)] }

def unknownNode (query node : Data) : Diagnostic :=
  { concern := .query, code := .unknownNode
    message := .text ("Oracle query '" ++ query.plain ++ "' cannot resolve " ++ node.plain)
    details := .map [("query", query), ("node", node)] }

def unexpected (reason : Data) (details : Table String Data) : Diagnostic :=
  { concern := .internal, code := .internal
    message := .text ("Internal error: " ++ reason.plain)
    details := .map details }

end Diagnostic

end TypeAtlas
