import EsqlAudit.Comment.Header
import EsqlAudit.Files.Path
import EsqlAudit.Json.Value

/-!
Modules: source files with what their headers say and what they include.
-/
namespace EsqlAudit.Comment
open Text Files

structure Module where
  filepath : String
  filename : String
  directory : String
  title : String
  description : String
  author : String
  date : String
  version : String
  includes : List String
  sqlIncludes : List String
  tags : List (String × String)

/-- An `#include` line; group 1 is the file. -/
def includePattern : Pattern :=
  .all [.exactly "#include", .blanks, .one (fun c => c == '<' || c == '"'),
    .group 1 (.many1 fun c => c != '>' && c != '"'), .one (fun c => c == '>' || c == '"')]

/-- An `EXEC SQL INCLUDE` statement; group 1 is the file. -/
def sqlIncludePattern : Pattern :=
  .all [.word "EXEC", .blanks1, .word "SQL", .blanks1, .word "INCLUDE", .blanks1, .group 1 .word1]

/-- The files that a pattern names, each once, in the order of first appearance. -/
def namedFiles (source : List Char) (p : Pattern) : List String :=
  ((p.findAll source).map fun o => String.ofList (o.groupText source 1)).eraseDups

namespace Module

/-- The module of a source file. -/
def ofSource (source : List Char) (filepath : String) : Module :=
  let path := Path.ofText (if filepath.isEmpty then "unknown.pc".toList else filepath.toList)
  let h := header source
  { filepath := String.ofList path.text
    filename := String.ofList path.name
    directory := String.ofList path.parent.name
    title := String.ofList h.title
    description := String.ofList h.description
    author := String.ofList h.author
    date := String.ofList h.date
    version := String.ofList h.version
    includes := namedFiles source includePattern
    sqlIncludes := namedFiles source sqlIncludePattern
    tags := [] }

/-- The module as it stands in a report. -/
def toRecord (m : Module) : Record :=
  [("filepath", .str m.filepath), ("filename", .str m.filename), ("directory", .str m.directory),
   ("title", .str m.title), ("description", .str m.description), ("author", .str m.author),
   ("date", .str m.date), ("version", .str m.version), ("includes", .ofStrings m.includes),
   ("exec_sql_includes", .ofStrings m.sqlIncludes),
   ("tags", .obj (m.tags.map fun (k, v) => (k, .str v)))]

end Module

end EsqlAudit.Comment
