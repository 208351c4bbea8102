import EsqlAudit.Comment.Basic

/-!
The header of a file: the comment it starts with, and the facts about the file that are written there.
-/
namespace EsqlAudit.Comment
open Text

/-- The facts that a header may state; a fact that is not stated is empty. -/
structure Header where
  title : List Char
  description : List Char
  author : List Char
  date : List Char
  version : List Char

def Header.none : Header := ⟨[], [], [], [], []⟩

/-- The line comments before the first line of code, without their marks. Preprocessor lines are passed
over, and a block comment ends the header. -/
def leadingLines : List (List Char) → List (List Char)
  | [] => []
  | line :: rest =>
    let s := strip line
    if "//".toList.isPrefixOf s then strip (s.drop 2) :: leadingLines rest
    else if "/*".toList.isPrefixOf s then []
    else if s.isEmpty || s.head? == some '#' then leadingLines rest
    else []

/-- The text of the header: the block comment that the file starts with, or else its first line
comments. -/
def headerText (source : List Char) : List Char :=
  let trimmed := stripLeft source
  match blockPattern.atStart? trimmed with
  | some o => o.groupText trimmed 1
  | none => joinWith ['\n'] (leadingLines (lines source))

/-- The start of a header line: blanks, a star perhaps, and blanks. -/
def margin : Pattern :=
  .all [.blanks, .optional (.exactly "*"), .blanks]

/-- A label with a colon, and the rest of the line: group 1. -/
def labelPattern (labels : List String) : Pattern :=
  .all [.lineStart, margin, .any (labels.map .word), .blanks, .exactly ":", .blanks,
    .group 1 (.many1 notNewline), .lineEnd]

/-- A file name with its ending (group 1), a dash and some text. -/
def fileNamePattern : Pattern :=
  .all [.lineStart, margin, .group 1 (.seq (.many1 notNewline) (.exactly ".pc")), .blanks,
    .one (fun c => c == '-' || c == '–'), .blanks, .many1 notNewline, .lineEnd]

/-- A text without the stars it starts with and the blanks after them. -/
def dropStars (s : List Char) : List Char :=
  if s.head? == some '*' then stripLeft (s.dropWhile (· == '*')) else s

/-- The fact that the first of the patterns which occurs gives, empty if none does. -/
def fact (header : List Char) (patterns : List Pattern) : List Char :=
  match patterns.findSome? fun p => p.find? header with
  | some o => dropStars (strip (o.groupText header 1))
  | none => []

/-- The facts that the header states by labels. -/
def labeled (header : List Char) : Header where
  title := fact header [labelPattern ["Module", "File", "Fichier", "Programme"], fileNamePattern]
  description := fact header [labelPattern ["Description", "Desc", "Purpose", "But"]]
  author := fact header [labelPattern ["Author", "Auteur", "Created by", "Créé par"]]
  date := fact header [labelPattern ["Date", "Created", "Créé le", "Modified", "Modifié"]]
  version := fact header [labelPattern ["Version", "Ver", "Rev", "Revision"]]

/-- A header line without its margin. -/
def content (line : List Char) : List Char :=
  let rest := stripLeft line
  strip (if rest.head? == some '*' then rest.drop 1 else rest)

/-- The title of a header that does not label it: the first line with more than three characters. -/
def plainTitle (header : List Char) : List Char :=
  (((lines header).map content).find? fun l => 3 < l.length).getD []

/-- Whether a line labels the author, the date, the version or the file. -/
def isLabelLine (line : List Char) : Bool :=
  line.contains ':' &&
    ["author", "date", "version", "file"].any fun k => contains k.toList (lower line)

/-- The lines of the description: those after the title, or all of them where there is no title. A label
line ends the description until the title comes again. -/
def descriptionLines (title : List Char) : Bool → List (List Char) → List (List Char)
  | _, [] => []
  | inside, line :: rest =>
    if isLabelLine line then descriptionLines title false rest
    else if line.isEmpty || line.head? == some '*' then descriptionLines title inside rest
    else if !title.isEmpty && line == title then descriptionLines title true rest
    else if inside || title.isEmpty then line :: descriptionLines title inside rest
    else descriptionLines title inside rest

/-- The description of a header that does not label it: its first three lines. -/
def plainDescription (title header : List Char) : List Char :=
  joinWith [' '] ((descriptionLines title false ((lines header).map content)).take 3)

/-- The facts of a file's header. -/
def header (source : List Char) : Header :=
  let text := headerText source
  if text.isEmpty then Header.none
  else
    let h := labeled text
    let title := if h.title.isEmpty then plainTitle text else h.title
    let description :=
      if h.description.isEmpty then plainDescription title text else h.description
    { h with title, description }

end EsqlAudit.Comment
