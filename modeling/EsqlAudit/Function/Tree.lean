import EsqlAudit.Function.Basic
import EsqlAudit.Syntax.Program

/-!
Functions defined in a syntax tree. The declarator is looked for under the definition and under one
pointer; the name alone is then looked for under any number of pointers and parentheses.
-/
namespace EsqlAudit.Function
open Syntax

/-- The declarator of a definition: a child, or a child of a pointer among the children. -/
def declarator? (n : Node) : Option Node :=
  n.children.findSome? fun c =>
    if c.kind == .functionDeclarator then some c
    else if c.kind == .pointerDeclarator then c.child? .functionDeclarator
    else none

/-- The text of the first identifier among the children. -/
def identifierIn (p : Program) (n : Node) : Except Utf8.Fault (Option String) :=
  match n.child? .identifier with
  | some c => (p.nodeText c).map some
  | none => .ok none

/-- The names that a child of a parameter declaration gives. -/
def namesAt (c : Node) : List Node :=
  if c.kind == .identifier then [c]
  else if c.kind == .pointerDeclarator then c.children.filter (·.kind == .identifier)
  else []

/-- The names that a child of a parameter list gives. -/
def parameterNames (c : Node) : List Node :=
  if c.kind == .parameterDeclaration then c.children.flatMap namesAt else []

/-- The texts of the names that the children of a parameter list give. -/
def parameterTexts (p : Program) (cs : List Node) : Except Utf8.Fault (List String) :=
  (cs.flatMap parameterNames).mapM p.nodeText

/-- The names of the parameters in the first parameter list of a declarator. -/
def parametersIn (p : Program) (n : Node) : Except Utf8.Fault (List String) :=
  match n.child? .parameterList with
  | some list => parameterTexts p list.children
  | none => .ok []

/-- Whether a node names a type. -/
def isType (n : Node) : Bool :=
  n.kind == .primitiveType || n.kind == .typeIdentifier || n.kind == .sizedTypeSpecifier

/-- The type before the declarator, `void` if there is none. -/
def returnTypeIn (p : Program) (n : Node) : Except Utf8.Fault String :=
  match n.children.find? isType with
  | some c => p.nodeText c
  | none => .ok "void"

mutual
/-- The name of a function declared at any depth of pointers and parentheses below a node. -/
def deepName (p : Program) : Node → Except Utf8.Fault (Option String)
  | .mk _ _ _ children _ _ => deepNameAmong p children
/-- The name found first among some children. An empty name ends the search of one level only. -/
def deepNameAmong (p : Program) : List Node → Except Utf8.Fault (Option String)
  | [] => .ok none
  | c :: rest =>
    if c.kind == .functionDeclarator then
      match identifierIn p c with
      | .error e => .error e
      | .ok (some name) => .ok (some name)
      | .ok none => deepNameAmong p rest
    else if c.kind == .pointerDeclarator || c.kind == .parenthesizedDeclarator then
      match deepName p c with
      | .error e => .error e
      | .ok found =>
        if (found.getD "").isEmpty then deepNameAmong p rest else .ok found
    else deepNameAmong p rest
end

/-- The function of a definition, unless it has no name. -/
def ofDefinition (p : Program) (n : Node) : Except Utf8.Fault (Option Function) := do
  let declarator := declarator? n
  let name ← match declarator with
    | some d => identifierIn p d
    | none => pure none
  let parameters ← match declarator with
    | some d => parametersIn p d
    | none => pure []
  let returnType ← returnTypeIn p n
  let name ← if (name.getD "").isEmpty then deepName p n else pure name
  let name := name.getD ""
  if name.isEmpty then return none
  return some
    { name, startLine := p.lineOf n.start, endLine := p.lineOf n.stop, node := some n, parameters,
      returnType }

/-- The functions defined in the tree, in the order of the text. -/
def inTree (p : Program) : Except Utf8.Fault (List Function) :=
  ((p.nodes.filter (·.kind == .functionDefinition)).mapM (ofDefinition p)).map fun fs =>
    fs.filterMap id

end EsqlAudit.Function
