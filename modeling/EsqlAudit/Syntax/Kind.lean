/-!
Kinds of syntax tree nodes. The kinds that some analysis asks for have a name of their own; every other
node, a punctuation mark for instance, is told by the text of its kind.
-/
namespace EsqlAudit.Syntax

inductive Kind where
  | unit | functionDefinition | functionDeclarator | pointerDeclarator
  | parenthesizedDeclarator | parameterList | parameterDeclaration | identifier
  | statementIdentifier | primitiveType | typeIdentifier | sizedTypeSpecifier | compoundStatement
  | ifStatement | elseClause | whileStatement | forStatement | doStatement | switchStatement
  | caseStatement | catchClause | gotoStatement | breakStatement | continueStatement
  | returnStatement | expressionStatement | declaration | commaExpression | assignmentExpression
  | conditionalExpression | binaryExpression | unaryExpression | updateExpression
  | pointerExpression | sizeofExpression | castExpression | callExpression | subscriptExpression
  | fieldExpression | parenthesizedExpression | numberLiteral | stringLiteral | charLiteral
  | error
  /-- Any other kind, by its name. -/
  | other (name : String)
deriving DecidableEq, Repr

namespace Kind

/-- The kinds with a name of their own. -/
def named : List (Kind × String) :=
  [(.unit, "translation_unit"),
   (.functionDefinition, "function_definition"),
   (.functionDeclarator, "function_declarator"),
   (.pointerDeclarator, "pointer_declarator"),
   (.parenthesizedDeclarator, "parenthesized_declarator"),
   (.parameterList, "parameter_list"),
   (.parameterDeclaration, "parameter_declaration"),
   (.identifier, "identifier"),
   (.statementIdentifier, "statement_identifier"),
   (.primitiveType, "primitive_type"),
   (.typeIdentifier, "type_identifier"),
   (.sizedTypeSpecifier, "sized_type_specifier"),
   (.compoundStatement, "compound_statement"),
   (.ifStatement, "if_statement"),
   (.elseClause, "else_clause"),
   (.whileStatement, "while_statement"),
   (.forStatement, "for_statement"),
   (.doStatement, "do_statement"),
   (.switchStatement, "switch_statement"),
   (.caseStatement, "case_statement"),
   (.catchClause, "catch_clause"),
   (.gotoStatement, "goto_statement"),
   (.breakStatement, "break_statement"),
   (.continueStatement, "continue_statement"),
   (.returnStatement, "return_statement"),
   (.expressionStatement, "expression_statement"),
   (.declaration, "declaration"),
   (.commaExpression, "comma_expression"),
   (.assignmentExpression, "assignment_expression"),
   (.conditionalExpression, "conditional_expression"),
   (.binaryExpression, "binary_expression"),
   (.unaryExpression, "unary_expression"),
   (.updateExpression, "update_expression"),
   (.pointerExpression, "pointer_expression"),
   (.sizeofExpression, "sizeof_expression"),
   (.castExpression, "cast_expression"),
   (.callExpression, "call_expression"),
   (.subscriptExpression, "subscript_expression"),
   (.fieldExpression, "field_expression"),
   (.parenthesizedExpression, "parenthesized_expression"),
   (.numberLiteral, "number_literal"),
   (.stringLiteral, "string_literal"),
   (.charLiteral, "char_literal"),
   (.error, "ERROR")]

/-- The name of a kind. -/
def name : Kind → String
  | unit => "translation_unit"
  | functionDefinition => "function_definition"
  | functionDeclarator => "function_declarator"
  | pointerDeclarator => "pointer_declarator"
  | parenthesizedDeclarator => "parenthesized_declarator"
  | parameterList => "parameter_list"
  | parameterDeclaration => "parameter_declaration"
  | identifier => "identifier"
  | statementIdentifier => "statement_identifier"
  | primitiveType => "primitive_type"
  | typeIdentifier => "type_identifier"
  | sizedTypeSpecifier => "sized_type_specifier"
  | compoundStatement => "compound_statement"
  | ifStatement => "if_statement"
  | elseClause => "else_clause"
  | whileStatement => "while_statement"
  | forStatement => "for_statement"
  | doStatement => "do_statement"
  | switchStatement => "switch_statement"
  | caseStatement => "case_statement"
  | catchClause => "catch_clause"
  | gotoStatement => "goto_statement"
  | breakStatement => "break_statement"
  | continueStatement => "continue_statement"
  | returnStatement => "return_statement"
  | expressionStatement => "expression_statement"
  | declaration => "declaration"
  | commaExpression => "comma_expression"
  | assignmentExpression => "assignment_expression"
  | conditionalExpression => "conditional_expression"
  | binaryExpression => "binary_expression"
  | unaryExpression => "unary_expression"
  | updateExpression => "update_expression"
  | pointerExpression => "pointer_expression"
  | sizeofExpression => "sizeof_expression"
  | castExpression => "cast_expression"
  | callExpression => "call_expression"
  | subscriptExpression => "subscript_expression"
  | fieldExpression => "field_expression"
  | parenthesizedExpression => "parenthesized_expression"
  | numberLiteral => "number_literal"
  | stringLiteral => "string_literal"
  | charLiteral => "char_literal"
  | error => "ERROR"
  | other n => n

/-- The kind of a name. -/
def ofName (n : String) : Kind :=
  ((named.find? (·.2 == n)).map (·.1)).getD (.other n)

end Kind

end EsqlAudit.Syntax
