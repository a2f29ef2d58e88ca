/-!
# Construct kinds

The closed vocabulary of grammar constructs that the analysis inspects. Grammars spell some
constructs in more than one way; `Kind.ofName` folds those spellings together and sends every
name it does not know to `Kind.other`.

* `Kind.spelling` is the canonical spelling of a kind and `Kind.ofSpelling?` reads it back;
* `Kind.ofName` classifies the name that a grammar gives to a node.
-/

namespace SnippetTutor

/-- A construct of the grammars, or `other` for one that no analysis looks at. -/
inductive Kind where
  | program
  | error
  | comment
  | identifier
  | propertyIdentifier
  | privatePropertyIdentifier
  | shorthandPropertyIdentifier
  | shorthandPropertyIdentifierPattern
  | thisKeyword
  | superKeyword
  | importKeyword
  | nullLiteral
  | undefinedLiteral
  | trueLiteral
  | falseLiteral
  | number
  | string
  | templateString
  | templateSubstitution
  | regex
  | regexPattern
  | regexFlags
  | array
  | object
  | pair
  | computedPropertyName
  | spreadElement
  | objectPattern
  | arrayPattern
  | pairPattern
  | objectAssignmentPattern
  | assignmentPattern
  | restPattern
  | variableDeclaration
  | lexicalDeclaration
  | variableDeclarator
  | functionDeclaration
  | functionExpression
  | arrowFunction
  | methodDefinition
  | formalParameters
  | requiredParameter
  | optionalParameter
  | classDeclaration
  | classExpression
  | classHeritage
  | classBody
  | fieldDefinition
  | callExpression
  | newExpression
  | arguments
  | memberExpression
  | subscriptExpression
  | assignmentExpression
  | augmentedAssignmentExpression
  | binaryExpression
  | unaryExpression
  | updateExpression
  | ternaryExpression
  | parenthesizedExpression
  | sequenceExpression
  | awaitExpression
  | importStatement
  | importClause
  | namedImports
  | namespaceImport
  | exportStatement
  | exportClause
  | statementBlock
  | expressionStatement
  | emptyStatement
  | ifStatement
  | elseClause
  | forStatement
  | forInStatement
  | whileStatement
  | doStatement
  | switchStatement
  | switchBody
  | switchCase
  | switchDefault
  | tryStatement
  | catchClause
  | finallyClause
  | throwStatement
  | returnStatement
  | breakStatement
  | continueStatement
  | jsxElement
  | jsxSelfClosingElement
  | jsxOpeningElement
  | jsxClosingElement
  | jsxAttribute
  | jsxExpression
  | jsxText
  | jsxFragment
  | typeAscription
  | typeArguments
  | typeParameters
  | interfaceDeclaration
  | typeAliasDeclaration
  | enumDeclaration
  | asExpression
  | satisfiesExpression
  | nonNullExpression
  | accessibilityModifier
  | other
  deriving DecidableEq, Repr

namespace Kind

/-- The canonical spelling of a kind. -/
def spelling : Kind → String
  | program => "program"
  | error => "ERROR"
  | comment => "comment"
  | identifier => "identifier"
  | propertyIdentifier => "property_identifier"
  | privatePropertyIdentifier => "private_property_identifier"
  | shorthandPropertyIdentifier => "shorthand_property_identifier"
  | shorthandPropertyIdentifierPattern => "shorthand_property_identifier_pattern"
  | thisKeyword => "this"
  | superKeyword => "super"
  | importKeyword => "import"
  | nullLiteral => "null"
  | undefinedLiteral => "undefined"
  | trueLiteral => "true"
  | falseLiteral => "false"
  | number => "number"
  | string => "string"
  | templateString => "template_string"
  | templateSubstitution => "template_substitution"
  | regex => "regex"
  | regexPattern => "regex_pattern"
  | regexFlags => "regex_flags"
  | array => "array"
  | object => "object"
  | pair => "pair"
  | computedPropertyName => "computed_property_name"
  | spreadElement => "spread_element"
  | objectPattern => "object_pattern"
  | arrayPattern => "array_pattern"
  | pairPattern => "pair_pattern"
  | objectAssignmentPattern => "object_assignment_pattern"
  | assignmentPattern => "assignment_pattern"
  | restPattern => "rest_pattern"
  | variableDeclaration => "variable_declaration"
  | lexicalDeclaration => "lexical_declaration"
  | variableDeclarator => "variable_declarator"
  | functionDeclaration => "function_declaration"
  | functionExpression => "function_expression"
  | arrowFunction => "arrow_function"
  | methodDefinition => "method_definition"
  | formalParameters => "formal_parameters"
  | requiredParameter => "required_parameter"
  | optionalParameter => "optional_parameter"
  | classDeclaration => "class_declaration"
  | classExpression => "class"
  | classHeritage => "class_heritage"
  | classBody => "class_body"
  | fieldDefinition => "field_definition"
  | callExpression => "call_expression"
  | newExpression => "new_expression"
  | arguments => "arguments"
  | memberExpression => "member_expression"
  | subscriptExpression => "subscript_expression"
  | assignmentExpression => "assignment_expression"
  | augmentedAssignmentExpression => "augmented_assignment_expression"
  | binaryExpression => "binary_expression"
  | unaryExpression => "unary_expression"
  | updateExpression => "update_expression"
  | ternaryExpression => "ternary_expression"
  | parenthesizedExpression => "parenthesized_expression"
  | sequenceExpression => "sequence_expression"
  | awaitExpression => "await_expression"
  | importStatement => "import_statement"
  | importClause => "import_clause"
  | namedImports => "named_imports"
  | namespaceImport => "namespace_import"
  | exportStatement => "export_statement"
  | exportClause => "export_clause"
  | statementBlock => "statement_block"
  | expressionStatement => "expression_statement"
  | emptyStatement => "empty_statement"
  | ifStatement => "if_statement"
  | elseClause => "else_clause"
  | forStatement => "for_statement"
  | forInStatement => "for_in_statement"
  | whileStatement => "while_statement"
  | doStatement => "do_statement"
  | switchStatement => "switch_statement"
  | switchBody => "switch_body"
  | switchCase => "switch_case"
  | switchDefault => "switch_default"
  | tryStatement => "try_statement"
  | catchClause => "catch_clause"
  | finallyClause => "finally_clause"
  | throwStatement => "throw_statement"
  | returnStatement => "return_statement"
  | breakStatement => "break_statement"
  | continueStatement => "continue_statement"
  | jsxElement => "jsx_element"
  | jsxSelfClosingElement => "jsx_self_closing_element"
  | jsxOpeningElement => "jsx_opening_element"
  | jsxClosingElement => "jsx_closing_element"
  | jsxAttribute => "jsx_attribute"
  | jsxExpression => "jsx_expression"
  | jsxText => "jsx_text"
  | jsxFragment => "jsx_fragment"
  | typeAscription => "type_annotation"
  | typeArguments => "type_arguments"
  | typeParameters => "type_parameters"
  | interfaceDeclaration => "interface_declaration"
  | typeAliasDeclaration => "type_alias_declaration"
  | enumDeclaration => "enum_declaration"
  | asExpression => "as_expression"
  | satisfiesExpression => "satisfies_expression"
  | nonNullExpression => "non_null_expression"
  | accessibilityModifier => "accessibility_modifier"
  | other => "<other>"

/-- Every kind, in the order of declaration. -/
def all : List Kind :=
  [.program, .error, .comment, .identifier, .propertyIdentifier, .privatePropertyIdentifier,
   .shorthandPropertyIdentifier, .shorthandPropertyIdentifierPattern, .thisKeyword,
   .superKeyword, .importKeyword, .nullLiteral, .undefinedLiteral, .trueLiteral, .falseLiteral,
   .number, .string, .templateString, .templateSubstitution, .regex, .regexPattern, .regexFlags,
   .array, .object, .pair, .computedPropertyName, .spreadElement, .objectPattern, .arrayPattern,
   .pairPattern, .objectAssignmentPattern, .assignmentPattern, .restPattern,
   .variableDeclaration, .lexicalDeclaration, .variableDeclarator, .functionDeclaration,
   .functionExpression, .arrowFunction, .methodDefinition, .formalParameters, .requiredParameter,
   .optionalParameter, .classDeclaration, .classExpression, .classHeritage, .classBody,
   .fieldDefinition, .callExpression, .newExpression, .arguments, .memberExpression,
   .subscriptExpression, .assignmentExpression, .augmentedAssignmentExpression,
   .binaryExpression, .unaryExpression, .updateExpression, .ternaryExpression,
   .parenthesizedExpression, .sequenceExpression, .awaitExpression, .importStatement,
   .importClause, .namedImports, .namespaceImport, .exportStatement, .exportClause,
   .statementBlock, .expressionStatement, .emptyStatement, .ifStatement, .elseClause,
   .forStatement, .forInStatement, .whileStatement, .doStatement, .switchStatement, .switchBody,
   .switchCase, .switchDefault, .tryStatement, .catchClause, .finallyClause, .throwStatement,
   .returnStatement, .breakStatement, .continueStatement, .jsxElement, .jsxSelfClosingElement,
   .jsxOpeningElement, .jsxClosingElement, .jsxAttribute, .jsxExpression, .jsxText, .jsxFragment,
   .typeAscription, .typeArguments, .typeParameters, .interfaceDeclaration,
   .typeAliasDeclaration, .enumDeclaration, .asExpression, .satisfiesExpression,
   .nonNullExpression, .accessibilityModifier, .other]

/-- The kind with the given canonical spelling. -/
def ofSpelling? (text : String) : Option Kind :=
  all.find? fun kind => kind.spelling == text

/-- Spellings that mean the same construct as a canonical one. -/
def variants : List (String × Kind) :=
  [("function", .functionExpression),
   ("generator_function", .functionExpression),
   ("generator_function_declaration", .functionDeclaration),
   ("public_field_definition", .fieldDefinition),
   ("abstract_class_declaration", .classDeclaration)]

/-- The kind of a node with the given grammar name. -/
def ofName (name : String) : Kind :=
  ((ofSpelling? name).or (variants.lookup name)).getD .other

end Kind

end SnippetTutor
