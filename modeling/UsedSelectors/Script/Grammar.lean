import UsedSelectors.Script.Lexical

/-!
# The grammar of scripts

JavaScript modules with JSX. The rules stand in the order of their numbers; a rule that is listed
in `grammar.inlined` or whose name starts with an underscore gives no node of its own.
-/

namespace UsedSelectors.Script

open Parsing Parsing.Rule

def rightAs (precedence : String) (r : Rule) : Rule := rightAssoc (.named precedence) r

def leftAs (precedence : String) (r : Rule) : Rule := leftAssoc (.named precedence) r

def right (r : Rule) : Rule := rightAssoc (.level 0) r

def nameOrReserved : Rule := oneOf [.ref "identifier", .ref "_reserved_identifier"]

def reservedAsName : Rule := shownAs "identifier" (.ref "_reserved_identifier")

def decorators : Rule := many (field "decorator" (.ref "decorator"))

def bindingTarget : Rule := oneOf [.ref "identifier", .ref "_destructuring_pattern"]

def moduleRules : List (String × Rule) := [
  ("program", .seq [optional (.ref "hash_bang_line"), many (.ref "statement")]),
  ("hash_bang_line", interpreterLine),
  ("export_statement", oneOf [
    .seq [.text "export",
      oneOf [
        .seq [.text "*", .ref "_from_clause"],
        .seq [.ref "namespace_export", .ref "_from_clause"],
        .seq [.ref "export_clause", .ref "_from_clause"],
        .ref "export_clause"],
      .ref "_semicolon"],
    .seq [decorators, .text "export",
      oneOf [
        field "declaration" (.ref "declaration"),
        .seq [.text "default",
          oneOf [
            field "declaration" (.ref "declaration"),
            .seq [field "value" (.ref "expression"), .ref "_semicolon"]]]]]]),
  ("namespace_export", .seq [.text "*", .text "as", .ref "_module_export_name"]),
  ("export_clause", .seq [.text "\x7b", commaSep (.ref "export_specifier"),
    optional (.text ","), .text "\x7d"]),
  ("export_specifier", .seq [field "name" (.ref "_module_export_name"),
    optional (.seq [.text "as", field "alias" (.ref "_module_export_name")])]),
  ("_module_export_name", oneOf [.ref "identifier", .ref "string"]),
  ("declaration", oneOf [.ref "function_declaration", .ref "generator_function_declaration",
    .ref "class_declaration", .ref "lexical_declaration", .ref "variable_declaration"]),
  ("import", token (.text "import")),
  ("import_statement", .seq [.text "import",
    oneOf [
      .seq [.ref "import_clause", .ref "_from_clause"],
      field "source" (.ref "string")],
    optional (.ref "import_attribute"), .ref "_semicolon"]),
  ("import_clause", oneOf [.ref "namespace_import", .ref "named_imports",
    .seq [.ref "identifier",
      optional (.seq [.text ",", oneOf [.ref "namespace_import", .ref "named_imports"]])]]),
  ("_from_clause", .seq [.text "from", field "source" (.ref "string")]),
  ("namespace_import", .seq [.text "*", .text "as", .ref "identifier"]),
  ("named_imports", .seq [.text "\x7b", commaSep (.ref "import_specifier"),
    optional (.text ","), .text "\x7d"]),
  ("import_specifier", oneOf [
    field "name" (.ref "identifier"),
    .seq [field "name" (.ref "_module_export_name"), .text "as",
      field "alias" (.ref "identifier")]]),
  ("import_attribute", .seq [.text "with", .ref "object"])]

def statementRules : List (String × Rule) := [
  ("statement", oneOf [.ref "export_statement", .ref "import_statement",
    .ref "debugger_statement", .ref "expression_statement", .ref "declaration",
    .ref "statement_block", .ref "if_statement", .ref "switch_statement", .ref "for_statement",
    .ref "for_in_statement", .ref "while_statement", .ref "do_statement", .ref "try_statement",
    .ref "with_statement", .ref "break_statement", .ref "continue_statement",
    .ref "return_statement", .ref "throw_statement", .ref "empty_statement",
    .ref "labeled_statement"]),
  ("expression_statement", .seq [.ref "_expressions", .ref "_semicolon"]),
  ("variable_declaration", .seq [.text "var", commaSep1 (.ref "variable_declarator"),
    .ref "_semicolon"]),
  ("lexical_declaration", .seq [field "kind" (oneOf [.text "let", .text "const"]),
    commaSep1 (.ref "variable_declarator"), .ref "_semicolon"]),
  ("variable_declarator", .seq [field "name" bindingTarget, optional (.ref "_initializer")]),
  ("statement_block", right (.seq [.text "\x7b", many (.ref "statement"), .text "\x7d",
    optional (.ref "_automatic_semicolon")])),
  ("else_clause", .seq [.text "else", .ref "statement"]),
  ("if_statement", right (.seq [.text "if",
    field "condition" (.ref "parenthesized_expression"),
    field "consequence" (.ref "statement"),
    optional (field "alternative" (.ref "else_clause"))])),
  ("switch_statement", .seq [.text "switch",
    field "value" (.ref "parenthesized_expression"), field "body" (.ref "switch_body")]),
  ("for_statement", .seq [.text "for", .text "(",
    oneOf [
      field "initializer" (oneOf [.ref "lexical_declaration", .ref "variable_declaration"]),
      .seq [field "initializer" (.ref "_expressions"), .text ";"],
      field "initializer" (.ref "empty_statement")],
    field "condition" (oneOf [.seq [.ref "_expressions", .text ";"], .ref "empty_statement"]),
    field "increment" (optional (.ref "_expressions")),
    .text ")", field "body" (.ref "statement")]),
  ("for_in_statement", .seq [.text "for", optional (.text "await"), .ref "_for_header",
    field "body" (.ref "statement")]),
  ("_for_header", .seq [.text "(",
    oneOf [
      field "left" (oneOf [.ref "_lhs_expression", .ref "parenthesized_expression"]),
      .seq [field "kind" (.text "var"), field "left" bindingTarget,
        optional (.ref "_initializer")],
      .seq [field "kind" (oneOf [.text "let", .text "const"]), field "left" bindingTarget,
        optional (.ref "_automatic_semicolon")]],
    field "operator" (oneOf [.text "in", .text "of"]),
    field "right" (.ref "_expressions"), .text ")"]),
  ("while_statement", .seq [.text "while",
    field "condition" (.ref "parenthesized_expression"), field "body" (.ref "statement")]),
  ("do_statement", right (.seq [.text "do", field "body" (.ref "statement"), .text "while",
    field "condition" (.ref "parenthesized_expression"), optional (.ref "_semicolon")])),
  ("try_statement", .seq [.text "try", field "body" (.ref "statement_block"),
    optional (field "handler" (.ref "catch_clause")),
    optional (field "finalizer" (.ref "finally_clause"))]),
  ("with_statement", .seq [.text "with", field "object" (.ref "parenthesized_expression"),
    field "body" (.ref "statement")]),
  ("break_statement", .seq [.text "break",
    field "label" (optional (shownAs "statement_identifier" (.ref "identifier"))),
    .ref "_semicolon"]),
  ("continue_statement", .seq [.text "continue",
    field "label" (optional (shownAs "statement_identifier" (.ref "identifier"))),
    .ref "_semicolon"]),
  ("debugger_statement", .seq [.text "debugger", .ref "_semicolon"]),
  ("return_statement", .seq [.text "return", optional (.ref "_expressions"),
    .ref "_semicolon"]),
  ("throw_statement", .seq [.text "throw", .ref "_expressions", .ref "_semicolon"]),
  ("empty_statement", .text ";"),
  ("labeled_statement", preferred (-1) (.seq [
    field "label" (shownAs "statement_identifier" nameOrReserved),
    .text ":", field "body" (.ref "statement")])),
  ("switch_body", .seq [.text "\x7b",
    many (oneOf [.ref "switch_case", .ref "switch_default"]), .text "\x7d"]),
  ("switch_case", .seq [.text "case", field "value" (.ref "_expressions"), .text ":",
    field "body" (many (.ref "statement"))]),
  ("switch_default", .seq [.text "default", .text ":",
    field "body" (many (.ref "statement"))]),
  ("catch_clause", .seq [.text "catch",
    optional (.seq [.text "(", field "parameter" bindingTarget, .text ")"]),
    field "body" (.ref "statement_block")]),
  ("finally_clause", .seq [.text "finally", field "body" (.ref "statement_block")]),
  ("parenthesized_expression", .seq [.text "(", .ref "_expressions", .text ")"])]

def expressionRules : List (String × Rule) := [
  ("_expressions", oneOf [.ref "expression", .ref "sequence_expression"]),
  ("expression", oneOf [.ref "primary_expression", .ref "_jsx_element",
    .ref "assignment_expression", .ref "augmented_assignment_expression",
    .ref "await_expression", .ref "unary_expression", .ref "binary_expression",
    .ref "ternary_expression", .ref "update_expression", .ref "new_expression",
    .ref "yield_expression"]),
  ("primary_expression", oneOf [.ref "subscript_expression", .ref "member_expression",
    .ref "parenthesized_expression", .ref "_identifier", reservedAsName, .ref "this",
    .ref "super", .ref "number", .ref "string", .ref "template_string", .ref "regex",
    .ref "true", .ref "false", .ref "null", .ref "object", .ref "array",
    .ref "function_expression", .ref "arrow_function", .ref "generator_function",
    .ref "class", .ref "meta_property", .ref "call_expression"]),
  ("yield_expression", right (.seq [.text "yield",
    oneOf [.seq [.text "*", .ref "expression"], optional (.ref "expression")]])),
  ("object", binds "object" (.seq [.text "\x7b",
    commaSep (optional (oneOf [.ref "pair", .ref "spread_element", .ref "method_definition",
      shownAs "shorthand_property_identifier" nameOrReserved])),
    .text "\x7d"])),
  ("object_pattern", binds "object" (.seq [.text "\x7b",
    commaSep (optional (oneOf [.ref "pair_pattern", .ref "rest_pattern",
      .ref "object_assignment_pattern",
      shownAs "shorthand_property_identifier_pattern" nameOrReserved])),
    .text "\x7d"])),
  ("assignment_pattern", .seq [field "left" (.ref "pattern"), .text "=",
    field "right" (.ref "expression")]),
  ("object_assignment_pattern", .seq [
    field "left" (oneOf [
      shownAs "shorthand_property_identifier_pattern"
        (oneOf [.ref "_reserved_identifier", .ref "identifier"]),
      .ref "_destructuring_pattern"]),
    .text "=", field "right" (.ref "expression")]),
  ("array", .seq [.text "[",
    commaSep (optional (oneOf [.ref "expression", .ref "spread_element"])), .text "]"]),
  ("array_pattern", .seq [.text "[",
    commaSep (optional (oneOf [.ref "pattern", .ref "assignment_pattern"])), .text "]"])]

def elementRules : List (String × Rule) := [
  ("_jsx_element", oneOf [.ref "jsx_element", .ref "jsx_self_closing_element"]),
  ("jsx_element", .seq [field "open_tag" (.ref "jsx_opening_element"),
    many (.ref "_jsx_child"), field "close_tag" (.ref "jsx_closing_element")]),
  ("html_character_reference", characterReference),
  ("jsx_expression", .seq [.text "\x7b",
    optional (oneOf [.ref "expression", .ref "sequence_expression", .ref "spread_element"]),
    .text "\x7d"]),
  ("_jsx_child", oneOf [.ref "jsx_text", .ref "html_character_reference", .ref "_jsx_element",
    .ref "jsx_expression"]),
  ("jsx_opening_element", preferred (-1) (.seq [.text "<",
    optional (.seq [field "name" (.ref "_jsx_element_name"),
      many (field "attribute" (.ref "_jsx_attribute"))]),
    .text ">"])),
  ("_jsx_identifier", oneOf [shownAs "identifier" (.ref "jsx_identifier"),
    .ref "identifier"]),
  ("jsx_identifier", hyphenName),
  ("nested_identifier", binds "member" (.seq [
    field "object" (oneOf [.ref "identifier",
      shownAs "member_expression" (.ref "nested_identifier")]),
    .text ".", field "property" (shownAs "property_identifier" (.ref "identifier"))])),
  ("jsx_namespace_name", .seq [.ref "_jsx_identifier", .text ":", .ref "_jsx_identifier"]),
  ("_jsx_element_name", oneOf [.ref "_jsx_identifier",
    shownAs "member_expression" (.ref "nested_identifier"), .ref "jsx_namespace_name"]),
  ("jsx_closing_element", .seq [.text "</",
    optional (field "name" (.ref "_jsx_element_name")), .text ">"]),
  ("jsx_self_closing_element", .seq [.text "<", field "name" (.ref "_jsx_element_name"),
    many (field "attribute" (.ref "_jsx_attribute")), .text "/>"]),
  ("_jsx_attribute", oneOf [.ref "jsx_attribute", .ref "jsx_expression"]),
  ("_jsx_attribute_name", oneOf [
    shownAs "property_identifier" (.ref "_jsx_identifier"), .ref "jsx_namespace_name"]),
  ("jsx_attribute", .seq [.ref "_jsx_attribute_name",
    optional (.seq [.text "=", .ref "_jsx_attribute_value"])]),
  ("_jsx_string", oneOf [
    .seq [.text "\"",
      many (oneOf [shownAs "string_fragment" (.ref "unescaped_double_jsx_string_fragment"),
        .ref "html_character_reference"]),
      .text "\""],
    .seq [.text "\x27",
      many (oneOf [shownAs "string_fragment" (.ref "unescaped_single_jsx_string_fragment"),
        .ref "html_character_reference"]),
      .text "\x27"]]),
  ("unescaped_double_jsx_string_fragment", attributeFragment '"'),
  ("unescaped_single_jsx_string_fragment", attributeFragment '\x27'),
  ("_jsx_attribute_value", oneOf [shownAs "string" (.ref "_jsx_string"),
    .ref "jsx_expression", .ref "_jsx_element"])]

def functionRules : List (String × Rule) := [
  ("class", binds "literal" (.seq [decorators, .text "class",
    field "name" (optional (.ref "identifier")), optional (.ref "class_heritage"),
    field "body" (.ref "class_body")])),
  ("class_declaration", binds "declare" (.seq [decorators, .text "class",
    field "name" (.ref "identifier"), optional (.ref "class_heritage"),
    field "body" (.ref "class_body"), optional (.ref "_automatic_semicolon")])),
  ("class_heritage", .seq [.text "extends", .ref "expression"]),
  ("function_expression", binds "literal" (.seq [optional (.text "async"), .text "function",
    field "name" (optional (.ref "identifier")), .ref "_call_signature",
    field "body" (.ref "statement_block")])),
  ("function_declaration", rightAs "declare" (.seq [optional (.text "async"),
    .text "function", field "name" (.ref "identifier"), .ref "_call_signature",
    field "body" (.ref "statement_block"), optional (.ref "_automatic_semicolon")])),
  ("generator_function", binds "literal" (.seq [optional (.text "async"), .text "function",
    .text "*", field "name" (optional (.ref "identifier")), .ref "_call_signature",
    field "body" (.ref "statement_block")])),
  ("generator_function_declaration", rightAs "declare" (.seq [optional (.text "async"),
    .text "function", .text "*", field "name" (.ref "identifier"), .ref "_call_signature",
    field "body" (.ref "statement_block"), optional (.ref "_automatic_semicolon")])),
  ("arrow_function", .seq [optional (.text "async"),
    oneOf [
      field "parameter" (oneOf [reservedAsName, .ref "identifier"]),
      .ref "_call_signature"],
    .text "=>", field "body" (oneOf [.ref "expression", .ref "statement_block"])]),
  ("_call_signature", field "parameters" (.ref "formal_parameters")),
  ("_formal_parameter", oneOf [.ref "pattern", .ref "assignment_pattern"])]

def binaryOperators : List (String × String) := [
  ("&&", "logical_and"), ("||", "logical_or"), (">>", "binary_shift"),
  (">>>", "binary_shift"), ("<<", "binary_shift"), ("&", "bitwise_and"),
  ("^", "bitwise_xor"), ("|", "bitwise_or"), ("+", "binary_plus"), ("-", "binary_plus"),
  ("*", "binary_times"), ("/", "binary_times"), ("%", "binary_times"), ("**", "binary_exp"),
  ("<", "binary_relation"), ("<=", "binary_relation"), ("==", "binary_equality"),
  ("===", "binary_equality"), ("!=", "binary_equality"), ("!==", "binary_equality"),
  (">=", "binary_relation"), (">", "binary_relation"), ("??", "ternary"),
  ("instanceof", "binary_relation"), ("in", "binary_relation")]

/-- Two expressions with an operator between; a private name may be looked for with `in`. -/
def binaryOperation (operator precedence : String) : Rule :=
  let left := if operator == "in" then
    oneOf [.ref "expression", .ref "private_property_identifier"] else .ref "expression"
  let operation := .seq [field "left" left, field "operator" (.text operator),
    field "right" (.ref "expression")]
  if operator == "**" then rightAs precedence operation else leftAs precedence operation

def assigningOperators : List String :=
  ["+=", "-=", "*=", "/=", "%=", "^=", "&=", "|=", ">>=", ">>>=", "<<=", "**=", "&&=", "||=",
    "??="]

def operationRules : List (String × Rule) := [
  ("optional_chain", .text "?."),
  ("call_expression", oneOf [
    binds "call" (.seq [
      field "function" (oneOf [.ref "expression", .ref "import"]),
      field "arguments" (.ref "arguments")]),
    binds "template_call" (.seq [
      field "function" (oneOf [.ref "primary_expression", .ref "new_expression"]),
      field "arguments" (.ref "template_string")]),
    binds "member" (.seq [
      field "function" (.ref "primary_expression"),
      field "optional_chain" (.ref "optional_chain"),
      field "arguments" (.ref "arguments")])]),
  ("new_expression", rightAs "new" (.seq [.text "new",
    field "constructor" (oneOf [.ref "primary_expression", .ref "new_expression"]),
    field "arguments" (optional (preferred 1 (.ref "arguments")))])),
  ("await_expression", binds "unary_void" (.seq [.text "await", .ref "expression"])),
  ("member_expression", binds "member" (.seq [
    field "object" (oneOf [.ref "expression", .ref "primary_expression", .ref "import"]),
    oneOf [.text ".", field "optional_chain" (.ref "optional_chain")],
    field "property" (oneOf [.ref "private_property_identifier",
      shownAs "property_identifier" (.ref "identifier")])])),
  ("subscript_expression", rightAs "member" (.seq [
    field "object" (oneOf [.ref "expression", .ref "primary_expression"]),
    optional (field "optional_chain" (.ref "optional_chain")),
    .text "[", field "index" (.ref "_expressions"), .text "]"])),
  ("_lhs_expression", oneOf [.ref "member_expression", .ref "subscript_expression",
    .ref "_identifier", reservedAsName, .ref "_destructuring_pattern"]),
  ("assignment_expression", rightAs "assign" (.seq [
    field "left" (oneOf [.ref "parenthesized_expression", .ref "_lhs_expression"]),
    .text "=", field "right" (.ref "expression")])),
  ("_augmented_assignment_lhs", oneOf [.ref "member_expression",
    .ref "subscript_expression", reservedAsName, .ref "identifier",
    .ref "parenthesized_expression"]),
  ("augmented_assignment_expression", rightAs "assign" (.seq [
    field "left" (.ref "_augmented_assignment_lhs"),
    field "operator" (oneOf (assigningOperators.map Rule.text)),
    field "right" (.ref "expression")])),
  ("_initializer", .seq [.text "=", field "value" (.ref "expression")]),
  ("_destructuring_pattern", oneOf [.ref "object_pattern", .ref "array_pattern"]),
  ("spread_element", .seq [.text "...", .ref "expression"]),
  ("ternary_expression", rightAs "ternary" (.seq [
    field "condition" (.ref "expression"), shownAsText "?" (.ref "_ternary_qmark"),
    field "consequence" (.ref "expression"), .text ":",
    field "alternative" (.ref "expression")])),
  ("binary_expression", oneOf (binaryOperators.map fun op => binaryOperation op.1 op.2)),
  ("unary_expression", leftAs "unary_void" (.seq [
    field "operator" (oneOf [.text "!", .text "~", .text "-", .text "+", .text "typeof",
      .text "void", .text "delete"]),
    field "argument" (.ref "expression")])),
  ("update_expression", leftAssoc (.level 0) (oneOf [
    .seq [field "argument" (.ref "expression"),
      field "operator" (oneOf [.text "++", .text "--"])],
    .seq [field "operator" (oneOf [.text "++", .text "--"]),
      field "argument" (.ref "expression")]])),
  ("sequence_expression", right (commaSep1 (.ref "expression")))]

def literalRules : List (String × Rule) := [
  ("string", oneOf [
    .seq [.text "\"",
      many (oneOf [shownAs "string_fragment" (.ref "unescaped_double_string_fragment"),
        .ref "escape_sequence"]),
      .text "\""],
    .seq [.text "\x27",
      many (oneOf [shownAs "string_fragment" (.ref "unescaped_single_string_fragment"),
        .ref "escape_sequence"]),
      .text "\x27"]]),
  ("unescaped_double_string_fragment", stringFragment '"'),
  ("unescaped_single_string_fragment", stringFragment '\x27'),
  ("escape_sequence", stringEscape),
  ("comment", comment),
  ("template_string", .seq [.text backquote,
    many (oneOf [shownAs "string_fragment" (.ref "_template_chars"), .ref "escape_sequence",
      .ref "template_substitution"]),
    .text backquote]),
  ("template_substitution", .seq [.text "$\x7b", .ref "_expressions", .text "\x7d"]),
  ("regex", .seq [.text "/", field "pattern" (.ref "regex_pattern"),
    immediate (bindsAt 1 (.text "/")), optional (field "flags" (.ref "regex_flags"))]),
  ("regex_pattern", regexPattern),
  ("regex_flags", regexFlags),
  ("number", number),
  ("_identifier", oneOf [.ref "undefined", .ref "identifier"]),
  ("identifier", name),
  ("private_property_identifier", privateName),
  ("meta_property", oneOf [.seq [.text "new", .text ".", .text "target"],
    .seq [.text "import", .text ".", .text "meta"]]),
  ("this", .text "this"),
  ("super", .text "super"),
  ("true", .text "true"),
  ("false", .text "false"),
  ("null", .text "null"),
  ("undefined", .text "undefined")]

def componentRules : List (String × Rule) := [
  ("arguments", .seq [.text "(",
    commaSep (optional (oneOf [.ref "expression", .ref "spread_element"])), .text ")"]),
  ("decorator", .seq [.text "@", oneOf [.ref "identifier",
    shownAs "member_expression" (.ref "decorator_member_expression"),
    shownAs "call_expression" (.ref "decorator_call_expression")]]),
  ("decorator_member_expression", binds "member" (.seq [
    field "object" (oneOf [.ref "identifier",
      shownAs "member_expression" (.ref "decorator_member_expression")]),
    .text ".", field "property" (shownAs "property_identifier" (.ref "identifier"))])),
  ("decorator_call_expression", binds "call" (.seq [
    field "function" (oneOf [.ref "identifier",
      shownAs "member_expression" (.ref "decorator_member_expression")]),
    field "arguments" (.ref "arguments")])),
  ("class_body", .seq [.text "\x7b",
    many (oneOf [
      .seq [field "member" (.ref "method_definition"), optional (.text ";")],
      .seq [field "member" (.ref "field_definition"), .ref "_semicolon"],
      field "member" (.ref "class_static_block"),
      .text ";"]),
    .text "\x7d"]),
  ("field_definition", .seq [decorators, optional (.text "static"),
    field "property" (.ref "_property_name"), optional (.ref "_initializer")]),
  ("formal_parameters", .seq [.text "(",
    optional (.seq [commaSep1 (.ref "_formal_parameter"), optional (.text ",")]),
    .text ")"]),
  ("class_static_block", .seq [.text "static", optional (.ref "_automatic_semicolon"),
    field "body" (.ref "statement_block")]),
  ("pattern", preferred (-1) (oneOf [.ref "_lhs_expression", .ref "rest_pattern"])),
  ("rest_pattern", right (.seq [.text "...", .ref "_lhs_expression"])),
  ("method_definition", .seq [decorators,
    optional (oneOf [.text "static", shownAsText "static get" staticGet]),
    optional (.text "async"),
    optional (oneOf [.text "get", .text "set", .text "*"]),
    field "name" (.ref "_property_name"),
    field "parameters" (.ref "formal_parameters"),
    field "body" (.ref "statement_block")]),
  ("pair", .seq [field "key" (.ref "_property_name"), .text ":",
    field "value" (.ref "expression")]),
  ("pair_pattern", .seq [field "key" (.ref "_property_name"), .text ":",
    field "value" (oneOf [.ref "pattern", .ref "assignment_pattern"])]),
  ("_property_name", oneOf [shownAs "property_identifier" nameOrReserved,
    .ref "private_property_identifier", .ref "string", .ref "number",
    .ref "computed_property_name"]),
  ("computed_property_name", .seq [.text "[", .ref "expression", .text "]"]),
  ("_reserved_identifier", oneOf [.text "get", .text "set", .text "async", .text "static",
    .text "export", .text "let"]),
  ("_semicolon", oneOf [.ref "_automatic_semicolon", .text ";"])]

def scannedTokens : List Rule :=
  [.ref "_automatic_semicolon", .ref "_template_chars", .ref "_ternary_qmark",
    .ref "html_comment", .text "||", .ref "escape_sequence", .ref "regex_pattern",
    .ref "jsx_text"]

def precedences : List (List Rank) := [
  [.precedence "member", .precedence "template_call", .precedence "call",
    .rule "update_expression", .precedence "unary_void", .precedence "binary_exp",
    .precedence "binary_times", .precedence "binary_plus", .precedence "binary_shift",
    .precedence "binary_compare", .precedence "binary_relation",
    .precedence "binary_equality", .precedence "bitwise_and", .precedence "bitwise_xor",
    .precedence "bitwise_or", .precedence "logical_and", .precedence "logical_or",
    .precedence "ternary", .rule "sequence_expression", .rule "arrow_function"],
  [.precedence "assign", .rule "primary_expression"],
  [.precedence "member", .precedence "template_call", .precedence "new", .precedence "call",
    .rule "expression"],
  [.precedence "declare", .precedence "literal"],
  [.rule "primary_expression", .rule "statement_block", .precedence "object"],
  [.rule "meta_property", .rule "import"],
  [.rule "import_statement", .rule "import"],
  [.rule "export_statement", .rule "primary_expression"],
  [.rule "lexical_declaration", .rule "primary_expression"]]

def grammar : Grammar where
  rules := moduleRules ++ statementRules ++ expressionRules ++ elementRules ++ functionRules ++
    operationRules ++ literalRules ++ componentRules
  scanned := scannedTokens
  extras := [.ref "comment", .ref "html_comment", .pattern (one blanks)]
  inlined := ["_call_signature", "_formal_parameter", "_expressions", "_semicolon",
    "_identifier", "_reserved_identifier", "_jsx_attribute", "_jsx_element_name",
    "_jsx_child", "_jsx_element", "_jsx_attribute_name", "_jsx_attribute_value",
    "_jsx_identifier", "_lhs_expression"]
  groups := ["statement", "declaration", "expression", "primary_expression", "pattern"]
  precedences := precedences
  word := "identifier"

end UsedSelectors.Script
