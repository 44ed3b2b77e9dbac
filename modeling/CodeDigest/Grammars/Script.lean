import CodeDigest.Syntax.Notation

/-! The grammars of JavaScript, with elements inside expressions, and of TypeScript with and without
them. What the three share comes first; a later rule replaces an earlier one of its name. -/

namespace CodeDigest.Grammars

private def scriptCore : String := r#"
~program = hash_bang_line? @item(_statement)* @eof
~hash_bang_line = ~/#!.*/
_trivia0 = (~/[\s\uFEFF\u2060\u200B]+/ | comment)*
~comment = ~/\/\/[^\n\r]*/ | ~/\/\*[^*]*\*+(?:[^\/*][^*]*\*+)*\//
_semi = ';' | &rbrace | &@eof | _line_end
_line_end = (~%/[^\S\n]*/ comment)* ~%/[^\S\n]*/ (&~/[\n\x7d]/ | &@eof)
_reserved = /(?:break|case|catch|class|const|continue|debugger|default|delete|do|else|enum|export|extends|false|finally|for|function|if|import|in|instanceof|new|null|return|super|switch|this|throw|true|try|typeof|var|void|while|with)(?![\w$])/
_word = /[^\x00-\x1F\s0-9:;"'@#.,|^&<=>+\-*\/\\%?!~()\[\]\x7b\x7d\x60\uFEFF\u2060\u200B][^\x00-\x1F\s:;"'@#.,|^&<=>+\-*\/\\%?!~()\[\]\x7b\x7d\x60\uFEFF\u2060\u200B]*/
_name = !_reserved _word
identifier = _name

_statement = export_statement | import_statement | _declaration | statement_block | if_statement
  | switch_statement | for_in_statement | for_statement | while_statement | do_statement
  | try_statement | with_statement | break_statement | continue_statement | debugger_statement
  | return_statement | throw_statement | empty_statement | labeled_statement | expression_statement
_declaration = function_declaration | generator_function_declaration | class_declaration
  | lexical_declaration | variable_declaration
statement_block = lbrace @item(_statement)* rbrace
expression_statement = _expressions _semi
empty_statement = ';'
debugger_statement = 'debugger' _semi
variable_declaration = 'var' variable_declarator (',' variable_declarator)* _semi
lexical_declaration = kind:('let' | 'const') variable_declarator (',' variable_declarator)* _semi
variable_declarator = name:(_pattern) _initializer?
_initializer = '=' value:_expression
if_statement = 'if' condition:parenthesized_expression consequence:_statement alternative:else_clause?
else_clause = 'else' _statement
switch_statement = 'switch' value:parenthesized_expression body:switch_body
switch_body = lbrace @item(switch_case | switch_default)* rbrace
switch_case = 'case' value:_expressions ':' @item(_statement)*
switch_default = 'default' ':' @item(_statement)*
for_statement = 'for' '(' (lexical_declaration | variable_declaration | expression_statement | empty_statement)
  (expression_statement | empty_statement) _expressions? ')' body:_statement
for_in_statement = 'for' 'await'? '(' ('let' | 'const' | 'var')? left:(_pattern | _postfix) ('in' | 'of')
  right:_expressions ')' body:_statement
while_statement = 'while' condition:parenthesized_expression body:_statement
do_statement = 'do' body:_statement 'while' condition:parenthesized_expression ';'?
try_statement = 'try' body:statement_block handler:catch_clause? finalizer:finally_clause?
catch_clause = 'catch' ('(' parameter:_pattern _annotation? ')')? body:statement_block
finally_clause = 'finally' body:statement_block
with_statement = 'with' object:parenthesized_expression body:_statement
break_statement = 'break' (@nonl label:statement_identifier<_name>)? _semi
continue_statement = 'continue' (@nonl label:statement_identifier<_name>)? _semi
return_statement = 'return' (@nonl _expressions)? _semi
throw_statement = 'throw' _expressions _semi
labeled_statement = label:statement_identifier<_name> ':' body:_statement

import_statement = 'import' (import_clause _from | source:string) _import_attributes? _semi
import_clause = namespace_import | named_imports | identifier (',' (namespace_import | named_imports))?
namespace_import = '*' 'as' identifier
named_imports = lbrace (import_specifier (',' import_specifier)* ','?)? rbrace
import_specifier = (name:_export_name 'as' alias:identifier | name:identifier)
_export_name = identifier<_word> | string
_from = 'from' source:string
_import_attributes = import_attribute<('with' | 'assert') object>
export_statement = 'export' ('*' _from | namespace_export _from | export_clause _from | export_clause) _import_attributes? _semi
  | decorator* 'export' (declaration:_declaration | 'default' (declaration:_declaration | value:_expression _semi))
namespace_export = '*' 'as' _export_name
export_clause = lbrace (export_specifier (',' export_specifier)* ','?)? rbrace
export_specifier = name:_export_name ('as' alias:_export_name)?

function_declaration = 'async'? 'function' name:identifier _call_signature body:statement_block
function_expression = 'async'? 'function' name:identifier? _call_signature body:statement_block
generator_function_declaration = 'async'? 'function' '*' name:identifier _call_signature body:statement_block
generator_function = 'async'? 'function' '*' name:identifier? _call_signature body:statement_block
arrow_function = 'async' _arrow_head '=>' _arrow_body | _arrow_head '=>' _arrow_body
_arrow_head = parameter:identifier | _call_signature
_arrow_body = body:statement_block | body:_expression
_call_signature = parameters:formal_parameters
_annotation = !'' ''
formal_parameters = '(' (_parameter (',' _parameter)* ','?)? ')'
_parameter = decorator* (assignment_pattern<_pattern '=' _expression> | rest_pattern | _pattern)

class_declaration = decorator* 'class' name:identifier class_heritage? body:class_body
class = decorator* 'class' name:identifier? class_heritage? body:class_body
class_heritage = 'extends' _postfix
class_body = lbrace @item(_class_member)* rbrace
_class_member = ';' | class_static_block | method_definition | field_definition _semi
class_static_block = 'static' body:statement_block
_modifier_end = !/[(=;:?!<,\x7d]/
method_definition = decorator* ('static' _modifier_end)? ('async' @nonl _modifier_end)? (('get' | 'set') _modifier_end | '*')?
  name:_property_name parameters:formal_parameters body:statement_block
field_definition = decorator* ('static' _modifier_end)? property:_property_name _initializer?
decorator = '@' (call_expression<_decorated arguments> | _decorated | parenthesized_expression)
_decorated = @chain(identifier | member_expression<'.' property_identifier<_word>>)
_property_name = property_identifier<_word> | private_property_identifier | string | number | computed_property_name
private_property_identifier = /#/ ~/[^\x00-\x1F\s0-9:;"'@#.,|^&<=>+\-*\/\\%?!~()\[\]\x7b\x7d\x60][^\x00-\x1F\s:;"'@#.,|^&<=>+\-*\/\\%?!~()\[\]\x7b\x7d\x60]*/
computed_property_name = '[' _expression ']'

_pattern = object_pattern | array_pattern | identifier
object_pattern = lbrace (_pattern_member (',' _pattern_member)* ','?)? rbrace
_pattern_member = rest_pattern | pair_pattern<_property_name ':' _pattern_default>
  | object_assignment_pattern<shorthand_property_identifier_pattern<_name> '=' _expression>
  | shorthand_property_identifier_pattern<_name>
_pattern_default = @chain((_pattern | _postfix) | assignment_pattern<'=' _expression>)
array_pattern = '[' (','* (rest_pattern | _pattern_default))* ','* ']'
rest_pattern = '...' (_pattern | _postfix)

_expressions = @chain(_expression | sequence_expression<(',' _expression)+>)
_expression = yield_expression | arrow_function
  | @chain(_operand | assignment_expression<_assign _expression> | ternary_expression<'?' _expression ':' _expression>
    | binary_expression<_binary _operand>)
_assign = /(?:\+|-|\*\*?|\/|%|<<|>>>?|&&?|\|\|?|\^|\?\?)?=(?![=>])/
_binary = /&&|\|\||\?\?|===|!==|==|!=|<<|>>>|>>|<=|>=|<|>|\*\*|[+\-*\/%&|^]|(?:instanceof|in)(?![\w$])/
yield_expression = 'yield' (@nonl ('*' _expression | _expression))?
_operand = unary_expression<(/[!~]|[+\-](?![+\-=])/ | 'typeof' | 'void' | 'delete') _operand>
  | await_expression<'await' _operand> | update_expression<('++' | '--') _operand> | _postfix
_postfix = @chain(_primary
  | call_expression<arguments>
  | call_expression<template_string>
  | member_expression<'.' (private_property_identifier | property_identifier<_word>)>
  | member_expression</\?\.(?![\d])/ (private_property_identifier | property_identifier<_word>)>
  | call_expression</\?\.(?![\d])/ arguments>
  | subscript_expression</\?\.(?![\d])/ '[' _expressions ']'>
  | subscript_expression<'[' _expressions ']'>
  | update_expression<@nonl ('++' | '--')>)
arguments = '(' (_argument (',' _argument)* ','?)? ')'
_argument = spread_element | _expression
spread_element = '...' _expression
_primary = parenthesized_expression | string | template_string | number | regex | object | array
  | generator_function | function_expression | class | new_expression | meta_property | import_call
  | this<'this'> | super<'super'> | true<'true'> | false<'false'> | null<'null'> | private_property_identifier
  | jsx_element | identifier
import_call = import<'import'>
meta_property = 'new' '.' 'target' | 'import' '.' 'meta'
new_expression = 'new' constructor:_constructed arguments?
_constructed = new_expression | @chain(_primary | member_expression<'.' (private_property_identifier | property_identifier<_word>)>
  | subscript_expression<'[' _expressions ']'>)
parenthesized_expression = '(' _expressions ')'
object = lbrace @item(_object_member (',' | &rbrace))* rbrace
_object_member = spread_element | method_definition | pair | object_assignment_pattern<shorthand_property_identifier_pattern<_name> '=' _expression>
  | shorthand_property_identifier<_name>
pair = key:_property_name ':' value:_expression
array = '[' (','* _argument)* ','* ']'
string = /"[^"\\\n]*(?:\\[\s\S][^"\\\n]*)*"|'[^'\\\n]*(?:\\[\s\S][^'\\\n]*)*'/
number = /0[xX][\da-fA-F_]+n?|0[oO][0-7_]+n?|0[bB][01_]+n?|(?:\d[\d_]*(?:\.[\d_]*)?|\.\d[\d_]*)(?:[eE][+\-]?\d[\d_]*)?n?/
regex = /\/(?![*\/])(?:[^\/\\\[\n]|\\.|\[(?:[^\]\\\n]|\\.)*\])+\/[a-zA-Z]*/
template_string = '`' (~/[^`\\$]+|\\[\s\S]|\$(?!\x7b)/ | template_substitution)* ~'`'
~template_substitution = ~/\$\x7b/ _expressions rbrace
jsx_element = !'' ''
"#

private def elements : String := r#"
jsx_element = _jsx_open _jsx_child* _jsx_close | _jsx_self_closing
_jsx_self_closing = jsx_self_closing_element<'<' name:_jsx_name _jsx_arguments? _jsx_attribute* '/' ~'>'>
_jsx_open = jsx_opening_element<'<' (name:_jsx_name _jsx_arguments? _jsx_attribute*)? '>'>
_jsx_arguments = !'' ''
_jsx_close = jsx_closing_element<~/<\/|<\s+\// (name:_jsx_name)? '>'>
_jsx_name = @chain(_jsx_word | member_expression<'.' _jsx_word>)
_jsx_word = identifier</[A-Za-z_$\u0080-\uFFFF][\w$\-]*(?::[\w$\-]+)?/>
_jsx_attribute = jsx_attribute<property_identifier</[A-Za-z_$][\w$\-]*(?::[\w$\-]+)?/> ('=' _jsx_value)?> | jsx_expression
_jsx_value = string</"(?:[^"&]|&[^#A-Za-z]|&(?:#(?:[xX][\da-fA-F]{1,6}|\d{1,5})|[A-Za-z]{1,30});)*"|'(?:[^'&]|&[^#A-Za-z]|&(?:#(?:[xX][\da-fA-F]{1,6}|\d{1,5})|[A-Za-z]{1,30});)*'/> | jsx_expression | jsx_element
_jsx_child = jsx_text | _glued_element | _glued_expression
~jsx_text = ~/[^\x7b\x7d<>&]+|&(?:#(?:[xX][\da-fA-F]{1,6}|\d{1,5})|[A-Za-z]{1,30});/
_glued_element = &~/<(?!\/)/ jsx_element
_glued_expression = &~lbrace jsx_expression
jsx_expression = lbrace ('...' _expression | _expressions)? rbrace
"#

private def types : String := r#"
_semi = ';' | _line_end
_statement = export_statement | import_alias | import_statement | _declaration | statement_block | if_statement
  | switch_statement | for_in_statement | for_statement | while_statement | do_statement
  | try_statement | with_statement | break_statement | continue_statement | debugger_statement
  | return_statement | throw_statement | empty_statement | labeled_statement | _namespace_statement | expression_statement
_namespace_statement = expression_statement<internal_module _semi?>
_declaration = function_declaration | generator_function_declaration | function_signature | abstract_class_declaration
  | class_declaration | module | internal_module | type_alias_declaration | enum_declaration | interface_declaration
  | lexical_declaration | variable_declaration | ambient_declaration
_declaration_in_statement = _declaration
variable_declarator = name:(_pattern) _declared_type? _initializer?
_declared_type = '!'? _annotation
_annotation = type_annotation
type_annotation = ':' _type
import_statement = 'import' (('type' | 'typeof') !('from' !'from') !',' !'=')? (import_require_clause | import_clause _from | source:string) _import_attributes? _semi
import_require_clause = identifier '=' 'require' '(' source:string ')'
import_alias = 'import' 'type'? identifier '=' _type_name _semi
import_specifier = 'type' (name:_export_name 'as' alias:identifier | name:identifier) | (name:_export_name 'as' alias:identifier | name:identifier)
export_statement = 'export' 'type'? ('*' _from | namespace_export _from | export_clause _from | export_clause) _import_attributes? _semi
  | 'export' 'as' 'namespace' identifier _semi
  | 'export' '=' _expression _semi
  | decorator* 'export' (declaration:(import_alias | _declaration) | 'default' (declaration:_declaration | value:_expression _semi))
export_specifier = ('type' !'as' !',' !rbrace)? name:_export_name ('as' alias:_export_name)?
function_declaration = 'async'? 'function' name:identifier _call_signature body:statement_block _line_end?
generator_function_declaration = 'async'? 'function' '*' name:identifier _call_signature body:statement_block _line_end?
function_signature = 'async'? 'function' '*'? name:identifier _call_signature _semi
_call_signature = type_parameters? parameters:formal_parameters _return_type?
_return_type = ':' (_type_predicate | _type)
_type_predicate = asserts<'asserts' (type_predicate | 'this' | identifier)> | type_predicate
type_predicate = (this<'this'> | identifier) 'is' _type
_parameter = decorator* _parameter_modifiers (rest_pattern | this<'this'> | _pattern) '?'? _annotation? ('=' _expression)?
_parameter_modifiers = (/(?:public|private|protected|override|readonly)(?![\w$])/ !/[,)=:?]/)*
type_parameters = '<' type_parameter (',' type_parameter)* ','? '>'
type_parameter = (('const' | 'in' | 'out') !/[,>=]|extends(?![\w$])/)* type_identifier<_word> ('extends' _type)? ('=' _type)?
type_arguments = '<' (_type (',' _type)* ','?)? '>'
_jsx_arguments = type_arguments

abstract_class_declaration = decorator* 'abstract' 'class' name:type_identifier<_name> type_parameters? class_heritage? body:class_body
class_declaration = decorator* 'class' name:type_identifier<!/(?:implements|extends)(?![\w$])/ _name> type_parameters? class_heritage? body:class_body _line_end?
class = decorator* 'class' (name:type_identifier<!/(?:implements|extends)(?![\w$])/ _name>)? type_parameters? class_heritage? body:class_body
class_heritage = extends_clause implements_clause? | implements_clause
extends_clause = 'extends' _extended (',' _extended)*
_extended = @chain(_primary
  | call_expression<type_arguments? arguments>
  | member_expression<'.' property_identifier<_word>>) type_arguments?
implements_clause = 'implements' _type (',' _type)*
class_body = lbrace @item(_class_member)* rbrace
_class_member = ';' | class_static_block | method_definition ';'? | abstract_method_signature _member_end
  | index_signature _member_end | public_field_definition _member_end | method_signature _member_end | decorator
_member_end = _semi | ','
_access = /(?:public|private|protected|static|override|readonly|declare|accessor)(?![\w$])/ _modifier_end
method_definition = _access* ('async' @nonl _modifier_end)? (('get' | 'set') _modifier_end | '*')?
  name:_property_name '?'? _call_signature body:statement_block
method_signature = _access* ('async' @nonl _modifier_end)? (('get' | 'set') _modifier_end | '*')? name:_property_name '?'? _call_signature
abstract_method_signature = _access* 'abstract' _modifier_end _access* (('get' | 'set') _modifier_end | '*')? name:_property_name '?'? _call_signature
public_field_definition = decorator* (_access | 'abstract' _modifier_end)* name:_property_name ('?' | '!')? !/[(<]/ _annotation? _initializer?
index_signature = _access* (('+' | '-')? 'readonly')? '[' (mapped_type_clause | _word ':' _type) ']'
  (('+' | '-')? '?')? _annotation?
mapped_type_clause = _word 'in' _type ('as' _type)?
decorator = '@' (call_expression<_decorated type_arguments? arguments> | _decorated | parenthesized_expression)

internal_module = 'namespace' name:(string | _type_name) body:statement_block?
module = 'module' @nonl name:(string | _type_name) body:statement_block?
type_alias_declaration = 'type' name:type_identifier<_word> type_parameters? '=' _type _semi
enum_declaration = 'const'? 'enum' name:identifier body:enum_body
enum_body = lbrace @item(_enum_member (',' | &rbrace))* rbrace
_enum_member = enum_assignment<_property_name '=' _expression> | _property_name
interface_declaration = 'interface' name:type_identifier<_word> type_parameters? extends_type_clause? body:interface_body
extends_type_clause = 'extends' _type (',' _type)*
interface_body = _object_type_body
ambient_declaration = 'declare' ('global' statement_block | _declaration)

_type = @chain(_type_union | conditional_type<'extends' _type_union '?' _type ':' _type>)
_type_union = '|'? _type_both ('|' _type_both)*
_type_both = '&'? _type_unary ('&' _type_unary)*
_type_unary = function_type | constructor_type | ('keyof' | 'unique' | 'readonly' | 'infer') !/[,)>=;|&\]?:]|extends(?![\w$])/ _type_unary _infer_bound?
  | _type_postfix
_infer_bound = 'extends' _type_union !'?'
function_type = type_parameters? formal_parameters '=>' (_type_predicate | _type)
constructor_type = 'abstract'? 'new' type_parameters? formal_parameters '=>' _type
_type_postfix = @chain(_type_primary | array_type<@nonl '[' ']'> | lookup_type<@nonl '[' _type ']'>)
_type_primary = parenthesized_type<'(' _type ')'> | object_type | tuple_type | literal_type | template_literal_type<template_string>
  | type_query | import_type | _type_named
literal_type = string | number | unary_expression<'-' number> | true<'true'> | false<'false'> | null<'null'>
tuple_type = '[' (_tuple_member (',' _tuple_member)* ','?)? ']'
_tuple_member = _word '?'? ':' _type | '...' _word ':' _type | '...' _type | _type '?'?
type_query = 'typeof' (import_call arguments | this<'this'> | identifier) ('.' (private_property_identifier | _word))* ('[' _type ']')* type_arguments?
import_type = 'import' '(' _type (',' object)? ')' ('.' _word)* type_arguments?
_type_named = generic_type<_type_name @nonl type_arguments> | predefined_type<_predefined> | _type_name
_predefined = ('void' | 'this')
_type_name = @chain(type_identifier<!_predefined _name> | nested_type_identifier<'.' _word>)
object_type = _object_type_body
_object_type_body = lbrace (','| ';')? @item(_type_member (',' | _semi))* _type_member? rbrace
_type_member = export_statement | index_signature | call_signature | construct_signature | method_signature | property_signature
call_signature = _call_signature
construct_signature = 'abstract'? 'new' type_parameters? formal_parameters _annotation?
property_signature = _access* name:_property_name '?'? _annotation?

_expression = yield_expression | arrow_function
  | @chain(_operand | assignment_expression<_assign _expression>
    | ternary_expression<'?' _expression ':' _expression> | ternary_expression<'?' _operand ':' _expression>
    | as_expression<@nonl 'as' ('const' | _type)> | satisfies_expression<@nonl 'satisfies' _type> | binary_expression<_binary _operand>)
_arrow_head = parameter:identifier | _call_signature
_postfix = @chain(_primary
  | call_expression<type_arguments arguments>
  | call_expression<type_arguments template_string>
  | call_expression<arguments>
  | call_expression<template_string>
  | non_null_expression<@nonl /!(?!=)/>
  | member_expression<'.' (private_property_identifier | property_identifier<_word>)>
  | member_expression</\?\.(?![\d])/ (private_property_identifier | property_identifier<_word>)>
  | call_expression</\?\.(?![\d])/ type_arguments? arguments>
  | subscript_expression</\?\.(?![\d])/ '[' _expressions ']'>
  | subscript_expression<'[' _expressions ']'>
  | update_expression<@nonl ('++' | '--')>
  | instantiation_expression<type_arguments !/[\w$("'\[\x7b]/>)
new_expression = 'new' constructor:_constructed type_arguments? arguments?
"#

private def assertions : String := r#"
_operand = unary_expression<(/[!~]|[+\-](?![+\-=])/ | 'typeof' | 'void' | 'delete') _operand>
  | await_expression<'await' _operand> | update_expression<('++' | '--') _operand>
  | type_assertion<type_arguments _operand> | _postfix
"#

private def closers : List String := [";", "\x7d", ")", "]"]

def javascript : Syntax.Grammar := Syntax.Notation.grammar (scriptCore ++ elements) closers

def typescript : Syntax.Grammar := Syntax.Notation.grammar (scriptCore ++ types ++ assertions) closers

def tsx : Syntax.Grammar := Syntax.Notation.grammar (scriptCore ++ elements ++ types) closers

end CodeDigest.Grammars
