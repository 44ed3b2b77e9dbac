import CodeDigest.Syntax.Notation

/-! The grammar of Go. A newline ends a statement, except inside parentheses, brackets and literals,
which are under another trivia. The character 4 marks where a text was mended at its end: only a
declaration of the file may stand before it. -/

namespace CodeDigest.Grammars

private def goRules : String := r#"
~source_file = (_nl | @item(_declared (_end | %/\x04/) | _statement _end))* @eof
_trivia0 = (~/[ \t\r\f]+/ | comment)*
_trivia1 = (~/\s+/ | comment)*
~comment = ~/\/\/[^\n]*/ | ~/\/\*[^*]*\*+(?:[^\/*][^*]*\*+)*\//
_nl = %/[\n;]/
_end = _nl | @eof | &/[)\x7d]/
_w = (~%/\s+/ | comment)*
_reserved = /(?:break|case|chan|const|continue|default|defer|else|fallthrough|for|func|go|goto|if|import|interface|map|package|range|return|select|struct|switch|type|var)\b/
_name = !_reserved /[^\W\d]\w*/
identifier = _name
type_identifier = _name
field_identifier = _name
package_identifier = _name

_declared = package_clause | import_declaration | function_declaration | method_declaration
package_clause = 'package' package_identifier
import_declaration = 'import' (import_spec | import_spec_list)
import_spec_list = '(' (_nl | @item(import_spec _end))* ')'
import_spec = name:(dot<'.'> | package_identifier)? path:_string
function_declaration = 'func' name:identifier type_parameters:type_parameter_list? parameters:parameter_list result:_result? body:block?
method_declaration = 'func' receiver:parameter_list name:field_identifier parameters:parameter_list result:_result? body:block?
_result = parameter_list | _type
parameter_list = '(' @mode1((_parameter (',' _parameter)* ','?)? ')')
_parameter = variadic_parameter_declaration<(name:identifier)? '...' type:_type>
  | parameter_declaration<(name:identifier (',' name:identifier)* type:_type !'.') | type:_type>
type_parameter_list = '[' @mode1(_type_parameter (',' _type_parameter)* ','? ']')
_type_parameter = type_parameter_declaration<name:identifier (',' name:identifier)* type:_constraint>
_constraint = type_constraint<_union>
_union = _type_term ('|' _w _type_term)*
_type_term = negated_type<'~' _type> | _type

const_declaration = 'const' (const_spec | '(' (_nl | @item(const_spec _end))* ')')
const_spec = name:identifier (',' _w name:identifier)* (type:_type? '=' _w value:expression_list)?
var_declaration = 'var' (var_spec | var_spec_list)
var_spec_list = '(' (_nl | @item(var_spec _end))* ')'
var_spec = name:identifier (',' _w name:identifier)* ('=' _w value:expression_list | type:_type ('=' _w value:expression_list)?)
type_declaration = 'type' (_type_spec | '(' (_nl | @item(_type_spec _end))* ')')
_type_spec = type_alias<name:type_identifier type_parameters:type_parameter_list? '=' _w type:_type>
  | type_spec<name:type_identifier type_parameters:type_parameter_list? type:_type>

_type = parenthesized_type<'(' @mode1(_type ')')> | pointer_type<'*' _type> | _type_literal | _named_type
_type_literal = slice_type | array_type | map_type | channel_type | struct_type | interface_type | function_type
_named_type = generic_type<_type_name type_arguments> | _type_name
_type_name = qualified_type<package:package_identifier '.' name:type_identifier> | type_identifier
type_arguments = '[' @mode1(_type_element (',' _type_element)* ','? ']')
_type_element = type_elem<_union>
slice_type = '[' ']' element:_type
array_type = '[' @mode1((length:_expression | '...') ']') element:_type
map_type = 'map' '[' @mode1(key:_type ']') value:_type
channel_type = 'chan' '<-' value:_type | 'chan' value:_type | '<-' 'chan' value:_type
function_type = 'func' parameters:parameter_list result:_result?
struct_type = 'struct' field_declaration_list
field_declaration_list = lbrace @mode0((_nl | @item(field_declaration _end))* rbrace)
field_declaration = (name:field_identifier (',' _w name:field_identifier)* type:_type !'.' | type:('*'? _named_type)) tag:_string?
interface_type = 'interface' lbrace @mode0((_nl | @item((method_elem | type_elem<_union>) _end))* rbrace)
method_elem = name:field_identifier parameters:parameter_list result:_result?

block = lbrace @mode0(_statements rbrace)
_statements = (_nl | @item(_statement _end))*
_statement = const_declaration | var_declaration | type_declaration | return_statement | go_statement<'go' _expression>
  | defer_statement<'defer' _expression> | if_statement | for_statement | switch_statement | select_statement
  | labeled_statement | fallthrough_statement<'fallthrough'> | break_statement<'break' label_name<_name>?>
  | continue_statement<'continue' label_name<_name>?> | goto_statement<'goto' label_name<_name>> | block | _simple
labeled_statement = label:label_name<_name> /:(?!=)/ (_nl* _statement)?
return_statement = 'return' expression_list?
if_statement = 'if' (initializer:_head_simple? ';')? condition:_head consequence:block ('else' alternative:(if_statement | block))?
for_statement = 'for' (for_clause | range_clause | _head)? body:block
for_clause = initializer:_head_simple? ';' condition:_head? ';' update:_head_simple?
range_clause = (left:expression_list (':=' | '='))? 'range' right:_head
switch_statement = 'switch' (initializer:_head_simple? ';')? _head_simple? lbrace @mode0(_nl* @item(_case)* rbrace)
_case = expression_case<'case' _case_item (',' _w _case_item)* ':' _statements> | default_case<'default' ':' _statements>
_case_item = _expression &/[:,]/ | _type
select_statement = 'select' lbrace @mode0(_nl* @item(communication_case<'case' _simple ':' _statements> | default_case<'default' ':' _statements>)* rbrace)
_simple = short_var_declaration<left:expression_list ':=' _w right:expression_list>
  | assignment_statement<left:expression_list operator:_assign _w right:expression_list>
  | inc_statement<_expression '++'> | dec_statement<_expression '--'>
  | send_statement<channel:_expression '<-' _w value:_expression> | expression_statement<_expression>
_head_simple = short_var_declaration<left:expression_list ':=' _w right:_heads>
  | assignment_statement<left:expression_list operator:_assign _w right:_heads>
  | inc_statement<_head '++'> | dec_statement<_head '--'>
  | send_statement<channel:_head '<-' _w value:_head> | expression_statement<_head>
_heads = expression_list<_head (',' _w _head)*>
_assign = /(?:[+\-*\/%|^]|&\^?|<<|>>)?=(?!=)/
expression_list = _expression (',' _w _expression)*

_expression = @chain(_unary | binary_expression<_binary _w _unary>)
_head = @chain(_head_unary | binary_expression<_binary _w _head_unary>)
_binary = /\|\||&&|==|!=|<=|>=|<<(?!=)|>>(?!=)|<(?![\-<])|>(?![>=])|&\^(?!=)|\+(?![+=])|-(?![\-=])|[*\/%|^&](?!=)/
_unary = unary_expression<_mark _w _unary> | _postfix
_head_unary = unary_expression<_mark _w _head_unary> | _head_postfix
_mark = /[+\-](?!=)|!(?!=)|\^|\*|&(?!&)|<-/
_postfix = @chain((_literal | composite_literal<_named_type literal_value> | _primary)
"#

private def goSuffixes : String := r#"
  | selector_expression<'.' _w field:field_identifier>
  | type_assertion_expression<'.' _w '(' @mode1((_type | 'type') ')')>
  | call_expression<arguments:argument_list>
  | slice_expression<'[' @mode1(_expression? ':' _expression? (':' _expression?)? ']')>
  | index_expression<'[' @mode1(index:_type_or_value (',' _type_or_value)* ','? ']')>)
"#

private def goPrimaries : String := r#"
_head_postfix = @chain((_literal | _primary)
"#

private def goLiterals : String := r#"
_literal = func_literal | composite_literal<_composed literal_value> | type_conversion_expression<_converted '(' @mode1(_expression ','? ')')>
_composed = slice_type | array_type | map_type | struct_type
_converted = slice_type | array_type | map_type | channel_type | function_type | interface_type | struct_type
func_literal = 'func' parameters:parameter_list result:_result? body:block
literal_value = lbrace @mode1((_element (',' _element)* ','?)? rbrace)
_element = keyed_element<literal_element<literal_value | _expression> ':' literal_element<literal_value | _expression>>
  | literal_element<literal_value | _expression>
argument_list = '(' @mode1((_argument (',' _argument)* ','?)? ')')
_argument = variadic_argument<_expression '...'> | _type_or_value
_type_or_value = _expression &/[,)\]:]/ | _type
_primary = parenthesized_expression<'(' @mode1((_expression | _type) ')')> | imaginary_literal | float_literal | int_literal
  | rune_literal | _string | nil<'nil'> | true<'true'> | false<'false'> | iota<'iota'> | identifier
_string = raw_string_literal | interpreted_string_literal
raw_string_literal = /`[^`]*`/
interpreted_string_literal = /"[^"\\\n]*(?:\\.[^"\\\n]*)*"/
rune_literal = /'(?:\\.[^\n']*|[^'\\\n])'/
imaginary_literal = /(?:\d[\d_]*\.?[\d_]*|\.\d[\d_]*)(?:[eE][+\-]?\d+)?i/
float_literal = /(?:\d[\d_]*\.[\d_]*|\.\d[\d_]*)(?:[eE][+\-]?\d[\d_]*)?|\d[\d_]*[eE][+\-]?\d[\d_]*|0[xX][\da-fA-F_]*\.?[\da-fA-F_]*[pP][+\-]?\d+/
int_literal = /0[xX][\da-fA-F_]+|0[oO]?[0-7_]+|0[bB][01_]+|\d[\d_]*/
"#

def go : Syntax.Grammar :=
  Syntax.Notation.grammar (goRules ++ goSuffixes ++ goPrimaries ++ goSuffixes ++ goLiterals)
    [")", "]", "\x7d\x04"]

end CodeDigest.Grammars
