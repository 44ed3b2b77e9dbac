import CodeDigest.Syntax.Notation

/-! The grammar of CSS. A block may hold rules as well as declarations, whose last one needs no
semicolon. -/

namespace CodeDigest.Grammars

private def cssRules : String := r#"
~stylesheet = @item(_top)* @eof
_trivia0 = (~/\s+/ | comment | js_comment)*
~comment = ~/\/\*[^*]*\*+(?:[^\/*][^*]*\*+)*\//
~js_comment = ~/\/\/[^\n]*/
identifier = /(?:--|-?[a-zA-Z_\u00A0-\u00FF])[a-zA-Z0-9\-_\u00A0-\u00FF]*/
_top = _statement | declaration | rule_set
_statement = import_statement | media_statement | charset_statement | namespace_statement | keyframes_statement | supports_statement | scope_statement | at_rule
import_statement = '@import' _value _queries ';'
media_statement = '@media' _query (',' _query)* block
charset_statement = '@charset' _value ';'
namespace_statement = '@namespace' (identifier !~'(')? (string_value | call_expression) ';'
keyframes_statement = /@(?:[\-a-z]*keyframes)\b/ (keyframes_name<identifier> | string_value) keyframe_block_list
keyframe_block_list = lbrace @item(keyframe_block)* rbrace
keyframe_block = (from<'from'> | to<'to'> | float_value | integer_value) block
supports_statement = '@supports' _query block
scope_statement = '@scope' ('(' _selector ')')? ('to' '(' _selector ')')? block
at_rule = _at_keyword _queries (';' | block)
postcss_statement = _at_keyword _value* ';'
_at_keyword = /@[a-zA-Z\-_]+/
rule_set = selectors block
selectors = _selector (',' _selector)*
block = lbrace @item(_statement | postcss_statement | declaration | rule_set)* declaration<_declared>? rbrace
declaration = _declared ';'
_declared = property_name<identifier> ':' _value (','? _value)* important?
important = '!important'

_selector = _piece+ (/[>~+|]/ _piece+)*
_piece = universal_selector<'*'> | nesting_selector<'&'> | class_selector<'.' identifier> | pseudo_element_selector<'::' identifier (~'(' _arguments ')')?>
  | pseudo_class_selector<':' (_selecting ~'(' /[>~+]/? _selector (',' /[>~+]/? _selector)* ')' | identifier (~'(' _pseudo_arguments ')')?)>
  | id_selector<'#' identifier> | attribute_selector<'[' _namespaced (/[~^|*$]?=/ _value)? ']'> | tag_name<identifier> | string_value
_selecting = /(?:has|not|is|where|host-context|host)(?=\()/
_namespaced = (universal_selector<'*'> | identifier)? '|' identifier | identifier
_pseudo_arguments = (_pseudo_argument (',' _pseudo_argument)*)?
_pseudo_argument = _selector &/[,)]/ | _value+
_arguments = (_value+ (/[,;]/ _value+)*)?

_queries = (_query (',' _query)*)?
_query = @chain((unary_query<('not' | 'only') _query> | selector_query<'selector' '(' _selector ')'> | feature_query<'(' feature_name<identifier> ':' _value+ ')'>
    | parenthesized_query<'(' _query ')'> | keyword_query<identifier>)
  | binary_query<('and' | 'or') _query>)

_value = @chain((_plain) | binary_expression</[+\-*\/]/ _plain>)
_plain = color_value | string_value | parenthesized_value<'(' _value ')'> | grid_value<'[' _value (',' _value)* ']'> | call_expression
  | plain_value | float_value | integer_value
color_value = '#' ~/[0-9a-fA-F]{3,8}/
call_expression = function_name<identifier> ~'(' _arguments ')'
float_value = /[+\-]?\d*(?:\.\d+(?:[eE][+\-]?\d+)?|[eE]-?\d+)/ ~/[a-zA-Z%]*/
integer_value = /[+\-]?\d+/ ~/[a-zA-Z%]*/
string_value = /"(?:[^"\\\n]|\\[\s\S])*"|'(?:[^'\\\n]|\\[\s\S])*'/
plain_value = /(?:[\-_]|\/[^*\s,;!\x7b\x7d()\[\]])*[a-zA-Z](?:[^\/\s,;!\x7b\x7d()\[\]]|\/[^*\s,;!\x7b\x7d()\[\]])*/
"#

def css : Syntax.Grammar := Syntax.Notation.grammar cssRules [";", ")", "\x7d", "]"]

end CodeDigest.Grammars
