import CodeDigest.Syntax.Notation

/-! The grammar of PHP inside a text. From a closing tag to the next opening one, text counts as
trivia; a closing tag also ends a statement. -/

namespace CodeDigest.Grammars

private def phpRules : String := r#"
~program = text? (php_tag @item(_statement)*)? @eof
~text = ~/(?:[^<]|<(?!\?))+/
~php_tag = ~/<\?(?:[pP][hH][pP]|=)?/
_trivia0 = (~/[\s\u200B\u2060\uFEFF]+/ | comment | text_interpolation)*
~comment = ~/(?:\/\/|#(?![?\[\r\n]))(?:[^?\r\n]|\?[^>\r\n])*(?:\?\r?\n)?|#(?=[\r\n]|\z)|\/\*[^*]*\*+(?:[^\/*][^*]*\*+)*\//
~text_interpolation = ~/\?>(?:[^<]|<(?!\?))*/ (~/\z/ | php_tag)
_semi = _closing | ';'
_closing = (~/[\s\u200B\u2060\uFEFF]+/ | comment)* &~/\?>/
_reserved = /(?i)(?:abstract|and|as|break|case|catch|class|clone|const|continue|declare|default|do|echo|else|elseif|enddeclare|endfor|endforeach|endif|endswitch|endwhile|exit|extends|final|finally|fn|for|foreach|function|global|goto|if|implements|include|include_once|instanceof|insteadof|interface|match|namespace|new|or|print|private|protected|public|require|require_once|return|static|switch|throw|trait|try|unset|use|var|while|xor|yield)\b/
_any_name = /[^\W\d]\w*/
name = !_reserved _any_name
_qualified = qualified_name<(/namespace(?=\\)/ backslash | backslash)? name (backslash name)*>
variable_name = /\$[^\W\d]\w*/
_variable = dynamic_variable_name<'$' lbrace _expression rbrace> | dynamic_variable_name<'$' _variable> | variable_name

_statement = compound_statement | const_declaration | namespace_definition | namespace_use_declaration | function_definition | class_declaration | interface_declaration | trait_declaration | enum_declaration
  | named_label_statement<name /:(?!:)/> | if_statement | switch_statement | while_statement | do_statement | for_statement | foreach_statement | goto_statement<^'goto' name _semi> | continue_statement<^'continue' _expression? _semi>
  | break_statement<^'break' _expression? _semi> | return_statement<^'return' _expression? _semi> | try_statement | declare_statement | echo_statement<^'echo' _expression (',' _expression)* _semi>
  | exit_statement<^'exit' ('(' _expression? ')')? _semi> | unset_statement<^'unset' '(' _expression (',' _expression)* ','? ')' _semi> | global_declaration<^'global' _variable (',' _variable)* _semi>
  | function_static_declaration<^'static' _static (',' _static)* _semi> | expression_statement<_expression _semi> | empty_statement<';'>
_static = variable_name ('=' _expression)?
compound_statement = lbrace @item(_statement)* rbrace
const_declaration = attribute_list? _modifiers ^'const' (_type const_element | const_element) (',' const_element)* _semi
const_element = name<_any_name> '=' _expression
namespace_definition = ^'namespace' (name:_namespace_name body:compound_statement | name:_namespace_name _semi | body:compound_statement)
_namespace_name = namespace_name<_any_name (backslash _any_name)*>
namespace_use_declaration = ^'use' (^'function' | ^'const')? (backslash? _namespace_name backslash namespace_use_group | backslash? _use_prefix namespace_use_group | _use_clause (',' _use_clause)*) _semi
_use_prefix = namespace_name<_any_name (backslash _any_name)*> backslash
_use_clause = namespace_use_clause<backslash? _any_name (/\\(?!\s*\x7b)/ _any_name)* (^'as' name)?>
namespace_use_group = lbrace _group_clause (',' _group_clause)* ','? rbrace
_group_clause = namespace_use_clause<(^'function' | ^'const')? _namespace_name (^'as' name)?>
attribute_list = attribute_group+
attribute_group = '#[' attribute (',' attribute)* ','? ']'
attribute = _qualified arguments?
function_definition = attribute_list? ^'function' '&'? name:name _signature body:compound_statement
_signature = formal_parameters (':' return_type:_type)?
formal_parameters = '(' (_parameter (',' _parameter)* ','?)? ')'
_parameter = attribute_list? (visibility_modifier</(?i)(?:public|protected|private)(?:\(set\))?\b/> | readonly_modifier<^'readonly'>)* (_type &/[&.$]/)? '&'? '...'? variable_name ('=' _expression)? property_hook_list?
_type = @chain((_type_operand) | union_type<'|' _type_operand> | intersection_type</&(?!\s*(?:&|\.\.\.|\$))/ _type_operand>)
_type_operand = optional_type<'?' _named_type> | '(' _type ')' | _named_type
_named_type = primitive_type</(?i)(?:array|callable|iterable|bool|float|int|string|void|mixed|static|false|null|true|never|self|parent)\b(?!\\)/> | named_type<_qualified>
_modifiers = (/(?i)(?:public|protected|private)(?:\(set\))?\b|(?:abstract|final|static|var)\b|readonly(?!\s*\()\b/)*
class_declaration = attribute_list? _modifiers ^'class' name:name base_clause? class_interface_clause? body:declaration_list
base_clause = ^'extends' _qualified (',' _qualified)*
class_interface_clause = ^'implements' _qualified (',' _qualified)*
interface_declaration = attribute_list? ^'interface' name:name base_clause? body:declaration_list
trait_declaration = attribute_list? ^'trait' name:name body:declaration_list
enum_declaration = attribute_list? ^'enum' name:name (':' _type)? class_interface_clause? body:enum_declaration_list
enum_declaration_list = lbrace @item(enum_case | _declaration)* rbrace
enum_case = attribute_list? ^'case' name:_any_name ('=' _expression)? _semi
declaration_list = lbrace @item(_declaration)* rbrace
_declaration = const_declaration | use_declaration | method_declaration | property_declaration
use_declaration = ^'use' _qualified (',' _qualified)* (use_list | _semi)
use_list = lbrace (_use_item _semi)* rbrace
_use_item = use_instead_of_clause<_trait_method ^'insteadof' _qualified (',' _qualified)*> | use_as_clause<_trait_method ^'as' (/(?i)(?:public|protected|private)\b/ _any_name? | _any_name)>
_trait_method = _qualified '::' _any_name | _any_name
method_declaration = attribute_list? _modifiers ^'function' '&'? name:_any_name _signature (body:compound_statement | _semi)
property_declaration = attribute_list? _modifiers_some (_type &'$')? property_element (',' property_element)* (property_hook_list | _semi)
_modifiers_some = &/(?i)(?:public|protected|private|abstract|final|static|var|readonly)\b/ _modifiers
property_element = variable_name ('=' _expression)?
property_hook_list = lbrace (property_hook)* rbrace
property_hook = attribute_list? /(?i)final\b/? '&'? _any_name formal_parameters? ('=>' _expression ';' | compound_statement | ';')

if_statement = ^'if' _condition (_colon_body else_if_clause<^'elseif' _condition _colon_body>* else_clause<^'else' _colon_body>? ^'endif' _semi | _statement else_if_clause<^'elseif' _condition _statement>* else_clause<^'else' _statement>?)
_colon_body = /:(?!:)/ @item(_statement)*
_condition = parenthesized_expression<'(' _expression ')'>
switch_statement = ^'switch' _condition (lbrace ';'? _case* rbrace | ':' _case* ^'endswitch' _semi)
_case = (case_statement<^'case' _expression /[:;]/> | default_statement<^'default' /[:;]/>) @item(_statement)*
while_statement = ^'while' _condition (_colon_body ^'endwhile' _semi | _statement)
do_statement = ^'do' _statement ^'while' _condition _semi
for_statement = ^'for' '(' _expressions? ';' _expressions? ';' _expressions? ')' (_colon_body ^'endfor' _semi | ';' | _statement)
_expressions = _expression (',' _expression)*
foreach_statement = ^'foreach' '(' _expression ^'as' (_reference '=>')? _reference ')' (_colon_body ^'endforeach' _semi | _statement)
_reference = '&'? _expression
try_statement = ^'try' compound_statement (catch_clause | finally_clause)+
catch_clause = ^'catch' '(' _type variable_name? ')' compound_statement
finally_clause = ^'finally' compound_statement
declare_statement = ^'declare' '(' name '=' _expression (',' name '=' _expression)* ')' (_colon_body ^'enddeclare' _semi | _semi | _statement)

_expression = @chain((_unary)
  | assignment_expression<reference_assignment_expression</=(?![=>])\s*&/ !'&' _expression>>
  | assignment_expression</(?:\*\*|\?\?|<<|>>|[+\-*\/.%&|^])?=(?![=>])/ _expression>
  | conditional_expression<'?' _expression? ':' _expression>
  | binary_expression</\?\?|\|\||&&|===|!==|==|!=|<>|<=>|<=|>=|<<|>>|\*\*|\|>|[+\-*\/%.&|^<]|>|(?i:instanceof)\b/ _unary>
  | binary_expression<(^'instanceof' | ^'and' | ^'or' | ^'xor') _unary>)
_unary = throw_expression<^'throw' _expression> | print_intrinsic<^'print' _expression> | yield_expression | include_expression<(^'include_once' | ^'include' | ^'require_once' | ^'require') _expression> | clone_expression<^'clone' _unary>
  | cast_expression</(?i)\(\s*(?:array|binary|bool|boolean|double|float|int|integer|object|real|string|unset)\s*\)/ _unary> | unary_op_expression</[+\-~!@](?![+\-]\B)|[!@~]/ _unary> | update_expression</\+\+|--/ _unary> | unary_op_expression</[+\-]/ _unary>
  | reference<'&' _unary> | arrow_function | anonymous_function | match_expression | _postfix
yield_expression = ^'yield' (^'from' _expression | _expression ('=>' _expression)?)?
arrow_function = attribute_list? ^'static'? ^'fn' '&'? formal_parameters (':' _type)? '=>' _expression
anonymous_function = attribute_list? ^'static'? ^'function' '&'? formal_parameters (^'use' '(' (_used (',' _used)* ','?)? ')')? (':' _type)? body:compound_statement
_used = '&'? variable_name
match_expression = ^'match' _condition match_block<lbrace (_match (',' _match)* ','?)? rbrace>
_match = match_conditional_expression<_expression (',' _expression)* ','? '=>' _expression> | match_default_expression<^'default' ','? '=>' _expression>
_postfix = @chain(_primary
  | member_access_expression</\?->|->/ (_any_name | _variable | lbrace _expression rbrace)>
  | scoped_property_access_expression<'::' _variable>
  | class_constant_access_expression<'::' (_any_name | lbrace _expression rbrace)>
  | function_call_expression<arguments>
  | subscript_expression<'[' _expression? ']'>
  | update_expression</\+\+|--/>)
arguments = '(' (_argument (',' _argument)* ','?)? ')'
_argument = variadic_placeholder<'...' &')'> | argument<(_any_name /:(?!:)/)? '...'? '&'? _expression>
_primary = object_creation_expression | _literal | list_literal | array_creation_expression | parenthesized_expression<'(' _expression ')'> | _variable | shell_command_expression | static<^'static' &'::'> | exit<(^'exit' | ^'die') ('(' _expression? ')')?> | _qualified
object_creation_expression = ^'new' (anonymous_class<attribute_list? _modifiers ^'class' arguments? base_clause? class_interface_clause? body:declaration_list> | _class_name arguments?)
_class_name = @chain((^'static' | _variable | '(' _expression ')' | _qualified) | member_access_expression</\?->|->/ (_any_name | _variable)> | scoped_property_access_expression<'::' _variable> | subscript_expression<'[' _expression? ']'>)
list_literal = ^'list' '(' _element? (',' _element?)* ')'
array_creation_expression = ^'array' '(' (_element? (',' _element?)*) ')' | '[' _element? (',' _element?)* ']'
_element = array_element_initializer<(variadic_unpacking<'...' _expression> | '&' _expression | _expression '=>' '&'? _expression | _expression)>
_literal = encapsed_string | string</[bB]?'(?:[^'\\]|\\[\s\S])*'/> | heredoc</<<<[ \t]*(["']?)([^\W\d]\w*)\1\r?\n(?:[\s\S]*?\n)??[ \t]*\2\b/> | float</\d[\d_]*\.(?!\.)[\d_]*(?:[eE][+\-]?\d[\d_]*)?|\.\d[\d_]*(?:[eE][+\-]?\d[\d_]*)?|\d[\d_]*[eE][+\-]?\d[\d_]*/>
  | integer</0[xX][\da-fA-F_]+|0[bB][01_]+|0[oO][0-7_]+|\d[\d_]*/>
encapsed_string = /[bB]?"/ (~/(?:[^"\\\x7b$]|\\[\s\S]|\x7b(?!\$)|\$(?!\x7b))+/ | ~/\x7b(?=\$)/ _expression rbrace | ~/\$\x7b/ _expression rbrace)* ~'"'
shell_command_expression = /`(?:[^`\\]|\\[\s\S])*`/
"#

def php : Syntax.Grammar := Syntax.Notation.grammar phpRules [";", ")", "\x7d", "]"]

end CodeDigest.Grammars
