import CodeDigest.Syntax.Notation

/-! The grammar of Java. A file is a list of declarations, but statements and methods may stand at its
top too. -/

namespace CodeDigest.Grammars

private def javaRules : String := r#"
~program = @item(_statement | method_declaration)* @eof
_trivia0 = (~/\s+/ | line_comment | block_comment)*
~line_comment = ~/\/\/[^\n]*/
~block_comment = ~/\/\*[^*]*\*+(?:[^\/*][^*]*\*+)*\//
_reserved = /(?:abstract|assert|boolean|break|byte|case|catch|char|class|continue|default|do|double|else|enum|extends|final|finally|float|for|if|implements|import|instanceof|int|interface|long|native|new|null|package|private|protected|public|return|short|static|strictfp|super|switch|synchronized|this|throw|throws|transient|true|false|try|void|volatile|while)\b/
_name = !_reserved /[^\W\d]\w*(?:\$\w*)*|\$\w*(?:\$\w*)*/
identifier = _name
type_identifier = _name
_qualified = identifier ('.' identifier)*

_declaration = module_declaration | package_declaration | import_declaration | _type_declaration
_type_declaration = class_declaration | record_declaration | interface_declaration | annotation_type_declaration | enum_declaration
module_declaration = _annotation* 'open'? 'module' name:_qualified lbrace @item(_module_directive)* rbrace
_module_directive = 'requires' ('transitive' | 'static')* _qualified ';' | ('exports' | 'opens') _qualified ('to' _qualified (',' _qualified)*)? ';'
  | 'uses' _qualified ';' | 'provides' _qualified 'with' _qualified (',' _qualified)* ';'
package_declaration = _annotation* 'package' _qualified ';'
import_declaration = 'import' 'static'? _qualified ('.' '*')? ';'
modifiers = (_annotation | 'public' | 'protected' | 'private' | 'abstract' | 'static' | 'final' | 'strictfp' | 'default' | 'synchronized' !'('
  | 'native' | 'transient' | 'volatile' | /sealed(?=\s+\w)/ | 'non-sealed')+
_annotation = annotation<'@' !'interface' name:_qualified annotation_argument_list> | marker_annotation<'@' !'interface' name:_qualified>
annotation_argument_list = '(' (_pair (',' _pair)* ','? | _element_value (',' _element_value)* ','?)? ')'
_pair = element_value_pair<key:identifier /=(?!=)/ value:_element_value>
_element_value = _annotation | element_value_array_initializer<lbrace (_element_value (',' _element_value)*)? ','? rbrace> | _no_lambda
class_declaration = modifiers? 'class' name:identifier type_parameters? superclass<'extends' _type>? super_interfaces? permits? body:class_body
super_interfaces = 'implements' _type_list
permits = 'permits' _type_list
_type_list = _type (',' _type)*
record_declaration = modifiers? 'record' name:identifier type_parameters? parameters:formal_parameters super_interfaces? body:class_body
interface_declaration = modifiers? 'interface' name:identifier type_parameters? extends_interfaces<'extends' _type_list>? permits? body:interface_body
annotation_type_declaration = modifiers? '@' 'interface' name:identifier body:annotation_type_body
enum_declaration = modifiers? 'enum' name:identifier super_interfaces? body:enum_body
class_body = lbrace @item(_member)* rbrace
_member = ';' | _type_declaration | method_declaration | constructor_declaration | field_declaration | static_initializer<'static' block> | block
  | compact_constructor_declaration<modifiers? name:identifier body:block>
interface_body = lbrace @item(';' | _type_declaration | method_declaration | constant_declaration)* rbrace
annotation_type_body = lbrace @item(';' | annotation_type_element_declaration | constant_declaration | _type_declaration)* rbrace
annotation_type_element_declaration = modifiers? type:_unannotated_type name:identifier '(' ')' dimensions? ('default' value:_element_value)? ';'
enum_body = lbrace (enum_constant (',' enum_constant)*)? ','? enum_body_declarations<';' @item(_member)*>? rbrace
enum_constant = modifiers? name:identifier arguments:argument_list? body:class_body?
type_parameters = '<' type_parameter (',' type_parameter)* '>'
type_parameter = _annotation* type_identifier type_bound<'extends' _type ('&' _type)*>?
method_declaration = modifiers? (type_parameters _annotation*)? type:_unannotated_type name:identifier parameters:formal_parameters dimensions? throws? (body:block | ';')
throws = 'throws' _type_list
constructor_declaration = modifiers? type_parameters? name:identifier parameters:formal_parameters throws? body:block
field_declaration = modifiers? type:_unannotated_type _declarators ';'
constant_declaration = modifiers? type:_unannotated_type _declarators ';'
_declarators = declarator:variable_declarator (',' declarator:variable_declarator)*
variable_declarator = name:identifier dimensions? (/=(?!=)/ value:(array_initializer | _expression))?
array_initializer = lbrace ((array_initializer | _expression) (',' (array_initializer | _expression))*)? ','? rbrace
formal_parameters = '(' (receiver_parameter<_annotation* _unannotated_type (identifier '.')* 'this'> ','?)? (_parameter (',' _parameter)*)? ')'
_parameter = spread_parameter<modifiers? _unannotated_type '...' _annotation* variable_declarator> | formal_parameter
formal_parameter = modifiers? type:_unannotated_type name:identifier dimensions?
dimensions = (_annotation* '[' ']')+

_type = _annotation* _unannotated_type
_unannotated_type = @chain((_simple_type) | array_type<dimensions>)
_simple_type = void_type<'void'> | _primitive | @chain((type_identifier) | generic_type<type_arguments> | scoped_type_identifier<'.' _annotation* type_identifier>)
_primitive = integral_type</(?:byte|short|int|long|char)\b/> | floating_point_type</(?:float|double)\b/> | boolean_type<'boolean'>
type_arguments = '<' ((_type_argument) (',' _type_argument)*)? '>'
_type_argument = wildcard<_annotation* '?' (('extends' | 'super') _type)?> | _type

block = lbrace @item(_statement)* rbrace
_statement = empty_statement<';'> | block | labeled_statement<identifier /:(?!:)/ _statement> | if_statement | while_statement | for_statement | enhanced_for_statement
  | do_statement | switch_expression | yield_statement | return_statement | break_statement | continue_statement | throw_statement
  | assert_statement | synchronized_statement | try_with_resources_statement | try_statement | _declaration | local_variable_declaration
  | expression_statement<_expression ';'>
local_variable_declaration = modifiers? type:_unannotated_type _declarators ';'
if_statement = 'if' condition:parenthesized_expression consequence:_statement ('else' alternative:_statement)?
while_statement = 'while' condition:parenthesized_expression body:_statement
for_statement = 'for' '(' (local_variable_declaration | _expressions? ';') _expression? ';' _expressions? ')' body:_statement
_expressions = _expression (',' _expression)*
enhanced_for_statement = 'for' '(' modifiers? type:_unannotated_type name:identifier dimensions? ':' value:_expression ')' body:_statement
do_statement = 'do' body:_statement 'while' condition:parenthesized_expression ';'
switch_expression = 'switch' condition:parenthesized_expression body:switch_block
switch_block = lbrace (@item(switch_rule)+ rbrace | @item(switch_block_statement_group)* rbrace)
switch_block_statement_group = (switch_label ':')+ @item(_statement)*
switch_rule = switch_label '->' (expression_statement<_expression ';'> | throw_statement | block)
switch_label = 'case' (_pattern guard? | _no_lambda (',' (identifier<'default'> | _no_lambda))* guard?) | 'default'
guard = 'when' _no_lambda
_pattern = record_pattern<(generic_type<type_identifier type_arguments> | identifier) '(' ((_component) (',' _component)*)? ')'>
  | type_pattern<_unannotated_type identifier>
_component = _pattern | record_pattern_component<_unannotated_type identifier>
yield_statement = 'yield' !/[=.(\[+\-](?!\w)/ _expression ';'
return_statement = 'return' _expression? ';'
break_statement = 'break' identifier? ';'
continue_statement = 'continue' identifier? ';'
throw_statement = 'throw' _expression ';'
assert_statement = 'assert' _expression (':' _expression)? ';'
synchronized_statement = 'synchronized' parenthesized_expression body:block
try_statement = 'try' body:block (catch_clause* finally_clause | catch_clause+)
try_with_resources_statement = 'try' resources:resource_specification body:block catch_clause* finally_clause?
resource_specification = '(' resource (';' resource)* ';'? ')'
resource = modifiers? type:_unannotated_type name:identifier /=(?!=)/ value:_expression | _postfix
catch_clause = 'catch' '(' modifiers? _unannotated_type ('|' _unannotated_type)* identifier dimensions? ')' body:block
finally_clause = 'finally' block
parenthesized_expression = '(' _expression ')'

_expression = lambda_expression | _no_lambda
lambda_expression = parameters:(identifier | formal_parameters | inferred_parameters<'(' identifier (',' identifier)* ')'>) '->' body:(block | _expression)
_no_lambda = @chain(_operand
  | assignment_expression</(?:[+\-*\/%&|^]|<<|>>>?)?=(?!=)/ _expression>
  | instanceof_expression<'instanceof' 'final'? (_pattern | _type)>
  | ternary_expression<'?' _expression ':' _expression>
  | binary_expression</\|\||&&|==|!=|<=|>=|<<|>>>|>>|[+\-*\/%&|^<>]/ _operand>)
_operand = update_expression</\+\+|--/ _operand> | unary_expression</[+\-!~]/ _operand> | cast_expression | switch_expression | _postfix
cast_expression = '(' _annotation* _primitive dimensions? ')' _operand | '(' _type ('&' _type)* ')' (lambda_expression | !/[+\-]/ _operand)
_postfix = @chain(_primary
  | update_expression</\+\+|--/>
  | method_reference<'::' type_arguments? ('new' | identifier)>
  | array_access<'[' _expression ']'>
  | method_invocation<'.' type_arguments? identifier argument_list>
  | object_creation_expression<'.' _creation>
  | field_access<'.' (identifier | 'this' | 'super' | 'class')>
  | template_expression<'.' (string_literal)>)
_primary = _literal | _creation | array_creation_expression | class_literal<_unannotated_type '.' 'class'>
  | method_reference<_unannotated_type '::' type_arguments? ('new' | identifier)> | parenthesized_expression
  | explicit_constructor_invocation<type_arguments? ('this' | 'super') argument_list> | this<'this'> | super<'super'>
  | method_invocation<name:identifier arguments:argument_list> | identifier
_creation = object_creation_expression<_annotation* 'new' _annotation* type_arguments? _annotation* type:_simple_type argument_list class_body?>
array_creation_expression = 'new' _annotation* type:_simple_type (dimensions array_initializer | (_annotation* '[' _expression ']')+ dimensions?)
argument_list = '(' (_expression (',' _expression)*)? ')'
_literal = true<'true'> | false<'false'> | null_literal<'null'> | string_literal | character_literal | _number
string_literal = /"""[^"\\]*(?:(?:\\[\s\S]|"(?!""))[^"\\]*)*"""|"[^"\\\n]*(?:\\.[^"\\\n]*)*"/
character_literal = /'(?:[^'\\\n]|\\[^\n])+'/
_number = number</0[xX][\da-fA-F_]+(?:\.[\da-fA-F_]*)?(?:[pP][+\-]?\d+)?[lLfFdD]?|0[bB][01_]+[lL]?|(?:\d[\d_]*(?:\.[\d_]*)?|\.\d[\d_]*)(?:[eE][+\-]?\d[\d_]*)?[lLfFdD]?/>
"#

def java : Syntax.Grammar := Syntax.Notation.grammar javaRules [";", ")", "\x7d", "]"]

end CodeDigest.Grammars
