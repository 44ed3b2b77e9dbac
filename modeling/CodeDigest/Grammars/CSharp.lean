import CodeDigest.Syntax.Notation

/-! The grammar of C#. Regions and the like count as trivia; conditional sections stand where a
declaration or a statement may. -/

namespace CodeDigest.Grammars

private def csharpRules : String := r#"
~compilation_unit = shebang_directive<~/#![^\n]*/>? @item(_top)* @eof
_trivia0 = (~/[\s\uFEFF]+/ | comment | preproc_directive)*
~comment = ~/\/\/[^\n\r]*|\/\*[^*]*\*+(?:[^\/*][^*]*\*+)*\//
~preproc_directive = ~/#[ \t]*(?:region|endregion|line|pragma|nullable|error|warning|define|undef)\b[^\n]*/
_reserved = /(?:abstract|as|base|bool|break|byte|case|catch|char|checked|class|const|continue|decimal|default|delegate|do|double|else|enum|event|explicit|extern|false|finally|fixed|float|for|foreach|goto|if|implicit|in|int|interface|internal|is|lock|long|namespace|new|null|object|operator|out|override|params|private|protected|public|readonly|ref|return|sbyte|sealed|short|sizeof|stackalloc|static|string|struct|switch|this|throw|true|try|typeof|uint|ulong|unchecked|unsafe|ushort|using|virtual|void|volatile|while)\b/
_name = /@[^\W\d]\w*/ | !_reserved /[^\W\d]\w*/
identifier = _name
_if = /#[ \t]*if\b[^\n]*/
_elif = /#[ \t]*elif\b[^\n]*/
_else = /#[ \t]*else\b[^\n]*/
_endif = /#[ \t]*endif\b[^\n]*/

_top = extern_alias_directive<'extern' 'alias' identifier ';'> | using_directive | global_attribute | preproc_if<_if @item(_top)* (_elif @item(_top)*)* (_else @item(_top)*)? _endif>
  | file_scoped_namespace_declaration<'namespace' name:_qualified ';'> | namespace_declaration | _type_declaration | global_statement<_statement>
using_directive = 'global'? 'using' ('unsafe'? name:identifier /=(?!=)/ _type | 'static'? 'unsafe'? _qualified) ';'
global_attribute = '[' ('assembly' | 'module') ':' attribute (',' attribute)* ','? ']'
namespace_declaration = 'namespace' name:_qualified body:declaration_list<lbrace @item(_namespace_member)* rbrace> ';'?
_namespace_member = extern_alias_directive<'extern' 'alias' identifier ';'> | using_directive | preproc_if<_if @item(_namespace_member)* (_elif @item(_namespace_member)*)* (_else @item(_namespace_member)*)? _endif> | namespace_declaration | _member
_qualified = (identifier '::')? _simple ('.' _simple)*
_simple = generic_name<identifier type_argument_list> | identifier
type_argument_list = '<' (','* '>' | _type (',' _type)* '>')

attribute_list = '[' (attribute_target_specifier</\w+/ /:(?!:)/>)? attribute (',' attribute)* ','? ']'
attribute = name:_qualified attribute_argument_list<'(' (_attribute_argument (',' _attribute_argument)*)? ')'>?
_attribute_argument = attribute_argument<(identifier /[=:](?![=:])/)? _expression>
_prefix = attribute_list* _modifiers
_modifiers = (modifier</(?:abstract|const|extern|fixed|internal|new|override|private|protected|public|readonly|sealed|static|unsafe|virtual|volatile|(?:async|file|partial|required)(?=\s+[@\w(\[]))\b/>)*
_type_declaration = class_declaration | struct_declaration | record_declaration | interface_declaration | enum_declaration | delegate_declaration
class_declaration = _prefix 'class' name:identifier _type_rest
struct_declaration = _prefix 'ref'? 'partial'? 'struct' name:identifier _type_rest
record_declaration = _prefix 'record' ('class' | 'struct')? name:identifier _type_rest
interface_declaration = _prefix 'interface' name:identifier _type_rest
_type_rest = type_parameter_list? parameter_list? base_list? _constraints* (body:_members ';'? | ';')
enum_declaration = _prefix 'enum' name:identifier base_list? body:enum_member_declaration_list ';'?
enum_member_declaration_list = lbrace (_enum_member (',' _enum_member)* ','?)? rbrace
_enum_member = preproc_if<_if (enum_member_declaration ','?)* (_elif (enum_member_declaration ','?)*)* (_else (enum_member_declaration ','?)*)? _endif> enum_member_declaration? | enum_member_declaration
enum_member_declaration = attribute_list* name:identifier (/=(?!=)/ value:_expression)?
delegate_declaration = _prefix 'delegate' type:_type name:identifier type_parameter_list? parameter_list _constraints* ';'
type_parameter_list = '<' (_type_parameter (',' _type_parameter)*) '>'
_type_parameter = type_parameter<attribute_list* ('in' | 'out')? identifier>
base_list = ':' (_base (',' _base)*)
_base = primary_constructor_base_type<_qualified argument_list> | _type
_constraints = type_parameter_constraints_clause<'where' identifier ':' _constraint (',' _constraint)*>
_constraint = 'class' '?'? | 'struct' | 'notnull' | 'unmanaged' | 'new' '(' ')' | 'default' | 'allows' 'ref' 'struct' | _type
_members = declaration_list<lbrace @item(_member)* rbrace>
_member = preproc_if<_if @item(_member)* (_elif @item(_member)*)* (_else @item(_member)*)? _endif> | _type_declaration | event_field_declaration | event_declaration | conversion_operator_declaration
  | method_declaration | property_declaration | indexer_declaration | operator_declaration | constructor_declaration | destructor_declaration | field_declaration | using_directive
event_field_declaration = _prefix 'event' _type _declarators ';'
event_declaration = _prefix 'event' type:_type _member_name (accessor_list | ';')
field_declaration = _prefix _type _declarators ';'
_declarators = variable_declarator (',' variable_declarator)*
variable_declarator = (name:identifier | tuple_pattern) bracketed_argument_list? (/=(?![=>])/ _initial_value)?
_initial_value = initializer_expression | _expression
tuple_pattern = '(' (identifier | tuple_pattern) (',' (identifier | tuple_pattern))* ')'
_member_name = (_simple '.')* name:identifier
method_declaration = _prefix returns:_type _member_name type_parameter_list? parameters:parameter_list _constraints* _body
_body = body:block | body:arrow_expression_clause ';' | ';'
arrow_expression_clause = '=>' _expression
constructor_declaration = _prefix name:identifier parameters:parameter_list constructor_initializer<':' ('base' | 'this') argument_list>? _body
destructor_declaration = attribute_list* 'extern'? '~' name:identifier '(' ')' _body
operator_declaration = _prefix type:_type (_simple '.')* 'operator' 'checked'? /\+\+|--|==|!=|<=|>=|<<|>>>|>>|[+\-!~*\/%&|^<>]=?|(?:true|false)\b/ parameters:parameter_list _body
conversion_operator_declaration = _prefix ('implicit' | 'explicit') (_simple '.')* 'operator' 'checked'? type:_type parameters:parameter_list _body
indexer_declaration = _prefix type:_type (_simple '.')* 'this' bracketed_parameter_list<'[' (_parameter (',' _parameter)*)? ']'> (accessor_list | value:arrow_expression_clause ';')
property_declaration = _prefix type:_type _member_name (accessor_list (/=(?!=)/ value:_expression ';')? | value:arrow_expression_clause ';')
accessor_list = lbrace accessor_declaration* rbrace
accessor_declaration = _prefix name:(/(?:get|set|init|add|remove)\b/ | identifier) _body
parameter_list = '(' (_parameter (',' _parameter)*)? ')'
_parameter = parameter<attribute_list* /(?:this|scoped(?=\s+\w+\s)|ref|out|in|params|readonly)\b/* (_type name:identifier | 'params'? name:identifier &/[,)=]/ | '__arglist') (/=(?![=>])/ _expression)?>

_type = scoped_type<'scoped' _ref_type> | _ref_type
_ref_type = ref_type<'ref' 'readonly'? _suffixed_type> | _suffixed_type
_suffixed_type = @chain((_base_type) | nullable_type<'?'> | array_type<array_rank_specifier> | pointer_type<'*'>)
_plain_type = @chain((_base_type) | array_type<array_rank_specifier> | pointer_type<'*'>)
array_rank_specifier = '[' ','* ']'
_base_type = predefined_type</(?:bool|byte|char|decimal|double|float|int|long|object|sbyte|short|string|uint|ulong|ushort|nint|nuint|void)\b/> | tuple_type | function_pointer_type | _qualified
tuple_type = '(' _tuple_element (',' _tuple_element)+ ')'
_tuple_element = tuple_element<_type identifier?>
function_pointer_type = 'delegate' '*' ('managed' | 'unmanaged' ('[' identifier (',' identifier)* ']')?)? '<' /(?:ref|in|out|readonly)\b/* _type (',' /(?:ref|in|out|readonly)\b/* _type)* '>'

block = lbrace @item(_statement)* rbrace
_statement = preproc_if<_if @item(_statement)* (_elif @item(_statement)*)* (_else @item(_statement)*)? _endif> | block | empty_statement<';'> | labeled_statement<identifier /:(?!:)/ _statement> | if_statement | switch_statement | while_statement | do_statement
  | for_statement | foreach_statement | return_statement | break_statement<'break' ';'> | continue_statement<'continue' ';'> | goto_statement | throw_statement<'throw' _expression? ';'> | try_statement | lock_statement<'lock' '(' _expression ')' _statement>
  | fixed_statement<'fixed' '(' _type _declarators ')' _statement> | checked_statement<('checked' | 'unchecked') block> | unsafe_statement<'unsafe' block> | yield_statement | using_statement | local_declaration_statement
  | local_function_statement | expression_statement<_expression ';'>
if_statement = 'if' '(' condition:_expression ')' consequence:_statement ('else' alternative:_statement)?
switch_statement = 'switch' (tuple_expression | '(' value:_expression ')') body:switch_body<lbrace @item(switch_section)* rbrace>
switch_section = ('case' _pattern when_clause? ':' | 'default' ':')+ @item(_statement)*
when_clause = 'when' _expression
while_statement = 'while' '(' condition:_expression ')' body:_statement
do_statement = 'do' body:_statement 'while' '(' condition:_expression ')' ';'
for_statement = 'for' '(' (_modifiers _type _declarators | _expressions)? ';' condition:_expression? ';' _expressions? ')' body:_statement
_expressions = _expression (',' _expression)*
foreach_statement = 'await'? 'foreach' '(' (type:_type left:(identifier | tuple_pattern) | left:_expression) 'in' right:_expression ')' body:_statement
return_statement = 'return' _expression? ';'
goto_statement = 'goto' ('case' _expression | 'default' | identifier) ';'
yield_statement = 'yield' ('return' _expression | 'break') ';'
try_statement = 'try' body:block catch_clause* finally_clause<'finally' block>?
catch_clause = 'catch' catch_declaration<'(' _type identifier? ')'>? catch_filter_clause<'when' '(' _expression ')'>? body:block
using_statement = 'await'? 'using' '(' (_type _declarators | _expression) ')' body:_statement
local_declaration_statement = ('await'? 'using')? _modifiers _type _declarators ';'
local_function_statement = _prefix type:_type name:identifier type_parameter_list? parameters:parameter_list _constraints* _body

_expression = lambda_expression | _operation
lambda_expression = attribute_list* ('static' | 'async')* (_type parameters:parameter_list | parameters:parameter_list | parameters:implicit_parameter<identifier>) '=>' body:(block | _expression)
_operation = query_expression | @chain((_operand)
  | switch_expression<'switch' lbrace (_arm (',' _arm)* ','?)? rbrace>
  | with_expression<'with' lbrace (_with (',' _with)* ','?)? rbrace>
  | assignment_expression</(?:\?\?|>>>|<<|>>|[+\-*\/%&|^])?=(?![=>])/ _expression>
  | is_pattern_expression<'is' _pattern>
  | as_expression<'as' (_suffixed_type &/[;),\]\x7d?:&|=!]/ | _plain_type)>
  | range_expression</\.\./ _operand?>
  | conditional_expression<'?' _expression ':' _expression>
  | binary_expression<_operator _right>)
_operator = /\?\?|\|\||&&|==|!=|<=|>=|<<|>>>|>>|[+\-*\/%&|^<>]/
_right = throw_expression | _operand
_arm = switch_expression_arm<_pattern when_clause? '=>' _expression>
_with = with_initializer<identifier /=(?!=)/ _expression>
_operand = range_expression</\.\./ _operand?> | prefix_unary_expression</\+\+|--|[+\-!~&*^]/ _operand> | await_expression<'await' !/[=.,;)\]]/ _operand> | throw_expression | ref_expression<'ref' _operand> | cast_expression | _postfix
throw_expression = 'throw' _expression
cast_expression = '(' (predefined_type</(?:bool|byte|char|decimal|double|float|int|long|object|sbyte|short|string|uint|ulong|ushort|nint|nuint|void)\b/> &/[)?*\[]/) ('?' | '*' | array_rank_specifier)* ')' (_lambda_value | _operand)
  | '(' _suffixed_type ')' !/(?:is|as|switch|with|and|or|when|in)\b/ &/[\w@"'$(!~]/ (_lambda_value | _operand)
_lambda_value = lambda_expression
_postfix = @chain(_primary
  | conditional_access_expression</\?(?=\.[^\d])/ member_binding_expression<'.' _accessed>>
  | conditional_access_expression</\?(?=\[)/ element_binding_expression<bracketed_argument_list> !/:(?!:)/>
  | member_access_expression</\.(?!\.)|->|::/ name:_accessed>
  | invocation_expression<arguments:argument_list>
  | element_access_expression<subscript:bracketed_argument_list>
  | postfix_unary_expression</\+\+|--|!(?!=)/>)
_accessed = generic_name<identifier type_argument_list &_after_arguments> | identifier
_after_arguments = /[()\]\x7d:;,.?\[\x7b>]|==|!=|\|\||&&|[|^&]|\z/
_primary = _literal | interpolated_string_expression | anonymous_method_expression | _creation | _tuple | parenthesized_expression<'(' _expression ')'> | collection_expression | typeof_expression<'typeof' '(' _type ')'>
  | sizeof_expression<'sizeof' '(' _type ')'> | default_expression<'default' ('(' _type ')')?> | checked_expression<('checked' | 'unchecked') '(' _expression ')'> | this<'this'> | base<'base'>
  | makeref_expression</__(?:makeref|reftype)\b/ '(' _expression ')'> | refvalue_expression<'__refvalue' '(' _expression ',' _type ')'>
  | predefined_type</(?:bool|byte|char|decimal|double|float|int|long|object|sbyte|short|string|uint|ulong|ushort|nint|nuint)\b/> | alias_qualified_name<identifier '::' _simple> | _accessed
_tuple = tuple_expression
tuple_expression = '(' argument (',' argument)+ ')'
argument_list = '(' (argument (',' argument)*)? ')'
bracketed_argument_list = '[' (argument (',' argument)*)? ','* ']'
argument = (name:identifier /:(?!:)/)? ('ref' | 'out' | 'in')? (declaration_expression<_type identifier> &/[,)\]=]/ | _expression)
collection_expression = '[' (_item (',' _item)* ','?)? ']'
_item = spread_element</\.\./ _expression> | _expression
anonymous_method_expression = ('static' | 'async')* 'delegate' parameter_list? block
_creation = array_creation_expression<'new' _array_type initializer_expression?> | object_creation_expression<'new' _type argument_list? initializer_expression?> &_after_creation | anonymous_object_creation_expression
  | implicit_array_creation_expression<'new' '[' ','* ']' initializer_expression> | implicit_object_creation_expression<'new' argument_list initializer_expression?>
  | stackalloc_expression<'stackalloc' _array_type initializer_expression?> | implicit_stackalloc_expression<'stackalloc' '[' ']' initializer_expression>
_after_creation = /[^\[]|\z/
_array_type = _base_type ('?' | '*')? ('[' _expression (',' _expression)* ']' array_rank_specifier* | array_rank_specifier+)
anonymous_object_creation_expression = 'new' lbrace (_anonymous_member (',' _anonymous_member)* ','?)? rbrace
_anonymous_member = identifier /=(?!=)/ _expression | _expression
initializer_expression = lbrace (_initializer (',' _initializer)* ','?)? rbrace
_initializer = initializer_expression | assignment_expression<(bracketed_argument_list | identifier) /=(?![=>])/ _initial_value> | _expression
query_expression = from_clause _query_body
from_clause = 'from' (_type identifier | identifier) 'in' _expression
_query_body = (from_clause | let_clause<'let' identifier /=(?!=)/ _expression> | where_clause<'where' _expression> | join_clause | order_by_clause)* (select_clause<'select' _expression> | group_clause<'group' _expression 'by' _expression>) ('into' identifier _query_body)?
join_clause = 'join' (_type identifier | identifier) 'in' _expression 'on' _expression 'equals' _expression join_into_clause<'into' identifier>?
order_by_clause = 'orderby' _expression ('ascending' | 'descending')? (',' _expression ('ascending' | 'descending')?)*

_pattern = @chain((_pattern_operand) | and_pattern<'and' _pattern_operand> | or_pattern<'or' _pattern_operand>)
_pattern_operand = negated_pattern<'not' _pattern_operand> | relational_pattern</<=|>=|<|>/ _constant> | list_pattern | recursive_pattern | var_pattern<'var' (identifier | parenthesized_variable_designation)> | declaration_pattern<_plain_type _designation>
  | parenthesized_pattern<'(' _pattern ')'> &/[),:;=?&|\]\x7d]|(?:and|or|when)\b/ | constant_pattern<_constant> | type_pattern<_plain_type>
_designation = !/(?:and|or|when|is|as|switch|with)\b/ identifier
parenthesized_variable_designation = '(' (identifier | parenthesized_variable_designation) (',' (identifier | parenthesized_variable_designation))* ')'
list_pattern = '[' ((_slice | _pattern) (',' (_slice | _pattern))* ','?)? ']' _designation?
_slice = slice_pattern</\.\./ _pattern?>
recursive_pattern = (_plain_type? positional_pattern_clause property_pattern_clause | _plain_type? property_pattern_clause | _plain_type positional_pattern_clause | positional_pattern_clause) _designation?
positional_pattern_clause = '(' (subpattern (',' subpattern)+ | (_plain_type &'(')? subpattern)? ')'
property_pattern_clause = lbrace (subpattern (',' subpattern)* ','?)? rbrace
subpattern = (identifier ('.' identifier)* /:(?!:)/)? _pattern
_constant = @chain((_operand) | binary_expression</\|\||==|!=|<<|>>|[+\-*\/%|^]/ _operand>)

_literal = raw_string_literal</("""+)(?!")[\s\S]*?\1"*(?:[uU]8)?/> | verbatim_string_literal</@"(?:[^"]|"")*"(?:[uU]8)?/> | string_literal</"(?:[^"\\\n]|\\.)*"(?:[uU]8)?/> | character_literal</'(?:[^'\\\n]|\\[^\n])+'/>
  | real_literal</(?:\d[\d_]*)?\.\d[\d_]*(?:[eE][+\-]?\d[\d_]*)?[fFdDmM]?|\d[\d_]*[eE][+\-]?\d[\d_]*[fFdDmM]?|\d[\d_]*[fFdDmM]\b/> | integer_literal</(?:0[xX][\da-fA-F_]+|0[bB][01_]+|\d[\d_]*)(?:[uU][lL]?|[lL][uU]?)?/>
  | boolean_literal</(?:true|false)\b/> | null_literal<'null'>
interpolated_string_expression = /\$(?=")(?!""")/ ~'"' (~/(?:[^"\\\x7b\x7d\n]|\\.|\x7b\x7b|\x7d\x7d)+/ | interpolation)* ~'"' | /(?:\$@|@\$)"/ (~/(?:[^"\x7b\x7d]|""|\x7b\x7b|\x7d\x7d)+/ | interpolation)* ~'"'
  | /\$"""/ (~/(?:[^"\x7b\x7d]|"(?!""))+/ | interpolation)* ~'"""' | /\$\$+("""+)(?!")[\s\S]*?\1/
~interpolation = ~lbrace _expression (',' _expression)? (':' ~/[^\x7b\x7d"]*/)? ~/\s*/ ~rbrace
"#

def csharp : Syntax.Grammar := Syntax.Notation.grammar csharpRules [";", ")", "\x7d", "]"]

end CodeDigest.Grammars
