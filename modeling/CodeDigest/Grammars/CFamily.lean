import CodeDigest.Syntax.Notation

/-! The grammars of C and of C++, which replaces rules of C and adds its own. Directives end with their
line; a declaration is preferred to an expression where both fit. -/

namespace CodeDigest.Grammars

private def cRules : String := r#"
~source_unit = @item(_top)* @eof
_trivia0 = (~/(?:\s|\\\r?\n)+/ | comment)*
_trivia1 = (~/(?:[ \t\f\v]|\\\r?\n)+/ | comment)*
~comment = ~/\/\/(?:\\\r?\n|\\[^\n]|[^\\\n])*|\/\*[^*]*\*+(?:[^\/*][^*]*\*+)*\//
_reserved = /(?:if|else|while|for|do|switch|case|default|break|continue|return|goto|sizeof|struct|union|enum|typedef|extern|static|auto|register|inline|const|volatile|restrict|void|char|int|float|double|long|short|signed|unsigned|__attribute__|__attribute|__declspec|__extension__|__inline|__inline__|__volatile__|__restrict__|_Alignas|_Atomic|_Noreturn|_Generic)\b/
_name = !_reserved /[^\W\d$]\w*(?:\$\w*)*|\$\w*(?:\$\w*)*/
identifier = _name
type_identifier = _name
field_identifier = _name
statement_identifier = _name

_top = _item | _stray
_stray = preproc_call</#[ \t]*(?:elif|elifdef|elifndef|else|endif)\b/ (~/\r?\n/ | preproc_arg? _line_end)>
_item = _directive | preproc_if<_if (@item(_item))* _else> | linkage_specification | type_definition | function_definition | declaration | _empty_declaration | _statement
_directive = preproc_include | preproc_def | preproc_function_def | preproc_call
preproc_include = /#[ \t]*include\b/ path:(_string | system_lib_string</<(?:[^>\n]|\\>)*>/> | call_expression<identifier argument_list> | identifier) _line_end
_line_end = ~/\r?\n/ | ~/(?:\s|\\\r?\n)*/ comment _line_end
preproc_def = /#[ \t]*define\b/ name:identifier (~/\r?\n/ | !~'(' _line_end | !~'(' preproc_arg _line_end)
preproc_function_def = /#[ \t]*define\b/ name:identifier preproc_params (~/\r?\n/ | _line_end | preproc_arg _line_end)
~preproc_params = ~'(' (_macro_name (',' _macro_name)*)? ')'
_macro_name = identifier | '...'
preproc_arg = /[^\s\/](?:\\\r?\n|[^\/\n]|\/[^*])*|\/[^*](?:\\\r?\n|[^\/\n]|\/[^*])*/
preproc_call = !/#[ \t]*(?:include|define|if|ifdef|ifndef|elif|elifdef|elifndef|else|endif)\b/ /#[ \t]*[a-zA-Z0-9]\w*/ (~/\r?\n/ | preproc_arg? _line_end)
_if = /#[ \t]*if\b/ @mode1(_condition /\r?\n/) | /#[ \t]*ifn?def\b/ identifier
_elif = /#[ \t]*elif\b/ @mode1(_condition /\r?\n/) | /#[ \t]*elifn?def\b/ identifier
_else = (preproc_elif<_elif (@item(_item))*>)* (preproc_else</#[ \t]*else\b/ (@item(_item))*>)? /#[ \t]*endif\b/
_else_of_fields = (preproc_elif<_elif (@item(_field))*>)* (preproc_else</#[ \t]*else\b/ (@item(_field))*>)? /#[ \t]*endif\b/
_else_of_enumerators = (preproc_elif<_elif (enumerator ',')*>)* (preproc_else</#[ \t]*else\b/ (enumerator ',')*>)? /#[ \t]*endif\b/
_condition = @chain((_condition_operand) | binary_expression</\|\||&&|==|!=|<=|>=|<<|>>|[+\-*\/%&|^<>]/ _condition_operand>)
_condition_operand = preproc_defined<'defined' ('(' identifier ')' | identifier)> | unary_expression</[!~+\-]/ _condition_operand> | '(' _condition ')'
  | call_expression<identifier '(' (_condition (',' _condition)*)? ')'> | identifier | _number | char_literal

_modifier = storage_class_specifier | type_qualifier | attribute_specifier | attribute_declaration | ms_declspec_modifier
storage_class_specifier = /(?:extern(?!\s*")|static|auto|register|inline|__inline__|__inline|__forceinline|thread_local|__thread)\b/
type_qualifier = /(?:const|constexpr|volatile|restrict|__restrict__|__extension__|_Atomic|_Noreturn|noreturn|_Nonnull)\b/ | ('alignas' | '_Alignas') '(' (_expression | type_descriptor) ')'
attribute_specifier = /__attribute(?:__)?\b/ '(' argument_list ')'
attribute_declaration = '[[' _attribute (',' _attribute)* ']' ~']'
_attribute = attribute<(identifier '::')? identifier argument_list?>
ms_declspec_modifier = '__declspec' '(' identifier ')'
_calling = ms_call_modifier</(?:__cdecl|__clrcall|__stdcall|__fastcall|__thiscall|__vectorcall)\b/>
_specifiers = _modifier* type:_type_specifier _modifier*
_type_specifier = struct_specifier | union_specifier | enum_specifier | sized_type_specifier | primitive_type | _macro_type | type_identifier
_macro_type = macro_type_specifier<name:identifier '(' type_descriptor ')'> &/[*\w]/
sized_type_specifier = _sized+ type_qualifier* primitive_type? _sized* | primitive_type _sized+
_sized = /(?:signed|unsigned|long|short)\b/
primitive_type = /(?:bool|char|int|float|double|void|size_t|ssize_t|ptrdiff_t|intptr_t|uintptr_t|charptr_t|nullptr_t|max_align_t|u?int(?:8|16|32|64)_t|char(?:8|16|32|64)_t)\b/
struct_specifier = 'struct' _record
union_specifier = 'union' _record
_record = attribute_specifier? attribute_declaration? ms_declspec_modifier? (name:type_identifier attribute_specifier? body:field_declaration_list | name:type_identifier | body:field_declaration_list) attribute_specifier?
enum_specifier = 'enum' (name:type_identifier (':' underlying_type:primitive_type)? body:enumerator_list | name:type_identifier | body:enumerator_list) attribute_specifier?
enumerator_list = lbrace (enumerator (',' | &rbrace) | _directive | preproc_if<_if (enumerator ',')* _else_of_enumerators>)* rbrace
enumerator = name:identifier attribute_specifier* ('=' value:_expression)?
field_declaration_list = lbrace @item(_field | _stray)* rbrace
_field = _directive | preproc_if<_if (@item(_field))* _else_of_fields> | field_declaration
field_declaration = _specifiers (declarator:_declarator bitfield_clause? (',' declarator:_declarator bitfield_clause?)* | bitfield_clause)? attribute_specifier? ';'
bitfield_clause = ':' _expression

function_definition = _calling? _specifiers _calling? declarator:_declarator (body:compound_statement | declaration+ body:compound_statement)
declaration = _specifiers declarator:_initialised (',' declarator:_initialised)* ';'
_initialised = init_declarator<declarator:_declarator /=(?!=)/ value:(initializer_list | _expression)> | _calling? _declarator gnu_asm_expression?
_empty_declaration = _type_specifier ';'
type_definition = '__extension__'? 'typedef' _modifier* type:_type_specifier _modifier* declarator:_typedef (',' declarator:_typedef)* attribute_specifier* ';'
_typedef = _declarator | _sized | primitive_type
linkage_specification = 'extern' value:_string body:(function_definition | declaration | declaration_list)
declaration_list = lbrace @item(_top)* rbrace

_declarator = pointer_declarator<'*' _pointer_modifier* type_qualifier* declarator:_declarator> | attributed_declarator<_direct attribute_declaration+> | _direct
_pointer_modifier = /(?:__unaligned|__restrict|__uptr|__sptr|_unaligned)\b/
_direct = @chain((_declared_name | parenthesized_declarator<'(' _calling? _declarator ')'>)
  | function_declarator<parameters:parameter_list _function_tail*>
  | array_declarator<_dimension>)
_declared_name = identifier
_dimension = '[' (type_qualifier | 'static')* (_expression | '*')? ']'
_function_tail = attribute_specifier | gnu_asm_expression | call_expression<identifier argument_list> | identifier
parameter_list = '(' (_parameter (',' _parameter)*)? ')'
_parameter = variadic_parameter<'...'> | parameter_declaration<_specifiers (declarator:_declarator | declarator:_abstract)? attribute_specifier*>
_abstract = abstract_pointer_declarator<'*' _pointer_modifier* type_qualifier* _abstract?> | @chain((_abstract_base) | abstract_function_declarator<parameter_list> | abstract_array_declarator<_dimension>)
_abstract_base = abstract_parenthesized_declarator<'(' _calling? _abstract ')'> | abstract_function_declarator<parameter_list> | abstract_array_declarator<_dimension>
type_descriptor = type_qualifier* type:_type_specifier type_qualifier* _abstract?
initializer_list = lbrace (_element (',' _element)*)? ','? rbrace
_element = initializer_pair<(subscript_designator<'[' _expression ']'> | field_designator<'.' field_identifier> | subscript_range_designator<'[' _expression '...' _expression ']'>)+ /=(?!=)/ (initializer_list | _expression)>
  | initializer_pair<field_identifier /:(?!:)/ (initializer_list | _expression)> | initializer_list | _expression

compound_statement = lbrace @item(_top)* rbrace
_statement = case_statement | compound_statement | if_statement | switch_statement | do_statement | while_statement | for_statement | return_statement
  | break_statement | continue_statement | goto_statement | labeled_statement | attributed_statement<attribute_declaration+ _statement> | expression_statement
_expressions = comma_expression<_expression (',' _expression)+> | _expression
expression_statement = _expressions? ';'
case_statement = ('case' _expression | 'default') ':' (!/(?:case|default)\b/ (attributed_statement<attribute_declaration+ _statement> | type_definition | declaration | _statement))*
labeled_statement = statement_identifier /:(?!:)/ (declaration | _statement)
if_statement = 'if' condition:parenthesized_expression consequence:_statement else_clause<'else' _statement>?
switch_statement = 'switch' condition:parenthesized_expression body:compound_statement
do_statement = 'do' body:_statement 'while' condition:parenthesized_expression ';'
while_statement = 'while' condition:parenthesized_expression body:_statement
for_statement = 'for' '(' (declaration | _expressions? ';') _expressions? ';' _expressions? ')' body:_statement
return_statement = 'return' _expressions? ';'
break_statement = 'break' ';'
continue_statement = 'continue' ';'
goto_statement = 'goto' statement_identifier ';'
parenthesized_expression = '(' (_expressions | compound_statement) ')'

_expression = @chain((_operand)
  | assignment_expression</(?:[+\-*\/%&|^]|<<|>>)?=(?!=)/ (initializer_list | _expression)>
  | conditional_expression<'?' _expressions? ':' _expression>
  | binary_expression<_operator _operand>)
_operator = /\|\||&&|==|!=|<=|>=|<<|>>|[+\-*\/%&|^<>]/
_operand = update_expression</\+\+|--/ _operand> | unary_expression</[!~+\-]/ _operand> | pointer_expression</[*&]/ _operand> | sizeof_expression | alignof_expression | cast_expression | _postfix
sizeof_expression = 'sizeof' ('(' type_descriptor ')' !lbrace | _operand)
alignof_expression = /(?:__alignof__|__alignof|_alignof|alignof|_Alignof)\b/ '(' type_descriptor ')'
cast_expression = '(' type_descriptor ')' _operand
_postfix = @chain(_primary
  | call_expression<arguments:argument_list>
  | subscript_expression<'[' _expressions ']'>
  | field_expression</\.(?!\.)|->/ field_identifier>
  | update_expression</\+\+|--/>)
_primary = offsetof_expression<'offsetof' '(' type_descriptor ',' field_identifier ')'> | generic_expression | compound_literal_expression | extension_expression<'__extension__' _expression>
  | gnu_asm_expression | _strings | _number | char_literal | identifier | parenthesized_expression
generic_expression = '_Generic' '(' _expression (',' (type_identifier<'default'> | type_descriptor) ':' _expression)+ ')'
compound_literal_expression = '(' type_descriptor ')' initializer_list
gnu_asm_expression = /(?:asm|__asm__|__asm)\b/ /(?:volatile|__volatile__|inline|goto)\b/* '(' (_strings) (':' _asm_operands?)* ')'
_asm_operands = _asm_operand (',' _asm_operand)*
_asm_operand = ('[' identifier ']')? _string ('(' _expression ')')? | identifier
argument_list = '(' (_argument (',' _argument)*)? ')'
_argument = type_descriptor &/[,)]/ | _expression | compound_statement
_strings = concatenated_string<identifier? _string (_string | identifier)+> | _string | concatenated_string<identifier _string>
_string = string_literal</(?:L|u8|u|U)?"(?:[^\\"\n]|\\(?:\r?\n|[^\n]))*"/>
char_literal = /(?:L|u8|u|U)?'(?:\\.|[^\n'\\])+'/
_number = number_literal</[+\-]?\.?\d(?:[eEpP][+\-]|'?[\w.])*/>
"#

def c : Syntax.Grammar := Syntax.Notation.grammar cRules [";", ")", "\x7d", "]", "\n", "\n#endif\n"]

private def cppRules : String := r#"
_reserved = /(?:if|else|while|for|do|switch|case|default|break|continue|return|goto|sizeof|struct|union|enum|class|typedef|extern|static|register|inline|const|constexpr|consteval|constinit|volatile|void|char|int|float|double|long|short|signed|unsigned|auto|decltype|namespace|template|typename|using|public|private|protected|virtual|friend|explicit|mutable|operator|new|delete|try|catch|throw|static_assert|concept|requires|noexcept|alignas|co_return|co_yield|co_await|__attribute__|__attribute|__declspec|__extension__|__inline|__inline__|__volatile__|__restrict__)\b/
_item = _directive | preproc_if<_if (@item(_item))* _else> | linkage_specification | namespace_definition | namespace_alias_definition | concept_definition | using_declaration
  | alias_declaration | static_assert_declaration | template_declaration | template_instantiation | type_definition | declaration | function_definition | _constructor | _cast_definition
  | declaration<_cast_declaration> | _empty_declaration | _statement
namespace_definition = 'inline'? 'namespace' attribute_declaration* name:(nested_namespace_specifier<identifier ('::' 'inline'? identifier)+> | identifier)? body:declaration_list
namespace_alias_definition = 'namespace' name:identifier '=' _qualified_name ';'
concept_definition = 'concept' name:identifier '=' _expression ';'
using_declaration = 'using' ('namespace' | 'enum')? _qualified_name ';'
alias_declaration = 'using' name:type_identifier attribute_declaration* '=' type:type_descriptor ';'
static_assert_declaration = 'static_assert' '(' _expression (',' _strings)? ')' ';'
template_declaration = 'template' template_parameter_list requires_clause? (alias_declaration | concept_definition | friend_declaration | template_declaration | _empty_declaration | declaration
  | function_definition | _constructor | _cast_definition | declaration<_constructor_declaration> | declaration<_cast_declaration>)
template_instantiation = 'extern'? 'template' !'<' _specifiers declarator:_declarator? ';'
template_parameter_list = '<' (_template_parameter (',' _template_parameter)*)? '>'
_template_parameter = type_parameter_declaration<('typename' | 'class') '...'? type_identifier? ('=' type_descriptor)? &/[,>]/>
  | template_template_parameter_declaration<'template' template_parameter_list ('typename' | 'class') '...'? type_identifier? ('=' type_descriptor)?>
  | parameter_declaration<_specifiers (declarator:_declarator | declarator:_abstract)? ('=' _template_value)?>
template_argument_list = '<' (_template_argument (',' _template_argument)*)? '>'
_template_argument = type_descriptor '...'? &/[,>]/ | _template_value '...'? &/[,>]/
_template_value = @chain((_operand)
  | conditional_expression<'?' _template_value ':' _template_value>
  | binary_expression</\|\||&&|==|!=|<=|<<|[+\-*\/%&|^<]/ _operand>)

_modifier = storage_class_specifier | type_qualifier | attribute_specifier | attribute_declaration | ms_declspec_modifier | virtual<'virtual'>
storage_class_specifier = /(?:extern(?!\s*")|static|register|inline|__inline__|__inline|__forceinline|thread_local|__thread)\b/
type_qualifier = /(?:const|constexpr|consteval|constinit|mutable|volatile|restrict|__restrict__|__extension__|_Atomic|_Noreturn|noreturn|_Nonnull)\b/ | ('alignas' | '_Alignas') '(' (type_descriptor &')' | _expression) ')'
attribute_declaration = '[[' ('using' identifier ':')? (_attribute (',' _attribute)*)? ']' ~']'
_attribute = attribute<(identifier '::')? identifier argument_list?> '...'?
_type_specifier = struct_specifier | union_specifier | enum_specifier | class_specifier | sized_type_specifier | primitive_type | dependent_type<'typename' _qualified_type> | _placeholder | decltype | _constrained | _qualified_type
_placeholder = placeholder_type_specifier<auto<'auto'> | 'decltype' '(' 'auto' ')'>
_constrained = placeholder_type_specifier<_qualified_type 'auto'>
decltype = 'decltype' '(' _expression ')'
_scope = (decltype | dependent_name<'template' template_type<identifier template_argument_list>> | template_type<identifier template_argument_list> | identifier) '::'
_qualified_type = qualified_identifier<('::' _scope* | _scope+) 'template'? _type_name> | _type_name
_type_name = template_type<name:type_identifier template_argument_list> | type_identifier
_qualified_name = qualified_identifier<('::' _scope* | _scope+) (operator_name | destructor_name | _type_name)> | _type_name
class_specifier = 'class' _record
_record = (attribute_specifier | attribute_declaration | ms_declspec_modifier | 'alignas' '(' (type_descriptor &')' | _expression) ')')* (name:_class_name virtual_specifier? base_class_clause? body:field_declaration_list
  | name:_class_name | base_class_clause? body:field_declaration_list)
_class_name = qualified_identifier<('::' _scope* | _scope+) _type_name> | template_type<type_identifier template_argument_list> | type_identifier
virtual_specifier = /(?:final|override)\b/
base_class_clause = ':' _base (',' _base)*
_base = attribute_declaration* (('public' | 'private' | 'protected') 'virtual'? | 'virtual' ('public' | 'private' | 'protected')?)? _qualified_type '...'?
enum_specifier = 'enum' ('class' | 'struct')? attribute_specifier? attribute_declaration* (name:_class_name (':' _enum_base)? body:enumerator_list | name:_class_name (':' _enum_base)? | body:enumerator_list) attribute_specifier?
_enum_base = sized_type_specifier | primitive_type | _qualified_type
enumerator = name:identifier (attribute_specifier | attribute_declaration)* ('=' value:_expression)?

_field = _directive | preproc_if<_if (@item(_field))* _else_of_fields> | access_specifier</(?:public|private|protected)\b/> ':' | template_declaration | friend_declaration | alias_declaration | using_declaration | type_definition
  | static_assert_declaration | field_declaration | function_definition | _constructor | _cast_definition | declaration<_constructor_declaration> | declaration<_cast_declaration> | ';'
friend_declaration = 'constexpr'? 'friend' (declaration | function_definition | _cast_definition | ('class' | 'struct' | 'union')? _qualified_type ';')
field_declaration = _specifiers (_field_name (',' _field_name)* | bitfield_clause)? attribute_specifier? ';'
_field_name = declarator:_plain default_value:initializer_list | declarator:_declarator (bitfield_clause | /=(?!=)/ default_value:(initializer_list | _expression))?
bitfield_clause = ':' _expression (initializer_list | /=(?!=)/ (initializer_list | _expression))?
function_definition = _calling? _specifiers _calling? declarator:_declarator _function_body
_function_body = field_initializer_list? body:compound_statement | default_method_clause<'=' 'default' ';'> | delete_method_clause<'=' 'delete' ('(' _strings ')')? ';'> | try_statement<'try' field_initializer_list? body:compound_statement catch_clause+>
_constructor = function_definition<(_modifier | _explicit)* _calling? declarator:_constructor_declarator (_function_body | pure_virtual_clause<'=' '0' ';'>)>
_constructor_declaration = (_modifier | _explicit)* _calling? declarator:_constructor_declarator ';'
_constructor_declarator = function_declarator<(qualified_identifier<('::' _scope* | _scope+) (destructor_name | template_function<identifier template_argument_list> | identifier)> | destructor_name | template_function<identifier template_argument_list> | identifier) parameters:parameter_list _function_tail*>
_explicit = explicit_function_specifier<'explicit' ('(' _expression ')')?>
_cast_definition = function_definition<(_modifier | _explicit)* declarator:_cast_operator (_function_body | pure_virtual_clause<'=' '0' ';'>)>
_cast_declaration = (_modifier | _explicit)* declarator:_cast_operator ('=' '0')? ';'
_cast_operator = operator_cast<'::'? _scope* 'operator' _specifiers declarator:_abstract>
field_initializer_list = ':' field_initializer (',' field_initializer)*
field_initializer = _qualified_type (argument_list | initializer_list) '...'?

_initialised = init_declarator<declarator:_declarator /=(?!=)/ value:(initializer_list | _expression)> | _calling? _declarator gnu_asm_expression? &/[,;]/
  | init_declarator<declarator:_plain value:(argument_list | initializer_list)>
_plain = pointer_declarator<'*' type_qualifier* _plain> | reference_declarator<('&&' | '&') _plain> | @chain((_declared_name) | array_declarator<_dimension>)
_declarator = pointer_declarator<(_scope* '*') _pointer_modifier* type_qualifier* declarator:_declarator> | reference_declarator<('&&' | '&') _declarator> | attributed_declarator<_direct attribute_declaration+> | _direct
_declared_name = structured_binding_declarator<'[' identifier (',' identifier)* ']'> | variadic_declarator<'...' identifier?> | operator_name | destructor_name
  | qualified_identifier<('::' _scope* | _scope+) (operator_name | destructor_name | template_function<identifier template_argument_list> | identifier)> | template_function<identifier template_argument_list> | identifier
operator_name = /operator\s*(?:co_await\b|new\s*\[\s*\]|delete\s*\[\s*\]|new\b|delete\b|""\s*\w+|\(\s*\)|\[\s*\]|<=>|->\*?|<<=?|>>=?|&&|\|\||\+\+|--|[+\-*\/%^&|=!<>]=|[+\-*\/%^&|~!=<>,])/
destructor_name = '~' identifier
_function_tail = attribute_specifier | attribute_declaration | type_qualifier | ref_qualifier</&&?/> | noexcept<'noexcept' ('(' _expression? ')')?> | throw_specifier<'throw' '(' (type_descriptor '...'? (',' type_descriptor '...'?)*)? ')'>
  | trailing_return_type<'->' type_descriptor> | gnu_asm_expression | requires_clause | virtual_specifier
_parameter = variadic_parameter<'...'> | optional_parameter_declaration<_parameter_head /=(?!=)/ default_value:(initializer_list | _expression)> | parameter_declaration<_parameter_head>
_parameter_head = 'this'? _specifiers (declarator:_declarator | declarator:_abstract)? attribute_specifier*
_abstract = abstract_pointer_declarator<_scope* '*' _pointer_modifier* type_qualifier* _abstract?> | abstract_reference_declarator<('&&' | '&') _abstract?> | variadic_declarator<'...'>
  | @chain((_abstract_base) | abstract_function_declarator<parameter_list _function_tail*> | abstract_array_declarator<_dimension>)
_abstract_base = abstract_parenthesized_declarator<'(' _calling? _abstract ')'> | abstract_function_declarator<parameter_list _function_tail*> | abstract_array_declarator<_dimension>
requires_clause = 'requires' _constraint
_constraint = @chain((_constraint_operand) | constraint_conjunction<('&&' | 'and') _constraint_operand> | constraint_disjunction<('||' | 'or') _constraint_operand>)
_constraint_operand = requires_expression | '(' _expression ')' | _qualified_type
requires_expression = 'requires' parameter_list? requirement_seq<lbrace (@item(_requirement))* rbrace>
_requirement = compound_requirement<lbrace _expression rbrace 'noexcept'? trailing_return_type<'->' type_descriptor>? ';'> | type_requirement<'typename' _qualified_type ';'> | 'requires' _expression ';' | expression_statement
initializer_list = lbrace (_element '...'? (',' _element '...'?)*)? ','? rbrace

_statement = case_statement | compound_statement | if_statement | switch_statement | do_statement | while_statement | for_range_loop | for_statement | return_statement
  | break_statement | continue_statement | goto_statement | try_statement | throw_statement | co_return_statement<'co_return' _expressions? ';'> | co_yield_statement<'co_yield' _expressions ';'>
  | labeled_statement | attributed_statement<attribute_declaration+ _statement> | expression_statement
if_statement = 'if' 'constexpr'? condition:condition_clause consequence:_statement else_clause<'else' _statement>?
switch_statement = 'switch' condition:condition_clause body:compound_statement
while_statement = 'while' condition:condition_clause body:_statement
condition_clause = '(' (alias_declaration | type_definition | declaration | expression_statement)? (declaration<_specifiers declarator:_declarator (/=(?!=)/ (initializer_list | _expression) | initializer_list)> | _expressions) ')'
for_range_loop = 'for' '(' (alias_declaration | declaration | expression_statement)? _specifiers declarator:_declarator ':' (initializer_list | _expression) ')' body:_statement
return_statement = 'return' (initializer_list | _expressions)? ';'
try_statement = 'try' body:compound_statement catch_clause+
catch_clause = 'catch' parameters:parameter_list body:compound_statement
throw_statement = 'throw' _expressions? ';'

_expression = @chain((_operand)
  | assignment_expression</(?:[+\-*\/%&|^]|<<|>>)?=(?!=)/ (initializer_list | _expression)>
  | conditional_expression<'?' _expressions? ':' _expression>
  | binary_expression<_operator _operand>)
_operator = /\|\||&&|==|!=|<=>|<=|>=|<<|>>|[+\-*\/%&|^<>]|(?:and|or|bitor|bitand|xor|not_eq)\b/
_operand = update_expression</\+\+|--/ _operand> | unary_expression</[!~+\-]|(?:not|compl)\b/ _operand> | pointer_expression</[*&]/ _operand> | co_await_expression<'co_await' _operand> | sizeof_expression | alignof_expression
  | new_expression | delete_expression<'::'? 'delete' ('[' ']')? _operand> | cast_expression | _postfix
sizeof_expression = 'sizeof' '...' '(' identifier ')' | 'sizeof' ('(' type_descriptor ')' !lbrace | _operand)
new_expression = '::'? 'new' argument_list? type:_type_specifier new_declarator<('[' _expression? ']')+>? (argument_list | initializer_list)?
_postfix = @chain(_primary
  | call_expression<arguments:argument_list>
  | subscript_expression<'[' (_expressions | initializer_list)? ']'>
  | field_expression</\.\*|->\*|\.(?!\.)|->/ _member>
  | update_expression</\+\+|--/>)
_member = qualified_field_identifier<_scope+ ('template'? template_method<identifier template_argument_list &_after_arguments> | destructor_name | identifier)> | 'template' template_method<identifier template_argument_list> | template_method<identifier template_argument_list &_after_arguments> | destructor_name | operator_name | field_identifier | _operand
_after_arguments = /[(\x7b)\]\x7d;,:?=.|>]|&&|!=|\z/
_primary = lambda_expression | requires_expression | fold_expression | compound_literal_expression | gnu_asm_expression | _strings | _number | char_literal | call_expression<(sized_type_specifier | primitive_type) argument_list>
  | offsetof_expression<'offsetof' '(' type_descriptor ',' field_identifier ')'> | extension_expression<'__extension__' _expression> | noexcept<'noexcept' '(' _expression ')'>
  | call_expression<dependent_type<'typename' _qualified_type> argument_list> | _name_expression | parenthesized_expression
_name_expression = qualified_identifier<('::' _scope* | _scope+) 'template'? (operator_name | destructor_name | template_function<identifier template_argument_list &_after_arguments> | identifier)>
  | template_function<identifier template_argument_list &_after_arguments> | operator_name | identifier | decltype
fold_expression = '(' '...' _fold_operator _expression ')' | '(' _operand _fold_operator '...' (_fold_operator _operand)? ')'
_fold_operator = /(?:<<|>>|[+\-*\/%&|^])=|\.\*|->\*|[,=](?!=)/ | _operator
compound_literal_expression = '(' type_descriptor ')' initializer_list | (sized_type_specifier | primitive_type | decltype | dependent_type<'typename' _qualified_type> | _qualified_type) initializer_list
lambda_expression = lambda_capture_specifier template_parameter_list? requires_clause? attribute_declaration* (abstract_function_declarator<parameter_list ('mutable' | 'constexpr' | 'static' | _function_tail)*> | ('mutable' | 'constexpr' | 'noexcept')* trailing_return_type<'->' type_descriptor>)? body:compound_statement
lambda_capture_specifier = '[' (_capture (',' _capture)*)? ']'
_capture = '=' | '&' &/[,\]]/ | lambda_capture_initializer<'&'? '...'? identifier '=' _expression> | lambda_capture_initializer<'&'? '...'? identifier initializer_list> | '*' 'this' | '&'? identifier '...'?
_argument = type_descriptor '...'? &/[,)]/ | initializer_list | _expression '...'? | compound_statement
_string = string_literal</(?:L|u8|u|U)?(?:R"([^()\\ \n]*)\([\s\S]*?\)\1"|"(?:[^\\"\n]|\\(?:\r?\n|[^\n]))*")(?:[a-zA-Z_]\w*)?/>
"#

def cpp : Syntax.Grammar := Syntax.Notation.grammar (cRules ++ cppRules) [";", ")", "\x7d", "]", "\n", ">", "\n#endif\n"]

end CodeDigest.Grammars
