import CodeDigest.Syntax.Notation

/-! The grammar of Python. A line belongs to a block when it is indented no less; brackets make
newlines trivia. A comment line belongs to the block that it is indented for, or that the next line
of code belongs to. -/

namespace CodeDigest.Grammars

private def pythonRules : String := r#"
~module = _line* _skipped ~%/\s*/ @eof
_trivia0 = (~/[ \t\f\uFEFF]+|\\\r?\n/ | comment)*
_trivia1 = (~/[\s\uFEFF]+|\\\r?\n/ | comment)*
~comment = ~/#[^\n]*/
_nl = (~%/[ \t\f]+|\\\r?\n/)* comment? (~%/\r?\n/ | @eof)
_skipped = (~%/[ \t\f]*\r?\n/ | _comment_line)*
_comment_line = (@aligned | &(_passed* @aligned !~'#') ~%/[ \t\f]*/) comment (~%/\r?\n/ | @eof)
_passed = ~%/[ \t\f]*(?:#[^\n]*)?\r?\n/
_line = _skipped @aligned @item(_statement)
_statement = _compound | _simple_line
_simple_line = _simple (';' _simple)* ';'? _nl
_end = &(/;|\r?\n/ | @eof)
_reserved = /(?:False|None|True|and|as|assert|break|class|continue|def|del|elif|else|except|finally|for|from|global|if|import|in|is|lambda|nonlocal|not|or|pass|raise|return|try|while|with|yield)\b/
_name = !_reserved /[^\W\d]\w*/
identifier = _name

_simple = future_import_statement | import_statement | import_from_statement | assert_statement | return_statement | delete_statement
  | raise_statement | pass_statement<'pass'> | break_statement<'break'> | continue_statement<'continue'> | global_statement | nonlocal_statement
  | expression_statement _end | type_alias_statement | print_statement | exec_statement
future_import_statement = 'from' '__future__' 'import' _imported
import_statement = 'import' name:_module_as (',' name:_module_as)*
_module_as = aliased_import<name:dotted_name 'as' alias:identifier> | dotted_name
dotted_name = identifier ('.' identifier)*
import_from_statement = 'from' module_name:(relative_import</\.[. \t]*/ dotted_name?> | dotted_name) 'import' (wildcard_import<'*'> | _imported)
_imported = '(' @mode1(name:_name_as (',' name:_name_as)* ','? ')') | name:_name_as (',' name:_name_as)* ','?
_name_as = aliased_import<name:dotted_name 'as' alias:identifier> | dotted_name
assert_statement = 'assert' _expression (',' _expression)*
return_statement = 'return' _expressions?
delete_statement = 'del' _expressions
raise_statement = 'raise' _expressions? ('from' cause:_expression)?
global_statement = 'global' identifier (',' identifier)*
nonlocal_statement = 'nonlocal' identifier (',' identifier)*
print_statement = 'print' ('>>' _expression)? ','? (_expression (',' _expression)* ','?)?
exec_statement = 'exec' _expression ('in' _expression (',' _expression)*)?
type_alias_statement = 'type' left:type<_expression> '=' right:type<_expression>
expression_statement = assignment | augmented_assignment | yield | _expression (',' _expression)* ','?
assignment = left:_targets (':' type:type<_type> ('=' right:_assigned)? | /=(?!=)/ right:_assigned)
augmented_assignment = left:_targets /(?:\+|-|\*\*?|\/\/?|%|@|&|\||\^|<<|>>)=/ right:_assigned
_assigned = assignment | augmented_assignment | yield | _expressions
_targets = pattern_list<_target (',' _target)+ ','?> | pattern_list<_target ','> | _target
_target = list_splat_pattern<'*' _postfix> | _postfix
_type = splat_type<'*' _expression> | _expression
yield = 'yield' ('from' _expression | _expressions)?
_expressions = expression_list<_expression (',' _expression)+ ','?> | expression_list<_expression ','> | _expression

_compound = if_statement | for_statement | while_statement | try_statement | with_statement | function_definition | class_definition
  | decorated_definition | match_statement
_suite = ':' body:block
block = _nl _skipped @block(_line+ _skipped) | _simple_line | _nl
_clause = _skipped @aligned
if_statement = 'if' condition:_expression ':' consequence:block (_clause elif_clause)* (_clause else_clause)?
elif_clause = 'elif' condition:_expression ':' consequence:block
else_clause = 'else' _suite
for_statement = 'async'? 'for' left:_targets 'in' right:_expressions _suite (_clause else_clause)?
while_statement = 'while' condition:_expression _suite (_clause else_clause)?
try_statement = 'try' _suite (_clause except_clause)* (_clause else_clause)? (_clause finally_clause)?
except_clause = 'except' '*'? (_expression (',' _expression)*)? ':' block
finally_clause = 'finally' ':' block
with_statement = 'async'? 'with' with_clause _suite
with_clause = with_item (',' with_item)* ','?
with_item = _expression
function_definition = 'async'? 'def' name:identifier type_parameters:type_parameter? parameters:parameters ('->' return_type:type<_type>)? _suite
class_definition = 'class' name:identifier type_parameters:type_parameter? superclasses:argument_list? _suite
decorated_definition = (decorator _skipped @aligned)+ definition:(class_definition | function_definition)
decorator = '@' _expression _nl
match_statement = 'match' subject:_expression (',' subject:_expression)* ','? ':' _nl _skipped @block((_skipped @aligned case_clause)+ _skipped)
case_clause = 'case' _case (',' _case)* ','? guard:if_clause? ':' consequence:block
_case = splat_pattern<'*' _expression> | _expression
parameters = '(' @mode1((_parameter (',' _parameter)* ','?)? ')')
_parameter = keyword_separator<'*' &/[,)]/> | positional_separator<'/'> | _splat_name ':' type<_type> | _splat_name
  | typed_default_parameter<name:identifier ':' type:type<_type> '=' value:_expression> | typed_parameter<identifier ':' type:type<_type>>
  | default_parameter<name:(identifier | tuple_pattern) '=' value:_expression> | identifier | tuple_pattern
_splat_name = dictionary_splat_pattern<'**' identifier> | list_splat_pattern<'*' identifier>
tuple_pattern = '(' @mode1((_target | tuple_pattern) (',' (_target | tuple_pattern))* ','? ')')
type_parameter = '[' @mode1(_type_bound (',' _type_bound)* ','? ']')
_type_bound = ('**' | '*')? identifier (':' _expression)? ('=' _expression)?

_expression = lambda | @chain((named_expression<name:identifier ':=' value:_expression> | _operand)
  | conditional_expression<'if' _expression 'else' _expression>
  | as_pattern<'as' alias:as_pattern_target<_operand>>
  | boolean_operator<('and' | 'or') _operand>
  | comparison_operator<(/<=|>=|==|!=|<>|<(?![<=])|>(?![>=])/ | 'not' 'in' | 'in' | 'is' 'not' | 'is') _operand>
  | binary_operator</(?:\*\*|\/\/|<<|>>|[+\-*\/%@&|^])(?!=)/ _operand>)
_operand = not_operator<'not' _operand> | unary_operator</[+\-~]/ _operand> | await<'await' _operand> | lambda | _postfix
lambda = 'lambda' parameters:lambda_parameters? ':' body:_expression
lambda_parameters = _lambda_parameter (',' _lambda_parameter)* ','?
_lambda_parameter = keyword_separator<'*' &/[,:]/> | positional_separator<'/'> | _splat_name | default_parameter<name:(identifier | tuple_pattern) '=' value:_expression>
  | identifier | tuple_pattern
_postfix = @chain(_primary
  | call<arguments:argument_list>
  | subscript<'[' @mode1(_subscript (',' _subscript)* ','? ']')>
  | attribute<'.' attribute:identifier</[^\W\d]\w*/>>)
_subscript = slice<_expression? ':' _expression? (':' _expression?)?> | list_splat<'*' _expression> | _expression
argument_list = '(' @mode1((_argument (',' _argument)* ','?)? ')')
_argument = keyword_argument<name:identifier</[^\W\d]\w*/> /=(?!=)/ value:_expression> | dictionary_splat<'**' _expression> | list_splat<'*' _expression>
  | generator_expression<_expression _comprehension> | _expression
_comprehension = for_in_clause (for_in_clause | if_clause)*
for_in_clause = 'async'? 'for' left:_targets 'in' right:_in (',' _in)* ','?
_in = lambda | @chain(_operand
  | boolean_operator<('and' | 'or') _operand>
  | comparison_operator<(/<=|>=|==|!=|<>|<(?![<=])|>(?![>=])/ | 'not' 'in' | 'in' | 'is' 'not' | 'is') _operand>
  | binary_operator</(?:\*\*|\/\/|<<|>>|[+\-*\/%@&|^])(?!=)/ _operand>
  | conditional_expression<'if' _expression 'else' _expression>)
if_clause = 'if' _expression
_primary = concatenated_string<string string+> | string | float | integer | true<'True'> | false<'False'> | none<'None'> | ellipsis<'...'>
  | tuple | parenthesized_expression | generator_expression<'(' @mode1(_expression _comprehension ')')>
  | list_comprehension<'[' @mode1(_expression _comprehension ']')> | list
  | dictionary_comprehension<lbrace @mode1(pair _comprehension rbrace)> | set_comprehension<lbrace @mode1(_expression _comprehension rbrace)> | dictionary | set
  | string_expression<'`' _expressions '`'> | list_splat<'*' (identifier | _primary &/[\[.]/)> | identifier
parenthesized_expression = '(' @mode1((yield | list_splat<'*' _expression> | _expression) ')')
tuple = '(' @mode1((_element (',' _element)* ','?)? ')')
list = '[' @mode1((_element (',' _element)* ','?)? ']')
set = lbrace @mode1(_element (',' _element)* ','? rbrace)
dictionary = lbrace @mode1((_entry (',' _entry)* ','?)? rbrace)
_element = list_splat<'*' _expression> | yield | _expression
_entry = dictionary_splat<'**' _expression> | pair
pair = key:_expression ':' value:_expression
string = _format_string | /[bBfFrRuUtT]?[bBfFrRuUtT]?(?:"""[^"\\]*(?:(?:\\[\s\S]|"(?!""))[^"\\]*)*"""|'''[^'\\]*(?:(?:\\[\s\S]|'(?!''))[^'\\]*)*'''|"[^"\\\n]*(?:\\[\s\S][^"\\\n]*)*"|'[^'\\\n]*(?:\\[\s\S][^'\\\n]*)*')/
_format_string = /(?:[fFtT][rR]?|[rR][fFtT])(?=["'])/ (~/"""/ (~/[^"\\\x7b\x7d]+|\\[\s\S]|"(?!"")|\x7b\x7b|\x7d\x7d/ | interpolation)* ~/"""/
  | ~/"(?!"")/ (~/[^"\\\x7b\x7d\n]+|\\[\s\S]|\x7b\x7b|\x7d\x7d/ | interpolation)* ~/"/
  | ~/'''/ (~/[^'\\\x7b\x7d]+|\\[\s\S]|'(?!'')|\x7b\x7b|\x7d\x7d/ | interpolation)* ~/'''/
  | ~/'(?!'')/ (~/[^'\\\x7b\x7d\n]+|\\[\s\S]|\x7b\x7b|\x7d\x7d/ | interpolation)* ~/'/)
~interpolation = ~lbrace @mode1((yield | _expressions) '='? (/![a-z]/)? (':' (~/[^\x7b\x7d"'\n]+/ | interpolation)*)? rbrace)
float = /(?:\d[\d_]*\.[\d_]*|\.\d[\d_]*)(?:[eE][+\-]?[\d_]+)?[jJlL]?|\d[\d_]*[eE][+\-]?[\d_]+[jJlL]?/
integer = /(?:0[xX][\da-fA-F_]+|0[oO][0-7_]+|0[bB][01_]+|\d[\d_]*)[lLjJ]?/
"#

def python : Syntax.Grammar := Syntax.Notation.grammar pythonRules [")", "]", "\x7d", ":"]

end CodeDigest.Grammars
