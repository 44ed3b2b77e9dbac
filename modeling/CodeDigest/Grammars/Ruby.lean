import CodeDigest.Syntax.Notation

/-! The grammar of Ruby. In the first mode of trivia a newline ends a statement, unless the next line
starts with a dot; in the second, inside brackets, it does not; in the third, the head of a loop,
the word that opens its body is not taken for the start of a block. -/

namespace CodeDigest.Grammars

private def rubyRules : String := r#"
~program = @mode0(_statements) (@eof | ~/__END__\r?\n[\s\S]*/)
_trivia0 = (~/[ \t\r\f\v]+|\\\r?\n/ | comment | _continued)*
_trivia1 = (~/[ \t\r\f\v]+|\\\r?\n/ | comment | @linebreak)*
_trivia2 = (~/[ \t\r\f\v]+|\\\r?\n/ | comment | _continued)* !~/do\b/
_continued = &~/(?:[ \t\r\f\v]*(?:#[^\n]*)?\n)+[ \t]*(?:\.(?!\.)|&\.)/ (~/[ \t\r\f\v]+/ | comment | @linebreak)+
~comment = ~/#[^\n]*/ | ~/(?m)^=begin\b[\s\S]*?\n=end\b[^\n]*/
_sep = (~%/[ \t\r\f\v]+|\\\r?\n|;/ | comment | @linebreak)*
_end1 = (~%/[ \t\r\f\v]+|\\\r?\n/ | comment)* (@linebreak | ~%/;/) _sep
_nls = (~%/[ \t\r\f\v]+|\\\r?\n/ | comment | @linebreak)*
_statements = _sep (@item(_statement) (_end1 | &/(?:end|else|elsif|when|in|rescue|ensure)\b|[\x7d)\]]|\z/))*
_reserved = /(?:__END__|__FILE__|__LINE__|__ENCODING__|alias|and|begin|BEGIN|break|case|class|def|defined\?|do|else|elsif|end|END|ensure|false|for|if|in|module|next|nil|not|or|redo|rescue|retry|return|self|super|then|true|undef|unless|until|when|while|yield)(?![\w?!])/
identifier = !_reserved /(?![A-Z])[^\W\d]\w*(?:[?!](?!=[^=~>]))?/
constant = !_reserved /[A-Z]\w*/
_any_name = /[^\W\d]\w*(?:[?!](?!=[^=~>]))?/
_command_start = ~/[ \t]+(?:(?!(?:and|do|else|elsif|end|ensure|if|in|or|rescue|then|unless|until|when|while)(?![\w?!:]))[\w@$"'\x60]|:["\w]|::\w|:[+\-*\/<>=!\[]|[*&\-+][^\s=&]|\*\*[^\s=]|\[|\(|\/[^\s=]|%[wWiIqQrsx]?[\[(\x7b<|!\/]|\?[^\s](?!\w)|<<[~\-]?["'\x60A-Z_a-z]|![^=~]|->|~|\.\.)/

_statement = @chain((_statement_head)
  | if_modifier<'if' _expression> | unless_modifier<'unless' _expression> | while_modifier<'while' _expression> | until_modifier<'until' _expression> | rescue_modifier<'rescue' _expression>)
_statement_head = undef<'undef' _method_name (',' _nls _method_name)*> | alias<'alias' (_method_name _method_name | _global _global)> | begin_block<'BEGIN' lbrace @mode0(_statements) rbrace> | end_block<'END' lbrace @mode0(_statements) rbrace> | _expression
_method_name = /(?:\[\]=?|\*\*|<=>|===?|=~|![=~]?|<<|>>|<=|>=|[+\-!~]@|[+\-*\/%<>~^&|\x60]|[^\W\d]\w*(?:[?!](?!=[^=~>])|=(?![=~>]))?)/ | _symbol
_expression = @chain((_not | _assigned)
  | binary<('and' | 'or') _nls (_not | _assigned)>
  | match_pattern<'=>' _pattern_top> | test_pattern<'in' _pattern_top>)
_not = unary<'not' _expression>
_assigned = assignment | operator_assignment | _operation
assignment = left:(left_assignment_list<_target ',' (_nls (_target ','))* _target?> | left_assignment_list<rest_assignment<'*' _lhs?> (',' _target)*> | left_assignment_list<destructured_left_assignment> | _lhs) /=(?![=~>])/ _nls right:_assigned_value
_target = rest_assignment<'*' _lhs?> | destructured_left_assignment | _lhs
destructured_left_assignment = '(' @mode1(_target (',' _target)* ','? ')')
_lhs = _postfix
operator_assignment = left:_lhs /(?:\|\||&&|\*\*|<<|>>|[+\-*\/%|&^])=/ _nls right:_assigned_value
_assigned_value = right_assignment_list<(_splat | _arg) (',' _nls (_splat | _arg))+> | right_assignment_list<_splat> | _assigned
_splat = splat_argument<'*' _arg>

_operation = @chain((_unary_command) | conditional<'?' _nls _arg _nls ':' _nls _arg> | range</\.\.\.?/ _unary?> | binary<_operator _nls _unary>)
_arg = assignment<left:_lhs /=(?![=~>])/ _nls right:_arg> | operator_assignment<left:_lhs /(?:\|\||&&|\*\*|<<|>>|[+\-*\/%|&^])=/ _nls right:_arg> | _plain_arg
_plain_arg = @chain((_unary) | conditional<'?' _nls _arg _nls ':' _nls _arg> | range</\.\.\.?/ _unary?> | binary<_operator _nls _unary>)
_operator = /<=>|===?|=~|!=|!~|<=|>=|(?:\*\*|<<|>>|&&|\|\|)(?!=)|&(?![&.=])|[+\-*\/%|^](?!=)|<|>/
_unary_command = unary<'!' _unary_command> | _command | _unary
_unary = unary<('defined?' | /[!~]|[+\-](?!>)/) _unary> | range</\.\.\.?/ _unary> | _postfix
_command = @chain((_command_head) | call</&?\.(?!\.)/ method:_call_name _suffix_arguments?> | element_reference<~'[' @mode1(_arguments? ']')> | call<block> | call<do_block>)
_command_head = call<method:(identifier | constant) &_command_start arguments:argument_list<_command_arguments> (block | do_block)?> | yield<'yield' &_command_start argument_list<_command_arguments>> | call<super<'super'> &_command_start arguments:argument_list<_command_arguments> (block | do_block)?>
  | return<'return' _values> | break<'break' _values> | next<'next' _values> | _receiver_command
_receiver_command = call<receiver:_postfix_until_command /&?\.(?!\.)|::/ method:identifier<_any_name> &_command_start arguments:argument_list<_command_arguments> (block | do_block)?>
_postfix_until_command = @chain((_primary)
  | call</&?\.(?!\.)|::/ !(_any_name &_command_start) method:_call_name _suffix_arguments?>
  | call</&?\./ _parenthesized_arguments>
  | scope_resolution<~'::' name:constant>
  | element_reference<~'[' @mode1(_arguments? ']')>
  | call<block> | call<do_block>)
_values = !/(?:if|unless|while|until|end|and|or|rescue|then)(?![\w?!:])/ argument_list<_command_arguments>
_command_arguments = _argument (',' _nls _argument)*
_argument = block_argument<'&' _plain_arg?> | hash_splat_argument<'**' _plain_arg?> | splat_argument<'*' _plain_arg?> | forward_argument<'...' &/[)]/> | pair | _argument_value
_argument_value = _command | _arg
pair = key:hash_key_symbol</[^\W\d]\w*[?!]?/> ~/:(?!:)/ (_nls value:_arg)? | key:string_key<_string> ~/:(?!:)/ _nls value:_arg | key:_plain_arg '=>' _nls value:_arg
_arguments = (_argument (',' _argument)*) ','?

_postfix = @chain((_primary)
  | call</&?\.(?!\.)|::(?![ \t]*[A-Z]\w*(?![\w?!(]))/ _nls method:_call_name _suffix_arguments?>
  | call</&?\./ _parenthesized_arguments>
  | scope_resolution<~'::' name:constant>
  | element_reference<~'[' @mode1(_arguments? ']')>
  | call<block> | call<do_block>)
_call_name = identifier<_any_name> | operator</\x60|\[\]=?|\*\*|<=>|===?|=~|![=~]?|<<|>>|<=|>=|[+\-*\/%<>~^&|!]/>
_suffix_arguments = ~'(' @mode1(_arguments? ')')
_parenthesized_arguments = '(' @mode1(_arguments? ')')
block = lbrace _block_parameters? @mode0(_statements) rbrace
do_block = 'do' _nls _block_parameters? @mode0(_body) 'end'
_block_parameters = block_parameters<'|' @mode1((_block_parameter (',' _block_parameter)* ','?)? (';' identifier (',' identifier)*)? '|')>
_block_parameter = hash_splat_parameter<'**' ('nil' | identifier)?> | splat_parameter<'*' identifier?> | block_parameter<'&' identifier?> | keyword_parameter<identifier ~/:(?!:)/ _unary?> | optional_parameter<identifier '=' _unary> | destructured_parameter<'(' _block_parameter (',' _block_parameter)* ','? ')'> | identifier

_primary = heredoc<@here/<<(?P<dash>[~\-]?)(["'\x60]?)(?P<tag>[^\W\d]\w*)\2/> | lambda | class | singleton_class | module | singleton_method | method | begin | if | unless | while | until | for | case | redo<'redo'> | retry<'retry'>
  | return<'return'> | break<'break'> | next<'next'> | array | hash | parenthesized_statements | yield<'yield' (~'(' @mode1(_arguments? ')'))?> | call<super<'super'> _suffix_arguments> | super<'super'>
  | _literal | call<method:(identifier | constant) arguments:argument_list<_suffix_arguments>> | identifier | constant | scope_resolution<'::' name:constant> | self<'self'> | nil<'nil'> | true<'true'> | false<'false'> | _file<('__FILE__' | '__LINE__' | '__ENCODING__')>
_variable_name = _global | instance_variable</@@?[^\W\d]\w*/>
_global = global_variable</\$(?:-?[^\W\d]\w*|\d+|[~*$?!@\/\\;,.=:<>"&\x60'+_])/>
parenthesized_statements = '(' @mode0(_statements) ')'
array = '[' @mode1(_arguments? ']')
hash = lbrace @mode1((_hash_entry (',' _hash_entry)* ','?)? rbrace)
_hash_entry = hash_splat_argument<'**' _arg?> | pair
lambda = '->' (lambda_parameters<'(' @mode1((_parameter (',' _parameter)* ','?)? (';' identifier (',' identifier)*)? ')')> | lambda_parameters<_parameter (',' _parameter)*>)? (block | do_block)

_body = _statements rescue* else? ensure?
rescue = 'rescue' exceptions<_exception (',' _nls _exception)*>? exception_variable<'=>' _lhs>? _then _statements
_exception = _splat | _plain_arg
else = 'else' _statements
ensure = 'ensure' _statements
_then = _end1 'then'? | 'then' | &/(?:end|else|elsif|when|in|rescue|ensure)\b/
class = 'class' name:_class_name superclass<'<' _expression>? @mode0(_end1 _body) 'end'
_class_name = @chain((constant | scope_resolution<'::' constant>) | scope_resolution<'::' name:constant>) !~'.'
singleton_class = 'class' '<<' value:_arg @mode0(_end1 _body) 'end'
module = 'module' name:_class_name @mode0(_end1 _body | _body) 'end'
method = 'def' name:_method_name _method_rest
singleton_method = 'def' object:(_variable_name | self<'self'> | identifier | constant | '(' _arg ')') /\.|::/ name:_method_name _method_rest
_method_rest = method_parameters<'(' @mode1((_parameter (',' _parameter)* ','?)? ')')>? '=' _nls _endless
  | method_parameters<'(' @mode1((_parameter (',' _parameter)* ','?)? ')')> @mode0(_end1? _body) 'end' | method_parameters<_parameter (',' _nls _parameter)*>? @mode0(_end1 _body) 'end'
_endless = @chain((_operation) | rescue_modifier<'rescue' _arg>)
_parameter = forward_parameter<'...'> | hash_splat_parameter<'**' ('nil' | identifier)?> | splat_parameter<'*' identifier?> | block_parameter<'&' identifier?> | keyword_parameter<identifier</[^\W\d]\w*[?!]?/> ~/:(?!:)/ _plain_arg?>
  | optional_parameter<identifier '=' _plain_arg> | destructured_parameter<'(' _parameter (',' _parameter)* ','? ')'> | identifier
begin = 'begin' @mode0(_body) 'end'
if = 'if' @mode0(_expression _then _statements) elsif<'elsif' @mode0(_expression _then _statements)>* (@mode0(else))? 'end'
unless = 'unless' @mode0(_expression _then _statements) (@mode0(else))? 'end'
while = 'while' @mode2(_expression) @mode0(('do' | _end1) _statements) 'end'
until = 'until' @mode2(_expression) @mode0(('do' | _end1) _statements) 'end'
for = 'for' _target (',' _target)* 'in' @mode2(_expression) @mode0(('do' | _end1) _statements) 'end'
case = 'case' @mode0((!/when\b/ _expression)? _end1? (when+ | in_clause+) else?) 'end'
when = 'when' (_splat | _plain_arg) (',' _nls (_splat | _plain_arg))* _then _statements
in_clause = 'in' _pattern_top (if_guard<'if' _expression> | unless_guard<'unless' _expression>)? _then _statements

_pattern_top = hash_pattern<_pattern_pair (',' _nls _pattern_pair)* ','?> | array_pattern<_pattern ',' _nls (_pattern (',' _nls _pattern)*)? ','?> | _pattern
_pattern = @chain((_pattern_value) | alternative_pattern<'|' _nls _pattern_value> | as_pattern<'=>' identifier>)
_pattern_value = splat_parameter<'*' identifier?> | '(' @mode1(_pattern ')') | array_pattern<'[' @mode1((_pattern (',' _pattern)* ','?)? ']')> | hash_pattern<lbrace @mode1((_pattern_pair (',' _pattern_pair)* ','?)? rbrace)>
  | variable_reference_pattern<'^' (_variable_name | identifier | '(' _expression ')')> | _constant_pattern | range<_pattern_literal /\.\.\.?/ _pattern_literal?> | range</\.\.\.?/ _pattern_literal> | _pattern_literal | identifier
_constant_pattern = _class_name (~'(' @mode1(_pattern_arguments? ')') | ~'[' @mode1(_pattern_arguments? ']') | range</\.\.\.?/ _pattern_literal?>)?
_pattern_arguments = _pattern_pair (',' _pattern_pair)* ','? | _pattern (',' _pattern)* ','?
_pattern_pair = hash_splat_parameter<'**' ('nil' | identifier)?> | keyword_pattern<(hash_key_symbol</[^\W\d]\w*[?!]?/> | _string) ~/:(?!:)/ _pattern?>
_pattern_literal = unary</[+\-]/ _number> | _literal | lambda | self<'self'> | nil<'nil'> | true<'true'> | false<'false'>

_literal = chained_string<_string _string+> | _string | _symbol | _number | regex | _percent | character</\?(?:\\(?:[CM]-)*.|[^\s\\])(?!\w)/> | _variable_name | subshell<'`' (~/[^`\\#]+|\\[\s\S]|#(?!\x7b)/ | interpolation)* ~'`'>
_string = string<'"' (~/[^"\\#]+|\\[\s\S]|#(?!\x7b)/ | interpolation)* ~'"'> | string</'(?:[^'\\]|\\[\s\S])*'/>
~interpolation = ~/#\x7b/ @mode0(_statements) rbrace
_symbol = delimited_symbol</:"/ (~/[^"\\#]+|\\[\s\S]|#(?!\x7b)/ | interpolation)* ~'"'> | delimited_symbol</:'(?:[^'\\]|\\[\s\S])*'/>
  | simple_symbol</:(?:[^\W\d]\w*(?:[?!](?!=)|=(?![=~>]))?|@@?[^\W\d]\w*|\$[\w~*$?!@\/\\;,.=:<>"&`'+]+|\[\]=?|\*\*|<=>|===?|=~|![=~]?|<<|>>|<=|>=|[+\-!~]@|[+\-*\/%<>~^&|`])/>
regex = /\/(?![ \t]+=)/ (~/[^\/\\#]+|\\[\s\S]|#(?!\x7b)/ | interpolation)* ~/\/[a-z]*/
_number = complex</(?:0[xX][\da-fA-F_]+|0[bB][01_]+|0[oO][0-7_]+|\d[\d_]*(?:\.\d[\d_]*)?(?:[eE][+\-]?\d[\d_]*)?)r?i?/>
_percent = percent_literal</%[wWiIqQrsx]?(?=[(\[\x7b<|!\/^:\-.,~@])/ (~'(' _in_round ~')' | ~'[' _in_square ~']' | ~lbrace _in_curly ~rbrace | ~'<' _in_angle ~'>' | ~/\|[^|]*\||![^!]*!|\/[^\/]*\/|\^[^^]*\^|:[^:]*:|-[^\-]*-|\.[^.]*\.|,[^,]*,|~[^~]*~|@[^@]*@/) ~/[a-z]*/>
_in_round = (~/[^()\\]+|\\[\s\S]/ | ~'(' _in_round ~')')*
_in_square = (~/[^\[\]\\]+|\\[\s\S]/ | ~'[' _in_square ~']')*
_in_curly = (~/[^\x7b\x7d\\]+|\\[\s\S]/ | ~lbrace _in_curly ~rbrace)*
_in_angle = (~/[^<>\\]+|\\[\s\S]/ | ~'<' _in_angle ~'>')*
"#

def ruby : Syntax.Grammar := Syntax.Notation.grammar rubyRules [")", "\nend", "]", "\x7d"]

end CodeDigest.Grammars
