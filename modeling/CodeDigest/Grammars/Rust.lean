import CodeDigest.Syntax.Notation

/-! The grammar of Rust. The value of a condition is a head: it may not end in a struct expression,
whose brace would be taken for the body's. -/

namespace CodeDigest.Grammars

private def rustItems : String := r#"
~source_file = shebang? @item(_statement)* @eof
~shebang = ~/#!(?!\[)[^\n]*/
_trivia0 = (~/\s+/ | line_comment | block_comment)*
~line_comment = ~/\/\/(?:\/(?!\/)|!)[^\n]*\n?|\/\/[^\n]*/
~block_comment = _nested
_nested = ~'/*' (~/[^*\/]+/ | ~/\*(?!\/)/ | _nested | ~/\/(?!\*)/)* ~'*/'
_reserved = /(?:as|async|await|break|const|continue|crate|dyn|else|enum|extern|false|fn|for|if|impl|in|let|loop|match|mod|move|mut|pub|ref|return|self|static|struct|super|trait|true|type|unsafe|use|where|while)\b/
_name = /r#[^\W\d]\w*/ | !_reserved /[^\W\d]\w*/
_any_name = _name | '_'
identifier = _name
type_identifier = _name
field_identifier = _name
lifetime = /'[^\W\d]\w*(?!')/

_statement = _item | let_declaration | expression_statement<_block_expression !/\.(?!\.)|\?/> | expression_statement<_expression ';'>
  | macro_invocation
_item = attribute_item | inner_attribute_item | empty_statement<';'> | macro_definition | mod_item | foreign_mod_item | struct_item
  | union_item | enum_item | type_item | function_item | function_signature_item | impl_item | trait_item
  | associated_type | const_item | static_item | use_declaration | extern_crate_declaration
_declarations = _item | macro_invocation
declaration_list = lbrace @item(_declarations)* rbrace
attribute_item = '#' '[' _attribute ']'
inner_attribute_item = '#' '!' '[' _attribute ']'
_attribute = attribute<_simple_path ('=' _expression | token_tree)?> | attribute<'unsafe' token_tree>
_simple_path = '::'? ('self' | 'super' | 'crate' | _name) ('::' ('self' | 'super' | 'crate' | _name))*
visibility_modifier = 'pub' ('(' ('self' | 'super' | 'crate' | 'in' _simple_path) ')')? | 'crate' !'::'
macro_definition = 'macro_rules' '!' name:identifier ('(' _macro_rules ')' ';' | '[' _macro_rules ']' ';' | lbrace _macro_rules rbrace)
_macro_rules = (macro_rule (';' macro_rule)* ';'?)?
macro_rule = token_tree '=>' token_tree
token_tree = '(' _tokens ')' | '[' _tokens ']' | lbrace _tokens rbrace
_tokens = (token_tree | _literal | lifetime | /[^\W\d]\w*/ | /[^\s()\[\]\x7b\x7d"]/)*
mod_item = visibility_modifier? 'mod' name:identifier (';' | body:declaration_list)
foreign_mod_item = visibility_modifier? 'unsafe'? extern_modifier (';' | body:declaration_list)
extern_modifier = 'extern' string_literal?
struct_item = visibility_modifier? 'struct' name:type_identifier type_parameters:type_parameters?
  (where_clause? body:field_declaration_list | body:ordered_field_declaration_list where_clause? ';' | where_clause? ';')
union_item = visibility_modifier? 'union' name:type_identifier type_parameters:type_parameters? where_clause? body:field_declaration_list
enum_item = visibility_modifier? 'enum' name:type_identifier type_parameters:type_parameters? where_clause? body:enum_variant_list
enum_variant_list = lbrace @item(attribute_item* enum_variant (',' | &rbrace))* rbrace
enum_variant = visibility_modifier? name:identifier body:(field_declaration_list | ordered_field_declaration_list)? ('=' value:_expression)?
field_declaration_list = lbrace @item(attribute_item* field_declaration (',' | &rbrace))* rbrace
field_declaration = visibility_modifier? name:field_identifier ':' type:_type
ordered_field_declaration_list = '(' (attribute_item* visibility_modifier? type:_type (',' | &')'))* ')'
type_item = visibility_modifier? 'type' name:type_identifier type_parameters:type_parameters? where_clause? '=' type:_type where_clause? ';'
associated_type = visibility_modifier? 'type' name:type_identifier type_parameters:type_parameters? trait_bounds? where_clause? ';'
const_item = visibility_modifier? 'default'? 'const' name:identifier<_any_name> ':' type:_type ('=' value:_expression)? ';'
static_item = visibility_modifier? ('unsafe' | 'safe')? 'static' 'ref'? 'mut'? name:identifier ':' type:_type ('=' value:_expression)? ';'
_function_head = visibility_modifier? function_modifiers? 'fn' name:identifier type_parameters:type_parameters? parameters:parameters
  ('->' return_type:_type)? where_clause?
function_item = _function_head body:block
function_signature_item = _function_head ';'
function_modifiers = ('async' | 'default' | 'const' | 'unsafe' | 'safe' | 'gen' | extern_modifier)+
parameters = '(' (attribute_item* _parameter (',' | &')'))* ')'
_parameter = self_parameter | variadic_parameter | parameter | _type
self_parameter = ('&' lifetime? 'mut'? 'self' | 'mut'? 'self') !':'
variadic_parameter = (_pattern ':')? '...'
parameter = 'mut'? pattern:('self' | _patterns) ':' type:('...' | _type)
impl_item = 'default'? 'unsafe'? 'impl' type_parameters:type_parameters? 'const'? ('!'? trait:_bound_type 'for' !'<')? type:_type where_clause? (body:declaration_list | ';')
trait_item = visibility_modifier? 'unsafe'? 'auto'? 'trait' name:type_identifier type_parameters:type_parameters? trait_bounds? where_clause? body:declaration_list
use_declaration = visibility_modifier? 'use' argument:_use ';'
_use = use_list | _use_path ('::' (use_list | '*') | 'as' _any_name)? | '::' (use_list | '*') | '*'
_use_path = '::'? ('self' | 'super' | 'crate' | _name) (/::(?!\s*[\x7b*])/ ('self' | 'super' | 'crate' | _name))*
use_list = lbrace (_use (',' | &rbrace))* rbrace
extern_crate_declaration = visibility_modifier? 'extern' 'crate' name:('self' | identifier) ('as' _any_name)? ';'
let_declaration = 'let' 'mut'? pattern:_patterns (':' type:_type)? ('=' value:_expression ('else' alternative:block)?)? ';'

type_parameters = '<' (attribute_item* _type_parameter (',' | &'>'))* '>'
_type_parameter = const_parameter<'const' name:identifier ':' type:_type ('=' _const_argument)?>
  | lifetime_parameter<lifetime trait_bounds?>
  | type_parameter<name:type_identifier trait_bounds? ('=' default_type:_type)?>
trait_bounds = /:(?!:)/ (_bound ('+' _bound)* '+'?)?
_bound = lifetime | removed_trait_bound<'?' _type> | /~\s*const\b/ _bound_type | 'const' _bound_type | 'async' _bound_type
  | 'use' '<' (lifetime | _any_name | 'Self') (',' (lifetime | _any_name))* '>' | for_lifetimes? _bound_type | '(' _bound ')'
for_lifetimes = 'for' '<' (lifetime trait_bounds? (',' | &'>'))* '>'
where_clause = 'where' (where_predicate (',' where_predicate)* ','?)?
where_predicate = for_lifetimes? left:(lifetime | _type) bounds:trait_bounds

_type = bounded_type<_bound_type ('+' _bound)+> | _bound_type
_bound_type = abstract_type<'impl' _bound ('+' _bound)*> | dynamic_type<'dyn' _bound ('+' _bound)*> | reference_type | pointer_type | function_type
  | never_type<'!'> | unit_type<'(' ')'> | tuple_type<'(' _type ',' (_type (',' | &')'))* ')'> | '(' _type ')'
  | array_type<'[' element:_type (';' length:_expression)? ']'> | macro_invocation | for_lifetimes _bound_type | _type_path | '_'
reference_type = '&' lifetime? 'mut'? type:_bound_type
pointer_type = '*' ('const' | 'mut') type:_bound_type
function_type = for_lifetimes? function_modifiers? 'fn' parameters:parameters ('->' return_type:_type)?
_type_path = _qualified ('::' _type_segment)+ | '::'? _type_segment (/::(?!<)/ _type_segment)*
_qualified = '<' _type ('as' _type)? '>'
_type_segment = ('self' | 'super' | 'crate' | _name) (function_arguments<'(' (_type (',' | &')'))* ')' ('->' _bound_type)?> | '::'? type_arguments)?
type_arguments = '<' (_type_argument (',' | &'>'))* '>'
_type_argument = _name type_arguments? '=' _const_or_type | _name type_arguments? trait_bounds | lifetime | _const_or_type
_const_or_type = _type &/[,>]/ | _const_argument
_const_argument = block | _literal | '-' _literal | _type

block = ('unsafe' !'extern' | 'const' | /'[^\W\d]\w*\s*:/)? lbrace inner_attribute_item* @item(_statement)* (attribute_item* _expression)? rbrace
_block_expression = unsafe_block<'unsafe' block> | async_block<'async' 'move'? block> | gen_block<'gen' 'move'? block> | try_block<'try' block>
  | if_expression | match_expression | while_expression | loop_expression | for_expression | const_block<'const' block> | block
_label = label</'[^\W\d]\w*(?!')/ ':'>
if_expression = 'if' condition:_head consequence:block alternative:else_clause?
else_clause = 'else' (if_expression | block)
match_expression = 'match' value:_head body:match_block
match_block = lbrace inner_attribute_item* @item(match_arm)* rbrace
match_arm = attribute_item* pattern:match_pattern<_patterns ('if' condition:_expression)?> '=>'
  (value:_expression ',' | value:_block_expression !/\.(?!\.)|\?/ ','? | value:_expression &rbrace)
while_expression = _label? 'while' condition:_head body:block
loop_expression = _label? 'loop' body:block
for_expression = _label? 'for' pattern:_patterns 'in' value:_head body:block
"#

/-- What an expression and a head share, once without and once with struct expressions: the names of
the rules for expressions, operands and operands with suffixes are given. -/
private def rustOperations (whole operand suffixed structs : String) : String :=
  whole ++ " = @chain(" ++ operand ++ r#"
    | range_expression</\.\.=|\.\.\.|\.\.(?!=)/ "# ++ operand ++ r#">
    | range_expression</\.\.(?![=.])/>
    | compound_assignment_expr</(?:[+\-*\/%&|^]|<<|>>)=/ "# ++ whole ++ r#">
    | assignment_expression</=(?![=>])/ "# ++ whole ++ r#">
    | type_cast_expression<'as' type:_bound_type>
    | binary_expression</&&|\|\||==|!=|<=(?!=)|>=|<<(?!=)|>>(?!=)|[+*\/%^|&](?!=)|-(?![=>])|<(?!<)|>(?!>)/ "#
  ++ operand ++ ">)\n" ++
  operand ++ r#" = unary_expression</-(?!>)|!(?!=)|\*/ "# ++ operand ++ r#">
    | reference_expression<'&' 'raw' ('const' | 'mut') "# ++ operand ++ r#"> | reference_expression<'&' 'mut'? "# ++ operand ++ r#">
    | closure_expression | return_expression<'return' "# ++ whole ++ r#"?> | yield_expression<'yield' "# ++ whole ++ r#"?>
    | break_expression<'break' lifetime? "# ++ whole ++ r#"?> | continue_expression<'continue' lifetime?>
    | let_condition<'let' pattern:_patterns '=' value:"# ++ whole ++ r#">
    | range_expression</\.\.=?/ "# ++ operand ++ r#"> | range_expression<'..'> | "# ++ suffixed ++ "\n" ++
  suffixed ++ " = @chain((" ++ structs ++ r#"_primary)
    | try_expression<'?'>
    | await_expression<'.' 'await'>
    | field_expression<'.' field:(integer_literal</\d+/> | field_identifier) ('::' type_arguments)?>
    | call_expression<arguments:arguments>
    | index_expression<'[' _expression ']'>)
"#

private def rustRest : String := r#"
closure_expression = for_lifetimes? ('static' | 'async' | 'move' | 'const')* parameters:closure_parameters ('->' return_type:_type body:block | body:_expression)
closure_parameters = '|' (attribute_item* (parameter<'mut'? pattern:('self' | _pattern) ':' type:('...' | _type)> | _pattern) (',' | &'|'))* '|'
arguments = '(' (attribute_item* _expression (',' | &')'))* ')'
struct_expression = name:_value_path body:field_initializer_list
field_initializer_list = lbrace @item(attribute_item* (base_field_initializer<'..' _expression?> | field_initializer<(field_identifier | integer_literal) ':' value:_expression>
  | shorthand_field_initializer<identifier>) (',' | &rbrace))* rbrace
_value_path = _qualified ('::' _value_segment)+ | '::'? _value_segment ('::' _value_segment)*
_value_segment = type_arguments | 'self' | 'super' | 'crate' | _name
_primary = _literal | macro_invocation | _block_expression | parenthesized_expression<'(' attribute_item* _expression ')'>
  | unit_expression<'(' ')'> | tuple_expression<'(' attribute_item* _expression ',' (_expression (',' | &')'))* ')'>
  | array_expression<'[' attribute_item* (_expression ';' length:_expression | (attribute_item* _expression (',' | &']'))*) ']'>
  | scoped_identifier<_value_path> | '_'
macro_invocation = macro:_macro_path /!(?!=)/ token_tree
_macro_path = '::'? ('self' | 'super' | 'crate' | _name) ('::' ('self' | 'super' | 'crate' | _name))*

_patterns = '|'? _pattern ('|' _pattern)*
_pattern = range_pattern<_range_bound /\.\.=|\.\.\.|\.\.(?!=)/ _range_bound?> | range_pattern</\.\.=?/ _range_bound> | remaining_field_pattern<'..'>
  | _literal | negative_literal<'-' _literal> | ref_pattern<'ref' 'mut'? _pattern> | mut_pattern<'mut' _pattern> | reference_pattern<'&' 'mut'? _pattern>
  | captured_pattern<identifier '@' _pattern> | tuple_pattern<'(' (_patterns (',' | &')'))* ')'> | slice_pattern<'[' (_patterns (',' | &']'))* ']'>
  | const_block<'const' block> | macro_invocation
  | tuple_struct_pattern<_value_path '(' (_patterns (',' | &')'))* ')'>
  | struct_pattern<_value_path lbrace @item(attribute_item* _field_pattern (',' | &rbrace))* rbrace>
  | scoped_identifier<_value_path> | '_'
_field_pattern = remaining_field_pattern<'..'> | field_pattern<(field_identifier | integer_literal) ':' _patterns> | field_pattern<'ref'? 'mut'? identifier>
_range_bound = '-' _literal | _literal | _value_path

_literal = raw_string_literal | string_literal | char_literal | boolean_literal</(?:true|false)\b/> | float_literal | integer_literal
string_literal = /[bc]?"[^"\\]*(?:\\[\s\S][^"\\]*)*"/
raw_string_literal = /[bc]?r(#*)"[^"]*(?:"(?!\1)[^"]*)*"\1/
char_literal = /b?'(?:\\(?:x[\da-fA-F][\da-fA-F]|u\x7b[\da-fA-F_]+\x7d|[^xu])|[^\\'])'/
float_literal = /\d[\d_]*(?:\.(?![._a-zA-Z])\d?[\d_]*(?:[eE][+\-]?[\d_]+)?|[eE][+\-]?[\d_]+)(?:f32|f64|f16|f128)?/
integer_literal = /(?:0x[\da-fA-F_]+|0o[0-7_]+|0b[01_]+|\d[\d_]*)(?:[iu](?:8|16|32|64|128|size)|f32|f64)?/
"#

def rust : Syntax.Grammar :=
  Syntax.Notation.grammar
    (rustItems ++ rustOperations "_expression" "_operand" "_suffixed" "struct_expression | "
      ++ rustOperations "_head" "_head_operand" "_head_suffixed" "" ++ rustRest)
    [";", ")", "]", "\x7d"]

end CodeDigest.Grammars
