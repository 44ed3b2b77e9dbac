import CodeDigest.Grammars.CFamily
import CodeDigest.Grammars.CSharp
import CodeDigest.Grammars.Css
import CodeDigest.Grammars.Go
import CodeDigest.Grammars.Java
import CodeDigest.Grammars.Php
import CodeDigest.Grammars.Python
import CodeDigest.Grammars.Ruby
import CodeDigest.Grammars.Rust
import CodeDigest.Grammars.Script
import CodeDigest.Language

/-! The languages that are built in. -/

namespace CodeDigest.Languages

private def make (name : String) (extensions : List String) (grammar : Syntax.Grammar)
    (query : String) (strategy : Strategy) (dialect : Dialect) (lexicon : Lexicon) : Language :=
  ⟨name.toList, extensions.map String.toList, grammar, query.toList, ⟨strategy, ⟨dialect, lexicon⟩⟩⟩

private def typescriptQuery : String := "
(comment) @comment
(import_statement) @definition.import
(function_declaration name: (identifier) @name.definition.function) @definition.function
(generator_function_declaration) @definition.function
(function_signature) @definition.function
(method_definition) @definition.method
(abstract_method_signature) @definition.method
(class_declaration name: (type_identifier) @name.definition.class) @definition.class
(abstract_class_declaration) @definition.class
(export_statement (class)) @definition.class
(export_statement [(function_expression) (arrow_function)]) @definition.function
(interface_declaration) @definition.interface
(type_alias_declaration) @definition.type
(enum_declaration) @definition.enum
(internal_module) @definition.module
(program (lexical_declaration) @definition.function)
(program (lexical_declaration) @definition.variable)
(program (variable_declaration) @definition.variable)
(program (export_statement (lexical_declaration) @definition.variable))
(program (export_statement (variable_declaration) @definition.variable))
(public_field_definition) @definition.property
"

private def javascriptQuery : String := "
(comment) @comment
(import_statement) @definition.import
(function_declaration name: (identifier) @name.definition.function) @definition.function
(generator_function_declaration) @definition.function
(method_definition) @definition.method
(class_declaration name: (identifier) @name.definition.class) @definition.class
(export_statement (class)) @definition.class
(export_statement [(function_expression) (arrow_function)]) @definition.function
(program (lexical_declaration) @definition.function)
(program (lexical_declaration) @definition.variable)
(program (variable_declaration) @definition.variable)
(program (export_statement (lexical_declaration) @definition.variable))
(program (export_statement (variable_declaration) @definition.variable))
(field_definition) @definition.property
"

private def pythonQuery : String := "
(comment) @comment
(expression_statement (string) @docstring)
(import_statement) @definition.import
(import_from_statement) @definition.import
(future_import_statement) @definition.import
(class_definition name: (identifier) @name.definition.class) @definition.class
(function_definition name: (identifier) @name.definition.function) @definition.function
(module (expression_statement (assignment left: (identifier))) @definition.variable)
"

private def goQuery : String := "
(comment) @comment
(package_clause) @definition.package
(import_declaration) @definition.import
(function_declaration name: (identifier) @name.definition.function) @definition.function
(method_declaration name: (field_identifier) @name.definition.method) @definition.method
(source_file (type_declaration (type_spec type: (struct_type))) @definition.struct)
(source_file (type_declaration (type_spec type: (interface_type))) @definition.interface)
(source_file (type_declaration) @definition.type)
(source_file (var_declaration) @definition.variable)
(source_file (const_declaration) @definition.constant)
"

private def rustQuery : String := "
(line_comment) @comment
(block_comment) @comment
(use_declaration) @definition.import
(extern_crate_declaration) @definition.import
(function_item name: (identifier) @name.definition.function) @definition.function
(function_signature_item) @definition.function
(struct_item) @definition.struct
(union_item) @definition.struct
(enum_item) @definition.enum
(type_item) @definition.type
(trait_item) @definition.class
(impl_item) @definition.class
(mod_item) @definition.module
(macro_definition) @definition.macro
(source_file (const_item) @definition.constant)
(source_file (static_item) @definition.constant)
(declaration_list (const_item) @definition.constant)
"

private def javaQuery : String := "
(line_comment) @comment
(block_comment) @comment
(package_declaration) @definition.package
(import_declaration) @definition.import
(class_declaration name: (identifier) @name.definition.class) @definition.class
(record_declaration) @definition.class
(interface_declaration) @definition.interface
(annotation_type_declaration) @definition.interface
(enum_declaration) @definition.enum
(method_declaration name: (identifier) @name.definition.method) @definition.method
(constructor_declaration) @definition.method
(field_declaration) @definition.property
"

private def cQuery : String := "
(comment) @comment
(preproc_include) @definition.import
(preproc_def) @definition.constant
(preproc_function_def) @definition.macro
(function_definition) @definition.function
(source_unit (declaration declarator: (function_declarator)) @definition.function)
(struct_specifier name: (type_identifier) body: (field_declaration_list)) @definition.struct
(union_specifier name: (type_identifier) body: (field_declaration_list)) @definition.struct
(enum_specifier name: (type_identifier) body: (enumerator_list)) @definition.enum
(source_unit (type_definition) @definition.type)
"

private def cppQuery : String := "
(comment) @comment
(preproc_include) @definition.import
(using_declaration) @definition.import
(preproc_def) @definition.constant
(preproc_function_def) @definition.macro
(function_definition) @definition.function
(source_unit (declaration declarator: (function_declarator)) @definition.function)
(field_declaration declarator: (function_declarator)) @definition.method
(class_specifier name: (type_identifier) body: (field_declaration_list)) @definition.class
(struct_specifier name: (type_identifier) body: (field_declaration_list)) @definition.struct
(enum_specifier name: (type_identifier) body: (enumerator_list)) @definition.enum
(namespace_definition) @definition.module
(alias_declaration) @definition.type
(source_unit (type_definition) @definition.type)
"

private def csharpQuery : String := "
(comment) @comment
(using_directive) @definition.import
(namespace_declaration) @definition.module
(class_declaration) @definition.class
(struct_declaration) @definition.struct
(interface_declaration) @definition.interface
(enum_declaration) @definition.enum
(method_declaration) @definition.method
(constructor_declaration) @definition.method
(property_declaration) @definition.property
"

private def rubyQuery : String := "
(comment) @comment
(class) @definition.class
(module) @definition.module
(method) @definition.method
(singleton_method) @definition.method
(program (call method: (identifier) @_loader (#match? @_loader \"^(require|require_relative|load)$\")) @definition.import)
(program (assignment left: (constant)) @definition.constant)
"

private def phpQuery : String := "
(comment) @comment
(namespace_definition) @definition.module
(namespace_use_declaration) @definition.import
(function_definition) @definition.function
(class_declaration) @definition.class
(trait_declaration) @definition.class
(interface_declaration) @definition.interface
(enum_declaration) @definition.enum
(method_declaration) @definition.method
(property_declaration) @definition.property
(const_declaration) @definition.constant
"

private def cssQuery : String := "
(comment) @comment
(rule_set (selectors) @definition.selector)
(import_statement) @definition.import
(charset_statement) @definition.import
(namespace_statement) @definition.import
(media_statement) @definition.at_rule
(keyframes_statement) @definition.at_rule
(supports_statement) @definition.at_rule
(at_rule) @definition.at_rule
"

def builtin : List Language := [
  make "typescript" ["ts", "mts", "cts"] Grammars.typescript typescriptQuery .typescript .typescript
    .javascript,
  make "tsx" ["tsx"] Grammars.tsx typescriptQuery .typescript .typescript .javascript,
  make "javascript" ["js", "jsx", "mjs", "cjs"] Grammars.javascript javascriptQuery .typescript
    .typescript .javascript,
  make "python" ["py", "pyw", "pyi"] Grammars.python pythonQuery .python .python .python,
  make "go" ["go"] Grammars.go goQuery .go .go .go,
  make "rust" ["rs"] Grammars.rust rustQuery .default .rust .rust,
  make "java" ["java"] Grammars.java javaQuery .default .java .cLike,
  make "c" ["c", "h"] Grammars.c cQuery .default .c .cLike,
  make "cpp" ["cpp", "cc", "cxx", "hpp", "hh", "hxx"] Grammars.cpp cppQuery .default .cpp .cLike,
  make "csharp" ["cs"] Grammars.csharp csharpQuery .default .csharp .cLike,
  make "ruby" ["rb"] Grammars.ruby rubyQuery .default .ruby .ruby,
  make "php" ["php"] Grammars.php phpQuery .default .php .php,
  make "css" ["css"] Grammars.css cssQuery .css .css .css]

end CodeDigest.Languages
