import CodeDigest.Path
import CodeDigest.Text.Lines

/-! The lexical conventions of a language family: its comments, quotes and directive comments. -/

namespace CodeDigest

/-- What opens a line comment, unless the character `unlessNext` follows. -/
structure LineMarker where
  marker : Text
  unlessNext : Option Char
deriving Repr, DecidableEq

def LineMarker.opens (m : LineMarker) (s : Text) : Bool :=
  match Text.strip? m.marker s with
  | none => false
  | some after => m.unlessNext.isNone || after.head? ≠ m.unlessNext

inductive SingleQuote where
  /-- Opens a string or character literal. -/
  | delimiter
  /-- Opens a character literal where it looks like one, and else names a lifetime or label. -/
  | charOrLifetime
  | plain
deriving Repr, DecidableEq

inductive Backtick where
  | plain
  /-- Opens a literal over several lines that has no escapes. -/
  | raw
  /-- Opens a literal over several lines that has escapes. -/
  | template
deriving Repr, DecidableEq

structure Lexicon where
  name : String
  lineMarkers : List LineMarker
  blockComment : Option (Text × Text)
  doubleQuote : Bool
  singleQuote : SingleQuote
  backtick : Backtick
  tripleQuotes : Bool
  /-- How comments begin that speak to a tool and so are part of the program. -/
  directives : List Text
deriving Repr, DecidableEq

namespace Lexicon

private def marker (m : String) : LineMarker := ⟨m.toList, none⟩

private def slashStar : Option (Text × Text) := some ("/*".toList, "*/".toList)

private def curly (name : String) (directives : List String) : Lexicon where
  name := name
  lineMarkers := [marker "//"]
  blockComment := slashStar
  doubleQuote := true
  singleQuote := .delimiter
  backtick := .plain
  tripleQuotes := false
  directives := directives.map String.toList

private def hashed (name : String) (directives : List String) : Lexicon :=
  { curly name directives with lineMarkers := [marker "#"], blockComment := none }

def cLike : Lexicon := curly "c-like"
  ["// NOLINT", "//NOLINT", "// clang-format", "/* clang-format", "// ReSharper", "// @formatter:",
    "//CHECKSTYLE", "// CHECKSTYLE"]

def javascript : Lexicon :=
  { curly "javascript"
    ["/// <reference", "/// <amd-", "// @ts-", "/* @ts-", "// eslint-", "/* eslint",
      "// prettier-ignore", "// biome-ignore", "/* istanbul ignore", "/* c8 ignore", "// @jsx",
      "/** @jsx", "/* webpackChunkName", "// #region", "// #endregion"] with backtick := .template }

def go : Lexicon :=
  { curly "go"
    ["//go:", "// +build", "//+build", "//nolint", "// nolint", "//lint:", "//export ",
      "//extern ", "//line ", "/*line ", "//sys ", "//sysnb "] with backtick := .raw }

def rust : Lexicon :=
  { curly "rust" ["// rustfmt::skip"] with singleQuote := .charOrLifetime }

def python : Lexicon :=
  { hashed "python"
    ["#!", "# -*-", "# vim:", "# type:", "# noqa", "# pylint:", "# mypy:", "# pyright:", "# fmt:",
      "# isort:", "# pragma:"] with tripleQuotes := true }

def ruby : Lexicon :=
  { hashed "ruby"
    ["#!", "# frozen_string_literal:", "# encoding:", "# -*-", "# rubocop:", "# typed:"] with
    blockComment := some ("=begin".toList, "=end".toList) }

def php : Lexicon :=
  { curly "php" ["// phpcs:", "// @phpstan-", "/** @phpstan-", "// @codingStandardsIgnore"] with
    lineMarkers := [marker "//", ⟨['#'], some '['⟩] }

def css : Lexicon :=
  { curly "css" ["/* stylelint-", "/*! "] with lineMarkers := [] }

def scss : Lexicon := curly "scss" ["/* stylelint-", "// stylelint-", "/*! "]

def shell : Lexicon := hashed "shell" ["#!", "# shellcheck"]

def markup : Lexicon :=
  { hashed "markup" ["<!--[if", "<!-- prettier-ignore"] with
    lineMarkers := []
    blockComment := some ("<!--".toList, "-->".toList)
    doubleQuote := false
    singleQuote := .plain }

def sql : Lexicon :=
  { curly "sql" ["-- +migrate", "-- +goose", "-- name:"] with lineMarkers := [marker "--"] }

def all : List Lexicon :=
  [cLike, javascript, go, rust, python, ruby, php, css, scss, shell, markup, sql]

def extensions (l : Lexicon) : List String :=
  match l.name with
  | "c-like" => ["c", "h", "cpp", "cc", "cxx", "hpp", "hh", "hxx", "java", "cs", "kt", "kts",
      "swift", "dart", "scala", "sol", "proto"]
  | "javascript" => ["js", "jsx", "mjs", "cjs", "ts", "tsx", "mts", "cts"]
  | "go" => ["go"]
  | "rust" => ["rs"]
  | "python" => ["py", "pyw", "pyi"]
  | "ruby" => ["rb"]
  | "php" => ["php"]
  | "css" => ["css"]
  | "scss" => ["scss", "sass", "less"]
  | "shell" => ["sh", "bash", "zsh", "yml", "yaml", "toml", "r", "pl"]
  | "markup" => ["html", "htm", "xml", "svg", "vue", "svelte"]
  | "sql" => ["sql"]
  | _ => []

/-- The lexicon of a file, chosen by its extension in any letter case. -/
def forPath? (path : Text) : Option Lexicon :=
  (Path.extension? path).bind fun ext =>
    all.find? fun l => l.extensions.any fun e => e.toList = Text.asciiLower ext

/-- Whether a comment speaks to a tool and so is kept as it is. -/
def isDirective (l : Lexicon) (comment : Text) : Bool :=
  l.directives.any fun d => Text.startsWith (Text.trimStart comment) d

def startsLineComment (l : Lexicon) (s : Text) : Bool := l.lineMarkers.any fun m => m.opens s

end Lexicon
end CodeDigest
