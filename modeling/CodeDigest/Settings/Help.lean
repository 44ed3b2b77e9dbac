import CodeDigest.Settings.Arguments

/-! What the command line says about itself. -/

namespace CodeDigest

namespace Flag

def about : Flag → String
  | path => "Directory to pack"
  | output => "Output file path (stdout when omitted)"
  | style => "Output style: plain, markdown, xml, json"
  | digest => "Reduce supported source files to declarations, comments and imports"
  | removeComments => "Strip comments before packing"
  | removeEmptyLines => "Drop blank lines before packing"
  | numberLines => "Prefix every line with its number"
  | wanted => "Include only matching files (repeatable)"
  | unwanted => "Exclude matching files (repeatable)"
  | workers => "Number of files processed in parallel"
  | sizeLimit => "Skip files larger than this many bytes"
  | noTokenCount => "Skip token counting in the summary"
  | dryRun => "List the files that would be packed without processing them"
  | config => "Config file path"
  | verbose => "Increase verbosity (-v, -vv)"
  | quiet => "Only print errors"
  | help => "Print help"
  | version => "Print version"

def helpLine (o : Flag) : Text :=
  let short : Text := o.shortName?.elim (List.replicate 4 ' ') fun c => ['-', c, ',', ' ']
  let value := if o.takesValue then " <".toList ++ Text.asciiUpper o.longName.toList ++ ['>'] else []
  let name := short ++ ['-', '-'] ++ o.longName.toList ++ value
  "  ".toList ++ Text.padEnd 38 name ++ o.about.toList

end Flag

namespace Arguments

def versionText : Text := "structpack 0.1.0".toList

def helpText : Text :=
  Text.unlines
    (["Pack a repository into one AI-ready document, optionally reduced to its structure", "",
      "Usage: structpack [OPTIONS] [PATH]", "", "Options:"].map String.toList ++ Flag.all.map Flag.helpLine)

end Arguments

def ArgumentError.message : ArgumentError → Text
  | helpAsked => Arguments.helpText
  | versionAsked => Arguments.versionText
  | invalidValue => "error: a value is missing or not one of the possible values".toList
  | malformedValue => "error: a value is not a number that fits".toList
  | unknownArgument => "error: unexpected argument found".toList
  | repeatedArgument => "error: an argument cannot be used multiple times".toList
  | surplusValue => "error: a value was given to an option that takes none".toList

def ArgumentError.wasAsked (e : ArgumentError) : Bool := e = .helpAsked || e = .versionAsked

end CodeDigest
