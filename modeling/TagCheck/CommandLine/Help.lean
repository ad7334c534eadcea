/-
# Help

What a call that asks for help or for the version prints, and what a call with
wrong arguments is told.
-/

import TagCheck.CommandLine.Invocation

namespace TagCheck.CommandLine

/-- Lines with a line end behind each. -/
def lines (texts : List String) : String := String.join (texts.map (· ++ "\n"))

def programName : String := "tsxcheck"

def version : String := "0.1.0"

def usageLine : String := "Usage: tsxcheck [OPTIONS] <PATH>..."

/-- Calls to learn from. -/
def exampleLines : List String :=
  ["Examples:",
    "  tsxcheck src",
    "  find src -name '*.tsx' | xargs tsxcheck",
    "  tsxcheck -s src/components/Button.tsx"]

/-- What the program does. -/
def aboutLine : String := "TSX/JSX tag validator - fast markup validation"

/-- Help with a line for each switch. -/
def shortHelp : String := lines <|
  [aboutLine,
    "",
    usageLine,
    "",
    "Arguments:",
    "  <PATH>...  Files or directories to check",
    "",
    "Options:",
    "  -q, --quiet            Only output errors",
    "  -s, --stop             Stop on first error",
    "      --color <COLOR>    When to use ANSI colors [default: auto] " ++
      "[possible values: auto, always, never]",
    "      --format <FORMAT>  Output format [default: text] [possible values: text, json]",
    "      --snippets         Show the offending source for each error",
    "  -c, --config <FILE>    Path to tsxcheck.json (default: ./tsxcheck.json if present)",
    "  -h, --help             Print help (see more with '--help')",
    "  -V, --version          Print version",
    ""] ++ exampleLines

/-- Help with a paragraph for each switch. -/
def longHelp : String := lines <|
  [aboutLine,
    "",
    usageLine,
    "",
    "Arguments:",
    "  <PATH>...",
    "          Files or directories to check",
    "",
    "Options:",
    "  -q, --quiet",
    "          Only output errors",
    "",
    "  -s, --stop",
    "          Stop on first error",
    "",
    "      --color <COLOR>",
    "          When to use ANSI colors",
    "          ",
    "          [default: auto]",
    "          [possible values: auto, always, never]",
    "",
    "      --format <FORMAT>",
    "          Output format",
    "",
    "          Possible values:",
    "          - text: One line per file plus a summary",
    "          - json: A single JSON report on stdout",
    "          ",
    "          [default: text]",
    "",
    "      --snippets",
    "          Show the offending source for each error",
    "",
    "  -c, --config <FILE>",
    "          Path to tsxcheck.json (default: ./tsxcheck.json if present)",
    "",
    "  -h, --help",
    "          Print help (see a summary with '-h')",
    "",
    "  -V, --version",
    "          Print version",
    ""] ++ exampleLines

def versionText : String := programName ++ " " ++ version ++ "\n"

/-- What a call with wrong arguments is told. -/
def usageText (error : UsageError) : String :=
  let missing := match error with
    | .pathsMissing => ["  " ++ pathsName]
    | _ => []
  lines (["error: " ++ error.message] ++ missing ++
    ["", usageLine, "", "For more information, try '--help'."])

end TagCheck.CommandLine
