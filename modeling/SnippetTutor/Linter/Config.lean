import SnippetTutor.Json.Printer
import SnippetTutor.Linter.Rules

/-!
# The linter's configuration file

A module that exports one configuration, with the parts that markup and types call for.
-/

namespace SnippetTutor.Linter

/-- What a snippet is made of, as far as the linter needs to know. -/
structure Flavour where
  isReact : Bool := false
  hasTypeScript : Bool := false
  deriving DecidableEq, Repr

namespace Flavour

/-- A text, if a condition holds. -/
def only (condition : Bool) (text : String) : String := if condition then text else ""

/-- The modules that the configuration imports. -/
def imports (flavour : Flavour) : String :=
  "import globals from \"globals\";" ++
    only flavour.hasTypeScript "\nimport tseslint from \"typescript-eslint\";" ++
    only flavour.isReact
      ("\nimport react from \"eslint-plugin-react\";" ++
        "\nimport reactHooks from \"eslint-plugin-react-hooks\";")

/-- The names that are known everywhere. -/
def globals (flavour : Flavour) : String :=
  if flavour.isReact then
    "\x7b ...globals.es2021, ...globals.browser, React: \"readonly\" \x7d"
  else "\x7b ...globals.es2021, ...globals.browser, ...globals.node \x7d"

/-- The rules as an object literal. -/
def rules (flavour : Flavour) : Json :=
  .object ((rulesFor flavour.isReact).map fun (name, setting) => (name, setting.toJson))

/-- The configuration for a snippet. -/
def configText (flavour : Flavour) : String :=
  flavour.imports ++
  "\n\nexport default [\n  \x7b\n    files: [\"**/*.\x7bjs,jsx,mjs,cjs,ts,tsx\x7d\"],\n" ++
  only flavour.isReact "    plugins: \x7b react, \"react-hooks\": reactHooks \x7d,\n" ++
  "    languageOptions: \x7b\n" ++
  only flavour.hasTypeScript "      parser: tseslint.parser,\n" ++
  "      ecmaVersion: 2022,\n      sourceType: \"module\",\n" ++
  only flavour.isReact
    "      parserOptions: \x7b ecmaFeatures: \x7b jsx: true \x7d \x7d,\n" ++
  "      globals: " ++ flavour.globals ++ ",\n    \x7d,\n" ++
  only flavour.isReact "    settings: \x7b react: \x7b version: \"18\" \x7d \x7d,\n" ++
  "    rules: " ++ flavour.rules.pretty ++ ",\n  \x7d,\n];\n"

/-- The name under which the linter reads a snippet. -/
def fileName (flavour : Flavour) : String :=
  match flavour.hasTypeScript, flavour.isReact with
  | true, true => "snippet.tsx"
  | true, false => "snippet.ts"
  | false, true => "snippet.jsx"
  | false, false => "snippet.js"

end Flavour

end SnippetTutor.Linter
