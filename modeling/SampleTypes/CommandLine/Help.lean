import SampleTypes.Text.Lines
/-!
# The help text

What the program says about itself: its name, its version, and the text that explains its options.
-/

set_option autoImplicit false

namespace SampleTypes

def programName : Text := "json-to-code"

/-- The version of the program, as it is shown. -/
def versionText : Text := "json-to-code 0.1.0\n"

/-- The lines of the help text, laid out for eighty columns. -/
def helpLines : List String :=
  ["usage: json-to-code [-h] [--url URL] [--timeout TIMEOUT] [--language LANGUAGE]",
   "                    [--root-name ROOT_NAME] [--suffix SUFFIX]",
   "                    [--output OUTPUT | --split DIR] [--config CONFIG]",
   "                    [--indent INDENT] [--tabs] [--no-export]",
   "                    [--package-name PACKAGE_NAME] [--no-lombok]",
   "                    [--json-include JSON_INCLUDE] [--list-languages]",
   "                    [--verbose] [--log-level LOG_LEVEL] [--version]",
   "                    [file]",
   "",
   "Generate TypeScript interfaces or Java DTOs from a JSON sample",
   "",
   "positional arguments:",
   "  file                  JSON file to read ('-' or omitted: standard input)",
   "",
   "options:",
   "  -h, --help            show this help message and exit",
   "  --url URL             URL to fetch JSON from",
   "  --timeout TIMEOUT     Request timeout in seconds for --url (default: 30)",
   "  --language LANGUAGE, -l LANGUAGE",
   "                        Target language (default: typescript)",
   "  --root-name ROOT_NAME, -r ROOT_NAME",
   "                        Name of the root declaration (default: Root)",
   "  --suffix SUFFIX, -s SUFFIX",
   "                        Suffix appended to every declaration name",
   "  --output OUTPUT, -o OUTPUT",
   "                        Write all declarations to this file",
   "  --split DIR           Write one file per declaration into this directory",
   "",
   "configuration:",
   "  --config CONFIG       Configuration file path (JSON)",
   "  --indent INDENT       Indent size in spaces",
   "  --tabs                Indent with tabs instead of spaces",
   "",
   "TypeScript-specific options:",
   "  --no-export           Don't add 'export' to interfaces",
   "",
   "Java-specific options:",
   "  --package-name PACKAGE_NAME, --package PACKAGE_NAME",
   "                        Java package of the generated classes",
   "  --no-lombok           Don't add Lombok annotations",
   "  --json-include JSON_INCLUDE",
   "                        Jackson JsonInclude policy (default: NON_NULL, 'none'",
   "                        to omit)",
   "",
   "information:",
   "  --list-languages      List supported languages and exit",
   "  --verbose, -v         Show inferred declarations and warnings",
   "  --log-level LOG_LEVEL",
   "                        Logging level (default: WARNING)",
   "  --version             show program's version number and exit",
   "",
   "Examples:",
   "  json-to-code order.json --root-name Order",
   "  json-to-code -l java --suffix Omie -o OrderDto.java order.json",
   "  json-to-code -l ts --split models/ < order.json",
   "  json-to-code --list-languages",
   ""]

/-- The lines that show how the program is called: those of the help text down to its first empty line. -/
def usageLines : List Text := (helpLines.takeWhile fun line => !line.isEmpty).map Text.ofString

def helpText : Text := Text.ofLines (helpLines.map Text.ofString)

end SampleTypes
