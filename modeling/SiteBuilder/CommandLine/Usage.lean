/-!
# Usage

What the program tells about its arguments.
-/

namespace SiteBuilder.CommandLine

/-- How the program is called. -/
def usage : String := "\n".intercalate
  ["Usage: sitestudio [OPTIONS] <COMMAND>",
    "",
    "Commands:",
    "  init [PATH]        Make a folder with a template to start from",
    "  catalog -f <FILE>  List the templates of a catalog (--category, --type)",
    "  validate           Check the answers of a form",
    "  preview            Write the preview document (-o <FILE>)",
    "  export zip         Write the site as an archive (-n <NAME>, -o <FOLDER>)",
    "  export github      Make a repository of the site (-r <NAME>, -d <DESCRIPTION>)",
    "  login              Print the address to sign in at",
    "",
    "Options that choose a template:",
    "  -t, --template <FOLDER>  A local template",
    "      --id <ID>            A template of a catalog",
    "      --catalog <FILE>     The catalog",
    "  -a, --answers <FILE>     The answers to fill in, as JSON",
    "",
    "Options:",
    "  -c, --config <FILE>  The settings, as YAML",
    "  -h, --help           Print this text"]

end SiteBuilder.CommandLine
