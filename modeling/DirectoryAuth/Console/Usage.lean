/-!
# Usage and help

What the program says about its command line, word for word.
-/

namespace DirectoryAuth.Console.Usage

/-- The name under which the program is called. -/
def program : String := "ldap-realm"

/-- Lines, each with its end. -/
def text (lines : List String) : String := String.join (lines.map (· ++ "\n"))

/-- The usage of the program. -/
def usage : String := text [
  "usage: ldap-realm [-h] [-c CONFIG] [-s KEY=VALUE] [-v]",
  "                  \x7btest-connection,authenticate,user-details,groups,discover,generate-config\x7d",
  "                  ..."]

/-- The help of the program. -/
def help : String := usage ++ text [
  "",
  "Authenticate users and resolve their groups against LDAP / Active Directory.",
  "",
  "positional arguments:",
  "  \x7btest-connection,authenticate,user-details,groups,discover,generate-config\x7d",
  "                        Command to run",
  "    test-connection     Test the connection to every configured server",
  "    authenticate        Verify a login and password",
  "    user-details        Show the name and email of a user",
  "    groups              Show the groups of a user",
  "    discover            Discover LDAP servers from DNS SRV records",
  "    generate-config     Generate a configuration template",
  "",
  "options:",
  "  -h, --help            show this help message and exit",
  "  -c CONFIG, --config CONFIG",
  "                        Configuration file (INI format)",
  "  -s KEY=VALUE, --set KEY=VALUE",
  "                        Override a setting, e.g. ldap.url=ldap://host",
  "                        (repeatable)",
  "  -v, --verbose         Increase log verbosity (-v info, -vv debug)",
  "",
  "Examples:",
  "  ldap-realm -c ldap.ini test-connection",
  "  ldap-realm -c ldap.ini authenticate jdoe",
  "  ldap-realm -c ldap.ini -s ldap.group.nested=true groups jdoe",
  "  ldap-realm discover example.org",
  "        "]

/-- The usage of a command, and what its help says beyond that. -/
structure CommandHelp where
  usage : String
  details : String

def testConnection : CommandHelp where
  usage := text ["usage: ldap-realm test-connection [-h]"]
  details := text [
    "",
    "options:",
    "  -h, --help  show this help message and exit"]

def authenticate : CommandHelp where
  usage := text ["usage: ldap-realm authenticate [-h] [-p PASSWORD] [--json] login"]
  details := text [
    "",
    "positional arguments:",
    "  login                 Login of the user",
    "",
    "options:",
    "  -h, --help            show this help message and exit",
    "  -p PASSWORD, --password PASSWORD",
    "                        Password (prompted when omitted)",
    "  --json                Print the per-server outcome as JSON"]

/-- What the help of a command says that shows something about a user. -/
def loginDetails : String := text [
  "",
  "positional arguments:",
  "  login       Login of the user",
  "",
  "options:",
  "  -h, --help  show this help message and exit",
  "  --json      Print as JSON"]

def userDetails : CommandHelp := ⟨text ["usage: ldap-realm user-details [-h] [--json] login"], loginDetails⟩

def groups : CommandHelp := ⟨text ["usage: ldap-realm groups [-h] [--json] login"], loginDetails⟩

def discover : CommandHelp where
  usage := text ["usage: ldap-realm discover [-h] realm"]
  details := text [
    "",
    "positional arguments:",
    "  realm       DNS realm, e.g. example.org",
    "",
    "options:",
    "  -h, --help  show this help message and exit"]

def generateConfig : CommandHelp where
  usage := text ["usage: ldap-realm generate-config [-h] [-o OUTPUT]"]
  details := text [
    "",
    "options:",
    "  -h, --help            show this help message and exit",
    "  -o OUTPUT, --output OUTPUT",
    "                        Write the template to this file instead of stdout"]

end DirectoryAuth.Console.Usage
