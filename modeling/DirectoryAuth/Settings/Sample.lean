/-!
# The sample file

A configuration file that shows every setting with what it means, to be filled in.
-/

namespace DirectoryAuth.Settings

/-- The lines of the sample file. -/
def sampleLines : List String := [
  "# ldap-realm Configuration File",
  "# -----------------------------",
  "# Keys of the [ldap] section become 'ldap.<key>' settings.",
  "# For several directory servers, list their keys in 'servers' and configure",
  "# each one in its own [ldap.<key>] section; they are tried in that order.",
  "",
  "[ldap]",
  "# Directory server URL(s), space separated. Leave empty to discover the",
  "# servers from the DNS SRV records of 'realm'.",
  "url = ldap://ldap.example.org:389",
  "# DNS realm, used for autodiscovery and as the SASL realm",
  "realm =",
  "# Service account used for searches (leave empty for anonymous searches)",
  "bindDn = cn=sonar,ou=users,dc=example,dc=org",
  "bindPassword = secret",
  "# simple (default), DIGEST-MD5 or GSSAPI",
  "authentication = simple",
  "# Upgrade the connection with StartTLS before binding",
  "StartTLS = false",
  "# Verify the server certificate for LDAPS and StartTLS",
  "tls.verify = true",
  "tls.caCertsFile =",
  "# Timeouts in seconds",
  "connectTimeout = 10",
  "readTimeout = 30",
  "# Search limits (0 = server default). pageSize enables paged results.",
  "sizeLimit = 0",
  "timeLimit = 0",
  "pageSize = 0",
  "",
  "# User mapping",
  "user.baseDn = ou=users,dc=example,dc=org",
  "# \x7blogin\x7d is replaced by the (escaped) login",
  "user.request = (&(objectClass=inetOrgPerson)(uid=\x7blogin\x7d))",
  "user.realNameAttribute = cn",
  "user.emailAttribute = mail",
  "",
  "# Group mapping (optional)",
  "# Groups listing their members: \x7bdn\x7d is replaced by the member DN, any other",
  "# \x7battribute\x7d by that attribute of the user entry",
  "group.baseDn = ou=groups,dc=example,dc=org",
  "group.request = (&(objectClass=groupOfUniqueNames)(uniqueMember=\x7bdn\x7d))",
  "group.idAttribute = cn",
  "# Users listing their groups, e.g. memberOf",
  "group.memberOfAttribute =",
  "# Also resolve groups of groups",
  "group.nested = false",
  "",
  "# Multiple servers example:",
  "# [ldap]",
  "# servers = primary, backup",
  "#",
  "# [ldap.primary]",
  "# url = ldap://ldap1.example.org",
  "# user.baseDn = ou=users,dc=example,dc=org",
  "#",
  "# [ldap.backup]",
  "# url = ldap://ldap2.example.org",
  "# user.baseDn = ou=users,dc=example,dc=org"]

/-- The sample file. -/
def sample : String := String.join (sampleLines.map (· ++ "\n"))

end DirectoryAuth.Settings
