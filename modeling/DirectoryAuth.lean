import DirectoryAuth.Main
import DirectoryAuth.Proofs.Filter.Substitution
import DirectoryAuth.Proofs.Groups.Attributes
import DirectoryAuth.Proofs.Groups.Ids
import DirectoryAuth.Proofs.Groups.Nesting
import DirectoryAuth.Proofs.Groups.Termination
import DirectoryAuth.Proofs.Groups.Unknown
import DirectoryAuth.Proofs.Groups.Unreadable
import DirectoryAuth.Proofs.Login.Statuses
import DirectoryAuth.Proofs.Lookup.Resolution
import DirectoryAuth.Proofs.Console.Files
import DirectoryAuth.Proofs.Console.Verdicts
import DirectoryAuth.Proofs.Mapping.Placeholders
import DirectoryAuth.Proofs.Rosters
import DirectoryAuth.Proofs.Search.Closing
import DirectoryAuth.Proofs.Search.Interleaving
import DirectoryAuth.Proofs.Session.Closing
import DirectoryAuth.Proofs.Session.Order
import DirectoryAuth.Proofs.Settings.Dropping
import DirectoryAuth.Proofs.Settings.Isolation
import DirectoryAuth.Proofs.Settings.Listed
import DirectoryAuth.Proofs.Settings.Writing
import DirectoryAuth.Search.Sequence
import DirectoryAuth.Proofs.Realm.Preparation
import DirectoryAuth.Proofs.Diagnosis
import DirectoryAuth.Proofs.Assembly
import DirectoryAuth.Proofs.Discovery
import DirectoryAuth.Proofs.Mapping.Numbering
import DirectoryAuth.Proofs.Settings.Blanks
import DirectoryAuth.Proofs.Text.Division
