import MavenResolution.Configuration.Basic
import MavenResolution.Configuration.Conversion
import MavenResolution.Configuration.Load
import MavenResolution.Constraint.Comparator
import MavenResolution.Constraint.Dialect
import MavenResolution.Constraint.Interval
import MavenResolution.Constraint.Npm
import MavenResolution.Constraint.Parts
import MavenResolution.Constraint.Validation
import MavenResolution.Coordinate
import MavenResolution.Decimal.Binary64
import MavenResolution.Decimal.Shortest
import MavenResolution.Entries
import MavenResolution.Failure
import MavenResolution.Files
import MavenResolution.Http.Basic
import MavenResolution.Http.Retrying
import MavenResolution.Http.Transport
import MavenResolution.Layout
import MavenResolution.Log
import MavenResolution.Log.Threshold
import MavenResolution.Metadata
import MavenResolution.Path
import MavenResolution.Pattern.Basic
import MavenResolution.Pattern.Parse
import MavenResolution.Pom
import MavenResolution.Proofs.Configuration.Loads
import MavenResolution.Proofs.Configuration.Overriding
import MavenResolution.Proofs.Constraint.Candidate
import MavenResolution.Proofs.Constraint.Disjoint
import MavenResolution.Proofs.Constraint.Grammar
import MavenResolution.Proofs.Constraint.Inclusive
import MavenResolution.Proofs.Constraint.Npm
import MavenResolution.Proofs.Constraint.NpmReader
import MavenResolution.Proofs.Constraint.Ranges
import MavenResolution.Proofs.Constraint.Readable
import MavenResolution.Proofs.Constraint.Reading
import MavenResolution.Proofs.Constraint.Release
import MavenResolution.Proofs.Constraint.Scan
import MavenResolution.Proofs.Constraint.Upgrade
import MavenResolution.Proofs.Constraint.Verdict
import MavenResolution.Proofs.Decimal.Overflow
import MavenResolution.Proofs.Files.Below
import MavenResolution.Proofs.Files.Placing
import MavenResolution.Proofs.Http.Answers
import MavenResolution.Proofs.Http.Exchange
import MavenResolution.Proofs.Http.Retrying
import MavenResolution.Proofs.Http.Stateless
import MavenResolution.Proofs.Metadata.Grouping
import MavenResolution.Proofs.Metadata.Merge
import MavenResolution.Proofs.Outcome
import MavenResolution.Proofs.Path.Below
import MavenResolution.Proofs.Pattern.Ends
import MavenResolution.Proofs.Pom.Value
import MavenResolution.Proofs.Redaction.Addresses
import MavenResolution.Proofs.Redaction.Masking
import MavenResolution.Proofs.Redaction.Occurrences
import MavenResolution.Proofs.Relation
import MavenResolution.Proofs.Repository.Credentials
import MavenResolution.Proofs.Repository.Selectors
import MavenResolution.Proofs.Requirement.Declared
import MavenResolution.Proofs.Requirement.Grammar
import MavenResolution.Proofs.Requirement.Interleaving
import MavenResolution.Proofs.Requirement.Intersection
import MavenResolution.Proofs.Requirement.Inverted
import MavenResolution.Proofs.Requirement.Lossless
import MavenResolution.Proofs.Requirement.Matches
import MavenResolution.Proofs.Requirement.Nearest
import MavenResolution.Proofs.Requirement.Printing
import MavenResolution.Proofs.Requirement.Selection
import MavenResolution.Proofs.Requirement.Sharing
import MavenResolution.Proofs.Requirement.Spacing
import MavenResolution.Proofs.Session.Acceptance
import MavenResolution.Proofs.Session.Agreement
import MavenResolution.Proofs.Session.Alike
import MavenResolution.Proofs.Session.Authentication
import MavenResolution.Proofs.Session.Calls
import MavenResolution.Proofs.Session.Credentials
import MavenResolution.Proofs.Session.Disclosure
import MavenResolution.Proofs.Session.Distinct
import MavenResolution.Proofs.Session.FailureReports
import MavenResolution.Proofs.Session.Fallback
import MavenResolution.Proofs.Session.Frame
import MavenResolution.Proofs.Session.Independence
import MavenResolution.Proofs.Session.Inquiries
import MavenResolution.Proofs.Session.JarPlaces
import MavenResolution.Proofs.Session.Jars
import MavenResolution.Proofs.Session.Locations
import MavenResolution.Proofs.Session.Mirrored
import MavenResolution.Proofs.Session.NearestWins
import MavenResolution.Proofs.Session.Parallel
import MavenResolution.Proofs.Session.ParallelDownload
import MavenResolution.Proofs.Session.ParallelResolution
import MavenResolution.Proofs.Session.ParallelSearch
import MavenResolution.Proofs.Session.Probing
import MavenResolution.Proofs.Session.ProjectPoms
import MavenResolution.Proofs.Session.Providers
import MavenResolution.Proofs.Session.Reached
import MavenResolution.Proofs.Session.Remembered
import MavenResolution.Proofs.Session.Replies
import MavenResolution.Proofs.Session.Requests
import MavenResolution.Proofs.Session.Resolved
import MavenResolution.Proofs.Session.Sending
import MavenResolution.Proofs.Session.Sound
import MavenResolution.Proofs.Session.Sources
import MavenResolution.Proofs.Session.Steady
import MavenResolution.Proofs.Session.Told
import MavenResolution.Proofs.Session.Turns
import MavenResolution.Proofs.Session.Writing
import MavenResolution.Proofs.SingleFlight.Alike
import MavenResolution.Proofs.SingleFlight.Caller
import MavenResolution.Proofs.SingleFlight.Compute
import MavenResolution.Proofs.SingleFlight.WriteOnce
import MavenResolution.Proofs.Text.Ascii
import MavenResolution.Proofs.Text.Blank
import MavenResolution.Proofs.Text.Caseless
import MavenResolution.Proofs.Text.Pieces
import MavenResolution.Proofs.Text.Placeholders
import MavenResolution.Proofs.Text.SmallLetters
import MavenResolution.Proofs.Text.Utf8
import MavenResolution.Proofs.Text.Written
import MavenResolution.Proofs.Url.Query
import MavenResolution.Proofs.Url.User
import MavenResolution.Proofs.Url.Writing
import MavenResolution.Proofs.Version.Borders
import MavenResolution.Proofs.Version.Documented
import MavenResolution.Proofs.Version.DocumentedOrder
import MavenResolution.Proofs.Version.Equality
import MavenResolution.Proofs.Version.Exchange
import MavenResolution.Proofs.Version.Greatest
import MavenResolution.Proofs.Version.NormalForm
import MavenResolution.Proofs.Version.Numerals
import MavenResolution.Proofs.Version.Operators
import MavenResolution.Proofs.Version.Order
import MavenResolution.Proofs.Version.Padding
import MavenResolution.Proofs.Version.Reading
import MavenResolution.Proofs.Version.Runs
import MavenResolution.Proofs.Version.Scan
import MavenResolution.Proofs.Version.Segments
import MavenResolution.Proofs.Version.SilentSuffix
import MavenResolution.Proofs.Version.Transitivity
import MavenResolution.Proofs.Xml.Namespace
import MavenResolution.Redaction
import MavenResolution.Repository.Basic
import MavenResolution.Repository.Credentials
import MavenResolution.Repository.Mirror
import MavenResolution.Request
import MavenResolution.Requirement.Basic
import MavenResolution.Requirement.Declaration
import MavenResolution.Requirement.Parse
import MavenResolution.Requirement.Selection
import MavenResolution.Requirement.Token
import MavenResolution.Session.Basic
import MavenResolution.Session.Calls
import MavenResolution.Session.Download
import MavenResolution.Session.Jar
import MavenResolution.Session.Metadata
import MavenResolution.Session.Normalization
import MavenResolution.Session.Resolution
import MavenResolution.Settings
import MavenResolution.SingleFlight.Basic
import MavenResolution.SingleFlight.Region
import MavenResolution.Snapshot
import MavenResolution.Text.Blank
import MavenResolution.Text.Casing
import MavenResolution.Text.Digit
import MavenResolution.Text.Lines
import MavenResolution.Text.Numeral
import MavenResolution.Text.Pieces
import MavenResolution.Text.Placeholder
import MavenResolution.Text.Printable
import MavenResolution.Text.Quoted
import MavenResolution.Text.Ranges
import MavenResolution.Text.Utf8
import MavenResolution.Text.Word
import MavenResolution.Url.Basic
import MavenResolution.Url.Query
import MavenResolution.Version.Basic
import MavenResolution.Version.Item
import MavenResolution.Version.Lexeme
import MavenResolution.Version.Order
import MavenResolution.Xml.Document
import MavenResolution.Xml.Element
import MavenResolution.Xml.Encoding
import MavenResolution.Xml.Lookup
import MavenResolution.Xml.Name
import MavenResolution.Xml.Token
import MavenResolution.Yaml.Cursor
import MavenResolution.Yaml.Document
import MavenResolution.Yaml.Moment
import MavenResolution.Yaml.Scalar
import MavenResolution.Yaml.Text
import MavenResolution.Yaml.Value
