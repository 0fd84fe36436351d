import LayeredRoots.Main
import LayeredRoots.Session
import LayeredRoots.Config.Writer
import LayeredRoots.Proofs.Path.Above
import LayeredRoots.Proofs.Search.Outcome
import LayeredRoots.Proofs.Search.Presence
import LayeredRoots.Proofs.Search.Routes
import LayeredRoots.Proofs.Search.Soundness
import LayeredRoots.Proofs.Search.Totality
import LayeredRoots.Proofs.Search.AddedRules
import LayeredRoots.Proofs.Search.Anchoring
import LayeredRoots.Proofs.Search.Confinement
import LayeredRoots.Proofs.Deprecation.Tally
import LayeredRoots.Proofs.Deprecation.Session
import LayeredRoots.Proofs.Deprecation.Independence
import LayeredRoots.Proofs.Config.Valid
import LayeredRoots.Proofs.Search.Layouts
import LayeredRoots.Proofs.Bundle.Manifest
import LayeredRoots.Proofs.Search.Exchange
import LayeredRoots.Proofs.Command.ExitCodes
import LayeredRoots.Proofs.Command.Folding
import LayeredRoots.Proofs.Search.Precedence
import LayeredRoots.Proofs.Search.Prediction
import LayeredRoots.Proofs.Json.Grammar
import LayeredRoots.Proofs.Json.Scanning
import LayeredRoots.Proofs.Json.Values
import LayeredRoots.Proofs.Json.Records
import LayeredRoots.Proofs.Json.Refusals
import LayeredRoots.Proofs.Config.Loading
import LayeredRoots.Proofs.Bundle.Entries
import LayeredRoots.Proofs.Path.Endings
import LayeredRoots.Proofs.Bundle.Root
import LayeredRoots.Proofs.Path.Trimming
import LayeredRoots.Proofs.Storage.Trimming
import LayeredRoots.Proofs.Search.DirectoryBundle
import LayeredRoots.Proofs.Path.Prefixes
import LayeredRoots.Proofs.Search.Relocations
import LayeredRoots.Proofs.Search.Rooted
import LayeredRoots.Proofs.Command.Limits
import LayeredRoots.Proofs.Search.Sentinel
import LayeredRoots.Proofs.Search.RootVariable
import LayeredRoots.Proofs.Config.Building
import LayeredRoots.Proofs.Marker
import LayeredRoots.Proofs.Bundle.Discovery
import LayeredRoots.Proofs.Config.SentinelPlace
import LayeredRoots.Proofs.EnvFile.Assignments
import LayeredRoots.Proofs.Logging.Session
