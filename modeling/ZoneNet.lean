import ZoneNet.Text.Line
import ZoneNet.Text.Occurrence
import ZoneNet.Address.Literal
import ZoneNet.Address.Assignment
import ZoneNet.Route.FeedLine
import ZoneNet.Buffer.Profile
import ZoneNet.Setup.Run
import ZoneNet.Facility.Recorder
import ZoneNet.Native.AddressTools
import ZoneNet.Native.LeaseTools
import ZoneNet.Native.Service
import ZoneNet.Native.RouteFeed
import ZoneNet.Native.PostnetHook
import ZoneNet.Json.Value
import ZoneNet.Json.Number
import ZoneNet.Json.Quoted
import ZoneNet.Zone.Document
import ZoneNet.Main
import ZoneNet.Log.Entry
import ZoneNet.Log.Filter
import ZoneNet.Log.CappedFile
import ZoneNet.Proofs.Address.DottedQuad
import ZoneNet.Proofs.Route.FeedGrammar
import ZoneNet.Proofs.Address.Steps
import ZoneNet.Proofs.Facility.RecordedSteps
import ZoneNet.Proofs.Facility.LogicalNames
import ZoneNet.Proofs.Text.LineEnds
import ZoneNet.Proofs.Text.Utf8Codec
import ZoneNet.Proofs.Facility.RecordedRoutes
import ZoneNet.Proofs.Address.Sessions
import ZoneNet.Proofs.Setup.Accounting
import ZoneNet.Proofs.Setup.Fatality
import ZoneNet.Proofs.Native.FeedRun
import ZoneNet.Proofs.Setup.Lifecycle
import ZoneNet.Proofs.Setup.Lockstep
import ZoneNet.Proofs.Setup.Isolation
import ZoneNet.Proofs.Setup.Occupancy
import ZoneNet.Proofs.Address.Naming
import ZoneNet.Proofs.Boot.Stages
import ZoneNet.Proofs.Route.MessageLayout
import ZoneNet.Proofs.Boot.FailStop
import ZoneNet.Proofs.Json.Grammar
import ZoneNet.Proofs.Json.Reading
import ZoneNet.Proofs.Json.Members
import ZoneNet.Proofs.Zone.Documents
import ZoneNet.Proofs.Json.Writing
import ZoneNet.Proofs.Address.FailedSteps
import ZoneNet.Proofs.Route.Installs
import ZoneNet.Proofs.Address.LiteralFamily
import ZoneNet.Proofs.Native.LiteralCommands
import ZoneNet.Proofs.Setup.Phases
import ZoneNet.Proofs.Native.LiteralGrammar
import ZoneNet.Proofs.Native.Landings
import ZoneNet.Proofs.Native.LeaseRequests
import ZoneNet.Proofs.Setup.Ipv6Work
import ZoneNet.Proofs.Address.TokenLists
import ZoneNet.Proofs.Buffer.Releases
import ZoneNet.Proofs.Buffer.Limits
import ZoneNet.Proofs.Native.FeedExcerpts
import ZoneNet.Proofs.Boot.LeaseBounds
import ZoneNet.Proofs.Native.LogicalReplies
import ZoneNet.Proofs.Route.PrefixIntegers
import ZoneNet.Proofs.Log.CappedWrites
