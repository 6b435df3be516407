import PlainLink.Config.Paths
import PlainLink.Config.Reader
import PlainLink.Proofs.Clean.Server
import PlainLink.Proofs.Clean.Settled
import PlainLink.Proofs.Clean.Wrapped
import PlainLink.Proofs.Cookie.Sites
import PlainLink.Proofs.Resolve.Budgets
import PlainLink.Proofs.Resolve.Cookies
import PlainLink.Proofs.Resolve.Outcome
import PlainLink.Proofs.Resolve.Requests
import PlainLink.Proofs.Resolve.Return
import PlainLink.Proofs.Resolve.Transient
import PlainLink.Resolve.Run
import PlainLink.Proofs.Clean.Course
import PlainLink.Proofs.Resolve.Bodies
import PlainLink.Proofs.Clean.Switches
import PlainLink.Proofs.Resolve.Connections
import PlainLink.Proofs.Rule.Literal
import PlainLink.Proofs.Rule.Survivors
import PlainLink.Proofs.Rule.LineEnd
import PlainLink.Proofs.Text.Spelling
import PlainLink.Proofs.Clean.Fields
import PlainLink.Proofs.Cookie.ReadBack
import PlainLink.Proofs.Rule.OwnPattern
import PlainLink.Proofs.Cookie.Unusable
import PlainLink.Proofs.Text.References
import PlainLink.Proofs.Resolve.Delays
import PlainLink.Proofs.Resolve.Fetch
import PlainLink.Proofs.Url.Relative
import PlainLink.Proofs.Clean.Anchors
import PlainLink.Proofs.Rule.Files
import PlainLink.Proofs.Url.HostForm
import PlainLink.Proofs.Host.Local
import PlainLink.Proofs.Http.Blocks
import PlainLink.Proofs.Config.Excerpts
import PlainLink.Proofs.Rule.Additions
