import RealmAuth.Json.Writer
import RealmAuth.Proofs.Realm.Lifetime
import RealmAuth.Proofs.Realm.Taxonomy
import RealmAuth.Role.Parser
import RealmAuth.Token.Update
import RealmAuth.Proofs.Role.Refusal
import RealmAuth.Proofs.Http.Stage
import RealmAuth.Proofs.Http.Precedence
import RealmAuth.Proofs.Http.Redaction
import RealmAuth.Proofs.Clock.Order
import RealmAuth.Proofs.Realm.Aging
import RealmAuth.Proofs.Claims.Agreement
import RealmAuth.Proofs.Realm.Dependence
import RealmAuth.Proofs.Claims.Schema
import RealmAuth.Proofs.Claims.Locality
import RealmAuth.Proofs.Claims.Pruning
import RealmAuth.Proofs.Role.Walk
import RealmAuth.Proofs.Token.Conferred
import RealmAuth.Proofs.Token.Authorization
import RealmAuth.Proofs.Token.Granted
import RealmAuth.Proofs.Token.Recognition
import RealmAuth.Proofs.Http.Lookup
import RealmAuth.Proofs.Token.Dated
import RealmAuth.Proofs.Settings.Listing
import RealmAuth.Proofs.Realm.Setup
import RealmAuth.Proofs.Token.Views
import RealmAuth.Proofs.Token.Offered
import RealmAuth.Proofs.Token.Identity
