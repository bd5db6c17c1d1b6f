import Gatehouse.Api.Service
import Gatehouse.CommandLine.Invocation
import Gatehouse.Directory.Database
import Gatehouse.Directory.Seeding
import Gatehouse.Host
import Gatehouse.Http.Line
import Gatehouse.Main
import Gatehouse.Proofs.Session.UnseenWrites
import Gatehouse.Proofs.Session.Activity
import Gatehouse.Proofs.Session.Revocation
import Gatehouse.Settings.Loading
import Gatehouse.Store.Backend
import Gatehouse.Proofs.Directory.Roles
import Gatehouse.Proofs.Session.Contention
import Gatehouse.Proofs.Session.IssuedTokens
import Gatehouse.Proofs.Settings.Secrets
import Gatehouse.Proofs.Api.Authorization
import Gatehouse.Proofs.Session.Isolation
import Gatehouse.Proofs.Session.Validity
import Gatehouse.Proofs.Api.Discretion
import Gatehouse.Proofs.Store.Backends
import Gatehouse.Proofs.Session.Reading
import Gatehouse.Proofs.Directory.ConcurrentSeeding
import Gatehouse.Proofs.Session.SigningIn
import Gatehouse.Proofs.Text.MaskedUrl
import Gatehouse.Proofs.Password.Exactness
import Gatehouse.Proofs.Session.Lifetimes
import Gatehouse.Proofs.Session.Separation
import Gatehouse.Proofs.Session.Evaluation
import Gatehouse.Proofs.Directory.Answers
import Gatehouse.Proofs.Directory.Uniqueness
import Gatehouse.Proofs.Api.LogInAnswers
import Gatehouse.Proofs.Directory.Additions
import Gatehouse.Proofs.Session.StoredLifetimes
import Gatehouse.Proofs.Settings.Layering
import Gatehouse.Proofs.CommandLine.SeedOptions
