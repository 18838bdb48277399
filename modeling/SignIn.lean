import SignIn.OAuth.Mapper
import SignIn.OAuth.Run
import SignIn.Registry.Strategy
import SignIn.Directory.Login
import SignIn.Local.Account
import SignIn.Config.Logging
import SignIn.Proofs.Codec.Fields
import SignIn.Proofs.Codec.Symbols
import SignIn.Proofs.Bcrypt.HashText
import SignIn.Proofs.Directory.Salted
import SignIn.Proofs.Directory.Schemes
import SignIn.Proofs.Registry.OneCache
import SignIn.Proofs.OAuth.PendingRecord
import SignIn.Proofs.OAuth.Exchange
import SignIn.Proofs.OAuth.Course
import SignIn.Proofs.OAuth.Legs
import SignIn.Proofs.OAuth.Journal
import SignIn.Proofs.OAuth.Pipeline
import SignIn.Proofs.OAuth.History
import SignIn.Proofs.OAuth.SingleUse
import SignIn.Proofs.OAuth.Parameters
import SignIn.Proofs.OAuth.Completion
import SignIn.Proofs.OAuth.Verifier
import SignIn.Proofs.OAuth.Binding
import SignIn.Proofs.OAuth.CallbackAddress
import SignIn.Proofs.OAuth.Visibility
import SignIn.Proofs.OAuth.Isolation
import SignIn.Proofs.OAuth.Persistence
import SignIn.Proofs.OAuth.Results
import SignIn.Proofs.OAuth.MandatoryFields
import SignIn.Proofs.OAuth.Faults
import SignIn.Proofs.Cache.IdealMap
import SignIn.Proofs.Cache.Mirror
import SignIn.Proofs.OAuth.Blanks
import SignIn.Proofs.OAuth.Secrecy
import SignIn.Proofs.Local.Password
import SignIn.Proofs.Local.Login
import SignIn.Proofs.Directory.Faults
import SignIn.Proofs.Directory.Decision
import SignIn.Proofs.OAuth.NormalToken
import SignIn.Proofs.OAuth.AddressParameters
import SignIn.Proofs.OAuth.TokenForm
import SignIn.Proofs.OAuth.Verification
import SignIn.Proofs.OAuth.StateStrength
import SignIn.Proofs.OAuth.ScopeParameter
import SignIn.Proofs.Number.Rounding
import SignIn.Proofs.Cache.Expiry
import SignIn.Proofs.Cache.Holdings
import SignIn.Proofs.OAuth.HeldLogins
