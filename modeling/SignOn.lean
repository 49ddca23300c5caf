import SignOn.Login.Stage
import SignOn.Proofs.Cache.PendingLogins
import SignOn.Proofs.Config.Redirects
import SignOn.Proofs.Config.Settings
import SignOn.Proofs.Documents.Interleaved
import SignOn.Proofs.GitHub.Exchange
import SignOn.Proofs.Interleaving
import SignOn.Proofs.Json.Agreement
import SignOn.Proofs.KeyFiles.Armour
import SignOn.Proofs.KeyFiles.Der
import SignOn.Proofs.KeyFiles.Loading
import SignOn.Proofs.Login.Accounts
import SignOn.Proofs.Login.Addresses
import SignOn.Proofs.Login.Course
import SignOn.Proofs.Login.Emails
import SignOn.Proofs.Login.Isolation
import SignOn.Proofs.Login.Landing
import SignOn.Proofs.Login.States
import SignOn.Proofs.Records
import SignOn.Proofs.Store.Order
import SignOn.Proofs.Store.Permanence
import SignOn.Proofs.Token.Hours
import SignOn.Proofs.Token.Issued
import SignOn.Proofs.Token.Keys
import SignOn.Proofs.Token.TwoReadings
import SignOn.Proofs.Transcript
import SignOn.Proofs.Url.Outcome
import SignOn.Proofs.Url.Query
import SignOn.Proofs.Visits
import SignOn.Proofs.Web.Session
import SignOn.Proofs.Web.SignOnPage
import SignOn.Start
import SignOn.Store.Remote
import SignOn.Text.Utf8.Lemmas
import SignOn.Web.Pages
import SignOn.Proofs.Config.Origins
import SignOn.Proofs.Login.UserAddress
import SignOn.Proofs.Documents.Upserts
