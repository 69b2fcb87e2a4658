import BackOffice.Command.Run
import BackOffice.Json.Command
import BackOffice.Json.Printer
import BackOffice.Json.Reader
import BackOffice.Main
import BackOffice.Proofs.AccountInvariant
import BackOffice.Proofs.AccountMoves
import BackOffice.Proofs.AccountRuns
import BackOffice.Proofs.CodeLookup
import BackOffice.Proofs.CommandAtomicity
import BackOffice.Proofs.DiscountForms
import BackOffice.Proofs.DiscountRuns
import BackOffice.Proofs.DiscountValidity
import BackOffice.Proofs.MaskedStores
import BackOffice.Proofs.ScopeDeltas
import BackOffice.Store.Listing
import BackOffice.Proofs.DiscountUpdates
import BackOffice.Proofs.ScopeChanges
import BackOffice.Proofs.DiscountCreation
import BackOffice.Proofs.StoredAddresses
import BackOffice.Proofs.CodeLanguage
import BackOffice.Proofs.PreparedAddresses
import BackOffice.Proofs.CountryLists
import BackOffice.Proofs.DisplayNames
import BackOffice.Proofs.SettingsLanguage
import BackOffice.Proofs.UpdateCommands
