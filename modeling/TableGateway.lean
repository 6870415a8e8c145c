import TableGateway.Config.Document
import TableGateway.Database.Migration
import TableGateway.Database.Scripted
import TableGateway.Gateway.DryRun
import TableGateway.Gateway.Model
import TableGateway.Record.Lemmas
import TableGateway.Proofs.Database.Atomicity
import TableGateway.Proofs.Database.Migration
import TableGateway.Proofs.Gateway.Assignment
import TableGateway.Proofs.Gateway.InsertMany
import TableGateway.Proofs.Gateway.Safety
import TableGateway.Proofs.Gateway.Session
import TableGateway.Proofs.Query.Placeholders
import TableGateway.Proofs.Query.ReadBack
import TableGateway.Proofs.Query.Refusal
import TableGateway.Proofs.Schema.Alteration
import TableGateway.Proofs.Schema.Separation
import TableGateway.Proofs.Schema.Literals
import TableGateway.Proofs.Schema.Types
import TableGateway.Proofs.Record.Filtering
import TableGateway.Proofs.Record.History
import TableGateway.Proofs.Inflection.Endings
import TableGateway.Proofs.Inflection.RoundTrip
import TableGateway.Proofs.Gateway.Confinement
import TableGateway.Proofs.Gateway.Narrowing
import TableGateway.Proofs.Gateway.Saving
import TableGateway.Proofs.Inflection.Case
import TableGateway.Proofs.Inflection.Compounds
import TableGateway.Proofs.Config.Variables
import TableGateway.Proofs.Query.Trailing
import TableGateway.Proofs.Database.Moments
import TableGateway.Proofs.Database.Rows
import TableGateway.Proofs.Database.Echo
import TableGateway.Proofs.Schema.Drafts
