import RowServe.Declaration.Files
import RowServe.Declaration.Writer
import RowServe.Hook.Derived
import RowServe.Hook.Rule
import RowServe.Http.Router
import RowServe.Proofs.Resource.Accepted
import RowServe.Proofs.Resource.Alike
import RowServe.Proofs.Resource.Printed
import RowServe.Proofs.Resource.Slots
import RowServe.Proofs.Service.Deletes
import RowServe.Proofs.Service.Identifiers
import RowServe.Proofs.Table.Provision
import RowServe.Settings.Basic
import RowServe.Settings.Dotenv
import RowServe.Store.Setup
import RowServe.Proofs.Resource.Reads
import RowServe.Proofs.Resource.Repeats
import RowServe.Proofs.Declaration.Reordered
import RowServe.Proofs.Resource.Reordered
import RowServe.Proofs.Request.Query
import RowServe.Proofs.Resource.Pruning
import RowServe.Proofs.Resource.Documents
import RowServe.Proofs.Service.Assigned
import RowServe.Proofs.Service.Packed
import RowServe.Proofs.Contract.Integers
import RowServe.Proofs.Resource.Ordering
import RowServe.Proofs.Service.SessionKeys
import RowServe.Proofs.Contract.PageRange
import RowServe.Proofs.Contract.Joined
import RowServe.Proofs.Request.Unordered
import RowServe.Proofs.Resource.Inserts
import RowServe.Proofs.Template.Staged
import RowServe.Proofs.Template.Reading
import RowServe.Proofs.Resource.Casts
import RowServe.Proofs.Table.Created
import RowServe.Proofs.Sql.Quoting
import RowServe.Proofs.Store.Address
import RowServe.Proofs.Store.ConstraintDetail
import RowServe.Proofs.Table.Sequences
