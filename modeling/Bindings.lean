import Bindings.Assembly
import Bindings.Build.Member
import Bindings.Build.Module
import Bindings.Build.Ty
import Bindings.Config.Basic
import Bindings.Config.Fault
import Bindings.Config.Number
import Bindings.Config.Parse
import Bindings.Config.Reader
import Bindings.Decimal.Binary64
import Bindings.Decimal.Shortest
import Bindings.Diagnostics
import Bindings.Exchange.Concern
import Bindings.Exchange.Model.Decl
import Bindings.Exchange.Model.Module
import Bindings.Exchange.Model.Ty
import Bindings.Exchange.Name
import Bindings.Exchange.Source.Decl
import Bindings.Exchange.Source.Ty
import Bindings.Exchange.Value
import Bindings.LogFormat
import Bindings.Model.Decl
import Bindings.Model.Module
import Bindings.Model.Reserved
import Bindings.Model.Ty
import Bindings.Name
import Bindings.Pass.Basic
import Bindings.Pass.ItemArrayLike
import Bindings.Path
import Bindings.Pipeline
import Bindings.Proofs.Concerns.SourceSet
import Bindings.Proofs.Concerns.Ty
import Bindings.Proofs.Counterparts
import Bindings.Proofs.Marker
import Bindings.Proofs.Reservation
import Bindings.Proofs.Walk
import Bindings.Source.Decl
import Bindings.Source.SourceSet
import Bindings.Source.Ty
import Bindings.Text.Blank
import Bindings.Text.CharSet
import Bindings.Text.Extending
import Bindings.Text.Printable
import Bindings.Text.Quoted
import Bindings.Text.Segments
import Bindings.Proofs.Pruning
import Bindings.Proofs.Contents
import Bindings.Proofs.Everywhere
import Bindings.Proofs.Descriptions
import Bindings.Proofs.Collections
import Bindings.Proofs.Extension
import Bindings.Proofs.FileWise
import Bindings.Proofs.NormalPaths
import Bindings.Proofs.References
import Bindings.Proofs.Resplitting
import Bindings.Proofs.Statics
import Bindings.Proofs.Exchange.Reading
import Bindings.Proofs.Exchange.Model
import Bindings.Proofs.Exchange.Source
import Bindings.Proofs.Visits
import Bindings.Proofs.Absorption
import Bindings.Proofs.TextForm.Items
import Bindings.Proofs.TextForm.Ty
import Bindings.Proofs.Spellings
import Bindings.Proofs.Positions
import Bindings.Proofs.Splitting
import Bindings.Proofs.Components
import Bindings.Proofs.Respellings
import Bindings.Proofs.DottedNames
import Bindings.Proofs.Filters
import Bindings.Proofs.Validity
