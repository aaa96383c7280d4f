import Catalog.Decimal.Fixed
import Catalog.Proofs.Field.Date
import Catalog.Proofs.Paging.Words
import Catalog.Proofs.Record.Reading
import Catalog.Proofs.Schema.Alignment
import Catalog.Proofs.Schema.Cache
import Catalog.Proofs.Schema.Descriptors
import Catalog.Proofs.Schema.Lookup
import Catalog.Proofs.Search.Circle
import Catalog.Proofs.Search.Comparison
import Catalog.Proofs.Search.Distances
import Catalog.Proofs.Search.Listing
import Catalog.Proofs.Search.Pattern
import Catalog.Proofs.Search.Range
import Catalog.Proofs.Search.Request
import Catalog.Proofs.Search.Term
import Catalog.Proofs.Search.Words
import Catalog.Proofs.Settings.Variables
import Catalog.Proofs.Settings.WriterMemory
import Catalog.Proofs.Store.Reopening
import Catalog.Proofs.Text.FinalSigma
import Catalog.Proofs.Text.Greek.Accents
import Catalog.Proofs.Text.Greek.Homophones
import Catalog.Proofs.Text.Pieces
import Catalog.Proofs.Text.Separated
import Catalog.Sample.Clash
import Catalog.Sample.Grid
import Catalog.Sample.Shop
import Catalog.Sample.Venue
