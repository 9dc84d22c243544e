import VaultUsage.Main
import VaultUsage.Service.Redirects
import VaultUsage.Service.Route
import VaultUsage.Proofs.Results
import VaultUsage.Proofs.Numerals
import VaultUsage.Proofs.CommandLine
import VaultUsage.Proofs.Batch
import VaultUsage.Proofs.Rows
import VaultUsage.Proofs.Run
import VaultUsage.Proofs.Layout
import VaultUsage.Proofs.Redirects
import VaultUsage.Proofs.Delivery
import VaultUsage.Proofs.Totals
import VaultUsage.Proofs.Overview
import VaultUsage.Proofs.Percent
import VaultUsage.Proofs.Address
import VaultUsage.Proofs.Confinement
import VaultUsage.Proofs.NameMaps
import VaultUsage.Proofs.Catalog
import VaultUsage.Proofs.Json.Grammar
import VaultUsage.Proofs.Json.Scanning
import VaultUsage.Proofs.Json.Trees
import VaultUsage.Proofs.Json.Reading
import VaultUsage.Proofs.Json.WellFormed
import VaultUsage.Proofs.Json.Parsing
import VaultUsage.Proofs.Json.Printing
import VaultUsage.Proofs.Json.Decoding
import VaultUsage.Proofs.Json.FromText
import VaultUsage.Proofs.Json.FromValue
import VaultUsage.Proofs.Json.Shapes
import VaultUsage.Proofs.Shortest
import VaultUsage.Proofs.Json.Reals
import VaultUsage.Proofs.Instants
import VaultUsage.Proofs.ReadBack
import VaultUsage.Proofs.Accounting
import VaultUsage.Proofs.Secrecy
import VaultUsage.Proofs.Given
import VaultUsage.Proofs.Precedence
import VaultUsage.Proofs.Sources
import VaultUsage.Proofs.IpAddresses
import VaultUsage.Proofs.NormalForm
import VaultUsage.Proofs.Spelling
import VaultUsage.Proofs.Diagnostics
import VaultUsage.Proofs.SingleVault
import VaultUsage.Proofs.Rounding
import VaultUsage.Proofs.Scaling
import VaultUsage.Proofs.Sizes
import VaultUsage.Proofs.Signs
import VaultUsage.Proofs.SizeOrder
import VaultUsage.Proofs.Tables
import VaultUsage.Proofs.Utf8
import VaultUsage.Proofs.Breakdowns
import VaultUsage.Proofs.Json.Places
import VaultUsage.Proofs.Json.Pointers
import VaultUsage.Proofs.Json.Rearranging
import VaultUsage.Proofs.Json.Sorting
import VaultUsage.Proofs.Json.Integers
import VaultUsage.Proofs.KnownContent
import VaultUsage.Proofs.Listings
import VaultUsage.Proofs.Figures
