import Telematics.CommandLine.Host
import Telematics.Main
import Telematics.Schedule.Periodic
import Telematics.Proofs.Fleet.Fragments
import Telematics.Proofs.Fleet.Merging
import Telematics.Proofs.Fleet.Selection
import Telematics.Proofs.Geo.Recursion
import Telematics.Proofs.Geo.Stability
import Telematics.Proofs.Geo.Tolerance
import Telematics.Proofs.Wire.Format
import Telematics.Proofs.Wire.RoundTrip
import Telematics.Proofs.Wire.Corruption
import Telematics.Proofs.Wire.Gathering
import Telematics.Proofs.Wire.Acceptance
import Telematics.Proofs.Wire.Capacity
import Telematics.Proofs.Wire.Safety
import Telematics.Proofs.Session.Batches
import Telematics.Proofs.Session.Numbering
import Telematics.Proofs.Session.Readers
import Telematics.Proofs.Pipeline.Resolving
import Telematics.Proofs.Pipeline.Effects
import Telematics.Proofs.Pipeline.Endpoints
import Telematics.Proofs.Pipeline.Retrying
import Telematics.Proofs.Pipeline.Deduplication
import Telematics.Proofs.Pipeline.Restart
import Telematics.Proofs.Pipeline.Refreshing
import Telematics.Proofs.Pipeline.Conservation
import Telematics.Proofs.Store.Partition
import Telematics.Proofs.Terminal.Built
import Telematics.Proofs.CommandLine.SeedFile
