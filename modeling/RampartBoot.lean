import RampartBoot.Format.Image
import RampartBoot.Core.ManifestParse
import RampartBoot.Core.SignedRegion
import RampartBoot.Core.Statuses
import RampartBoot.Core.Fuzzing
import RampartBoot.Core.HandOff
import RampartBoot.Core.FailClosed
import RampartBoot.Core.Validation
import RampartBoot.Core.Authority
import RampartBoot.Stage0.SlotOrder
import RampartBoot.Stage0.Joined
import RampartBoot.Host.Provisioning
import RampartBoot.Host.Prediction
import RampartBoot.Host.Artifact
import RampartBoot.Host.Inspection
import RampartBoot.Host.Producer
import RampartBoot.Host.Panics
import RampartBoot.Host.Numbers
import RampartBoot.Host.Reports
import RampartBoot.Host.Deployment
