import MVisor.Panic
import MVisor.Vfio.Regions
import MVisor.Vfio.BarMapper
import MVisor.Vfio.BarLifecycle
import MVisor.Vfio.BarAccess
import MVisor.Vfio.BarRuns
import MVisor.Vfio.ConfigSpace
import MVisor.Vfio.ConfigRuns
import MVisor.Vfio.Capabilities
import MVisor.Vfio.RegionTable
import MVisor.Vfio.DmaMirror
import MVisor.Vfio.DmaRuns
import MVisor.Sweet.EncodeSlice
import MVisor.Sweet.Encoder
import MVisor.Sweet.EncoderRuns
import MVisor.Sweet.EncoderEvents
import MVisor.Sweet.EncodeOutput
import MVisor.Sweet.Pacing
import MVisor.Sweet.ByteCopy
import MVisor.Sweet.RenderPartial
import MVisor.Sweet.DrawSlices
import MVisor.Sweet.ConvertPartial
import MVisor.Uip.RedirectUdp
import MVisor.Uip.RedirectUdpRuns
import MVisor.Uip.DatagramFlow
