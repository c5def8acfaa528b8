import NjsModbus.Utils
import NjsModbus.Types
import NjsModbus.ErrorCode
import NjsModbus.Coils
import NjsModbus.Layers.Abstract
import NjsModbus.Layers.Rtu
import NjsModbus.Layers.Tcp
import NjsModbus.Layers.Ascii
import NjsModbus.Layers.AsciiScanner
import NjsModbus.Layers.RtuReception
import NjsModbus.Layers.BurstBoundaries
import NjsModbus.Master.WaitResponse
import NjsModbus.Master.Requests
import NjsModbus.Master.Responses
import NjsModbus.Slave.Model
import NjsModbus.Slave.Handlers
import NjsModbus.Slave.DeviceIdentification
import NjsModbus.Slave.IdentificationWalk
import NjsModbus.Slave.Dispatch
import NjsModbus.Exchange.Wire
import NjsModbus.Exchange.Requests
import NjsModbus.Exchange.Faults
import NjsModbus.Exchange.Session
import NjsModbus.Exchange.Peers
