import Thingsee.Modem.CommandTimeout
import Thingsee.Modem.Interleaving
import Thingsee.Modem.Ownership
import Thingsee.Profiles.LeftStates
import Thingsee.Profiles.SenseBalance
import Thingsee.Profiles.FailedTransitions
import Thingsee.Sms.Address
import Thingsee.Sms.SendTask
import Thingsee.Sockets.TxFull
import Thingsee.Usrsock.Restart
import Thingsee.Core.FileTable
import Thingsee.Senses.Acceleration
import Thingsee.Logs.Delivery
import Thingsee.Gps.StreamRoundTrip
import Thingsee.Conman.SmsQueue
import Thingsee.Conman.ProtocolOrder
import Thingsee.Wifi.RemoteClosed
import Thingsee.Gps.Callbacks
import Thingsee.Gps.DeferredRequests
import Thingsee.Gps.InitPhases
import Thingsee.Connectors.Idle
import Thingsee.Storage.ProdData
import Thingsee.Storage.EngineTexts
import Thingsee.Control.InStep
import Thingsee.DeepSleep.Punctual
import Thingsee.Bluetooth.Discipline
import Thingsee.Bluetooth.Reception
import Thingsee.Bq24251.Prohibition
import Thingsee.Bq24251.Notification
import Thingsee.CloudConnection.Pairs
import Thingsee.Json.RoundTrip
import Thingsee.Sockets.ReceivedData
import Thingsee.Usrsock.Copying
import Thingsee.Sms.Utf8
import Thingsee.Http.Bounds
import Thingsee.Wifi.ScanResults
import Thingsee.Conman.Configuration
import Thingsee.Conman.PollTable
import Thingsee.Modem.PlainVerbatim
import Thingsee.Modem.PollTimers
import Thingsee.Profiles.CountedCauses
import Thingsee.Profiles.SmsLimit
import Thingsee.Senses.CauseTimers
import Thingsee.Gps.AccuracyFilter
import Thingsee.Gps.MessageBounds
import Thingsee.Senses.NineAxis
import Thingsee.Display.EightBit
import Thingsee.Modem.Registration
import Thingsee.DeepSleep.Pins
import Thingsee.Json.Descriptor
import Thingsee.Senses.LocationPhases
import Thingsee.Modem.CellLocate
import Thingsee.Gps.ReceivedFrames
