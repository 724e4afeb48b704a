import WLManager.Transition.Run
import WLManager.Transition.Thread
import WLManager.Client.AcquiredLedger
import WLManager.Client.LockedCounter
import WLManager.Client.FrameDelivery
import WLManager.Client.BufferOwnership
import WLManager.Service.ClientList
import WLManager.Service.AtMostOneClient
import WLManager.Service.MessageQueue
import WLManager.Collection.KeyedCache
import WLManager.Protocol.History
import WLManager.Client.BufferCache
import WLManager.Client.FirstConfigure
import WLManager.Client.SerialReplies
import WLManager.Client.CleanStart
import WLManager.Client.UnlockPairing
import WLManager.Client.DisplayProjection
import WLManager.Client.FrameCallbacks
import WLManager.Client.Teardown
import WLManager.Client.RawImage
import WLManager.Client.ShownFrames
import WLManager.Client.LoopTable
import WLManager.Service.Linearization
import WLManager.Client.EglThread
import WLManager.Client.ProgramLedger
import WLManager.Service.RefreshRace
import WLManager.Client.Pictures
import WLManager.Client.Devices
import WLManager.Client.LargestImage
import WLManager.Client.FrameLatency
