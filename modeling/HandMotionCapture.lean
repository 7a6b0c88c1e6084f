import HandMotionCapture.CTypes
import HandMotionCapture.CameraHandler
import HandMotionCapture.CameraHandler.InitDmaBuffers
import HandMotionCapture.CameraHandler.FrameGeometry
import HandMotionCapture.CameraHandler.QueueRequest
import HandMotionCapture.CameraHandler.Constructor
import HandMotionCapture.Pipeline
import HandMotionCapture.Pipeline.Counter
import HandMotionCapture.Pipeline.Ownership
import HandMotionCapture.Pipeline.Delivery
import HandMotionCapture.Pipeline.Shutdown
import HandMotionCapture.Pipeline.Refinement
import HandMotionCapture.Network
import HandMotionCapture.Network.Reconnect
import HandMotionCapture.WireFormat
import HandMotionCapture.StreamMgr
import HandMotionCapture.StreamMgr.Framing
import HandMotionCapture.StreamMgr.Pairing
import HandMotionCapture.StreamMgr.Termination
