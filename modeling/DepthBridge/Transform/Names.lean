import DepthBridge.Stream

/-!
# Frame names

Every frame of the transform tree is named after the camera: a stream's body frame
`<camera>_<stream>_frame`, its optical frame `<camera>_<stream>_optical_frame`, the frame of
depth aligned to a stream, the optical frame of the combined inertial channel, and the fixed
odometry frame.
-/

namespace DepthBridge

/-- The naming of frames for one camera. -/
structure FrameNames where
  camera : String := "camera"
  deriving Repr, Inhabited

namespace FrameNames

/-- The body frame of a stream. -/
def frameId (n : FrameNames) (k : StreamKey) : String := n.camera ++ "_" ++ k.name ++ "_frame"

/-- The optical frame of a stream. -/
def opticalFrameId (n : FrameNames) (k : StreamKey) : String :=
  n.camera ++ "_" ++ k.name ++ "_optical_frame"

/-- The frame of depth aligned to a stream. -/
def alignedDepthFrameId (n : FrameNames) (k : StreamKey) : String :=
  n.camera ++ "_aligned_depth_to_" ++ k.name ++ "_frame"

/-- The optical frame of the combined inertial channel. -/
def imuOpticalFrameId (n : FrameNames) : String := n.camera ++ "_imu_optical_frame"

/-- The odometry frame. -/
def odomFrame (_ : FrameNames) : String := "odom_frame"

end FrameNames
end DepthBridge
