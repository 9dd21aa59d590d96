import Launchpad.Value.Literal

/-!
Bridges between a topic of the node graph and a topic of the simulator. A bridge is written as
topic, message type on our side, a sign for the direction, and message type in the simulator.
-/

namespace Launchpad.Gazebo

/-- The message types of a package, each with its name in the simulator. -/
def typesByPackage : List (String × TextPairs) :=
  [("actuator_msgs", [("Actuators", "Actuators")]),
   ("builtin_interfaces", [("Time", "Time")]),
   ("geometry_msgs", [("Point", "Vector3d"), ("Pose", "Pose"), ("PoseArray", "Pose_V"),
     ("PoseStamped", "Pose"), ("PoseWithCovariance", "PoseWithCovariance"),
     ("PoseWithCovarianceStamped", "PoseWithCovariance"), ("Quaternion", "Quaternion"),
     ("Transform", "Pose"), ("TransformStamped", "Pose"), ("Twist", "Twist"),
     ("TwistStamped", "Twist"), ("TwistWithCovariance", "TwistWithCovariance"),
     ("TwistWithCovarianceStamped", "TwistWithCovariance"), ("Vector3", "Vector3d"),
     ("Wrench", "Wrench"), ("WrenchStamped", "Wrench")]),
   ("gps_msgs", [("GPSFix", "NavSat")]),
   ("nav_msgs", [("Odometry", "OdometryWithCovariance")]),
   ("rcl_interfaces", [("ParameterValue", "Any")]),
   ("ros_gz_interfaces", [("Altimeter", "Altimeter"), ("Contact", "Contact"),
     ("Contacts", "Contacts"), ("Dataframe", "Dataframe"), ("Entity", "Entity"),
     ("Float32Array", "Float_V"), ("GuiCamera", "GUICamera"), ("JointWrench", "JointWrench"),
     ("Light", "Light"), ("ParamVec", "Param"), ("SensorNoise", "SensorNoise"),
     ("StringVec", "StringMsg_V"), ("TrackVisual", "TrackVisual"),
     ("VideoRecord", "VideoRecord")]),
   ("rosgraph_msgs", [("Clock", "Clock")]),
   ("sensor_msgs", [("BatteryState", "BatteryState"), ("CameraInfo", "CameraInfo"),
     ("FluidPressure", "FluidPressure"), ("Image", "Image"), ("Imu", "IMU"),
     ("JointState", "Model"), ("Joy", "Joy"), ("LaserScan", "LaserScan"),
     ("MagneticField", "Magnetometer"), ("NavSatFix", "NavSat"),
     ("PointCloud2", "PointCloudPacked")]),
   ("std_msgs", [("Bool", "Boolean"), ("ColorRGBA", "Color"), ("Empty", "Empty"),
     ("Float32", "Float"), ("Float64", "Double"), ("Header", "Header"), ("Int32", "Int32"),
     ("String", "StringMsg"), ("UInt32", "UInt32")]),
   ("tf2_msgs", [("TFMessage", "Pose_V")]),
   ("trajectory_msgs", [("JointTrajectory", "JointTrajectory")]),
   ("vision_msgs", [("Detection2D", "AnnotatedAxisAligned2DBox"),
     ("Detection2DArray", "AnnotatedAxisAligned2DBox_V")])]

def messageTypes : TextPairs :=
  typesByPackage.flatMap fun (package, types) =>
    types.map fun (type, simType) => (package ++ "/msg/" ++ type, "gz.msgs." ++ simType)

structure Bridge where
  topic : String
  graphType : String
  direction : String
  simType : String
  remaps : Value := .null
  isImage : Bool

def directionSign (d : String) : String :=
  if d == "ros2gz" then "]" else if d == "gz2ros" then "[" else if d == "bidirectional" then "@"
  else d

def isSign (d : String) : Bool :=
  Text.contains "[]@" d

def Bridge.make (topic graphType direction : String) (simType : Option String) (remaps : Value) :
    Try Bridge :=
  let d := directionSign direction
  if !isSign d then .error (.told .invalidValue s!"Invalid direction {d}")
  else
    let found : Option String := match simType with
      | some t => if t == "" then (messageTypes.lookup graphType) else some t
      | none => messageTypes.lookup graphType
    match found with
    | none => fails .unknownKey
    | some t => .ok
        { topic := topic, graphType := graphType, direction := d, simType := t, remaps := remaps,
          isImage := graphType == "sensor_msgs/msg/Image" }

def Bridge.text (b : Bridge) : String :=
  b.topic ++ "@" ++ b.graphType ++ b.direction ++ b.simType

end Launchpad.Gazebo
