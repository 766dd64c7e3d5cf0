import Mathlib.Data.List.Count
import Mathlib.Logic.Function.Basic
import UnionpiTiger.Lib.Run
import UnionpiTiger.Lib.StdMap
import UnionpiTiger.Lib.Stops

set_option autoImplicit false

namespace UnionpiTiger.Camera

open Lib

abbrev Text := List Char

structure Uvc where
  deviceMatch : StdMap Text Text
  told : List (Text × Bool) := []

def maxUvcNode : Nat := 10
def nameSize : Nat := 16

def sprintfName (text : Text) : Option Text := if text.length < nameSize then some text else none

-- Where the memory behind a pointer comes from.
inductive Storage where
  | automatic
  | allocated
deriving DecidableEq, Repr

def free : Storage → Result Unit
  | .automatic => .error .aborts
  | .allocated => .ok ()

-- Of a caller that gives it an array, realpath returns that array.
def realpath (absPath : Storage) (resolves : Bool) : Option Storage :=
  if resolves then some absPath else none

structure V4l2Capability where
  driver : Text
  videoCapture : Bool
  streaming : Bool
deriving DecidableEq, Repr

-- What the system answers for one node: to realpath, open and VIDIOC_QUERYCAP of V4L2UvcGetCap and to
-- the realpath of V4L2UvcSearchCapability.
structure NodeAnswers where
  resolves : Bool
  opens : Bool
  cap : Option V4l2Capability
  searched : Bool
deriving DecidableEq, Repr

def v4l2UvcGetCap (answers : NodeAnswers) : Result (Option Text) :=
  match realpath .automatic answers.resolves with
  | none => .ok none
  | some devName =>
    (free devName).map fun _ =>
      if answers.opens then
        (answers.cap.filter fun cap => cap.videoCapture && cap.streaming).map V4l2Capability.driver
      else none

def v4l2UvcSearchCapability (searched inOut : Bool) : Result Unit :=
  if inOut then
    match realpath .automatic searched with
    | none => .ok ()
    | some name => free name
  else .ok ()

namespace Uvc

def tell (uvc : Uvc) (deviceMatch : StdMap Text Text) (devName : Text) (searched inOut : Bool) :
    Result Uvc :=
  (v4l2UvcSearchCapability searched inOut).map fun _ =>
    { deviceMatch := deviceMatch, told := uvc.told ++ [(devName, inOut)] }

def insertNumbered (uvc : Uvc) (devName v4l2Device : Text) (searched : Bool) :
    List Nat → Result Uvc
  | [] => uvc.tell uvc.deviceMatch devName searched true
  | i :: rest =>
    match sprintfName (devName ++ Nat.toDigits 10 i) with
    | none => .ok uvc
    | some devName =>
      let (deviceMatch, inserted) := uvc.deviceMatch.insert devName v4l2Device
      if inserted then uvc.tell deviceMatch devName searched true
      else uvc.insertNumbered devName v4l2Device searched rest

def v4l2UvcMatchDev (uvc : Uvc) (name v4l2Device : Text) (searched inOut : Bool) : Result Uvc :=
  match sprintfName name with
  | none => .ok uvc
  | some devName =>
    if inOut then
      let (deviceMatch, inserted) := uvc.deviceMatch.insert devName v4l2Device
      if inserted then uvc.tell deviceMatch devName searched true
      else uvc.insertNumbered devName v4l2Device searched (List.range' 1 (maxUvcNode - 1))
    else uvc.tell (uvc.deviceMatch.erase devName) devName searched false

end Uvc

def v4l2GetUsbValue (key : Text) : Text → Option Text
  | [] => none
  | c :: rest =>
    if key.isPrefixOf (c :: rest) then some ((c :: rest).drop key.length)
    else v4l2GetUsbValue key rest

structure UsbString where
  action : Text := []
  subsystem : Text := []
  devnode : Text := []
deriving DecidableEq, Repr

def usbField (field key line : Text) : Text :=
  if field = [] then (v4l2GetUsbValue key line).getD [] else field

def usbLine (usb : UsbString) (line : Text) : UsbString :=
  { action := usbField usb.action "ACTION=".toList line
    subsystem := usbField usb.subsystem "SUBSYSTEM=".toList line
    devnode := usbField usb.devnode "DEVNAME=".toList line }

def v4l2GetUsbString (usb : UsbString) : List Text → UsbString
  | [] => usb
  | line :: rest => if line = [] then usb else v4l2GetUsbString (usbLine usb line) rest

def video4linux : Text := "video4linux".toList
def devDirectory : Text := "/dev/".toList

def Uvc.loopUvcDevice (uvc : Uvc) (lines : List Text) (answers : Text → NodeAnswers) :
    Result Uvc :=
  if (v4l2GetUsbValue video4linux (lines.headD [])).isNone then .ok uvc
  else
    let usb := v4l2GetUsbString {} lines
    if usb.subsystem ≠ video4linux then .ok uvc
    else
      let devName := devDirectory ++ usb.devnode
      if usb.action = "remove".toList then
        match uvc.deviceMatch.entries.find? (fun itr => itr.2 = devName) with
        | none => .ok uvc
        | some itr => uvc.v4l2UvcMatchDev itr.1 devName (answers devName).searched false
      else
        (v4l2UvcGetCap (answers devName)).bind fun
          | none => .ok uvc
          | some driver => uvc.v4l2UvcMatchDev driver devName (answers devName).searched true

structure Uevent where
  action : Text
  devpath : Text
  major : Text
  minor : Text
  node : Text
  seqnum : Text
  answers : NodeAnswers
  action_ne : action ≠ []
  node_ne : node ≠ []
  plain : '=' ∉ action ++ devpath ++ major ++ minor ++ node ++ seqnum
  subsystem : (v4l2GetUsbValue video4linux devpath).isSome

def usbLabelled (label body : Text) : Text := label ++ '=' :: body

def Uevent.lines (event : Uevent) : List Text :=
  [event.action ++ '@' :: event.devpath,
    usbLabelled "ACTION".toList event.action,
    usbLabelled "DEVPATH".toList event.devpath,
    usbLabelled "SUBSYSTEM".toList video4linux,
    usbLabelled "MAJOR".toList event.major,
    usbLabelled "MINOR".toList event.minor,
    usbLabelled "DEVNAME".toList event.node,
    usbLabelled "SEQNUM".toList event.seqnum]

inductive UvcEvent where
  | enumerated (node driver : Text) (searched : Bool)
  | uevent (event : Uevent)

-- The table together with the nodes that were enumerated or added and not removed since.
structure UvcRun where
  uvc : Uvc
  present : Text → Bool := fun _ => false

def Uevent.presence (event : Uevent) (present : Text → Bool) : Text → Bool :=
  if event.action = "add".toList then Function.update present event.node true
  else if event.action = "remove".toList then Function.update present event.node false
  else present

def UvcRun.act (tracked : UvcRun) : UvcEvent → Result UvcRun
  | .enumerated node driver searched =>
    (tracked.uvc.v4l2UvcMatchDev driver (devDirectory ++ node) searched true).map fun uvc =>
      { uvc := uvc, present := Function.update tracked.present node true }
  | .uevent event =>
    (tracked.uvc.loopUvcDevice event.lines fun _ => event.answers).map fun uvc =>
      { uvc := uvc, present := event.presence tracked.present }

def UvcRun.step (tracked : Result UvcRun) (event : UvcEvent) : Result UvcRun :=
  tracked.bind fun tracked => tracked.act event

def createDevMap : StdMap Text Text where
  entries := [("INVALID".toList, "INVALID".toList)]

def UvcRun.start : UvcRun := { uvc := { deviceMatch := createDevMap } }

end UnionpiTiger.Camera
