import Mathlib.Data.List.Basic
import UnionpiTiger.Camera.Uvc
import UnionpiTiger.Lib.Batch

set_option autoImplicit false

namespace UnionpiTiger.Camera

open Lib

structure V4l2Menu where
  id : UInt32
  index : UInt32
  value : Int64
  name : Text
deriving DecidableEq

structure DeviceControl where
  id : UInt32 := 0
  ctrlClass : UInt32 := 0
  type : UInt32 := 0
  flags : UInt32 := 0
  minimum : Int32 := 0
  maximum : Int32 := 0
  step : Int32 := 0
  defaultValue : Int32 := 0
  value : Int32 := 0
  name : Text := []
  menu : List V4l2Menu := []
deriving DecidableEq

def DeviceControl.setValue (control : DeviceControl) (value : Int32) : DeviceControl :=
  { control with value := value }

inductive RetCode where
  | ok
  | error
deriving DecidableEq

def v4l2CtrlFlagReadOnly : UInt32 := 0x0004
def v4l2CtrlFlagWriteOnly : UInt32 := 0x0040

def DeviceControl.readOnly (control : DeviceControl) : Bool :=
  control.flags &&& v4l2CtrlFlagReadOnly ≠ 0
def DeviceControl.writeOnly (control : DeviceControl) : Bool :=
  control.flags &&& v4l2CtrlFlagWriteOnly ≠ 0

-- What the code fills in of `struct v4l2_ext_control`, and `struct v4l2_control`.
structure ExtControl where
  id : UInt32
  value : Int32
deriving DecidableEq

inductive Ioctl where
  | sExtCtrls (ctrlClass : UInt32) (controls : List ExtControl)
  | sCtrl (ctrl : ExtControl)
  | gExtCtrls (ctrlClass : UInt32) (ids : List UInt32)
  | gCtrl (id : UInt32)
deriving DecidableEq

abbrev Outcomes := List Ioctl → Bool

abbrev Scratch := Nat → ExtControl

def Scratch.first (cList : Scratch) (count : Nat) : List ExtControl := (List.range count).map cList

structure Setting where
  cList : Scratch
  count : Nat := 0
  sent : List Ioctl := []

def setEach (cList : Scratch) : Nat → Nat → List Ioctl → List Ioctl
  | _, 0, sent => sent
  | i, count + 1, sent => setEach cList (i + 1) count (sent ++ [.sCtrl (cList i)])

def Setting.store (numControls : Int) (setting : Setting) (control : DeviceControl) : Setting :=
  if setting.count ≤ numControls then
    { setting with
      cList := Function.update setting.cList setting.count
        { setting.cList setting.count with value := control.value }
      count := setting.count + 1 }
  else setting

def Setting.flush (ok : Outcomes) (setting : Setting) (ctrlClass : UInt32) : Setting :=
  let sent := setting.sent ++ [.sExtCtrls ctrlClass (setting.cList.first setting.count)]
  { setting with
    count := 0
    sent := if ok sent then sent else setEach setting.cList 0 setting.count sent }

def v4l2SetCtrls (ok : Outcomes) (scratch : Scratch) (control : List DeviceControl)
    (numControls : Int) :
    RetCode × List Ioctl :=
  if numControls ≠ control.length then (.error, [])
  else
    (.ok, (batchLoop DeviceControl.readOnly DeviceControl.ctrlClass (Setting.store numControls)
      (Setting.flush ok)
      { cList := scratch } control).sent)

structure Getting where
  cList : Scratch
  control : List DeviceControl
  count : Nat := 0
  iter : Nat := 0
  sent : List Ioctl := []

def Getting.write (getting : Getting) (value : Int32) : Getting :=
  { getting with
    control := getting.control.modify getting.iter fun control => control.setValue value
    iter := getting.iter + 1 }

def getEach (ok : Outcomes) (device : UInt32 → Int32) : Nat → Nat → Getting → Getting
  | _, 0, getting => getting
  | i, count + 1, getting =>
    let sent := getting.sent ++ [.gCtrl (getting.cList i).id]
    let getting := { getting with sent := sent }
    getEach ok device (i + 1) count (if ok sent then getting.write (device (getting.cList i).id)
      else getting)

def takeEach : Nat → Nat → Getting → Getting
  | _, 0, getting => getting
  | i, count + 1, getting => takeEach (i + 1) count (getting.write (getting.cList i).value)

def Getting.store (numControls : Int) (getting : Getting) (control : DeviceControl) : Getting :=
  if getting.count ≤ numControls then
    { getting with
      cList := Function.update getting.cList getting.count
        { getting.cList getting.count with id := control.id }
      count := getting.count + 1 }
  else getting

def filled (device : UInt32 → Int32) (cList : Scratch) (count : Nat) : Scratch := fun i =>
  if i < count then { cList i with value := device (cList i).id } else cList i

def Getting.flush (ok : Outcomes) (device : UInt32 → Int32) (getting : Getting)
    (ctrlClass : UInt32) : Getting :=
  let sent := getting.sent ++
    [.gExtCtrls ctrlClass ((getting.cList.first getting.count).map ExtControl.id)]
  let getting := { getting with sent := sent }
  let getting :=
    if ok sent then takeEach 0 getting.count { getting with cList := filled device getting.cList getting.count }
    else getEach ok device 0 getting.count getting
  { getting with count := 0 }

def v4l2GetCtrls (ok : Outcomes) (device : UInt32 → Int32) (scratch : Scratch)
    (control : List DeviceControl) (numControls : Int) : RetCode × List DeviceControl :=
  if numControls ≠ control.length then (.error, control)
  else
    (.ok, (batchLoop DeviceControl.writeOnly DeviceControl.ctrlClass (Getting.store numControls)
      (Getting.flush ok device) { cList := scratch, control := control } control).control)

def v4l2CtrlTypeMenu : UInt32 := 3
def v4l2CtrlTypeCtrlClass : UInt32 := 6
def v4l2CtrlTypeIntegerMenu : UInt32 := 9
def v4l2CtrlFlagDisabled : UInt32 := 0x0001
def v4l2CtrlFlagNextCtrl : UInt32 := 0x80000000
def v4l2CidBase : UInt32 := 0x00980900
def v4l2CidPrivateBase : UInt32 := 0x08000000

def v4l2CtrlId2Class (id : UInt32) : UInt32 := id &&& 0x0FFF0000

structure MenuItem where
  value : Int64
  name : Text

-- A control of the driver: what `VIDIOC_QUERYCTRL`, `VIDIOC_G_CTRL` and `VIDIOC_QUERYMENU` answer
-- about it. The last
-- index of a menu is the number of its items less one.
structure DriverControl where
  id : UInt32
  type : UInt32
  name : Text := []
  minimum : Int32 := 0
  maximum : Int32 := 0
  step : Int32 := 0
  defaultValue : Int32 := 0
  flags : UInt32 := 0
  value : Option Int32 := none
  item : UInt32 → Option MenuItem := fun _ => none
  bounded : type = v4l2CtrlTypeMenu → maximum.toUInt32 ≠ 0xFFFFFFFF := by decide

def DriverControl.disabled (control : DriverControl) : Bool :=
  control.flags &&& v4l2CtrlFlagDisabled ≠ 0

-- `lastP1` is the `V4L2_CID_LASTP1` of the kernel's header, which moves with every control that is
-- added to it.
structure Driver where
  controls : List DriverControl
  lastP1 : UInt32 := v4l2CidBase + 43
  above : v4l2CidBase ≤ lastP1 := by decide
  below : lastP1 ≤ v4l2CidPrivateBase := by decide
  rising : controls.Pairwise fun a b => a.id < b.id
  ranged : ∀ control ∈ controls, v4l2CidBase ≤ control.id ∧ control.id < lastP1 ∨
    v4l2CidPrivateBase ≤ control.id ∧ control.id < v4l2CidPrivateBase + 100

namespace Driver

variable (driver : Driver)

def find (id : UInt32) : Option DriverControl := driver.controls.find? fun control => control.id = id

def queryCtrl (supported : Bool) (id : UInt32) : Option DriverControl :=
  if id &&& v4l2CtrlFlagNextCtrl ≠ 0 then
    if supported then driver.controls.find? fun control => id &&& ~~~ v4l2CtrlFlagNextCtrl <
      control.id else none
  else driver.find id

def v4l2GetCtrl (id : UInt32) : Option Int32 := (driver.find id).bind DriverControl.value

def queryMenu (id index : UInt32) : Option MenuItem :=
  (driver.find id).bind fun control => control.item index

def extControl (supported : Bool) (id : UInt32) : Option DriverControl :=
  driver.queryCtrl supported (id ||| v4l2CtrlFlagNextCtrl)

def v4l2SetValue (control : List DeviceControl) (ctrl : DeviceControl) (qCtrl : DriverControl) :
    List DeviceControl × DeviceControl :=
  let ctrl := { ctrl with
    id := qCtrl.id
    ctrlClass := v4l2CtrlId2Class qCtrl.id
    type := qCtrl.type
    minimum := qCtrl.minimum
    maximum := qCtrl.maximum
    step := qCtrl.step
    defaultValue := qCtrl.defaultValue
    flags := qCtrl.flags
    name := qCtrl.name }
  if qCtrl.type = v4l2CtrlTypeCtrlClass then (control ++ [ctrl], ctrl)
  else
    match driver.v4l2GetCtrl qCtrl.id with
    | some value => (control, { ctrl with value := value })
    | none => (control, ctrl)

-- The loop over `menu.index`, which is unsigned as the field of `struct v4l2_querymenu` is.
def menuItems (qCtrl : DriverControl) : List V4l2Menu :=
  let first := qCtrl.minimum.toUInt32.toNat
  let last := qCtrl.maximum.toUInt32.toNat
  (List.range' first (last + 1 - first)).filterMap fun index =>
    (driver.queryMenu qCtrl.id index.toUInt32).map fun item =>
      { id := qCtrl.id, index := index.toUInt32, value := item.value, name := item.name }

def addMenu (ctrl : DeviceControl) (qCtrl : DriverControl) : DeviceControl :=
  if qCtrl.type = v4l2CtrlTypeMenu then { ctrl with menu := ctrl.menu ++ driver.menuItems qCtrl }
    else ctrl

-- `none` when the loop has not ended after so many queries.
def enumExtLoop (supported : Bool) :
    Nat → UInt32 → DeviceControl → List DeviceControl → Option (List DeviceControl)
  | 0, _, _, _ => none
  | fuel + 1, id, ctrl, control =>
    match driver.extControl supported id with
    | none => some control
    | some qCtrl =>
      if qCtrl.disabled then enumExtLoop supported fuel qCtrl.id ctrl control
      else
        let (control, ctrl) := driver.v4l2SetValue control ctrl qCtrl
        let ctrl := driver.addMenu ctrl qCtrl
        enumExtLoop supported fuel qCtrl.id ctrl (control ++ [ctrl])

def v4l2EnumExtControls (supported : Bool) (control : List DeviceControl) :
    Option (List DeviceControl) :=
  driver.enumExtLoop supported (driver.controls.length + 1) v4l2CtrlFlagNextCtrl {} control

-- `none` for `RC_ERROR`.
def v4l2GetControl (control : List DeviceControl) (id : UInt32) : Option (List DeviceControl) :=
  match driver.find id with
  | none => none
  | some queryCtrl =>
    if queryCtrl.disabled then some control
    else
      let (control, ctrl) := driver.v4l2SetValue control {} queryCtrl
      some (control ++ [driver.addMenu ctrl queryCtrl])

def enumRange : Nat → UInt32 → List DeviceControl → List DeviceControl
  | 0, _, control => control
  | left + 1, id, control =>
    match driver.v4l2GetControl control id with
    | none => control
    | some control => enumRange left (id + 1) control

def v4l2EnumControls (control : List DeviceControl) : List DeviceControl :=
  let control := driver.enumRange (driver.lastP1 - v4l2CidBase).toNat v4l2CidBase control
  driver.enumRange 100 v4l2CidPrivateBase control

def v4l2GetControls (supported : Bool) (fd : Int) : RetCode × Option (List DeviceControl) :=
  if fd < 0 then (.error, some [])
  else if (driver.extControl supported v4l2CtrlFlagNextCtrl).isNone
    then (.ok, some (driver.v4l2EnumControls []))
  else (.ok, driver.v4l2EnumExtControls supported [])

end Driver

end UnionpiTiger.Camera
