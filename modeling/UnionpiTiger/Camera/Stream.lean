import Mathlib.Algebra.Group.Nat.Defs
import Mathlib.Data.Finset.Card
import Mathlib.Data.Fintype.Card
import UnionpiTiger.Lib.Run
import UnionpiTiger.Lib.StdMap

set_option autoImplicit false

namespace UnionpiTiger.Camera

open Lib

abbrev Fd := Fin (2 ^ 31)

inductive Watched where
  | camera (fd : Fd)
  | event
deriving DecidableEq, Repr

-- Where loopBuffers is: it reads streamNumber_ next, sits in epoll_wait, or has returned.
inductive LoopAt where
  | head
  | waiting
  | exited
deriving DecidableEq, Repr

inductive CallAt where
  | idle
  | streamingOn (fd : Fd)
  | creatingEpoll (fd : Fd)
  | startingThread (fd : Fd)
  | raising (fd : Fd)
  | lowering (cameraID : String)
  | joining (cameraID : String)
  | locating (cameraID : String)
  | streamingOff (fd : Fd)
  | erasing (fd : Fd)
  | closing
deriving DecidableEq, Repr

structure Snapshot where
  on : Finset Fd
  epoll : Option (List Watched)
  running : Bool
  streamNumber : UInt32
deriving DecidableEq

structure Returned where
  ok : Bool
  before : Snapshot
  after : Snapshot
deriving DecidableEq

structure StreamDev where
  fdMatch : String → Option Fd
  myBuffers : Bool
  myStreams : Bool := false
  on : Finset Fd := ∅
  streamNumber : UInt32 := 0
  streamThread : Option LoopAt := none
  epoll : Option (List Watched) := none
  epollEvent : List Fd := []
  eventFd : Bool := false
  call : CallAt := .idle
  before : Snapshot := { on := ∅, epoll := none, running := false, streamNumber := 0 }
  returned : List Returned := []

-- What the calls of one step give: the V4L2 ioctl, epoll_create or the allocation of the thread,
-- and the ones whose result is not looked at.
structure Outcome where
  success : Bool := true
  addCamera : Bool := true
  eventfd : Bool := true
  addEvent : Bool := true
deriving DecidableEq, Repr

inductive StreamAct where
  | startStream (cameraID : String)
  | stopStream (cameraID : String)
  | advance (outcome : Outcome)
  | check
  | wake (frame : Bool)
deriving DecidableEq, Repr

namespace StreamDev

-- Nothing without a reader thread, else whether it is still in loopBuffers.
def loop (dev : StreamDev) : Option Bool := dev.streamThread.map (· != .exited)

def running (dev : StreamDev) : Bool := dev.loop == some true

def snapshot (dev : StreamDev) : Snapshot :=
  { on := dev.on
    epoll := dev.epoll
    running := dev.running
    streamNumber := dev.streamNumber }

def getCurrentFd (dev : StreamDev) (cameraID : String) : Option Fd := dev.fdMatch cameraID

def returns (dev : StreamDev) (ok : Bool) : StreamDev :=
  { dev with
    call := .idle
    returned := dev.returned ++ [{ ok := ok, before := dev.before, after := dev.snapshot }] }

def startStream (dev : StreamDev) (cameraID : String) : StreamDev :=
  let dev := { dev with before := dev.snapshot }
  match dev.getCurrentFd cameraID with
  | none => dev.returns false
  | some fd => { dev with myStreams := true, call := .streamingOn fd }

def v4l2StreamOn (dev : StreamDev) (fd : Fd) (success : Bool) : StreamDev :=
  if !success then dev.returns false
  else { dev with on := insert fd dev.on, call := .creatingEpoll fd }

def epollCtlAdd (list : List Watched) (watched : Watched) (added : Bool) : List Watched :=
  if added then list ++ [watched] else list

def createEpoll (dev : StreamDev) (fd : Fd) (outcome : Outcome) : StreamDev :=
  if dev.streamNumber = 0 then
    if !outcome.success then { dev with epoll := none }.returns false
    else
      { dev with
        epoll := some (epollCtlAdd (epollCtlAdd [] (.camera fd) outcome.addCamera) .event
          (outcome.eventfd && outcome.addEvent))
        epollEvent := dev.epollEvent ++ [fd]
        eventFd := outcome.eventfd
        call := .startingThread fd }
  else
    { dev with
      epoll := dev.epoll.map (epollCtlAdd · (.camera fd) outcome.addCamera)
      epollEvent := dev.epollEvent ++ [fd]
      call := .startingThread fd }

def startThread (dev : StreamDev) (fd : Fd) (success : Bool) : StreamDev :=
  if dev.streamNumber = 0 then
    if !success then { dev with streamThread := none }.returns false
    else { dev with streamThread := some .head, call := .raising fd }
  else { dev with call := .raising fd }

def raise (dev : StreamDev) : StreamDev :=
  { dev with streamNumber := dev.streamNumber + 1 }.returns true

def stopStream (dev : StreamDev) (cameraID : String) : StreamDev :=
  let dev := { dev with before := dev.snapshot }
  if !dev.myStreams then dev.returns false
  else if dev.streamThread.isNone then dev.returns false
  else { dev with call := .lowering cameraID }

def lower (dev : StreamDev) (cameraID : String) : StreamDev :=
  let dev := { dev with streamNumber := dev.streamNumber - 1 }
  { dev with
    call := if dev.streamNumber = 0 then .joining cameraID else .locating cameraID }

def join (dev : StreamDev) (cameraID : String) : StreamDev :=
  if dev.running then dev
  else
    { dev with
      epoll := dev.epoll.map (·.erase .event)
      eventFd := false
      call := .locating cameraID }

def locate (dev : StreamDev) (cameraID : String) : StreamDev :=
  match dev.getCurrentFd cameraID with
  | none => dev.returns false
  | some fd => { dev with call := .streamingOff fd }

def v4l2StreamOff (dev : StreamDev) (fd : Fd) (success : Bool) : StreamDev :=
  if !success then dev.returns false
  else { dev with on := dev.on.erase fd, call := .erasing fd }

def eraseEpoll (dev : StreamDev) (fd : Fd) : StreamDev :=
  let dev :=
    if fd ∈ dev.epollEvent then
      { dev with
        epoll := dev.epoll.map (·.erase (.camera fd))
        epollEvent := dev.epollEvent.erase fd }
    else dev
  if dev.streamNumber = 0 then { dev with call := .closing } else dev.returns true

def close (dev : StreamDev) : StreamDev :=
  { dev with epoll := none, streamThread := none }.returns true

def advance (dev : StreamDev) (outcome : Outcome) : StreamDev :=
  match dev.call with
  | .idle => dev
  | .streamingOn fd => dev.v4l2StreamOn fd outcome.success
  | .creatingEpoll fd => dev.createEpoll fd outcome
  | .startingThread fd => dev.startThread fd outcome.success
  | .raising _ => dev.raise
  | .lowering cameraID => dev.lower cameraID
  | .joining cameraID => dev.join cameraID
  | .locating cameraID => dev.locate cameraID
  | .streamingOff fd => dev.v4l2StreamOff fd outcome.success
  | .erasing fd => dev.eraseEpoll fd
  | .closing => dev.close

def check (dev : StreamDev) : StreamDev :=
  if dev.streamThread = some .head then
    { dev with streamThread := some (if 0 < dev.streamNumber then .waiting else .exited) }
  else dev

-- epoll_wait returns, with a frame of a camera among its events or without one.
def wake (dev : StreamDev) (frame : Bool) : StreamDev :=
  if dev.streamThread = some .waiting then
    { dev with streamThread := some (if frame && !dev.myBuffers then .exited else .head) }
  else dev

def step (dev : StreamDev) : StreamAct → StreamDev
  | .startStream cameraID => if dev.call = .idle then dev.startStream cameraID else dev
  | .stopStream cameraID => if dev.call = .idle then dev.stopStream cameraID else dev
  | .advance outcome => dev.advance outcome
  | .check => dev.check
  | .wake frame => dev.wake frame

end StreamDev

-- A FrameSpec as it was queued, numbered in the order of the successful VIDIOC_QBUFs.
structure Queued (F : Type) where
  serial : Nat
  frameSpec : F
deriving DecidableEq, Repr

structure Inserting (F : Type) where
  fd : Fd
  index : UInt32
  queued : Queued F

-- A V4L2DequeueBuffer between its VIDIOC_DQBUF and bufferLock_; `serial` is what was queued for it.
structure Dequeued where
  fd : Fd
  index : UInt32
  serial : Nat
deriving DecidableEq, Repr

-- A call of dequeueBuffer_: `dqbuf` is what the VIDIOC_DQBUF behind it was queued as, if there was
-- one, and `held` what the driver held under the index at that moment.
structure HandedUp (F : Type) where
  queued : Queued F
  invalid : Bool
  dqbuf : Option Nat
  held : Option Nat
deriving DecidableEq, Repr

abbrev FrameMap (F : Type) := StdMap UInt32 (Queued F)

-- `inserting` is set while V4L2QueueBuffer is in its locked section behind VIDIOC_QBUF. `held` are
-- the indices the driver holds, `lastQueued` what was last queued under an index.
structure Buffers (F : Type) where
  dequeueBuffer : Bool
  queueBuffers : StdMap Fd (FrameMap F) := {}
  inserting : Option (Inserting F) := none
  dequeued : List Dequeued := []
  held : Fd → UInt32 → Option Nat := fun _ _ => none
  lastQueued : Fd → UInt32 → Option Nat := fun _ _ => none
  serial : Nat := 0
  handed : List (HandedUp F) := []

inductive BufferAct (F : Type) where
  | queue (fd : Fd) (index : UInt32) (frameSpec : F) (success : Bool)
  | insert
  | dequeue (fd : Fd) (index : UInt32)
  | handUp (place : Nat)
  | flush (fd : Fd)
  | release (fd : Fd) (success : Bool)
  | streamOff (fd : Fd)

variable {F : Type}

namespace Buffers

def set {V : Type} (table : Fd → UInt32 → V) (fd : Fd) (index : UInt32) (value : V) :
    Fd → UInt32 → V :=
  Function.update table fd (Function.update (table fd) index value)

-- V4L2QueueBuffer up to VIDIOC_QBUF, which fails for an index the driver holds.
def v4l2QueueBuffer (buffers : Buffers F) (fd : Fd) (index : UInt32) (frameSpec : F)
    (success : Bool) : Buffers F :=
  if success && (buffers.held fd index).isNone then
    { buffers with
      inserting := some
        { fd := fd
          index := index
          queued := { serial := buffers.serial, frameSpec := frameSpec } }
      held := set buffers.held fd index (some buffers.serial)
      lastQueued := set buffers.lastQueued fd index (some buffers.serial)
      serial := buffers.serial + 1 }
  else buffers

def insertFrame (buffers : Buffers F) : Buffers F :=
  match buffers.inserting with
  | none => buffers
  | some frame =>
    let frameMap := (buffers.queueBuffers.find? frame.fd).getD {}
    { buffers with
      inserting := none
      queueBuffers := buffers.queueBuffers.assign frame.fd
        (frameMap.assign frame.index frame.queued) }

def v4l2DequeueBuffer (buffers : Buffers F) (fd : Fd) (index : UInt32) : Buffers F :=
  match buffers.held fd index with
  | none => buffers
  | some serial =>
    { buffers with
      held := set buffers.held fd index none
      dequeued := buffers.dequeued ++ [{ fd := fd, index := index, serial := serial }] }

def handUp (buffers : Buffers F) (place : Nat) : Buffers F :=
  match buffers.dequeued[place]? with
  | none => buffers
  | some buf =>
    let buffers := { buffers with dequeued := buffers.dequeued.eraseIdx place }
    match buffers.queueBuffers.find? buf.fd with
    | none => buffers
    | some bufferMap =>
      match bufferMap.find? buf.index with
      | none => buffers
      | some queued =>
        { buffers with
          queueBuffers := buffers.queueBuffers.assign buf.fd (bufferMap.erase buf.index)
          handed := buffers.handed ++
            if buffers.dequeueBuffer then
              [{ queued := queued
                 invalid := false
                 dqbuf := some buf.serial
                 held := buffers.held buf.fd buf.index }]
            else [] }

def flush (buffers : Buffers F) (fd : Fd) : Buffers F :=
  if !buffers.dequeueBuffer then buffers
  else
    match buffers.queueBuffers.find? fd with
    | none => buffers
    | some bufferMap =>
      { buffers with
        queueBuffers := buffers.queueBuffers.assign fd {}
        handed := buffers.handed ++ bufferMap.entries.map fun entry =>
          { queued := entry.2
            invalid := true
            dqbuf := none
            held := buffers.held fd entry.1 } }

def streamOff (buffers : Buffers F) (fd : Fd) : Buffers F :=
  { buffers with held := Function.update buffers.held fd fun _ => none }

-- A successful VIDIOC_REQBUFS of no buffers takes the queued ones from the driver.
def v4l2ReleaseBuffers (buffers : Buffers F) (fd : Fd) (success : Bool) : Buffers F :=
  let buffers := { buffers with queueBuffers := buffers.queueBuffers.erase fd }
  if success then buffers.streamOff fd else buffers

def locked (buffers : Buffers F) (section_ : Buffers F) : Buffers F :=
  if buffers.inserting.isSome then buffers else section_

def step (buffers : Buffers F) : BufferAct F → Buffers F
  | .queue fd index frameSpec success =>
    buffers.locked (buffers.v4l2QueueBuffer fd index frameSpec success)
  | .insert => buffers.insertFrame
  | .dequeue fd index => buffers.v4l2DequeueBuffer fd index
  | .handUp place => buffers.locked (buffers.handUp place)
  | .flush fd => buffers.locked (buffers.flush fd)
  | .release fd success => buffers.locked (buffers.v4l2ReleaseBuffers fd success)
  | .streamOff fd => buffers.streamOff fd

structure HandsUp (buffers : Buffers F) : Prop where
  once : (buffers.handed.map (·.queued.serial)).Nodup
  notHeld : ∀ up ∈ buffers.handed, up.held ≠ some up.queued.serial
  own : ∀ up ∈ buffers.handed, ∀ serial ∈ up.dqbuf, up.queued.serial = serial

def QueuedAgain (buffers : Buffers F) : BufferAct F → Prop
  | .queue fd index _ _ =>
    ∀ serial ∈ buffers.lastQueued fd index, serial ∈ buffers.handed.map (·.queued.serial)
  | _ => True

-- VIDIOC_QBUF succeeds under no index that a V4L2DequeueBuffer got back and has not looked up yet,
-- and Flush finds no frame whose index the driver holds.
def BufferFits (buffers : Buffers F) : BufferAct F → Prop
  | .queue fd index _ success =>
    buffers.inserting.isNone = true → success = true → buffers.held fd index = none →
      ∀ buf ∈ buffers.dequeued, ¬ (buf.fd = fd ∧ buf.index = index)
  | .flush fd =>
    buffers.inserting.isNone = true → buffers.dequeueBuffer = true →
      ∀ bufferMap ∈ buffers.queueBuffers.find? fd, ∀ entry ∈ bufferMap.entries,
        buffers.held fd entry.1 = none
  | _ => True

instance (buffers : Buffers F) (act : BufferAct F) : Decidable (buffers.QueuedAgain act) := by
  unfold QueuedAgain
  cases act <;> infer_instance

instance (buffers : Buffers F) (act : BufferAct F) : Decidable (buffers.BufferFits act) := by
  unfold BufferFits
  cases act <;> infer_instance

end Buffers

end UnionpiTiger.Camera
