import Dmsfwk.ChannelManager
import Dmsfwk.NumberedList
import Mathlib.Data.List.Sort

/-!
# The filters of a stream

The sender numbers every buffer, pixel map and surface parameter under its lock
and queues it when it is running; its thread hands the queue on to the channel.
The receiver keeps the arrived frames in a queue by their numbers and returns
them while the numbers are consecutive.
-/

namespace Dmsfwk

/-! ## Frames -/

inductive AvCodecBufferFlag where
  | none
  | eos
  | syncFrame
  | partialFrame
  | codecData
  | pixelMap
  | surfaceParam
  deriving DecidableEq, Repr

inductive SurfaceRotate where
  | none
  | rotate90
  | rotate180
  | rotate270
  deriving DecidableEq, Repr

inductive SurfaceFilp where
  | none
  | flipH
  | flipV
  deriving DecidableEq, Repr

structure SurfaceParam where
  rotate : SurfaceRotate := .none
  filp : SurfaceFilp := .none
  deriving DecidableEq, Repr

structure PixelMapPackOption where
  quality : UInt8 := 100
  width : UInt32 := 0
  height : UInt32 := 0
  deriving DecidableEq, Repr

structure AVTransStreamDataExt where
  flag : AvCodecBufferFlag := .codecData
  index : UInt32 := 0
  pts : UInt64 := 0
  startEncodeT : UInt64 := 0
  finishEncodeT : UInt64 := 0
  sendEncodeT : UInt64 := 0
  pixelMapOption : PixelMapPackOption := {}
  surfaceParam : SurfaceParam := {}
  deriving DecidableEq, Repr

structure AVTransStreamData where
  data : List UInt8
  ext : AVTransStreamDataExt
  deriving DecidableEq, Repr

def AVTransStreamData.number (frame : AVTransStreamData) : ℕ :=
  frame.ext.index.toNat

/-! ## The sender -/

inductive StreamErr where
  | nullPointerError
  | invalidChannelType
  | getSerializedDataFailed
  /-- What a library function has returned. -/
  | other (code : Int32)
  deriving DecidableEq, Repr

/-- `processingThread_`, which is joinable until it was joined. -/
inductive ProcessingThread where
  | notJoinable
  | running
  | exited
  deriving DecidableEq, Repr

/-- The last two fields are not kept by the source: the frames which got a
number, and those which the channel was called with. -/
structure AVSenderFilter where
  channelType : ChannelDataType := .bytes
  lastIndex : Int32 := 0
  sendDatas : List AVTransStreamData := []
  isRunning : Bool := false
  processingThread : ProcessingThread := .notJoinable
  submitted : List AVTransStreamData := []
  sent : List AVTransStreamData := []

structure AVBuffer where
  pts : Int64
  memory : List UInt8

structure PixelMap where
  width : Int32
  height : Int32

def pixelMapQuality : UInt8 := 50

def packStreamDataForAVBuffer (buffer : AVBuffer) (now : UInt64)
    (index : UInt32) : AVTransStreamData where
  data := buffer.memory
  ext := {
    flag := .codecData
    index := index
    pts := buffer.pts.toUInt64
    startEncodeT := now
    finishEncodeT := now
    sendEncodeT := now }

def packStreamDataForPixelMap (pixelMap : PixelMap) (buffer : List UInt8)
    (index : UInt32) : AVTransStreamData where
  data := buffer
  ext := {
    flag := .pixelMap
    index := index
    pixelMapOption := {
      quality := pixelMapQuality
      width := pixelMap.width.toUInt32
      height := pixelMap.height.toUInt32 } }

def packStreamDataForSurfaceParam (param : SurfaceParam) (index : UInt32) :
    AVTransStreamData where
  data := [0]
  ext := { flag := .surfaceParam, index := index, surfaceParam := param }

namespace AVSenderFilter

/-- The section under `queueMutex_`, which the three functions share.  The frame
gets its number whether it is queued or not. -/
def pushStreamData (pack : UInt32 → AVTransStreamData)
    (sender : AVSenderFilter) : AVSenderFilter :=
  let frame := pack sender.lastIndex.toUInt32
  { sender with
      lastIndex := sender.lastIndex + 1
      submitted := sender.submitted ++ [frame]
      sendDatas :=
        if sender.isRunning then sender.sendDatas ++ [frame]
        else sender.sendDatas }

def onBufferAvailable (buffer : AVBuffer) (copied : Bool) (now : UInt64)
    (sender : AVSenderFilter) : AVSenderFilter :=
  if !copied then sender
  else pushStreamData (packStreamDataForAVBuffer buffer now) sender

def sendPixelMap (pixelMap : Option PixelMap)
    (packPixelMap : Except Int32 (List UInt8)) (sender : AVSenderFilter) :
    Except StreamErr Unit × AVSenderFilter :=
  match pixelMap with
  | none => (.error .nullPointerError, sender)
  | some pixelMap =>
      match packPixelMap with
      | .error code => (.error (.other code), sender)
      | .ok buffer =>
          (.ok (),
            pushStreamData (packStreamDataForPixelMap pixelMap buffer) sender)

def setSurfaceParam (param : SurfaceParam) (sender : AVSenderFilter) :
    Except StreamErr Unit × AVSenderFilter :=
  (.ok (), pushStreamData (packStreamDataForSurfaceParam param) sender)

def doStart (sender : AVSenderFilter) : Option AVSenderFilter :=
  if sender.processingThread = .notJoinable then
    some { sender with isRunning := true, processingThread := .running }
  else none

/-- `DoStop` until it joins the thread. -/
def doStop (sender : AVSenderFilter) : AVSenderFilter :=
  { sender with isRunning := false }

def join (sender : AVSenderFilter) : AVSenderFilter :=
  if sender.processingThread = .exited then
    { sender with processingThread := .notJoinable }
  else sender

def handOver (streamData : AVTransStreamData) (sender : AVSenderFilter) :
    AVSenderFilter :=
  { sender with sent := sender.sent ++ [streamData] }

/-- `serializeError` is what writing the header or the buffer fails with. -/
def sendStreamDataByBytes (serializeError : Option StreamErr)
    (streamData : AVTransStreamData) (sender : AVSenderFilter) :
    Except StreamErr Unit × AVSenderFilter :=
  match serializeError with
  | some err => (.error err, sender)
  | none => (.ok (), handOver streamData sender)

def sendStreamDataByStream (streamData : AVTransStreamData)
    (sender : AVSenderFilter) : Except StreamErr Unit × AVSenderFilter :=
  (.ok (), handOver streamData sender)

def sendStreamData (serializeError : Option StreamErr)
    (streamData : AVTransStreamData) (sender : AVSenderFilter) :
    Except StreamErr Unit × AVSenderFilter :=
  match sender.channelType with
  | .bytes => sendStreamDataByBytes serializeError streamData sender
  | .videoStream => sendStreamDataByStream streamData sender
  | .message | .file => (.error .invalidChannelType, sender)

/-- One round of `Process`, under the lock.  An empty queue lets the thread
wait, and the result of `SendStreamData` is not looked at. -/
def process (serializeError : Option StreamErr) (sender : AVSenderFilter) :
    AVSenderFilter :=
  if sender.processingThread ≠ .running then sender
  else if !sender.isRunning then { sender with processingThread := .exited }
  else match sender.sendDatas with
    | [] => sender
    | data :: sendDatas =>
        { (sendStreamData serializeError data sender).2 with
            sendDatas := sendDatas }

end AVSenderFilter

/-! ## The receiver -/

/-- `dataQueue` has the frames in the order in which `top` gives them. -/
structure AVReceiverFilter where
  lastIndex : ℤ := -1
  dataQueue : List AVTransStreamData := []
  isRunning : Bool := false

namespace AVReceiverFilter

def compareAVTransStreamData (first second : AVTransStreamData) : Prop :=
  first.number ≤ second.number

instance : DecidableRel compareAVTransStreamData := fun first second =>
  inferInstanceAs (Decidable (first.number ≤ second.number))

def addStreamData (data : AVTransStreamData) (receiver : AVReceiverFilter) :
    AVReceiverFilter :=
  { receiver with
      dataQueue :=
        receiver.dataQueue.orderedInsert compareAVTransStreamData data }

def onStream (stream : AVTransStreamData) (receiver : AVReceiverFilter) :
    AVReceiverFilter :=
  if receiver.isRunning then addStreamData stream receiver else receiver

/-- The loop of `GetStreamData` over the frames with old numbers; it ends with
the top of the queue, and with nothing when it has emptied the queue and reads
its top. -/
def discardOld (lastIndex : ℤ) :
    List AVTransStreamData → Option (AVTransStreamData × List AVTransStreamData)
  | [] => none
  | topData :: dataQueue =>
      if lastIndex ≥ topData.number then discardOld lastIndex dataQueue
      else some (topData, dataQueue)

def getStreamData (receiver : AVReceiverFilter) :
    Option (Option AVTransStreamData × AVReceiverFilter) :=
  if receiver.dataQueue = [] then some (none, receiver)
  else match discardOld receiver.lastIndex receiver.dataQueue with
    | none => none
    | some (topData, dataQueue) =>
        if receiver.lastIndex + 1 = topData.number then
          some (some topData, { receiver with
            lastIndex := topData.number
            dataQueue := dataQueue })
        else
          some (none, { receiver with dataQueue := topData :: dataQueue })

end AVReceiverFilter

/-! ## Numbers of the sender -/

namespace AVSenderFilter

/-- The numbers count the submitted frames, and the channel gets them in the
order of their submission. -/
structure Counts (sender : AVSenderFilter) : Prop where
  lastIndex :
    sender.lastIndex.toUInt32 = UInt32.ofNat sender.submitted.length
  index : ∀ position frame, sender.submitted[position]? = some frame →
    frame.ext.index = UInt32.ofNat position
  order : (sender.sent ++ sender.sendDatas).Sublist sender.submitted

variable {sender : AVSenderFilter}

theorem Counts.initial (channelType : ChannelDataType) :
    Counts { channelType := channelType } where
  lastIndex := rfl
  index := by simp
  order := List.Sublist.slnil

inductive Moves (sender : AVSenderFilter) : AVSenderFilter → Prop where
  | keep {isRunning : Bool} {processingThread : ProcessingThread} :
      Moves sender { sender with
        isRunning := isRunning, processingThread := processingThread }
  | push {pack : UInt32 → AVTransStreamData}
      (hpack : ∀ index, (pack index).ext.index = index) :
      Moves sender (sender.pushStreamData pack)
  | lose {data : AVTransStreamData} {sendDatas : List AVTransStreamData}
      (hqueue : sender.sendDatas = data :: sendDatas) :
      Moves sender { sender with sendDatas := sendDatas }
  | hand {data : AVTransStreamData} {sendDatas : List AVTransStreamData}
      (hqueue : sender.sendDatas = data :: sendDatas) :
      Moves sender { sender.handOver data with sendDatas := sendDatas }

theorem moves_onBufferAvailable (buffer : AVBuffer) (copied : Bool)
    (now : UInt64) : sender.Moves (sender.onBufferAvailable buffer copied now) := by
  unfold onBufferAvailable
  split_ifs
  · exact .keep
  · exact .push fun _ => rfl

theorem moves_sendPixelMap (pixelMap : Option PixelMap)
    (packPixelMap : Except Int32 (List UInt8)) :
    sender.Moves (sender.sendPixelMap pixelMap packPixelMap).2 := by
  unfold sendPixelMap
  split
  · exact .keep
  · split
    · exact .keep
    · exact .push fun _ => rfl

theorem moves_setSurfaceParam (param : SurfaceParam) :
    sender.Moves (sender.setSurfaceParam param).2 :=
  .push fun _ => rfl

theorem moves_of_doStart {started : AVSenderFilter}
    (hstart : sender.doStart = some started) : sender.Moves started := by
  unfold doStart at hstart
  split_ifs at hstart
  obtain rfl := Option.some.inj hstart
  exact .keep

theorem moves_doStop : sender.Moves sender.doStop := .keep

theorem moves_join : sender.Moves sender.join := by
  unfold join
  split_ifs <;> exact .keep

theorem sendStreamData_eq (serializeError : Option StreamErr)
    (streamData : AVTransStreamData) (sender : AVSenderFilter) :
    (sendStreamData serializeError streamData sender).2 = sender ∨
      (sendStreamData serializeError streamData sender).2 =
        handOver streamData sender := by
  unfold sendStreamData sendStreamDataByBytes sendStreamDataByStream
  cases sender.channelType <;> cases serializeError <;> simp

theorem moves_process (serializeError : Option StreamErr) :
    sender.Moves (sender.process serializeError) := by
  unfold process
  split_ifs
  · exact .keep
  · exact .keep
  · split
    · exact .keep
    · next data sendDatas hqueue =>
        rcases sendStreamData_eq serializeError data sender with hsend | hsend
        · rw [hsend]
          exact .lose hqueue
        · rw [hsend]
          exact .hand hqueue

theorem Counts.pushStreamData (hcounts : sender.Counts)
    {pack : UInt32 → AVTransStreamData}
    (hpack : ∀ index, (pack index).ext.index = index) :
    (sender.pushStreamData pack).Counts where
  lastIndex := by
    have hlast := hcounts.lastIndex
    simp only [AVSenderFilter.pushStreamData, Int32.toUInt32_add, hlast,
      List.length_append, List.length_singleton, UInt32.ofNat_add]
    rfl
  index := by
    intro position frame hget
    simp only [AVSenderFilter.pushStreamData] at hget
    rcases lt_or_ge position sender.submitted.length with hlt | hge
    · rw [List.getElem?_append_left hlt] at hget
      exact hcounts.index position frame hget
    · rw [List.getElem?_append_right hge, List.getElem?_singleton] at hget
      split_ifs at hget with hzero
      have hposition : position = sender.submitted.length := by omega
      rw [← Option.some.inj hget, hpack, hcounts.lastIndex, hposition]
  order := by
    simp only [AVSenderFilter.pushStreamData]
    split_ifs
    · rw [← List.append_assoc]
      exact hcounts.order.append (List.Sublist.refl _)
    · exact hcounts.order.trans (List.sublist_append_left _ _)

variable {moved : AVSenderFilter}

theorem Counts.moves (hcounts : sender.Counts) (hmoves : sender.Moves moved) : moved.Counts := by
  have horder := hcounts.order
  cases hmoves with
  | keep => exact ⟨hcounts.lastIndex, hcounts.index, horder⟩
  | push hpack => exact hcounts.pushStreamData hpack
  | lose hqueue =>
      refine ⟨hcounts.lastIndex, hcounts.index, ?_⟩
      rw [hqueue] at horder
      exact ((List.Sublist.refl _).append
        (List.sublist_cons_self _ _)).trans horder
  | hand hqueue =>
      refine ⟨hcounts.lastIndex, hcounts.index, ?_⟩
      rw [hqueue] at horder
      simpa [handOver] using horder

theorem Moves.submitted_prefix (hmoves : sender.Moves moved) : sender.submitted <+: moved.submitted := by
  cases hmoves with
  | push _ => exact List.prefix_append _ _
  | _ => exact List.prefix_rfl

theorem Moves.sent_prefix (hmoves : sender.Moves moved) : sender.sent <+: moved.sent := by
  cases hmoves with
  | hand _ => exact List.prefix_append _ _
  | _ => exact List.prefix_rfl

theorem Counts.numbered (hcounts : sender.Counts)
    (hlength : sender.submitted.length ≤ 2 ^ 32) :
    Numbered AVTransStreamData.number sender.submitted := by
  unfold Numbered
  refine List.ext_getElem (by simp) fun position hleft hright => ?_
  have hlt : position < sender.submitted.length := by simpa using hleft
  rw [List.getElem_map, List.getElem_range]
  have hindex := hcounts.index position _ (List.getElem?_eq_getElem hlt)
  rw [AVTransStreamData.number, hindex, UInt32.toNat_ofNat']
  exact Nat.mod_eq_of_lt (by omega)

end AVSenderFilter

/-! ## The queue of the receiver -/

namespace AVReceiverFilter

def Sorted (dataQueue : List AVTransStreamData) : Prop :=
  dataQueue.Pairwise compareAVTransStreamData

theorem Sorted.orderedInsert {dataQueue : List AVTransStreamData}
    (hsorted : Sorted dataQueue) (data : AVTransStreamData) :
    Sorted (dataQueue.orderedInsert compareAVTransStreamData data) := by
  have htotal : Std.Total compareAVTransStreamData :=
    ⟨fun first second => Nat.le_total first.number second.number⟩
  have htrans : IsTrans AVTransStreamData compareAVTransStreamData :=
    ⟨fun _ _ _ => Nat.le_trans⟩
  exact List.Pairwise.orderedInsert data dataQueue hsorted

theorem discardOld_eq_none_iff {lastIndex : ℤ}
    {dataQueue : List AVTransStreamData} :
    discardOld lastIndex dataQueue = none ↔
      ∀ data ∈ dataQueue, (data.number : ℤ) ≤ lastIndex := by
  induction dataQueue with
  | nil => simp [discardOld]
  | cons topData dataQueue ih =>
      unfold discardOld
      split_ifs with hold
      · rw [ih]
        simp [hold]
      · simp [hold]

theorem discardOld_eq_some {lastIndex : ℤ}
    {dataQueue rest : List AVTransStreamData} {topData : AVTransStreamData}
    (hdiscard : discardOld lastIndex dataQueue = some (topData, rest)) :
    lastIndex < topData.number ∧ ∃ old, dataQueue = old ++ topData :: rest ∧
      ∀ data ∈ old, (data.number : ℤ) ≤ lastIndex := by
  induction dataQueue with
  | nil => cases hdiscard
  | cons head dataQueue ih =>
      unfold discardOld at hdiscard
      split_ifs at hdiscard with hold
      · obtain ⟨hnew, old, rfl, hall⟩ := ih hdiscard
        exact ⟨hnew, head :: old, rfl,
          List.forall_mem_cons.mpr ⟨hold, hall⟩⟩
      · obtain ⟨rfl, rfl⟩ := Prod.mk.inj (Option.some.inj hdiscard)
        exact ⟨lt_of_not_ge hold, [], rfl, by simp⟩

/-- A call takes the frames with old numbers from the queue, and the one with the
next number when it is on top then. -/
theorem getStreamData_eq_some {receiver called : AVReceiverFilter}
    {data : Option AVTransStreamData}
    (hget : receiver.getStreamData = some (data, called)) :
    ∃ old, receiver.dataQueue = old ++ (data.toList ++ called.dataQueue) ∧
      (∀ frame ∈ old, (frame.number : ℤ) ≤ receiver.lastIndex) ∧
      (∀ frame ∈ data, receiver.lastIndex + 1 = frame.number) ∧
      called.lastIndex = receiver.lastIndex + data.toList.length ∧
      called.isRunning = receiver.isRunning := by
  unfold getStreamData at hget
  split_ifs at hget
  · obtain ⟨rfl, rfl⟩ := Prod.mk.inj (Option.some.inj hget)
    exact ⟨[], rfl, by simp, by simp, by simp, rfl⟩
  · split at hget
    · cases hget
    · next topData dataQueue hdiscard =>
        obtain ⟨-, old, hqueue, hold⟩ := discardOld_eq_some hdiscard
        split_ifs at hget with hnumber
        · obtain ⟨rfl, rfl⟩ := Prod.mk.inj (Option.some.inj hget)
          refine ⟨old, hqueue, hold, ?_, hnumber.symm, rfl⟩
          rintro frame ⟨⟩
          exact hnumber
        · obtain ⟨rfl, rfl⟩ := Prod.mk.inj (Option.some.inj hget)
          exact ⟨old, hqueue, hold, by simp, by simp, rfl⟩

end AVReceiverFilter

end Dmsfwk
