import Dmsfwk.ChannelManager

/-!
# Session data of the ability connection library

The records by which an application describes a collaboration session, and the
names which the library derives from them.  The digest function of the crypto
library is a parameter.
-/

namespace Dmsfwk

structure PeerInfo where
  deviceId : Text
  bundleName : Text
  moduleName : Text
  abilityName : Text
  serverId : Text
  deriving DecidableEq, Repr

structure ConnectOption where
  needSendData : Bool
  needSendStream : Bool
  needReceiveStream : Bool
  needSendFile : Bool
  needReceiveFile : Bool
  deriving DecidableEq, Repr

structure AbilityConnectionSessionInfo where
  serverId : Text
  localInfo : PeerInfo
  peerInfo : PeerInfo
  deriving DecidableEq, Repr

inductive CollabrateDirection where
  | unknown
  | collabrateSource
  | collabrateSink
  deriving DecidableEq, Repr

inductive TransChannelType where
  | message
  | data
  | streamBytes
  | stream
  | sendFile
  | receiveFile
  deriving DecidableEq, Repr

def AbilityConnectionSessionInfo.mirrored
    (info : AbilityConnectionSessionInfo) : AbilityConnectionSessionInfo :=
  { info with localInfo := info.peerInfo, peerInfo := info.localInfo }

/-! ## Derived names -/

def hexText (digest : List UInt8) : Text :=
  digest.flatMap fun byte =>
    [Nat.digitChar (byte.toNat / 16), Nat.digitChar (byte.toNat % 16)]

def sha256DigestLength : ℕ := 32
def channelNameLength : ℕ := 48
def serverSocketNameLength : ℕ := 64

def getServerSocketName (sha256 : Text → List UInt8)
    (userId pid bundle : Text) : Text :=
  (hexText (sha256 (userId ++ pid ++ bundle))).take serverSocketNameLength

def channelNameInput (direction : CollabrateDirection)
    (info : AbilityConnectionSessionInfo) : Text :=
  if direction = .collabrateSource then
    info.localInfo.moduleName ++ info.localInfo.abilityName ++
      info.peerInfo.moduleName ++ info.peerInfo.abilityName
  else
    info.peerInfo.moduleName ++ info.peerInfo.abilityName ++
      info.localInfo.moduleName ++ info.localInfo.abilityName

def getChannelName (sha256 : Text → List UInt8)
    (direction : CollabrateDirection) (info : AbilityConnectionSessionInfo) :
    Text :=
  (hexText (sha256 (channelNameInput direction info))).take channelNameLength

/-- `CreateStreamChannel` appends to the channel name. -/
def streamChannelName (channelName : Text) : Text :=
  channelName ++ "stream".toList

/-! ## The channels of a session -/

namespace TransChannelType

def dataType : TransChannelType → ChannelDataType
  | .message => .message
  | .data => .bytes
  | .streamBytes => .bytes
  | .stream => .videoStream
  | .sendFile => .file
  | .receiveFile => .file

def channelName (name : Text) : TransChannelType → Text
  | .streamBytes => streamChannelName name
  | .stream => streamChannelName name
  | _ => name

def failure : TransChannelType → CollabErr
  | .message => .failedToCreateMessageChannel
  | .data => .failedToCreateDataChannel
  | .streamBytes => .failedToCreateStreamChannel
  | .stream => .failedToCreateStreamChannel
  | .sendFile => .failedToCreateSendFileChannel
  | .receiveFile => .failedToCreateReceiveFileChannel

/-- Files are sent over client channels and received over server channels;
the other channels are of the kind of their session. -/
def isClient (isClientChannel : Bool) : TransChannelType → Bool
  | .sendFile => true
  | .receiveFile => false
  | _ => isClientChannel

def peerType : TransChannelType → TransChannelType
  | .sendFile => .receiveFile
  | .receiveFile => .sendFile
  | transType => transType

end TransChannelType

def initChannelTypes (option : ConnectOption) (isClientChannel : Bool) :
    List TransChannelType :=
  [.message] ++ (if option.needSendData then [.data] else []) ++
    (if option.needSendStream || option.needReceiveStream
      then [.streamBytes, .stream] else []) ++
    (if option.needSendFile && isClientChannel then [.sendFile] else []) ++
    (if option.needReceiveFile then [.receiveFile] else [])

/-! ## Properties of the names -/

section Names

variable {sha256 : Text → List UInt8}

theorem length_hexText (digest : List UInt8) :
    (hexText digest).length = 2 * digest.length := by
  induction digest with
  | nil => rfl
  | cons byte digest ih =>
      have hcons : hexText (byte :: digest) =
          Nat.digitChar (byte.toNat / 16) ::
            Nat.digitChar (byte.toNat % 16) :: hexText digest := rfl
      rw [hcons, List.length_cons, List.length_cons, ih, List.length_cons]
      ring

theorem digitChar_ne_splitFlag :
    ∀ digit < 16, Nat.digitChar digit ≠ ChannelManager.splitFlag := by
  decide

theorem splitFlag_not_mem_hexText (digest : List UInt8) :
    ChannelManager.splitFlag ∉ hexText digest := by
  intro hmem
  obtain ⟨byte, -, hdigit⟩ := List.mem_flatMap.mp hmem
  have hbyte : byte.toNat < 256 := byte.toNat_lt
  simp only [List.mem_cons, List.not_mem_nil, or_false] at hdigit
  rcases hdigit with hdigit | hdigit
  · exact digitChar_ne_splitFlag _ (by omega) hdigit.symm
  · exact digitChar_ne_splitFlag _ (by omega) hdigit.symm

variable (hdigest : ∀ text, (sha256 text).length = sha256DigestLength)

include hdigest

theorem length_getChannelName (direction : CollabrateDirection)
    (info : AbilityConnectionSessionInfo) :
    (getChannelName sha256 direction info).length = channelNameLength := by
  rw [getChannelName, List.length_take, length_hexText, hdigest]
  rfl

theorem length_getServerSocketName (userId pid bundle : Text) :
    (getServerSocketName sha256 userId pid bundle).length =
      serverSocketNameLength := by
  rw [getServerSocketName, List.length_take, length_hexText, hdigest]
  rfl

end Names

end Dmsfwk
