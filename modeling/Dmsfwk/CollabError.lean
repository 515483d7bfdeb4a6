import Mathlib.Tactic

/-!
# Return codes of the collaboration library

The functions of `dtbcollabmgr` return `int32_t` codes which are zero on
success and otherwise members of one enumeration that starts at
`DMS_SERVICE_ERR_OFFSET`.  Only the members which a modelled function returns
are listed.
-/

namespace Dmsfwk

inductive CollabErr where
  | errOk
  | invalidParametersErr
  | nullPointerError
  | createSocketFailed
  | bindSocketFailed
  | noSuchChannel
  | channelNumExceedLimit
  | createServerChannelFailed
  | createClientChannelFailed
  | invalidChannelId
  | invalidChannelName
  | invalidSocketId
  | getSessionOptionFailed
  | writeSessionHeaderFailed
  | writeSendDataBufferFailed
  | sendDataBySoftbusFailed
  | invalidSessionHeaderFlagType
  | invalidSessionHeaderTotalLen
  | invalidSessionHeaderSeqNum
  | invalidSessionHeaderSubSeq
  | writePayloadToBufferFailed
  | flagTypeNotMatchBufferState
  | parseAvTransStreamExtFailed
  | onlySupportOneStream
  | registerFileSchemaFailed
  | failedToCreateMessageChannel
  | failedToCreateDataChannel
  | failedToCreateStreamChannel
  | failedToCreateSendFileChannel
  | failedToCreateReceiveFileChannel
  | sameSessionIsConnecting
  | invalidSessionId
  deriving DecidableEq, Repr

/-- `ErrCodeOffset(SUBSYS_DISTRIBUTEDSCHEDULE, DMS_COLLAB_MODULE_TYPE_SERVICE)`. -/
def dmsServiceErrOffset : ℤ := 29425664

def CollabErr.code : CollabErr → ℤ
  | .errOk => 0
  | .invalidParametersErr => dmsServiceErrOffset
  | .nullPointerError => dmsServiceErrOffset + 1
  | .createSocketFailed => dmsServiceErrOffset + 2
  | .bindSocketFailed => dmsServiceErrOffset + 4
  | .noSuchChannel => dmsServiceErrOffset + 9
  | .channelNumExceedLimit => dmsServiceErrOffset + 10
  | .createServerChannelFailed => dmsServiceErrOffset + 11
  | .createClientChannelFailed => dmsServiceErrOffset + 12
  | .invalidChannelId => dmsServiceErrOffset + 13
  | .invalidChannelName => dmsServiceErrOffset + 15
  | .invalidSocketId => dmsServiceErrOffset + 17
  | .getSessionOptionFailed => dmsServiceErrOffset + 25
  | .writeSessionHeaderFailed => dmsServiceErrOffset + 26
  | .writeSendDataBufferFailed => dmsServiceErrOffset + 27
  | .sendDataBySoftbusFailed => dmsServiceErrOffset + 28
  | .invalidSessionHeaderFlagType => dmsServiceErrOffset + 31
  | .invalidSessionHeaderTotalLen => dmsServiceErrOffset + 32
  | .invalidSessionHeaderSeqNum => dmsServiceErrOffset + 33
  | .invalidSessionHeaderSubSeq => dmsServiceErrOffset + 34
  | .writePayloadToBufferFailed => dmsServiceErrOffset + 35
  | .flagTypeNotMatchBufferState => dmsServiceErrOffset + 36
  | .parseAvTransStreamExtFailed => dmsServiceErrOffset + 37
  | .onlySupportOneStream => dmsServiceErrOffset + 44
  | .registerFileSchemaFailed => dmsServiceErrOffset + 52
  | .failedToCreateMessageChannel => dmsServiceErrOffset + 55
  | .failedToCreateDataChannel => dmsServiceErrOffset + 56
  | .failedToCreateStreamChannel => dmsServiceErrOffset + 57
  | .failedToCreateSendFileChannel => dmsServiceErrOffset + 58
  | .failedToCreateReceiveFileChannel => dmsServiceErrOffset + 59
  | .sameSessionIsConnecting => dmsServiceErrOffset + 62
  | .invalidSessionId => dmsServiceErrOffset + 63

theorem CollabErr.eq_errOk_of_code {err : CollabErr} (hcode : err.code = 0) :
    err = .errOk := by
  cases err <;> first | rfl | exact absurd hcode (by decide)

end Dmsfwk
