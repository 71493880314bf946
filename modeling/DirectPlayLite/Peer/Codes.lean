import DirectPlayLite.Packet.Serialiser

/-!
# Codes of the DirectPlay 8 interface

Results, reasons and flags, with the values of the headers.
-/

namespace DirectPlayLite

abbrev HRESULT := UInt32

abbrev DPNID := UInt32

/-- A `void*` the application attaches to a player, a group or a call. -/
abbrev Context := UInt32

def contextNull : Context := 0

/-!
## Results
-/

def makeDPNHRESULT (code : UInt32) : HRESULT := 0x80150000 ||| (code + 0x8000)

def sOk : HRESULT := 0
def dpnOk : HRESULT := sOk
def eNotImpl : HRESULT := 0x80004001
def dpnSuccessPending : HRESULT := 0x0015800E
def dpnErrGeneric : HRESULT := 0x80004005
def dpnErrInvalidParam : HRESULT := 0x80070057
def dpnErrAlreadyClosing : HRESULT := makeDPNHRESULT 0x050
def dpnErrAlreadyConnected : HRESULT := makeDPNHRESULT 0x060
def dpnErrAlreadyInitialized : HRESULT := makeDPNHRESULT 0x080
def dpnErrCannotCancel : HRESULT := makeDPNHRESULT 0x110
def dpnErrConnecting : HRESULT := makeDPNHRESULT 0x150
def dpnErrConnectionLost : HRESULT := makeDPNHRESULT 0x160
def dpnErrHosting : HRESULT := makeDPNHRESULT 0x250
def dpnErrHostRejectedConnection : HRESULT := makeDPNHRESULT 0x260
def dpnErrHostTerminatedSession : HRESULT := makeDPNHRESULT 0x270
def dpnErrInvalidApplication : HRESULT := makeDPNHRESULT 0x300
def dpnErrInvalidDeviceAddress : HRESULT := makeDPNHRESULT 0x320
def dpnErrInvalidFlags : HRESULT := makeDPNHRESULT 0x340
def dpnErrInvalidGroup : HRESULT := makeDPNHRESULT 0x350
def dpnErrInvalidHandle : HRESULT := makeDPNHRESULT 0x360
def dpnErrInvalidHostAddress : HRESULT := makeDPNHRESULT 0x370
def dpnErrInvalidInstance : HRESULT := makeDPNHRESULT 0x380
def dpnErrInvalidPassword : HRESULT := makeDPNHRESULT 0x410
def dpnErrInvalidPlayer : HRESULT := makeDPNHRESULT 0x420
def dpnErrNoConnection : HRESULT := makeDPNHRESULT 0x480
def dpnErrNotHost : HRESULT := makeDPNHRESULT 0x530
def dpnErrNotReady : HRESULT := makeDPNHRESULT 0x540
def dpnErrPlayerAlreadyInGroup : HRESULT := makeDPNHRESULT 0x560
def dpnErrPlayerNotInGroup : HRESULT := makeDPNHRESULT 0x580
def dpnErrPlayerNotReachable : HRESULT := makeDPNHRESULT 0x590
def dpnErrUninitialized : HRESULT := makeDPNHRESULT 0x640
def dpnErrUserCancel : HRESULT := makeDPNHRESULT 0x650

/-!
## Reasons
-/

def destroyGroupReasonNormal : DWORD := 1
def destroyGroupReasonSessionTerminated : DWORD := 3

def destroyPlayerReasonNormal : DWORD := 1
def destroyPlayerReasonConnectionLost : DWORD := 2
def destroyPlayerReasonSessionTerminated : DWORD := 3
def destroyPlayerReasonHostDestroyedPlayer : DWORD := 4

/-!
## Flags
-/

def dpnidAllPlayersGroup : DPNID := 0

def dpnOpSync : DWORD := 0x80000000

def dpnCancelConnect : DWORD := 0x0001
def dpnCancelEnum : DWORD := 0x0002
def dpnCancelAllOperations : DWORD := 0x8000
def dpnCancelPlayerSends : DWORD := 0x80000000
def dpnCancelPlayerSendsPriorityHigh : DWORD := 0x80010000
def dpnCancelPlayerSendsPriorityNormal : DWORD := 0x80020000
def dpnCancelPlayerSendsPriorityLow : DWORD := 0x80040000

def dpnCloseImmediate : DWORD := 1

def dpnGroupAutodestruct : DWORD := 1

def dpnInfoName : DWORD := 1
def dpnInfoData : DWORD := 2

def dpnPlayerLocal : DWORD := 0x0002
def dpnPlayerHost : DWORD := 0x0004

def dpnReceiveGuaranteed : DWORD := 1
def dpnReceiveCoalesced : DWORD := 2

def dpnSendNoCopy : DWORD := 0x0001
def dpnSendNoComplete : DWORD := 0x0002
def dpnSendCompleteOnProcess : DWORD := 0x0004
def dpnSendGuaranteed : DWORD := 0x0008
def dpnSendNoLoopback : DWORD := 0x0020
def dpnSendPriorityLow : DWORD := 0x0040
def dpnSendPriorityHigh : DWORD := 0x0080
def dpnSendCoalesce : DWORD := 0x0100

def dpnSessionClientServer : DWORD := 0x0001
def dpnSessionNoDpnsvr : DWORD := 0x0040
def dpnSessionRequirePassword : DWORD := 0x0080

def hasFlag (flags flag : DWORD) : Bool := flags &&& flag != 0

/-!
## Packet types
-/

def msgidHostEnumRequest : UInt32 := 1
def msgidHostEnumResponse : UInt32 := 2
def msgidConnectHost : UInt32 := 3
def msgidConnectHostOk : UInt32 := 4
def msgidConnectHostFail : UInt32 := 5
def msgidMessage : UInt32 := 6
def msgidPlayerinfo : UInt32 := 7
def msgidAck : UInt32 := 8
def msgidAppdesc : UInt32 := 9
def msgidConnectPeer : UInt32 := 10
def msgidConnectPeerOk : UInt32 := 11
def msgidConnectPeerFail : UInt32 := 12
def msgidDestroyPeer : UInt32 := 13
def msgidTerminateSession : UInt32 := 14
def msgidGroupAllocate : UInt32 := 15
def msgidGroupCreate : UInt32 := 16
def msgidGroupDestroy : UInt32 := 17
def msgidGroupJoin : UInt32 := 18
def msgidGroupJoined : UInt32 := 19
def msgidGroupLeave : UInt32 := 20
def msgidGroupLeft : UInt32 := 21

/-!
## Socket codes
-/

def wsaEWouldBlock : DWORD := 10035

def maxPacketSize : Nat := 256 * 1024

end DirectPlayLite
