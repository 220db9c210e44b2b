import EmbeddedPus.Library.CallTrace

namespace EmbeddedPus

/-- An address. A pointer that is checked against `NULL` is an `Option`; user data, `NULL` or not, is
passed on as it is. -/
abbrev Ptr := Nat

inductive Status
  | ok
  | null
  | badLength
  | badVersion
  | badService
  | noHandler
  | handlerFailed
  | bufferTooSmall
  | tableFull
  deriving DecidableEq, Repr

def Status.code : Status → UInt16
  | .ok => 0
  | .null => 1
  | .badLength => 2
  | .badVersion => 3
  | .badService => 4
  | .noHandler => 5
  | .handlerFailed => 6
  | .bufferTooSmall => 7
  | .tableFull => 8

/-- The compile-time options of `pus_config.h`. The bounds keep the payload arrays from being empty,
every length computed from an option inside sixteen bits, and every scan of a table inside the
range of its loop index. -/
structure Config where
  maxTcHandlers : Nat
  maxTmPayloadLen : Nat
  service3MaxStructures : Nat
  service20MaxParams : Nat
  handlers_lt : maxTcHandlers < 65536
  payload_pos : 0 < maxTmPayloadLen
  payload_le : maxTmPayloadLen ≤ 65523
  structures_lt : service3MaxStructures < 256
  params_lt : service20MaxParams < 256

def Config.default : Config where
  maxTcHandlers := 16
  maxTmPayloadLen := 256
  service3MaxStructures := 8
  service20MaxParams := 16
  handlers_lt := by decide
  payload_pos := by decide
  payload_le := by decide
  structures_lt := by decide
  params_lt := by decide

abbrev pusVersion : UInt8 := 1
abbrev pusTcSecHeaderLen : UInt16 := 10
abbrev pusTmSecHeaderLen : UInt16 := 12

abbrev pusServiceRequestVerification : UInt8 := 1
abbrev pusServiceHousekeeping : UInt8 := 3
abbrev pusServiceEventReporting : UInt8 := 5
abbrev pusServiceTest : UInt8 := 17
abbrev pusServiceParameterManagement : UInt8 := 20

abbrev pusSubtypeVerificationAcceptanceSuccess : UInt8 := 1
abbrev pusSubtypeVerificationStartSuccess : UInt8 := 3
abbrev pusSubtypeVerificationCompletionSuccess : UInt8 := 7
abbrev pusSubtypeVerificationCompletionFailure : UInt8 := 8
abbrev pusSubtypeVerificationRoutingFailure : UInt8 := 10
abbrev pusSubtypeHousekeepingParameterReport : UInt8 := 25
abbrev pusSubtypeHousekeepingDiagnosticReport : UInt8 := 26
abbrev pusSubtypeTestAreYouAlive : UInt8 := 1
abbrev pusSubtypeTestAreYouAliveReport : UInt8 := 2
abbrev pusSubtypeTestOnBoardConnection : UInt8 := 3
abbrev pusSubtypeTestOnBoardConnectionReport : UInt8 := 4
abbrev pusSubtypeParameterReportValues : UInt8 := 1
abbrev pusSubtypeParameterValueReport : UInt8 := 2
abbrev pusSubtypeParameterSetValues : UInt8 := 3

abbrev pusAckAcceptance : UInt8 := 0x08
abbrev pusAckStart : UInt8 := 0x04
abbrev pusAckCompletion : UInt8 := 0x01

structure TmSecHeader where
  version : UInt8
  timeRefStatus : UInt8
  serviceTypeId : UInt8
  subtypeId : UInt8
  msgTypeCounter : UInt16
  destinationId : UInt16
  time : UInt32
  spare : UInt8
  deriving DecidableEq, Repr

structure TcSecHeader where
  version : UInt8
  ackFlags : UInt8
  serviceTypeId : UInt8
  subtypeId : UInt8
  sourceId : UInt16
  time : UInt32
  spare : UInt8
  deriving DecidableEq, Repr

/-- `pus_tc_packet_t`. The payload pointer is seen as the bytes from it to the end of the buffer it
borrows from. -/
structure TcPacket where
  secHeader : TcSecHeader
  payload : List UInt8
  payloadLen : UInt16
  deriving DecidableEq, Repr

/-- A packet declared and not yet filled in; the decoder stores before anything reads it. -/
def TcPacket.fresh : TcPacket := ⟨⟨0, 0, 0, 0, 0, 0, 0⟩, [], 0⟩

/-- The functions a handler pointer can hold: the four of the library, or one of the user's. -/
inductive TcHandler
  | handleTc17_1
  | handleTc17_3
  | handleTc20_1
  | handleTc20_3
  | user (f : Ptr)
  deriving DecidableEq, Repr

structure HandlerEntry where
  service : UInt8
  subtype : UInt8
  handler : TcHandler
  userData : Ptr
  isUsed : Bool
  deriving DecidableEq, Repr

/-- An entry of a table cleared by `memset`. -/
def HandlerEntry.zero : HandlerEntry := ⟨0, 0, .user 0, 0, false⟩

abbrev HandlerTable (n : Nat) := Fin n → HandlerEntry

structure PusConfig where
  defaultSourceId : UInt16
  defaultDestinationId : UInt16
  tmSink : Option Ptr
  tmSinkUserData : Ptr
  timeSource : Option Ptr
  timeSourceUserData : Ptr

structure Context (cfg : Config) where
  handlerTable : HandlerTable cfg.maxTcHandlers
  tmCounter : UInt16
  defaultSourceId : UInt16
  defaultDestinationId : UInt16
  tmSink : Option Ptr
  tmSinkUserData : Ptr
  timeSource : Option Ptr
  timeSourceUserData : Ptr

structure HkEntry where
  sid : UInt16
  kind : UInt8
  provider : Ptr
  userData : Ptr
  isUsed : Bool
  deriving DecidableEq, Repr

def HkEntry.zero : HkEntry := ⟨0, 0, 0, 0, false⟩

abbrev Service3Ctx (cfg : Config) := Fin cfg.service3MaxStructures → HkEntry

structure ParamEntry where
  paramId : UInt16
  valueLen : UInt16
  getter : Ptr
  setter : Option Ptr
  userData : Ptr
  isUsed : Bool
  deriving DecidableEq, Repr

def ParamEntry.zero : ParamEntry := ⟨0, 0, 0, none, 0, false⟩

abbrev Service20Ctx (cfg : Config) := Fin cfg.service20MaxParams → ParamEntry

/-- Everything a call of the library can reach: the contexts, the ST[03] and ST[20] tables, the
bytes an uninitialised local array happens to hold, and the application's own state. -/
structure World (cfg : Config) (A : Type) where
  ctx : Ptr → Context cfg
  s3 : Ptr → Service3Ctx cfg
  s20 : Ptr → Service20Ctx cfg
  stack : Nat → UInt8
  app : A

/-- What the library itself does and a trace records: a packet built for a context, and a read of
the payload of the TC in hand. -/
inductive Act
  | packet (ctx : Ptr) (bytes : List UInt8)
  | read (index : Nat)
  deriving DecidableEq, Repr

/-- The calls the library makes through function pointers, with what they returned. A handler call
carries the dispatch table as it stood when the call was made. An offset is the place of the
buffer handed over inside the payload it is a part of. -/
inductive Call (cfg : Config)
  | handler (ctx : Ptr) (handler : TcHandler) (userData : Ptr) (tc : TcPacket)
      (table : HandlerTable cfg.maxTcHandlers) (st : Status)
  | tmSink (ctx sink userData : Ptr) (data : List UInt8) (st : Status)
  | timeSource (ctx source userData : Ptr) (time : UInt32)
  | provider (provider userData : Ptr) (sid capacity : UInt16) (st : Status)
      (bytes : List UInt8) (outLen : UInt16)
  | getter (getter userData : Ptr) (paramId : UInt16) (off : Nat) (capacity : UInt16)
      (st : Status) (bytes : List UInt8)
  | setter (setter userData : Ptr) (paramId : UInt16) (off : Nat) (len : UInt16)
      (buf : List UInt8) (st : Status)

abbrev History (cfg : Config) := CallTrace.Trace Act (Call cfg)

abbrev Pus (cfg : Config) (A α : Type) := CallTrace.Prog (World cfg A) Act (Call cfg) α

/-- What a getter does: its status, and the bytes it wrote from the start of its buffer. -/
structure Got where
  st : Status
  bytes : List UInt8

/-- What an HK provider does: as a getter, and the length it stored. -/
structure Provided where
  st : Status
  bytes : List UInt8
  outLen : UInt16

structure Callbacks (cfg : Config) (A : Type) where
  handler : Ptr → Ptr → TcPacket → Ptr → Pus cfg A Status
  tmSink : Ptr → Ptr → List UInt8 → Pus cfg A Status
  timeSource : Ptr → Ptr → Pus cfg A UInt32
  provider : Ptr → UInt16 → UInt16 → Ptr → Pus cfg A Provided
  getter : Ptr → UInt16 → UInt16 → Ptr → Pus cfg A Got
  setter : Ptr → UInt16 → List UInt8 → UInt16 → Ptr → Pus cfg A Status

end EmbeddedPus
