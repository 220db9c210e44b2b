import EmbeddedPus.Process
import EmbeddedPus.Service3
import EmbeddedPus.Service5

namespace EmbeddedPus.Obc

open CallTrace ByteOrder

/-- The static variables of the example, and the lines it has printed for the UART. -/
structure Statics where
  t : UInt32
  gBattAlertMv : UInt16
  uart : List String
  deriving DecidableEq, Repr

abbrev App (α : Type) := Pus .default Statics α

abbrev obcSourceId : UInt16 := 0x0001
abbrev groundDestId : UInt16 := 0x0010
abbrev sidPowerHk : UInt16 := 0x0001
abbrev sidThermalHk : UInt16 := 0x0002
abbrev evidModeNominal : UInt16 := 0x0101
abbrev evidBatteryLow : UInt16 := 0x0201
abbrev pidBattAlertMv : UInt16 := 0x0001
abbrev pusSubtypeEventInfo : UInt8 := 1
abbrev pusSubtypeEventHighSeverity : UInt8 := 4

section Addresses

abbrev gPus : Ptr := 1
abbrev gS3 : Ptr := 2
abbrev gS20 : Ptr := 3
abbrev tmSinkPtr : Ptr := 4
abbrev platformUptimeSecondsPtr : Ptr := 5
abbrev getterBattAlertPtr : Ptr := 6
abbrev setterBattAlertPtr : Ptr := 7
abbrev hkPowerProviderPtr : Ptr := 8
abbrev hkThermalProviderPtr : Ptr := 9

end Addresses

def onApp (f : Statics → Statics) (w : World .default Statics) : World .default Statics :=
  { w with app := f w.app }

@[simp] theorem onApp_ctx (f : Statics → Statics) (w : World .default Statics) :
    (onApp f w).ctx = w.ctx := rfl

@[simp] theorem onApp_s3 (f : Statics → Statics) (w : World .default Statics) :
    (onApp f w).s3 = w.s3 := rfl

@[simp] theorem onApp_s20 (f : Statics → Statics) (w : World .default Statics) :
    (onApp f w).s20 = w.s20 := rfl

@[simp] theorem onApp_app (f : Statics → Statics) (w : World .default Statics) :
    (onApp f w).app = f w.app := rfl

def updateApp (f : Statics → Statics) : App Unit := Prog.modify (onApp f)

def platformUptimeSeconds : App UInt32 := do
  let t := (← Prog.get).app.t
  updateApp fun a ↦ { a with t := t + 1 }
  pure t

def platformReadTemperatureC10 : App Int16 := pure 235

def platformReadBatteryMv : App UInt16 := pure 7400

/-- A byte as `%02X ` prints it. -/
def hexByte (b : UInt8) : String :=
  .leftpad 2 '0' (.ofList ((Nat.toDigits 16 b.toNat).map Char.toUpper)) ++ " "

/-- The line that stands for a packet: its length, and no more than sixteen of its bytes. -/
def uartLine (data : List UInt8) : String :=
  "[TM " ++ .leftpad 3 ' ' (toString data.length) ++ " bytes] " ++
    .join ((data.take 16).map hexByte) ++ (if data.length > 16 then "..." else "") ++ "\n"

example : uartLine (0x1F :: List.replicate 16 0) =
    "[TM  17 bytes] 1F 00 00 00 00 00 00 00 00 00 00 00 00 00 00 00 ...\n" := by
  decide +kernel

def platformUartSend (data : List UInt8) : App Unit :=
  updateApp fun a ↦ { a with uart := a.uart ++ [uartLine data] }

def tmSink (data : List UInt8) : App Status := do
  platformUartSend data
  pure .ok

def getterBattAlert : App Got := do
  let mv := (← Prog.get).app.gBattAlertMv
  pure ⟨.ok, split16 mv⟩

def setterBattAlert (buf : List UInt8) : App Status := do
  updateApp fun a ↦ { a with gBattAlertMv := join16 (buf.getD 0 0) (buf.getD 1 0) }
  pure .ok

def hkPowerProvider : App Provided := do
  let mv ← platformReadBatteryMv
  pure ⟨.ok, split16 mv, 2⟩

def hkThermalProvider : App Provided := do
  let temp ← platformReadTemperatureC10
  pure ⟨.ok, split16 temp.toUInt16, 2⟩

/-- The functions behind the pointers that the example hands to the library. -/
def callbacks : Callbacks .default Statics where
  handler _ _ _ _ := pure .ok
  tmSink _ _ data := tmSink data
  timeSource _ _ := platformUptimeSeconds
  provider f _ _ _ := if f = hkPowerProviderPtr then hkPowerProvider else hkThermalProvider
  getter _ _ _ _ := getterBattAlert
  setter _ _ buf _ _ := setterBattAlert buf

def pusAppInit : App Unit := do
  let _ ← pusInitWithConfig (some gPus)
    (some ⟨obcSourceId, groundDestId, some tmSinkPtr, 0, some platformUptimeSecondsPtr, 0⟩)
  let _ ← pusService17RegisterHandlers (some gPus)
  let _ ← pusService3Init (some gS3)
  let _ ← pusService3RegisterHk (some gS3) sidPowerHk (some hkPowerProviderPtr) 0
  let _ ← pusService3RegisterHk (some gS3) sidThermalHk (some hkThermalProviderPtr) 0
  let _ ← pusService20Init (some gS20)
  let _ ← pusService20RegisterParam (some gS20) pidBattAlertMv 2 (some getterBattAlertPtr)
    (some setterBattAlertPtr) 0
  let _ ← pusService20RegisterHandlers (some gPus) (some gS20)
  let _ ← pusService5Emit callbacks (some gPus) pusSubtypeEventInfo evidModeNominal none 0

def pusAppSendHousekeeping : App Unit := do
  let _ ← pusService3EmitHk callbacks (some gPus) (some gS3) sidThermalHk
  let _ ← pusService3EmitHk callbacks (some gPus) (some gS3) sidPowerHk
  let mv ← platformReadBatteryMv
  if mv < (← Prog.get).app.gBattAlertMv then
    let mv ← platformReadBatteryMv
    let _ ← pusService5Emit callbacks (some gPus) pusSubtypeEventHighSeverity evidBatteryLow
      (some (split16 mv)) 2

def pusAppReceiveTc (raw : List UInt8) (len : UInt16) : App Unit := do
  let _ ← pusTcProcess callbacks (some gPus) (some raw) len

/-- The statics when the program starts. The stack holds what it holds. -/
def boot (stack : ℕ → UInt8) : World .default Statics :=
  { World.cleared ⟨0, 6800, []⟩ with stack }

def tc171 : List UInt8 := [0x10, 17, 1, 0x00, 0x10, 0x00, 0x00, 0x00, 0x00, 0x00]

def tc201 : List UInt8 :=
  [0x10, 20, 1, 0x00, 0x10, 0x00, 0x00, 0x00, 0x00, 0x00, 0x01, 0x00, 0x01]

def tc203 : List UInt8 :=
  [0x1F, 20, 3, 0x00, 0x10, 0x00, 0x00, 0x00, 0x00, 0x00, 0x01, 0x00, 0x01, 0x1B, 0x58]

def main : App UInt32 := do
  pusAppInit
  pusAppSendHousekeeping
  pusAppReceiveTc tc171 10
  pusAppReceiveTc tc201 13
  pusAppReceiveTc tc203 15
  pusAppSendHousekeeping
  pure 0

end EmbeddedPus.Obc
